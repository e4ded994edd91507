import RuneTerminal.Conversation.Calls
import RuneTerminal.Conversation.Effects

/-! Every request that has messages of its own is the only one to change them. So the stored content
of a streamed message is what its own deltas made of it. -/

namespace RuneTerminal.Conversation

open Go.Strings Kit List Request Database Conversation.System

def CallState.ownIDs : CallState → List String
  | .appending _ messages _ => messages.map Message.id
  | .streaming _ messageID _ => [messageID]
  | _ => []

/-- Where a request stands fits the tables: what it will append is not there yet, and what it
streams is there with the deltas so far, or its conversation is gone. -/
def CallFits (minted : List String) (db : Database) : CallState → Prop
  | .appending _ messages next =>
    (messages.map Message.id).Nodup ∧
      (∀ message ∈ messages, message.id ∈ minted ∧ db.stored message.id = none) ∧
      ∀ messageID, next = .stream messageID → Database.shown messages messageID = some ""
  | .streaming conversationID messageID deltas =>
    messageID ∈ minted ∧ conversationID ∈ minted ∧
      (db.stored messageID = some (conversationID, String.join deltas) ∨
        (db.stored messageID = none ∧ conversationID ∉ db.conversationIDs))
  | _ => True

structure Sound (s : System) : Prop where
  synced : Synced s.store
  rows : ∀ messageID entry, s.store.db.stored messageID = some entry →
    messageID ∈ s.minted ∧ entry.1 ∈ s.minted
  conversations : ∀ conversationID ∈ s.store.db.conversationIDs,
    conversationID ∈ s.minted ∧ CleanID conversationID
  calls : ∀ call, CallFits s.minted s.store.db (s.calls call)
  apart : ∀ call other, call ≠ other →
    ∀ messageID ∈ (s.calls call).ownIDs, messageID ∉ (s.calls other).ownIDs

section

variable {s next : System} {state : CallState} {activeID id : String} {now : Nat}
  {completion : Completion} {changed : String → Prop} {fresh : List String} {times : List Nat}
  {messages : List Message} {request : Request}

theorem CallFits.own_minted (fits : CallFits s.minted s.store.db state) {messageID : String}
    (own : messageID ∈ state.ownIDs) : messageID ∈ s.minted := by
  cases state with
  | appending id messages following =>
    obtain ⟨message, mem, rfl⟩ := mem_map.mp own
    exact (fits.2.1 message mem).1
  | streaming id streamID deltas =>
    rw [mem_singleton.mp own]
    exact fits.1
  | absent | completing | finished => cases own

theorem CallFits.kept (fits : CallFits s.minted s.store.db state)
    (effect : Effect s.store next.store changed fresh)
    (untouched : ∀ messageID ∈ state.ownIDs, ¬ changed messageID)
    (minted : ∀ newID ∈ s.minted, newID ∈ next.minted)
    (isFresh : ∀ newID ∈ fresh, newID ∉ s.minted) : CallFits next.minted next.store.db state := by
  cases state with
  | appending id messages following =>
    obtain ⟨nodup, unstored, streamed⟩ := fits
    refine ⟨nodup, ?_, streamed⟩
    intro message mem
    refine ⟨minted _ (unstored message mem).1, ?_⟩
    rcases effect.kept _ (untouched _ (mem_map_of_mem mem)) with same | ⟨gone, _⟩
    · rw [same, (unstored message mem).2]
    · exact gone
  | streaming id messageID deltas =>
    obtain ⟨messageMinted, conversationMinted, content⟩ := fits
    refine ⟨minted _ messageMinted, minted _ conversationMinted, ?_⟩
    have stays : id ∉ s.store.db.conversationIDs →
        id ∉ next.store.db.conversationIDs := by
      intro gone mem
      rcases effect.conversationIDs _ mem with old | new
      · exact gone old
      · exact isFresh _ new conversationMinted
    have kept := effect.kept messageID (untouched _ mem_cons_self)
    rcases content with isStored | ⟨unstored, gone⟩
    · rcases kept with same | ⟨deleted, removed⟩
      · exact .inl (same.trans isStored)
      · exact .inr ⟨deleted, removed _ isStored⟩
    refine .inr ⟨?_, stays gone⟩
    rcases kept with same | ⟨deleted, _⟩
    · exact same.trans unstored
    · exact deleted
  | absent | completing | finished => trivial

variable {newIDs : List String}

theorem Sound.next_call {changed : String → Prop} {fresh : List String} (sound : Sound s)
    (effect : Effect s.store next.store changed fresh) (minted : next.minted = newIDs ++ s.minted)
    (isNew : ∀ newID ∈ newIDs, s.Fresh newID) (isFresh : ∀ newID ∈ fresh, newID ∈ newIDs)
    (changedMinted : ∀ id, changed id → id ∈ next.minted) (call : Nat)
    (others : ∀ other, other ≠ call →
      next.calls other = s.calls other ∧ ∀ id ∈ (s.calls other).ownIDs, ¬ changed id)
    (fits : CallFits next.minted next.store.db (next.calls call))
    (own : ∀ id ∈ (next.calls call).ownIDs, id ∈ (s.calls call).ownIDs ∨ id ∈ newIDs) :
    Sound next := by
  have keeps : ∀ newID ∈ s.minted, newID ∈ next.minted := by
    intro newID mem
    rw [minted]
    exact mem_append_right _ mem
  have foreign : ∀ other, other ≠ call → ∀ id ∈ (next.calls call).ownIDs,
      id ∉ (s.calls other).ownIDs := by
    intro other ne id isOwn isOther
    rcases own id isOwn with old | new
    · exact sound.apart other call ne id isOther old
    · exact (isNew id new).2 ((sound.calls other).own_minted isOther)
  refine ⟨effect.synced, ?_, ?_, ?_, ?_⟩
  · intro id entry isStored
    rcases effect.rows id entry isStored with ⟨before, old, same⟩ | ⟨isChanged, home⟩
    · obtain ⟨messageMinted, homeMinted⟩ := sound.rows id before old
      exact ⟨keeps _ messageMinted, same ▸ keeps _ homeMinted⟩
    · exact ⟨changedMinted id isChanged, keeps _ (sound.conversations _ home).1⟩
  · intro conversationID mem
    rcases effect.conversationIDs conversationID mem with old | new
    · obtain ⟨isMinted, clean⟩ := sound.conversations conversationID old
      exact ⟨keeps _ isMinted, clean⟩
    · rw [minted]
      exact ⟨mem_append_left _ (isFresh _ new), (isNew _ (isFresh _ new)).1⟩
  · intro other
    by_cases same : other = call
    · rw [same]
      exact fits
    obtain ⟨unmoved, untouched⟩ := others other same
    rw [unmoved]
    exact (sound.calls other).kept effect untouched keeps
      fun newID isFreshID => (isNew _ (isFresh _ isFreshID)).2
  intro first second ne id isFirst isSecond
  by_cases firstIsCall : first = call
  · subst firstIsCall
    rw [(others second ne.symm).1] at isSecond
    exact foreign second ne.symm id isFirst isSecond
  rw [(others first firstIsCall).1] at isFirst
  by_cases secondIsCall : second = call
  · subst secondIsCall
    exact foreign first ne id isSecond isFirst
  · rw [(others second secondIsCall).1] at isSecond
    exact sound.apart first second ne id isFirst isSecond

theorem Sound.next_quiet (sound : Sound s)
    (effect : Effect s.store next.store (fun _ => False) fresh)
    (minted : next.minted = newIDs ++ s.minted) (isNew : ∀ newID ∈ newIDs, s.Fresh newID)
    (isFresh : ∀ newID ∈ fresh, newID ∈ newIDs) (calls : next.calls = s.calls) : Sound next := by
  refine sound.next_call effect minted isNew isFresh (fun _ => False.elim) 0 ?_ ?_ ?_
  · intro other _
    rw [calls]
    exact ⟨rfl, fun _ _ => id⟩
  · rw [calls]
    apply (sound.calls 0).kept effect (fun _ _ => id)
    · intro newID mem
      rw [minted]
      exact mem_append_right _ mem
    · intro newID isFreshID
      exact (isNew _ (isFresh _ isFreshID)).2
  · rw [calls]
    exact fun _ => .inl

theorem prepared_ids {requests : List AppendMessageRequest}
    (count : newIDs.length = requests.length)
    (prepared : prepareMessages requests newIDs times = .ok messages) :
    messages.map Message.id = newIDs := by
  unfold prepareMessages at prepared
  split_ifs at prepared
  cases prepared
  rw [map_map]
  change (requests.zip newIDs).zipIdx.map (Prod.snd ∘ Prod.fst) = newIDs
  rw [← map_map, zipIdx_map_fst]
  exact map_snd_zip (by omega)

variable {conversationID : String}

theorem start_appending {following : Continuation} (count : newIDs.length = request.idCount)
    (nodup : newIDs.Nodup)
    (starts : request.start activeID newIDs times = .appending conversationID messages following) :
    messages.map Message.id = newIDs ∧
    ∀ id, following = .stream id → Database.shown messages id = some "" := by
  cases request with
  | submit prompt systemPrompt attachments =>
    obtain ⟨newID, rfl⟩ := length_eq_one_iff.mp count
    simp only [start] at starts
    split_ifs at starts
    cases starts
    exact ⟨rfl, by simp⟩
  | submitStream prompt systemPrompt attachments info =>
    obtain ⟨userID, assistantID, rfl⟩ := length_eq_two.mp count
    simp only [start] at starts
    split_ifs at starts
    cases starts
    refine ⟨rfl, ?_⟩
    rintro id ⟨⟩
    have ne : userID ≠ assistantID := by simpa using nodup
    simp [shown, newMessage, ne]
  | appendAssistantPrompt prompt systemPrompt =>
    simp only [start] at starts
    split_ifs at starts
  | appendMessages requests =>
    simp only [start] at starts
    split_ifs at starts
    split at starts
    · cases starts
    next prepared isPrepared =>
      cases starts
      exact ⟨prepared_ids count isPrepared, by simp⟩

theorem start_not_streaming {deltas : List String} :
    request.start activeID newIDs times ≠ .streaming conversationID id deltas := by
  cases request with
  | submit | submitStream | appendAssistantPrompt =>
    simp only [start]
    split_ifs <;> simp
  | appendMessages requests =>
    simp only [start]
    split_ifs
    · simp
    · split <;> simp

variable {call : Nat}

theorem begin_sound (sound : Sound s) (count : newIDs.length = request.idCount)
    (nodup : newIDs.Nodup) (isNew : ∀ newID ∈ newIDs, s.Fresh newID) :
    Sound
      ({ s with minted := newIDs ++ s.minted }.setCall call
        (request.start s.store.active.id newIDs times)) := by
  refine sound.next_call (.refl sound.synced (fun _ => False) []) rfl isNew (by simp)
    (fun _ => False.elim) call ?_ ?_ ?_
  · intro other ne
    exact ⟨set_call_other _ ne _, fun _ _ => id⟩
  · rw [set_call_same]
    cases starts : request.start s.store.active.id newIDs times with
    | appending conversationID messages following =>
      obtain ⟨sameIDs, streamed⟩ := start_appending count nodup starts
      refine ⟨sameIDs ▸ nodup, ?_, streamed⟩
      intro message mem
      have own : message.id ∈ newIDs := sameIDs ▸ mem_map_of_mem mem
      refine ⟨mem_append_left _ own, ?_⟩
      rw [Option.eq_none_iff_forall_ne_some]
      intro entry isStored
      exact (isNew _ own).2 (sound.rows _ _ isStored).1
    | streaming conversationID messageID deltas => exact absurd starts start_not_streaming
    | absent | completing | finished => trivial
  · rw [set_call_same]
    intro messageID own
    cases starts : request.start s.store.active.id newIDs times with
    | appending conversationID messages following =>
      rw [starts] at own
      exact .inr ((start_appending count nodup starts).1 ▸ own)
    | streaming conversationID messageID deltas => exact absurd starts start_not_streaming
    | absent | completing | finished => rw [starts] at own; cases own

theorem quiet_sound {ready : System} {result : Except ConversationError Store} (sound : Sound s)
    (store : ready.store = s.store) (minted : ready.minted = newIDs ++ s.minted)
    (calls : ready.calls = s.calls) (isNew : ∀ newID ∈ newIDs, s.Fresh newID)
    (succeeds : ∀ after, result = .ok after → Effect s.store after (fun _ => False) newIDs) :
    Sound (ready.settle result) := by
  refine sound.next_quiet ?_ minted isNew (fun _ => id) calls
  rw [settle, store]
  cases outcome : result with
  | error err => exact .refl sound.synced _ newIDs
  | ok after => exact succeeds after outcome

theorem call_sound (sound : Sound s) (effect : Effect s.store next.store changed [])
    (minted : next.minted = newIDs ++ s.minted) (calls : next.calls = (s.setCall call state).calls)
    (isNew : ∀ newID ∈ newIDs, s.Fresh newID)
    (own : ∀ id, changed id → id ∈ (s.calls call).ownIDs ∨ id ∈ newIDs)
    (sameIDs : ∀ id ∈ state.ownIDs, id ∈ (s.calls call).ownIDs)
    (fits : CallFits next.minted next.store.db state) : Sound next := by
  refine sound.next_call effect minted isNew (by simp) ?_ call ?_ ?_ ?_
  · intro id isChanged
    rw [minted, mem_append]
    exact (own id isChanged).symm.imp_right (sound.calls call).own_minted
  · intro other ne
    rw [calls]
    refine ⟨set_call_other _ ne state, ?_⟩
    intro id isOther isChanged
    rcases own id isChanged with isOwn | new
    · exact sound.apart other call ne id isOther isOwn
    · exact (isNew id new).2 ((sound.calls other).own_minted isOther)
  · rw [calls, set_call_same]
    exact fits
  · rw [calls, set_call_same]
    exact fun id isOwn => .inl (sameIDs id isOwn)

theorem nothing_new : ∀ newID ∈ ([] : List String), s.Fresh newID := by
  intro newID mem
  cases mem

variable {newID : String}

theorem one_new (isNew : s.Fresh newID) : ∀ other ∈ [newID], s.Fresh other := by
  intro other mem
  rw [mem_singleton.mp mem]
  exact isNew

variable {env : Environment}

theorem append_sound (sound : Sound s) (taken : step env s (.append call) = some next) :
    Sound next := by
  simp only [step] at taken
  split at taken
  next conversationID messages following isCall =>
    have fits := sound.calls call
    rw [isCall] at fits
    obtain ⟨nodup, unstored, streamed⟩ := fits
    have new : ∀ message ∈ messages, s.store.db.stored message.id = none :=
      fun message mem => (unstored message mem).2
    cases outcome : s.store.appendMessagesForConversation env.summarize conversationID
      messages with
    | error err =>
      rw [outcome] at taken
      cases taken
      refine call_sound sound (.refl sound.synced (fun _ => False) []) rfl rfl nothing_new
        (fun _ => False.elim) ?_ ?_
      · intro id mem
        cases mem
      · trivial
    | ok after =>
      rw [outcome] at taken
      obtain ⟨effect, known, inserted⟩ :=
        append_messages_effect sound.synced new nodup outcome
      have own : ∀ id, id ∈ messages.map Message.id →
          id ∈ (s.calls call).ownIDs ∨ id ∈ [] := by
        intro id isChanged
        rw [isCall]
        exact .inl isChanged
      cases taken
      refine call_sound sound effect rfl rfl nothing_new own ?_ ?_
      · intro id mem
        rw [isCall]
        cases following with
        | complete | done => cases mem
        | stream streamID =>
          rw [mem_singleton.mp mem]
          exact mem_of_shown (streamed streamID rfl)
      · cases following with
        | complete | done => trivial
        | stream streamID =>
          obtain ⟨message, mem, rfl⟩ :=
            mem_map.mp (mem_of_shown (streamed streamID rfl))
          exact ⟨(unstored message mem).1, (sound.conversations _ known).1,
            .inl (inserted message.id "" (streamed message.id rfl))⟩
  · cases taken

theorem delta_sound {text : String} (sound : Sound s)
    (taken : step env s (.delta call text now) = some next) :
    Sound next ∧ next.store.db.conversationIDs = s.store.db.conversationIDs := by
  simp only [step] at taken
  split at taken
  next conversationID messageID deltas isCall =>
    split at taken
    · cases taken
    next nonempty =>
      have fits := sound.calls call
      rw [isCall] at fits
      obtain ⟨messageMinted, conversationMinted, content⟩ := fits
      have own : ∀ other, other ∈ [messageID] → other ∈ (s.calls call).ownIDs := by
        rw [isCall]
        exact fun other => id
      rcases content with isStored | ⟨unstored, gone⟩
      · obtain ⟨after, done, effect, extended, conversationIDs⟩ :=
          append_delta_effect now sound.synced nonempty isStored
        rw [done] at taken
        cases taken
        refine ⟨call_sound sound effect rfl rfl nothing_new ?_ own ?_, conversationIDs⟩
        · rintro other rfl
          exact .inl (own other mem_cons_self)
        · refine ⟨messageMinted, conversationMinted, .inl ?_⟩
          rw [String.join, foldl_append]
          exact extended
      · rw [append_delta_gone sound.synced unstored] at taken
        cases taken
        refine ⟨call_sound sound (.refl sound.synced (fun _ => False) []) rfl rfl nothing_new
          (fun _ => False.elim) own ?_, rfl⟩
        exact ⟨messageMinted, conversationMinted, .inr ⟨unstored, gone⟩⟩
  · cases taken

theorem finish_completing_sound {allowSessionUpdate : Bool} (sound : Sound s)
    (isCall : s.calls call = .completing conversationID allowSessionUpdate)
    (taken : step env s (.finish call completion newID now) = some next) :
    Sound next ∧ next.store.db.conversationIDs = s.store.db.conversationIDs := by
  simp only [step, isCall] at taken
  split at taken
  next isNew =>
    have new := one_new isNew
    have nothing : ∀ other ∈ (CallState.finished none).ownIDs,
        other ∈ (s.calls call).ownIDs := by
      intro other mem
      cases mem
    cases outcome : s.store.appendAssistantResult conversationID newID now completion
      allowSessionUpdate with
    | error err =>
      rw [outcome] at taken
      cases taken
      exact ⟨call_sound sound (.refl sound.synced (fun _ => False) []) rfl rfl new
        (fun _ => False.elim) nothing trivial, rfl⟩
    | ok after =>
      rw [outcome] at taken
      cases taken
      have unstored : ∀ entry, s.store.db.stored newID = some entry →
          entry.1 = conversationID :=
        fun entry isStored => absurd (sound.rows _ _ isStored).1 isNew.2
      obtain ⟨effect, _, conversationIDs⟩ := persist_effect sound.synced unstored outcome
      exact ⟨call_sound sound effect rfl rfl new
        (fun other same => .inr (mem_singleton.mpr same)) nothing trivial,
        conversationIDs⟩
  · cases taken

theorem finish_streaming_sound {deltas : List String} (sound : Sound s)
    (isCall : s.calls call = .streaming conversationID id deltas)
    (taken : step env s (.finish call completion newID now) = some next) :
    Sound next ∧ next.store.db.conversationIDs = s.store.db.conversationIDs ∧
      (completion.error.isSome → trimSpace (String.join deltas) ≠ "" →
        next.store.db.stored id = s.store.db.stored id) := by
  simp only [step, isCall] at taken
  have fits := sound.calls call
  rw [isCall] at fits
  obtain ⟨_, _, content⟩ := fits
  have nothing : ∀ other ∈ (CallState.finished none).ownIDs,
      other ∈ (s.calls call).ownIDs := by
    intro other mem
    cases mem
  have own : ∀ entry, s.store.db.stored id = some entry → entry.1 = conversationID := by
    intro entry isStored
    rcases content with sameEntry | ⟨unstored, _⟩
    · rw [isStored] at sameEntry
      cases sameEntry
      rfl
    · rw [isStored] at unstored
      cases unstored
  cases outcome : s.store.finalizeAssistantStreamResult conversationID id completion with
  | error err =>
    rw [outcome] at taken
    cases taken
    exact ⟨call_sound sound (.refl sound.synced (fun _ => False) []) rfl rfl nothing_new
      (fun _ => False.elim) nothing trivial, rfl, fun _ _ => rfl⟩
  | ok after =>
    rw [outcome] at taken
    cases taken
    obtain ⟨assistant, isStored, effect, final, conversationIDs⟩ :=
      finalize_effect sound.synced own outcome
    refine ⟨call_sound sound effect rfl rfl nothing_new ?_ nothing trivial, conversationIDs, ?_⟩
    · rintro other rfl
      rw [isCall]
      exact .inl mem_cons_self
    intro failed nonblank
    have sameContent : assistant.content = String.join deltas := by
      rcases content with streamed | ⟨unstored, _⟩
      · rw [isStored] at streamed
        exact (Prod.mk.inj (Option.some.inj streamed)).2
      · rw [isStored] at unstored
        cases unstored
    rw [isStored]
    rw [finalized_keeps_streamed failed (sameContent ▸ nonblank)] at final
    exact final

theorem finish_sound (sound : Sound s)
    (taken : step env s (.finish call completion newID now) = some next) :
    Sound next ∧ next.store.db.conversationIDs = s.store.db.conversationIDs := by
  cases isCall : s.calls call with
  | completing conversationID allowSessionUpdate =>
    exact finish_completing_sound sound isCall taken
  | streaming conversationID messageID deltas =>
    obtain ⟨after, conversationIDs, _⟩ := finish_streaming_sound sound isCall taken
    exact ⟨after, conversationIDs⟩
  | absent | appending | finished => simp [step, isCall] at taken

theorem Sound.unused (sound : Sound s) (isNew : s.Fresh newID) : Unused s.store.db newID := by
  constructor
  · intro mem
    exact isNew.2 (sound.conversations newID mem).1
  · rintro id entry isStored rfl
    exact isNew.2 (sound.rows id entry isStored).2

theorem step_sound {action : Action} (sound : Sound s) (taken : step env s action = some next) :
    Sound next := by
  have synced := sound.synced
  have clean : ∀ other ∈ s.store.db.conversationIDs, CleanID other :=
    fun other mem => (sound.conversations other mem).2
  cases action with
  | begin call request newIDs times =>
    simp only [step] at taken
    split at taken
    next possible =>
      cases taken
      exact begin_sound sound possible.2.1 possible.2.2.1 possible.2.2.2.1
    · cases taken
  | append call => exact append_sound sound taken
  | delta call text now => exact (delta_sound sound taken).1
  | finish call completion newID now => exact (finish_sound sound taken).1
  | create newID now =>
    simp only [step] at taken
    split at taken
    next isNew =>
      cases taken
      refine quiet_sound sound rfl rfl rfl (one_new isNew) ?_
      intro after done
      cases done
      exact create_conversation_effect synced (sound.unused isNew)
    · cases taken
  | rename id title now =>
    cases taken
    exact quiet_sound sound rfl rfl rfl nothing_new fun after done =>
      modified_effect synced (rename_ok done).2
  | delete id newID now =>
    simp only [step] at taken
    split at taken
    next isNew =>
      cases taken
      exact quiet_sound sound rfl rfl rfl (one_new isNew) fun after done =>
        delete_conversation_effect synced clean (sound.unused isNew) done
    · cases taken
  | archive id newID now =>
    simp only [step] at taken
    split at taken
    next isNew =>
      cases taken
      exact quiet_sound sound rfl rfl rfl (one_new isNew) fun after done =>
        archive_conversation_effect synced (sound.unused isNew) done
    · cases taken
  | restore id now =>
    cases taken
    refine quiet_sound sound rfl rfl rfl nothing_new ?_
    intro after done
    rcases restore_ok done with ⟨rfl, _⟩ | modified
    · exact .refl synced _ []
    · exact modified_effect synced modified
  | updatePreferences id preferences now =>
    cases taken
    exact quiet_sound sound rfl rfl rfl nothing_new fun after done =>
      modified_effect synced (update_preferences_ok done)
  | activate id =>
    cases taken
    exact quiet_sound sound rfl rfl rfl nothing_new fun after done =>
      activate_conversation_effect synced done

theorem System.Initial.sound (isStart : s.Initial) : Sound s := by
  obtain ⟨_, _, memory⟩ := load_state_spec isStart.loaded
  refine ⟨⟨isStart.messageIDs, ?_⟩, ?_, ?_, ?_, ?_⟩
  · intro messageID
    rw [memory, shown_loaded isStart.messageIDs]
  · intro messageID entry isStored
    obtain ⟨row, found, rfl⟩ := Option.map_eq_some_iff.mp isStored
    have same : row.message.id = messageID := by simpa using find?_some found
    exact same ▸ isStart.messagesMinted row (mem_of_find?_eq_some found)
  · intro conversationID mem
    obtain ⟨record, isRecord, rfl⟩ := mem_map.mp mem
    exact isStart.conversationsMinted record isRecord
  · intro call
    rw [isStart.noCalls call]
    trivial
  · intro call other _ messageID mem
    rw [isStart.noCalls call] at mem
    cases mem

theorem sound_of_reachable (reachable : Reachable System.Initial (step env) s) : Sound s :=
  reachable.invariant System.Initial.sound step_sound

/-- The content stored for a streamed message is the concatenation of the deltas of its own stream.
A failure leaves a nonblank part in place, and neither a delta nor the end of a request brings a
conversation back. -/
theorem streams_keep_their_contents {env : Environment} {s : System}
    (reachable : Reachable System.Initial (step env) s) :
    (∀ call conversationID messageID deltas,
      s.calls call = .streaming conversationID messageID deltas →
      s.store.db.stored messageID = some (conversationID, String.join deltas) ∨
        (s.store.db.stored messageID = none ∧ conversationID ∉ s.store.db.conversationIDs)) ∧
    (∀ call conversationID messageID deltas completion newID now next,
      s.calls call = .streaming conversationID messageID deltas →
      trimSpace (String.join deltas) ≠ "" → completion.error.isSome →
      step env s (.finish call completion newID now) = some next →
      next.store.db.stored messageID = s.store.db.stored messageID) ∧
    (∀ call text now next, step env s (.delta call text now) = some next →
      next.store.db.conversationIDs = s.store.db.conversationIDs) ∧
    (∀ call completion newID now next, step env s (.finish call completion newID now) = some next →
      next.store.db.conversationIDs = s.store.db.conversationIDs) := by
  have sound := sound_of_reachable reachable
  refine ⟨?_, ?_, ?_, ?_⟩
  · intro call conversationID messageID deltas isCall
    have fits := sound.calls call
    rw [isCall] at fits
    exact fits.2.2
  · intro call conversationID messageID deltas completion newID now next isCall nonblank failed
      taken
    exact (finish_streaming_sound sound isCall taken).2.2 failed nonblank
  · intro call text now next taken
    exact (delta_sound sound taken).2
  · intro call completion newID now next taken
    exact (finish_sound sound taken).2

theorem streams_keep_their_contents_switched :
    ∃ s, Reachable System.Initial (step ⟨true, trimSpace⟩) s ∧
      s.calls 0 = .streaming "conv_a" "msg_2" ["par", "tial"] ∧
      (s.store.db.stored "msg_2" = some ("conv_a", "partial") ∨
        (s.store.db.stored "msg_2" = none ∧ "conv_a" ∉ s.store.db.conversationIDs)) := by
  have ran : (runActions (step ⟨true, trimSpace⟩) (System.bootstrapped "conv_a" 0)
      [.begin 0 (.submitStream "hi" "help" [] { kind := "codex" }) ["msg_1", "msg_2"] [1, 2],
        .append 0,
        .delta 0 "par" 3, .create "conv_b" 4, .delta 0 "tial" 5]).map (fun s =>
      decide (s.calls 0 = .streaming "conv_a" "msg_2" ["par", "tial"])) = some true := by
    decide
  obtain ⟨s, reachable, isCall⟩ :=
    reachable_of_run (bootstrapped_initial (by decide) 0) ran
  have streaming := of_decide_eq_true isCall
  exact ⟨s, reachable, streaming,
    (streams_keep_their_contents reachable).1 0 "conv_a" "msg_2" ["par", "tial"] streaming⟩

end

end RuneTerminal.Conversation
