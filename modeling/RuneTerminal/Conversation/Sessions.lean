import RuneTerminal.Conversation.Calls

/-! A completion writes the session it returned to its conversation. When it returned none, the
session of the conversation that is active at that moment is carried over. -/

namespace RuneTerminal.Conversation

open Go.Strings Kit List

theorem normalize_session_idempotent (session : ProviderSessionState) :
    normalizeProviderSession (normalizeProviderSession session) =
      normalizeProviderSession session := by
  unfold normalizeProviderSession
  by_cases blank : trimSpace session.providerKind = "" ∨ trimSpace session.id = ""
  · simp [blank]
  · simp [blank]

variable {providerKind : String} {resultSession : Option ProviderSessionState}
  {session : ProviderSessionState}

theorem returned_session_normalized
    (returned : returnedSession providerKind resultSession = some session) :
    normalizeProviderSession session = session := by
  unfold returnedSession at returned
  cases resultSession with
  | none => cases returned
  | some result =>
    obtain ⟨_, same⟩ := Option.ite_none_right_eq_some.mp returned
    obtain rfl := Option.some.inj same
    exact normalize_session_idempotent _

/-- The session of the active conversation does not reach the conversation of the completion: they
are the same, or the completion brought its own, or there is none. -/
def CarriesNothing (active : ConversationRecord) (conversationID : String)
    (completion : Completion) (allowSessionUpdate : Bool) : Prop :=
  active.id = conversationID ∨ normalizeProviderSession active.session = {} ∨
    (allowSessionUpdate = true ∧
      ((returnedSession (trimSpace completion.info.kind) completion.session).isSome ∨
        (normalizeProviderSession active.session).providerKind ≠ trimSpace completion.info.kind))

instance (active : ConversationRecord) (conversationID : String) (completion : Completion)
    (allowSessionUpdate : Bool) :
    Decidable (CarriesNothing active conversationID completion allowSessionUpdate) :=
  inferInstanceAs (Decidable (_ ∨ _ ∨ _ ∧ (_ ∨ _)))

def OwnSession (returned : List (String × ProviderSessionState)) (conversationID : String)
    (session : ProviderSessionState) : Prop :=
  session = {} ∨ (conversationID, session) ∈ returned

variable {returned : List (String × ProviderSessionState)} {id : String}

theorem OwnSession.note (own : OwnSession returned id session) (other : String)
    (completion : Completion) : OwnSession (noteSession other completion returned) id session := by
  unfold noteSession
  split
  · exact own.imp_right (mem_cons_of_mem _)
  · exact own

theorem next_session_none {current : ProviderSessionState}
    (unreturned : returnedSession (trimSpace providerKind) resultSession = none) :
    nextProviderSessionState current providerKind resultSession true =
    if (normalizeProviderSession current).providerKind =
    trimSpace providerKind then normalizeProviderSession current else {} := by
  unfold nextProviderSessionState
  simp only [unreturned]
  by_cases blank : (normalizeProviderSession current).providerKind = ""
  · simp [blank]
  · by_cases same : (normalizeProviderSession current).providerKind = trimSpace providerKind
    · simp [same]
    · simp [blank, same]

variable {completion : Completion}

theorem next_session_own {active : ConversationRecord} {allowSessionUpdate : Bool}
    (normalized : ∀ entry ∈ returned, normalizeProviderSession entry.2 = entry.2)
    (own : OwnSession returned active.id active.session)
    (safe : CarriesNothing active id completion allowSessionUpdate) :
    OwnSession (noteSession id completion returned) id
      (nextProviderSessionState active.session completion.info.kind completion.session
        allowSessionUpdate) := by
  have current : OwnSession returned active.id (normalizeProviderSession active.session) := by
    rcases own with none | isReturned
    · rw [none]
      exact .inl (by decide)
    · rw [normalized _ isReturned]
      exact .inr isReturned
  cases allowSessionUpdate with
  | false =>
    change OwnSession _ _ (normalizeProviderSession active.session)
    apply OwnSession.note
    rcases safe with same | none | ⟨allowed, _⟩
    · exact same ▸ current
    · exact .inl none
    · cases allowed
  | true =>
    cases isReturned : returnedSession (trimSpace completion.info.kind) completion.session with
    | some session =>
      have taken : nextProviderSessionState active.session completion.info.kind
          completion.session true = session := by
        simp [nextProviderSessionState, isReturned]
      rw [taken, noteSession, isReturned]
      exact .inr mem_cons_self
    | none =>
      rw [next_session_none isReturned]
      apply OwnSession.note
      split_ifs with sameKind
      · rcases safe with same | none | ⟨_, brought | otherKind⟩
        · exact same ▸ current
        · exact .inl none
        · rw [isReturned] at brought
          cases brought
        · exact absurd sameKind otherKind
      · exact .inl rfl

theorem note_session_normalized
    (normalized : ∀ entry ∈ returned, normalizeProviderSession entry.2 = entry.2) (id : String)
    (completion : Completion) : ∀ entry ∈
    noteSession id completion returned, normalizeProviderSession entry.2 = entry.2 := by
  unfold noteSession
  split
  next session isReturned =>
    intro entry mem
    rcases mem_cons.mp mem with rfl | old
    · exact returned_session_normalized isReturned
    · exact normalized entry old
  · exact normalized

structure Isolated (returned : List (String × ProviderSessionState)) (s : Store) : Prop where
  records : ∀ record ∈ s.db.conversations, OwnSession returned record.id record.session
  active : OwnSession returned s.active.id s.active.session

variable {newID : String} {now : Nat}

section

variable {s next : Store} {conversationID : String} {db : Database} {record : ConversationRecord}
  {messages : List Message}

theorem update_records
    (records : ∀ stored ∈ db.conversations, OwnSession returned stored.id stored.session)
    (own : OwnSession returned record.id record.session) : ∀ stored ∈
    (db.updateConversation record).conversations, OwnSession returned stored.id stored.session := by
  intro stored mem
  obtain ⟨before, isStored, rfl⟩ := mem_map.mp mem
  split_ifs
  · exact own
  · exact records before isStored

theorem insert_records
    (records : ∀ stored ∈ db.conversations, OwnSession returned stored.id stored.session) :
    ∀ stored ∈ (db.insertConversation (newConversationRecord newID now)).conversations,
    OwnSession returned stored.id stored.session := by
  intro stored mem
  rcases mem_append.mp mem with old | new
  · exact records stored old
  · rw [mem_singleton.mp new]
    exact .inl rfl

theorem Isolated.reload (isolated : Isolated returned s)
    (tables : next.db = db.updateConversation record)
    (conversations : db.conversations = s.db.conversations)
    (reloads : Reloads s next record messages)
    (own : OwnSession returned record.id record.session) : Isolated returned next := by
  constructor
  · rw [tables]
    apply update_records _ own
    rw [conversations]
    exact isolated.records
  rcases reloads with ⟨_, active, _⟩ | ⟨_, active, _⟩
  · rw [active]
    exact own
  · rw [active]
    exact isolated.active

theorem modified_isolated (isolated : Isolated returned s)
    (modified : Modified s next conversationID now) : Isolated returned next := by
  obtain ⟨before, record, held, _, ⟨sameID, sameSession, _⟩, tables, reloads⟩ := modified
  refine isolated.reload tables rfl reloads ?_
  rw [sameID, sameSession]
  exact isolated.records before held.mem

theorem TakesOver.isolated {before : Database} {candidate : Option String}
    (taken : TakesOver db before candidate record messages newID)
    (records : ∀ stored ∈ before.conversations, OwnSession returned stored.id stored.session) :
    (∀ stored ∈ db.conversations, OwnSession returned stored.id stored.session) ∧
    OwnSession returned record.id record.session := by
  rcases taken with ⟨rfl, _, held, _⟩ | ⟨now, rfl, rfl, _⟩
  · exact ⟨records, records record held.mem⟩
  · exact ⟨insert_records records, .inl rfl⟩

theorem delete_conversation_isolated {cascade : Bool} (isolated : Isolated returned s)
    (done : s.deleteConversation cascade conversationID newID now = .ok next) :
    Isolated returned next := by
  have kept : ∀ {db : Database},
      (∀ stored ∈ db.conversations, OwnSession returned stored.id stored.session) →
      ∀ stored ∈ (db.deleteConversation cascade (trimSpace conversationID)).conversations,
        OwnSession returned stored.id stored.session :=
    fun records stored mem => records stored (mem_of_mem_filter mem)
  obtain ⟨_, outcome⟩ := delete_conversation_ok done
  rcases outcome with ⟨_, rfl⟩ | ⟨db, record, messages, taken, tables, active, _⟩
  · exact ⟨kept isolated.records, isolated.active⟩
  obtain ⟨records, own⟩ := taken.isolated isolated.records
  refine ⟨?_, active ▸ own⟩
  rw [tables]
  exact kept records

theorem archive_conversation_isolated (isolated : Isolated returned s)
    (done : s.archiveConversation conversationID newID now = .ok next) :
    Isolated returned next := by
  rcases archive_ok done with rfl | ⟨record, held, _, outcome⟩
  · exact isolated
  have archived : ∀ stored ∈ (s.db.updateConversation { record with
      archivedAt := some now, updatedAt := now }).conversations,
      OwnSession returned stored.id stored.session :=
    update_records isolated.records (isolated.records record held.mem)
  rcases outcome with ⟨_, rfl⟩ | ⟨db, follower, messages, taken, tables, active, _⟩
  · exact ⟨archived, isolated.active⟩
  obtain ⟨records, own⟩ := taken.isolated archived
  refine ⟨?_, active ▸ own⟩
  rw [tables]
  exact records

theorem activate_conversation_isolated (isolated : Isolated returned s)
    (done : s.activateConversation conversationID = .ok next) : Isolated returned next := by
  obtain ⟨record, held, active, _, tables⟩ := activate_ok done
  refine ⟨?_, active ▸ isolated.records record held.mem⟩
  rw [tables]
  exact isolated.records

theorem append_messages_isolated {summarize : String → String} (isolated : Isolated returned s)
    (done : s.appendMessagesForConversation summarize conversationID messages = .ok next) :
    Isolated returned next := by
  obtain ⟨record, ⟨before, held, sameID, sameSession, _⟩, _, tables, reloads⟩ :=
    append_messages_ok done
  refine isolated.reload tables rfl reloads ?_
  rw [sameID, sameSession]
  exact isolated.records before held.mem

theorem append_delta_isolated {delta : String} (isolated : Isolated returned s)
    (done : s.appendAssistantDelta conversationID id delta now = .ok next) :
    Isolated returned next := by
  obtain ⟨_, _, _, rfl⟩ := append_delta_ok done
  exact ⟨isolated.records, isolated.active⟩

theorem persist_isolated {assistant : Message} {nextSession : ProviderSessionState}
    (isolated : Isolated returned s) (own : OwnSession returned conversationID nextSession)
    (done : s.persistAssistantFinalization conversationID assistant nextSession = .ok next) :
    Isolated returned next := by
  obtain ⟨record, before, _, rfl, _, rfl, _, _, outcome⟩ := finalization_ok done
  rcases outcome with ⟨_, tables, reloads⟩ | ⟨_, tables, reloads⟩
  · exact isolated.reload tables rfl reloads own
  · exact isolated.reload tables rfl reloads own

end

def sessionSafe (s : System) : Action → Bool
  | .finish call completion _ _ =>
    match s.calls call with
    | .completing conversationID allowSessionUpdate =>
      decide (CarriesNothing s.store.active conversationID completion allowSessionUpdate)
    | .streaming conversationID _ _ =>
      decide (CarriesNothing s.store.active conversationID completion true)
    | _ => true
  | _ => true

structure SessionInvariant (s : System) : Prop where
  isolated : Isolated s.returned s.store
  normalized : ∀ entry ∈ s.returned, normalizeProviderSession entry.2 = entry.2

section

variable {s next : System} {store : Store} {env : Environment}
  {result : Except ConversationError Store}

theorem Isolated.after (isolated : Isolated returned store)
    (succeeds : ∀ after, result = .ok after → Isolated returned after) :
    Isolated returned (store.after result) := by
  cases outcome : result with
  | error err => exact isolated
  | ok after => exact succeeds after outcome

theorem Isolated.note (isolated : Isolated returned store) (id : String) (completion : Completion) :
    Isolated (noteSession id completion returned) store :=
  ⟨fun record mem => (isolated.records record mem).note id completion,
    isolated.active.note id completion⟩

theorem finish_isolated {call : Nat} (invariant : SessionInvariant s)
    (safe : sessionSafe s (.finish call completion newID now) = true)
    (taken : step env s (.finish call completion newID now) = some next) :
    SessionInvariant next := by
  simp only [step] at taken
  simp only [sessionSafe] at safe
  cases isCall : s.calls call with
  | completing id allowSessionUpdate =>
    rw [isCall] at taken safe
    dsimp only at taken
    split at taken
    · cases taken
      refine ⟨?_, note_session_normalized invariant.normalized id completion⟩
      apply (invariant.isolated.note id completion).after
      intro after done
      exact persist_isolated (invariant.isolated.note id completion)
        (next_session_own invariant.normalized invariant.isolated.active
          (of_decide_eq_true safe)) done
    · cases taken
  | streaming id messageID deltas =>
    rw [isCall] at taken safe
    cases taken
    refine ⟨?_, note_session_normalized invariant.normalized id completion⟩
    apply (invariant.isolated.note id completion).after
    intro after done
    obtain ⟨_, _, persisted⟩ := finalize_stream_ok done
    exact persist_isolated (invariant.isolated.note id completion)
      (next_session_own invariant.normalized invariant.isolated.active
        (of_decide_eq_true safe)) persisted
  | absent | appending | finished => simp [isCall] at taken

theorem SessionInvariant.settle {ready : System} (invariant : SessionInvariant s)
    (store : ready.store = s.store) (returned : ready.returned = s.returned)
    (succeeds : ∀ after, result = .ok after → Isolated s.returned after) :
    SessionInvariant (ready.settle result) := by
  refine ⟨?_, returned ▸ invariant.normalized⟩
  change Isolated ready.returned (ready.store.after result)
  rw [returned, store]
  exact invariant.isolated.after succeeds

theorem SessionInvariant.set_call (invariant : SessionInvariant s) (call : Nat)
    (state : CallState) : SessionInvariant (s.setCall call state) :=
  ⟨invariant.isolated, invariant.normalized⟩

theorem step_isolated {action : Action} (invariant : SessionInvariant s)
    (taken : guarded sessionSafe (step env) s action = some next) : SessionInvariant next := by
  obtain ⟨safe, taken⟩ := guarded_eq_some.mp taken
  have isolated := invariant.isolated
  cases action with
  | begin call request newIDs times =>
    simp only [step] at taken
    split at taken
    · cases taken
      exact ⟨isolated, invariant.normalized⟩
    · cases taken
  | append call =>
    simp only [step] at taken
    split at taken
    · cases taken
      apply SessionInvariant.set_call
      exact invariant.settle rfl rfl fun after done => append_messages_isolated isolated done
    · cases taken
  | delta call text now =>
    simp only [step] at taken
    split at taken
    · split at taken
      · cases taken
      · cases taken
        apply SessionInvariant.set_call
        exact invariant.settle rfl rfl fun after done => append_delta_isolated isolated done
    · cases taken
  | finish call completion newID now => exact finish_isolated invariant safe taken
  | create newID now =>
    simp only [step] at taken
    split at taken
    · cases taken
      refine invariant.settle rfl rfl ?_
      intro after done
      cases done
      exact ⟨insert_records isolated.records, .inl rfl⟩
    · cases taken
  | rename id title now =>
    cases taken
    exact invariant.settle rfl rfl fun after done =>
      modified_isolated isolated (rename_ok done).2
  | delete id newID now =>
    simp only [step] at taken
    split at taken
    · cases taken
      exact invariant.settle rfl rfl fun after done =>
        delete_conversation_isolated isolated done
    · cases taken
  | archive id newID now =>
    simp only [step] at taken
    split at taken
    · cases taken
      exact invariant.settle rfl rfl fun after done =>
        archive_conversation_isolated isolated done
    · cases taken
  | restore id now =>
    cases taken
    refine invariant.settle rfl rfl ?_
    intro after done
    rcases restore_ok done with ⟨rfl, _⟩ | modified
    · exact isolated
    · exact modified_isolated isolated modified
  | updatePreferences id preferences now =>
    cases taken
    exact invariant.settle rfl rfl fun after done =>
      modified_isolated isolated (update_preferences_ok done)
  | activate id =>
    cases taken
    exact invariant.settle rfl rfl fun after done =>
      activate_conversation_isolated isolated done

theorem System.Initial.session_invariant (isStart : s.Initial) : SessionInvariant s := by
  obtain ⟨_, held, _⟩ := load_state_spec isStart.loaded
  exact ⟨⟨isStart.sessions, isStart.sessions _ held.mem⟩, isStart.normalized⟩

/-- Where completions carry nothing foreign over, a conversation has no session, or one that a
completion returned for it. -/
theorem sessions_stay_with_their_conversations {env : Environment} {s : System}
    (reachable : Reachable System.Initial (guarded sessionSafe (step env)) s) :
    ∀ record ∈ s.store.db.conversations,
      record.session = {} ∨ (record.id, record.session) ∈ s.returned :=
  (reachable.invariant System.Initial.session_invariant step_isolated).isolated.records

theorem sessions_stay_with_their_conversations_switched :
    ∃ s, Reachable System.Initial (guarded sessionSafe (step ⟨true, trimSpace⟩)) s ∧
      s.store.db.conversations.map (·.session) = [⟨"codex", "thread-1"⟩, ⟨"codex", "thread-2"⟩] ∧
      ∀ record ∈ s.store.db.conversations,
        record.session = {} ∨ (record.id, record.session) ∈ s.returned := by
  have ran : (runActions (guarded sessionSafe (step ⟨true, trimSpace⟩))
      (System.bootstrapped "conv_a" 0)
      [.begin 0 (.submit "hi" "help" []) ["msg_1"] [1], .append 0,
        .finish 0 ⟨"yes", "", some ⟨"codex", "thread-1"⟩, ⟨"codex", ""⟩, none⟩ "msg_2" 2,
        .create "conv_b" 3, .begin 1 (.submit "hi" "help" []) ["msg_3"] [4], .append 1,
        .activate "conv_a",
        .finish 1 ⟨"yes", "", some ⟨"codex", "thread-2"⟩, ⟨"codex", ""⟩, none⟩ "msg_4" 5]).map
      (fun s => decide (s.store.db.conversations.map (·.session) =
        [⟨"codex", "thread-1"⟩, ⟨"codex", "thread-2"⟩])) = some true := by
    decide +kernel
  obtain ⟨s, reachable, sessions⟩ :=
    reachable_of_run (bootstrapped_initial (by decide) 0) ran
  exact ⟨s, reachable, of_decide_eq_true sessions,
    sessions_stay_with_their_conversations reachable⟩

/-- A completion without a session ends in a conversation that is no longer active: the
session of the active conversation is stored for it. -/
theorem session_carried_to_another_conversation :
    ∃ s, Reachable System.Initial (step ⟨true, trimSpace⟩) s ∧ ¬ ∀ record ∈
    s.store.db.conversations, record.session = {} ∨ (record.id, record.session) ∈ s.returned := by
  have ran : (runActions (step ⟨true, trimSpace⟩) (System.bootstrapped "conv_a" 0)
      [.begin 0 (.submit "hi" "help" []) ["msg_1"] [1], .append 0,
        .finish 0 ⟨"yes", "", some ⟨"codex", "thread-1"⟩, ⟨"codex", ""⟩, none⟩ "msg_2" 2,
        .create "conv_b" 3, .begin 1 (.submit "hi" "help" []) ["msg_3"] [4], .append 1,
        .activate "conv_a",
        .finish 1 ⟨"", "", none, ⟨"codex", ""⟩, some (.failed "no answer")⟩ "msg_4" 5]).map
      (fun s => decide (¬ ∀ record ∈ s.store.db.conversations,
        record.session = {} ∨ (record.id, record.session) ∈ s.returned)) = some true := by
    decide +kernel
  obtain ⟨s, reachable, leaked⟩ :=
    reachable_of_run (bootstrapped_initial (by decide) 0) ran
  exact ⟨s, reachable, of_decide_eq_true leaked⟩

end

end RuneTerminal.Conversation
