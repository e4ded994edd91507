import RuneTerminal.Conversation.Effects
import RuneTerminal.Conversation.Calls

/-! The id in the tables and the conversation in memory are moved together: a section that takes the
active conversation away puts another one, or a new one, in its place. -/

namespace RuneTerminal.Conversation

open Go.Strings Kit List

/-- The file of an earlier version, with the messages of its only conversation. -/
structure LegacyState where
  messages : List Message := []
  updatedAt : Option Nat := none

def conversationUpdatedAt (createdAt : Nat) (legacy : LegacyState) : Nat :=
  legacy.updatedAt.getD ((legacy.messages.map Message.createdAt).foldl max createdAt)

namespace Database

variable (db : Database)

/-- `activeConversationIDTx`; there is no row when the text is empty. -/
def activeConversationID : String := trimSpace db.activeID

def ensureActiveConversationState : Database :=
  if db.activeConversationID ≠ "" then db
  else
    match (db.conversations.mergeSort candidateOrder).head? with
    | none => db
    | some record => db.setActiveConversation record.id

/-- The ids of messages are a primary key, so messages whose ids are taken cannot be
inserted. -/
def ensureBootstrapped (summarize : String → String)
    (readLegacyState : Except ConversationError LegacyState) (newID : String) (now : Nat) :
    Except ConversationError Database :=
  if db.conversations ≠ [] then .ok db.ensureActiveConversationState
  else
    match readLegacyState with
    | .error err => .error err
    | .ok legacy =>
      let record := newConversationRecord newID now
      if legacy.messages = [] then
        .ok ((db.insertConversation record).setActiveConversation record.id)
      else if (db.messages.map (·.message.id) ++ legacy.messages.map Message.id).Nodup then
        let record :=
          { record with
            title := Store.titleFromMessages summarize legacy.messages
            updatedAt := conversationUpdatedAt record.createdAt legacy }
        .ok (((db.insertConversation record).insertConversationMessages record.id
          legacy.messages).setActiveConversation record.id)
      else .error (.database "UNIQUE constraint failed: conversation_messages.id")

def load (summarize : String → String)
    (readLegacyState : Except ConversationError LegacyState) (newID : String) (now : Nat) :
    Except ConversationError Store :=
  match db.ensureBootstrapped summarize readLegacyState newID now with
  | .error err => .error err
  | .ok db =>
    match db.loadConversationState db.activeConversationID with
    | none => .error .conversationNotFound
    | some (record, messages) =>
      .ok { db := db, active := record, messages := messages, updatedAt := record.updatedAt }

end Database

/-- A service that has just been loaded from tables whose ids were given out. -/
def System.Loaded (env : Environment) (s : System) : Prop :=
  ∃ db readLegacyState newID now,
    (∀ conversationID ∈ newID :: db.conversationIDs,
      CleanID conversationID ∧ conversationID ∈ s.minted) ∧
    Database.load db env.summarize readLegacyState newID now = .ok s.store ∧
    ∀ call, s.calls call = .absent

/-- The active conversation in memory is the one that the tables name, and is there. -/
structure Anchored (s : Store) : Prop where
  named : s.db.activeConversationID = s.active.id
  known : s.active.id ∈ s.db.conversationIDs

variable {newID : String} {now : Nat}

section

variable {s next : Store} {conversationID : String}
  {readLegacyState : Except ConversationError LegacyState} {summarize : String → String}
  {record : ConversationRecord} {messages : List Message}

theorem load_anchored {db : Database} (done : db.load summarize readLegacyState newID now = .ok s) :
    Anchored s := by
  unfold Database.load at done
  split at done
  · cases done
  split at done
  · cases done
  next record messages loaded =>
    obtain ⟨sameID, held, _⟩ := load_state_spec loaded
    cases done
    exact ⟨sameID.symm, mem_row_ids held.mem⟩

theorem load_conversation_ids {db : Database}
    (done : db.load summarize readLegacyState newID now = .ok s) :
    ∀ other ∈ s.db.conversationIDs, other ∈ newID :: db.conversationIDs := by
  have bootstrapped : ∀ after, db.ensureBootstrapped summarize readLegacyState newID now =
      .ok after → ∀ other ∈ after.conversationIDs, other ∈ newID :: db.conversationIDs := by
    intro after ensured other mem
    unfold Database.ensureBootstrapped at ensured
    split at ensured
    · cases ensured
      unfold Database.ensureActiveConversationState at mem
      apply mem_cons_of_mem
      split at mem
      · exact mem
      · split at mem
        · exact mem
        · exact mem
    next empty =>
      split at ensured
      · cases ensured
      split at ensured
      · cases ensured
        rcases ids_insert mem with old | new
        · exact mem_cons_of_mem _ old
        · exact mem_cons.mpr (.inl (mem_singleton.mp new))
      split at ensured
      · cases ensured
        rcases ids_insert mem with old | new
        · exact mem_cons_of_mem _ old
        · exact mem_cons.mpr (.inl (mem_singleton.mp new))
      · cases ensured
  unfold Database.load at done
  split at done
  · cases done
  next after ensured =>
    split at done
    · cases done
    · cases done
      exact bootstrapped after ensured

theorem Reloads.same_active (reloads : Reloads s next record messages) :
    next.active.id = s.active.id := by
  rcases reloads with ⟨isActive, active, _⟩ | ⟨_, active, _⟩
  · rw [active, isActive]
  · rw [active]

theorem Anchored.stay (anchored : Anchored s) (active : next.active.id = s.active.id)
    (named : next.db.activeID = s.db.activeID)
    (conversationIDs : next.db.conversationIDs = s.db.conversationIDs) : Anchored next := by
  constructor
  · unfold Database.activeConversationID
    rw [named, active]
    exact anchored.named
  · rw [active, conversationIDs]
    exact anchored.known

theorem anchored_of_switch (db : Database) (clean : CleanID next.active.id)
    (known : next.active.id ∈ db.conversationIDs)
    (tables : next.db = db.setActiveConversation next.active.id) : Anchored next := by
  constructor
  · rw [tables, Database.activeConversationID, Database.setActiveConversation]
    rw [trim_space_twice, clean.1]
  · rw [tables]
    exact known

theorem modified_anchored (anchored : Anchored s) (modified : Modified s next conversationID now) :
    Anchored next ∧ next.db.conversationIDs = s.db.conversationIDs := by
  obtain ⟨_, record, _, _, _, tables, reloads⟩ := modified
  have conversationIDs : next.db.conversationIDs = s.db.conversationIDs := by
    rw [tables, Database.ids_update]
  refine ⟨anchored.stay reloads.same_active ?_ conversationIDs, conversationIDs⟩
  rw [tables]
  rfl

theorem append_messages_anchored (anchored : Anchored s)
    (done : s.appendMessagesForConversation summarize conversationID messages = .ok next) :
    Anchored next ∧ next.db.conversationIDs = s.db.conversationIDs := by
  obtain ⟨record, _, _, tables, reloads⟩ := append_messages_ok done
  have conversationIDs : next.db.conversationIDs = s.db.conversationIDs := by
    rw [tables, Database.ids_update]
    rfl
  refine ⟨anchored.stay reloads.same_active ?_ conversationIDs, conversationIDs⟩
  rw [tables]
  rfl

theorem append_delta_anchored {id delta : String} (anchored : Anchored s)
    (done : s.appendAssistantDelta conversationID id delta now = .ok next) :
    Anchored next ∧ next.db.conversationIDs = s.db.conversationIDs := by
  obtain ⟨_, _, _, rfl⟩ := append_delta_ok done
  exact ⟨anchored.stay rfl rfl rfl, rfl⟩

theorem persist_anchored {assistant : Message} {nextSession : ProviderSessionState}
    (anchored : Anchored s)
    (done : s.persistAssistantFinalization conversationID assistant nextSession = .ok next) :
    Anchored next ∧ next.db.conversationIDs = s.db.conversationIDs := by
  obtain ⟨record, before, _, rfl, _, _, _, _, outcome⟩ := finalization_ok done
  have moved : next.active.id = s.active.id ∧ next.db.activeID = s.db.activeID ∧
      next.db.conversationIDs = s.db.conversationIDs := by
    rcases outcome with ⟨_, tables, reloads⟩ | ⟨_, tables, reloads⟩
    · refine ⟨reloads.same_active, by rw [tables]; rfl, ?_⟩
      rw [tables, Database.ids_update]
      rfl
    · refine ⟨reloads.same_active, by rw [tables]; rfl, ?_⟩
      rw [tables, Database.ids_update]
      rfl
  obtain ⟨active, named, conversationIDs⟩ := moved
  exact ⟨anchored.stay active named conversationIDs, conversationIDs⟩

theorem create_conversation_anchored (clean : CleanID newID) :
    Anchored (s.createConversation newID now) ∧
    (s.createConversation newID now).db.conversationIDs = s.db.conversationIDs ++ [newID] := by
  have conversationIDs : (s.db.insertConversation
      (newConversationRecord newID now)).conversationIDs = s.db.conversationIDs ++ [newID] := by
    unfold Database.conversationIDs Database.insertConversation
    rw [map_append]
    rfl
  refine ⟨anchored_of_switch
    (s.db.insertConversation (newConversationRecord newID now)) clean ?_ rfl, conversationIDs⟩
  rw [conversationIDs]
  exact mem_append_right _ (mem_singleton.mpr rfl)

theorem TakesOver.known {db before : Database} {candidate : Option String}
    (taken : TakesOver db before candidate record messages newID) :
    record.id ∈ db.conversationIDs := by
  rcases taken with ⟨rfl, _, held, _⟩ | ⟨now, rfl, rfl, _⟩
  · exact mem_row_ids held.mem
  · apply mem_row_ids
    exact mem_append_right _ (mem_singleton.mpr rfl)

theorem ids_delete {db : Database} (cascade : Bool) {other : String} :
    other ∈ (db.deleteConversation cascade conversationID).conversationIDs ↔
    other ∈ db.conversationIDs ∧ other ≠ conversationID := by
  unfold Database.conversationIDs Database.deleteConversation
  simp only [mem_map, mem_filter, decide_eq_true_eq]
  constructor
  · rintro ⟨record, ⟨mem, ne⟩, rfl⟩
    exact ⟨⟨record, mem, rfl⟩, ne⟩
  · rintro ⟨⟨record, mem, rfl⟩, ne⟩
    exact ⟨record, ⟨mem, ne⟩, rfl⟩

theorem delete_conversation_anchored {cascade : Bool} (anchored : Anchored s)
    (clean : ∀ other ∈ newID :: s.db.conversationIDs, CleanID other)
    (new : newID ∉ s.db.conversationIDs)
    (done : s.deleteConversation cascade conversationID newID now = .ok next) : Anchored next ∧
    ∀ other ∈ next.db.conversationIDs, other ∈ s.db.conversationIDs ∨ other ∈ [newID] := by
  obtain ⟨⟨deleted, held, sameID⟩, outcome⟩ := delete_conversation_ok done
  rcases outcome with ⟨ne, rfl⟩ | ⟨db, record, messages, taken, tables, active, _⟩
  · refine ⟨⟨anchored.named, (ids_delete cascade).mpr ⟨anchored.known, ne⟩⟩, ?_⟩
    intro other mem
    exact .inl ((ids_delete cascade).mp mem).1
  have other :=
    taken.not_deleted (fun other mem => clean other (mem_cons_of_mem _ mem))
    new held sameID
  have ids : ∀ other ∈ next.db.conversationIDs, other ∈ s.db.conversationIDs ∨
      other ∈ [newID] := by
    intro other mem
    rw [tables] at mem
    exact taken.conversation_ids ((ids_delete cascade).mp mem).1
  have known : record.id ∈ next.db.conversationIDs := by
    rw [tables]
    exact (ids_delete cascade).mpr ⟨taken.known, other⟩
  refine ⟨anchored_of_switch (db.deleteConversation cascade (trimSpace conversationID))
    ?_ ?_ ?_, ids⟩
  · rw [active]
    apply clean
    rw [mem_cons]
    exact (ids _ known).symm.imp_left mem_singleton.mp
  · rw [active]
    exact (ids_delete cascade).mpr ⟨taken.known, other⟩
  · rw [active]
    exact tables

theorem archive_conversation_anchored (anchored : Anchored s)
    (clean : ∀ other ∈ newID :: s.db.conversationIDs, CleanID other)
    (done : s.archiveConversation conversationID newID now = .ok next) : Anchored next ∧
    ∀ other ∈ next.db.conversationIDs, other ∈ s.db.conversationIDs ∨ other ∈ [newID] := by
  rcases archive_ok done with rfl | ⟨record, _, _, outcome⟩
  · exact ⟨anchored, fun _ => .inl⟩
  have same : (s.db.updateConversation { record with
      archivedAt := some now, updatedAt := now }).conversationIDs = s.db.conversationIDs :=
    Database.ids_update _
  rcases outcome with ⟨_, rfl⟩ | ⟨db, follower, messages, taken, tables, active, _⟩
  · exact ⟨anchored.stay rfl rfl same, fun other mem => .inl (same ▸ mem)⟩
  have ids : ∀ other ∈ db.conversationIDs, other ∈ s.db.conversationIDs ∨ other ∈ [newID] := by
    intro other mem
    rw [← same]
    exact taken.conversation_ids mem
  refine ⟨anchored_of_switch db ?_ ?_ ?_, ?_⟩
  · rw [active]
    apply clean
    rw [mem_cons]
    exact (ids _ taken.known).symm.imp_left mem_singleton.mp
  · rw [active]
    exact taken.known
  · rw [active]
    exact tables
  · intro other mem
    rw [tables] at mem
    exact ids other mem

theorem activate_conversation_anchored (clean : ∀ other ∈ s.db.conversationIDs, CleanID other)
    (done : s.activateConversation conversationID = .ok next) :
    Anchored next ∧ next.db.conversationIDs = s.db.conversationIDs := by
  obtain ⟨record, held, active, _, tables⟩ := activate_ok done
  have known := mem_row_ids held.mem
  refine ⟨anchored_of_switch s.db (active ▸ clean _ known) (active ▸ known) ?_, ?_⟩
  · rw [active]
    exact tables
  · rw [tables]
    rfl

end

section

variable {s next : System} {env : Environment} {result : Except ConversationError Store}

/-- The active conversation is there, and every conversation has an id that was given out. -/
structure Settled (s : System) : Prop where
  anchored : Anchored s.store
  minted : ∀ conversationID ∈ s.store.db.conversationIDs,
    CleanID conversationID ∧ conversationID ∈ s.minted

theorem Settled.settle {result : Except ConversationError Store} (settled : Settled s)
    (ready : System) (newIDs : List String) (store : ready.store = s.store)
    (minted : ready.minted = newIDs ++ s.minted) (clean : ∀ newID ∈ newIDs, CleanID newID)
    (succeeds : ∀ after, result = .ok after →
      Anchored after ∧
        ∀ other ∈ after.db.conversationIDs, other ∈ s.store.db.conversationIDs ∨ other ∈ newIDs) :
    Settled (ready.settle result) := by
  have kept : ∀ id, id ∈ s.store.db.conversationIDs ∨
      id ∈ newIDs → CleanID id ∧ id ∈ ready.minted := by
    intro id known
    rw [minted, mem_append]
    rcases known with old | new
    · obtain ⟨isClean, isMinted⟩ := settled.minted id old
      exact ⟨isClean, .inr isMinted⟩
    · exact ⟨clean id new, .inl new⟩
  cases outcome : result with
  | error err =>
    constructor
    · exact store ▸ settled.anchored
    · intro id mem
      exact kept id (.inl (store ▸ mem))
  | ok after =>
    obtain ⟨anchored, conversationIDs⟩ := succeeds after outcome
    exact ⟨anchored, fun id mem =>
      kept id (conversationIDs id mem)⟩

theorem Settled.set_call (settled : Settled s) (call : Nat) (state : CallState) :
    Settled (s.setCall call state) :=
  ⟨settled.anchored, settled.minted⟩

theorem Settled.settle_same {result : Except ConversationError Store} (settled : Settled s)
    (succeeds : ∀ after, result = .ok after →
      Anchored after ∧ after.db.conversationIDs = s.store.db.conversationIDs) :
    Settled (s.settle result) := by
  apply settled.settle s [] rfl rfl
  · intro newID mem
    cases mem
  · intro after done
    obtain ⟨anchored, same⟩ := succeeds after done
    exact ⟨anchored, fun other mem => .inl (same ▸ mem)⟩

theorem finish_settled {call : Nat} {completion : Completion} (settled : Settled s)
    (taken : step env s (.finish call completion newID now) = some next) : Settled next := by
  simp only [step] at taken
  split at taken
  next id allowSessionUpdate isCall =>
    split at taken
    next isNew =>
      cases taken
      have ready : Settled ((s.mint newID).settle (s.store.appendAssistantResult
          id newID now completion allowSessionUpdate)) := by
        apply settled.settle (s.mint newID) [newID] rfl rfl
        · intro other mem
          rw [mem_singleton.mp mem]
          exact isNew.1
        · intro after done
          obtain ⟨anchored, same⟩ := persist_anchored settled.anchored done
          exact ⟨anchored, fun other mem => .inl (same ▸ mem)⟩
      exact ⟨ready.anchored, ready.minted⟩
    · cases taken
  next id messageID deltas isCall =>
    cases taken
    have ready : Settled (s.settle (s.store.finalizeAssistantStreamResult id
        messageID completion)) := by
      apply settled.settle_same
      intro after done
      obtain ⟨_, _, persisted⟩ := finalize_stream_ok done
      exact persist_anchored settled.anchored persisted
    exact ⟨ready.anchored, ready.minted⟩
  · cases taken

theorem step_settled {action : Action} (settled : Settled s)
    (taken : step env s action = some next) : Settled next := by
  have anchored := settled.anchored
  have clean : ∀ {newID}, s.Fresh newID → ∀ other ∈ newID :: s.store.db.conversationIDs,
      CleanID other := by
    intro newID isNew other mem
    rcases mem_cons.mp mem with rfl | old
    · exact isNew.1
    · exact (settled.minted other old).1
  have one : ∀ {newID}, s.Fresh newID → ∀ other ∈ [newID], CleanID other :=
    fun isNew other mem => mem_singleton.mp mem ▸ isNew.1
  cases action with
  | begin call request newIDs times =>
    simp only [step] at taken
    split at taken
    · cases taken
      exact ⟨anchored, fun other mem =>
        ⟨(settled.minted other mem).1,
          mem_append_right _ (settled.minted other mem).2⟩⟩
    · cases taken
  | append call =>
    simp only [step] at taken
    split at taken
    · cases taken
      apply Settled.set_call
      apply settled.settle_same
      intro after done
      exact append_messages_anchored anchored done
    · cases taken
  | delta call text now =>
    simp only [step] at taken
    split at taken
    · split at taken
      · cases taken
      cases taken
      apply Settled.set_call
      apply settled.settle_same
      intro after done
      exact append_delta_anchored anchored done
    · cases taken
  | finish call completion newID now => exact finish_settled settled taken
  | create newID now =>
    simp only [step] at taken
    split at taken
    next isNew =>
      cases taken
      apply settled.settle (s.mint newID) [newID] rfl rfl (one isNew)
      intro after done
      cases done
      obtain ⟨created, conversationIDs⟩ := create_conversation_anchored isNew.1
      refine ⟨created, ?_⟩
      intro other mem
      rw [conversationIDs] at mem
      exact mem_append.mp mem
    · cases taken
  | rename id title now =>
    cases taken
    apply settled.settle_same
    intro after done
    exact modified_anchored anchored (rename_ok done).2
  | delete id newID now =>
    simp only [step] at taken
    split at taken
    next isNew =>
      cases taken
      apply settled.settle (s.mint newID) [newID] rfl rfl (one isNew)
      intro after done
      exact delete_conversation_anchored anchored (clean isNew)
        (fun mem => isNew.2 (settled.minted _ mem).2) done
    · cases taken
  | archive id newID now =>
    simp only [step] at taken
    split at taken
    next isNew =>
      cases taken
      apply settled.settle (s.mint newID) [newID] rfl rfl (one isNew)
      intro after done
      exact archive_conversation_anchored anchored (clean isNew) done
    · cases taken
  | restore id now =>
    cases taken
    apply settled.settle_same
    intro after done
    rcases restore_ok done with ⟨rfl, _⟩ | modified
    · exact ⟨anchored, rfl⟩
    · exact modified_anchored anchored modified
  | updatePreferences id preferences now =>
    cases taken
    apply settled.settle_same
    intro after done
    exact modified_anchored anchored (update_preferences_ok done)
  | activate id =>
    cases taken
    apply settled.settle_same
    intro after done
    exact activate_conversation_anchored
      (fun other mem => (settled.minted other mem).1) done

theorem System.Loaded.settled (loaded : s.Loaded env) : Settled s := by
  obtain ⟨db, readLegacyState, newID, now, minted, done, _⟩ := loaded
  refine ⟨load_anchored done, ?_⟩
  intro id mem
  exact minted id (load_conversation_ids done id mem)

/-- In every run from any tables, the active conversation of the tables is there, and is the one in
memory. -/
theorem active_conversation_exists {env : Environment} {s : System}
    (reachable : Reachable (System.Loaded env) (step env) s) :
    s.store.db.conversations ≠ [] ∧ s.store.db.activeConversationID ∈ s.store.db.conversationIDs ∧
    s.store.db.activeConversationID = s.store.active.id := by
  obtain ⟨⟨named, known⟩, _⟩ := reachable.invariant System.Loaded.settled step_settled
  refine ⟨?_, named ▸ known, named⟩
  intro empty
  unfold Database.conversationIDs at known
  rw [empty] at known
  cases known

/-- The only conversation is deleted, which brings a new one, and archived, which brings another. -/
theorem active_conversation_exists_replaced :
    ∃ s, Reachable (System.Loaded ⟨true, trimSpace⟩) (step ⟨true, trimSpace⟩) s ∧
      s.store.active.id = "conv_c" ∧ (s.store.db.conversations ≠ [] ∧
        s.store.db.activeConversationID ∈ s.store.db.conversationIDs ∧
        s.store.db.activeConversationID = s.store.active.id) := by
  have start : (System.bootstrapped "conv_a" 0).Loaded ⟨true, trimSpace⟩ :=
    ⟨⟨[], [], ""⟩, .ok {}, "conv_a", 0, by decide, by decide +kernel, fun _ => rfl⟩
  have ran : (runActions (step ⟨true, trimSpace⟩) (System.bootstrapped "conv_a" 0)
      [.delete "conv_a" "conv_b" 1, .archive "conv_b" "conv_c" 2, .restore "conv_b" 3,
        .rename "conv_b" "files" 4]).map (fun s =>
      decide (s.store.active.id = "conv_c")) = some true := by
    decide +kernel
  obtain ⟨s, reachable, active⟩ := reachable_of_run start ran
  exact ⟨s, reachable, of_decide_eq_true active, active_conversation_exists reachable⟩

end

end RuneTerminal.Conversation
