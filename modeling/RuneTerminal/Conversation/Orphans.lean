import RuneTerminal.Conversation.ActiveConversation
import RuneTerminal.Conversation.Faults
import RuneTerminal.Db.Migrator

/-! Messages are stored only for a conversation that was just read. `DeleteConversation` leaves them
to `ON DELETE CASCADE`, which does nothing on a connection as `Open` gives it. -/

namespace RuneTerminal.Conversation

open Go.Strings Kit List Option Database

variable {db : Database} {id newID : String} {cascade : Bool} {now : Nat}
  {record : ConversationRecord} {messages : List Message} {summarize : String → String}

section

variable {conversationID : String}

/-- Every row of `conversation_messages` refers to a conversation. -/
def Database.NoOrphans (db : Database) : Prop :=
  ∀ row ∈ db.messages, row.conversationID ∈ db.conversationIDs

instance (db : Database) : Decidable db.NoOrphans :=
  inferInstanceAs (Decidable (∀ row ∈ db.messages, _))

theorem load_messages_eq_nil : db.loadConversationMessages conversationID = [] ↔
    ∀ row ∈ db.messages, row.conversationID ≠ conversationID := by
  unfold loadConversationMessages
  rw [← length_eq_zero_iff]
  simp

theorem Database.NoOrphans.no_messages (whole : db.NoOrphans)
    (gone : conversationID ∉ db.conversationIDs) :
    db.loadConversationMessages conversationID = [] := by
  rw [load_messages_eq_nil]
  rintro row mem rfl
  exact gone (whole row mem)

@[simp] theorem no_orphans_update : (db.updateConversation record).NoOrphans ↔ db.NoOrphans := by
  unfold Database.NoOrphans
  rw [ids_update]
  rfl

@[simp] theorem no_orphans_set_active :
    (db.setActiveConversation conversationID).NoOrphans ↔ db.NoOrphans :=
  Iff.rfl

theorem Database.NoOrphans.insert_conversation (whole : db.NoOrphans) :
    (db.insertConversation record).NoOrphans := by
  intro row mem
  obtain ⟨stored, isStored, same⟩ := mem_map.mp (whole row mem)
  exact mem_map.mpr ⟨stored, mem_append_left _ isStored, same⟩

theorem inserted_is_known : record.id ∈ (db.insertConversation record).conversationIDs :=
  mem_row_ids (mem_append_right _ (mem_singleton_self record))

section

variable (whole : db.NoOrphans)
include whole

theorem Database.NoOrphans.insert_messages (known : conversationID ∈ db.conversationIDs) :
    (db.insertConversationMessages conversationID messages).NoOrphans := by
  intro row mem
  rcases mem_append.mp mem with old | new
  · exact whole row old
  · obtain ⟨message, _, rfl⟩ := mem_map.mp new
    exact known

theorem Database.NoOrphans.update_content {content reasoning provider model : String}
    {status : MessageStatus} :
    (db.updateConversationMessageContent id content status reasoning provider model).NoOrphans := by
  intro row mem
  obtain ⟨stored, isStored, rfl⟩ := mem_map.mp mem
  have known := whole stored isStored
  split_ifs
  · exact known
  · exact known

theorem no_orphans_delete :
    (db.deleteConversation cascade conversationID).NoOrphans ↔
    cascade = true ∨ db.loadConversationMessages conversationID = [] := by
  rw [load_messages_eq_nil]
  constructor
  · intro kept
    cases cascade with
    | true => exact .inl rfl
    | false =>
      refine .inr fun row mem => ?_
      exact ((ids_delete false).mp (kept row mem)).2
  intro nothingLeft row mem
  rw [ids_delete]
  cases cascade with
  | true =>
    obtain ⟨old, other⟩ := mem_filter.mp mem
    exact ⟨whole row old, of_decide_eq_true other⟩
  | false => exact ⟨whole row mem, nothingLeft.resolve_left Bool.false_ne_true row mem⟩

theorem no_orphans_load {s : Store} {readLegacyState : Except ConversationError LegacyState}
    (done : db.load summarize readLegacyState newID now = .ok s) : s.db.NoOrphans := by
  have bootstrapped : ∀ after, db.ensureBootstrapped summarize readLegacyState newID now =
      .ok after → after.NoOrphans := by
    intro after ensured
    unfold ensureBootstrapped at ensured
    split at ensured
    · cases ensured
      unfold ensureActiveConversationState
      split
      · exact whole
      · split
        · exact whole
        · exact whole
    split at ensured
    · cases ensured
    split at ensured
    · cases ensured
      exact whole.insert_conversation
    split at ensured
    · cases ensured
      exact whole.insert_conversation.insert_messages inserted_is_known
    · cases ensured
  unfold load at done
  split at done
  · cases done
  next after ensured =>
    split at done
    · cases done
    · cases done
      exact bootstrapped after ensured

end

end

section

variable {s next : Store} {conversationID : String}

theorem TakesOver.no_orphans {before : Database} {candidate : Option String}
    (taken : TakesOver db before candidate record messages newID) (whole : before.NoOrphans) :
    db.NoOrphans := by
  rcases taken with ⟨rfl, _⟩ | ⟨now, _, rfl, _⟩
  · exact whole
  · exact whole.insert_conversation

section

variable (whole : s.db.NoOrphans)
include whole

theorem modified_no_orphans (modified : Modified s next conversationID now) :
    next.db.NoOrphans := by
  obtain ⟨_, record, _, _, _, tables, _⟩ := modified
  rw [tables]
  exact no_orphans_update.mpr whole

theorem append_messages_no_orphans
    (done : s.appendMessagesForConversation summarize conversationID messages = .ok next) :
    next.db.NoOrphans := by
  obtain ⟨record, ⟨before, held, sameID, _⟩, _, tables, _⟩ := append_messages_ok done
  rw [tables, no_orphans_update]
  apply whole.insert_messages
  rw [sameID]
  exact mem_row_ids held.mem

theorem append_delta_no_orphans {delta : String}
    (done : s.appendAssistantDelta conversationID id delta now = .ok next) : next.db.NoOrphans := by
  obtain ⟨_, _, _, rfl⟩ := append_delta_ok done
  exact whole.update_content

theorem persist_no_orphans {assistant : Message} {nextSession : ProviderSessionState}
    (done : s.persistAssistantFinalization conversationID assistant nextSession = .ok next) :
    next.db.NoOrphans := by
  obtain ⟨record, before, held, _, sameID, _, _, _, outcome⟩ := finalization_ok done
  rcases outcome with ⟨_, tables, _⟩ | ⟨_, tables, _⟩
  · rw [tables, no_orphans_update]
    exact whole.update_content
  rw [tables, no_orphans_update]
  apply whole.insert_messages
  rw [← sameID]
  exact mem_row_ids held.mem

theorem archive_conversation_no_orphans
    (done : s.archiveConversation conversationID newID now = .ok next) : next.db.NoOrphans := by
  rcases archive_ok done with rfl | ⟨record, _, _, outcome⟩
  · exact whole
  rcases outcome with ⟨_, rfl⟩ | ⟨db, follower, messages, taken, tables, _⟩
  · exact no_orphans_update.mpr whole
  · rw [tables, no_orphans_set_active]
    exact taken.no_orphans (no_orphans_update.mpr whole)

theorem activate_conversation_no_orphans (done : s.activateConversation conversationID = .ok next) :
    next.db.NoOrphans := by
  obtain ⟨record, _, _, _, tables⟩ := activate_ok done
  rw [tables]
  exact whole

end

theorem delete_conversation_no_orphans (whole : s.db.NoOrphans)
    (done : s.deleteConversation cascade conversationID newID now = .ok next) : next.db.NoOrphans ↔
    cascade = true ∨ s.db.loadConversationMessages (trimSpace conversationID) = [] := by
  obtain ⟨_, outcome⟩ := delete_conversation_ok done
  rcases outcome with ⟨_, rfl⟩ | ⟨db, record, messages, taken, tables, _⟩
  · exact no_orphans_delete whole
  have same : db.loadConversationMessages (trimSpace conversationID) =
      s.db.loadConversationMessages (trimSpace conversationID) := by
    unfold loadConversationMessages
    rw [taken.messages]
  rw [tables, no_orphans_set_active, no_orphans_delete (taken.no_orphans whole), same]

theorem load_record_of_mem (known : conversationID ∈ db.conversationIDs) :
    ∃ record, db.loadConversationRecord conversationID = some record := by
  obtain ⟨record, mem, sameID⟩ := mem_map.mp known
  have found : (db.conversations.find? (·.id == conversationID)).isSome :=
    find?_isSome.mpr ⟨record, mem, by simpa using sameID⟩
  exact isSome_iff_exists.mp found

theorem delete_conversation_succeeds {cascade : Bool} {newID : String} {now : Nat}
    (clean : ∀ other ∈ s.db.conversationIDs, CleanID other)
    (known : trimSpace conversationID ∈ s.db.conversationIDs) :
    ∃ after, s.deleteConversation cascade conversationID newID now = .ok after := by
  obtain ⟨deleted, loaded⟩ := load_record_of_mem known
  have follows : ∃ taken, Store.nextActive s.db
      (s.db.nextConversationCandidate (trimSpace conversationID)) newID now = .ok taken := by
    unfold Store.nextActive
    split
    next candidate isCandidate =>
      obtain ⟨record, mem, _, rfl⟩ := next_candidate_other isCandidate
      have isKnown := mem_row_ids mem
      obtain ⟨found, isFound⟩ := load_record_of_mem isKnown
      rw [(clean _ isKnown).1, loadConversationState, isFound]
      exact ⟨_, rfl⟩
    · exact ⟨_, rfl⟩
  obtain ⟨⟨db, record, messages⟩, taken⟩ := follows
  unfold Store.deleteConversation
  rw [if_neg (clean _ known).2, loaded]
  dsimp only
  split
  · rw [taken]
    exact ⟨_, rfl⟩
  · exact ⟨_, rfl⟩

end

/-- A service that has just been loaded from tables without orphans. -/
def System.LoadedWhole (env : Environment) (s : System) : Prop :=
  ∃ db readLegacyState newID now, db.NoOrphans ∧
    (∀ conversationID ∈ newID :: db.conversationIDs,
      CleanID conversationID ∧ conversationID ∈ s.minted) ∧
    Database.load db env.summarize readLegacyState newID now = .ok s.store ∧
    ∀ call, s.calls call = .absent

variable {s : System} {env : Environment}

theorem System.LoadedWhole.loaded (whole : s.LoadedWhole env) : s.Loaded env := by
  obtain ⟨db, readLegacyState, newID, now, _, loaded⟩ := whole
  exact ⟨db, readLegacyState, newID, now, loaded⟩

def Environment.on (connection : Db.Connection) (summarize : String → String) : Environment where
  cascade := connection.foreignKeys
  summarize := summarize

def deletesNoMessages (s : System) (attempt : Attempt) : Bool :=
  match attempt.action, attempt.fault with
  | .delete conversationID _ _, none =>
    decide (s.store.db.loadConversationMessages (trimSpace conversationID) = [])
  | _, _ => true

section

variable {next : System} {attempt : Attempt}

theorem System.no_orphans_settle {ready : System} {result : Except ConversationError Store}
    (whole : ready.store.db.NoOrphans)
    (succeeds : ∀ after, result = .ok after → after.db.NoOrphans) :
    (ready.settle result).store.db.NoOrphans := by
  cases outcome : result with
  | error err => exact whole
  | ok after => exact succeeds after outcome

theorem finish_no_orphans {call : Nat} {completion : Completion} (whole : s.store.db.NoOrphans)
    (taken : step env s (.finish call completion newID now) = some next) :
    next.store.db.NoOrphans := by
  simp only [step] at taken
  split at taken
  · split at taken
    · cases taken
      apply System.no_orphans_settle whole
      intro after done
      exact persist_no_orphans whole done
    · cases taken
  · cases taken
    apply System.no_orphans_settle whole
    intro after done
    obtain ⟨_, _, persisted⟩ := finalize_stream_ok done
    exact persist_no_orphans whole persisted
  · cases taken

theorem step_no_orphans {action : Action}
    (spared : env.cascade = true ∨ deletesNoMessages s ⟨action, none⟩ = true)
    (whole : s.store.db.NoOrphans) (taken : step env s action = some next) :
    next.store.db.NoOrphans := by
  cases action with
  | begin call request newIDs times =>
    obtain ⟨_, started⟩ := ite_none_right_eq_some.mp taken
    cases started
    exact whole
  | append call =>
    simp only [step] at taken
    split at taken
    · cases taken
      apply System.no_orphans_settle whole
      intro after done
      exact append_messages_no_orphans whole done
    · cases taken
  | delta call text now =>
    simp only [step] at taken
    split at taken
    · split at taken
      · cases taken
      cases taken
      apply System.no_orphans_settle whole
      intro after done
      exact append_delta_no_orphans whole done
    · cases taken
  | finish call completion newID now => exact finish_no_orphans whole taken
  | create newID now =>
    obtain ⟨_, created⟩ := ite_none_right_eq_some.mp taken
    cases created
    exact whole.insert_conversation
  | delete conversationID newID now =>
    obtain ⟨_, deleted⟩ := ite_none_right_eq_some.mp taken
    cases deleted
    apply System.no_orphans_settle whole
    intro after done
    exact (delete_conversation_no_orphans whole done).mpr (spared.imp_right of_decide_eq_true)
  | archive conversationID newID now =>
    obtain ⟨_, archived⟩ := ite_none_right_eq_some.mp taken
    cases archived
    apply System.no_orphans_settle whole
    intro after done
    exact archive_conversation_no_orphans whole done
  | rename conversationID title now =>
    cases taken
    apply System.no_orphans_settle whole
    intro after done
    exact modified_no_orphans whole (rename_ok done).2
  | restore conversationID now =>
    cases taken
    apply System.no_orphans_settle whole
    intro after done
    rcases restore_ok done with ⟨rfl, _⟩ | modified
    · exact whole
    · exact modified_no_orphans whole modified
  | updatePreferences conversationID preferences now =>
    cases taken
    apply System.no_orphans_settle whole
    intro after done
    exact modified_no_orphans whole (update_preferences_ok done)
  | activate conversationID =>
    cases taken
    apply System.no_orphans_settle whole
    intro after done
    exact activate_conversation_no_orphans whole done

theorem faulty_step_settled (settled : Settled s) (taken : faultyStep env s attempt = some next) :
    Settled next := by
  obtain ⟨action, fault⟩ := attempt
  cases fault with
  | none => exact step_settled settled taken
  | some fault =>
    obtain ⟨tables, active, minted⟩ := failed_step_tables taken
    constructor
    · apply settled.anchored.stay
      · rw [active]
      · rw [tables]
      · rw [tables]
    · intro id known
      rw [tables] at known
      obtain ⟨clean, wasMinted⟩ := settled.minted id known
      exact ⟨clean, minted wasMinted⟩

theorem faulty_step_no_orphans (spared : env.cascade = true ∨ deletesNoMessages s attempt = true)
    (whole : s.store.db.NoOrphans) (taken : faultyStep env s attempt = some next) :
    next.store.db.NoOrphans := by
  obtain ⟨action, fault⟩ := attempt
  cases fault with
  | none => exact step_no_orphans spared whole taken
  | some fault =>
    rw [(failed_step_tables taken).1]
    exact whole

theorem System.LoadedWhole.no_orphans (loaded : s.LoadedWhole env) : s.store.db.NoOrphans := by
  obtain ⟨db, readLegacyState, newID, now, whole, _, done, _⟩ := loaded
  exact no_orphans_load whole done

theorem faulty_step_no_orphans_iff (notEnforced : env.cascade = false) (settled : Settled s)
    (whole : s.store.db.NoOrphans) (taken : faultyStep env s attempt = some next) :
    next.store.db.NoOrphans ↔ deletesNoMessages s attempt = true := by
  refine ⟨?_, fun spared => faulty_step_no_orphans (.inr spared) whole taken⟩
  intro wholeAfter
  unfold deletesNoMessages
  split
  next conversationID newID now isDelete noFault =>
    rw [faultyStep, noFault] at taken
    rw [isDelete] at taken
    obtain ⟨_, deleted⟩ := ite_none_right_eq_some.mp taken
    cases deleted
    rw [decide_eq_true_iff]
    by_cases known : trimSpace conversationID ∈ s.store.db.conversationIDs
    · obtain ⟨after, done⟩ := @delete_conversation_succeeds s.store conversationID env.cascade
        newID now (fun other mem => (settled.minted other mem).1) known
      have outcome := delete_conversation_no_orphans whole done
      rw [notEnforced] at outcome
      have isAfter : ((s.mint newID).settle (s.store.deleteConversation env.cascade
          conversationID newID now)).store = after := by
        rw [done]
        rfl
      rw [isAfter] at wholeAfter
      exact (outcome.mp wholeAfter).resolve_left Bool.false_ne_true
    · exact whole.no_messages known
  · rfl

/-- In a run in which no conversation is deleted while it has messages, every message refers to a
conversation, whatever transactions fail. A step that deletes one with messages, and no other, ends
this. -/
theorem messages_have_their_conversation {mkdirAll sqlOpen : Except String Unit}
    {execContext : String → Except String Unit} {migrate : Except Db.MigrationError Unit}
    {connection : Db.Connection} {summarize : String → String} {s : System}
    (opened : Db.openDatabase mkdirAll sqlOpen execContext migrate = .ok connection)
    (reachable : Reachable (System.LoadedWhole (.on connection summarize))
      (guarded deletesNoMessages (faultyStep (.on connection summarize))) s) :
    (s.store.db.NoOrphans ∧
      ∀ conversationID, conversationID ∉ s.store.db.conversationIDs →
        s.store.db.loadConversationMessages conversationID = []) ∧
    ∀ attempt next, faultyStep (.on connection summarize) s attempt = some next →
      (next.store.db.NoOrphans ↔ deletesNoMessages s attempt = true) := by
  have whole : Settled s ∧ s.store.db.NoOrphans := by
    apply reachable.invariant (fun isStart => ⟨isStart.loaded.settled, isStart.no_orphans⟩)
    rintro before attempt after ⟨settled, wholeBefore⟩ taken
    obtain ⟨spared, taken⟩ := guarded_eq_some.mp taken
    exact ⟨faulty_step_settled settled taken,
      faulty_step_no_orphans (.inr spared) wholeBefore taken⟩
  refine ⟨⟨whole.2, fun conversationID gone => whole.2.no_messages gone⟩, ?_⟩
  intro attempt next taken
  exact faulty_step_no_orphans_iff (Db.opened_without_foreign_keys opened) whole.1 whole.2 taken

theorem bootstrapped_whole : (System.bootstrapped "conv_a" 0).LoadedWhole (.on {} trimSpace) :=
  ⟨⟨[], [], ""⟩, .ok {}, "conv_a", 0, by decide, by decide, by decide +kernel, fun _ => rfl⟩

theorem messages_have_their_conversation_archived :
    ∃ s,
      Reachable (System.LoadedWhole (.on {} trimSpace))
        (guarded deletesNoMessages (faultyStep (.on {} trimSpace))) s ∧
      s.store.db.stored "msg_2" = some ("conv_a", "hello") ∧
      ((s.store.db.NoOrphans ∧
          ∀ conversationID, conversationID ∉ s.store.db.conversationIDs →
            s.store.db.loadConversationMessages conversationID = []) ∧
        ∀ attempt next, faultyStep (.on {} trimSpace) s attempt = some next →
          (next.store.db.NoOrphans ↔ deletesNoMessages s attempt = true)) := by
  have ran : (runActions (guarded deletesNoMessages (faultyStep (.on {} trimSpace)))
      (System.bootstrapped "conv_a" 0)
      [⟨.begin 0 (.submit "hi" "help" []) ["msg_1"] [1], none⟩, ⟨.append 0, none⟩,
        ⟨.archive "conv_a" "conv_b" 2, none⟩,
        ⟨.finish 0 ⟨"hello", "", none, ⟨"codex", ""⟩, none⟩ "msg_2" 3, none⟩,
        ⟨.delete "conv_a" "conv_c" 4, some (.statement "disk full")⟩,
        ⟨.delete "conv_b" "conv_d" 5, none⟩]).map (fun s =>
      decide (s.store.db.stored "msg_2" = some ("conv_a", "hello"))) = some true := by
    decide +kernel
  obtain ⟨s, reachable, stored⟩ := reachable_of_run bootstrapped_whole ran
  have opened : Db.openDatabase (.ok ()) (.ok ()) (fun _ => .ok ()) (.ok ()) = .ok {} := rfl
  exact ⟨s, reachable, of_decide_eq_true stored,
    messages_have_their_conversation opened reachable⟩

/-- A conversation is deleted after its first message, and the text stays, whatever the
stream of the answer still brings. -/
theorem deleted_conversation_leaves_text :
    Db.openDatabase (.ok ()) (.ok ()) (fun _ => .ok ()) (.ok ()) = .ok {} ∧
    ∃ s, Reachable (System.LoadedWhole (.on {} trimSpace)) (faultyStep (.on {} trimSpace)) s ∧
      "conv_a" ∉ s.store.db.conversationIDs ∧
      s.store.db.stored "msg_1" = some ("conv_a", "secret") ∧
      s.store.db.stored "msg_2" = some ("conv_a", "hello") ∧ ¬ s.store.db.NoOrphans := by
  have ran : (runActions (faultyStep (.on {} trimSpace)) (System.bootstrapped "conv_a" 0)
      [⟨.begin 0 (.submitStream "secret" "help" [] { kind := "codex" }) ["msg_1", "msg_2"] [1, 2],
          none⟩,
        ⟨.append 0, none⟩, ⟨.delete "conv_a" "conv_b" 3, none⟩,
        ⟨.delta 0 "hello" 4, none⟩]).map (fun s =>
      decide ("conv_a" ∉ s.store.db.conversationIDs ∧
        s.store.db.stored "msg_1" = some ("conv_a", "secret") ∧
        s.store.db.stored "msg_2" = some ("conv_a", "hello") ∧ ¬ s.store.db.NoOrphans)) =
      some true := by
    decide +kernel
  obtain ⟨s, reachable, tested⟩ := reachable_of_run bootstrapped_whole ran
  exact ⟨rfl, s, reachable, of_decide_eq_true tested⟩

end

end RuneTerminal.Conversation
