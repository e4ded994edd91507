import RuneTerminal.Conversation.Agreement

/-! A transaction can fail at any of its statements, and then nothing of it is kept. Memory is
written after the commit, except that `appendAssistantDelta` extends the message in memory first. -/

namespace RuneTerminal.Conversation

open Go.Strings Kit List List.Subset

/-- Where a transaction fails: when it is begun, or at a statement or the commit. -/
inductive Fault where
  | begin (text : String)
  | statement (text : String)

def Fault.error : Fault → ConversationError
  | .begin text => .database text
  | .statement text => .database text

/-- `appendAssistantDelta` with a transaction that fails. -/
def Store.afterFailedDelta (s : Store) (fault : Fault) (conversationID messageID delta : String) :
    Store :=
  match fault with
  | .begin _ => s
  | .statement _ =>
    { s with
      messages :=
        if s.active.id = conversationID then
          s.messages.map fun message =>
            if message.id = messageID then { message with content := message.content ++ delta }
            else message
        else s.messages }

def failedStep (s : System) (fault : Fault) : Action → Option System
  | .begin _ _ _ _ => none
  | .append call =>
    match s.calls call with
    | .appending _ _ _ => some (s.setCall call (.finished (some fault.error)))
    | _ => none
  | .delta call text _ =>
    match s.calls call with
    | .streaming conversationID messageID _ =>
      if text = "" then none
      else some { s with
        store := s.store.afterFailedDelta fault conversationID messageID text }
    | _ => none
  | .finish call completion newID _ =>
    match s.calls call with
    | .completing conversationID _ =>
      if s.Fresh newID then
        some ({ s.mint newID with
          returned := noteSession conversationID completion s.returned }.setCall call
            (.finished (some fault.error)))
      else none
    | .streaming conversationID _ _ =>
      some ({ s with
        returned := noteSession conversationID completion s.returned }.setCall call
          (.finished (some fault.error)))
    | _ => none
  | .create newID _ => if s.Fresh newID then some (s.mint newID) else none
  | .delete _ newID _ => if s.Fresh newID then some (s.mint newID) else none
  | .archive _ newID _ => if s.Fresh newID then some (s.mint newID) else none
  | .rename _ _ _ => some s
  | .restore _ _ => some s
  | .updatePreferences _ _ _ => some s
  | .activate _ => some s

structure Attempt where
  action : Action
  fault : Option Fault := none

def faultyStep (env : Environment) (s : System) (attempt : Attempt) : Option System :=
  match attempt.fault with
  | none => step env s attempt.action
  | some fault => failedStep s fault attempt.action

/-- The steps that keep memory and tables together. Of the active conversation, messages come last
and are stored as given, the name of a provider is stored as it is, and a delta goes to a message
without provider and model, in a transaction that fails only before it has begun. -/
def keepsAgreement (s : System) (attempt : Attempt) : Bool :=
  match attempt.action, attempt.fault with
  | .append call, none =>
    match s.calls call with
    | .appending conversationID messages _ =>
      decide (s.store.active.id = trimSpace conversationID →
        (∀ message ∈ messages, StoredAsGiven message) ∧
          InOrder (s.store.messages ++ messages))
    | _ => true
  | .delta call _ _, none =>
    match s.calls call with
    | .streaming conversationID messageID _ =>
      decide (s.store.active.id = conversationID →
        ∀ message ∈ s.store.messages, message.id = messageID → Bare message)
    | _ => true
  | .delta call _ _, some (.statement _) =>
    match s.calls call with
    | .streaming conversationID messageID _ =>
      decide (s.store.active.id = conversationID →
        ∀ message ∈ s.store.messages, message.id ≠ messageID)
    | _ => true
  | .finish call completion newID now, none =>
    match s.calls call with
    | .completing conversationID _ =>
      decide (s.store.active.id = conversationID → TrimmedInfo completion.info ∧
        InOrder (s.store.messages ++ [Store.assistantResult newID now completion]))
    | .streaming conversationID _ _ =>
      decide (s.store.active.id = conversationID → TrimmedInfo completion.info)
    | _ => true
  | _, _ => true

section

variable {s next : System} {messageID : String} {store : Store} {fault : Fault} {call : Nat}
  {action : Action}

structure Consistent (s : System) : Prop where
  sound : Sound s
  agrees : Agrees s.store

theorem Agrees.settle {ready : System} {result : Except ConversationError Store}
    (agrees : Agrees s.store) (store : ready.store = s.store)
    (succeeds : ∀ after, result = .ok after → Agrees after) :
    Agrees (ready.settle result).store := by
  rw [System.settle, store]
  cases outcome : result with
  | error err => exact agrees
  | ok after => exact succeeds after outcome

theorem Sound.streamed_in {conversationID : String} {deltas : List String} (sound : Sound s)
    (isCall : s.calls call = .streaming conversationID messageID deltas) :
    ∀ entry, s.store.db.stored messageID = some entry → entry.1 = conversationID := by
  intro entry isStored
  have fits := sound.calls call
  rw [isCall] at fits
  rcases fits.2.2 with same | ⟨unstored, _⟩
  · rw [isStored] at same
    exact congrArg Prod.fst (Option.some.inj same)
  · rw [isStored] at unstored
    cases unstored

variable {env : Environment}

section

variable (inv : Consistent s) {now : Nat}
include inv

theorem append_agrees (kept : keepsAgreement s ⟨.append call, none⟩ = true)
    (taken : step env s (.append call) = some next) : Agrees next.store := by
  simp only [step] at taken
  simp only [keepsAgreement] at kept
  split at taken
  next id messages following isCall =>
    cases taken
    rw [isCall] at kept
    have fits := inv.sound.calls call
    rw [isCall] at fits
    obtain ⟨nodup, unstored, _⟩ := fits
    apply inv.agrees.settle rfl
    intro after done
    exact append_messages_agrees inv.agrees inv.sound.synced
      (fun message mem => (unstored message mem).2) nodup (of_decide_eq_true kept) done
  · cases taken

theorem delta_agrees {text : String} (kept : keepsAgreement s ⟨.delta call text now, none⟩ = true)
    (taken : step env s (.delta call text now) = some next) : Agrees next.store := by
  simp only [step] at taken
  simp only [keepsAgreement] at kept
  split at taken
  next id messageID deltas isCall =>
    split at taken
    · cases taken
    next nonempty =>
      cases taken
      rw [isCall] at kept
      apply inv.agrees.settle rfl
      intro after done
      exact append_delta_agrees inv.agrees inv.sound.synced nonempty
        (inv.sound.streamed_in isCall) (of_decide_eq_true kept) done
  · cases taken

theorem finish_agrees {completion : Completion} {newID : String}
    (kept : keepsAgreement s ⟨.finish call completion newID now, none⟩ = true)
    (taken : step env s (.finish call completion newID now) = some next) : Agrees next.store := by
  have synced := inv.sound.synced
  simp only [step] at taken
  simp only [keepsAgreement] at kept
  split at taken
  next id allowSessionUpdate isCall =>
    split at taken
    next isNew =>
      cases taken
      rw [isCall] at kept
      apply inv.agrees.settle rfl
      intro after done
      have unstored : s.store.db.stored newID = none := by
        rw [Option.eq_none_iff_forall_ne_some]
        intro entry isStored
        exact isNew.2 (inv.sound.rows _ _ isStored).1
      refine persist_new_agrees inv.agrees synced unstored ?_ done
      intro isActive
      obtain ⟨⟨kind, model⟩, inOrder⟩ := of_decide_eq_true kept isActive
      refine ⟨?_, inOrder⟩
      simp only [StoredAsGiven, Database.storedMessage, Store.assistantResult, kind, model,
        trim_space_twice]
    · cases taken
  next id messageID deltas isCall =>
    cases taken
    rw [isCall] at kept
    apply inv.agrees.settle rfl
    intro after done
    exact finalize_agrees inv.agrees synced (inv.sound.streamed_in isCall)
      (of_decide_eq_true kept) done
  · cases taken

theorem step_agrees (kept : keepsAgreement s ⟨action, none⟩ = true)
    (taken : step env s action = some next) : Agrees next.store := by
  have agrees := inv.agrees
  have synced := inv.sound.synced
  have clean : ∀ other ∈ s.store.db.conversationIDs, CleanID other :=
    fun other mem => (inv.sound.conversations other mem).2
  cases action with
  | begin call request newIDs times =>
    simp only [step] at taken
    split at taken
    · cases taken
      exact agrees
    · cases taken
  | append call => exact append_agrees inv kept taken
  | delta call text now => exact delta_agrees inv kept taken
  | finish call completion newID now => exact finish_agrees inv kept taken
  | create newID now =>
    simp only [step] at taken
    split at taken
    next isNew =>
      cases taken
      apply agrees.settle rfl
      intro after done
      cases done
      exact create_conversation_agrees synced (inv.sound.unused isNew)
    · cases taken
  | rename id title now =>
    cases taken
    apply agrees.settle rfl
    intro after done
    exact modified_agrees agrees (rename_ok done).2
  | delete id newID now =>
    simp only [step] at taken
    split at taken
    next isNew =>
      cases taken
      apply agrees.settle rfl
      intro after done
      exact delete_conversation_agrees agrees synced clean (inv.sound.unused isNew) done
    · cases taken
  | archive id newID now =>
    simp only [step] at taken
    split at taken
    next isNew =>
      cases taken
      apply agrees.settle rfl
      intro after done
      exact archive_conversation_agrees agrees synced (inv.sound.unused isNew) done
    · cases taken
  | restore id now =>
    cases taken
    apply agrees.settle rfl
    intro after done
    rcases restore_ok done with ⟨rfl, _⟩ | modified
    · exact agrees
    · exact modified_agrees agrees modified
  | updatePreferences id preferences now =>
    cases taken
    apply agrees.settle rfl
    intro after done
    exact modified_agrees agrees (update_preferences_ok done)
  | activate id =>
    cases taken
    apply agrees.settle rfl
    intro after done
    exact activate_conversation_agrees done

end

theorem after_failed_delta_same {store : Store} {fault : Fault} {id messageID delta : String}
    (untouched : ∀ text, fault = .statement text → store.active.id = id →
      ∀ message ∈ store.messages, message.id ≠ messageID) :
    store.afterFailedDelta fault id messageID delta = store := by
  cases fault with
  | begin text => rfl
  | statement text =>
    unfold Store.afterFailedDelta
    split_ifs with isActive
    · have same : (store.messages.map fun message => if message.id = messageID then
          { message with content := message.content ++ delta } else message) =
          store.messages := by
        conv_rhs => rw [← map_id store.messages]
        apply map_congr_left
        intro message mem
        exact if_neg (untouched text rfl isActive message mem)
      rw [same]
    · rfl

theorem failed_step_spec (kept : keepsAgreement s ⟨action, some fault⟩ = true)
    (taken : failedStep s fault action = some next) :
    next.store = s.store ∧
    (∃ newIDs, next.minted = newIDs ++ s.minted ∧ ∀ newID ∈ newIDs, s.Fresh newID) ∧
    (next.calls = s.calls ∨
      ∃ call, next.calls = (s.setCall call (.finished (some fault.error))).calls) := by
  have nothing : ∃ newIDs, s.minted = newIDs ++ s.minted ∧ ∀ newID ∈ newIDs, s.Fresh newID :=
    ⟨[], rfl, nothing_new⟩
  have one : ∀ {newID}, s.Fresh newID → ∃ newIDs, newID :: s.minted = newIDs ++ s.minted ∧
      ∀ newID ∈ newIDs, s.Fresh newID := fun isNew => ⟨[_], rfl, one_new isNew⟩
  cases action with
  | begin call request newIDs times => cases taken
  | append call =>
    simp only [failedStep] at taken
    split at taken
    · cases taken
      exact ⟨rfl, nothing, .inr ⟨call, rfl⟩⟩
    · cases taken
  | delta call text now =>
    simp only [failedStep] at taken
    split at taken
    next id messageID deltas isCall =>
      split at taken
      · cases taken
      cases taken
      refine ⟨after_failed_delta_same ?_, nothing, .inl rfl⟩
      rintro text rfl
      simp only [keepsAgreement, isCall] at kept
      exact of_decide_eq_true kept
    · cases taken
  | finish call completion newID now =>
    simp only [failedStep] at taken
    split at taken
    · split at taken
      next isNew =>
        cases taken
        exact ⟨rfl, one isNew, .inr ⟨call, rfl⟩⟩
      · cases taken
    · cases taken
      exact ⟨rfl, nothing, .inr ⟨call, rfl⟩⟩
    · cases taken
  | create | delete | archive =>
    simp only [failedStep] at taken
    obtain ⟨isNew, minted⟩ := Option.ite_none_right_eq_some.mp taken
    cases minted
    exact ⟨rfl, one isNew, .inl rfl⟩
  | rename | restore | updatePreferences | activate =>
    cases taken
    exact ⟨rfl, nothing, .inl rfl⟩

theorem failed_step_tables (taken : failedStep s fault action = some next) :
    next.store.db = s.store.db ∧ next.store.active = s.store.active ∧ s.minted ⊆ next.minted := by
  cases action with
  | begin call request newIDs times => cases taken
  | append call =>
    simp only [failedStep] at taken
    split at taken
    · cases taken
      exact ⟨rfl, rfl, refl _⟩
    · cases taken
  | delta call text now =>
    simp only [failedStep] at taken
    split at taken
    · split at taken
      · cases taken
      cases taken
      cases fault with
      | begin | statement => exact ⟨rfl, rfl, refl _⟩
    · cases taken
  | finish call completion newID now =>
    simp only [failedStep] at taken
    split at taken
    · split at taken
      · cases taken
        exact ⟨rfl, rfl, subset_cons_self _ _⟩
      · cases taken
    · cases taken
      exact ⟨rfl, rfl, refl _⟩
    · cases taken
  | create newID now | delete id newID now | archive id newID now =>
    simp only [failedStep] at taken
    obtain ⟨_, minted⟩ := Option.ite_none_right_eq_some.mp taken
    cases minted
    exact ⟨rfl, rfl, subset_cons_self _ _⟩
  | rename id title now | restore id now
  | updatePreferences id preferences now | activate id =>
    cases taken
    exact ⟨rfl, rfl, refl _⟩

theorem failed_step_sound (sound : Sound s) (kept : keepsAgreement s ⟨action, some fault⟩ = true)
    (taken : failedStep s fault action = some next) : Sound next := by
  obtain ⟨store, ⟨newIDs, minted, isNew⟩, calls⟩ := failed_step_spec kept taken
  have effect : Effect s.store next.store (fun _ => False) [] := by
    rw [store]
    exact .refl sound.synced _ []
  rcases calls with same | ⟨call, moved⟩
  · exact sound.next_quiet effect minted isNew (by simp) same
  · exact call_sound sound effect minted moved isNew (fun _ => False.elim)
      (fun _ mem => by cases mem) trivial

theorem faulty_step_consistent {attempt : Attempt} (inv : Consistent s)
    (taken : guarded keepsAgreement (faultyStep env) s attempt = some next) : Consistent next := by
  obtain ⟨kept, taken⟩ := guarded_eq_some.mp taken
  obtain ⟨action, fault⟩ := attempt
  cases fault with
  | none => exact ⟨step_sound inv.sound taken, step_agrees inv kept taken⟩
  | some fault =>
    refine ⟨failed_step_sound inv.sound kept taken, ?_⟩
    rw [(failed_step_spec kept taken).1]
    exact inv.agrees

/-- Loading the active conversation gives its record and its messages as they are in memory,
whatever transactions fail. -/
theorem memory_agrees_with_tables {env : Environment} {s : System}
    (reachable : Reachable System.Initial (guarded keepsAgreement (faultyStep env)) s) :
    s.store.db.loadConversationState s.store.active.id = some (s.store.active, s.store.messages) :=
  (reachable.invariant (fun isStart => ⟨isStart.sound, isStart.loaded⟩)
    faulty_step_consistent).agrees

theorem memory_agrees_with_tables_switched :
    ∃ s, Reachable System.Initial (guarded keepsAgreement (faultyStep ⟨true, trimSpace⟩)) s ∧
      (s.store.messages.map Message.content = ["list"] ∧
        s.store.db.stored "msg_3" = some ("conv_a", "partial")) ∧
      s.store.db.loadConversationState s.store.active.id =
        some (s.store.active, s.store.messages) := by
  have ran : (runActions (guarded keepsAgreement (faultyStep ⟨true, trimSpace⟩))
      (System.bootstrapped "conv_a" 0)
      [⟨.begin 0 (.submit "hi" "help" []) ["msg_1"] [1], none⟩,
        ⟨.append 0, some (.statement "disk full")⟩,
        ⟨.begin 1 (.submitStream "hi" "help" [] { kind := "codex" }) ["msg_2", "msg_3"] [2, 3],
          none⟩,
        ⟨.append 1, none⟩, ⟨.create "conv_b" 4, none⟩, ⟨.delta 1 "partial" 5, none⟩,
        ⟨.delta 1 "more" 6, some (.statement "disk full")⟩,
        ⟨.begin 2 (.submit "list" "help" []) ["msg_4"] [7], none⟩, ⟨.append 2, none⟩,
        ⟨.rename "conv_b" "files" 8, none⟩]).map (fun s =>
      decide (s.store.messages.map Message.content = ["list"] ∧
        s.store.db.stored "msg_3" = some ("conv_a", "partial"))) = some true := by
    decide +kernel
  obtain ⟨s, reachable, contents⟩ :=
    reachable_of_run (bootstrapped_initial (by decide) 0) ran
  exact ⟨s, reachable, of_decide_eq_true contents, memory_agrees_with_tables reachable⟩

theorem Agrees.stored (agrees : Agrees store) :
    ∀ message ∈ store.messages, message ∈ store.db.messages.map Row.message := by
  intro message mem
  rw [(agrees_iff.mp agrees).2, (Database.loaded_perm _).mem_iff] at mem
  exact (filter_sublist.map _).subset mem

theorem first_delta_parts {fault : Option Fault} {content : String}
    (ran : (runActions (faultyStep ⟨true, trimSpace⟩) (System.bootstrapped "conv_a" 0)
      [⟨.begin 0 (.submitStream "hi" "help" [] { kind := "codex" }) ["msg_1", "msg_2"] [1, 2],
        none⟩,
        ⟨.append 0, none⟩, ⟨.delta 0 "hello" 3, fault⟩]).map
      (fun s =>
        decide
          (s.store.db.stored "msg_2" = some ("conv_a", content) ∧
            ¬ ∀ message ∈ s.store.messages, message ∈ s.store.db.messages.map Row.message)) =
      some true) :
    ∃ s, Reachable System.Initial (faultyStep ⟨true, trimSpace⟩) s ∧
      s.store.db.stored "msg_2" = some ("conv_a", content) ∧
      ¬ s.store.db.loadConversationState s.store.active.id =
        some (s.store.active, s.store.messages) := by
  obtain ⟨s, reachable, tested⟩ :=
    reachable_of_run (bootstrapped_initial (by decide) 0) ran
  obtain ⟨stored, apart⟩ := of_decide_eq_true tested
  refine ⟨s, reachable, stored, ?_⟩
  intro agrees
  exact apart (Agrees.stored agrees)

/-- A delta that succeeds clears the provider of its message in the tables only, and a
delta whose transaction fails is in memory only. -/
theorem delta_parts_memory_from_tables :
    (∃ s, Reachable System.Initial (faultyStep ⟨true, trimSpace⟩) s ∧
      s.store.db.stored "msg_2" = some ("conv_a", "hello") ∧
      ¬ s.store.db.loadConversationState s.store.active.id =
        some (s.store.active, s.store.messages)) ∧
      ∃ s, Reachable System.Initial (faultyStep ⟨true, trimSpace⟩) s ∧
        s.store.db.stored "msg_2" = some ("conv_a", "") ∧
        ¬ s.store.db.loadConversationState s.store.active.id =
          some (s.store.active, s.store.messages) := by
  constructor
  · exact @first_delta_parts none "hello" (by decide +kernel)
  · exact @first_delta_parts (some (.statement "disk full")) "" (by decide +kernel)

end

end RuneTerminal.Conversation
