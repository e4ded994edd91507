import RuneTerminal.Conversation.ActiveConversation
import RuneTerminal.Conversation.Faults

/-! What the handlers of `handlers_agent_conversation.go` answer: the conversation that is active
afterwards, but for renaming and restoring the one that was named. Only what the agent panel shows
is kept. -/

namespace RuneTerminal.Conversation

open Go.Strings Option

structure Snapshot where
  id : String
  title : String
  messages : List Message
  deriving DecidableEq

def ConversationRecord.snapshot (record : ConversationRecord) (messages : List Message) :
    Snapshot where
  id := record.id
  title := record.title
  messages := messages

def Store.snapshotLocked (s : Store) : Snapshot := s.active.snapshot s.messages

inductive ApiRequest where
  | activateConversation (conversationID : String)
  | createConversation
  | renameConversation (conversationID title : String)
  | deleteConversation (conversationID : String)
  | archiveConversation (conversationID : String)
  | restoreConversation (conversationID : String)
  | conversationSnapshot
  | conversationList

/-- A snapshot, the id of the active conversation in a list, or the text of an error. -/
inductive ApiAnswer where
  | snapshot (snapshot : Snapshot)
  | list (activeConversationID : String)
  | failed (error : String)
  deriving DecidableEq

/-- The section of a request, with nothing to do for those that only read. -/
def ApiRequest.action (newID : String) (now : Nat) : ApiRequest → Option Action
  | .activateConversation conversationID => some (.activate conversationID)
  | .createConversation => some (.create newID now)
  | .renameConversation conversationID title => some (.rename conversationID title now)
  | .deleteConversation conversationID => some (.delete conversationID newID now)
  | .archiveConversation conversationID => some (.archive conversationID newID now)
  | .restoreConversation conversationID => some (.restore conversationID now)
  | .conversationSnapshot => none
  | .conversationList => none

def answerActive (result : Except ConversationError Store) : ApiAnswer :=
  match result with
  | .error err => .failed err.text
  | .ok next => .snapshot next.snapshotLocked

def answerNamed (conversationID : String) (result : Except ConversationError Store) :
    ApiAnswer :=
  match result with
  | .error err => .failed err.text
  | .ok next =>
    match next.db.loadConversationState (trimSpace conversationID) with
    | none => .failed ConversationError.conversationNotFound.text
    | some (record, messages) => .snapshot (record.snapshot messages)

def ApiRequest.result (env : Environment) (s : Store) (newID : String) (now : Nat) :
    ApiRequest → Except ConversationError Store
  | .activateConversation conversationID => s.activateConversation conversationID
  | .createConversation => .ok (s.createConversation newID now)
  | .renameConversation conversationID title =>
    s.renameConversation env.summarize conversationID title now
  | .deleteConversation conversationID =>
    s.deleteConversation env.cascade conversationID newID now
  | .archiveConversation conversationID => s.archiveConversation conversationID newID now
  | .restoreConversation conversationID => s.restoreConversation conversationID now
  | .conversationSnapshot => .ok s
  | .conversationList => .ok s

def ApiRequest.answer (env : Environment) (s : Store) (newID : String) (now : Nat)
    (request : ApiRequest) : ApiAnswer :=
  let result := request.result env s newID now
  match request with
  | .renameConversation conversationID _ => answerNamed conversationID result
  | .restoreConversation conversationID => answerNamed conversationID result
  | .conversationList => .list s.active.id
  | _ => answerActive result

def serve (env : Environment) (s : System) (newID : String) (now : Nat) (fault : Option Fault)
    (request : ApiRequest) : Option (System × ApiAnswer) :=
  let next :=
    match request.action newID now with
    | none => some s
    | some action => faultyStep env s ⟨action, fault⟩
  let answer :=
    match fault with
    | some fault => .failed fault.error.text
    | none => request.answer env s.store newID now
  next.map fun next => (next, answer)

section

variable {env : Environment} {s next : System} {newID id conversationID : String} {now : Nat}
  {request : ApiRequest} {answer : ApiAnswer} {snapshot : Snapshot} {fault : Option Fault}

theorem serve_fault {fault : Fault}
    (served : serve env s newID now (some fault) request = some (next, answer)) :
    answer = .failed fault.error.text ∧ next.store.active = s.store.active := by
  obtain ⟨after, taken, same⟩ := map_eq_some_iff.mp served
  cases same
  refine ⟨rfl, ?_⟩
  split at taken
  · cases taken
    rfl
  · exact (failed_step_tables taken).2.1

theorem serve_ok (served : serve env s newID now none request = some (next, answer)) :
    answer = request.answer env s.store newID now ∧
    next.store = s.store.after (request.result env s.store newID now) := by
  obtain ⟨after, taken, same⟩ := map_eq_some_iff.mp served
  cases same
  refine ⟨rfl, ?_⟩
  cases request with
  | createConversation | deleteConversation id
  | archiveConversation id =>
    simp only [ApiRequest.action, faultyStep, step] at taken
    obtain ⟨_, settled⟩ := ite_none_right_eq_some.mp taken
    rw [← some.inj settled]
    simp only [System.settle, System.mint, ApiRequest.result]
  | activateConversation id | renameConversation id title
  | restoreConversation id =>
    rw [← some.inj taken]
    simp only [System.settle, ApiRequest.result]
  | conversationSnapshot | conversationList =>
    cases taken
    rfl

theorem serve_read (reads : request.action newID now = none)
    (served : serve env s newID now fault request = some (next, answer)) : next = s := by
  obtain ⟨after, taken, same⟩ := map_eq_some_iff.mp served
  cases same
  rw [reads] at taken
  exact (some.inj taken).symm

variable {store after : Store}

theorem rename_keeps_active {summarize : String → String} {title : String}
    (done : store.renameConversation summarize id title now = .ok after) :
    after.active.id = store.active.id ∧ summarize title ≠ "" ∧
      trimSpace id ∈ store.db.conversationIDs := by
  obtain ⟨titled, before, record, held, sameID, _, _, reloads⟩ := rename_ok done
  exact ⟨reloads.same_active, titled, sameID ▸ mem_row_ids held.mem⟩

theorem restore_keeps_active (done : store.restoreConversation id now = .ok after) :
    after.active.id = store.active.id ∧ trimSpace id ∈ store.db.conversationIDs := by
  rcases restore_ok done with ⟨rfl, record, held, sameID⟩ |
    ⟨before, record, held, sameID, _, _, reloads⟩
  · exact ⟨rfl, sameID ▸ mem_row_ids held.mem⟩
  · exact ⟨reloads.same_active, sameID ▸ mem_row_ids held.mem⟩

theorem answer_named_snapshot {result : Except ConversationError Store}
    (answered : answerNamed conversationID result = .snapshot snapshot) :
    ∃ after, result = .ok after ∧ snapshot.id = trimSpace conversationID := by
  unfold answerNamed at answered
  split at answered
  · cases answered
  next after =>
    split at answered
    · cases answered
    next record messages loaded =>
      obtain rfl := ApiAnswer.snapshot.inj answered
      exact ⟨after, rfl, (load_state_spec loaded).1⟩

variable {title : String}

/-- The sections that return the conversation that is active after them. -/
def ApiRequest.returnsActive : ApiRequest → Bool
  | .renameConversation _ _ => false
  | .restoreConversation _ => false
  | .conversationList => false
  | _ => true

theorem answer_of_returns_active (returns : request.returnsActive = true) :
    request.answer env store newID now = answerActive (request.result env store newID now) := by
  cases request with
  | renameConversation | restoreConversation | conversationList => cases returns
  | activateConversation | createConversation | deleteConversation | archiveConversation
  | conversationSnapshot => rfl

theorem served_active (returns : request.returnsActive = true)
    (served : serve env s newID now fault request = some (next, answer)) :
    (∃ snapshot, answer = .snapshot snapshot ∧ snapshot.id = next.store.active.id) ∨
    (∃ text, answer = .failed text) ∧ next.store.active.id = s.store.active.id := by
  cases fault with
  | some fault =>
    obtain ⟨rfl, same⟩ := serve_fault served
    exact .inr ⟨⟨_, rfl⟩, congrArg _ same⟩
  | none =>
    obtain ⟨answered, store⟩ := serve_ok served
    rw [answer_of_returns_active returns] at answered
    cases outcome : request.result env s.store newID now with
    | error err =>
      rw [outcome] at answered store
      exact .inr ⟨⟨_, answered⟩, by rw [store]; rfl⟩
    | ok after =>
      rw [outcome] at answered store
      exact .inl ⟨_, answered, by rw [store]; rfl⟩

theorem served_named
    (isNamed : request.answer env s.store newID now =
      answerNamed conversationID (request.result env s.store newID now))
    (keeps : ∀ after, request.result env s.store newID now = .ok after →
      after.active.id = s.store.active.id)
    (served : serve env s newID now fault request = some (next, answer)) :
    next.store.active.id = s.store.active.id ∧
    ∀ snapshot, answer = .snapshot snapshot →
      snapshot.id = trimSpace conversationID ∧ fault = none ∧
        ∃ after, request.result env s.store newID now = .ok after := by
  cases fault with
  | some fault =>
    obtain ⟨rfl, same⟩ := serve_fault served
    refine ⟨congrArg _ same, ?_⟩
    intro snapshot answered
    cases answered
  | none =>
    obtain ⟨rfl, store⟩ := serve_ok served
    constructor
    · rw [store]
      cases outcome : request.result env s.store newID now with
      | error err => rfl
      | ok after => exact keeps after outcome
    · intro snapshot answered
      rw [isNamed] at answered
      obtain ⟨after, done, sameID⟩ := answer_named_snapshot answered
      exact ⟨sameID, rfl, after, done⟩

theorem served_rename
    (served : serve env s newID now fault (.renameConversation conversationID title) =
      some (next, answer)) :
    next.store.active.id = s.store.active.id ∧
    ∀ snapshot, answer = .snapshot snapshot →
      snapshot.id = trimSpace conversationID ∧ fault = none ∧ env.summarize title ≠ "" ∧
        trimSpace conversationID ∈ s.store.db.conversationIDs := by
  have keeps : ∀ after, (ApiRequest.renameConversation conversationID title).result env s.store
      newID now = .ok after → after.active.id = s.store.active.id := by
    intro after done
    exact (rename_keeps_active done).1
  obtain ⟨same, described⟩ := served_named rfl keeps served
  refine ⟨same, ?_⟩
  intro snapshot answered
  obtain ⟨sameID, noFault, after, done⟩ := described snapshot answered
  exact ⟨sameID, noFault, (rename_keeps_active done).2⟩

theorem served_restore
    (served : serve env s newID now fault (.restoreConversation conversationID) =
      some (next, answer)) :
    next.store.active.id = s.store.active.id ∧
    ∀ snapshot, answer = .snapshot snapshot →
      snapshot.id = trimSpace conversationID ∧ fault = none ∧
        trimSpace conversationID ∈ s.store.db.conversationIDs := by
  have keeps : ∀ after, (ApiRequest.restoreConversation conversationID).result env s.store
      newID now = .ok after → after.active.id = s.store.active.id := by
    intro after done
    exact (restore_keeps_active done).1
  obtain ⟨same, described⟩ := served_named rfl keeps served
  refine ⟨same, ?_⟩
  intro snapshot answered
  obtain ⟨sameID, noFault, after, done⟩ := described snapshot answered
  exact ⟨sameID, noFault, (restore_keeps_active done).2⟩

/-- Whether a conversation takes the place of the active one when a request is served. -/
def movesActive (store : Store) : ApiRequest → Bool
  | .deleteConversation conversationID => store.active.id = trimSpace conversationID
  | .archiveConversation conversationID =>
    store.active.id = trimSpace conversationID &&
      (store.db.loadConversationRecord (trimSpace conversationID)).all (·.archivedAt.isNone)
  | _ => false

theorem delete_unmoved {cascade : Bool}
    (unmoved : movesActive store (.deleteConversation conversationID) = false)
    (done : store.deleteConversation cascade conversationID newID now = .ok after) :
    after.active = store.active := by
  have other := of_decide_eq_false unmoved
  unfold Store.deleteConversation at done
  dsimp only at done
  split at done
  · cases done
  split at done
  · cases done
  · cases done
    rfl

theorem archive_unmoved (unmoved : movesActive store (.archiveConversation conversationID) = false)
    (done : store.archiveConversation conversationID newID now = .ok after) :
    after.active = store.active := by
  unfold Store.archiveConversation at done
  dsimp only at done
  split at done
  · cases done
  split at done
  · cases done
  next record loaded =>
    split at done
    · cases done
      rfl
    next notArchived =>
      have other : store.active.id ≠ trimSpace conversationID := by
        intro isActive
        simp [movesActive, isActive, loaded] at unmoved
        exact notArchived (by simpa using unmoved)
      rw [if_pos other] at done
      cases done
      rfl

theorem served_unmoved (unmoved : movesActive s.store request = false)
    (isMutation : request = .deleteConversation conversationID ∨
      request = .archiveConversation conversationID)
    (served : serve env s newID now fault request = some (next, answer)) :
    next.store.active.id = s.store.active.id := by
  cases fault with
  | some fault => exact congrArg _ (serve_fault served).2
  | none =>
    rw [(serve_ok served).2]
    cases outcome : request.result env s.store newID now with
    | error err => rfl
    | ok after =>
      rcases isMutation with rfl | rfl
      · simp only [ApiRequest.result] at outcome
        exact congrArg _ (delete_unmoved unmoved outcome)
      · simp only [ApiRequest.result] at outcome
        exact congrArg _ (archive_unmoved unmoved outcome)

theorem served_snapshot
    (served : serve env s newID now fault .conversationSnapshot = some (next, answer)) :
    next = s ∧ ∀ snapshot, answer = .snapshot snapshot → snapshot.id = s.store.active.id := by
  have same : next = s := serve_read rfl served
  refine ⟨same, ?_⟩
  rintro snapshot rfl
  rcases served_active rfl served with ⟨described, sameAnswer, isActive⟩ | ⟨⟨text, failed⟩, _⟩
  · rw [ApiAnswer.snapshot.inj sameAnswer, isActive, same]
  · cases failed

theorem served_list (served : serve env s newID now fault .conversationList = some (next, answer)) :
    next = s ∧
    ((∃ active, answer = .list active) ∨
      (∃ text, answer = .failed text) ∧ ∃ reason, fault = some reason) := by
  refine ⟨serve_read rfl served, ?_⟩
  cases fault with
  | some fault =>
    obtain ⟨rfl, _⟩ := serve_fault served
    exact .inr ⟨⟨_, rfl⟩, _, rfl⟩
  | none =>
    obtain ⟨rfl, _⟩ := serve_ok served
    exact .inl ⟨_, rfl⟩

theorem persist_keeps_active {assistant : Message} {nextSession : ProviderSessionState}
    (done : store.persistAssistantFinalization conversationID assistant nextSession = .ok after) :
    after.active.id = store.active.id := by
  obtain ⟨record, before, _, _, _, _, _, _, outcome⟩ := finalization_ok done
  rcases outcome with ⟨_, _, reloads⟩ | ⟨_, _, reloads⟩
  · exact reloads.same_active
  · exact reloads.same_active

theorem settle_keeps_active {ready : System} {result : Except ConversationError Store}
    (keeps : ∀ after, result = .ok after → after.active.id = ready.store.active.id) :
    (ready.settle result).store.active.id = ready.store.active.id := by
  cases outcome : result with
  | error err => rfl
  | ok after => exact keeps after outcome

def submits : Action → Bool
  | .begin _ _ _ _ => true
  | .append _ => true
  | .delta _ _ _ => true
  | .finish _ _ _ _ => true
  | _ => false

theorem submission_keeps_active {attempt : Attempt} (isSubmission : submits attempt.action = true)
    (taken : faultyStep env s attempt = some next) : next.store.active.id = s.store.active.id := by
  obtain ⟨action, fault⟩ := attempt
  cases fault with
  | some fault => exact congrArg _ (failed_step_tables taken).2.1
  | none =>
    simp only [faultyStep] at taken
    cases action with
    | begin call request newIDs times =>
      obtain ⟨_, started⟩ := ite_none_right_eq_some.mp taken
      cases started
      rfl
    | append call =>
      simp only [step] at taken
      split at taken
      · cases taken
        apply @settle_keeps_active s
        intro after done
        obtain ⟨_, _, _, _, reloads⟩ := append_messages_ok done
        exact reloads.same_active
      · cases taken
    | delta call text now =>
      simp only [step] at taken
      split at taken
      · split at taken
        · cases taken
        cases taken
        apply @settle_keeps_active s
        intro after done
        obtain ⟨_, _, _, rfl⟩ := append_delta_ok done
        rfl
      · cases taken
    | finish call completion newID now =>
      simp only [step] at taken
      split at taken
      · split at taken
        · cases taken
          apply @settle_keeps_active (s.mint newID)
          intro after done
          exact persist_keeps_active done
        · cases taken
      · cases taken
        apply @settle_keeps_active s
        intro after done
        obtain ⟨_, _, persisted⟩ := finalize_stream_ok done
        exact persist_keeps_active persisted
      · cases taken
    | _ => cases isSubmission

end

end RuneTerminal.Conversation
