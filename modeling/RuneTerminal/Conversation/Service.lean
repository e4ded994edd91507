import RuneTerminal.Conversation.Store

/-! The locked sections of `core/conversation/service.go`. A section returns the state after it, or
the error with which it leaves everything as it was; statements and commits do not fail. -/

namespace RuneTerminal.Conversation

open Go.Strings List

/-- The tables, and the fields `active` and `state` of the service. -/
structure Store where
  db : Database
  active : ConversationRecord
  messages : List Message
  updatedAt : Nat
  deriving DecidableEq

namespace Store

variable (s : Store)

def remember (record : ConversationRecord) (messages : List Message) : Store :=
  { s with active := record, messages := messages, updatedAt := record.updatedAt }

def createConversation (newID : String) (now : Nat) : Store :=
  let record := newConversationRecord newID now
  let db := (s.db.insertConversation record).setActiveConversation record.id
  { s with db := db }.remember record []

/-- The common form of the sections that change the record of a conversation. -/
def modifyConversation (conversationID : String)
    (change : ConversationRecord → ConversationRecord) : Except ConversationError Store :=
  let conversationID := trimSpace conversationID
  if conversationID = "" then .error .conversationNotFound
  else
    match s.db.loadConversationState conversationID with
    | none => .error .conversationNotFound
    | some (record, messages) =>
      let record := change record
      let next := { s with db := s.db.updateConversation record }
      .ok (if s.active.id = conversationID then next.remember record messages else next)

/-- `summarize` is `summarizeConversationTitle`, which cuts the title at a byte. -/
def renameConversation (summarize : String → String) (conversationID title : String)
    (now : Nat) : Except ConversationError Store :=
  if trimSpace conversationID = "" then .error .conversationNotFound
  else if summarize title = "" then .error .invalidConversationTitle
  else s.modifyConversation conversationID fun record =>
    { record with title := summarize title, updatedAt := now }

def normalizeContextPreferences (preferences : ContextPreferences) : ContextPreferences :=
  { preferences with
    widgetIDs := preferences.widgetIDs.foldl (fun widgetIDs widgetID =>
      if trimSpace widgetID = "" ∨ trimSpace widgetID ∈ widgetIDs then widgetIDs
      else widgetIDs ++ [trimSpace widgetID]) [] }

def updateConversationContextPreferences (conversationID : String)
    (preferences : ContextPreferences) (now : Nat) : Except ConversationError Store :=
  s.modifyConversation conversationID fun record =>
    { record with contextPreferences := normalizeContextPreferences preferences, updatedAt := now }

def restoreConversation (conversationID : String) (now : Nat) : Except ConversationError Store :=
  match s.db.loadConversationRecord (trimSpace conversationID) with
  | none => .error .conversationNotFound
  | some record =>
    if trimSpace conversationID = "" then .error .conversationNotFound
    else if record.archivedAt.isNone then .ok s
    else s.modifyConversation conversationID fun record =>
      { record with archivedAt := none, updatedAt := now }

/-- The conversation that follows the active one when it goes: the candidate, or a
new one when there is none. -/
def nextActive (db : Database) (candidate : Option String) (newID : String) (now : Nat) :
    Except ConversationError (Database × ConversationRecord × List Message) :=
  match candidate with
  | some conversationID =>
    match db.loadConversationState conversationID with
    | none => .error .conversationNotFound
    | some (record, messages) => .ok (db, record, messages)
  | none =>
    let record := newConversationRecord newID now
    .ok (db.insertConversation record, record, [])

def deleteConversation (cascade : Bool) (conversationID newID : String) (now : Nat) :
    Except ConversationError Store :=
  let conversationID := trimSpace conversationID
  if conversationID = "" then .error .conversationNotFound
  else
    match s.db.loadConversationRecord conversationID with
    | none => .error .conversationNotFound
    | some _ =>
      if s.active.id = conversationID then
        match nextActive s.db (s.db.nextConversationCandidate conversationID) newID now with
        | .error err => .error err
        | .ok (db, record, messages) =>
          let db := (db.deleteConversation cascade conversationID).setActiveConversation
            record.id
          .ok ({ s with db := db }.remember record messages)
      else .ok { s with db := s.db.deleteConversation cascade conversationID }

def archiveConversation (conversationID newID : String) (now : Nat) :
    Except ConversationError Store :=
  let conversationID := trimSpace conversationID
  if conversationID = "" then .error .conversationNotFound
  else
    match s.db.loadConversationRecord conversationID with
    | none => .error .conversationNotFound
    | some record =>
      if record.archivedAt.isSome then .ok s
      else
        let db := s.db.updateConversation { record with archivedAt := some now, updatedAt := now }
        if s.active.id ≠ conversationID then .ok { s with db := db }
        else
          match nextActive db (db.nextUnarchivedConversationCandidate conversationID) newID
            now with
          | .error err => .error err
          | .ok (db, record, messages) =>
            .ok ({ s with db := db.setActiveConversation record.id }.remember record messages)

def activateConversation (conversationID : String) : Except ConversationError Store :=
  let conversationID := trimSpace conversationID
  if conversationID = "" then .error .conversationNotFound
  else
    match s.db.loadConversationState conversationID with
    | none => .error .conversationNotFound
    | some (record, messages) =>
      .ok ({ s with db := s.db.setActiveConversation conversationID }.remember record messages)

def titleFromMessages (summarize : String → String) (messages : List Message) : String :=
  ((messages.filter (·.role = .user)).map fun message => summarize message.content).find?
    (· ≠ "") |>.getD ""

def appendMessagesForConversation (summarize : String → String) (conversationID : String)
    (messages : List Message) : Except ConversationError Store :=
  let conversationID := trimSpace conversationID
  if conversationID = "" then .error .conversationNotFound
  else
    match s.db.loadConversationState conversationID with
    | none => .error .conversationNotFound
    | some (record, persisted) =>
      let record :=
        { record with
          updatedAt := (messages.getLast?.map Message.createdAt).getD record.updatedAt
          title :=
            if record.title = "" then titleFromMessages summarize messages else record.title }
      let db := (s.db.insertConversationMessages conversationID messages).updateConversation
        record
      let next := { s with db := db }
      .ok (if s.active.id = conversationID then next.remember record (persisted ++ messages)
        else next)

/-- A delta goes to the message in memory and from there to the table, or, when the message is not
in memory, to the table alone. The id is a primary key. -/
def appendAssistantDelta (conversationID messageID delta : String) (now : Nat) :
    Except ConversationError Store :=
  let remembered :=
    if s.active.id = conversationID then s.messages.find? (·.id == messageID) else none
  let messages :=
    if s.active.id = conversationID then
      s.messages.map fun message =>
        if message.id = messageID then { message with content := message.content ++ delta }
        else message
    else s.messages
  let content := (remembered.map fun message => message.content ++ delta).getD ""
  let content :=
    if content = "" then
      (s.db.loadMessageByID messageID).map fun message => message.content ++ delta
    else some content
  match content with
  | none => .error .invalidMessage
  | some content =>
    .ok { s with
      db := s.db.updateConversationMessageContent messageID content .streaming "" "" ""
      messages := messages
      updatedAt := if s.active.id = conversationID then now else s.updatedAt }

def persistAssistantFinalization (conversationID : String) (assistant : Message)
    (nextSession : ProviderSessionState) : Except ConversationError Store :=
  match s.db.loadConversationState conversationID with
  | none => .error .conversationNotFound
  | some (record, persisted) =>
    let known := persisted.any (·.id == assistant.id)
    let persisted :=
      if known then
        persisted.map fun message => if message.id = assistant.id then assistant else message
      else persisted ++ [assistant]
    let db :=
      if known then
        s.db.updateConversationMessageContent assistant.id assistant.content assistant.status
          assistant.reasoning assistant.provider assistant.model
      else s.db.insertConversationMessages conversationID [assistant]
    let record := { record with session := nextSession, updatedAt := assistant.createdAt }
    let next := { s with db := db.updateConversation record }
    .ok (if s.active.id = conversationID then next.remember record persisted else next)

def assistantResult (newID : String) (now : Nat) (completion : Completion) : Message :=
  let content :=
    match completion.error with
    | some err => trimSpace err.text
    | none => trimSpace completion.content
  { id := newID
    role := .assistant
    content := if content = "" then emptyResponse else content
    status := if completion.error.isSome then .error else .complete
    provider := completion.info.kind
    model := completion.info.model
    reasoning := trimSpace (reasoningFromResult completion)
    createdAt := now }

def appendAssistantResult (conversationID newID : String) (now : Nat) (completion : Completion)
    (allowSessionUpdate : Bool) : Except ConversationError Store :=
  s.persistAssistantFinalization conversationID (assistantResult newID now completion)
    (nextProviderSessionState s.active.session completion.info.kind completion.session
      allowSessionUpdate)

/-- The streamed message as its completion leaves it. An error keeps what was
streamed, and a result replaces it. -/
def finalizedMessage (assistant : Message) (completion : Completion) : Message :=
  let current := trimSpace assistant.content
  let content :=
    match completion.error with
    | some err => if current = "" then trimSpace err.text else assistant.content
    | none =>
      if trimSpace completion.content ≠ "" then trimSpace completion.content
      else if current = "" then emptyResponse
      else assistant.content
  { assistant with
    content := if content = "" then emptyResponse else content
    status := if completion.error.isSome then .error else .complete
    provider := completion.info.kind
    model := completion.info.model
    reasoning := reasoningFromResult completion }

def finalizeAssistantStreamResult (conversationID messageID : String) (completion : Completion) :
    Except ConversationError Store :=
  let assistant :=
    if s.active.id = conversationID then s.messages.find? (·.id == messageID)
    else s.db.loadMessageByID messageID
  match assistant with
  | none => .error .invalidMessage
  | some assistant =>
    s.persistAssistantFinalization conversationID (finalizedMessage assistant completion)
      (nextProviderSessionState s.active.session completion.info.kind completion.session true)

end Store

def Database.Holds (db : Database) (record : ConversationRecord) : Prop :=
  db.loadConversationRecord record.id = some record

variable {db : Database} {record : ConversationRecord} {messages : List Message}

theorem Database.Holds.mem (held : db.Holds record) : record ∈ db.conversations :=
  mem_of_find?_eq_some held

variable {conversationID : String}

theorem load_record_spec (loaded : db.loadConversationRecord conversationID = some record) :
    record.id = conversationID ∧ db.Holds record := by
  have same : record.id = conversationID := by simpa using find?_some loaded
  refine ⟨same, ?_⟩
  rw [Database.Holds, same]
  exact loaded

theorem load_state_spec
    (loaded : db.loadConversationState conversationID = some (record, messages)) : record.id =
    conversationID ∧ db.Holds record ∧ messages = db.loadConversationMessages conversationID := by
  obtain ⟨found, isFound, same⟩ := Option.map_eq_some_iff.mp loaded
  cases same
  exact ⟨(load_record_spec isFound).1, (load_record_spec isFound).2, rfl⟩

/-- The memory after a section that loaded a conversation: it is replaced when the
conversation is the active one. -/
def Reloads (s next : Store) (record : ConversationRecord) (messages : List Message) : Prop :=
  (s.active.id = record.id ∧ next.active = record ∧ next.messages = messages) ∨
    (s.active.id ≠ record.id ∧ next.active = s.active ∧ next.messages = s.messages)

/-- The conversation that takes the place of the active one is the candidate as the
tables have it, or new. -/
def TakesOver (db before : Database) (candidate : Option String) (record : ConversationRecord)
    (messages : List Message) (newID : String) : Prop :=
  (db = before ∧ candidate = some record.id ∧ before.Holds record ∧
      messages = before.loadConversationMessages record.id) ∨
    (∃ now, record = newConversationRecord newID now ∧ db = before.insertConversation record ∧
      messages = [])

/-- The row of a conversation gets a new time. Its id, its session and the time of its
creation stay. -/
def Modified (s next : Store) (conversationID : String) (now : Nat) : Prop :=
  ∃ before record, s.db.Holds before ∧ before.id = trimSpace conversationID ∧
    (record.id = before.id ∧ record.session = before.session ∧
      record.createdAt = before.createdAt ∧ record.updatedAt = now) ∧
    next.db = s.db.updateConversation record ∧
    Reloads s next record (s.db.loadConversationMessages record.id)

section

variable {s next : Store} {now : Nat} {newID : String} {summarize : String → String}

theorem modify_conversation_ok {change : ConversationRecord → ConversationRecord}
    (keeps : ∀ record, (change record).id = record.id ∧ (change record).session = record.session ∧
      (change record).createdAt = record.createdAt ∧ (change record).updatedAt = now)
    (done : s.modifyConversation conversationID change = .ok next) :
    Modified s next conversationID now := by
  unfold Store.modifyConversation at done
  dsimp only at done
  split at done
  · cases done
  split at done
  · cases done
  next record messages loaded =>
    obtain ⟨sameID, mem, rfl⟩ := load_state_spec loaded
    cases done
    have keepsID := (keeps record).1
    refine ⟨record, change record, mem, sameID, keeps record, ?_, ?_⟩
    · split_ifs <;> rfl
    rw [Reloads, keepsID, sameID]
    split_ifs with isActive
    · exact .inl ⟨isActive, rfl, rfl⟩
    · exact .inr ⟨isActive, rfl, rfl⟩

theorem rename_ok {title : String}
    (done : s.renameConversation summarize conversationID title now = .ok next) :
    summarize title ≠ "" ∧ Modified s next conversationID now := by
  unfold Store.renameConversation at done
  split_ifs at done with _ blank
  refine ⟨blank, modify_conversation_ok ?_ done⟩
  exact fun _ => ⟨rfl, rfl, rfl, rfl⟩

theorem update_preferences_ok {preferences : ContextPreferences}
    (done : s.updateConversationContextPreferences conversationID preferences now = .ok next) :
    Modified s next conversationID now := by
  refine modify_conversation_ok ?_ done
  exact fun _ => ⟨rfl, rfl, rfl, rfl⟩

theorem restore_ok (done : s.restoreConversation conversationID now = .ok next) :
    (next = s ∧ ∃ record, s.db.Holds record ∧ record.id = trimSpace conversationID) ∨
    Modified s next conversationID now := by
  unfold Store.restoreConversation at done
  split at done
  · cases done
  next record loaded =>
    obtain ⟨sameID, held⟩ := load_record_spec loaded
    split_ifs at done
    · exact .inl ⟨(Except.ok.inj done).symm, record, held, sameID⟩
    · refine .inr (modify_conversation_ok ?_ done)
      exact fun _ => ⟨rfl, rfl, rfl, rfl⟩

theorem next_candidate_other {excluding candidate : String}
    (found : db.nextConversationCandidate excluding = some candidate) :
    ∃ record ∈ db.conversations, record.id ≠ excluding ∧ candidate = trimSpace record.id := by
  obtain ⟨record, isFirst, rfl⟩ := Option.map_eq_some_iff.mp found
  have member := mem_mergeSort.mp (mem_of_mem_head? isFirst)
  rw [mem_filter] at member
  exact ⟨record, member.1, by simpa using member.2, rfl⟩

theorem next_active_ok {before : Database} {candidate : Option String}
    (done : Store.nextActive before candidate newID now = .ok (db, record, messages)) :
    TakesOver db before candidate record messages newID := by
  unfold Store.nextActive at done
  split at done
  · split at done
    · cases done
    next loaded =>
      obtain ⟨sameID, mem, rfl⟩ := load_state_spec loaded
      cases done
      exact .inl ⟨rfl, by rw [sameID], mem, by rw [sameID]⟩
  · cases done
    exact .inr ⟨now, rfl, rfl, rfl⟩

theorem delete_conversation_ok {cascade : Bool}
    (done : s.deleteConversation cascade conversationID newID now = .ok next) :
    (∃ deleted, s.db.Holds deleted ∧ deleted.id = trimSpace conversationID) ∧
    ((s.active.id ≠ trimSpace conversationID ∧
        next = { s with db := s.db.deleteConversation cascade (trimSpace conversationID) }) ∨
      ∃ db record messages,
        TakesOver db s.db (s.db.nextConversationCandidate (trimSpace conversationID)) record
          messages newID ∧
        next.db =
          (db.deleteConversation cascade (trimSpace conversationID)).setActiveConversation
            record.id ∧
        next.active = record ∧ next.messages = messages) := by
  unfold Store.deleteConversation at done
  dsimp only at done
  split at done
  · cases done
  split at done
  · cases done
  next deleted loaded =>
    refine ⟨⟨deleted, (load_record_spec loaded).2, (load_record_spec loaded).1⟩, ?_⟩
    split at done
    · split at done
      · cases done
      next db record messages taken =>
        cases done
        exact .inr ⟨db, record, messages, next_active_ok taken, rfl, rfl, rfl⟩
    next other =>
      cases done
      exact .inl ⟨other, rfl⟩

theorem archive_ok (done : s.archiveConversation conversationID newID now = .ok next) :
    next = s ∨ ∃ record, s.db.Holds record ∧ record.id = trimSpace conversationID ∧
      let archived := s.db.updateConversation
        { record with archivedAt := some now, updatedAt := now }
      (s.active.id ≠ record.id ∧ next = { s with db := archived }) ∨
        ∃ db follower messages, TakesOver db archived
            (archived.nextUnarchivedConversationCandidate (trimSpace conversationID)) follower
            messages newID ∧
          next.db = db.setActiveConversation follower.id ∧ next.active = follower ∧
            next.messages = messages := by
  unfold Store.archiveConversation at done
  dsimp only at done
  split at done
  · cases done
  split at done
  · cases done
  next record loaded =>
    obtain ⟨sameID, held⟩ := load_record_spec loaded
    split at done
    · cases done
      exact .inl rfl
    split at done
    next other =>
      cases done
      exact .inr ⟨record, held, sameID, .inl ⟨sameID ▸ other, rfl⟩⟩
    · split at done
      · cases done
      next db follower messages taken =>
        cases done
        exact .inr ⟨record, held, sameID, .inr
          ⟨db, follower, messages, next_active_ok taken, rfl, rfl, rfl⟩⟩

theorem activate_ok (done : s.activateConversation conversationID = .ok next) :
    ∃ record, s.db.Holds record ∧ next.active = record ∧ next.messages =
    s.db.loadConversationMessages record.id ∧ next.db = s.db.setActiveConversation record.id := by
  unfold Store.activateConversation at done
  dsimp only at done
  split at done
  · cases done
  split at done
  · cases done
  next record messages loaded =>
    obtain ⟨sameID, mem, rfl⟩ := load_state_spec loaded
    cases done
    exact ⟨record, mem, rfl, by rw [sameID]; rfl, by rw [sameID]; rfl⟩

section

variable (done : s.appendMessagesForConversation summarize conversationID messages = .ok next)
include done

theorem append_messages_row : ∃ record, (∃ before, s.db.Holds before ∧ record.id = before.id ∧
    record.session = before.session ∧ record.createdAt = before.createdAt ∧
    record.updatedAt = (messages.getLast?.map Message.createdAt).getD before.updatedAt) ∧
    record.id = trimSpace conversationID ∧
    next.db = (s.db.insertConversationMessages record.id messages).updateConversation record ∧
    Reloads s next record (s.db.loadConversationMessages record.id ++ messages) := by
  unfold Store.appendMessagesForConversation at done
  dsimp only at done
  split at done
  · cases done
  split at done
  · cases done
  next record persisted loaded =>
    obtain ⟨sameID, mem, rfl⟩ := load_state_spec loaded
    rw [← sameID] at done ⊢
    cases done
    refine ⟨{ record with
      updatedAt := (messages.getLast?.map Message.createdAt).getD record.updatedAt
      title := if record.title = "" then Store.titleFromMessages summarize messages
        else record.title }, ⟨record, mem, rfl, rfl, rfl, rfl⟩, rfl, ?_⟩
    by_cases isActive : s.active.id = record.id
    · rw [if_pos isActive]
      exact ⟨rfl, .inl ⟨isActive, rfl, rfl⟩⟩
    · rw [if_neg isActive]
      exact ⟨rfl, .inr ⟨isActive, rfl, rfl⟩⟩

theorem append_messages_ok : ∃ record, (∃ before, s.db.Holds before ∧ record.id = before.id ∧
    record.session = before.session ∧ record.createdAt = before.createdAt) ∧
    record.id = trimSpace conversationID ∧
    next.db = (s.db.insertConversationMessages record.id messages).updateConversation record ∧
    Reloads s next record (s.db.loadConversationMessages record.id ++ messages) := by
  obtain ⟨record, ⟨before, held, sameID, session, createdAt, _⟩, outcome⟩ :=
    append_messages_row done
  exact ⟨record, ⟨before, held, sameID, session, createdAt⟩, outcome⟩

end

theorem append_delta_ok {id delta : String}
    (done : s.appendAssistantDelta conversationID id delta now = .ok next) :
    ∃ content messages updatedAt, next =
      { s with
        db := s.db.updateConversationMessageContent id content .streaming "" "" ""
        messages := messages
        updatedAt := updatedAt } := by
  unfold Store.appendAssistantDelta at done
  dsimp only at done
  split at done
  · cases done
  · exact ⟨_, _, _, (Except.ok.inj done).symm⟩

theorem finalize_stream_ok {id : String} {completion : Completion}
    (done : s.finalizeAssistantStreamResult conversationID id completion = .ok next) :
    ∃ assistant,
      (if s.active.id = conversationID then s.messages.find? (·.id == id)
      else s.db.loadMessageByID id) =
        some assistant ∧
      s.persistAssistantFinalization conversationID (Store.finalizedMessage assistant completion)
        (nextProviderSessionState s.active.session completion.info.kind completion.session true) =
        .ok next := by
  unfold Store.finalizeAssistantStreamResult at done
  dsimp only at done
  split at done
  · cases done
  · next assistant found => exact ⟨assistant, found, done⟩

section

variable {assistant : Message} {nextSession : ProviderSessionState}
  (done : s.persistAssistantFinalization conversationID assistant nextSession = .ok next)
include done

theorem finalization_ok :
    ∃ record before, s.db.Holds before ∧ record.id = conversationID ∧ before.id = conversationID ∧
      record.session = nextSession ∧ record.createdAt = before.createdAt ∧
      record.updatedAt = assistant.createdAt ∧
      ((∃ message ∈ s.db.loadConversationMessages conversationID, message.id = assistant.id) ∧
          next.db =
            (s.db.updateConversationMessageContent assistant.id assistant.content assistant.status
              assistant.reasoning assistant.provider assistant.model).updateConversation record ∧
          Reloads s next record
            ((s.db.loadConversationMessages conversationID).map fun message =>
              if message.id = assistant.id then assistant else message) ∨
        (∀ message ∈ s.db.loadConversationMessages conversationID, message.id ≠ assistant.id) ∧
          next.db =
            (s.db.insertConversationMessages conversationID [assistant]).updateConversation record ∧
          Reloads s next record (s.db.loadConversationMessages conversationID ++ [assistant])) := by
  unfold Store.persistAssistantFinalization at done
  split at done
  · cases done
  next record persisted loaded =>
    obtain ⟨rfl, mem, rfl⟩ := load_state_spec loaded
    refine ⟨{ record with session := nextSession, updatedAt := assistant.createdAt }, record,
      mem, rfl, rfl, rfl, rfl, rfl, ?_⟩
    cases known : (s.db.loadConversationMessages record.id).any (·.id == assistant.id) with
    | true =>
      rw [known] at done
      refine .inl ⟨by simpa using known, ?_⟩
      cases done
      by_cases isActive : s.active.id = record.id
      · rw [if_pos isActive]
        exact ⟨rfl, .inl ⟨isActive, rfl, rfl⟩⟩
      · rw [if_neg isActive]
        exact ⟨rfl, .inr ⟨isActive, rfl, rfl⟩⟩
    | false =>
      rw [known] at done
      refine .inr ⟨by simpa using known, ?_⟩
      cases done
      by_cases isActive : s.active.id = record.id
      · rw [if_pos isActive]
        exact ⟨rfl, .inl ⟨isActive, rfl, rfl⟩⟩
      · rw [if_neg isActive]
        exact ⟨rfl, .inr ⟨isActive, rfl, rfl⟩⟩

end

end

end RuneTerminal.Conversation
