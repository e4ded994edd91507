import RuneTerminal.Go.Strings
import Mathlib.Data.List.Sort

/-! The records of `core/conversation/types.go` and the statements of `core/conversation/store.go`.
A transaction that commits is one change of the tables. -/

namespace RuneTerminal.Conversation

open Go.Strings

inductive MessageRole where
  | system
  | user
  | assistant
  | other (raw : String)
  deriving DecidableEq

inductive MessageStatus where
  | streaming
  | complete
  | error
  | other (raw : String)
  deriving DecidableEq

inductive ConversationError where
  | invalidPrompt
  | invalidConversationTitle
  | invalidMessage
  | conversationNotFound
  | database (text : String)
  deriving DecidableEq

def ConversationError.text : ConversationError → String
  | .invalidPrompt => "invalid prompt"
  | .invalidConversationTitle => "invalid conversation title"
  | .invalidMessage => "invalid message"
  | .conversationNotFound => "conversation not found"
  | .database text => text

structure AttachmentReference where
  id : String
  name : String
  path : String
  mimeType : String
  size : Int
  modifiedTime : Int
  deriving DecidableEq

structure Message where
  id : String
  role : MessageRole
  content : String
  attachments : List AttachmentReference := []
  status : MessageStatus
  provider : String := ""
  model : String := ""
  reasoning : String := ""
  createdAt : Nat
  deriving DecidableEq

/-- The session that a provider keeps for a conversation; both texts are empty
when there is none. -/
structure ProviderSessionState where
  providerKind : String := ""
  id : String := ""
  deriving DecidableEq

structure ContextPreferences where
  widgetContextEnabled : Bool
  widgetIDs : List String := []
  deriving DecidableEq

structure ConversationRecord where
  id : String
  title : String := ""
  session : ProviderSessionState := {}
  contextPreferences : ContextPreferences
  createdAt : Nat
  updatedAt : Nat
  archivedAt : Option Nat := none
  deriving DecidableEq

def newConversationRecord (newID : String) (now : Nat) : ConversationRecord where
  id := newID
  contextPreferences := { widgetContextEnabled := true }
  createdAt := now
  updatedAt := now

/-- A row of `conversation_messages`. -/
structure Row where
  conversationID : String
  message : Message
  deriving DecidableEq

/-- The tables `conversations` and `conversation_messages`, and the row of
`conversation_state` with the active conversation. -/
structure Database where
  conversations : List ConversationRecord
  messages : List Row
  activeID : String
  deriving DecidableEq

/-- `ORDER BY created_at ASC, id ASC` -/
def messageOrder (first second : Message) : Bool :=
  first.createdAt < second.createdAt ||
    (first.createdAt == second.createdAt && first.id ≤ second.id)

/-- `ORDER BY archived last, COALESCE(archived_at, updated_at) DESC, created_at DESC, id DESC` -/
def candidateOrder (first second : ConversationRecord) : Bool :=
  let archived (record : ConversationRecord) : Nat := if record.archivedAt.isNone then 0 else 1
  let touched (record : ConversationRecord) : Nat := record.archivedAt.getD record.updatedAt
  archived first < archived second ||
    (archived first == archived second && (touched first > touched second ||
      (touched first == touched second && (first.createdAt > second.createdAt ||
        (first.createdAt == second.createdAt && first.id ≥ second.id)))))

namespace Database

variable (db : Database)

def loadConversationRecord (conversationID : String) : Option ConversationRecord :=
  db.conversations.find? (·.id == conversationID)

def loadConversationMessages (conversationID : String) : List Message :=
  ((db.messages.filter (·.conversationID == conversationID)).map Row.message).mergeSort
    messageOrder

def loadConversationState (conversationID : String) :
    Option (ConversationRecord × List Message) :=
  (db.loadConversationRecord conversationID).map fun record =>
    (record, db.loadConversationMessages conversationID)

def loadMessageByID (messageID : String) : Option Message :=
  (db.messages.find? (·.message.id == messageID)).map Row.message

def setActiveConversation (conversationID : String) : Database :=
  { db with activeID := trimSpace conversationID }

def insertConversation (record : ConversationRecord) : Database :=
  { db with conversations := db.conversations ++ [record] }

/-- `UPDATE conversations`: everything but the id and the time of creation. -/
def updateConversation (record : ConversationRecord) : Database :=
  { db with
    conversations := db.conversations.map fun stored =>
      if stored.id = record.id then { record with createdAt := stored.createdAt } else stored }

/-- The columns of a message as `insertConversationMessagesTx` writes them. -/
def storedMessage (message : Message) : Message :=
  { message with
    provider := trimSpace message.provider
    model := trimSpace message.model
    reasoning := trimSpace message.reasoning }

def insertConversationMessages (conversationID : String) (messages : List Message) : Database :=
  { db with
    messages := db.messages ++ messages.map fun message => ⟨conversationID, storedMessage message⟩ }

def updateConversationMessageContent (messageID content : String) (status : MessageStatus)
    (reasoning provider model : String) : Database :=
  { db with
    messages := db.messages.map fun row =>
      if row.message.id = messageID then
        { row with
          message :=
            { row.message with
              content := content
              status := status
              reasoning := trimSpace reasoning
              provider := trimSpace provider
              model := trimSpace model } }
      else row }

def deleteConversation (cascade : Bool) (conversationID : String) : Database :=
  { db with
    conversations := db.conversations.filter (·.id ≠ conversationID)
    messages :=
      if cascade then db.messages.filter (·.conversationID ≠ conversationID) else db.messages }

def nextConversationCandidate (excluding : String) : Option String :=
  (((db.conversations.filter (·.id ≠ excluding)).mergeSort candidateOrder).head?).map
    fun record => trimSpace record.id

def nextUnarchivedConversationCandidate (excluding : String) : Option String :=
  (((db.conversations.filter fun record =>
    record.id ≠ excluding && record.archivedAt.isNone).mergeSort candidateOrder).head?).map
      fun record => trimSpace record.id

end Database

def normalizeProviderSession (session : ProviderSessionState) : ProviderSessionState :=
  let trimmed : ProviderSessionState :=
    { providerKind := trimSpace session.providerKind, id := trimSpace session.id }
  if trimmed.providerKind = "" ∨ trimmed.id = "" then {} else trimmed

def returnedSession (providerKind : String) (resultSession : Option ProviderSessionState) :
    Option ProviderSessionState :=
  match resultSession with
  | none => none
  | some session =>
    let next := normalizeProviderSession session
    let next :=
      if next.providerKind = "" then { next with providerKind := providerKind } else next
    let next := normalizeProviderSession next
    if next.id ≠ "" then some next else none

def nextProviderSessionState (current : ProviderSessionState) (providerKind : String)
    (resultSession : Option ProviderSessionState) (allowSessionUpdate : Bool) :
    ProviderSessionState :=
  let current := normalizeProviderSession current
  let providerKind := trimSpace providerKind
  if !allowSessionUpdate then current
  else
    let current :=
      if current.providerKind ≠ "" ∧ current.providerKind ≠ providerKind then {} else current
    match returnedSession providerKind resultSession with
    | some next => next
    | none => if current.providerKind = providerKind then current else {}

inductive ProviderError where
  | cancelled
  | failed (text : String)

/-- The text of the error once it has passed `normalizeConversationStreamError`. -/
def ProviderError.text : ProviderError → String
  | .cancelled => "conversation stream cancelled"
  | .failed text => text

structure ProviderInfo where
  kind : String
  model : String := ""

/-- What a provider returns for a completion. -/
structure Completion where
  content : String := ""
  reasoning : String := ""
  session : Option ProviderSessionState := none
  info : ProviderInfo
  error : Option ProviderError := none

def reasoningFromResult (completion : Completion) : String :=
  let info := completion.info
  if trimSpace completion.reasoning ≠ "" then trimSpace completion.reasoning
  else if info.kind = "" ∧ trimSpace info.model = "" then ""
  else
    ", ".intercalate
      ((if trimSpace info.kind ≠ "" then ["provider: " ++ trimSpace info.kind] else []) ++
        (if trimSpace info.model ≠ "" then ["model: " ++ trimSpace info.model] else []))

def emptyResponse : String := "The assistant returned an empty response."

end RuneTerminal.Conversation
