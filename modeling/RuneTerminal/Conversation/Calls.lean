import RuneTerminal.Conversation.Service
import RuneTerminal.Kit.Transition

/-! A request to an assistant takes the lock several times: to read the active conversation, to
store its first messages, for every delta, and to store what the provider returned. In between other
requests may run. -/

namespace RuneTerminal.Conversation

open Go.Strings Kit

inductive Continuation where
  | complete
  | stream (messageID : String)
  | done
  deriving DecidableEq

/-- Where a request stands. The deltas of a stream are kept for reference. -/
inductive CallState where
  | absent
  | appending (conversationID : String) (messages : List Message) (next : Continuation)
  | completing (conversationID : String) (allowSessionUpdate : Bool)
  | streaming (conversationID messageID : String) (deltas : List String)
  | finished (err : Option ConversationError)
  deriving DecidableEq

structure AppendMessageRequest where
  role : MessageRole
  content : String
  attachments : List AttachmentReference := []
  status : MessageStatus := .other ""
  provider : String := ""
  model : String := ""

inductive Request where
  | submit (prompt systemPrompt : String) (attachments : List AttachmentReference)
  | submitStream (prompt systemPrompt : String) (attachments : List AttachmentReference)
      (info : ProviderInfo)
  | appendAssistantPrompt (prompt systemPrompt : String)
  | appendMessages (requests : List AppendMessageRequest)

def MessageRole.trimmed : MessageRole → MessageRole
  | .other raw =>
    match trimSpace raw with
    | "system" => .system
    | "user" => .user
    | "assistant" => .assistant
    | text => .other text
  | role => role

def MessageStatus.trimmed : MessageStatus → MessageStatus
  | .other raw =>
    match trimSpace raw with
    | "" => .complete
    | "streaming" => .streaming
    | "complete" => .complete
    | "error" => .error
    | text => .other text
  | status => status

def newMessage (newID : String) (role : MessageRole) (content : String)
    (attachments : List AttachmentReference) (status : MessageStatus) (provider model : String)
    (now : Nat) : Message :=
  { id := newID, role := role, content := content, attachments := attachments, status := status,
    provider := provider, model := model, createdAt := now }

/-- The messages of `AppendMessages`. The clock is read for each of them, and their
place in the request is added in nanoseconds. -/
def prepareMessages (requests : List AppendMessageRequest) (newIDs : List String)
    (times : List Nat) : Except ConversationError (List Message) :=
  if requests.any fun request =>
      request.role.trimmed = .other "" || trimSpace request.content = "" then
    .error .invalidMessage
  else
    .ok (((requests.zip newIDs).zipIdx).map fun ((request, newID), index) =>
      newMessage newID request.role.trimmed (trimSpace request.content) request.attachments
        request.status.trimmed (trimSpace request.provider) (trimSpace request.model)
        (times.getD index 0 + index))

def Request.idCount : Request → Nat
  | .submit _ _ _ => 1
  | .submitStream _ _ _ _ => 2
  | .appendAssistantPrompt _ _ => 0
  | .appendMessages requests => requests.length

def Request.start (request : Request) (activeID : String) (newIDs : List String)
    (times : List Nat) : CallState :=
  match request with
  | .submit prompt systemPrompt attachments =>
    if trimSpace prompt = "" ∨ trimSpace systemPrompt = "" then .finished (some .invalidPrompt)
    else
      .appending activeID
        [newMessage (newIDs.headD "") .user (trimSpace prompt) attachments .complete "" ""
          (times.headD 0)]
        .complete
  | .submitStream prompt systemPrompt attachments info =>
    if trimSpace prompt = "" ∨ trimSpace systemPrompt = "" then .finished (some .invalidPrompt)
    else
      let assistantID := newIDs.tail.headD ""
      .appending activeID
        [newMessage (newIDs.headD "") .user (trimSpace prompt) attachments .complete "" ""
            (times.headD 0),
          newMessage assistantID .assistant "" [] .streaming info.kind info.model
            (times.tail.headD 0)]
        (.stream assistantID)
  | .appendAssistantPrompt prompt systemPrompt =>
    if trimSpace prompt = "" ∨ trimSpace systemPrompt = "" then .finished (some .invalidPrompt)
    else .completing activeID false
  | .appendMessages requests =>
    if requests.isEmpty then .finished none
    else
      match prepareMessages requests newIDs times with
      | .error err => .finished (some err)
      | .ok messages => .appending activeID messages .done

/-- How the database was opened, and the title of a text. -/
structure Environment where
  cascade : Bool
  summarize : String → String

/-- The service with its requests. `minted` are the ids given out so far, and
`returned` the sessions that completions have returned for each conversation. -/
structure System where
  store : Store
  calls : Nat → CallState
  minted : List String
  returned : List (String × ProviderSessionState)

def System.setCall (s : System) (call : Nat) (state : CallState) : System :=
  { s with calls := fun other => if other = call then state else s.calls other }

theorem System.set_call_same (s : System) (call : Nat) (state : CallState) :
    (s.setCall call state).calls call = state :=
  if_pos rfl

theorem System.set_call_other (s : System) {call other : Nat} (ne : other ≠ call)
    (state : CallState) : (s.setCall call state).calls other = s.calls other :=
  if_neg ne

def Store.after (s : Store) (result : Except ConversationError Store) : Store :=
  match result with
  | .ok store => store
  | .error _ => s

def System.settle (s : System) (result : Except ConversationError Store) : System :=
  { s with store := s.store.after result }

def failure (result : Except ConversationError Store) : Option ConversationError :=
  match result with
  | .ok _ => none
  | .error err => some err

inductive Action where
  | begin (call : Nat) (request : Request) (newIDs : List String) (times : List Nat)
  | append (call : Nat)
  | delta (call : Nat) (text : String) (now : Nat)
  | finish (call : Nat) (completion : Completion) (newID : String) (now : Nat)
  | create (newID : String) (now : Nat)
  | rename (conversationID title : String) (now : Nat)
  | delete (conversationID newID : String) (now : Nat)
  | archive (conversationID newID : String) (now : Nat)
  | restore (conversationID : String) (now : Nat)
  | updatePreferences (conversationID : String) (preferences : ContextPreferences) (now : Nat)
  | activate (conversationID : String)

def noteSession (conversationID : String) (completion : Completion)
    (returned : List (String × ProviderSessionState)) : List (String × ProviderSessionState) :=
  match returnedSession (trimSpace completion.info.kind) completion.session with
  | some session => (conversationID, session) :: returned
  | none => returned

def System.Fresh (s : System) (newID : String) : Prop :=
  CleanID newID ∧ newID ∉ s.minted

instance (s : System) (newID : String) : Decidable (s.Fresh newID) :=
  inferInstanceAs (Decidable (_ ∧ _))

def System.mint (s : System) (newID : String) : System :=
  { s with minted := newID :: s.minted }

def step (env : Environment) (s : System) : Action → Option System
  | .begin call request newIDs times =>
    if s.calls call = .absent ∧ newIDs.length = request.idCount ∧ newIDs.Nodup ∧
        (∀ newID ∈ newIDs, s.Fresh newID) ∧ times.length = newIDs.length then
      some ({ s with minted := newIDs ++ s.minted }.setCall call
        (request.start s.store.active.id newIDs times))
    else none
  | .append call =>
    match s.calls call with
    | .appending conversationID messages next =>
      let result := s.store.appendMessagesForConversation env.summarize conversationID messages
      let state :=
        match result with
        | .error err => .finished (some err)
        | .ok _ =>
          match next with
          | .complete => .completing (trimSpace conversationID) true
          | .stream messageID => .streaming (trimSpace conversationID) messageID []
          | .done => .finished none
      some ((s.settle result).setCall call state)
    | _ => none
  | .delta call text now =>
    match s.calls call with
    | .streaming conversationID messageID deltas =>
      if text = "" then none
      else
        some ((s.settle
          (s.store.appendAssistantDelta conversationID messageID text now)).setCall call
            (.streaming conversationID messageID (deltas ++ [text])))
    | _ => none
  | .finish call completion newID now =>
    match s.calls call with
    | .completing conversationID allowSessionUpdate =>
      if s.Fresh newID then
        let result := s.store.appendAssistantResult conversationID newID now completion
          allowSessionUpdate
        some ({ (s.mint newID).settle result with
          returned := noteSession conversationID completion s.returned }.setCall call
            (.finished (failure result)))
      else none
    | .streaming conversationID messageID _ =>
      let result := s.store.finalizeAssistantStreamResult conversationID messageID completion
      some ({ s.settle result with
        returned := noteSession conversationID completion s.returned }.setCall call
          (.finished (failure result)))
    | _ => none
  | .create newID now =>
    if s.Fresh newID then
      some ((s.mint newID).settle (.ok (s.store.createConversation newID now)))
    else none
  | .rename conversationID title now =>
    some (s.settle (s.store.renameConversation env.summarize conversationID title now))
  | .delete conversationID newID now =>
    if s.Fresh newID then
      some ((s.mint newID).settle
        (s.store.deleteConversation env.cascade conversationID newID now))
    else none
  | .archive conversationID newID now =>
    if s.Fresh newID then
      some ((s.mint newID).settle (s.store.archiveConversation conversationID newID now))
    else none
  | .restore conversationID now => some (s.settle (s.store.restoreConversation conversationID now))
  | .updatePreferences conversationID preferences now =>
    some (s.settle
      (s.store.updateConversationContextPreferences conversationID preferences now))
  | .activate conversationID => some (s.settle (s.store.activateConversation conversationID))

/-- A service that was just loaded: memory is as the tables have it, no request has come, and stored
sessions were returned for their conversations. -/
structure System.Initial (s : System) : Prop where
  loaded : s.store.db.loadConversationState s.store.active.id =
    some (s.store.active, s.store.messages)
  messageIDs : (s.store.db.messages.map (·.message.id)).Nodup
  messagesMinted : ∀ row ∈ s.store.db.messages,
    row.message.id ∈ s.minted ∧ row.conversationID ∈ s.minted
  conversationsMinted : ∀ record ∈ s.store.db.conversations,
    record.id ∈ s.minted ∧ CleanID record.id
  noCalls : ∀ call, s.calls call = .absent
  sessions : ∀ record ∈ s.store.db.conversations,
    record.session = {} ∨ (record.id, record.session) ∈ s.returned
  normalized : ∀ entry ∈ s.returned, normalizeProviderSession entry.2 = entry.2

def System.bootstrapped (newID : String) (now : Nat) : System where
  store :=
    { db := ⟨[newConversationRecord newID now], [], newID⟩
      active := newConversationRecord newID now
      messages := []
      updatedAt := now }
  calls := fun _ => .absent
  minted := [newID]
  returned := []

theorem bootstrapped_initial {newID : String} (clean : CleanID newID) (now : Nat) :
    (System.bootstrapped newID now).Initial where
  loaded := by simp [System.bootstrapped, Database.loadConversationState,
    Database.loadConversationRecord, Database.loadConversationMessages, newConversationRecord]
  messageIDs := List.nodup_nil
  messagesMinted := by simp [System.bootstrapped]
  conversationsMinted := by simpa [System.bootstrapped, newConversationRecord] using clean
  noCalls := fun _ => rfl
  sessions := by simp [System.bootstrapped, newConversationRecord]
  normalized := by simp [System.bootstrapped]

end RuneTerminal.Conversation
