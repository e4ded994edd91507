import RuneTerminal.Commander.Transfer
import RuneTerminal.Conversation.Snapshots
import RuneTerminal.Kit.Table

/-! How `panel-state.ts`, `agent-panel-conversations.ts` and `agent-panel-streaming.ts` change the
state of `use-agent-panel.ts`. Functions are cut where they wait. Prompts that are commands or need
a plan are left out. Lists are kept only for the active conversation that they name. -/

namespace RuneTerminal.AgentConversations

open Commander (trim)
open Conversation (ApiAnswer ApiRequest Attempt AttachmentReference Environment Fault Message
  Snapshot)
open Kit

/-- An absent text is empty. -/
structure AgentConversationToolCall where
  kind : String := ""
  name : String := ""
  status : String := ""
  summary : String := ""
  input : String := ""
  output : String := ""
  exitCode : Option Int := none

inductive AgentConversationStreamEvent where
  | messageStart (message : Message)
  | textDelta (messageID delta : String)
  | reasoningDelta (messageID delta : String)
  | toolCall (messageID : String) (toolCall : AgentConversationToolCall)
  | messageComplete (message : Message)
  | error (message : Option Message) (error : String)

/-- `text || fallback` -/
def orElse (text fallback : String) : String := if text = "" then fallback else text

def upsertConversationMessage (messages : List Message) (message : Message) : List Message :=
  match messages.findIdx? (·.id == message.id) with
  | none => messages ++ [message]
  | some index => messages.set index message

def updateConversationMessage (messages : List Message) (messageID : String)
    (update : Message → Message) : List Message :=
  match messages.findIdx? (·.id == messageID) with
  | none => messages
  | some index => messages.modify index update

def appendConversationReasoning (message : Message) (delta : String) : Message :=
  let trimmedDelta := trim delta
  if trimmedDelta = "" then message
  else
    let currentReasoning := trim message.reasoning
    { message with
      reasoning :=
        if currentReasoning = "" then trimmedDelta
        else currentReasoning ++ "\n\n" ++ trimmedDelta
      status := .streaming }

def formatToolCallReasoningLine (toolCall : AgentConversationToolCall) : String :=
  let status := orElse (trim toolCall.status) "updated"
  let name :=
    orElse (trim toolCall.summary)
      (orElse (trim toolCall.name) (orElse (trim toolCall.kind) "tool"))
  let details := ["Tool " ++ status ++ ": " ++ name]
  let details :=
    if trim toolCall.output ≠ "" then details ++ ["Output: " ++ trim toolCall.output]
    else if trim toolCall.input ≠ "" then details ++ ["Input: " ++ trim toolCall.input]
    else details
  let details :=
    match toolCall.exitCode with
    | none => details
    | some exitCode => details ++ ["Exit code: " ++ toString exitCode]
  "\n".intercalate details

def appendAgentConversationMessage (messages : List Message) (message : Message) :
    List Message :=
  messages ++ [message]

def finalizeAgentConversationStreamingMessages (messages : List Message)
    (errorMessage : String) : List Message :=
  messages.map fun message =>
    if message.status ≠ .streaming then message
    else { message with content := orElse (trim message.content) errorMessage, status := .error }

def applyAgentConversationStreamEvent (messages : List Message) :
    AgentConversationStreamEvent → List Message
  | .messageStart message => upsertConversationMessage messages message
  | .textDelta messageID delta =>
    updateConversationMessage messages messageID fun message =>
      { message with content := message.content ++ delta, status := .streaming }
  | .reasoningDelta messageID delta =>
    updateConversationMessage messages messageID (appendConversationReasoning · delta)
  | .toolCall messageID toolCall =>
    updateConversationMessage messages messageID
      (appendConversationReasoning · (formatToolCallReasoningLine toolCall))
  | .messageComplete message => upsertConversationMessage messages message
  | .error (some message) _ => upsertConversationMessage messages message
  | .error none error =>
    finalizeAgentConversationStreamingMessages messages
      (orElse (trim error) "Agent stream failed.")

def createOptimisticUserConversationMessage (hostId : String) (sequence : Nat) (prompt : String)
    (attachments : List AttachmentReference) (now : Nat) : Message where
  id := "agent-local-user-" ++ hostId ++ "-" ++ toString sequence
  role := .user
  content := prompt
  attachments := attachments
  status := .complete
  createdAt := now

def cancellationMessage : String := "Response cancelled by operator."

/-- The messages after `cancelActiveSubmissionForPanel`. -/
def messagesAfterCancel (messages : List Message) (hostId : String) (submissionNonce now : Nat) :
    List Message :=
  let finalized := finalizeAgentConversationStreamingMessages messages cancellationMessage
  if messages.any (·.status = .streaming) then finalized
  else
    appendAgentConversationMessage finalized
      { id := "agent-local-cancelled-" ++ hostId ++ "-" ++ toString submissionNonce
        role := .assistant
        content := cancellationMessage
        status := .error
        createdAt := now }

structure AgentConversationSummary where
  id : String
  title : String

def summaryFromConversationSnapshot (snapshot : Snapshot) : AgentConversationSummary where
  id := snapshot.id
  title := snapshot.title

/-- The state of `useAgentPanel`. Stream and controller are the calls they belong to; the summary is
of the conversation that is displayed. -/
structure Panel where
  hostId : String
  messages : Option (List Message) := none
  activeConversationSummary : Option AgentConversationSummary := none
  activeConversationID : String := ""
  isSubmitting : Bool := false
  isConversationPending : Bool := false
  activeStream : Option Nat := none
  activeSubmissionAbort : Option Nat := none
  submissionNonce : Nat := 0
  panelStateEpoch : Nat := 0
  conversationListRequestNonce : Nat := 0
  optimisticMessageCounter : Nat := 0

/-- Where the request of a call is. Only an answer that waits for another one is
`resolved`. -/
inductive Wait where
  | sent
  | answered (answer : ApiAnswer)
  | resolved (answer : ApiAnswer)
  deriving DecidableEq

/-- The functions that `mutateConversationCollectionForPanel` is called with. -/
inductive Mutation where
  | delete
  | archive
  | restore
  deriving DecidableEq

def Mutation.request (conversationID : String) : Mutation → ApiRequest
  | .delete => .deleteConversation conversationID
  | .archive => .archiveConversation conversationID
  | .restore => .restoreConversation conversationID

/-- Where an asynchronous function waits, with what it has kept: the epoch or the nonce of its
start, and for a mutation the id that was active then. -/
inductive Call where
  | switching (conversationID : String) (epoch : Nat) (wait : Wait)
  | creating (epoch : Nat) (wait : Wait)
  | refreshing (nonce : Nat) (wait : Wait)
  | retitling (conversationID title : String) (wait : Wait)
  | mutating (mutation : Mutation) (activeConversationID conversationID : String) (epoch : Nat)
      (wait : Wait)
  | mutated (activeConversationID conversationID : String) (epoch : Nat) (snapshot : Snapshot)
      (wait : Wait)
  | listing (nonce : Nat) (wait : Wait)
  | connecting (nonce : Nat)
  | streaming (nonce : Nat) (streamErrored : Bool)
  | finishing (nonce listNonce : Nat) (fetch list : Wait)
  deriving DecidableEq

/-- The requests of a call. The second one is the list that a submission asks for beside
the conversation. -/
def Call.request (second : Bool) : Call → Option (ApiRequest × Wait)
  | .switching conversationID _ wait => some (.activateConversation conversationID, wait)
  | .creating _ wait => some (.createConversation, wait)
  | .refreshing _ wait => some (.conversationList, wait)
  | .retitling conversationID title wait => some (.renameConversation conversationID title, wait)
  | .mutating mutation _ conversationID _ wait => some (mutation.request conversationID, wait)
  | .mutated _ _ _ _ wait => some (.conversationList, wait)
  | .listing _ wait => some (.conversationList, wait)
  | .connecting _ => none
  | .streaming _ _ => none
  | .finishing _ _ fetch list =>
    if second then some (.conversationList, list) else some (.conversationSnapshot, fetch)

def Call.withWait (second : Bool) (wait : Wait) : Call → Call
  | .switching conversationID epoch _ => .switching conversationID epoch wait
  | .creating epoch _ => .creating epoch wait
  | .refreshing nonce _ => .refreshing nonce wait
  | .retitling conversationID title _ => .retitling conversationID title wait
  | .mutating mutation activeConversationID conversationID epoch _ =>
    .mutating mutation activeConversationID conversationID epoch wait
  | .mutated activeConversationID conversationID epoch snapshot _ =>
    .mutated activeConversationID conversationID epoch snapshot wait
  | .listing nonce _ => .listing nonce wait
  | .connecting nonce => .connecting nonce
  | .streaming nonce streamErrored => .streaming nonce streamErrored
  | .finishing nonce listNonce fetch list =>
    if second then .finishing nonce listNonce fetch wait
    else .finishing nonce listNonce wait list

/-- The panel, the service behind it, and the calls that are under way, numbered in the
order of their starts. -/
structure System where
  panel : Panel
  backend : Conversation.System
  calls : Table Nat Call := Table.empty
  started : Nat := 0

namespace Panel

variable (panel : Panel)

def applyConversationSnapshot (snapshot : Snapshot) : Panel :=
  { panel with
    messages := some snapshot.messages
    activeConversationID := snapshot.id
    activeConversationSummary := some (summaryFromConversationSnapshot snapshot) }

/-- `resetConversationSubmissionRuntime` and `beginPanelStateEpoch`, and the pending flag. -/
def beginTransition : Panel :=
  { panel with
    submissionNonce := panel.submissionNonce + 1
    activeStream := none
    activeSubmissionAbort := none
    panelStateEpoch := panel.panelStateEpoch + 1
    isConversationPending := true }

def endTransition : Panel := { panel with isConversationPending := false }

def nextListRequest : Panel :=
  { panel with conversationListRequestNonce := panel.conversationListRequestNonce + 1 }

/-- What `refreshConversationListForPanel` does with its answer. -/
def takeList (nonce : Nat) (answer : ApiAnswer) : Panel :=
  match answer with
  | .list active =>
    if panel.conversationListRequestNonce ≠ nonce then panel
    else { panel with activeConversationID := orElse active panel.activeConversationID }
  | _ => panel

def setMessages (update : List Message → List Message) : Panel :=
  { panel with messages := some (update (panel.messages.getD [])) }

/-- The `finally` of `runBackendPromptForPanel`. The stream is cleared when there is one. -/
def endSubmission (nonce : Nat) (connected : Bool) : Panel :=
  if panel.submissionNonce = nonce then
    { panel with
      activeStream := if connected then none else panel.activeStream
      activeSubmissionAbort := none
      isSubmitting := false }
  else panel

/-- The `catch` of `runBackendPromptForPanel`, and what follows. -/
def failSubmission (nonce : Nat) (connected : Bool) (message : String) : Panel :=
  if panel.submissionNonce = nonce then
    let errorMessage :=
      if trim message ≠ "" then message
      else "Unable to send backend conversation message for " ++ panel.hostId ++ "."
    (panel.setMessages
      (finalizeAgentConversationStreamingMessages · errorMessage)).endSubmission nonce connected
  else panel

end Panel

namespace System

variable (s : System)

def start (panel : Panel) (call : Call) : System :=
  { s with panel := panel, calls := s.calls.insert s.started call, started := s.started + 1 }

def wait (panel : Panel) (call : Nat) (next : Call) : System :=
  { s with panel := panel, calls := s.calls.insert call next }

def finish (panel : Panel) (call : Nat) : System :=
  { s with panel := panel, calls := s.calls.erase call }

end System

/-- Switching and creating: the snapshot is applied, and the list is awaited before the
pending flag is cleared. -/
def afterTransition (s : System) (call epoch : Nat) (answer : ApiAnswer) : System :=
  match answer with
  | .snapshot snapshot =>
    if s.panel.panelStateEpoch ≠ epoch then s.finish s.panel.endTransition call
    else
      let panel := (s.panel.applyConversationSnapshot snapshot).nextListRequest
      s.wait panel call (.refreshing panel.conversationListRequestNonce .sent)
  | _ => s.finish s.panel.endTransition call

def afterRename (s : System) (call : Nat) (answer : ApiAnswer) : System :=
  match answer with
  | .snapshot snapshot =>
    let panel := (s.panel.applyConversationSnapshot snapshot).nextListRequest.endTransition
    s.wait panel call (.listing panel.conversationListRequestNonce .sent)
  | _ => s.finish s.panel.endTransition call

def afterMutation (s : System) (call : Nat) (activeConversationID conversationID : String)
    (epoch : Nat) (answer : ApiAnswer) : System :=
  match answer with
  | .snapshot snapshot =>
    s.wait s.panel call (.mutated activeConversationID conversationID epoch snapshot .sent)
  | _ => s.finish s.panel.endTransition call

/-- The snapshot of a mutation is applied when it was of the active conversation, as the
panel knew it at the start. -/
def afterMutationList (s : System) (call : Nat) (activeConversationID conversationID : String)
    (epoch : Nat) (snapshot : Snapshot) (answer : ApiAnswer) : System :=
  match answer with
  | .list active =>
    if s.panel.panelStateEpoch ≠ epoch then s.finish s.panel.endTransition call
    else
      let panel :=
        if activeConversationID = conversationID then s.panel.applyConversationSnapshot snapshot
        else s.panel
      s.finish { panel.endTransition with activeConversationID := orElse active snapshot.id } call
  | _ => s.finish s.panel.endTransition call

/-- One of the two answers that a submission ends with. The snapshot is applied when both
have come. -/
def afterFinish (s : System) (call : Nat) (second : Bool) (nonce listNonce : Nat)
    (fetch list : Wait) (answer : ApiAnswer) : System :=
  if second then
    let panel := s.panel.takeList listNonce answer
    match answer, fetch with
    | .list _, .resolved (.snapshot snapshot) =>
      s.finish ((panel.applyConversationSnapshot snapshot).endSubmission nonce true) call
    | .list _, _ => s.wait panel call (.finishing nonce listNonce fetch (.resolved answer))
    | .snapshot _, _ => s.finish (panel.failSubmission nonce true "") call
    | .failed error, _ => s.finish (panel.failSubmission nonce true error) call
  else
    match answer, list with
    | .snapshot snapshot, .resolved _ =>
      s.finish ((s.panel.applyConversationSnapshot snapshot).endSubmission nonce true) call
    | .snapshot _, _ =>
      s.wait s.panel call (.finishing nonce listNonce (.resolved answer) list)
    | .list _, _ => s.finish (s.panel.failSubmission nonce true "") call
    | .failed error, .resolved _ => s.finish (s.panel.failSubmission nonce true error) call
    | .failed error, _ =>
      s.wait (s.panel.failSubmission nonce true error) call (.listing listNonce list)

def resume (s : System) (call : Nat) (second : Bool) (answer : ApiAnswer) : Call → System
  | .switching _ epoch _ => afterTransition s call epoch answer
  | .creating epoch _ => afterTransition s call epoch answer
  | .refreshing nonce _ => s.finish (s.panel.takeList nonce answer).endTransition call
  | .retitling _ _ _ => afterRename s call answer
  | .mutating _ activeConversationID conversationID epoch _ =>
    afterMutation s call activeConversationID conversationID epoch answer
  | .mutated activeConversationID conversationID epoch snapshot _ =>
    afterMutationList s call activeConversationID conversationID epoch snapshot answer
  | .listing nonce _ => s.finish (s.panel.takeList nonce answer) call
  | .connecting _ => s
  | .streaming _ _ => s
  | .finishing nonce listNonce fetch list =>
    afterFinish s call second nonce listNonce fetch list answer

inductive Action where
  | switchConversation (conversationID : String)
  | createConversation
  | renameConversation (conversationID title : String)
  | mutateConversation (mutation : Mutation) (conversationID : String)
  | refreshConversationList
  | submitDraft (draft : String) (attachments : List AttachmentReference) (now : Nat)
  | cancelActiveSubmission (now : Nat)
  | serve (call : Nat) (second : Bool) (newID : String) (now : Nat) (fault : Option Fault)
  | deliver (call : Nat) (second : Bool)
  | connected (call : Nat)
  | event (call : Nat) (event : AgentConversationStreamEvent)
  | done (call : Nat)
  | failed (call : Nat) (errorMessage : String)
  | backend (attempt : Attempt)

def Panel.Free (panel : Panel) : Prop :=
  panel.isSubmitting = false ∧ panel.isConversationPending = false

instance (panel : Panel) : Decidable panel.Free := inferInstanceAs (Decidable (_ ∧ _))

def isErrorEvent : AgentConversationStreamEvent → Bool
  | .error _ _ => true
  | _ => false

/-- What has no effect is no step. The lists are also asked for when the search or the scope
changes. While a stream is under way the service works on its own. -/
def step (env : Environment) (s : System) : Action → Option System
  | .switchConversation conversationID =>
    if trim conversationID ≠ "" ∧ trim conversationID ≠ s.panel.activeConversationID ∧
        s.panel.Free then
      some (s.start s.panel.beginTransition
        (.switching (trim conversationID) (s.panel.panelStateEpoch + 1) .sent))
    else none
  | .createConversation =>
    if s.panel.Free then
      some (s.start s.panel.beginTransition (.creating (s.panel.panelStateEpoch + 1) .sent))
    else none
  | .renameConversation conversationID title =>
    if trim conversationID ≠ "" ∧ s.panel.Free then
      some (s.start { s.panel with isConversationPending := true }
        (.retitling (trim conversationID) title .sent))
    else none
  | .mutateConversation mutation conversationID =>
    if trim conversationID ≠ "" ∧ s.panel.Free then
      some (s.start s.panel.beginTransition
        (.mutating mutation s.panel.activeConversationID (trim conversationID)
          (s.panel.panelStateEpoch + 1) .sent))
    else none
  | .refreshConversationList =>
    some (s.start s.panel.nextListRequest
      (.listing (s.panel.conversationListRequestNonce + 1) .sent))
  | .submitDraft draft attachments now =>
    if trim draft ≠ "" ∧ s.panel.Free then
      let optimisticUserMessage := createOptimisticUserConversationMessage s.panel.hostId
        s.panel.optimisticMessageCounter (trim draft) attachments now
      let panel := s.panel.setMessages
        (appendAgentConversationMessage · optimisticUserMessage)
      some (s.start
        { panel with
          optimisticMessageCounter := panel.optimisticMessageCounter + 1
          submissionNonce := panel.submissionNonce + 1
          isSubmitting := true
          activeSubmissionAbort := some s.started }
        (.connecting (s.panel.submissionNonce + 1)))
    else none
  | .cancelActiveSubmission now =>
    if s.panel.isSubmitting = true ∨ s.panel.activeStream ≠ none ∨
        s.panel.activeSubmissionAbort ≠ none then
      let nonce := s.panel.submissionNonce + 1
      let panel := s.panel.setMessages (messagesAfterCancel · s.panel.hostId nonce now)
      some { s with
        panel :=
          { panel with
            submissionNonce := nonce
            activeStream := none
            activeSubmissionAbort := none
            isSubmitting := false } }
    else none
  | .serve call second newID now fault =>
    match s.calls call with
    | none => none
    | some state =>
      match state.request second with
      | some (request, .sent) =>
        (Conversation.serve env s.backend newID now fault request).map
          fun (backend, answer) =>
            { s with
              backend := backend
              calls := s.calls.insert call (state.withWait second (.answered answer)) }
      | _ => none
  | .deliver call second =>
    match s.calls call with
    | none => none
    | some state =>
      match state.request second with
      | some (_, .answered answer) => some (resume s call second answer state)
      | _ => none
  | .connected call =>
    match s.calls call with
    | some (.connecting nonce) =>
      if s.panel.submissionNonce ≠ nonce then some (s.finish s.panel call)
      else
        some (s.wait { s.panel with activeStream := some call } call (.streaming nonce false))
    | _ => none
  | .event call event =>
    match s.calls call with
    | some (.streaming nonce streamErrored) =>
      if s.panel.submissionNonce ≠ nonce then none
      else
        some (s.wait (s.panel.setMessages (applyAgentConversationStreamEvent · event)) call
          (.streaming nonce (streamErrored || isErrorEvent event)))
    | _ => none
  | .done call =>
    match s.calls call with
    | some (.streaming nonce streamErrored) =>
      if s.panel.submissionNonce = nonce ∧ streamErrored = false then
        let panel := s.panel.nextListRequest
        some (s.wait panel call
          (.finishing nonce panel.conversationListRequestNonce .sent .sent))
      else some (s.finish (s.panel.endSubmission nonce true) call)
    | _ => none
  | .failed call errorMessage =>
    match s.calls call with
    | some (.connecting nonce) =>
      some (s.finish (s.panel.failSubmission nonce false errorMessage) call)
    | some (.streaming nonce _) =>
      some (s.finish (s.panel.failSubmission nonce true errorMessage) call)
    | _ => none
  | .backend attempt =>
    if Conversation.submits attempt.action = true then
      (Conversation.faultyStep env s.backend attempt).map fun backend =>
        { s with backend := backend }
    else none

/-- A panel as `bootstrapAgentPanel` leaves it, with a service that has just been loaded. -/
def System.Initial (env : Environment) (s : System) : Prop :=
  s.backend.Loaded env ∧ s.calls = Table.empty ∧
    ∃ hostId, s.panel = ({ hostId := hostId } : Panel).applyConversationSnapshot
      s.backend.store.snapshotLocked

end RuneTerminal.AgentConversations
