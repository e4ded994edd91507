import RuneTerminal.Conversation.ChatStream

/-! `core/conversation/provider_cli_streaming.go`: what `runCodexCLIStream` and
`runClaudeCodeCLIStream` make of the printed events. Other lines are passed over, so that a stream
is a list of payloads. Times are left out. -/

namespace RuneTerminal.Conversation

open Go.Strings List Option
open String hiding next

structure ProviderStreamToolCall where
  id : String
  kind : String
  name : String
  status : String
  summary : String
  input : String
  output : String := ""
  exitCode : Option Int := none
  deriving DecidableEq

inductive ProviderStreamEvent where
  | textDelta (delta : String)
  | reasoningDelta (delta : String)
  | toolCall (toolCall : ProviderStreamToolCall)
  deriving DecidableEq

inductive CLIStreamError where
  /-- The callback has failed. -/
  | callback (text : String)
  /-- The command has failed or was stopped. -/
  | command (text : String)
  | provider (message : String)

/-- What a stream ends with, and all that was handed to the callback. -/
structure CLIStreamResult where
  emitted : List ProviderStreamEvent
  content : String
  reasoning : String
  session : Option ProviderSessionState
  err : Option CLIStreamError

def firstNonEmptyString (values : List String) : String :=
  (values.find? fun value => trimSpace value ≠ "").getD ""

def normalizeToolCallStatus (raw fallback : String) : String :=
  if trimSpace raw = "" then fallback else trimSpace raw

def nextCLISessionState (providerKind sessionID : String) : Option ProviderSessionState :=
  if trimSpace sessionID = "" then none
  else some { providerKind := providerKind, id := trimSpace sessionID }

def appendReasoningDelta (builder delta : String) : String :=
  if trimSpace delta = "" then builder
  else if builder = "" then trimSpace delta
  else builder ++ "\n\n" ++ trimSpace delta

def handOn (emit : List ProviderStreamEvent → Option String) (event : ProviderStreamEvent)
    (emitted : List ProviderStreamEvent) : List ProviderStreamEvent × Option String :=
  (emitted ++ [event], emit (emitted ++ [event]))

/-- How the command ends: the cause if its context was cancelled, and what `Wait` gives. -/
structure CommandEnd where
  cause : Option String := none
  waitErr : Option String := none

def CommandEnd.runErr (ended : CommandEnd) (callbackErr : Option String) :
    Option CLIStreamError :=
  ((ended.cause.map CLIStreamError.command).or (callbackErr.map .callback)).or
    (ended.waitErr.map .command)

structure CodexItem where
  id : String := ""
  type : String := ""
  text : String := ""
  message : String := ""
  command : String := ""
  aggregatedOutput : String := ""
  status : String := ""
  exitCode : Option Int := none

structure CodexCLIJSONLine where
  type : String := ""
  threadID : String := ""
  delta : String := ""
  text : String := ""
  message : String := ""
  /-- The message of the error. -/
  error : Option String := none
  item : Option CodexItem := none

structure CodexStream where
  text : String := ""
  reasoning : String := ""
  resolvedSessionID : String := ""
  textStreamed : Bool := false
  providerErr : Option String := none
  emitted : List ProviderStreamEvent := []

section

variable (emit : List ProviderStreamEvent → Option String)

def CodexStream.passOn (event : ProviderStreamEvent) (s : CodexStream) :
    CodexStream × Option String :=
  ({ s with emitted := (handOn emit event s.emitted).1 }, (handOn emit event s.emitted).2)

def codexToolCall (item : CodexItem) (status : String) : ProviderStreamToolCall where
  id := trimSpace item.id
  kind := "command_execution"
  name := "command_execution"
  status := status
  summary := trimSpace item.command
  input := trimSpace item.command

def codexItemCompleted (payload : CodexCLIJSONLine) (item : CodexItem) (s : CodexStream) :
    CodexStream × Option String :=
  let type := trimSpace item.type
  if type = "agent_message" then
    let text := firstNonEmptyString [item.text, payload.text]
    if text = "" ∨ s.textStreamed = true then (s, none)
    else ({ s with text := s.text ++ text } : CodexStream).passOn emit (.textDelta text)
  else if type = "reasoning" then
    let reasoning := firstNonEmptyString [item.text, payload.text]
    if reasoning = "" then (s, none)
    else
      ({ s with reasoning := appendReasoningDelta s.reasoning reasoning } : CodexStream).passOn emit
        (.reasoningDelta reasoning)
  else if type = "command_execution" then
    let status := normalizeToolCallStatus item.status "completed"
    let status := if item.exitCode.any (· ≠ 0) then "failed" else status
    s.passOn emit (.toolCall { codexToolCall item status with
      output := trimSpace item.aggregatedOutput, exitCode := item.exitCode })
  else if type = "error" then
    let message := firstNonEmptyString [item.message, payload.message]
    if trimSpace message = "" then (s, none)
    else ({ s with providerErr := some (trimSpace message) }, none)
  else (s, none)

def codexEvent (payload : CodexCLIJSONLine) (s : CodexStream) : CodexStream × Option String :=
  let type := trimSpace payload.type
  if type = "thread.started" then
    if trimSpace payload.threadID = "" then (s, none)
    else ({ s with resolvedSessionID := trimSpace payload.threadID }, none)
  else if type = "agent_message_delta" then
    let delta := firstNonEmptyString [payload.delta, payload.text]
    if trimSpace delta = "" then (s, none)
    else
      ({ s with text := s.text ++ delta, textStreamed := true } : CodexStream).passOn emit
        (.textDelta delta)
  else if type = "item.started" then
    match payload.item with
    | none => (s, none)
    | some item =>
      if trimSpace item.type ≠ "command_execution" then (s, none)
      else
        s.passOn emit (.toolCall (codexToolCall item
          (normalizeToolCallStatus item.status "in_progress")))
  else if type = "item.completed" then
    match payload.item with
    | none => (s, none)
    | some item => codexItemCompleted emit payload item s
  else if type = "turn.failed" ∨ type = "error" then
    let message := trimSpace payload.message
    let message :=
      match payload.error with
      | none => message
      | some text => if trimSpace text = "" then message else trimSpace text
    if message = "" then (s, none) else ({ s with providerErr := some message }, none)
  else (s, none)

def codexEvents : List CodexCLIJSONLine → CodexStream → CodexStream × Option String
  | [], s => (s, none)
  | payload :: rest, s =>
    match codexEvent emit payload s with
    | (next, some text) => (next, some text)
    | (next, none) => codexEvents rest next

/-- The run of a command that prints these payloads and leaves this text in the file of the
last message. -/
def runCodexCLIStream (session : Option ProviderSessionState) (payloads : List CodexCLIJSONLine)
    (ended : CommandEnd) (lastMessage : String) : CLIStreamResult :=
  let sessionID := (session.map (trimSpace ·.id)).getD ""
  let (s, callbackErr) := codexEvents emit payloads { resolvedSessionID := sessionID }
  let runErr := ended.runErr callbackErr
  let finalContent :=
    if trimSpace lastMessage = "" then trimSpace s.text else trimSpace lastMessage
  let err := runErr.or (s.providerErr.map .provider)
  { emitted := s.emitted
    content := if err = none then finalContent else ""
    reasoning := trimSpace s.reasoning
    session := nextCLISessionState "codex" s.resolvedSessionID
    err := err }

end

structure ClaudeContentBlock where
  type : String := ""
  id : String := ""
  name : String := ""
  /-- The input as it is written in the event. -/
  input : String := ""
  deriving DecidableEq

structure ClaudeDelta where
  type : String := ""
  text : String := ""
  partialJSON : String := ""

structure ClaudeStreamEvent where
  type : String := ""
  index : Int := 0
  contentBlock : Option ClaudeContentBlock := none
  delta : Option ClaudeDelta := none

structure ClaudeCodeStreamJSONLine where
  type : String := ""
  subtype : String := ""
  sessionID : String := ""
  result : String := ""
  isError : Bool := false
  message : String := ""
  event : Option ClaudeStreamEvent := none

structure ClaudeToolUseState where
  id : String
  name : String
  inputBuilder : String

structure ClaudeStream where
  text : String := ""
  resolvedSessionID : String := ""
  toolUses : Int → Option ClaudeToolUseState := fun _ => none
  providerErr : Option String := none
  emitted : List ProviderStreamEvent := []

section

variable (emit : List ProviderStreamEvent → Option String)

def ClaudeStream.passOn (event : ProviderStreamEvent) (s : ClaudeStream) :
    ClaudeStream × Option String :=
  ({ s with emitted := (handOn emit event s.emitted).1 }, (handOn emit event s.emitted).2)

def claudeToolCall (toolUse : ClaudeToolUseState) (status : String) : ProviderStreamToolCall where
  id := toolUse.id
  kind := "tool_use"
  name := firstNonEmptyString [toolUse.name, "tool_use"]
  status := status
  summary := firstNonEmptyString [toolUse.name, "tool_use"]
  input := trimSpace toolUse.inputBuilder

def claudeDelta (index : Int) (delta : ClaudeDelta) (s : ClaudeStream) :
    ClaudeStream × Option String :=
  let type := trimSpace delta.type
  if type = "text_delta" then
    if trimSpace delta.text = "" then (s, none)
    else ({ s with text := s.text ++ delta.text } : ClaudeStream).passOn emit
        (.textDelta delta.text)
  else if type = "input_json_delta" then
    match s.toolUses index with
    | none => (s, none)
    | some toolUse =>
      ({ s with
          toolUses := Function.update s.toolUses index (some { toolUse with
            inputBuilder := toolUse.inputBuilder ++ delta.partialJSON }) }, none)
  else (s, none)

def claudeBlockStart (index : Int) (contentBlock : ClaudeContentBlock) (s : ClaudeStream) :
    ClaudeStream × Option String :=
  if trimSpace contentBlock.type ≠ "tool_use" then (s, none)
  else
    let toolUse : ClaudeToolUseState :=
      { id := trimSpace contentBlock.id
        name := trimSpace contentBlock.name
        inputBuilder := contentBlock.input }
    ({ s with toolUses := Function.update s.toolUses index (some toolUse) } : ClaudeStream).passOn
      emit (.toolCall (claudeToolCall toolUse "in_progress"))

def claudeBlockStop (index : Int) (s : ClaudeStream) : ClaudeStream × Option String :=
  match s.toolUses index with
  | none => (s, none)
  | some toolUse =>
    ({ s with toolUses := Function.update s.toolUses index none } : ClaudeStream).passOn emit
      (.toolCall (claudeToolCall toolUse "completed"))

def claudeStreamEvent (event : ClaudeStreamEvent) (s : ClaudeStream) :
    ClaudeStream × Option String :=
  let type := trimSpace event.type
  if type = "content_block_delta" then
    match event.delta with
    | none => (s, none)
    | some delta => claudeDelta emit event.index delta s
  else if type = "content_block_start" then
    match event.contentBlock with
    | none => (s, none)
    | some contentBlock => claudeBlockStart emit event.index contentBlock s
  else if type = "content_block_stop" then claudeBlockStop emit event.index s
  else (s, none)

def claudeResult (payload : ClaudeCodeStreamJSONLine) (s : ClaudeStream) :
    ClaudeStream × Option String :=
  let failed := payload.isError || equalFold (trimSpace payload.subtype) "error"
  let message := firstNonEmptyString [trimSpace payload.result, trimSpace payload.message,
    "claude cli stream failed"]
  let s := if failed then { s with providerErr := some message } else s
  let text := trimSpace payload.result
  if text = "" ∨ s.text ≠ "" then (s, none)
  else ({ s with text := text } : ClaudeStream).passOn emit (.textDelta text)

def claudeEvent (payload : ClaudeCodeStreamJSONLine) (s : ClaudeStream) :
    ClaudeStream × Option String :=
  let s :=
    if trimSpace payload.sessionID = "" then s
    else { s with resolvedSessionID := trimSpace payload.sessionID }
  let type := trimSpace payload.type
  if type = "stream_event" then
    match payload.event with
    | none => (s, none)
    | some event => claudeStreamEvent emit event s
  else if type = "result" then claudeResult emit payload s
  else (s, none)

def claudeEvents : List ClaudeCodeStreamJSONLine → ClaudeStream → ClaudeStream × Option String
  | [], s => (s, none)
  | payload :: rest, s =>
    match claudeEvent emit payload s with
    | (next, some text) => (next, some text)
    | (next, none) => claudeEvents rest next

/-- The run of a command that prints these payloads. A session has a new identifier unless
there is one. -/
def runClaudeCodeCLIStream (newString : String) (session : Option ProviderSessionState)
    (payloads : List ClaudeCodeStreamJSONLine) (ended : CommandEnd) : CLIStreamResult :=
  let sessionID := (session.map (trimSpace ·.id)).getD ""
  let sessionID := if sessionID = "" then newString else sessionID
  let (s, callbackErr) := claudeEvents emit payloads { resolvedSessionID := sessionID }
  let runErr := ended.runErr callbackErr
  let err := runErr.or (s.providerErr.map .provider)
  { emitted := s.emitted
    content := if err = none then trimSpace s.text else ""
    reasoning := ""
    session := nextCLISessionState "claude" s.resolvedSessionID
    err := err }

end

section

variable {emit : List ProviderStreamEvent → Option String}

section

variable (accepts : ∀ events, emit events = none)
include accepts

theorem codex_event_accepted (payload : CodexCLIJSONLine) (s : CodexStream) :
    (codexEvent emit payload s).2 = none := by
  unfold codexEvent
  cases payload.item with
  | none => simp [apply_ite Prod.snd, CodexStream.passOn, handOn, accepts]
  | some item =>
    simp [apply_ite Prod.snd, codexItemCompleted, CodexStream.passOn, handOn, accepts]

theorem codex_events_accepted (payloads : List CodexCLIJSONLine) (s : CodexStream) :
    (codexEvents emit payloads s).2 = none := by
  induction payloads generalizing s with
  | nil => rfl
  | cons payload payloads ih =>
    have step := codex_event_accepted accepts payload s
    rw [codexEvents]
    cases event : codexEvent emit payload s with
    | mk next err =>
      rw [event] at step
      dsimp only at step
      rw [step]
      exact ih next

theorem claude_event_accepted (payload : ClaudeCodeStreamJSONLine) (s : ClaudeStream) :
    (claudeEvent emit payload s).2 = none := by
  have delta : ∀ index delta s, (claudeDelta emit index delta s).2 = none := by
    intro index delta s
    unfold claudeDelta
    cases s.toolUses index <;> simp [apply_ite Prod.snd, ClaudeStream.passOn, handOn, accepts]
  have start : ∀ index block s, (claudeBlockStart emit index block s).2 = none := by
    intro index block s
    simp [claudeBlockStart, apply_ite Prod.snd, ClaudeStream.passOn, handOn, accepts]
  have stop : ∀ index s, (claudeBlockStop emit index s).2 = none := by
    intro index s
    unfold claudeBlockStop
    cases s.toolUses index <;> simp [ClaudeStream.passOn, handOn, accepts]
  have stream : ∀ event s, (claudeStreamEvent emit event s).2 = none := by
    intro event s
    unfold claudeStreamEvent
    cases event.delta <;> cases event.contentBlock <;>
      simp [apply_ite Prod.snd, delta, start, stop]
  have result : ∀ payload s, (claudeResult emit payload s).2 = none := by
    intro payload s
    simp [claudeResult, apply_ite Prod.snd, ClaudeStream.passOn, handOn, accepts]
  unfold claudeEvent
  cases payload.event <;> simp [apply_ite Prod.snd, stream, result]

theorem claude_events_accepted (payloads : List ClaudeCodeStreamJSONLine) (s : ClaudeStream) :
    (claudeEvents emit payloads s).2 = none := by
  induction payloads generalizing s with
  | nil => rfl
  | cons payload payloads ih =>
    have step := claude_event_accepted accepts payload s
    rw [claudeEvents]
    cases event : claudeEvent emit payload s with
    | mk next err =>
      rw [event] at step
      dsimp only at step
      rw [step]
      exact ih next

end

end

def emittedText (emitted : List ProviderStreamEvent) : String :=
  String.join (emitted.filterMap fun event =>
    match event with
    | .textDelta delta => some delta
    | _ => none)

def codexDelta (payload : CodexCLIJSONLine) : Option String :=
  if trimSpace payload.type = "agent_message_delta" then
    some (if payload.delta = "" then payload.text else payload.delta)
  else none

def codexMessage (payload : CodexCLIJSONLine) : Option String :=
  if trimSpace payload.type = "item.completed" then
    (payload.item.filter fun item => trimSpace item.type = "agent_message").map fun item =>
      firstNonEmptyString [item.text, payload.text]
  else none

def codexTexts : Bool → List CodexCLIJSONLine → List String
  | _, [] => []
  | begun, payload :: rest =>
    match codexDelta payload with
    | some delta => delta :: codexTexts (begun || delta != "") rest
    | none => (if begun then [] else (codexMessage payload).toList) ++ codexTexts begun rest

def claudeTextDelta (payload : ClaudeCodeStreamJSONLine) : Option String :=
  if trimSpace payload.type = "stream_event" then
    payload.event.bind fun event =>
      if trimSpace event.type = "content_block_delta" then
        (event.delta.filter fun delta => trimSpace delta.type = "text_delta").map ClaudeDelta.text
      else none
  else none

def claudeResultText (payload : ClaudeCodeStreamJSONLine) : Option String :=
  if trimSpace payload.type = "result" then some (trimSpace payload.result) else none

def claudePiece (begun : Bool) (payload : ClaudeCodeStreamJSONLine) : Option String :=
  (claudeTextDelta payload).or (if begun then none else claudeResultText payload)

def claudeTexts : Bool → List ClaudeCodeStreamJSONLine → List String
  | _, [] => []
  | begun, payload :: rest =>
    (claudePiece begun payload).toList ++
      claudeTexts (begun || (claudePiece begun payload).any (· != "")) rest

def NoBlankDelta {Payload : Type} (delta : Payload → Option String) (payloads : List Payload) :
    Prop :=
  ∀ payload ∈ payloads, ∀ text ∈ delta payload, text = "" ∨ trimSpace text ≠ ""

instance {Payload : Type} (delta : Payload → Option String) (payloads : List Payload) :
    Decidable (NoBlankDelta delta payloads) :=
  inferInstanceAs (Decidable (∀ payload ∈ payloads, ∀ text ∈ delta payload, _))

section

variable {emit : List ProviderStreamEvent → Option String} {item : CodexItem}
  {payloads : List ClaudeCodeStreamJSONLine}

theorem emitted_text_append (front back : List ProviderStreamEvent) :
    emittedText (front ++ back) = emittedText front ++ emittedText back := by
  rw [emittedText, filterMap_append, join_append, ← emittedText, ← emittedText]

theorem first_non_empty_string_pair {first second : String}
    (visible : (if first = "" then second else first) = "" ∨
      trimSpace (if first = "" then second else first) ≠ "") :
    firstNonEmptyString [first, second] = if first = "" then second else first := by
  unfold firstNonEmptyString
  by_cases empty : first = ""
  · rw [if_pos empty] at visible ⊢
    by_cases none : second = ""
    · simp [empty, none]
    · simp [empty, visible.resolve_left none]
  · rw [if_neg empty] at visible ⊢
    simp [visible.resolve_left empty]

theorem emitted_text_delta (delta : String) : emittedText [.textDelta delta] = delta := by
  change join [delta] = delta
  rw [join_cons, join_nil, append_empty]

structure CodexAdds (s next : CodexStream) (piece : String) (begun : Bool) : Prop where
  text : next.text = s.text ++ piece
  emitted : emittedText next.emitted = emittedText s.emitted ++ piece
  streamed : next.textStreamed = begun

theorem codex_adds_nothing {s next : CodexStream} (text : next.text = s.text)
    (emitted : emittedText next.emitted = emittedText s.emitted)
    (streamed : next.textStreamed = s.textStreamed) : CodexAdds s next "" s.textStreamed :=
  ⟨by rw [text, append_empty], by rw [emitted, append_empty], streamed⟩

theorem codex_passes_on (s : CodexStream) {event : ProviderStreamEvent}
    (other : emittedText [event] = "") : CodexAdds s (s.passOn emit event).1 "" s.textStreamed := by
  refine ⟨(append_empty).symm, ?_, rfl⟩
  change emittedText (s.emitted ++ [event]) = _
  rw [emitted_text_append, other]

variable {payload : CodexCLIJSONLine}

theorem codex_delta_adds (s : CodexStream) {delta : String}
    (isDelta : codexDelta payload = some delta) (visible : delta = "" ∨ trimSpace delta ≠ "") :
    CodexAdds s (codexEvent emit payload s).1 delta (s.textStreamed || delta != "") := by
  by_cases type : trimSpace payload.type = "agent_message_delta"
  · rw [codexDelta, if_pos type] at isDelta
    have chosen := some.inj isDelta
    rw [← chosen] at visible
    have notStarted : trimSpace payload.type ≠ "thread.started" := by
      rw [type]
      decide
    unfold codexEvent
    rw [if_neg notStarted, if_pos type, first_non_empty_string_pair visible, chosen]
    rw [chosen] at visible
    by_cases empty : delta = ""
    · rw [empty, bne_self_eq_false, Bool.or_false]
      exact codex_adds_nothing rfl rfl rfl
    rw [if_neg (visible.resolve_left empty), bne_iff_ne.mpr empty, Bool.or_true]
    refine ⟨rfl, ?_, rfl⟩
    change emittedText (s.emitted ++ [.textDelta delta]) = _
    rw [emitted_text_append, emitted_text_delta]
  · rw [codexDelta, if_neg type] at isDelta
    cases isDelta

theorem codex_message_adds (s : CodexStream) (message : trimSpace item.type = "agent_message") :
    CodexAdds s (codexItemCompleted emit payload item s).1
      (if s.textStreamed then "" else firstNonEmptyString [item.text, payload.text])
      s.textStreamed := by
  unfold codexItemCompleted
  rw [if_pos message]
  generalize firstNonEmptyString [item.text, payload.text] = text
  by_cases streamed : s.textStreamed = true
  · rw [if_pos (.inr streamed), if_pos streamed]
    exact codex_adds_nothing rfl rfl rfl
  rw [if_neg streamed]
  by_cases empty : text = ""
  · rw [empty]
    exact codex_adds_nothing rfl rfl rfl
  rw [if_neg (not_or.mpr ⟨empty, streamed⟩)]
  refine ⟨rfl, ?_, rfl⟩
  change emittedText (s.emitted ++ [.textDelta text]) = _
  rw [emitted_text_append, emitted_text_delta]

theorem codex_item_silent (s : CodexStream) (notMessage : trimSpace item.type ≠ "agent_message") :
    CodexAdds s (codexItemCompleted emit payload item s).1 "" s.textStreamed := by
  have silent : CodexAdds s s "" s.textStreamed := codex_adds_nothing rfl rfl rfl
  unfold codexItemCompleted
  rw [if_neg notMessage]
  by_cases reasoning : trimSpace item.type = "reasoning"
  · rw [if_pos reasoning]
    generalize firstNonEmptyString [item.text, payload.text] = text
    by_cases empty : text = ""
    · rw [if_pos empty]
      exact silent
    rw [if_neg empty]
    refine ⟨append_empty.symm, ?_, rfl⟩
    change emittedText (s.emitted ++ [.reasoningDelta text]) = _
    rw [emitted_text_append]
    rfl
  rw [if_neg reasoning]
  by_cases command : trimSpace item.type = "command_execution"
  · rw [if_pos command]
    exact codex_passes_on s rfl
  rw [if_neg command]
  by_cases failed : trimSpace item.type = "error"
  · rw [if_pos failed]
    generalize firstNonEmptyString [item.message, payload.message] = message
    by_cases blank : trimSpace message = ""
    · rw [if_pos blank]
      exact silent
    · rw [if_neg blank]
      exact codex_adds_nothing rfl rfl rfl
  · rw [if_neg failed]
    exact silent

theorem codex_other_adds (s : CodexStream) (notDelta : codexDelta payload = none) :
    CodexAdds s (codexEvent emit payload s).1
      (if s.textStreamed then "" else (codexMessage payload).getD "") s.textStreamed := by
  have silent : CodexAdds s s "" s.textStreamed := codex_adds_nothing rfl rfl rfl
  have type : trimSpace payload.type ≠ "agent_message_delta" := by
    intro isDelta
    rw [codexDelta, if_pos isDelta] at notDelta
    cases notDelta
  by_cases completed : trimSpace payload.type = "item.completed"
  · have notStarted : trimSpace payload.type ≠ "thread.started" := by
      rw [completed]
      decide
    have notItem : trimSpace payload.type ≠ "item.started" := by
      rw [completed]
      decide
    unfold codexEvent
    rw [if_neg notStarted, if_neg type, if_neg notItem, if_pos completed, codexMessage,
      if_pos completed]
    cases payload.item with
    | none => simpa using silent
    | some item =>
      by_cases message : trimSpace item.type = "agent_message"
      · simpa [Option.filter, message] using codex_message_adds s message
      · simpa [Option.filter, message] using codex_item_silent s message
  have none : codexMessage payload = none := by rw [codexMessage, if_neg completed]
  rw [none, getD_none, ite_self]
  unfold codexEvent
  dsimp only
  split_ifs
  · exact silent
  · exact codex_adds_nothing rfl rfl rfl
  · cases payload.item with
    | none => exact silent
    | some item =>
      dsimp only
      split_ifs
      · exact silent
      · exact codex_passes_on s rfl
  · exact silent
  · exact codex_adds_nothing rfl rfl rfl
  · exact silent

theorem codex_events_text {payloads : List CodexCLIJSONLine}
    (visible : NoBlankDelta codexDelta payloads) {s last : CodexStream}
    (ran : codexEvents emit payloads s = (last, none)) :
    last.text = s.text ++ String.join (codexTexts s.textStreamed payloads) ∧
    emittedText last.emitted =
      emittedText s.emitted ++ String.join (codexTexts s.textStreamed payloads) := by
  induction payloads generalizing s with
  | nil =>
    obtain rfl := (Prod.mk.inj ran).1
    exact ⟨append_empty.symm, append_empty.symm⟩
  | cons payload payloads ih =>
    rw [NoBlankDelta, forall_mem_cons] at visible
    rw [codexEvents] at ran
    cases step : codexEvent emit payload s with
    | mk next err =>
      rw [step] at ran
      cases err with
      | some text => cases ran
      | none =>
        obtain ⟨text, emitted⟩ := ih visible.2 ran
        rw [codexTexts]
        cases delta : codexDelta payload with
        | some delta' =>
          have adds : CodexAdds s (codexEvent emit payload s).1 delta'
              (s.textStreamed || delta' != "") :=
            codex_delta_adds s delta (visible.1 delta' delta)
          rw [step] at adds
          rw [text, emitted, adds.text, adds.emitted, adds.streamed, join_cons,
            String.append_assoc, String.append_assoc]
          exact ⟨rfl, rfl⟩
        | none =>
          have adds : CodexAdds s (codexEvent emit payload s).1
              (if s.textStreamed then "" else (codexMessage payload).getD "")
              s.textStreamed := codex_other_adds s delta
          rw [step] at adds
          have piece : join
              (if s.textStreamed then [] else (codexMessage payload).toList) =
              if s.textStreamed then "" else (codexMessage payload).getD "" := by
            split_ifs
            · rfl
            cases codexMessage payload with
            | none => rfl
            | some message =>
              exact (join_cons).trans append_empty
          rw [text, emitted, adds.text, adds.emitted, adds.streamed, join_append,
            piece, String.append_assoc, String.append_assoc]
          exact ⟨rfl, rfl⟩

structure ClaudeAdds (s next : ClaudeStream) (piece : String) : Prop where
  text : next.text = s.text ++ piece
  emitted : emittedText next.emitted = emittedText s.emitted ++ piece

theorem claude_adds_nothing {s next : ClaudeStream} (text : next.text = s.text)
    (emitted : emittedText next.emitted = emittedText s.emitted) : ClaudeAdds s next "" :=
  ⟨by rw [text, append_empty], by rw [emitted, append_empty]⟩

section

variable (s : ClaudeStream)
include s

theorem claude_passes_text (delta : String) :
    ClaudeAdds s
      (({ s with text := s.text ++ delta } : ClaudeStream).passOn emit (.textDelta delta)).1
      delta := by
  refine ⟨rfl, ?_⟩
  change emittedText (s.emitted ++ [.textDelta delta]) = _
  rw [emitted_text_append, emitted_text_delta]

theorem claude_passes_call (toolUses : Int → Option ClaudeToolUseState)
    (call : ProviderStreamToolCall) :
    ClaudeAdds s (({ s with toolUses := toolUses } : ClaudeStream).passOn emit (.toolCall call)).1
      "" := by
  refine ⟨append_empty.symm, ?_⟩
  change emittedText (s.emitted ++ [.toolCall call]) = _
  rw [emitted_text_append]
  rfl

theorem claude_delta_adds {index : Int} {delta : ClaudeDelta}
    (visible : trimSpace delta.type = "text_delta" → delta.text = "" ∨ trimSpace delta.text ≠ "") :
    ClaudeAdds s (claudeDelta emit index delta s).1
      (if trimSpace delta.type = "text_delta" then delta.text else "") := by
  have silent : ClaudeAdds s s "" := claude_adds_nothing rfl rfl
  unfold claudeDelta
  by_cases isText : trimSpace delta.type = "text_delta"
  · rw [if_pos isText, if_pos isText]
    by_cases empty : delta.text = ""
    · rw [empty]
      exact silent
    · rw [if_neg ((visible isText).resolve_left empty)]
      exact claude_passes_text s delta.text
  rw [if_neg isText, if_neg isText]
  by_cases isInput : trimSpace delta.type = "input_json_delta"
  · rw [if_pos isInput]
    cases s.toolUses index with
    | none => exact silent
    | some toolUse => exact claude_adds_nothing rfl rfl
  · rw [if_neg isInput]
    exact silent

theorem claude_stream_event_adds {event : ClaudeStreamEvent}
    (visible : ∀ delta, event.delta = some delta → trimSpace event.type = "content_block_delta" →
      trimSpace delta.type = "text_delta" → delta.text = "" ∨ trimSpace delta.text ≠ "") :
    ClaudeAdds s (claudeStreamEvent emit event s).1
      ((if trimSpace event.type = "content_block_delta" then
        (event.delta.filter fun delta => trimSpace delta.type = "text_delta").map ClaudeDelta.text
      else none).getD "") := by
  have silent : ClaudeAdds s s "" := claude_adds_nothing rfl rfl
  unfold claudeStreamEvent
  by_cases isDelta : trimSpace event.type = "content_block_delta"
  · rw [if_pos isDelta, if_pos isDelta]
    cases found : event.delta with
    | none => exact silent
    | some delta =>
      have adds : ClaudeAdds s (claudeDelta emit event.index delta s).1 _ :=
        claude_delta_adds s (visible delta found isDelta)
      by_cases isText : trimSpace delta.type = "text_delta"
      · simpa [Option.filter, isText] using adds
      · simpa [Option.filter, isText] using adds
  rw [if_neg isDelta, if_neg isDelta]
  by_cases isStart : trimSpace event.type = "content_block_start"
  · rw [if_pos isStart]
    cases event.contentBlock with
    | none => exact silent
    | some contentBlock =>
      unfold claudeBlockStart
      by_cases other : trimSpace contentBlock.type ≠ "tool_use"
      · dsimp only
        rw [if_pos other]
        exact silent
      · dsimp only
        rw [if_neg other]
        exact claude_passes_call s _ _
  rw [if_neg isStart]
  by_cases isStop : trimSpace event.type = "content_block_stop"
  · rw [if_pos isStop, claudeBlockStop]
    cases s.toolUses event.index with
    | none => exact silent
    | some toolUse => exact claude_passes_call s _ _
  · rw [if_neg isStop]
    exact silent

theorem claude_result_cases {payload : ClaudeCodeStreamJSONLine} :
    ∃ noted : ClaudeStream, noted.text = s.text ∧ noted.emitted = s.emitted ∧
      noted.toolUses = s.toolUses ∧
      (claudeResult emit payload s).1 =
        if trimSpace payload.result = "" ∨ s.text ≠ "" then noted
        else (({ noted with text := trimSpace payload.result } : ClaudeStream).passOn emit
          (.textDelta (trimSpace payload.result))).1 := by
  unfold claudeResult
  dsimp only
  generalize (payload.isError || equalFold (trimSpace payload.subtype) "error") = failed
  cases failed with
  | false => exact ⟨s, rfl, rfl, rfl, apply_ite Prod.fst _ _ _⟩
  | true => exact ⟨{ s with providerErr := some _ }, rfl, rfl, rfl, apply_ite Prod.fst _ _ _⟩

theorem claude_result_adds {payload : ClaudeCodeStreamJSONLine} :
    ClaudeAdds s (claudeResult emit payload s).1
      (if s.text = "" then trimSpace payload.result else "") := by
  obtain ⟨noted, same, handed, -, result⟩ := claude_result_cases s
  rw [result]
  by_cases begun : s.text = ""
  · rw [if_pos begun]
    generalize trimSpace payload.result = text
    by_cases empty : text = ""
    · rw [if_pos (.inl empty), empty]
      exact claude_adds_nothing same (by rw [handed])
    rw [if_neg (not_or.mpr ⟨empty, not_not.mpr begun⟩)]
    refine ⟨?_, ?_⟩
    · rw [begun]
      rfl
    · change emittedText (noted.emitted ++ [.textDelta text]) = _
      rw [emitted_text_append, emitted_text_delta, handed]
  · rw [if_neg begun, if_pos (.inr begun)]
    exact claude_adds_nothing same (by rw [handed])

theorem claude_event_adds {payload : ClaudeCodeStreamJSONLine}
    (visible : ∀ text, claudeTextDelta payload = some text → text = "" ∨ trimSpace text ≠ "") :
    ClaudeAdds s (claudeEvent emit payload s).1 ((claudePiece (s.text != "") payload).getD "") := by
  unfold claudeEvent claudePiece
  have same : (if trimSpace payload.sessionID = "" then s
      else { s with resolvedSessionID := trimSpace payload.sessionID }).text = s.text := by
    split_ifs <;> rfl
  have handed : (if trimSpace payload.sessionID = "" then s
      else { s with resolvedSessionID := trimSpace payload.sessionID }).emitted = s.emitted := by
    split_ifs <;> rfl
  generalize (if trimSpace payload.sessionID = "" then s
    else { s with resolvedSessionID := trimSpace payload.sessionID }) = named at same handed
  have transfer : ∀ next piece, ClaudeAdds named next piece → ClaudeAdds s next piece := by
    intro next piece adds
    exact ⟨by rw [adds.text, same], by rw [adds.emitted, handed]⟩
  apply transfer
  have silent : ClaudeAdds named named "" := claude_adds_nothing rfl rfl
  by_cases isStream : trimSpace payload.type = "stream_event"
  · have notResult : trimSpace payload.type ≠ "result" := by
      rw [isStream]
      decide
    rw [if_pos isStream, claudeTextDelta, if_pos isStream, claudeResultText, if_neg notResult,
      ite_self, or_none]
    cases found : payload.event with
    | none => exact silent
    | some event =>
      apply claude_stream_event_adds
      intro delta own isDelta isText
      apply visible
      rw [claudeTextDelta, if_pos isStream, found, bind_some, if_pos isDelta, own]
      simp [isText]
  · rw [if_neg isStream, claudeTextDelta, if_neg isStream]
    by_cases isResult : trimSpace payload.type = "result"
    · rw [if_pos isResult, claudeResultText, if_pos isResult]
      have adds : ClaudeAdds named (claudeResult emit payload named).1 _ :=
        claude_result_adds named
      rw [same] at adds
      by_cases begun : s.text = ""
      · simpa [begun] using adds
      · simpa [begun] using adds
    · rw [if_neg isResult, claudeResultText, if_neg isResult, ite_self]
      exact silent

end

theorem claude_events_text (visible : NoBlankDelta claudeTextDelta payloads) {s last : ClaudeStream}
    (ran : claudeEvents emit payloads s = (last, none)) :
    last.text = s.text ++ String.join (claudeTexts (s.text != "") payloads) ∧
      emittedText last.emitted =
        emittedText s.emitted ++ String.join (claudeTexts (s.text != "") payloads) := by
  induction payloads generalizing s with
  | nil =>
    obtain rfl := (Prod.mk.inj ran).1
    exact ⟨append_empty.symm, append_empty.symm⟩
  | cons payload payloads ih =>
    rw [NoBlankDelta, forall_mem_cons] at visible
    rw [claudeEvents] at ran
    cases step : claudeEvent emit payload s with
    | mk next err =>
      rw [step] at ran
      cases err with
      | some text => cases ran
      | none =>
        obtain ⟨text, emitted⟩ := ih visible.2 ran
        have adds : ClaudeAdds s (claudeEvent emit payload s).1 _ :=
          claude_event_adds s visible.1
        rw [step] at adds
        rw [claudeTexts, text, emitted, adds.text, adds.emitted]
        cases piece : claudePiece (s.text != "") payload with
        | none =>
          rw [getD_none, append_empty, append_empty, any_none,
            Bool.or_false]
          exact ⟨rfl, rfl⟩
        | some piece' =>
          have begun : (s.text ++ piece' != "") = (s.text != "" || piece' != "") := by
            rw [Bool.eq_iff_iff, Bool.or_eq_true_iff, bne_iff_ne, bne_iff_ne, bne_iff_ne,
              ne_eq, append_eq_empty_iff, not_and_or]
          rw [getD_some, toList_some, begun, singleton_append, join_cons,
            String.append_assoc, String.append_assoc]
          exact ⟨rfl, rfl⟩

theorem codex_run_text (accepts : ∀ events, emit events = none) {payloads : List CodexCLIJSONLine}
    (visible : NoBlankDelta codexDelta payloads) (session : Option ProviderSessionState)
    (ended : CommandEnd) (lastMessage : String) :
    emittedText (runCodexCLIStream emit session payloads ended lastMessage).emitted =
      String.join (codexTexts false payloads) ∧
    ((runCodexCLIStream emit session payloads ended lastMessage).err = none →
      trimSpace lastMessage = "" →
      (runCodexCLIStream emit session payloads ended lastMessage).content =
        trimSpace
          (emittedText (runCodexCLIStream emit session payloads ended lastMessage).emitted)) := by
  have accepted := codex_events_accepted accepts payloads
    { resolvedSessionID := (session.map (trimSpace ·.id)).getD "" }
  unfold runCodexCLIStream
  dsimp only
  cases ran : codexEvents emit payloads
      { resolvedSessionID := (session.map (trimSpace ·.id)).getD "" } with
  | mk last err =>
    rw [ran] at accepted
    dsimp only at accepted
    rw [accepted] at ran
    obtain ⟨text, emitted⟩ := codex_events_text visible ran
    refine ⟨emitted.trans empty_append, ?_⟩
    intro succeeded noMessage
    rw [if_pos succeeded, if_pos noMessage, text, emitted]
    rfl

theorem claude_run_text (accepts : ∀ events, emit events = none)
    (visible : NoBlankDelta claudeTextDelta payloads) (newString : String)
    (session : Option ProviderSessionState) (ended : CommandEnd) :
    emittedText (runClaudeCodeCLIStream emit newString session payloads ended).emitted =
      String.join (claudeTexts false payloads) ∧
    ((runClaudeCodeCLIStream emit newString session payloads ended).err = none →
      (runClaudeCodeCLIStream emit newString session payloads ended).content =
        trimSpace
          (emittedText
            (runClaudeCodeCLIStream emit newString session payloads ended).emitted)) := by
  unfold runClaudeCodeCLIStream
  dsimp only
  generalize (if (session.map (trimSpace ·.id)).getD "" = "" then newString
    else (session.map (trimSpace ·.id)).getD "") = id
  have accepted := claude_events_accepted accepts payloads { resolvedSessionID := id }
  cases ran : claudeEvents emit payloads { resolvedSessionID := id } with
  | mk last err =>
    rw [ran] at accepted
    dsimp only at accepted
    rw [accepted] at ran
    obtain ⟨text, emitted⟩ := claude_events_text visible ran
    refine ⟨emitted.trans empty_append, ?_⟩
    intro succeeded
    rw [if_pos succeeded, text, emitted]
    rfl

end

/-- Both streams hand on the text of all deltas in order, as long as none of them is blank,
and end with that text trimmed unless the last message has a text of its own. -/
theorem cli_streams_keep_text {emit : List ProviderStreamEvent → Option String}
    (accepts : ∀ events, emit events = none) (session : Option ProviderSessionState)
    (ended : CommandEnd) :
    (∀ payloads lastMessage, NoBlankDelta codexDelta payloads →
      emittedText (runCodexCLIStream emit session payloads ended lastMessage).emitted =
          String.join (codexTexts false payloads) ∧
        ((runCodexCLIStream emit session payloads ended lastMessage).err = none →
          trimSpace lastMessage = "" →
          (runCodexCLIStream emit session payloads ended lastMessage).content =
            trimSpace
              (emittedText (runCodexCLIStream emit session payloads ended lastMessage).emitted))) ∧
    (∀ payloads newString, NoBlankDelta claudeTextDelta payloads →
      emittedText (runClaudeCodeCLIStream emit newString session payloads ended).emitted =
          String.join (claudeTexts false payloads) ∧
        ((runClaudeCodeCLIStream emit newString session payloads ended).err = none →
          (runClaudeCodeCLIStream emit newString session payloads ended).content =
            trimSpace
              (emittedText
                (runClaudeCodeCLIStream emit newString session payloads ended).emitted))) :=
  ⟨fun _ lastMessage visible => codex_run_text accepts visible session ended lastMessage,
    fun _ newString visible => claude_run_text accepts visible newString session ended⟩

def greeting : List CodexCLIJSONLine :=
  [{ type := "agent_message_delta", delta := "Hello " },
    { type := "agent_message_delta", delta := "world" }]

def claudeGreeting : List ClaudeCodeStreamJSONLine :=
  ["Hello ", "world"].map fun text =>
    { type := "stream_event"
      event := some
        { type := "content_block_delta", delta := some { type := "text_delta", text := text } } }

theorem greeting_is_kept :
    emittedText (runCodexCLIStream (fun _ => none) none greeting {} "").emitted =
        String.join (codexTexts false greeting) ∧
      emittedText (runClaudeCodeCLIStream (fun _ => none) "s" none claudeGreeting {}).emitted =
        String.join (claudeTexts false claudeGreeting) :=
  ⟨((cli_streams_keep_text (fun _ => rfl) none {}).1 greeting "" (by decide +kernel)).1,
    ((cli_streams_keep_text (fun _ => rfl) none {}).2 claudeGreeting "s" (by decide +kernel)).1⟩

/-- The content is without the blank at the end of the only delta. -/
theorem greeting_is_trimmed :
    let result := runCodexCLIStream (fun _ => none) none
      [{ type := "agent_message_delta", delta := "Hello " }] {} ""
    result.err = none ∧ result.content ≠ emittedText result.emitted := by
  decide +kernel

end RuneTerminal.Conversation
