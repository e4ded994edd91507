import RuneTerminal.Conversation.CliStreams

/-! What the event of a block that stops says of the input of its tool, against the fragments since
the block has started. -/

namespace RuneTerminal.Conversation

open Go.Strings List Option ClaudeStreamEvent ClaudeToolUseState

def ClaudeStreamEvent.toolUse (event : ClaudeStreamEvent) : Option (Int × ClaudeContentBlock) :=
  if trimSpace event.type = "content_block_start" then
    (event.contentBlock.filter fun block => trimSpace block.type = "tool_use").map
      fun block => (event.index, block)
  else none

def ClaudeStreamEvent.stopped (event : ClaudeStreamEvent) : Option Int :=
  if trimSpace event.type = "content_block_stop" then some event.index else none

def ClaudeStreamEvent.fragment (index : Int) (event : ClaudeStreamEvent) : Option String :=
  if trimSpace event.type = "content_block_delta" ∧ event.index = index then
    (event.delta.filter fun delta => trimSpace delta.type = "input_json_delta").map
      ClaudeDelta.partialJSON
  else none

def streamEvent (payload : ClaudeCodeStreamJSONLine) : Option ClaudeStreamEvent :=
  if trimSpace payload.type = "stream_event" then payload.event else none

def inputFragments (index : Int) (payloads : List ClaudeCodeStreamJSONLine) : List String :=
  payloads.filterMap fun payload => (streamEvent payload).bind (ClaudeStreamEvent.fragment index)

def LeavesOpen (index : Int) (payload : ClaudeCodeStreamJSONLine) : Prop :=
  ∀ event ∈ streamEvent payload,
    event.toolUse.map Prod.fst ≠ some index ∧ event.stopped ≠ some index

instance (index : Int) (payload : ClaudeCodeStreamJSONLine) : Decidable
  (LeavesOpen index payload) :=
  inferInstanceAs (Decidable (∀ event ∈ streamEvent payload, _))

section

variable {emit : List ProviderStreamEvent → Option String} {event : ClaudeStreamEvent}

theorem join_input_fragments_cons (index : Int) (payload : ClaudeCodeStreamJSONLine)
    (payloads : List ClaudeCodeStreamJSONLine) :
    String.join (inputFragments index (payload :: payloads)) =
      ((streamEvent payload).bind (ClaudeStreamEvent.fragment index)).getD "" ++
        String.join (inputFragments index payloads) := by
  rw [inputFragments, filterMap_cons]
  cases (streamEvent payload).bind (fragment index) with
  | none => exact String.empty_append.symm
  | some fragment => exact String.join_cons

def ClaudeToolUseState.extend (toolUse : ClaudeToolUseState) (fragment : String) :
    ClaudeToolUseState :=
  { toolUse with inputBuilder := toolUse.inputBuilder ++ fragment }

@[simp] theorem extend_empty (toolUse : ClaudeToolUseState) : toolUse.extend "" = toolUse := by
  rw [extend, String.append_empty]

@[simp] theorem extend_extend (toolUse : ClaudeToolUseState) (first second : String) :
    (toolUse.extend first).extend second = toolUse.extend (first ++ second) := by
  rw [extend, extend, extend, String.append_assoc]

variable {index : Int} {toolUse : ClaudeToolUseState}

theorem delta_extends {own : Int} {delta : ClaudeDelta} {s : ClaudeStream}
    (isOpen : s.toolUses index = some toolUse) :
    (claudeDelta emit own delta s).1.toolUses index =
      some (toolUse.extend (if own = index ∧ trimSpace delta.type = "input_json_delta" then
        delta.partialJSON else "")) := by
  unfold claudeDelta
  dsimp only
  by_cases isText : trimSpace delta.type = "text_delta"
  · have notInput : trimSpace delta.type ≠ "input_json_delta" := by
      rw [isText]
      decide
    have noInput : ¬(own = index ∧ trimSpace delta.type = "input_json_delta") := by
      intro both
      exact notInput both.2
    rw [if_neg noInput, extend_empty]
    split_ifs
    · exact isOpen
    · exact isOpen
  rw [if_neg isText]
  by_cases isInput : trimSpace delta.type = "input_json_delta"
  · rw [if_pos isInput]
    by_cases same : own = index
    · rw [same, isOpen, if_pos ⟨rfl, isInput⟩]
      exact Function.update_self index _ s.toolUses
    rw [if_neg (fun both => same both.1), extend_empty]
    cases s.toolUses own with
    | none => exact isOpen
    | some other =>
      exact (Function.update_of_ne (Ne.symm same) _ s.toolUses).trans isOpen
  · rw [if_neg isInput, if_neg (fun both => isInput both.2), extend_empty]
    exact isOpen

theorem stream_event_extends (noStart : event.toolUse.map Prod.fst ≠ some index)
    (noStop : event.stopped ≠ some index) {s : ClaudeStream}
    (isOpen : s.toolUses index = some toolUse) :
    (claudeStreamEvent emit event s).1.toolUses index =
      some (toolUse.extend ((event.fragment index).getD "")) := by
  unfold claudeStreamEvent fragment
  by_cases isDelta : trimSpace event.type = "content_block_delta"
  · rw [if_pos isDelta]
    cases found : event.delta with
    | none => simpa using isOpen
    | some delta =>
      rw [delta_extends isOpen]
      by_cases same : event.index = index
      · by_cases isInput : trimSpace delta.type = "input_json_delta"
        · simp [isDelta, same, isInput, Option.filter]
        · simp [isInput, Option.filter]
      · simp [same]
  have noFragment : ¬(trimSpace event.type = "content_block_delta" ∧ event.index = index) := by
    intro both
    exact isDelta both.1
  rw [if_neg isDelta, if_neg noFragment, getD_none, extend_empty]
  by_cases isStart : trimSpace event.type = "content_block_start"
  · rw [if_pos isStart]
    cases found : event.contentBlock with
    | none => exact isOpen
    | some block =>
      unfold claudeBlockStart
      by_cases isTool : trimSpace block.type = "tool_use"
      · have other : index ≠ event.index := by
          intro same
          apply noStart
          simp [ClaudeStreamEvent.toolUse, isStart, found, isTool, same]
        dsimp only
        rw [if_neg (not_not.mpr isTool)]
        exact (Function.update_of_ne other _ s.toolUses).trans isOpen
      · dsimp only
        rw [if_pos isTool]
        exact isOpen
  rw [if_neg isStart]
  by_cases isStop : trimSpace event.type = "content_block_stop"
  · have other : index ≠ event.index := by
      intro same
      apply noStop
      rw [stopped, if_pos isStop, same]
    rw [if_pos isStop, claudeBlockStop]
    cases s.toolUses event.index with
    | none => exact isOpen
    | some stopped => exact (Function.update_of_ne other _ s.toolUses).trans isOpen
  · rw [if_neg isStop]
    exact isOpen

def ClaudeStream.identify (payload : ClaudeCodeStreamJSONLine) (s : ClaudeStream) : ClaudeStream :=
  if trimSpace payload.sessionID = "" then s
  else { s with resolvedSessionID := trimSpace payload.sessionID }

section

variable (payload : ClaudeCodeStreamJSONLine) (s : ClaudeStream)
include payload s

@[simp] theorem identify_tool_uses : (s.identify payload).toolUses = s.toolUses := by
  unfold ClaudeStream.identify
  split_ifs
  · rfl
  · rfl

@[simp] theorem identify_emitted : (s.identify payload).emitted = s.emitted := by
  unfold ClaudeStream.identify
  split_ifs
  · rfl
  · rfl

theorem claude_event_identified :
    claudeEvent emit payload s =
      if trimSpace payload.type = "stream_event" then
        match payload.event with
        | none => (s.identify payload, none)
        | some event => claudeStreamEvent emit event (s.identify payload)
      else if trimSpace payload.type = "result" then
        claudeResult emit payload (s.identify payload)
      else (s.identify payload, none) := rfl

end

variable {payload : ClaudeCodeStreamJSONLine}

theorem event_in_stream (inside : streamEvent payload = some event) (s : ClaudeStream) :
    claudeEvent emit payload s = claudeStreamEvent emit event (s.identify payload) := by
  unfold streamEvent at inside
  by_cases isStream : trimSpace payload.type = "stream_event"
  · rw [if_pos isStream] at inside
    rw [claude_event_identified, if_pos isStream, inside]
  · rw [if_neg isStream] at inside
    cases inside

theorem result_tool_uses (payload : ClaudeCodeStreamJSONLine) (s : ClaudeStream) :
    (claudeResult emit payload s).1.toolUses = s.toolUses := by
  obtain ⟨noted, -, -, same, result⟩ := claude_result_cases s
  rw [result]
  split_ifs
  · exact same
  · exact same

theorem event_without_stream (outside : streamEvent payload = none) (s : ClaudeStream) :
    (claudeEvent emit payload s).1.toolUses = s.toolUses := by
  have kept : (s.identify payload).toolUses = s.toolUses := identify_tool_uses payload s
  unfold streamEvent at outside
  rw [claude_event_identified]
  by_cases isStream : trimSpace payload.type = "stream_event"
  · rw [if_pos isStream] at outside
    rw [if_pos isStream, outside]
    exact kept
  rw [if_neg isStream]
  by_cases isResult : trimSpace payload.type = "result"
  · rw [if_pos isResult]
    exact (result_tool_uses payload (s.identify payload)).trans kept
  · rw [if_neg isResult]
    exact kept

theorem event_extends (leavesOpen : LeavesOpen index payload) {s : ClaudeStream}
    (isOpen : s.toolUses index = some toolUse) :
    (claudeEvent emit payload s).1.toolUses index =
      some
        (toolUse.extend
          (((streamEvent payload).bind (ClaudeStreamEvent.fragment index)).getD "")) := by
  cases inside : streamEvent payload with
  | none =>
    rw [event_without_stream inside, bind_none, getD_none, extend_empty]
    exact isOpen
  | some event =>
    obtain ⟨noStart, noStop⟩ := leavesOpen event inside
    rw [event_in_stream inside, bind_some]
    rw [← identify_tool_uses payload s] at isOpen
    exact stream_event_extends noStart noStop isOpen

theorem events_extend {payloads : List ClaudeCodeStreamJSONLine}
    (leaveOpen : ∀ payload ∈ payloads, LeavesOpen index payload) {s last : ClaudeStream}
    (isOpen : s.toolUses index = some toolUse) (ran : claudeEvents emit payloads s = (last, none)) :
    last.toolUses index = some (toolUse.extend (String.join (inputFragments index payloads))) := by
  induction payloads generalizing s toolUse with
  | nil =>
    obtain rfl := (Prod.mk.inj ran).1
    rw [isOpen]
    exact congrArg some (extend_empty toolUse).symm
  | cons payload payloads ih =>
    rw [forall_mem_cons] at leaveOpen
    have step := @event_extends emit _ _ _ leaveOpen.1 _ isOpen
    rw [claudeEvents] at ran
    cases stepped : claudeEvent emit payload s with
    | mk next err =>
      rw [stepped] at step ran
      cases err with
      | some text => cases ran
      | none =>
        rw [ih leaveOpen.2 step ran, extend_extend, join_input_fragments_cons]

theorem event_starts_tool {block : ClaudeContentBlock}
    (starts : (streamEvent payload).bind ClaudeStreamEvent.toolUse = some (index, block))
    (s : ClaudeStream) :
    (claudeEvent emit payload s).1.toolUses index =
      some { id := trimSpace block.id, name := trimSpace block.name,
             inputBuilder := block.input } := by
  obtain ⟨event, inside, isTool⟩ := bind_eq_some_iff.mp starts
  rw [event_in_stream inside]
  unfold toolUse at isTool
  by_cases isStart : trimSpace event.type = "content_block_start"
  · rw [if_pos isStart] at isTool
    obtain ⟨found, kept, named⟩ := map_eq_some_iff.mp isTool
    obtain ⟨own, type⟩ := filter_eq_some_iff.mp kept
    cases named
    have notDelta : trimSpace event.type ≠ "content_block_delta" := by
      rw [isStart]
      decide
    unfold claudeStreamEvent claudeBlockStart
    rw [if_neg notDelta, if_pos isStart, own]
    dsimp only
    rw [if_neg (not_not.mpr (of_decide_eq_true type))]
    exact Function.update_self event.index _ _
  · rw [if_neg isStart] at isTool
    cases isTool

theorem event_stops_tool (stops : (streamEvent payload).bind ClaudeStreamEvent.stopped = some index)
    {s : ClaudeStream} (isOpen : s.toolUses index = some toolUse) :
    (claudeEvent emit payload s).1.emitted =
      s.emitted ++ [.toolCall (claudeToolCall toolUse "completed")] := by
  obtain ⟨event, inside, isStopped⟩ := bind_eq_some_iff.mp stops
  rw [event_in_stream inside]
  rw [← identify_tool_uses payload s] at isOpen
  unfold stopped at isStopped
  by_cases isStop : trimSpace event.type = "content_block_stop"
  · rw [if_pos isStop] at isStopped
    cases isStopped
    have notDelta : trimSpace event.type ≠ "content_block_delta" := by
      rw [isStop]
      decide
    have notStart : trimSpace event.type ≠ "content_block_start" := by
      rw [isStop]
      decide
    unfold claudeStreamEvent claudeBlockStop
    rw [if_neg notDelta, if_neg notStart, if_pos isStop, isOpen, ← identify_emitted payload s]
    rfl
  · rw [if_neg isStop] at isStopped
    cases isStopped

theorem stream_event_emitted (event : ClaudeStreamEvent) (s : ClaudeStream) :
    s.emitted <+: (claudeStreamEvent emit event s).1.emitted := by
  have kept : s.emitted <+: s.emitted := prefix_refl s.emitted
  have delta : ∀ delta, s.emitted <+: (claudeDelta emit event.index delta s).1.emitted := by
    intro delta
    unfold claudeDelta
    dsimp only
    split_ifs
    · exact kept
    · exact prefix_append s.emitted _
    · cases s.toolUses event.index with
      | none | some => exact kept
    · exact kept
  have start : ∀ block, s.emitted <+: (claudeBlockStart emit event.index block s).1.emitted := by
    intro block
    unfold claudeBlockStart
    split_ifs
    · exact kept
    · exact prefix_append s.emitted _
  have stop : s.emitted <+: (claudeBlockStop emit event.index s).1.emitted := by
    unfold claudeBlockStop
    cases s.toolUses event.index with
    | none => exact kept
    | some toolUse => exact prefix_append s.emitted _
  unfold claudeStreamEvent
  dsimp only
  split_ifs
  · cases event.delta with
    | none => exact kept
    | some own => exact delta own
  · cases event.contentBlock with
    | none => exact kept
    | some block => exact start block
  · exact stop
  · exact kept

theorem result_emitted (payload : ClaudeCodeStreamJSONLine) (s : ClaudeStream) :
    s.emitted <+: (claudeResult emit payload s).1.emitted := by
  obtain ⟨noted, -, same, -, result⟩ := claude_result_cases s
  rw [result, ← same]
  split_ifs
  · exact prefix_refl _
  · exact prefix_append _ _

theorem event_emitted (payload : ClaudeCodeStreamJSONLine) (s : ClaudeStream) :
    s.emitted <+: (claudeEvent emit payload s).1.emitted := by
  rw [← identify_emitted payload s, claude_event_identified]
  generalize s.identify payload = identified
  split_ifs
  · cases payload.event with
    | none => exact prefix_refl identified.emitted
    | some event => exact stream_event_emitted event identified
  · exact result_emitted payload identified
  · exact prefix_refl identified.emitted

theorem events_emitted (payloads : List ClaudeCodeStreamJSONLine) (s : ClaudeStream) :
    s.emitted <+: (claudeEvents emit payloads s).1.emitted := by
  induction payloads generalizing s with
  | nil => exact prefix_refl s.emitted
  | cons payload payloads ih =>
    have step := @event_emitted emit payload s
    rw [claudeEvents]
    cases stepped : claudeEvent emit payload s with
    | mk next err =>
      rw [stepped] at step
      cases err with
      | some text => exact step
      | none => exact step.trans (ih next)

section

variable (accepts : ∀ events, emit events = none)
include accepts

theorem claude_events_append (first second : List ClaudeCodeStreamJSONLine) (s : ClaudeStream) :
    claudeEvents emit (first ++ second) s =
    claudeEvents emit second (claudeEvents emit first s).1 := by
  induction first generalizing s with
  | nil => rfl
  | cons payload first ih =>
    have accepted := claude_event_accepted accepts payload s
    rw [cons_append, claudeEvents, claudeEvents]
    cases stepped : claudeEvent emit payload s with
    | mk next err =>
      rw [stepped] at accepted
      dsimp only at accepted
      rw [accepted]
      exact ih next

theorem claude_events_cons (payload : ClaudeCodeStreamJSONLine)
    (payloads : List ClaudeCodeStreamJSONLine) (s : ClaudeStream) :
    claudeEvents emit (payload :: payloads) s =
      claudeEvents emit payloads (claudeEvent emit payload s).1 := by
  have accepted := claude_event_accepted accepts payload s
  rw [claudeEvents]
  cases stepped : claudeEvent emit payload s with
  | mk next err =>
    rw [stepped] at accepted
    dsimp only at accepted
    rw [accepted]

theorem stopped_block_emitted {block : ClaudeContentBlock}
    {start stop : ClaudeCodeStreamJSONLine}
    (starts : (streamEvent start).bind ClaudeStreamEvent.toolUse = some (index, block))
    {middle : List ClaudeCodeStreamJSONLine}
    (leaveOpen : ∀ payload ∈ middle, LeavesOpen index payload)
    (stops : (streamEvent stop).bind ClaudeStreamEvent.stopped = some index)
    (before after : List ClaudeCodeStreamJSONLine) (s : ClaudeStream) :
    ∃ later, (claudeEvents emit (before ++ start :: middle ++ stop :: after) s).1.emitted =
      (claudeEvents emit (before ++ start :: middle) s).1.emitted ++
        .toolCall (claudeToolCall
          { id := trimSpace block.id
            name := trimSpace block.name
            inputBuilder := block.input ++ String.join (inputFragments index middle) }
          "completed") :: later := by
  rw [claude_events_append accepts, claude_events_append accepts before,
    claude_events_cons accepts start]
  generalize (claudeEvents emit before s).1 = opening
  have opened := @event_starts_tool emit _ _ _ starts opening
  generalize (claudeEvent emit start opening).1 = started at opened
  have accepted := claude_events_accepted accepts middle started
  cases ran : claudeEvents emit middle started with
  | mk last err =>
    rw [ran] at accepted
    dsimp only at accepted
    rw [accepted] at ran
    have gathered := events_extend leaveOpen opened ran
    have handed := @event_stops_tool emit _ _ _ stops _ gathered
    rw [claude_events_cons accepts stop]
    obtain ⟨later, rest⟩ :=
      @events_emitted emit after (claudeEvent emit stop last).1
    use later
    rw [← rest, handed, append_assoc]
    rfl

end

end

/-- The event of the completed tool carries the fragments of its input together, or else the input
of the start, without the white space around it. -/
theorem claude_tool_input_is_reassembled {emit : List ProviderStreamEvent → Option String}
    (accepts : ∀ events, emit events = none) {index : Int} {block : ClaudeContentBlock}
    {start stop : ClaudeCodeStreamJSONLine}
    (starts : (streamEvent start).bind ClaudeStreamEvent.toolUse = some (index, block))
    {middle : List ClaudeCodeStreamJSONLine}
    (leaveOpen : ∀ payload ∈ middle, LeavesOpen index payload)
    (stops : (streamEvent stop).bind ClaudeStreamEvent.stopped = some index)
    (apart : block.input = "" ∨ inputFragments index middle = [])
    (before after : List ClaudeCodeStreamJSONLine) (newString : String)
    (session : Option ProviderSessionState) (ended : CommandEnd) :
    ∃ call later,
      (runClaudeCodeCLIStream emit newString session (before ++ start :: middle ++ stop :: after)
        ended).emitted =
        (runClaudeCodeCLIStream emit newString session (before ++ start :: middle) ended).emitted ++
          .toolCall call :: later ∧
      call.id = trimSpace block.id ∧ call.status = "completed" ∧
      call.input =
        trimSpace
          (if inputFragments index middle = [] then block.input
          else String.join (inputFragments index middle)) := by
  have gathered : block.input ++ String.join (inputFragments index middle) =
      if inputFragments index middle = [] then block.input
        else String.join (inputFragments index middle) := by
    by_cases none : inputFragments index middle = []
    · rw [if_pos none, none, String.join_nil, String.append_empty]
    · rw [if_neg none, apart.resolve_right none, String.empty_append]
  obtain ⟨later, handed⟩ := stopped_block_emitted accepts starts leaveOpen stops before after _
  exact ⟨_, later, handed, rfl, rfl, congrArg trimSpace gathered⟩

def streamLine (event : ClaudeStreamEvent) : ClaudeCodeStreamJSONLine where
  type := "stream_event"
  event := some event

def readBlock : ClaudeContentBlock where
  type := "tool_use"
  id := "tool_1"
  name := "Read"

def readStart : ClaudeCodeStreamJSONLine :=
  streamLine { type := "content_block_start", contentBlock := some readBlock }

def readStop : ClaudeCodeStreamJSONLine := streamLine { type := "content_block_stop" }

def readFragment (partialJSON : String) : ClaudeCodeStreamJSONLine :=
  streamLine
    { type := "content_block_delta"
      delta := some { type := "input_json_delta", partialJSON := partialJSON } }

def readMiddle : List ClaudeCodeStreamJSONLine :=
  [readFragment "[\"README", streamLine
    { type := "content_block_delta", index := 1,
        delta := some { type := "text_delta", text := "Hi" } },
    readFragment ".md\"]"]

theorem read_input_is_reassembled :
    ∃ call later,
      (runClaudeCodeCLIStream (fun _ => none) "s" none
        ([] ++ readStart :: readMiddle ++ readStop :: []) {}).emitted =
        (runClaudeCodeCLIStream (fun _ => none) "s" none ([] ++ readStart :: readMiddle)
            {}).emitted ++
          .toolCall call :: later ∧
      call.id = trimSpace readBlock.id ∧ call.status = "completed" ∧
      call.input =
        trimSpace
          (if inputFragments 0 readMiddle = [] then readBlock.input
          else String.join (inputFragments 0 readMiddle)) := by
  have starts : (streamEvent readStart).bind toolUse = some (0, readBlock) := by
    decide +kernel
  have stops : (streamEvent readStop).bind stopped = some 0 := by
    decide +kernel
  have leaveOpen : ∀ payload ∈ readMiddle, LeavesOpen 0 payload := by
    decide +kernel
  exact claude_tool_input_is_reassembled (fun _ => rfl) starts leaveOpen stops (.inl rfl) [] []
    "s" none {}

/-- The blank at the end of the only fragment is not in the input. -/
theorem read_input_is_trimmed :
    inputFragments 0 [readFragment "[] "] = ["[] "] ∧
      (runClaudeCodeCLIStream (fun _ => none) "s" none
          [readStart, readFragment "[] ", readStop] {}).emitted.getLast? =
        some (.toolCall
          { id := "tool_1", kind := "tool_use", name := "Read", status := "completed"
            summary := "Read", input := "[]" }) := by
  decide +kernel

end RuneTerminal.Conversation
