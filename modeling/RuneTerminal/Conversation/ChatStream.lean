import RuneTerminal.Conversation.Store
import RuneTerminal.Go.Json
import RuneTerminal.Go.Scanner

/-! `core/conversation/provider_openai_compatible.go`: the line loop that collects the data lines of
an event, decodes it, and hands each delta on. Times are left out. -/

namespace RuneTerminal.Conversation

open Go
open Go.Json (Decoder Value lex parse parseTokens lex_lines lex_trim_space)
open Go.Strings Kit
open List hiding lex

structure ContentPart where
  type : String := ""
  text : String := ""

def contentPartFields : List (Json.Field ContentPart) :=
  [ ⟨"type", fun value part => (Json.decodeString value part.type).map ({ part with type := · })⟩,
    ⟨"text", fun value part => (Json.decodeString value part.text).map ({ part with text := · })⟩ ]

/-- `strings.EqualFold` with a text in ASCII whose letters have no other case fold. -/
def equalFold (text ascii : String) : Bool :=
  Json.sameFolded ascii text

/-- `openAICompatibleContent.UnmarshalJSON`: a text, or the texts of a list of parts. -/
def decodeContent : Decoder String
  | .null, _ => some ""
  | .str text, _ => some text
  | value, _ =>
    (Json.decodeList (Json.decodeStruct contentPartFields) {} value []).map fun parts =>
      String.join ((parts.filter fun part => equalFold (trimSpace part.type) "text").map
        ContentPart.text)

structure ErrorPayload where
  message : String := ""
  type : String := ""
  code : String := ""
  deriving DecidableEq

def errorPayloadFields : List (Json.Field ErrorPayload) :=
  [ ⟨"message", fun value error =>
      (Json.decodeString value error.message).map ({ error with message := · })⟩,
    ⟨"type", fun value error => (Json.decodeString value error.type).map
        ({ error with type := · })⟩,
    ⟨"code", fun value error => (Json.decodeString value error.code).map
        ({ error with code := · })⟩]

/-- Into a pointer: `null` clears it, and an object decodes into what it points to. -/
def decodePointer {Data : Type} (decode : Decoder Data) (zero : Data) : Decoder (Option Data)
  | .null, _ => some none
  | value, current => (decode value (current.getD zero)).map some

def deltaFields : List (Json.Field String) :=
  [⟨"content", decodeContent⟩]

def choiceFields : List (Json.Field String) :=
  [⟨"delta", Json.decodeStruct deltaFields⟩]

/-- `openAICompatibleChatStreamResponse` -/
structure ChatStreamResponse where
  choices : List String := []
  error : Option ErrorPayload := none
  deriving DecidableEq

def chatStreamResponseFields : List (Json.Field ChatStreamResponse) :=
  [ ⟨"choices", fun value response =>
      (Json.decodeList (Json.decodeStruct choiceFields) "" value response.choices).map
        ({ response with choices := · })⟩,
    ⟨"error", fun value response =>
      (decodePointer (Json.decodeStruct errorPayloadFields) {} value response.error).map
        ({ response with error := · })⟩ ]

def decodeEvent (rawEvent : String) : Option ChatStreamResponse :=
  Json.unmarshalText (Json.decodeStruct chatStreamResponseFields) {} rawEvent

inductive StreamError where
  | invalidJSON
  | response (text : String)
  | lineTooLong
  | noDataFrames
  | callback (text : String)
  deriving DecidableEq

/-- `openAICompatibleResponseError` for a status of 200. -/
def responseError (payload : ErrorPayload) : StreamError :=
  if trimSpace payload.message = "" then .response "openai-compatible request failed (200)"
  else .response ("openai-compatible request failed (200): " ++ trimSpace payload.message)

structure ChatStream where
  dataLines : List String := []
  content : String := ""
  sawDataFrame : Bool := false
  /-- The texts that `onTextDelta` was called with. -/
  passed : List String := []

abbrev Ran := ChatStream × Option StreamError

def doneMarker : String := "[DONE]"

section

variable (onTextDelta : List String → Option String)

def deliver : List String → ChatStream → Ran
  | [], s => (s, none)
  | delta :: rest, s =>
    if delta = "" then deliver rest s
    else
      let next := { s with content := s.content ++ delta, passed := s.passed ++ [delta] }
      match onTextDelta next.passed with
      | some text => (next, some (.callback text))
      | none => deliver rest next

def flush (s : ChatStream) : Ran :=
  if s.dataLines = [] then (s, none)
  else
    let rawEvent := trimSpace ("\n".intercalate s.dataLines)
    let next := { s with dataLines := [] }
    if rawEvent = "" ∨ rawEvent = doneMarker then (next, none)
    else
      match decodeEvent rawEvent with
      | none => (next, some .invalidJSON)
      | some event =>
        match event.error with
        | some payload => (next, some (responseError payload))
        | none => deliver onTextDelta event.choices next

/-- `strings.CutPrefix` with "data:". -/
def cutData (line : List Char) : Option (List Char) :=
  if "data:".toList.isPrefixOf line then some (line.drop 5) else none

def consumeLine (line : List Char) (s : ChatStream) : Ran :=
  if line = [] then flush onTextDelta s
  else if line.head? = some ':' then (s, none)
  else
    match cutData line with
    | some data =>
      ({ s with
          sawDataFrame := true
          dataLines := s.dataLines ++ [trimSpace (String.ofList data)] }, none)
    | none => (s, none)

def consumeLines : List (List Char) → ChatStream → Ran
  | [], s => (s, none)
  | raw :: rest, s =>
    match consumeLine onTextDelta (raw.rdropWhile (· == '\r')) s with
    | (next, some err) => (next, some err)
    | (next, none) => consumeLines rest next

/-- `1024*1024`, the limit of the scanner's buffer. -/
def maxLineBytes : Nat := 1024 * 1024

/-- What was handed to `onTextDelta`, and the content or the error. -/
def consumeOpenAICompatibleChatStream (body : List Char) :
    List String × Except StreamError String :=
  let (lines, tooLong) := scanTextLines maxLineBytes body
  match consumeLines onTextDelta lines {} with
  | (s, some err) => (s.passed, .error err)
  | (s, none) =>
    if tooLong then (s.passed, .error .lineTooLong)
    else if !s.sawDataFrame then (s.passed, .error .noDataFrames)
    else
      match flush onTextDelta s with
      | (last, some err) => (last.passed, .error err)
      | (last, none) => (last.passed, .ok last.content)

end

def IsData (line : List Char) : Prop :=
  ∃ value, lineKind line = .data value

def dataValue (line : List Char) : List Char :=
  match lineKind line with
  | .data value => value
  | _ => []

def codeData (line : List Char) : Option String :=
  (cutData line).map fun data => trimSpace (String.ofList data)

variable {line value : List Char} {block lines : List (List Char)}

section

variable {tokens : List Json.Token}

theorem cut_data_marked (rest : List Char) : cutData ("data:".toList ++ rest) = some rest := by
  have dropped : ("data:".toList ++ rest).drop 5 = rest := rfl
  rw [cutData, if_pos (by simp), dropped]

theorem cut_data_blank : cutData [] = none := by
  decide

theorem cut_data_eq_some {data : List Char} (cut : cutData line = some data) :
    line = "data:".toList ++ data := by
  unfold cutData at cut
  split_ifs at cut with isPrefix
  obtain ⟨rest, rfl⟩ := isPrefixOf_iff_prefix.mp isPrefix
  have same : rest = data := Option.some.inj cut
  rw [same]

theorem code_data_cases (kind : lineKind line = .data value) :
    (codeData line = none ∧ value = []) ∨ ∃ rest, (rest = value ∨ rest = ' ' :: value) ∧
    codeData line = some (trimSpace (String.ofList rest)) := by
  rcases line_kind_data kind with ⟨rfl, rfl⟩ | ⟨rest, rfl, isValue⟩
  · exact .inl ⟨rfl, rfl⟩
  · refine .inr ⟨rest, isValue, ?_⟩
    rw [codeData, cut_data_marked, Option.map_some]

theorem lex_cons_blank (text : List Char) : lex (' ' :: text) = lex text :=
  rfl

theorem lex_code_data (isData : IsData line) (lexed : lex (dataValue line) = some tokens) :
    (codeData line = none ∧ tokens = []) ∨ ∃ data, codeData line = some data ∧
    lex data.toList = some tokens := by
  obtain ⟨value, kind⟩ := isData
  have isValue : dataValue line = value := by
    rw [dataValue, kind]
  rw [isValue] at lexed
  rcases code_data_cases kind with ⟨dropped, rfl⟩ | ⟨rest, isRest, kept⟩
  · exact .inl ⟨dropped, (Option.some.inj lexed).symm⟩
  refine .inr ⟨_, kept, lex_trim_space ?_⟩
  rw [String.toList_ofList]
  rcases isRest with rfl | rfl
  · exact lexed
  · rwa [lex_cons_blank]

theorem lex_block (allData : ∀ line ∈ block, IsData line) {perLine : List (List Json.Token)}
    (lexed : (block.map dataValue).mapM lex = some perLine) :
    ∃ kept, ((block.filterMap codeData).map String.toList).mapM lex = some kept ∧
    kept.flatten = perLine.flatten := by
  induction block generalizing perLine with
  | nil =>
    cases lexed
    exact ⟨[], rfl, rfl⟩
  | cons line block ih =>
    rw [forall_mem_cons] at allData
    rw [map_cons, mapM_cons, Option.bind_eq_bind, Option.bind_eq_some_iff] at lexed
    obtain ⟨tokens, isLine, lexed⟩ := lexed
    rw [Option.bind_eq_bind, Option.bind_eq_some_iff] at lexed
    obtain ⟨others, areOthers, lexed⟩ := lexed
    cases lexed
    obtain ⟨kept, lexedKept, same⟩ := ih allData.2 areOthers
    rcases lex_code_data allData.1 isLine with ⟨dropped, rfl⟩ | ⟨data, isKept, lexedData⟩
    · rw [filterMap_cons_none dropped]
      exact ⟨kept, lexedKept, same⟩
    · rw [filterMap_cons_some isKept, map_cons, mapM_cons, lexedData, lexedKept]
      refine ⟨tokens :: kept, rfl, ?_⟩
      rw [flatten_cons, flatten_cons, same]

theorem parse_block (allData : ∀ line ∈ block, IsData line) {value : Json.Value}
    (parsed : parse (['\n'].intercalate (block.map dataValue)) = some value) :
    parse (trimSpace ("\n".intercalate (block.filterMap codeData))).toList = some value := by
  rw [parse, Option.bind_eq_some_iff] at parsed
  obtain ⟨tokens, lexed, isValue⟩ := parsed
  rw [lex_lines, Option.map_eq_some_iff] at lexed
  obtain ⟨perLine, lexed, rfl⟩ := lexed
  obtain ⟨kept, lexedKept, same⟩ := lex_block allData lexed
  have joined : lex ("\n".intercalate (block.filterMap codeData)).toList =
      some perLine.flatten := by
    rw [String.toList_intercalate]
    change lex (['\n'].intercalate _) = _
    rw [lex_lines, lexedKept, Option.map_some, same]
  rw [parse, lex_trim_space joined]
  exact isValue

end

/-- A chat-completion event: a text of JSON that decodes without an error. -/
structure ChatEvent where
  text : List Char
  response : ChatStreamResponse
  decodes : decodeEvent (String.ofList text) = some response
  noError : response.error = none

def deltasOf (text : List Char) : List String :=
  match decodeEvent (String.ofList text) with
  | some response => response.choices
  | none => []

def Acceptable (text : List Char) : Prop :=
  text = doneMarker.toList ∨
    ∃ response, decodeEvent (String.ofList text) = some response ∧ response.error = none

theorem decode_event_done : decodeEvent doneMarker = none := by
  decide +kernel

theorem done_block (allData : ∀ line ∈ block, IsData line)
    (isDone : ['\n'].intercalate (block.map dataValue) = doneMarker.toList) :
    block.filterMap codeData = [doneMarker] := by
  cases block with
  | nil => cases isDone
  | cons line block =>
    cases block with
    | nil =>
      rw [map_singleton, intercalate_singleton] at isDone
      obtain ⟨value, kind⟩ := allData line mem_cons_self
      have isValue : dataValue line = value := by
        rw [dataValue, kind]
      obtain rfl : value = doneMarker.toList := isValue.symm.trans isDone
      rcases code_data_cases kind with ⟨_, empty⟩ | ⟨rest, isRest, kept⟩
      · cases empty
      rw [filterMap_cons_some kept]
      rcases isRest with rfl | rfl
      · decide
      · decide
    | cons next block =>
      have inside : '\n' ∈ doneMarker.toList := by
        rw [← isDone]
        simp
      exact absurd inside (by decide)

section

variable {onTextDelta : List String → Option String} {s : ChatStream}

theorem deliver_accepted (accepts : ∀ passed, onTextDelta passed = none) (deltas : List String)
    (s : ChatStream) :
    deliver onTextDelta deltas s =
      ({ s with
          content := s.content ++ String.join deltas
          passed := s.passed ++ deltas.filter (· ≠ "") }, none) := by
  induction deltas generalizing s with
  | nil => simp [deliver]
  | cons delta deltas ih =>
    rw [deliver]
    dsimp only
    split_ifs with empty
    · rw [ih]
      simp [empty]
    · rw [accepts]
      rw [ih]
      simp [empty, String.append_assoc]

theorem flush_block (accepts : ∀ passed, onTextDelta passed = none)
    (collected : s.dataLines = block.filterMap codeData) (allData : ∀ line ∈ block, IsData line)
    (acceptable : ∀ text ∈ dispatch (block.map dataValue), Acceptable text) :
    flush onTextDelta s =
      ({ s with
          dataLines := []
          content := s.content ++ String.join ((dispatch (block.map dataValue)).flatMap deltasOf)
          passed := s.passed ++
            ((dispatch (block.map dataValue)).flatMap deltasOf).filter (· ≠ "") }, none) := by
  cases block with
  | nil =>
    have noLines : s.dataLines = [] := collected
    rw [flush]
    obtain ⟨dataLines, content, sawDataFrame, passed⟩ := s
    obtain rfl : dataLines = [] := noLines
    simp [dispatch]
  | cons line block =>
    have event : dispatch ((line :: block).map dataValue) =
        [['\n'].intercalate ((line :: block).map dataValue)] := rfl
    rw [event, forall_mem_singleton] at acceptable
    rw [event, flatMap_singleton]
    rcases acceptable with isDone | ⟨response, decoded, noError⟩
    · rw [done_block allData isDone] at collected
      have done : trimSpace ("\n".intercalate [doneMarker]) = doneMarker := by decide
      have noDeltas : deltasOf doneMarker.toList = [] := by
        rw [deltasOf, String.ofList_toList, decode_event_done]
      rw [flush, collected, isDone, noDeltas]
      rw [done]
      simp
    -- The text that the loop decodes has the same value, so it is neither blank nor the marker.
    have decodedCode : decodeEvent (trimSpace ("\n".intercalate s.dataLines)) =
        some response := by
      rw [decodeEvent, Json.unmarshalText, Option.bind_eq_some_iff, String.toList_ofList]
        at decoded
      obtain ⟨value, parsed, isResponse⟩ := decoded
      rw [decodeEvent, Json.unmarshalText, collected, parse_block allData parsed]
      exact isResponse
    have lines : s.dataLines ≠ [] := by
      intro noLines
      rw [noLines] at decodedCode
      cases decodedCode
    have isEvent : ¬(trimSpace ("\n".intercalate s.dataLines) = "" ∨
        trimSpace ("\n".intercalate s.dataLines) = doneMarker) := by
      rintro (blank | done)
      · rw [blank] at decodedCode
        cases decodedCode
      · rw [done, decode_event_done] at decodedCode
        cases decodedCode
    have deltas : deltasOf (['\n'].intercalate ((line :: block).map dataValue)) =
        response.choices := by
      rw [deltasOf, decoded]
    rw [flush, if_neg lines]
    rw [if_neg isEvent, decodedCode]
    dsimp only
    rw [noError]
    rw [deliver_accepted accepts, deltas]

theorem data_value_eq (kind : lineKind line = .data value) : dataValue line = value := by
  rw [dataValue, kind]

theorem consume_line_blank (s : ChatStream) : consumeLine onTextDelta [] s = flush onTextDelta s :=
  if_pos rfl

theorem consume_line_data (isData : IsData line) (s : ChatStream) :
    consumeLine onTextDelta line s =
      ({ s with
          sawDataFrame := s.sawDataFrame || (cutData line).isSome
          dataLines := s.dataLines ++ [line].filterMap codeData }, none) := by
  obtain ⟨value, kind⟩ := isData
  have notBlank : line ≠ [] := by
    rintro rfl
    cases kind
  have notComment : line.head? ≠ some ':' := by
    rw [ne_eq, ← line_kind_eq_comment, kind]
    exact LineKind.noConfusion
  rw [consumeLine, if_neg notBlank, if_neg notComment]
  cases cut : cutData line with
  | none =>
    have dropped : codeData line = none := by rw [codeData, cut, Option.map_none]
    rw [filterMap_cons_none dropped]
    simp
  | some data =>
    have kept : codeData line = some (trimSpace (String.ofList data)) := by
      rw [codeData, cut, Option.map_some]
    rw [filterMap_cons_some kept]
    simp

theorem consume_line_passed_over (notData : ∀ value, lineKind line ≠ .data value)
    (notBlank : line ≠ []) (s : ChatStream) :
    consumeLine onTextDelta line s = (s, none) ∧ cutData line = none := by
  have notCut : cutData line = none := by
    cases cut : cutData line with
    | none => rfl
    | some data => exact absurd (cut_data_eq_some cut) (line_kind_not_data notData data)
  refine ⟨?_, notCut⟩
  rw [consumeLine, if_neg notBlank]
  split_ifs
  · rfl
  · rw [notCut]

theorem consume_lines_cons (clean : CleanLine line) {next : ChatStream}
    (consumed : consumeLine onTextDelta line s = (next, none)) (rest : List (List Char)) :
    consumeLines onTextDelta (line :: rest) s = consumeLines onTextDelta rest next := by
  have trimmed : line.rdropWhile (· == '\r') = line := by
    rw [rdropWhile_eq_self_iff]
    intro nonempty last
    exact clean.2 (eq_of_beq last ▸ getLast_mem nonempty)
  rw [consumeLines, trimmed, consumed]

theorem consume_lines_framed (accepts : ∀ passed, onTextDelta passed = none)
    (clean : ∀ line ∈ lines, CleanLine line) (collected : s.dataLines = block.filterMap codeData)
    (allData : ∀ line ∈ block, IsData line)
    (acceptable : ∀ text ∈ readEvents (block.map dataValue) lines, Acceptable text) :
    ∃ next last, consumeLines onTextDelta lines s = (next, none) ∧
      flush onTextDelta next = (last, none) ∧
      next.sawDataFrame = (s.sawDataFrame || lines.any fun line => (cutData line).isSome) ∧
      last.content =
        s.content ++ String.join ((readEvents (block.map dataValue) lines).flatMap deltasOf) ∧
      last.passed =
        s.passed ++
          ((readEvents (block.map dataValue) lines).flatMap deltasOf).filter (· ≠ "") := by
  induction lines generalizing block s with
  | nil =>
    exact ⟨s, _, rfl, flush_block accepts collected allData acceptable, by simp, rfl, rfl⟩
  | cons line lines ih =>
    rw [forall_mem_cons] at clean
    by_cases blank : line = []
    · subst blank
      have split : readEvents (block.map dataValue) ([] :: lines) =
          dispatch (block.map dataValue) ++ readEvents [] lines := rfl
      rw [split, forall_mem_append] at acceptable
      have flushed := flush_block accepts collected allData acceptable.1
      rw [← consume_line_blank] at flushed
      have noBlock : [] = ([] : List (List Char)).filterMap codeData := rfl
      obtain ⟨next, last, run, flushedLast, saw, content, passed⟩ :=
        ih (s := { s with
              dataLines := []
              content := s.content ++
                String.join ((dispatch (block.map dataValue)).flatMap deltasOf)
              passed := s.passed ++
                ((dispatch (block.map dataValue)).flatMap deltasOf).filter (· ≠ "") })
          clean.2 noBlock (by simp) acceptable.2
      refine ⟨next, last, ?_, flushedLast, ?_, ?_, ?_⟩
      · rw [consume_lines_cons clean.1 flushed, run]
      · rw [saw, any_cons, cut_data_blank, Option.isSome_none, Bool.false_or]
      · rw [content, split, flatMap_append, String.join_append, ← String.append_assoc]
        rfl
      · rw [passed, split, flatMap_append, filter_append, ← append_assoc]
        rfl
    by_cases isData : IsData line
    · have ⟨value, kind⟩ := isData
      have grown : readEvents (block.map dataValue) (line :: lines) =
          readEvents ((block ++ [line]).map dataValue) lines := by
        rw [readEvents, kind, map_append, map_singleton, data_value_eq kind]
      rw [grown] at acceptable
      have allGrown : ∀ entry ∈ block ++ [line], IsData entry := by
        intro entry mem
        rcases mem_append.mp mem with old | new
        · exact allData entry old
        · rwa [mem_singleton.mp new]
      obtain ⟨next, last, run, flushedLast, saw, content, passed⟩ :=
        ih (s := { s with
              sawDataFrame := s.sawDataFrame || (cutData line).isSome
              dataLines := s.dataLines ++ [line].filterMap codeData })
          clean.2 (by rw [filterMap_append, collected]) allGrown acceptable
      refine ⟨next, last, ?_, flushedLast, ?_, ?_, ?_⟩
      · rw [consume_lines_cons clean.1 (consume_line_data isData s), run]
      · rw [saw, any_cons, Bool.or_assoc]
      · rw [content, grown]
      · rw [passed, grown]
    · have notData : ∀ value, lineKind line ≠ .data value := fun value kind =>
        isData ⟨value, kind⟩
      obtain ⟨consumed, notCut⟩ := consume_line_passed_over notData blank s
      rw [read_events_passed_over notData blank] at acceptable ⊢
      rw [consume_lines_cons clean.1 consumed, any_cons, notCut]
      exact ih clean.2 collected allData acceptable

end

/-- The stream is a framing of these events, with the end marker or without it. -/
def Frames (stream : EventStream) (events : List ChatEvent) (done : Bool) : Prop :=
  stream.events = events.map ChatEvent.text ++ if done then [doneMarker.toList] else []

variable {stream : EventStream}

section

variable {events : List ChatEvent} {done : Bool}

theorem deltas_of_event (event : ChatEvent) : deltasOf event.text = event.response.choices := by
  rw [deltasOf, event.decodes]

theorem deltas_of_done : deltasOf doneMarker.toList = [] := by
  rw [deltasOf, String.ofList_toList, decode_event_done]

theorem Frames.acceptable (framed : Frames stream events done) :
    ∀ text ∈ stream.events, Acceptable text := by
  intro text mem
  rw [framed] at mem
  rcases mem_append.mp mem with isEvent | isDone
  · obtain ⟨event, _, rfl⟩ := mem_map.mp isEvent
    exact .inr ⟨event.response, event.decodes, event.noError⟩
  · split_ifs at isDone
    · exact .inl (mem_singleton.mp isDone)
    · cases isDone

theorem Frames.deltas (framed : Frames stream events done) :
    stream.events.flatMap deltasOf = events.flatMap fun event => event.response.choices := by
  have marker : (if done then [doneMarker.toList] else []).flatMap deltasOf = [] := by
    split_ifs
    · rw [flatMap_singleton, deltas_of_done]
    · rfl
  rw [framed, flatMap_append, marker, append_nil, flatMap_map]
  exact flatMap_congr fun event _ => deltas_of_event event

theorem lex_blank_lines (blank : ∀ line ∈ lines, line = []) :
    lex (['\n'].intercalate lines) = some [] := by
  have each : lines.mapM lex = some (lines.map fun _ => []) := by
    induction lines with
    | nil => rfl
    | cons line lines ih =>
      rw [forall_mem_cons] at blank
      rw [mapM_cons, blank.1, ih blank.2]
      rfl
  rw [lex_lines, each]
  simp

theorem read_events_no_data {values : List (List Char)}
    (noData : ∀ line ∈ lines, cutData line = none) (blank : ∀ value ∈ values, value = []) :
    ∀ text ∈ readEvents values lines, lex text = some [] := by
  have dispatched {values : List (List Char)} (blank : ∀ value ∈ values, value = []) :
      ∀ text ∈ dispatch values, lex text = some [] := by
    intro text mem
    cases values with
    | nil => cases mem
    | cons value values =>
      rw [mem_singleton.mp mem]
      exact lex_blank_lines blank
  induction lines generalizing values with
  | nil => exact dispatched blank
  | cons line lines ih =>
    rw [forall_mem_cons] at noData
    rw [readEvents]
    cases kind : lineKind line with
    | blank =>
      rw [forall_mem_append]
      exact ⟨dispatched blank, ih noData.2 (by simp)⟩
    | comment | other => exact ih noData.2 blank
    | data value =>
      have empty : value = [] := by
        rcases line_kind_data kind with ⟨_, empty⟩ | ⟨rest, rfl, _⟩
        · exact empty
        · cases noData.1
      apply ih noData.2
      intro other mem
      rcases mem_append.mp mem with old | new
      · exact blank other old
      · rw [mem_singleton.mp new, empty]

theorem Frames.has_data (framed : Frames stream events done)
    (nonempty : events ≠ [] ∨ done = true) :
    stream.texts.any (fun line => (cutData line).isSome) = true := by
  by_contra noData
  have notCut : ∀ line ∈ stream.texts, cutData line = none := by
    intro line mem
    rw [any_eq_true] at noData
    by_contra isCut
    exact noData ⟨line, mem, Option.isSome_iff_ne_none.mpr isCut⟩
  have noValues : ∀ value ∈ ([] : List (List Char)), value = [] := by simp
  have tokenless := read_events_no_data notCut noValues
  change ∀ text ∈ stream.events, _ at tokenless
  rw [framed, forall_mem_append] at tokenless
  rcases nonempty with someEvent | isDone
  · obtain ⟨event, mem⟩ := exists_mem_of_ne_nil _ someEvent
    have noTokens := tokenless.1 event.text (mem_map.mpr ⟨event, mem, rfl⟩)
    have decodes := event.decodes
    have noValue : parse event.text = none := by
      rw [parse, noTokens]
      rfl
    rw [decodeEvent, Json.unmarshalText, String.toList_ofList, noValue] at decodes
    cases decodes
  · rw [isDone] at tokenless
    exact absurd tokenless.2 (by decide)

theorem join_nonempty (deltas : List String) :
    String.join (deltas.filter (· ≠ "")) = String.join deltas := by
  induction deltas with
  | nil => rfl
  | cons delta deltas ih =>
    by_cases empty : delta = ""
    · simpa [empty] using ih
    · simpa [empty] using ih

/-- In any framing whose lines fit into the buffer the deltas are handed on in order, but for empty
ones, and the content is what they make up. -/
theorem chat_stream_decodes {onTextDelta : List String → Option String}
    (accepts : ∀ passed, onTextDelta passed = none) (framed : Frames stream events done)
    (fit : LinesFit maxLineBytes stream) (nonempty : events ≠ [] ∨ done = true) :
    consumeOpenAICompatibleChatStream onTextDelta stream.chars =
        ((events.flatMap fun event => event.response.choices).filter (· ≠ ""),
          .ok (String.join (events.flatMap fun event => event.response.choices))) ∧
      String.join ((events.flatMap fun event => event.response.choices).filter (· ≠ "")) =
        String.join (events.flatMap fun event => event.response.choices) := by
  refine ⟨?_, join_nonempty _⟩
  have hasData := framed.has_data nonempty
  have cleanTexts : ∀ line ∈ stream.texts, CleanLine line := by
    intro line mem
    rcases mem_append.mp mem with closed | tail
    · obtain ⟨streamLine, _, rfl⟩ := mem_map.mp closed
      exact streamLine.clean
    · rw [mem_singleton.mp tail]
      exact stream.cleanTail
  -- An empty tail is no line of the scanner, and a blank line at the end of the framing.
  obtain ⟨lines, scanned, clean, sameEvents, sameData⟩ : ∃ lines,
      scanTextLines maxLineBytes stream.chars = (lines, false) ∧
      (∀ line ∈ lines, CleanLine line) ∧ readEvents [] lines = stream.events ∧
      lines.any (fun line => (cutData line).isSome) = true := by
    refine ⟨_, scan_text_lines_stream fit, ?_⟩
    by_cases empty : stream.tail = []
    · rw [EventStream.texts, empty] at hasData cleanTexts
      rw [if_pos empty, append_nil]
      refine ⟨fun line mem => cleanTexts line (mem_append_left _ mem), ?_, ?_⟩
      · rw [EventStream.events, EventStream.texts, empty, read_events_blank]
      · rw [any_append, any_cons, cut_data_blank, Option.isSome_none, any_nil,
          Bool.or_false, Bool.or_false] at hasData
        exact hasData
    · rw [if_neg empty]
      exact ⟨cleanTexts, rfl, hasData⟩
  have noBlock : [] = ([] : List (List Char)).filterMap codeData := rfl
  obtain ⟨next, last, run, flushed, saw, content, passed⟩ :=
    consume_lines_framed accepts (s := {}) clean noBlock (by simp)
      (by rw [map_nil, sameEvents]; exact framed.acceptable)
  rw [map_nil, sameEvents, framed.deltas] at content passed
  have sawData : next.sawDataFrame = true := by
    rw [saw, sameData, Bool.or_true]
  unfold consumeOpenAICompatibleChatStream
  rw [scanned]
  dsimp only
  rw [run]
  dsimp only
  rw [sawData, flushed]
  simp [content, passed]

end

/-- An event in two data lines with a comment between them, and the end marker without
a terminator. -/
def helloStream : EventStream where
  lines :=
    [ ⟨"data: \x7b\"choices\":".toList, true, by unfold CleanLine; decide⟩,
      ⟨": ping".toList, false, by unfold CleanLine; decide⟩,
      ⟨"data: [\x7b\"delta\":\x7b\"content\":\"hi\"\x7d\x7d]\x7d".toList, false,
          by unfold CleanLine; decide⟩,
      ⟨[], true, by unfold CleanLine; decide⟩ ]
  tail := "data: [DONE]".toList
  cleanTail := by unfold CleanLine; decide

def helloEvent : ChatEvent where
  text := "\x7b\"choices\":\n[\x7b\"delta\":\x7b\"content\":\"hi\"\x7d\x7d]\x7d".toList
  response := { choices := ["hi"] }
  decodes := by decide +kernel
  noError := rfl

theorem chat_stream_decodes_hello :
    consumeOpenAICompatibleChatStream (fun _ => none) helloStream.chars =
        (([helloEvent].flatMap fun event => event.response.choices).filter (· ≠ ""),
          .ok (String.join ([helloEvent].flatMap fun event => event.response.choices))) ∧
      String.join (([helloEvent].flatMap fun event => event.response.choices).filter (· ≠ "")) =
        String.join ([helloEvent].flatMap fun event => event.response.choices) := by
  have framed : Frames helloStream [helloEvent] true := by
    unfold Frames
    decide +kernel
  have fit : LinesFit maxLineBytes helloStream := by
    unfold LinesFit
    decide +kernel
  exact chat_stream_decodes (fun _ => rfl) framed fit (.inr rfl)

def emptyStream : EventStream where
  lines := []
  tail := []
  cleanTail := by unfold CleanLine; decide

def commented (spaces : Nat) (stream : EventStream) : EventStream :=
  { stream with
    lines :=
      ⟨':' :: List.replicate spaces ' ', false, by simp [CleanLine, List.mem_replicate]⟩ ::
        stream.lines }

theorem commented_events (spaces : Nat) (stream : EventStream) :
    (commented spaces stream).events = stream.events :=
  read_events_passed_over (fun _ => LineKind.noConfusion) (cons_ne_nil _ _) [] stream.texts

theorem commented_size (spaces : Nat) (stream : EventStream) :
    ∃ body ∈ streamBodies (commented spaces stream), spaces ≤ textSize body := by
  refine ⟨_, mem_cons_self, ?_⟩
  have size : textSize (replicate spaces ' ') = spaces := by
    induction spaces with
    | zero => rfl
    | succ spaces ih =>
      rw [textSize] at ih ⊢
      rw [replicate_succ, map_cons, sum_cons, ih]
      exact Nat.add_comm 1 spaces
  unfold StreamLine.body
  rw [textSize] at size ⊢
  simp only [Bool.false_eq_true, if_false, append_nil, map_cons, sum_cons, size]
  exact Nat.le_add_left spaces _

theorem consume_too_long (onTextDelta : List String → Option String)
    (long : ∃ body ∈ streamBodies stream, maxLineBytes ≤ textSize body) (content : String) :
    (consumeOpenAICompatibleChatStream onTextDelta stream.chars).2 ≠ .ok content := by
  have tooLong : (scanTextLines maxLineBytes stream.chars).2 = true := by
    obtain ⟨body, mem, isLong⟩ := long
    unfold scanTextLines
    rw [split_text_lines_stream]
    exact any_eq_true.mpr ⟨body, mem, decide_eq_true isLong⟩
  unfold consumeOpenAICompatibleChatStream
  cases scanned : scanTextLines maxLineBytes stream.chars with
  | mk lines isLong =>
    rw [scanned] at tooLong
    dsimp only at tooLong ⊢
    rw [tooLong]
    cases consumeLines onTextDelta lines {} with
    | mk s err => cases err <;> simp

/-- A body without anything in it frames no events and is refused, and so is an event
behind a comment that is too long. -/
theorem chat_stream_refuses_empty_and_long :
    (Frames emptyStream [] false ∧
      (consumeOpenAICompatibleChatStream (fun _ => none) emptyStream.chars).2 ≠
        .ok (String.join [])) ∧
    Frames (commented maxLineBytes helloStream) [helloEvent] true ∧
    (consumeOpenAICompatibleChatStream (fun _ => none)
      (commented maxLineBytes helloStream).chars).2 ≠
      .ok (String.join helloEvent.response.choices) := by
  refine ⟨⟨rfl, by decide⟩, ?_, consume_too_long _ (commented_size maxLineBytes helloStream) _⟩
  unfold Frames
  rw [commented_events]
  decide +kernel

end RuneTerminal.Conversation
