import RuneTerminal.ApiClient.EventStreams

/-! A cut puts a blank line behind the line that it falls into. An event is lost when its name and
data come to stand on both sides of it. -/

namespace RuneTerminal.ApiClient

open Kit Kit.ChunkedText Kit.TextDecoder List Fields Option Utf8

def PlainLine (line : List Char) : Prop :=
  line ≠ [] ∧ Unbroken line ∧ line.head? ≠ some byteOrderMark

def IsField (name value line : List Char) : Prop := fieldName line = name ∧ fieldValue line = value

def Ignored (line : List Char) : Prop :=
  fieldName line ≠ "event".toList ∧ fieldName line ≠ "data".toList

instance (line : List Char) : Decidable (PlainLine line) := inferInstanceAs (Decidable (_ ∧ _))

instance (name value line : List Char) : Decidable (IsField name value line) :=
  inferInstanceAs (Decidable (_ ∧ _))

instance (line : List Char) : Decidable (Ignored line) := inferInstanceAs (Decidable (_ ∧ _))

/-- An event has a line with its name and a line with its data, in some order. -/
structure StreamEvent where
  name : List Char
  data : List Char
  before : List (List Char)
  first : List Char
  between : List (List Char)
  second : List Char
  after : List (List Char)
  plain : ∀ line ∈ before ++ (first :: between) ++ (second :: after), PlainLine line
  ignored : ∀ line ∈ before ++ between ++ after, Ignored line
  fields : IsField "event".toList name first ∧ IsField "data".toList data second ∨
    IsField "data".toList data first ∧ IsField "event".toList name second

inductive StreamBlock
  | comments (lines : List (List Char))
      (plain : ∀ line ∈ lines, PlainLine line ∧ Ignored line)
  | event (event : StreamEvent)

def StreamBlock.lines : StreamBlock → List (List Char)
  | .comments lines _ => lines
  | .event written =>
    written.before ++ (written.first :: written.between) ++ (written.second :: written.after)

def streamLines (blocks : List StreamBlock) : List (List Char) :=
  blocks.flatMap fun block => block.lines ++ [[]]

def CutsEvent (lineEnd : LineEnd) (blocks : List StreamBlock) (chunks : List (List UInt8)) : Prop :=
  lineEnd = .crlf ∧ ∃ earlier event later front line back,
    blocks = earlier ++ .event event :: later ∧
      event.first :: event.between = front ++ line :: back ∧
      EndsBehind chunks (Utf8.encode
        (textOf .crlf (streamLines earlier ++ event.before ++ front ++ [line])).dropLast)

variable {line : List Char} {front lines : List (List Char)} {cut : List (List Char) → Bool}
  {blocks : List StreamBlock}

section

variable {Event : Type} {handle : ParsedEvent → Outcome Event} {value : List Char}
variable {rest : List (List Char)}

theorem calls_cons_congr (outcome : Outcome Event) {left right : List (Outcome Event)}
    (same : calls left = calls right) : calls (outcome :: left) = calls (outcome :: right) := by
  cases outcome with
  | nothing => exact same
  | call event => exact congrArg (event :: ·) same
  | throws => rfl

theorem read_ignored (ignored : Ignored line) (fields : Fields) : fields.read line = fields := by
  unfold Fields.read
  split_ifs with comment isEvent isData
  · rfl
  · exact absurd isEvent ignored.1
  · exact absurd isData ignored.2
  · rfl

theorem outcomes_line (nonblank : line ≠ []) (fields : Fields) :
    outcomes handle fields (cutLines cut front (line :: rest)) =
      if cut (front ++ [line]) then
        (fields.read line).outcome handle ::
          outcomes handle .new (cutLines cut (front ++ [line]) rest)
      else outcomes handle (fields.read line) (cutLines cut (front ++ [line]) rest) := by
  rw [cutLines]
  split_ifs with isCut
  · rw [cons_append, singleton_append, outcomes, if_neg nonblank, outcomes, if_pos rfl]
  · rw [singleton_append, outcomes, if_neg nonblank]

theorem outcomes_blank (fields : Fields) :
    calls (outcomes handle fields (cutLines cut front ([] :: rest))) =
    calls (fields.outcome handle :: outcomes handle .new (cutLines cut (front ++ [[]]) rest)) := by
  rw [cutLines]
  split_ifs with isCut
  · exact calls_cons_congr _ rfl
  · rw [singleton_append, outcomes, if_pos rfl]

def cutIn (cut : List (List Char) → Bool) : List (List Char) → List (List Char) → Bool
  | _, [] => false
  | front, line :: rest => cut (front ++ [line]) || cutIn cut (front ++ [line]) rest

theorem outcomes_ignored (ignored : ∀ line ∈ lines, line ≠ [] ∧ Ignored line) (fields : Fields) :
    calls (outcomes handle fields (cutLines cut front (lines ++ rest))) =
      if cutIn cut front lines then
        calls (fields.outcome handle :: outcomes handle .new (cutLines cut (front ++ lines) rest))
      else calls (outcomes handle fields (cutLines cut (front ++ lines) rest)) := by
  induction lines generalizing front fields with
  | nil =>
    rw [append_nil]
    rfl
  | cons line lines ih =>
    rw [forall_mem_cons] at ignored
    have longer : front ++ line :: lines = front ++ [line] ++ lines := by
      rw [append_assoc, singleton_append]
    rw [cons_append, outcomes_line ignored.1.1, read_ignored ignored.1.2, cutIn, longer]
    cases isCut : cut (front ++ [line]) with
    | true =>
      apply calls_cons_congr
      rw [ih ignored.2]
      split_ifs <;> rfl
    | false =>
      exact ih ignored.2 fields

section

variable (nonblank : line ≠ []) (ignored : ∀ line ∈ lines, line ≠ [] ∧ Ignored line)
  (fields : Fields)
include nonblank ignored fields

theorem outcomes_field :
    calls (outcomes handle fields (cutLines cut front (line :: lines ++ rest))) =
      if cutIn cut front (line :: lines) then
        calls
          ((fields.read line).outcome handle ::
            outcomes handle .new (cutLines cut (front ++ line :: lines) rest))
      else calls
        (outcomes handle (fields.read line) (cutLines cut (front ++ line :: lines) rest)) := by
  have longer : front ++ line :: lines = front ++ [line] ++ lines := by
    rw [append_assoc, singleton_append]
  rw [cons_append, outcomes_line nonblank, cutIn, longer]
  cases isCut : cut (front ++ [line]) with
  | true =>
    apply calls_cons_congr
    rw [outcomes_ignored ignored]
    split_ifs <;> rfl
  | false =>
    exact outcomes_ignored ignored _

theorem outcomes_last :
    calls (outcomes handle fields (cutLines cut front (line :: lines ++ [] :: rest))) =
      calls
        ((fields.read line).outcome handle ::
          outcomes handle .new (cutLines cut (front ++ line :: lines ++ [[]]) rest)) := by
  rw [outcomes_field nonblank ignored]
  split_ifs
  · apply calls_cons_congr
    rw [outcomes_blank]
    rfl
  · rw [outcomes_blank]

end

theorem field_outcome (name data : List Char) :
    Fields.outcome handle { eventName := name, dataLines := [data] } =
      handle { data := data, event := name } := by
  unfold outcome parsed
  simp

theorem read_event (plain : PlainLine line) (isEvent : IsField "event".toList value line)
    (fields : Fields) : fields.read line = { fields with eventName := value } := by
  have notComment : ¬(line = [] ∨ line.head? = some ':') := by
    rintro (blank | comment)
    · exact plain.1 blank
    · have name := isEvent.1
      obtain ⟨rest, rfl⟩ := head?_eq_some_iff.mp comment
      simp [fieldName] at name
  rw [Fields.read, if_neg notComment, if_pos isEvent.1, isEvent.2]

theorem read_data (plain : PlainLine line) (isData : IsField "data".toList value line)
    (fields : Fields) :
    fields.read line = { fields with dataLines := fields.dataLines ++ [value] } := by
  have notComment : ¬(line = [] ∨ line.head? = some ':') := by
    rintro (blank | comment)
    · exact plain.1 blank
    · have name := isData.1
      obtain ⟨rest, rfl⟩ := head?_eq_some_iff.mp comment
      simp [fieldName] at name
  have notEvent : fieldName line ≠ "event".toList := by
    rw [isData.1]
    decide
  rw [Fields.read, if_neg notComment, if_neg notEvent, if_pos isData.1, isData.2]

theorem outcomes_event (event : StreamEvent) (rest : List (List Char)) :
    calls
      (outcomes handle .new (cutLines cut front ((StreamBlock.event event).lines ++ [] :: rest))) =
      calls
        ((if cutIn cut (front ++ event.before) (event.first :: event.between) then
            handle { data := event.data, event := "message".toList }
          else handle { data := event.data, event := event.name }) ::
          outcomes handle .new
            (cutLines cut (front ++ (StreamBlock.event event).lines ++ [[]]) rest)) := by
  have plainFirst : PlainLine event.first := event.plain _ (by simp)
  have plainSecond : PlainLine event.second := event.plain _ (by simp)
  have before : ∀ line ∈ event.before, line ≠ [] ∧ Ignored line := fun line mem =>
    ⟨(event.plain line (by simp [mem])).1, event.ignored line (by simp [mem])⟩
  have between : ∀ line ∈ event.between, line ≠ [] ∧ Ignored line := fun line mem =>
    ⟨(event.plain line (by simp [mem])).1, event.ignored line (by simp [mem])⟩
  have after : ∀ line ∈ event.after, line ≠ [] ∧ Ignored line := fun line mem =>
    ⟨(event.plain line (by simp [mem])).1, event.ignored line (by simp [mem])⟩
  have reach : ∀ further : List (List Char), calls (outcomes handle .new
      (cutLines cut front (event.before ++ further))) =
      calls (outcomes handle .new (cutLines cut (front ++ event.before) further)) := by
    intro further
    rw [outcomes_ignored before]
    split_ifs <;> rfl
  have place : front ++ event.before ++ event.first :: event.between ++
      event.second :: event.after ++ [[]] =
      front ++ (StreamBlock.event event).lines ++ [[]] := by
    simp only [StreamBlock.lines, append_assoc]
  have whole : (StreamBlock.event event).lines ++ [] :: rest =
      event.before ++ (event.first :: event.between ++
        (event.second :: event.after ++ [] :: rest)) := by
    simp only [StreamBlock.lines, append_assoc]
  have second : ∀ fields : Fields, calls (outcomes handle fields
      (cutLines cut (front ++ event.before ++ event.first :: event.between)
        (event.second :: event.after ++ [] :: rest))) =
      calls ((fields.read event.second).outcome handle :: outcomes handle .new
        (cutLines cut (front ++ (StreamBlock.event event).lines ++ [[]]) rest)) := by
    intro fields
    rw [outcomes_last plainSecond.1 after, place]
  rw [whole, reach, outcomes_field plainFirst.1 between, second, calls_cons_congr _ (second .new)]
  generalize outcomes handle .new
    (cutLines cut (front ++ (StreamBlock.event event).lines ++ [[]]) rest) = later
  have dataOnly : outcome handle { new with dataLines := [event.data] } =
      handle { data := event.data, event := "message".toList } := field_outcome _ event.data
  have both : outcome handle { eventName := event.name, dataLines := [event.data] } =
      handle { data := event.data, event := event.name } := field_outcome event.name event.data
  rcases event.fields with ⟨isEvent, isData⟩ | ⟨isData, isEvent⟩
  · rw [read_event plainFirst isEvent, read_data plainSecond isData, read_data plainSecond isData, ←
      dataOnly, ← both]
    split_ifs <;> rfl
  rw [read_data plainFirst isData, read_event plainSecond isEvent, read_event plainSecond isEvent,
    ← dataOnly, ← both]
  split_ifs
  · exact calls_cons_congr _ rfl
  · rfl

def written (handle : ParsedEvent → Outcome Event) (blocks : List StreamBlock) :
    List (Outcome Event) :=
  blocks.map fun block =>
    match block with
    | .comments _ _ => .nothing
    | .event event => handle { data := event.data, event := event.name }

def intact (cut : List (List Char) → Bool) : List (List Char) → List StreamBlock → Bool
  | _, [] => true
  | front, .comments lines _ :: rest => intact cut (front ++ (lines ++ [[]])) rest
  | front, .event event :: rest =>
    !cutIn cut (front ++ event.before) (event.first :: event.between) &&
      intact cut (front ++ ((StreamBlock.event event).lines ++ [[]])) rest

theorem stream_lines_cons (block : StreamBlock) (blocks : List StreamBlock) :
    streamLines (block :: blocks) = block.lines ++ [] :: streamLines blocks := by
  rw [streamLines, flatMap_cons, append_assoc, singleton_append, ← streamLines]

theorem outcomes_blocks {blocks : List StreamBlock}
    (calling : ∀ event, .event event ∈ blocks →
      ∃ called, handle { data := event.data, event := event.name } = .call called)
    (silent : ∀ data called, handle { data := data, event := "message".toList } ≠ .call called) :
    (calls (outcomes handle .new (cutLines cut front (streamLines blocks)))).length ≤
      (calls (written handle blocks)).length ∧
    (calls (outcomes handle .new (cutLines cut front (streamLines blocks))) =
        calls (written handle blocks) ↔
      intact cut front blocks = true) := by
  induction blocks generalizing front with
  | nil => exact ⟨Nat.le_refl _, iff_of_true rfl rfl⟩
  | cons block blocks ih =>
    have others := @ih (front ++ (block.lines ++ [[]])) fun event mem =>
      calling event (mem_cons_of_mem _ mem)
    rw [stream_lines_cons]
    cases block with
    | comments lines plain =>
      have ignored : ∀ line ∈ lines, line ≠ [] ∧ Ignored line := fun line mem =>
        ⟨(plain line mem).1.1, (plain line mem).2⟩
      have passed : calls (outcomes handle .new (cutLines cut front
          (lines ++ [] :: streamLines blocks))) =
          calls (outcomes handle .new (cutLines cut (front ++ (lines ++ [[]]))
            (streamLines blocks))) := by
        rw [← append_assoc, outcomes_ignored ignored]
        split_ifs
        · change calls (outcomes handle .new _) = _
          rw [outcomes_blank]
          rfl
        · rw [outcomes_blank]
          rfl
      change (calls (outcomes handle .new (cutLines cut front
        (lines ++ [] :: streamLines blocks)))).length ≤ _ ∧ (calls (outcomes handle .new
          (cutLines cut front (lines ++ [] :: streamLines blocks))) = _ ↔ _)
      rw [passed]
      exact others
    | event event =>
      obtain ⟨called, call⟩ := calling event mem_cons_self
      have rest : calls (written handle (.event event :: blocks)) =
          called :: calls (written handle blocks) := by
        change calls (handle { data := event.data, event := event.name } :: _) = _
        rw [call]
        rfl
      rw [rest, intact, outcomes_event, append_assoc]
      cases cutIn cut (front ++ event.before) (event.first :: event.between) with
      | true =>
        rw [if_pos rfl]
        have lost : ∀ later : List (Outcome Event),
            (calls (handle { data := event.data, event := "message".toList } ::
              later)).length ≤ (calls later).length := by
          intro later
          cases outcome : handle { data := event.data, event := "message".toList } with
          | nothing => exact Nat.le_refl _
          | throws => exact Nat.zero_le _
          | call other => exact absurd outcome (silent event.data other)
        have shorter := (lost _).trans others.1
        refine ⟨shorter.trans (Nat.le_succ _), ?_⟩
        constructor
        · intro same
          rw [same] at shorter
          exact absurd shorter (Nat.not_succ_le_self _)
        · intro impossible
          cases impossible
      | false =>
        rw [if_neg Bool.false_ne_true, call, calls, cons.injEq]
        exact ⟨Nat.succ_le_succ others.1, (and_iff_right rfl).trans others.2⟩

theorem cut_in_iff :
    cutIn cut front lines = true ↔
    ∃ earlier line later, lines = earlier ++ line :: later ∧
      cut (front ++ earlier ++ [line]) = true := by
  induction lines generalizing front with
  | nil =>
    constructor
    · intro impossible
      cases impossible
    · rintro ⟨earlier, line, later, split, -⟩
      cases earlier <;> cases split
  | cons first lines ih =>
    rw [cutIn, Bool.or_eq_true_iff, ih]
    constructor
    · rintro (here | ⟨earlier, line, later, rfl, there⟩)
      · exact ⟨[], first, lines, rfl, by rwa [append_nil]⟩
      · refine ⟨first :: earlier, line, later, rfl, ?_⟩
        rwa [append_assoc front, singleton_append] at there
    rintro ⟨earlier, line, later, split, there⟩
    cases earlier with
    | nil =>
      cases split
      rw [append_nil] at there
      exact .inl there
    | cons other earlier =>
      obtain ⟨rfl, rest⟩ := cons.inj split
      refine .inr ⟨earlier, line, later, rest, ?_⟩
      rwa [append_assoc front, singleton_append]

theorem intact_iff :
    intact cut front blocks = false ↔
    ∃ earlier event later, blocks = earlier ++ .event event :: later ∧
      cutIn cut (front ++ streamLines earlier ++ event.before) (event.first :: event.between) =
        true := by
  induction blocks generalizing front with
  | nil =>
    constructor
    · intro impossible
      cases impossible
    · rintro ⟨earlier, event, later, split, -⟩
      cases earlier <;> cases split
  | cons block blocks ih =>
    have place : ∀ earlier, front ++ streamLines (block :: earlier) =
        front ++ (block.lines ++ [[]]) ++ streamLines earlier := by
      intro earlier
      rw [stream_lines_cons, append_assoc, append_assoc, singleton_append]
    have behind : intact cut (front ++ (block.lines ++ [[]])) blocks = false →
        ∃ earlier event later, block :: blocks = earlier ++ .event event :: later ∧
          cutIn cut (front ++ streamLines earlier ++ event.before)
            (event.first :: event.between) = true := by
      intro further
      obtain ⟨earlier, event, later, rfl, isCut⟩ := ih.mp further
      rw [← place] at isCut
      exact ⟨block :: earlier, event, later, rfl, isCut⟩
    constructor
    · intro broken
      cases block with
      | comments lines plain => exact behind broken
      | event event =>
        rw [intact, Bool.and_eq_false_iff] at broken
        rcases broken with here | further
        · exact ⟨[], event, blocks, rfl, by simpa [streamLines] using here⟩
        · exact behind further
    rintro ⟨earlier, event, later, split, isCut⟩
    cases earlier with
    | nil =>
      cases split
      have here : cutIn cut (front ++ event.before) (event.first :: event.between) =
          true := by
        simpa [streamLines] using isCut
      rw [intact, here]
      rfl
    | cons other earlier =>
      cases split
      rw [place] at isCut
      have further := ih.mpr ⟨earlier, event, later, rfl, isCut⟩
      cases block with
      | comments lines plain => exact further
      | event written => rw [intact, further, Bool.and_false]

end

variable {lineEnd : LineEnd} {chunks : List (List UInt8)}

section

variable {Event : Type} {handle : ParsedEvent → Outcome Event}

theorem plain_stream_lines (mem : line ∈ streamLines blocks) : line = [] ∨ PlainLine line := by
  obtain ⟨block, -, inside⟩ := mem_flatMap.mp mem
  rcases mem_append.mp inside with own | blank
  · right
    cases block with
    | comments lines plain => exact (plain line own).1
    | event event => exact event.plain line own
  · exact .inl (mem_singleton.mp blank)

theorem unbroken_nil : Unbroken [] := ⟨List.not_mem_nil, List.not_mem_nil⟩

theorem clean_stream_lines : ∀ line ∈ streamLines blocks, Unbroken line := by
  intro line mem
  rcases plain_stream_lines mem with rfl | plain
  · exact unbroken_nil
  · exact plain.2.1

theorem stream_no_mark (lineEnd : LineEnd) (blocks : List StreamBlock) :
    (textOf lineEnd (streamLines blocks)).head? ≠ some byteOrderMark := by
  have plain : ∀ line ∈ streamLines blocks, line.head? ≠ some byteOrderMark := by
    intro line mem
    rcases plain_stream_lines mem with rfl | plain
    · intro impossible
      cases impossible
    · exact plain.2.2
  cases lines : streamLines blocks with
  | nil =>
    intro impossible
    cases impossible
  | cons line rest =>
    rw [lines] at plain
    cases line with
    | nil =>
      intro mark
      cases lineEnd <;> exact absurd (some.inj mark) (by decide)
    | cons c line =>
      intro mark
      exact plain _ mem_cons_self mark

theorem cut_lines_last (closed : ∀ line, lines.getLast? = some line → line = [])
    (last : (cutLines cut front lines).getLast? = some line) : line = [] := by
  induction lines generalizing front line with
  | nil => cases last
  | cons first lines ih =>
    cases lines with
    | nil =>
      rw [cutLines, closed first rfl] at last
      split_ifs at last
      · exact (some.inj last).symm
      · exact (some.inj last).symm
    | cons next lines =>
      have later : ∀ line, (next :: lines).getLast? = some line → line = [] := by
        intro other ends
        exact closed other (by rw [getLast?_cons_cons]; exact ends)
      rw [cutLines, getLast?_append] at last
      cases ends : (cutLines cut (front ++ [first]) (next :: lines)).getLast? with
      | none =>
        rw [cutLines] at ends
        split_ifs at ends <;> cases ends
      | some other =>
        rw [ends] at last
        rw [← some.inj last]
        exact ih later ends

theorem stream_closed (blocks : List StreamBlock)
    (last : (streamLines blocks).getLast? = some line) : line = [] := by
  induction blocks using reverseRecOn with
  | nil => cases last
  | append_singleton blocks block _ =>
    have parts : streamLines (blocks ++ [block]) =
        streamLines blocks ++ block.lines ++ [[]] := by
      simp [streamLines]
    rw [parts, getLast?_concat] at last
    exact (some.inj last).symm

theorem clean_cut_lines (clean : ∀ line ∈ lines, Unbroken line) :
    ∀ line ∈ cutLines cut front lines, Unbroken line := by
  induction lines generalizing front with
  | nil => exact fun line mem => absurd mem not_mem_nil
  | cons first lines ih =>
    rw [forall_mem_cons] at clean
    intro line mem
    rcases mem_append.mp mem with own | later
    · split_ifs at own
      · rcases mem_cons.mp own with rfl | blank
        · exact clean.1
        · rw [mem_singleton.mp blank]
          exact unbroken_nil
      · rw [mem_singleton.mp own]
        exact clean.1
    · exact ih clean.2 line later

theorem consume_stream_eq
    (whole : chunks.flatten = Utf8.encode (textOf lineEnd (streamLines blocks)))
    {cut : List (List Char) → Bool}
    (isCut : ∀ front line back, streamLines blocks = front ++ line :: back →
      (cut (front ++ [line]) = true ↔
        lineEnd = .crlf ∧
          EndsBehind chunks (Utf8.encode (textOf lineEnd (front ++ [line])).dropLast))) :
    consumeStream handle chunks =
      calls (outcomes handle .new (cutLines cut [] (streamLines blocks))) := by
  have read := run_encode (textOf lineEnd (streamLines blocks))
  rw [← whole] at read
  have noMark : (readPieces idle chunks).flatten.head? ≠ some byteOrderMark := by
    rw [read_pieces_flatten, read]
    exact stream_no_mark lineEnd blocks
  have noBuffer : '\r' ∉ ([] : List Char) := not_mem_nil
  rw [consumeStream, consume_reads_eq noBuffer (congrArg Prod.fst read) fun _ => noMark]
  change (flushBuffer handle ((readPieces idle chunks).flatMap normalize) true).1 = _
  rw [normalize_chunks clean_stream_lines whole cut isCut]
  have noBlock : ∀ line ∈ ([] : List (List Char)).tail, line ≠ [] := fun line mem =>
    absurd mem not_mem_nil
  exact finish_lines noBlock (clean_cut_lines clean_stream_lines) fun line =>
    cut_lines_last fun other => stream_closed blocks

theorem whole_cuts_none (lineEnd : LineEnd) (blocks : List StreamBlock) :
    ¬CutsEvent lineEnd blocks [Utf8.encode (textOf lineEnd (streamLines blocks))] := by
  rintro ⟨rfl, earlier, event, later, front, line, back, rfl, split, before, after, chunk, same⟩
  have parts : streamLines (earlier ++ .event event :: later) =
      streamLines earlier ++ event.before ++ front ++ [line] ++
        (back ++ event.second :: event.after ++ [] :: streamLines later) := by
    have own : (StreamBlock.event event).lines =
        event.before ++ (front ++ line :: back) ++ event.second :: event.after := by
      rw [StreamBlock.lines, split]
    rw [streamLines, flatMap_append, ← streamLines, ← streamLines, stream_lines_cons, own]
    simp only [append_assoc, cons_append, nil_append]
  have text := drop_last_text_of (streamLines earlier ++ event.before ++ front) line
  cases before with
  | nil =>
    have none : decode [] = _ := congrArg decode same
    rw [decode_encode, text] at none
    have lengths := congrArg length none
    simp [decode, decodeFrom] at lengths
  | cons piece before =>
    obtain ⟨rfl, rest⟩ := cons.inj chunk
    obtain ⟨rfl, -⟩ := append_eq_nil_iff.mp rest.symm
    have all := congrArg decode same
    rw [flatten_cons, flatten_nil, append_nil, decode_encode,
      decode_encode, parts, text_of_append] at all
    have lengths := congrArg length all
    have ended :
        0 < (textOf .crlf (streamLines earlier ++ event.before ++ front ++ [line])).length := by
      simp [textOf, LineEnd.chars]
    rw [length_append, length_dropLast] at lengths
    omega

variable (calling : ∀ event, .event event ∈ blocks → ∃ called,
    handle { data := event.data, event := event.name } = .call called)
  (silent : ∀ data called, handle { data := data, event := "message".toList } ≠ .call called)
include calling silent

section

variable (whole : chunks.flatten = Utf8.encode (textOf lineEnd (streamLines blocks)))
include whole

theorem consume_stream_written_iff : consumeStream handle chunks = calls (written handle blocks) ↔
    ¬CutsEvent lineEnd blocks chunks := by
  classical
  let cut : List (List Char) → Bool := fun front => decide (lineEnd = .crlf ∧
    EndsBehind chunks (encode (textOf lineEnd front).dropLast))
  have isCut : ∀ front line back, streamLines blocks = front ++ line :: back →
      (cut (front ++ [line]) = true ↔ lineEnd = .crlf ∧
        EndsBehind chunks (encode (textOf lineEnd (front ++ [line])).dropLast)) :=
    fun front line back _ => decide_eq_true_iff
  rw [consume_stream_eq whole isCut,
    (outcomes_blocks calling silent).2, ← not_iff_not, Bool.not_eq_true, intact_iff, not_not]
  simp only [cut_in_iff]
  constructor
  · rintro ⟨earlier, event, later, split, front, line, back, fields, isCut⟩
    obtain ⟨rfl, ends⟩ := decide_eq_true_iff.mp isCut
    exact ⟨rfl, earlier, event, later, front, line, back, split, fields, ends⟩
  · rintro ⟨rfl, earlier, event, later, front, line, back, split, fields, ends⟩
    exact ⟨earlier, event, later, split, front, line, back, fields,
      decide_eq_true_iff.mpr ⟨rfl, ends⟩⟩

theorem consume_stream_iff : consumeStream handle chunks = consumeStream handle [chunks.flatten] ↔
    ¬CutsEvent lineEnd blocks chunks := by
  have oneChunk : [chunks.flatten].flatten =
      encode (textOf lineEnd (streamLines blocks)) := by simpa using whole
  have one : consumeStream handle [chunks.flatten] = calls (written handle blocks) := by
    rw [consume_stream_written_iff calling silent oneChunk, whole]
    exact whole_cuts_none lineEnd blocks
  rw [one, consume_stream_written_iff calling silent whole]

end

end

section

variable {Chunk Payload : Type} {parseTerminalOutputChunk : List Char → Option Chunk}
variable {jsonParse : List Char → Option Payload} {type : Payload → Option (List Char)}

def TerminalEvents (parseTerminalOutputChunk : List Char → Option Chunk)
    (blocks : List StreamBlock) : Prop :=
  ∀ event, .event event ∈ blocks → event.name = "output".toList ∧
    ∃ chunk, parseTerminalOutputChunk event.data = some chunk

def AgentEvents (jsonParse : List Char → Option Payload) (type : Payload → Option (List Char))
    (blocks : List StreamBlock) : Prop :=
  ∀ event, .event event ∈ blocks →
    isSupportedAgentConversationStreamEventType event.name = true ∧
      ∃ payload, jsonParse event.data = some payload ∧ type payload = some event.name

theorem terminal_stream_iff (events : TerminalEvents parseTerminalOutputChunk blocks)
    (whole : chunks.flatten = Utf8.encode (textOf lineEnd (streamLines blocks))) :
    consumeTerminalStream parseTerminalOutputChunk chunks =
      consumeTerminalStream parseTerminalOutputChunk [chunks.flatten] ↔
    ¬CutsEvent lineEnd blocks chunks := by
  apply consume_stream_iff _ _ whole
  · intro event mem
    obtain ⟨name, chunk, parsed⟩ := events event mem
    refine ⟨chunk, ?_⟩
    unfold terminalOutcome
    rw [if_pos name]
    rw [parsed]
  · intro data called impossible
    cases impossible

theorem agent_stream_iff (events : AgentEvents jsonParse type blocks)
    (whole : chunks.flatten = Utf8.encode (textOf lineEnd (streamLines blocks))) :
    consumeAgentConversationStream jsonParse type chunks =
      consumeAgentConversationStream jsonParse type [chunks.flatten] ↔
    ¬CutsEvent lineEnd blocks chunks := by
  apply consume_stream_iff _ _ whole
  · intro event mem
    obtain ⟨supported, payload, parsed, same⟩ := events event mem
    refine ⟨payload, ?_⟩
    unfold agentOutcome
    rw [supported, parsed]
    simp [same]
  · intro data called impossible
    cases impossible

end

/-- Chunks do not matter to a consumer exactly as long as none of them ends within a CRLF between
the name and the data of an event. -/
theorem streams_ignore_chunks_iff {Chunk Payload : Type}
    (parseTerminalOutputChunk : List Char → Option Chunk) (jsonParse : List Char → Option Payload)
    (type : Payload → Option (List Char)) {lineEnd : LineEnd} {blocks : List StreamBlock}
    {chunks : List (List UInt8)}
    (whole : chunks.flatten = Utf8.encode (textOf lineEnd (streamLines blocks))) :
    (TerminalEvents parseTerminalOutputChunk blocks →
      (consumeTerminalStream parseTerminalOutputChunk chunks =
          consumeTerminalStream parseTerminalOutputChunk [chunks.flatten] ↔
        ¬CutsEvent lineEnd blocks chunks)) ∧
    (AgentEvents jsonParse type blocks →
      (consumeAgentConversationStream jsonParse type chunks =
          consumeAgentConversationStream jsonParse type [chunks.flatten] ↔
        ¬CutsEvent lineEnd blocks chunks)) :=
  ⟨fun events => terminal_stream_iff events whole, fun events => agent_stream_iff events whole⟩

def outputEvent : StreamEvent where
  name := "output".toList
  data := "\x7b\x7d".toList
  before := []
  first := "event: output".toList
  between := []
  second := "data: \x7b\x7d".toList
  after := []
  plain := by decide
  ignored := by decide
  fields := by decide

theorem output_events : TerminalEvents some [.event outputEvent] := by
  intro event mem
  obtain rfl := StreamBlock.event.inj (mem_singleton.mp mem)
  exact ⟨rfl, _, rfl⟩

/-- With LF it does not matter where the chunks end. -/
theorem output_event_in_chunks :
    consumeTerminalStream some
      [Utf8.encode "event: output\nda".toList, Utf8.encode "ta: \x7b\x7d\n\n".toList] =
      consumeTerminalStream some [Utf8.encode "event: output\ndata: \x7b\x7d\n\n".toList] := by
  have whole : [Utf8.encode "event: output\nda".toList,
      Utf8.encode "ta: \x7b\x7d\n\n".toList].flatten =
      encode (textOf .lf (streamLines [.event outputEvent])) := by decide +kernel
  have notCut : ¬CutsEvent .lf [.event outputEvent] [Utf8.encode "event: output\nda".toList,
      Utf8.encode "ta: \x7b\x7d\n\n".toList] := by
    rintro ⟨impossible, -⟩
    cases impossible
  exact ((streams_ignore_chunks_iff some (fun data => some data) some whole).1
    output_events).mpr notCut

/-- With CRLF the event is lost if a chunk ends within the end of its first line. -/
theorem output_event_lost :
    consumeTerminalStream some
      [Utf8.encode "event: output\r".toList, Utf8.encode "\ndata: \x7b\x7d\r\n\r\n".toList] ≠
      consumeTerminalStream some
        [Utf8.encode "event: output\r\ndata: \x7b\x7d\r\n\r\n".toList] := by
  have whole : [Utf8.encode "event: output\r".toList,
      Utf8.encode "\ndata: \x7b\x7d\r\n\r\n".toList].flatten =
      encode (textOf .crlf (streamLines [.event outputEvent])) := by decide +kernel
  have isCut : CutsEvent .crlf [.event outputEvent] [Utf8.encode "event: output\r".toList,
      Utf8.encode "\ndata: \x7b\x7d\r\n\r\n".toList] :=
    ⟨rfl, [], outputEvent, [], [], outputEvent.first, [], rfl, rfl,
      [Utf8.encode "event: output\r".toList], [Utf8.encode "\ndata: \x7b\x7d\r\n\r\n".toList], rfl,
      by decide +kernel⟩
  intro same
  exact (terminal_stream_iff output_events whole).mp same isCut

end RuneTerminal.ApiClient
