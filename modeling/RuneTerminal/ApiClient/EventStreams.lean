import RuneTerminal.Commander.Transfer
import RuneTerminal.Kit.ChunkedText
import RuneTerminal.Kit.ListSplit

/-! `consumeTerminalStream` and `consumeAgentConversationStream` (`api/client.ts` of `terminal` and
`agent`) decode chunk by chunk, make the ends of lines LF, and keep what is left until a blank line
ends an event. -/

namespace RuneTerminal.ApiClient

open Kit Kit.ChunkedText Kit.TextDecoder List

structure ParsedEvent where
  data : List Char
  event : List Char

def fieldName (line : List Char) : List Char := line.takeWhile (· ≠ ':')

def fieldValue (line : List Char) : List Char :=
  let rawValue := (line.dropWhile (· ≠ ':')).drop 1
  if rawValue.head? = some ' ' then rawValue.drop 1 else rawValue

structure Fields where
  eventName : List Char
  dataLines : List (List Char)

def Fields.new : Fields := { eventName := "message".toList, dataLines := [] }

def Fields.read (fields : Fields) (line : List Char) : Fields :=
  if line = [] ∨ line.head? = some ':' then fields
  else if fieldName line = "event".toList then { fields with eventName := fieldValue line }
  else if fieldName line = "data".toList then
    { fields with dataLines := fields.dataLines ++ [fieldValue line] }
  else fields

def Fields.parsed (fields : Fields) : Option ParsedEvent :=
  if fields.dataLines = [] then none
  else some { data := ['\n'].intercalate fields.dataLines, event := fields.eventName }

def parseEventBlock (block : List Char) : Option ParsedEvent :=
  ((block.splitOnP (· == '\n')).foldl Fields.read .new).parsed

inductive Outcome (Event : Type)
  | nothing
  | call (event : Event)
  | throws

variable {Event : Type}

def blockOutcome (handle : ParsedEvent → Outcome Event) (block : List Char) : Outcome Event :=
  match parseEventBlock block with
  | none => .nothing
  | some parsedEvent => handle parsedEvent

def flushBlocks (handle : ParsedEvent → Outcome Event) (normalizedBuffer : List Char) :
    List Event × Option (List Char) :=
  match _found : cutFirst ['\n', '\n'] normalizedBuffer with
  | none => ([], some normalizedBuffer)
  | some (eventBlock, rest) =>
    match blockOutcome handle eventBlock with
    | .throws => ([], none)
    | .nothing => flushBlocks handle rest
    | .call event => (event :: (flushBlocks handle rest).1, (flushBlocks handle rest).2)
termination_by normalizedBuffer.length
decreasing_by
  all_goals
    have whole := congrArg List.length (cut_first_whole _found)
    simp at whole
    omega

/-- The calls for the buffer, and the new buffer unless a block throws. -/
def flushBuffer (handle : ParsedEvent → Outcome Event) (buffer : List Char)
    (flushRemainder : Bool) : List Event × Option (List Char) :=
  match flushBlocks handle (normalize buffer) with
  | (events, none) => (events, none)
  | (events, some rest) =>
    if ¬flushRemainder then (events, some rest)
    else if rest.all Commander.isSpace then (events, some [])
    else
      match blockOutcome handle rest with
      | .throws => (events, none)
      | .nothing => (events, some [])
      | .call event => (events ++ [event], some [])

def consumeReads (handle : ParsedEvent → Outcome Event) :
    Decoder → List Char → List (List UInt8) → List Event
  | decoder, buffer, [] =>
    (flushBuffer handle (buffer ++ (decoder.decode [] false).2) true).1
  | decoder, buffer, chunk :: rest =>
    let read := decoder.decode chunk true
    match flushBuffer handle (buffer ++ read.2) false with
    | (events, none) => events
    | (events, some buffer) => events ++ consumeReads handle read.1 buffer rest

def consumeStream (handle : ParsedEvent → Outcome Event) (body : List (List UInt8)) : List Event :=
  consumeReads handle .new [] body

/-- `parseTerminalOutputChunk` is a parameter, with no value where it throws. -/
def terminalOutcome {Chunk : Type} (parseTerminalOutputChunk : List Char → Option Chunk)
    (parsedEvent : ParsedEvent) : Outcome Chunk :=
  if parsedEvent.event = "output".toList then
    match parseTerminalOutputChunk parsedEvent.data with
    | none => .throws
    | some chunk => .call chunk
  else .nothing

def consumeTerminalStream {Chunk : Type} (parseTerminalOutputChunk : List Char → Option Chunk)
    (body : List (List UInt8)) : List Chunk :=
  consumeStream (terminalOutcome parseTerminalOutputChunk) body

def isSupportedAgentConversationStreamEventType (value : List Char) : Bool :=
  value == "message-start".toList || value == "text-delta".toList ||
    value == "reasoning-delta".toList || value == "tool-call".toList ||
    value == "message-complete".toList || value == "error".toList

/-- `JSON.parse` is a parameter, with no value where it throws, as is the member `type` of
what it gives. -/
def agentOutcome {Payload : Type} (jsonParse : List Char → Option Payload)
    (type : Payload → Option (List Char)) (parsedEvent : ParsedEvent) : Outcome Payload :=
  if !isSupportedAgentConversationStreamEventType parsedEvent.event then .throws
  else
    match jsonParse parsedEvent.data with
    | none => .throws
    | some payload => if type payload ≠ some parsedEvent.event then .throws else .call payload

def consumeAgentConversationStream {Payload : Type} (jsonParse : List Char → Option Payload)
    (type : Payload → Option (List Char)) (body : List (List UInt8)) : List Payload :=
  consumeStream (agentOutcome jsonParse type) body

variable {handle : ParsedEvent → Outcome Event}

section

variable {rest : List Char}

variable {buffer : List Char}

theorem flush_blocks_none (none : cutFirst ['\n', '\n'] buffer = none) :
    flushBlocks handle buffer = ([], some buffer) := by
  rw [flushBlocks]
  split
  · rfl
  · next found => rw [none] at found; cases found

theorem flush_blocks_some {eventBlock : List Char}
    (found : cutFirst ['\n', '\n'] buffer = some (eventBlock, rest)) :
    flushBlocks handle buffer =
      match blockOutcome handle eventBlock with
      | .throws => ([], none)
      | .nothing => flushBlocks handle rest
      | .call event => (event :: (flushBlocks handle rest).1, (flushBlocks handle rest).2) := by
  rw [flushBlocks]
  split
  · next none => rw [none] at found; cases found
  next found' =>
    rw [found'] at found
    cases found
    rfl

theorem flush_blocks_append (front back : List Char) :
    flushBlocks handle (front ++ back) =
      match flushBlocks handle front with
      | (events, none) => (events, none)
      | (events, some rest) =>
        (events ++ (flushBlocks handle (rest ++ back)).1,
          (flushBlocks handle (rest ++ back)).2) := by
  induction size : front.length using Nat.strongRecOn generalizing front with
  | _ count ih =>
    cases found : cutFirst ['\n', '\n'] front with
    | none =>
      rw [flush_blocks_none found]
      rfl
    | some halves =>
      obtain ⟨eventBlock, rest⟩ := halves
      have shorter : rest.length < count := by
        rw [← size, cut_first_whole found]
        simp
        omega
      have further := ih rest.length shorter rest rfl
      rw [flush_blocks_some found, flush_blocks_some (cut_first_append found back)]
      cases blockOutcome handle eventBlock with
      | throws => rfl
      | nothing => exact further
      | call event =>
        rw [further]
        rcases flushBlocks handle rest with ⟨events, _ | left⟩ <;> rfl

theorem flush_blocks_clean {events : List Event} (clean : '\r' ∉ buffer)
    (left : flushBlocks handle buffer = (events, some rest)) : '\r' ∉ rest := by
  induction size : buffer.length using Nat.strongRecOn generalizing buffer events with
  | _ count ih =>
    cases found : cutFirst ['\n', '\n'] buffer with
    | none =>
      rw [flush_blocks_none found] at left
      rw [← Option.some.inj (Prod.mk.inj left).2]
      exact clean
    | some halves =>
      obtain ⟨eventBlock, back⟩ := halves
      have whole := cut_first_whole found
      have shorter : back.length < count := by
        rw [← size, whole]
        simp
        omega
      have cleanBack : '\r' ∉ back := by
        intro mem
        exact clean (by rw [whole]; exact mem_append_right _ mem)
      rw [flush_blocks_some found] at left
      cases outcome : blockOutcome handle eventBlock with
      | throws => rw [outcome] at left; cases left
      | nothing =>
        rw [outcome] at left
        exact ih back.length shorter cleanBack left rfl
      | call event =>
        rw [outcome] at left
        have others : flushBlocks handle back =
            ((flushBlocks handle back).1, some rest) := by
          rw [← (Prod.mk.inj left).2]
        exact ih back.length shorter cleanBack others rfl

theorem finish_append {front back : List Char} (cleanFront : '\r' ∉ front)
    (cleanBack : '\r' ∉ back) :
    (flushBuffer handle (front ++ back) true).1 =
      match flushBlocks handle front with
      | (events, none) => events
      | (events, some rest) => events ++ (flushBuffer handle (rest ++ back) true).1 := by
  have clean : '\r' ∉ front ++ back := by
    rw [mem_append, not_or]
    exact ⟨cleanFront, cleanBack⟩
  rw [flushBuffer, normalize_clean clean, flush_blocks_append]
  cases result : flushBlocks handle front with
  | mk events left =>
    cases left with
    | none => rfl
    | some rest =>
      have cleanRest : '\r' ∉ rest ++ back := by
        rw [mem_append, not_or]
        exact ⟨flush_blocks_clean cleanFront result, cleanBack⟩
      dsimp only
      rw [flushBuffer, normalize_clean cleanRest]
      rcases flushBlocks handle (rest ++ back) with ⟨others, _ | remainder⟩
      · rfl
      dsimp only
      rw [if_neg (not_not.mpr rfl), if_neg (not_not.mpr rfl)]
      split_ifs
      · rfl
      · cases blockOutcome handle remainder <;> simp

theorem consume_reads_eq {decoder : Decoder} {chunks : List (List UInt8)} (clean : '\r' ∉ buffer)
    (whole : (run decoder.pending chunks.flatten).1 = idle)
    (noMark : decoder.started = false →
      (readPieces decoder.pending chunks).flatten.head? ≠ some byteOrderMark) :
    consumeReads handle decoder buffer chunks =
      (flushBuffer handle (buffer ++ (readPieces decoder.pending chunks).flatMap normalize)
        true).1 := by
  induction chunks generalizing decoder buffer with
  | nil =>
    have silent : (decoder.decode [] false).2 = [] := by
      have nothing : finish decoder.pending = [] := by
        have done : decoder.pending = idle := whole
        rw [done]
        rfl
      unfold Decoder.decode
      dsimp only [run]
      rw [nothing]
      cases decoder.started <;> rfl
    rw [consumeReads, silent]
    rfl
  | cons chunk chunks ih =>
    rw [flatten_cons, run_append] at whole
    have piece : (decoder.decode chunk true).2 = (run decoder.pending chunk).2 := by
      unfold Decoder.decode
      cases begun : decoder.started with
      | true => rfl
      | false =>
        apply drop_mark_other
        intro mark
        apply noMark begun
        rw [readPieces] at *
        cases chars : (run decoder.pending chunk).2 with
        | nil => rw [chars] at mark; cases mark
        | cons c others => rw [chars] at mark; exact mark
    have cleanPiece := normalized_clean (run decoder.pending chunk).2
    have cleanFront : '\r' ∉ buffer ++ normalize (run decoder.pending chunk).2 := by
      rw [mem_append, not_or]
      exact ⟨clean, cleanPiece⟩
    have cleanBack : '\r' ∉
        (readPieces (run decoder.pending chunk).1 chunks).flatMap normalize := by
      rw [mem_flatMap]
      rintro ⟨other, -, mem⟩
      exact normalized_clean other mem
    rw [consumeReads, piece, readPieces, flatMap_cons, ← append_assoc,
      finish_append cleanFront cleanBack, flushBuffer, normalize_append clean]
    cases result : flushBlocks handle (buffer ++ normalize (run decoder.pending chunk).2) with
    | mk events left =>
      cases left with
      | none => rfl
      | some rest =>
        have further := @ih rest (decoder.decode chunk true).1
          (flush_blocks_clean cleanFront result) whole
        have later : (decoder.decode chunk true).1.started = false →
            (readPieces (decoder.decode chunk true).1.pending chunks).flatten.head? ≠
              some byteOrderMark := by
          intro fresh
          obtain ⟨begun, none⟩ := Bool.or_eq_false_iff.mp fresh
          have silent : (run decoder.pending chunk).2 = [] := by simpa using none
          have first := noMark begun
          rwa [readPieces, flatten_cons, silent] at first
        exact congrArg (events ++ ·) (further later)

end

def Fields.outcome {Event : Type} (handle : ParsedEvent → Outcome Event) (fields : Fields) :
    Outcome Event :=
  match fields.parsed with
  | none => .nothing
  | some parsedEvent => handle parsedEvent

def outcomes {Event : Type} (handle : ParsedEvent → Outcome Event) :
    Fields → List (List Char) → List (Outcome Event)
  | _, [] => []
  | fields, line :: rest =>
    if line = [] then fields.outcome handle :: outcomes handle .new rest
    else outcomes handle (fields.read line) rest

def calls {Event : Type} : List (Outcome Event) → List Event
  | [] => []
  | .throws :: _ => []
  | .nothing :: rest => calls rest
  | .call event :: rest => event :: calls rest

section

variable {lines : List (List Char)} {line : List Char}

theorem cut_break (oneLine : '\n' ∉ line) {text : List Char} (other : text.head? ≠ some '\n') :
    cutFirst ['\n', '\n'] (line ++ '\n' :: text) =
    (cutFirst ['\n', '\n'] text).map fun (front, back) => (line ++ '\n' :: front, back) := by
  induction line with
  | nil =>
    have elsewhere : ¬['\n', '\n'].isPrefixOf ('\n' :: text) = true := by
      cases text with
      | nil => decide
      | cons c text =>
        simpa using Ne.symm other
    rw [nil_append, cutFirst, if_neg elsewhere]
    rfl
  | cons c line ih =>
    rw [mem_cons, not_or] at oneLine
    have elsewhere : ¬['\n', '\n'].isPrefixOf (c :: (line ++ '\n' :: text)) = true := by
      simp [oneLine.1]
    rw [cons_append, cutFirst, if_neg elsewhere, ih oneLine.2, Option.map_map]
    rfl

theorem cut_blank_line (oneLine : '\n' ∉ line) (rest : List Char) :
    cutFirst ['\n', '\n'] (line ++ '\n' :: '\n' :: rest) = some (line, rest) := by
  induction line with
  | nil => simp [cutFirst]
  | cons c line ih =>
    rw [mem_cons, not_or] at oneLine
    have elsewhere : ¬['\n', '\n'].isPrefixOf (c :: (line ++ '\n' :: '\n' :: rest)) = true := by
      simp [oneLine.1]
    rw [cons_append, cutFirst, if_neg elsewhere, ih oneLine.2, Option.map_some]

theorem head_text_of (nonblank : line ≠ []) (oneLine : '\n' ∉ line) (rest : List Char) :
    (line ++ rest).head? ≠ some '\n' := by
  cases line with
  | nil => exact absurd rfl nonblank
  | cons c line =>
    intro same
    rw [Option.some.inj same] at oneLine
    exact oneLine mem_cons_self

variable {block : List (List Char)}

theorem cut_block (nonempty : block ≠ []) (tail : ∀ line ∈ block.tail, line ≠ [])
    (oneLine : ∀ line ∈ block, '\n' ∉ line) (rest : List Char) :
    cutFirst ['\n', '\n'] (textOf .lf block ++ '\n' :: rest) =
      some ((textOf .lf block).dropLast, rest) := by
  induction block with
  | nil => exact absurd rfl nonempty
  | cons line block ih =>
    rw [forall_mem_cons] at oneLine
    rw [text_of_cons, append_assoc]
    change cutFirst _ (line ++ '\n' :: (textOf .lf block ++ '\n' :: rest)) = _
    cases block with
    | nil =>
      have last : (line ++ (LineEnd.lf.chars ++ textOf .lf [])).dropLast = line := by
        have whole : line ++ (LineEnd.lf.chars ++ textOf .lf []) = line ++ ['\n'] := rfl
        rw [whole, dropLast_concat]
      rw [last]
      exact cut_blank_line oneLine.1 rest
    | cons next block =>
      have nonblank : next ≠ [] := tail next mem_cons_self
      have front : ∀ line ∈ (next :: block).tail, line ≠ [] := fun line mem =>
        tail line (mem_cons_of_mem next mem)
      have nextLine := oneLine.2 next mem_cons_self
      have head : (textOf .lf (next :: block) ++ '\n' :: rest).head? ≠ some '\n' := by
        rw [text_of_cons, append_assoc]
        exact head_text_of nonblank nextLine _
      rw [cut_break oneLine.1 head, ih (cons_ne_nil next block) front oneLine.2]
      have filled : textOf .lf (next :: block) ≠ [] := by
        rw [text_of_cons]
        simp [nonblank]
      rw [dropLast_append_of_ne_nil (by simp [LineEnd.chars]), dropLast_append_of_ne_nil
        filled]
      rfl

theorem split_block (nonempty : block ≠ []) (oneLine : ∀ line ∈ block, '\n' ∉ line) :
    (textOf .lf block).dropLast.splitOnP (· == '\n') = block := by
  obtain ⟨front, last, rfl⟩ : ∃ front last, block = front ++ [last] :=
    ⟨block.dropLast, block.getLast nonempty, (dropLast_append_getLast nonempty).symm⟩
  have whole : textOf .lf (front ++ [last]) =
      (front.map (· ++ ['\n'])).flatten ++ last ++ ['\n'] := by
    rw [textOf, flatMap_def]
    simp [LineEnd.chars]
  rw [whole, dropLast_concat]
  exact split_on_closed (fun line mem => oneLine line (mem_append_left _ mem))
    (oneLine last mem_concat_self)

theorem block_outcome_eq (nonempty : block ≠ []) (oneLine : ∀ line ∈ block, '\n' ∉ line) :
    blockOutcome handle (textOf .lf block).dropLast =
    (block.foldl Fields.read .new).outcome handle := by
  rw [blockOutcome, parseEventBlock, split_block nonempty oneLine]
  rfl

theorem text_clean (clean : ∀ line ∈ lines, Unbroken line) : '\r' ∉ textOf .lf lines := by
  rw [textOf, mem_flatMap]
  rintro ⟨line, mem, inside⟩
  rcases mem_append.mp inside with own | behind
  · exact (clean line mem).2 own
  · revert behind
    decide

theorem finish_lines (tail : ∀ line ∈ block.tail, line ≠ [])
    (clean : ∀ line ∈ block ++ lines, Unbroken line)
    (closed : ∀ line, (block ++ lines).getLast? = some line → line = []) :
    (flushBuffer handle (textOf .lf block ++ textOf .lf lines) true).1 =
      calls (outcomes handle (block.foldl Fields.read .new) lines) := by
  have noReturn : ∀ block lines : List (List Char), (∀ line ∈ block ++ lines, Unbroken line) →
      '\r' ∉ textOf .lf block ++ textOf .lf lines := by
    intro block lines clean
    rw [← text_of_append]
    exact text_clean clean
  induction lines generalizing block with
  | nil =>
    rw [append_nil] at closed
    cases block with
    | nil =>
      rw [flushBuffer, flush_blocks_none rfl]
      rfl
    | cons first block =>
      cases block with
      | nil =>
        rw [closed first rfl]
        rw [flushBuffer, flush_blocks_none rfl]
        rfl
      | cons next block =>
        have last := getLast?_eq_some_getLast (cons_ne_nil next block)
        have isBlank := closed _ (by rw [getLast?_cons_cons]; exact last)
        exact absurd isBlank (tail _ (getLast_mem _))
  | cons line lines ih =>
    by_cases blank : line = []
    · subst blank
      rw [outcomes, if_pos rfl]
      cases block with
      | nil =>
        have further := @ih [[]] (by simp) clean closed
        have text : textOf .lf [] ++ textOf .lf ([] :: lines) =
            textOf .lf [[]] ++ textOf .lf lines := rfl
        rw [text, further]
        rfl
      | cons first block =>
        have cleanLines : ∀ line ∈ lines, Unbroken line := fun other mem =>
          clean other (mem_append_right _ (mem_cons_of_mem _ mem))
        have oneLine : ∀ line ∈ first :: block, '\n' ∉ line := fun other mem =>
          (clean other (mem_append_left _ mem)).1
        have ends : ∀ line, ([] ++ lines).getLast? = some line → line = [] := by
          intro other last
          apply closed other
          have same : lines.getLast? = some other := last
          rw [getLast?_append, getLast?_cons, same]
          rfl
        have further : (flushBuffer handle (textOf .lf lines) true).1 =
            calls (outcomes handle .new lines) := @ih [] (by simp) cleanLines ends
        have cut := cut_block (cons_ne_nil first block) tail oneLine (textOf .lf lines)
        have text : textOf .lf (first :: block) ++ textOf .lf ([] :: lines) =
            textOf .lf (first :: block) ++ '\n' :: textOf .lf lines := rfl
        have cleanText := noReturn (first :: block) ([] :: lines) clean
        have cleanRest := text_clean cleanLines
        rw [text] at cleanText ⊢
        rw [flushBuffer, normalize_clean cleanText, flush_blocks_some cut,
          block_outcome_eq (cons_ne_nil first block) oneLine]
        rw [flushBuffer, normalize_clean cleanRest] at further
        cases (foldl Fields.read .new (first :: block)).outcome handle with
        | throws => rfl
        | nothing => exact further
        | call event =>
          rw [calls, ← further]
          rcases flushBlocks handle (textOf .lf lines) with ⟨events, _ | rest⟩
          · rfl
          dsimp only
          rw [if_neg (not_not.mpr rfl), if_neg (not_not.mpr rfl)]
          split_ifs
          · rfl
          · cases blockOutcome handle rest <;> rfl
    · have longer : block ++ line :: lines = block ++ [line] ++ lines := by
        rw [append_assoc, singleton_append]
      have text : textOf .lf block ++ textOf .lf (line :: lines) =
          textOf .lf (block ++ [line]) ++ textOf .lf lines := by
        rw [← text_of_append, longer, text_of_append]
      rw [longer] at clean closed
      have nonblank : ∀ other ∈ (block ++ [line]).tail, other ≠ [] := by
        cases block with
        | nil => exact fun other mem => absurd mem not_mem_nil
        | cons first block =>
          intro other mem
          rcases mem_append.mp mem with inside | last
          · exact tail other inside
          · rw [mem_singleton.mp last]
            exact blank
      rw [text, ih nonblank clean closed, foldl_append, outcomes, if_neg blank]
      rfl

end

end RuneTerminal.ApiClient
