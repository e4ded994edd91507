import Mathlib.Data.List.ReduceOption
import RuneTerminal.Kit.TextDecoder

/-! A text whose lines end in LF, CR or CRLF comes in pieces, each made LF on its own. An empty line
is put in exactly where a piece ends between CR and LF. -/

namespace RuneTerminal.Kit.ChunkedText

open Kit.Utf8 Kit.TextDecoder List

def EndsBehind {Item : Type} (pieces : List (List Item)) (front : List Item) : Prop :=
  ∃ before after, pieces = before ++ after ∧ before.flatten = front

def normalizeFrom : Bool → List Char → List Char
  | _, [] => []
  | afterReturn, c :: rest =>
    if c = '\r' then '\n' :: normalizeFrom true rest
    else if c = '\n' ∧ afterReturn then normalizeFrom false rest
    else c :: normalizeFrom false rest

/-- `replace(/\r\n?/g, '\n')` -/
def normalize (text : List Char) : List Char := normalizeFrom false text

variable {front : List Char} {lines : List (List Char)} {chunks : List (List UInt8)}

section

variable (clean : '\r' ∉ front) (back : List Char)
include clean back

theorem normalize_from_append :
    normalizeFrom false (front ++ back) = front ++ normalizeFrom false back := by
  induction front with
  | nil => rfl
  | cons c front ih =>
    rw [mem_cons, not_or] at clean
    rw [cons_append, normalizeFrom, if_neg (Ne.symm clean.1), if_neg (by simp),
      ih clean.2, cons_append]

theorem normalize_append : normalize (front ++ back) = front ++ normalize back :=
  normalize_from_append clean back

end

theorem normalize_clean {text : List Char} (clean : '\r' ∉ text) : normalize text = text := by
  have whole := normalize_append clean []
  rw [append_nil] at whole
  rw [whole]
  exact append_nil text

theorem normalized_clean (text : List Char) : '\r' ∉ normalize text := by
  have each : ∀ afterReturn, '\r' ∉ normalizeFrom afterReturn text := by
    induction text with
    | nil => exact fun afterReturn => not_mem_nil
    | cons c text ih =>
      intro afterReturn
      rw [normalizeFrom]
      split_ifs with isReturn skipped
      · rw [mem_cons, not_or]
        exact ⟨by decide, ih true⟩
      · exact ih false
      · rw [mem_cons, not_or]
        exact ⟨Ne.symm isReturn, ih false⟩
  exact each false

inductive LineEnd
  | lf
  | cr
  | crlf
deriving DecidableEq

def LineEnd.chars : LineEnd → List Char
  | .lf => ['\n']
  | .cr => ['\r']
  | .crlf => ['\r', '\n']

def Unbroken (line : List Char) : Prop := '\n' ∉ line ∧ '\r' ∉ line

instance (line : List Char) : Decidable (Unbroken line) := inferInstanceAs (Decidable (_ ∧ _))

def textOf (lineEnd : LineEnd) (lines : List (List Char)) : List Char :=
  lines.flatMap (· ++ lineEnd.chars)

def tokens (pieces : List (List Char)) : List (Option Char) :=
  pieces.flatMap fun piece => piece.map some ++ [none]

def normalizeTokens : Bool → List (Option Char) → List Char
  | _, [] => []
  | _, none :: rest => normalizeTokens false rest
  | afterReturn, some c :: rest =>
    if c = '\r' then '\n' :: normalizeTokens true rest
    else if c = '\n' ∧ afterReturn then normalizeTokens false rest
    else c :: normalizeTokens false rest

def markBehind : List (Option Char) → List Char → Bool
  | marked, [] => marked.head? == some none
  | [], _ :: _ => false
  | none :: marked, c :: front => markBehind marked (c :: front)
  | some _ :: marked, _ :: front => markBehind marked front

theorem tokens_cons (piece : List Char) (pieces : List (List Char)) :
    tokens (piece :: pieces) = piece.map some ++ none :: tokens pieces := by
  rw [tokens, flatMap_cons, append_assoc, singleton_append, ← tokens]

theorem normalize_piece (afterReturn : Bool) (piece : List Char) (rest : List (Option Char)) :
    normalizeTokens afterReturn (piece.map some ++ none :: rest) =
    normalizeFrom afterReturn piece ++ normalizeTokens false rest := by
  induction piece generalizing afterReturn with
  | nil => rfl
  | cons c piece ih =>
    rw [map_cons, cons_append, normalizeTokens, normalizeFrom]
    split_ifs <;> rw [ih] <;> rfl

theorem normalize_tokens (pieces : List (List Char)) :
    normalizeTokens false (tokens pieces) = pieces.flatMap normalize := by
  induction pieces with
  | nil => rfl
  | cons piece pieces ih => rw [tokens_cons, normalize_piece, ih, flatMap_cons, normalize]

theorem reduce_tokens (pieces : List (List Char)) :
    (tokens pieces).reduceOption = pieces.flatten := by
  induction pieces with
  | nil => rfl
  | cons piece pieces ih =>
    have own : (piece.map some).reduceOption = piece := by
      induction piece with
      | nil => rfl
      | cons c piece ihPiece => simp [reduceOption_cons_of_some, ihPiece]
    rw [tokens_cons, reduceOption_append, own, reduceOption_cons_of_none, ih,
      flatten_cons]

theorem mark_behind_piece (piece : List Char) (rest : List (Option Char)) (front : List Char) :
    markBehind (piece.map some ++ rest) (piece ++ front) = markBehind rest front := by
  induction piece with
  | nil => rfl
  | cons c piece ih => exact ih

theorem ends_behind_cons {Item : Type} {piece front : List Item} {pieces : List (List Item)}
    (nonempty : piece ++ front ≠ []) :
    EndsBehind (piece :: pieces) (piece ++ front) ↔ EndsBehind pieces front := by
  constructor
  · rintro ⟨before, after, whole, same⟩
    cases before with
    | nil => exact absurd same.symm nonempty
    | cons first before =>
      obtain ⟨rfl, rest⟩ := cons.inj whole
      exact ⟨before, after, rest, append_cancel_left same⟩
  · rintro ⟨before, after, rfl, rfl⟩
    exact ⟨piece :: before, after, rfl, flatten_cons⟩

theorem mark_behind_iff {pieces : List (List Char)} {back : List Char} (nonempty : front ≠ [])
    (whole : pieces.flatten = front ++ back) :
    markBehind (tokens pieces) front = true ↔ EndsBehind pieces front := by
  induction pieces generalizing front with
  | nil => exact absurd (append_eq_nil_iff.mp whole.symm).1 nonempty
  | cons piece pieces ih =>
    rw [tokens_cons]
    rcases append_eq_append_iff.mp whole with ⟨more, rfl, rest⟩ | ⟨more, rfl, rest⟩
    · rw [mark_behind_piece, ends_behind_cons nonempty]
      cases more with
      | nil =>
        have here : EndsBehind pieces [] := ⟨[], pieces, rfl, rfl⟩
        exact iff_of_true rfl here
      | cons c more => exact ih (cons_ne_nil c more) rest
    cases more with
    | nil =>
      have own := mark_behind_piece front (none :: tokens pieces) []
      rw [append_nil] at own ⊢
      have here : EndsBehind (front :: pieces) front := ⟨[front], pieces, rfl, by simp⟩
      exact iff_of_true own here
    | cons c more =>
      have own := mark_behind_piece front ((c :: more).map some ++ none :: tokens pieces) []
      rw [append_nil, ← append_assoc, ← map_append] at own
      rw [own]
      constructor
      · intro marked
        simp [markBehind] at marked
      rintro ⟨before, after, pieces', same⟩
      cases before with
      | nil => exact absurd same.symm nonempty
      | cons first before =>
        cases pieces'
        have lengths := congrArg length same
        simp at lengths

variable {marked : List (Option Char)} {c : Char} {lineEnd : LineEnd}

section

variable {rest : List Char}

theorem first_character (chars : marked.reduceOption = c :: rest) :
    ∃ others, others.reduceOption = rest ∧
      (∀ afterReturn, normalizeTokens afterReturn marked =
        normalizeTokens (afterReturn && marked.head? != some none) (some c :: others)) ∧
      ∀ front, markBehind marked (c :: front) = markBehind others front := by
  induction marked with
  | nil => cases chars
  | cons token marked ih =>
    cases token with
    | none =>
      obtain ⟨others, reduced, normal, marks⟩ := ih chars
      refine ⟨others, reduced, ?_, ?_⟩
      · intro afterReturn
        rw [normalizeTokens, normal]
        simp
      · intro front
        rw [markBehind, marks]
    | some first =>
      cases chars
      refine ⟨marked, rfl, ?_, ?_⟩
      · intro afterReturn
        cases afterReturn <;> rfl
      · intro front
        rw [markBehind]

theorem first_other (other : c ≠ '\n') (chars : marked.reduceOption = c :: rest)
    (afterReturn : Bool) :
    ∃ others, others.reduceOption = rest ∧
      normalizeTokens afterReturn marked =
        (if c = '\r' then '\n' else c) :: normalizeTokens (c == '\r') others ∧
      ∀ front, markBehind marked (c :: front) = markBehind others front := by
  obtain ⟨others, reduced, normal, marks⟩ := first_character chars
  refine ⟨others, reduced, ?_, marks⟩
  rw [normal, normalizeTokens]
  by_cases isReturn : c = '\r'
  · rw [if_pos isReturn, if_pos isReturn, beq_iff_eq.mpr isReturn]
  · rw [if_neg isReturn, if_neg isReturn, if_neg fun both => other both.1,
      beq_eq_false_iff_ne.mpr isReturn]

theorem read_line {line : List Char} (clean : Unbroken line)
    (chars : marked.reduceOption = line ++ rest) (afterReturn : Bool) :
    ∃ others, others.reduceOption = rest ∧
      normalizeTokens afterReturn marked =
        line ++ normalizeTokens (afterReturn && line.isEmpty) others ∧
      ∀ front, markBehind marked (line ++ front) = markBehind others front := by
  induction line generalizing marked afterReturn with
  | nil =>
    refine ⟨marked, chars, ?_, fun front => rfl⟩
    simp
  | cons c line ih =>
    have notFeed : c ≠ '\n' := fun same => clean.1 (same ▸ mem_cons_self)
    have notReturn : c ≠ '\r' := fun same => clean.2 (same ▸ mem_cons_self)
    have cleanRest : Unbroken line :=
      ⟨fun mem => clean.1 (mem_cons_of_mem c mem),
        fun mem => clean.2 (mem_cons_of_mem c mem)⟩
    obtain ⟨behind, reduced, normal, marks⟩ := first_other notFeed chars afterReturn
    obtain ⟨others, reduced', normal', marks'⟩ := ih cleanRest reduced (c == '\r')
    refine ⟨others, reduced', ?_, ?_⟩
    · rw [normal, if_neg notReturn, normal', beq_eq_false_iff_ne.mpr notReturn]
      simp
    · intro front
      rw [cons_append, marks, marks']

theorem read_line_end (chars : marked.reduceOption = lineEnd.chars ++ rest) {afterReturn : Bool}
    (before : afterReturn = true → lineEnd ≠ .lf) :
    ∃ others, others.reduceOption = rest ∧
      normalizeTokens afterReturn marked =
        '\n' ::
          ((if lineEnd = .crlf ∧ markBehind marked ['\r'] = true then ['\n'] else []) ++
            normalizeTokens (lineEnd == .cr) others) ∧
      ∀ front, markBehind marked (lineEnd.chars ++ front) = markBehind others front := by
  cases lineEnd with
  | lf =>
    have off : afterReturn = false := by
      cases afterReturn with
      | false => rfl
      | true => exact absurd rfl (before rfl)
    obtain ⟨others, reduced, normal, marks⟩ := first_character chars
    refine ⟨others, reduced, ?_, marks⟩
    rw [normal, off]
    rfl
  | cr =>
    obtain ⟨others, reduced, normal, marks⟩ := first_other (by decide) chars afterReturn
    refine ⟨others, reduced, ?_, marks⟩
    rw [normal]
    rfl
  | crlf =>
    obtain ⟨behind, reduced, normal, marks⟩ := first_other (by decide) chars afterReturn
    obtain ⟨others, reduced', normal', marks'⟩ := first_character reduced
    refine ⟨others, reduced', ?_, ?_⟩
    · have off : (LineEnd.crlf == LineEnd.cr) = false := rfl
      rw [normal, normal', marks, markBehind, off]
      by_cases mark : behind.head? = some none
      · simp [mark, normalizeTokens]
      · simp [mark, normalizeTokens]
    · intro front
      change markBehind marked ('\r' :: '\n' :: front) = _
      rw [marks, marks']

end

def cutLines (cut : List (List Char) → Bool) : List (List Char) → List (List Char) →
    List (List Char)
  | _, [] => []
  | front, line :: rest =>
    (if cut (front ++ [line]) then [line, []] else [line]) ++
      cutLines cut (front ++ [line]) rest

theorem text_of_append (lineEnd : LineEnd) (front back : List (List Char)) :
    textOf lineEnd (front ++ back) = textOf lineEnd front ++ textOf lineEnd back :=
  flatMap_append

theorem text_of_cons (lineEnd : LineEnd) (line : List Char) (lines : List (List Char)) :
    textOf lineEnd (line :: lines) = line ++ (lineEnd.chars ++ textOf lineEnd lines) := by
  rw [textOf, flatMap_cons, append_assoc, ← textOf]

theorem drop_last_text_of (front : List (List Char)) (line : List Char) :
    (textOf .crlf (front ++ [line])).dropLast = textOf .crlf front ++ (line ++ ['\r']) := by
  have whole : textOf .crlf (front ++ [line]) =
      textOf .crlf front ++ (line ++ ['\r']) ++ ['\n'] := by
    simp [textOf, LineEnd.chars]
  rw [whole, dropLast_concat]

theorem cut_lines_congr {cut cut' : List (List Char) → Bool} {front : List (List Char)}
    (same : ∀ before line after, lines = before ++ line :: after →
      cut (front ++ before ++ [line]) = cut' (front ++ before ++ [line])) :
    cutLines cut front lines = cutLines cut' front lines := by
  induction lines generalizing front with
  | nil => rfl
  | cons line lines ih =>
    have here := same [] line lines rfl
    rw [append_nil] at here
    rw [cutLines, cutLines, here, ih]
    intro before next after split
    have further := same (line :: before) next after (by rw [split, cons_append])
    have parts : front ++ line :: before = front ++ [line] ++ before := by
      rw [append_assoc, singleton_append]
    rwa [parts] at further

theorem normalize_no_characters (none : marked.reduceOption = []) (afterReturn : Bool) :
    normalizeTokens afterReturn marked = [] := by
  induction marked generalizing afterReturn with
  | nil => rfl
  | cons token marked ih =>
    cases token with
    | none => exact ih none false
    | some c => cases none

theorem normalize_lines {all : List (Option Char)} {front : List (List Char)}
    (clean : ∀ line ∈ lines, Unbroken line) (chars : marked.reduceOption = textOf lineEnd lines)
    (same : ∀ more, markBehind all (textOf lineEnd front ++ more) = markBehind marked more)
    (afterReturn : Bool) (before : afterReturn = true → lineEnd = .cr) :
    normalizeTokens afterReturn marked =
      textOf .lf
        (cutLines
          (fun behind =>
            decide (lineEnd = .crlf) && markBehind all (textOf lineEnd behind).dropLast)
          front lines) := by
  induction lines generalizing marked front afterReturn with
  | nil => exact normalize_no_characters chars afterReturn
  | cons line lines ih =>
    rw [forall_mem_cons] at clean
    rw [text_of_cons] at chars
    obtain ⟨behind, reduced, normal, marks⟩ := read_line clean.1 chars afterReturn
    have notFeed : (afterReturn && line.isEmpty) = true → lineEnd ≠ .lf := by
      intro both
      rw [before (Bool.and_eq_true_iff.mp both).1]
      decide
    obtain ⟨others, reduced', normal', marks'⟩ := read_line_end reduced notFeed
    have further : ∀ more, markBehind all (textOf lineEnd (front ++ [line]) ++ more) =
        markBehind others more := by
      intro more
      rw [← marks', ← marks, ← same]
      simp [textOf]
    have rest := ih clean.2 reduced' further (lineEnd == .cr) beq_iff_eq.mp
    have isCut : (decide (lineEnd = .crlf) &&
        markBehind all (textOf lineEnd (front ++ [line])).dropLast) = true ↔
        lineEnd = .crlf ∧ markBehind behind ['\r'] = true := by
      rw [Bool.and_eq_true_iff, decide_eq_true_iff]
      apply and_congr_right
      rintro rfl
      rw [drop_last_text_of, same, marks]
    rw [normal, normal', rest, cutLines]
    by_cases mark : lineEnd = .crlf ∧ markBehind behind ['\r'] = true
    · rw [if_pos mark, if_pos (isCut.mpr mark)]
      simp [textOf, LineEnd.chars]
    · rw [if_neg mark, if_neg fun cut => mark (isCut.mp cut)]
      simp [textOf, LineEnd.chars]

theorem length_read_pieces (pending : Pending) (chunks : List (List UInt8)) :
    (readPieces pending chunks).length = chunks.length := by
  induction chunks generalizing pending with
  | nil => rfl
  | cons chunk chunks ih => rw [readPieces, length_cons, ih, length_cons]

theorem ends_behind_pieces {back : List Char} (oneByte : (String.utf8EncodeChar c).length = 1)
    (whole : chunks.flatten = encode (front ++ c :: back)) :
    EndsBehind (readPieces idle chunks) front ↔ EndsBehind chunks (encode front) := by
  constructor
  · rintro ⟨before, after, pieces, same⟩
    have size : (chunks.take before.length).length = before.length := by
      have bound := congrArg length pieces
      rw [length_read_pieces, length_append] at bound
      rw [length_take]
      omega
    have parts := take_append_drop before.length chunks
    rw [← parts, read_pieces_append] at pieces
    have first := append_inj_left pieces (by rw [length_read_pieces, size])
    have read : (run idle (chunks.take before.length).flatten).2 = front := by
      rw [← read_pieces_flatten, first, same]
    refine ⟨chunks.take before.length, chunks.drop before.length, parts.symm, ?_⟩
    rw [← parts, flatten_append] at whole
    rcases encode_cut whole with ⟨text, rest, split, isFront, -⟩ |
      ⟨text, c', rest, byte, bytes, others, split, isFront, -, ⟨next, later, rfl, -⟩, isRest, -⟩
    · rw [isFront, run_encode] at read
      rw [isFront, ← read]
    -- A chunk that ends within a character ends behind the text in front of it.
    exfalso
    have isChar : String.utf8EncodeChar c' = byte :: bytes ++ next :: later := by
      rw [isFront, isRest, split, encode_append, encode_cons, append_assoc,
        append_cancel_left_eq, ← append_assoc, append_cancel_right_eq] at whole
      exact whole.symm
    have silent := run_char_front isChar (cons_ne_nil next later)
    rw [isFront, run_encode_append, silent, append_nil] at read
    rw [← read] at split
    cases (append_cancel_left split)
    rw [isChar] at oneByte
    simp at oneByte
  · rintro ⟨before, after, rfl, same⟩
    refine ⟨readPieces idle before, _, read_pieces_append idle before after, ?_⟩
    rw [read_pieces_flatten, same, run_encode]

/-- What an encoded text becomes that is decoded and normalized chunk by chunk: a line has
an empty one behind it if a chunk ends between the characters of its CRLF. -/
theorem normalize_chunks {chunks : List (List UInt8)} {lineEnd : LineEnd} {lines : List (List Char)}
    (clean : ∀ line ∈ lines, Unbroken line) (whole : chunks.flatten = encode (textOf lineEnd lines))
    (cut : List (List Char) → Bool)
    (isCut : ∀ front line back, lines = front ++ line :: back →
      (cut (front ++ [line]) = true ↔
        lineEnd = .crlf ∧ EndsBehind chunks (encode (textOf lineEnd (front ++ [line])).dropLast))) :
    (readPieces idle chunks).flatMap normalize = textOf .lf (cutLines cut [] lines) := by
  have text : (readPieces idle chunks).flatten = textOf lineEnd lines := by
    rw [read_pieces_flatten, whole, run_encode]
  have reduced : (tokens (readPieces idle chunks)).reduceOption = textOf lineEnd lines := by
    rw [reduce_tokens, text]
  have start : ∀ more, markBehind (tokens (readPieces idle chunks)) (textOf lineEnd [] ++ more) =
      markBehind (tokens (readPieces idle chunks)) more := fun more => rfl
  rw [← normalize_tokens, normalize_lines clean reduced start false Bool.noConfusion]
  congr 1
  apply cut_lines_congr
  intro front line back split
  rw [nil_append, Bool.eq_iff_iff, isCut front line back split, Bool.and_eq_true_iff,
    decide_eq_true_iff]
  apply and_congr_right
  rintro rfl
  have parts : textOf .crlf lines =
      textOf .crlf front ++ (line ++ ['\r']) ++ '\n' :: textOf .crlf back := by
    rw [split, text_of_append, text_of_cons]
    simp [LineEnd.chars]
  rw [parts] at whole text
  rw [drop_last_text_of, mark_behind_iff (by simp) text, ends_behind_pieces rfl whole]

end RuneTerminal.Kit.ChunkedText
