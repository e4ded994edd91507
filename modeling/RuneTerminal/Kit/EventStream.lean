import Mathlib.Data.List.Basic

/-! Server-sent events: lines that end in LF or in CRLF, of which those of the field "data" make up
the events. A blank line ends an event, and so does the end of the stream. -/

namespace RuneTerminal.Kit

open List

def CleanLine (text : List Char) : Prop :=
  '\n' ∉ text ∧ '\r' ∉ text

structure StreamLine where
  text : List Char
  crlf : Bool
  clean : CleanLine text

def StreamLine.body (line : StreamLine) : List Char :=
  line.text ++ if line.crlf then ['\r'] else []

structure EventStream where
  lines : List StreamLine
  /-- What stands behind the last terminator. -/
  tail : List Char
  cleanTail : CleanLine tail

def EventStream.chars (stream : EventStream) : List Char :=
  (stream.lines.map fun line => line.body ++ ['\n']).flatten ++ stream.tail

def EventStream.texts (stream : EventStream) : List (List Char) :=
  stream.lines.map StreamLine.text ++ [stream.tail]

inductive LineKind where
  | blank
  | comment
  | data (value : List Char)
  | other

/-- The value of a field behind its name; one space behind the colon is not part of it. -/
def fieldValue : List Char → List Char
  | ':' :: ' ' :: value => value
  | ':' :: value => value
  | _ => []

def lineKind : List Char → LineKind
  | [] => .blank
  | ':' :: _ => .comment
  | line =>
    if line.takeWhile (· ≠ ':') = "data".toList then
      .data (fieldValue (line.dropWhile (· ≠ ':')))
    else .other

def dispatch : List (List Char) → List (List Char)
  | [] => []
  | values => [['\n'].intercalate values]

def readEvents : List (List Char) → List (List Char) → List (List Char)
  | values, [] => dispatch values
  | values, line :: rest =>
    match lineKind line with
    | .blank => dispatch values ++ readEvents [] rest
    | .data value => readEvents (values ++ [value]) rest
    | _ => readEvents values rest

def EventStream.events (stream : EventStream) : List (List Char) :=
  readEvents [] stream.texts

section

variable {line : List Char}

theorem line_kind_eq_blank : lineKind line = .blank ↔ line = [] := by
  constructor
  · intro kind
    unfold lineKind at kind
    split at kind
    · rfl
    · cases kind
    · split_ifs at kind
  · rintro rfl
    rfl

theorem line_kind_eq_comment : lineKind line = .comment ↔ line.head? = some ':' := by
  unfold lineKind
  split
  · simp
  · simp
  next notColon =>
    cases line with
    | nil => split_ifs <;> simp
    | cons mark rest =>
      have differs : mark ≠ ':' := fun same => notColon rest (by rw [same])
      split_ifs <;> simp [differs]

theorem line_kind_data {value : List Char} (kind : lineKind line = .data value) :
    (line = "data".toList ∧ value = []) ∨
      ∃ rest, line = "data:".toList ++ rest ∧ (rest = value ∨ rest = ' ' :: value) := by
  unfold lineKind at kind
  split at kind
  · cases kind
  · cases kind
  split_ifs at kind with name
  obtain rfl := LineKind.data.inj kind
  have whole := takeWhile_append_dropWhile (p := fun c => decide (c ≠ ':')) (l := line)
  rw [name] at whole
  cases behind : line.dropWhile (· ≠ ':') with
  | nil =>
    left
    rw [behind] at whole
    exact ⟨whole.symm, rfl⟩
  | cons mark rest =>
    have isColon : mark = ':' := by
      have head := head?_dropWhile_not (fun c => decide (c ≠ ':')) line
      rw [behind] at head
      simpa using head
    subst isColon
    rw [behind] at whole
    refine .inr ⟨rest, whole.symm, ?_⟩
    unfold fieldValue
    split
    · next isRest => exact .inr (cons.inj isRest).2
    · next isRest => exact .inl (cons.inj isRest).2
    · next _ notColon => exact absurd rfl (notColon rest)

theorem line_kind_not_data (kind : ∀ value, lineKind line ≠ .data value) (rest : List Char) :
    line ≠ "data:".toList ++ rest := by
  rintro rfl
  exact kind _ rfl

theorem read_events_passed_over (notData : ∀ value, lineKind line ≠ .data value)
    (notBlank : line ≠ []) (values rest : List (List Char)) :
    readEvents values (line :: rest) = readEvents values rest := by
  rw [readEvents]
  cases kind : lineKind line with
  | blank => exact absurd (line_kind_eq_blank.mp kind) notBlank
  | comment | other => rfl
  | data value => exact absurd kind (notData value)

end

theorem read_events_blank (values lines : List (List Char)) :
    readEvents values (lines ++ [[]]) = readEvents values lines := by
  induction lines generalizing values with
  | nil => exact append_nil _
  | cons line lines ih =>
    rw [cons_append, readEvents, readEvents]
    cases lineKind line with
    | blank => dsimp only; rw [ih]
    | comment | other => exact ih values
    | data value => exact ih (values ++ [value])

end RuneTerminal.Kit
