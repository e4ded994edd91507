import RuneTerminal.Kit.NearestDouble
import Mathlib.Data.List.DropRight

/-! A natural number as a double is rounded from `2 ^ 53` on and infinite from `2 ^ 1024` on. Its
text has as few digits as tell the double from its neighbours. -/

namespace RuneTerminal.Kit

open List

/-- The nearest double, if that is finite; `nearest_double_int` is why small numbers stay. -/
def wholeDouble (n : Nat) : Option Nat :=
  if n < 2 ^ 53 then some n
  else
    let rounded := ⌊nearestDouble n⌋.toNat
    if rounded < 2 ^ 1024 then some rounded else none

/-- The multiple of a power of ten, as large as possible up to `10 ^ zeros`, that is read as
the double `value`. -/
def fewestDigits (value : Nat) : Nat → Nat
  | 0 => value
  | zeros + 1 =>
    let unit := 10 ^ (zeros + 1)
    let low := value / unit * unit
    let nearestFirst :=
      if 2 * (value - low) ≤ unit then [low, low + unit] else [low + unit, low]
    (nearestFirst.find? fun multiple => wholeDouble multiple == some value).getD
      (fewestDigits value zeros)

/-- `String(value)` of a finite double, and of the infinite one. -/
def wholeText : Option Nat → List Char
  | none => "Infinity".toList
  | some value =>
    if value < 2 ^ 53 then Nat.toDigits 10 value
    else
      let digits := Nat.toDigits 10 (fewestDigits value (Nat.toDigits 10 value).length)
      if digits.length ≤ 21 then digits
      else
        let fraction := digits.tail.rdropWhile (· == '0')
        digits.take 1 ++ (if fraction = [] then [] else '.' :: fraction) ++
          'e' :: '+' :: Nat.toDigits 10 (digits.length - 1)

variable {n : Nat}

theorem whole_double_small (small : n < 2 ^ 53) : wholeDouble n = some n :=
  if_pos small

theorem whole_text_small (small : n < 2 ^ 53) : wholeText (some n) = Nat.toDigits 10 n :=
  if_pos small

theorem digits_are_digits {c : Char} (mem : c ∈ Nat.toDigits 10 n) : c.isDigit = true :=
  Nat.isDigit_of_mem_toDigits (by decide) (by decide) mem

/-- A text of a number begins with a digit, unless it is that of the infinite one. -/
theorem whole_text_front (number : Option Nat) :
    ∃ first rest, wholeText number = first :: rest ∧
      (first.isDigit = true ∨ first = 'I' ∧ rest.head? = some 'n') := by
  have front : ∀ n, ∃ first rest, Nat.toDigits 10 n = first :: rest ∧ first.isDigit = true := by
    intro n
    obtain ⟨first, rest, digits⟩ := exists_cons_of_ne_nil (Nat.toDigits_ne_nil (b := 10) (n := n))
    exact ⟨first, rest, digits, digits_are_digits (digits ▸ mem_cons_self)⟩
  unfold wholeText
  cases number with
  | none => exact ⟨_, _, rfl, .inr ⟨rfl, rfl⟩⟩
  | some value =>
    dsimp only
    split_ifs
    · obtain ⟨first, rest, digits, isDigit⟩ := front value
      exact ⟨first, rest, digits, .inl isDigit⟩
    all_goals
      obtain ⟨first, rest, digits, isDigit⟩ :=
        front (fewestDigits value (Nat.toDigits 10 value).length)
      rw [digits]
      exact ⟨first, _, rfl, .inl isDigit⟩

theorem whole_text_no_bracket (number : Option Nat) : '[' ∉ wholeText number := by
  have noDigit : ∀ {n}, '[' ∉ Nat.toDigits 10 n := fun mem => by cases digits_are_digits mem
  have first : ∀ {n}, '[' ∉ (Nat.toDigits 10 n).take 1 := fun mem => noDigit (mem_of_mem_take mem)
  have fraction : ∀ {n}, '[' ∉ (Nat.toDigits 10 n).tail.rdropWhile (· == '0') := by
    intro n mem
    have front := rdropWhile_prefix (· == '0') (Nat.toDigits 10 n).tail
    exact noDigit (mem_of_mem_tail (front.subset mem))
  unfold wholeText
  cases number with
  | none => decide
  | some value =>
    dsimp only
    split_ifs with small short whole
    · exact noDigit
    · exact noDigit
    · simp [noDigit, first]
    · simp [noDigit, first, fraction]

end RuneTerminal.Kit
