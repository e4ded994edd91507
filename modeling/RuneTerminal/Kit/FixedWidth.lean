import Mathlib.Data.Char
import Mathlib.Algebra.Order.Ring.Nat
import Mathlib.Data.Nat.Find
import Mathlib.Data.Nat.Log
import Mathlib.Data.List.Lex

/-! Decimal texts padded with zeros. At a fixed width texts compare as their numbers do, and records
of such texts as their lists of numbers do. -/

namespace RuneTerminal.Kit

open List

variable {n m : Nat}

section

variable {start : Nat → Nat} {k l : Nat}

/-- The last of the first `bound` marks that is not behind `n`. -/
def lastMark (start : Nat → Nat) (bound n : Nat) : Nat :=
  Nat.findGreatest (fun k => start k ≤ n) bound

theorem last_mark_le (zero : start 0 = 0) (bound n : Nat) : start (lastMark start bound n) ≤ n :=
  Nat.findGreatest_spec (P := fun k => start k ≤ n) (Nat.zero_le bound) (by omega)

theorem last_mark_le_bound (bound n : Nat) : lastMark start bound n ≤ bound :=
  Nat.findGreatest_le bound

theorem last_mark_lt_next {bound : Nat} (inside : n < start (bound + 1)) :
    n < start (lastMark start bound n + 1) := by
  by_cases last : lastMark start bound n = bound
  · rwa [last]
  have le : lastMark start bound n ≤ bound := last_mark_le_bound bound n
  have notYet : ¬start (lastMark start bound n + 1) ≤ n :=
    Nat.findGreatest_is_greatest (P := fun k => start k ≤ n) (n := bound)
      (k := lastMark start bound n + 1) (Nat.lt_succ_self _) (by omega)
  omega

theorem lt_iff_of_marks (mono : Monotone start) (le : start k ≤ n) (lt : n < start (k + 1))
    (leOther : start l ≤ m) (ltOther : m < start (l + 1)) :
    n < m ↔ k < l ∨ k = l ∧ n - start k < m - start l := by
  rcases lt_trichotomy k l with less | rfl | greater
  · have before : start (k + 1) ≤ start l := mono less
    omega
  · omega
  · have before : start (l + 1) ≤ start k := mono greater
    omega

theorem div_mod_lt_iff {unit : Nat} (positive : 0 < unit) :
    n < m ↔ n / unit < m / unit ∨ n / unit = m / unit ∧ n % unit < m % unit := by
  have mono : Monotone fun k => unit * k := fun _ _ le => Nat.mul_le_mul_left unit le
  have below (n : Nat) : unit * (n / unit) ≤ n := Nat.mul_div_le n unit
  have above (n : Nat) : n < unit * (n / unit + 1) := Nat.lt_mul_div_succ n positive
  have rest (n : Nat) : n - unit * (n / unit) = n % unit := by
    have whole := Nat.div_add_mod n unit
    omega
  rw [lt_iff_of_marks mono (below n) (above n) (below m) (above m), rest, rest]

end

section

variable {Item : Type} [LinearOrder Item] {first second firstTail secondTail : List Item}

theorem append_lt_append_iff (same : first.length = second.length) :
    first ++ firstTail < second ++ secondTail ↔
    first < second ∨ first = second ∧ firstTail < secondTail := by
  induction first generalizing second with
  | nil =>
    obtain rfl := length_eq_zero_iff.mp same.symm
    simp
  | cons item first ih =>
    cases second with
    | nil => cases same
    | cons other second =>
      rw [cons_append, cons_append, cons_lt_cons_iff, cons_lt_cons_iff,
        ih (Nat.succ.inj same), cons.injEq]
      tauto

variable {zero mark : Item}

theorem zeros_le (least : ∀ item ∈ first, zero ≤ item) :
    ¬first < List.replicate first.length zero := by
  induction first with
  | nil => simp
  | cons item first ih =>
    rw [forall_mem_cons] at least
    rw [length_cons, replicate_succ, cons_lt_cons_iff]
    rintro (below | ⟨_, below⟩)
    · exact absurd below (not_lt.mpr least.1)
    · exact ih least.2 below

/-- Of two texts that are filled up with zeros to one length, the smaller one comes
first with a large mark at the end as well, unless it begins the other one. -/
theorem marked_lt_iff {fewer more : Nat} (least : ∀ item ∈ first, zero ≤ item)
    (greatest : ∀ item ∈ second, item < mark) (same : first.length + fewer = second.length + more)
    (less : first ++ List.replicate fewer zero < second ++ List.replicate more zero) :
    (first ++ [mark] < second ++ [mark] ↔ ¬first <+: second) ∧
    (second ++ [mark] < first ++ [mark] ↔ first <+: second) := by
  induction first generalizing second with
  | nil =>
    cases second with
    | nil =>
      obtain rfl : fewer = more := by simpa using same
      exact absurd less (lt_irrefl _)
    | cons other second =>
      have below : other < mark := greatest other mem_cons_self
      simp [below, cons_lt_cons_iff, below.ne', below.not_gt]
  | cons item first ih =>
    cases second with
    | nil =>
      have length : more = (item :: first ++ replicate fewer zero).length := by
        simp at same ⊢
        omega
      rw [length] at less
      refine absurd less (zeros_le ?_)
      intro other mem
      rcases mem_append.mp mem with isItem | isZero
      · exact least other isItem
      · exact (eq_of_mem_replicate isZero).ge
    | cons other second =>
      rw [forall_mem_cons] at least greatest
      rcases cons_lt_cons_iff.mp less with below | ⟨rfl, rest⟩
      · simp [cons_lt_cons_iff, below, below.ne, below.ne', below.not_gt]
      · have further := ih least.2 greatest.2 (by simp at same; omega) rest
        simpa using further

end

def digitChar (digit : Nat) : Char :=
  Char.ofNat (48 + digit)

def digitValue (char : Char) : Nat :=
  char.toNat - 48

def isDigit (char : Char) : Bool :=
  '0' ≤ char ∧ char ≤ '9'

/-- The last `width` digits. -/
def pad : Nat → Nat → List Char
  | 0, _ => []
  | width + 1, n => pad width (n / 10) ++ [digitChar (n % 10)]

def appendInt (width n : Nat) : List Char :=
  pad (max width (Nat.log 10 n + 1)) n

def digitsValue (digits : List Char) : Nat :=
  digits.foldl (fun value char => value * 10 + digitValue char) 0

section

variable {digit other width : Nat} {char : Char}

theorem digit_char_nat (isDigit : digit < 10) : (digitChar digit).toNat = 48 + digit := by
  have valid : (48 + digit).isValidChar := .inl (by omega)
  rw [digitChar, Char.ofNat, dif_pos valid]
  rfl

theorem digit_value_char (small : digit < 10) : digitValue (digitChar digit) = digit := by
  rw [digitValue, digit_char_nat small]
  omega

theorem char_lt_iff {first second : Char} : first < second ↔ first.toNat < second.toNat :=
  Iff.rfl

theorem digit_char_lt_iff (small : digit < 10) (smallOther : other < 10) :
    digitChar digit < digitChar other ↔ digit < other := by
  rw [char_lt_iff, digit_char_nat small, digit_char_nat smallOther]
  omega

theorem is_digit_iff : isDigit char = true ↔ 48 ≤ char.toNat ∧ char.toNat ≤ 57 := by
  rw [isDigit, decide_eq_true_iff]
  exact Iff.rfl

theorem is_digit_digit_char (small : digit < 10) : isDigit (digitChar digit) = true := by
  rw [is_digit_iff, digit_char_nat small]
  omega

@[simp]
theorem pad_length (width n : Nat) : (pad width n).length = width := by
  induction width generalizing n with
  | zero => rfl
  | succ width ih => rw [pad, length_append, ih, length_singleton]

theorem pad_digits (mem : char ∈ pad width n) : isDigit char = true := by
  induction width generalizing n with
  | zero => cases mem
  | succ width ih =>
    rcases mem_append.mp mem with front | last
    · exact ih front
    · rw [mem_singleton.mp last]
      exact is_digit_digit_char (Nat.mod_lt n (by omega))

theorem digits_value_append (front : List Char) (char : Char) :
    digitsValue (front ++ [char]) = digitsValue front * 10 + digitValue char := by
  rw [digitsValue, foldl_append]
  rfl

theorem digits_value_pad (fits : n < 10 ^ width) : digitsValue (pad width n) = n := by
  induction width generalizing n with
  | zero =>
    obtain rfl : n = 0 := by omega
    rfl
  | succ width ih =>
    have shorter : n / 10 < 10 ^ width := by
      exact Nat.div_lt_of_lt_mul (by rwa [mul_comm])
    rw [pad, digits_value_append, ih shorter, digit_value_char (Nat.mod_lt n (by omega))]
    omega

theorem pad_inj (fits : n < 10 ^ width) (fitsOther : m < 10 ^ width) :
    pad width n = pad width m ↔ n = m := by
  constructor
  · intro same
    rw [← digits_value_pad fits, same, digits_value_pad fitsOther]
  · exact congrArg _

theorem pad_lt_iff (fits : n < 10 ^ width) (fitsOther : m < 10 ^ width) :
    pad width n < pad width m ↔ n < m := by
  induction width generalizing n m with
  | zero =>
    have notLess : ¬n < m := by omega
    simp [pad, notLess]
  | succ width ih =>
    have shorter : n / 10 < 10 ^ width := by
      exact Nat.div_lt_of_lt_mul (by rwa [mul_comm])
    have shorterOther : m / 10 < 10 ^ width := by
      exact Nat.div_lt_of_lt_mul (by rwa [mul_comm])
    rw [pad, pad, append_lt_append_iff (by simp), ih shorter shorterOther, pad_inj shorter
      shorterOther, cons_lt_cons_iff, digit_char_lt_iff (Nat.mod_lt n (by omega)) (Nat.mod_lt m
      (by omega)), div_mod_lt_iff (n := n) (m := m) (by omega : 0 < 10)]
    simp

theorem append_int_pad (positive : 0 < width) (fits : n < 10 ^ width) :
    appendInt width n = pad width n := by
  have short : Nat.log 10 n < width := Nat.log_lt_of_lt_pow' (by omega) fits
  rw [appendInt, max_eq_left (by omega)]

theorem append_int_digits (mem : char ∈ appendInt width n) : isDigit char = true :=
  pad_digits mem

theorem digits_value_append_int : digitsValue (appendInt width n) = n := by
  apply digits_value_pad
  exact (Nat.lt_pow_succ_log_self (by omega) n).trans_le
    (Nat.pow_le_pow_right (by omega) (le_max_right _ _))

theorem append_int_longer (long : 10 ^ width ≤ n) : width < (appendInt width n).length := by
  have log : width ≤ Nat.log 10 n := by
    apply Nat.le_log_of_pow_le (by omega) long
  rw [appendInt, pad_length]
  omega

end

def record : List (Nat × List Char) → List Nat → List Char
  | (width, separator) :: fields, value :: values =>
    pad width value ++ (separator ++ record fields values)
  | _, _ => []

def Fits (fields : List (Nat × List Char)) (values : List Nat) : Prop :=
  List.Forall₂ (fun field value => value < 10 ^ field.1) fields values

theorem record_lt_iff {fields : List (Nat × List Char)} {values others : List Nat}
    {tail otherTail : List Char} (fits : Fits fields values) (fitsOther : Fits fields others) :
    record fields values ++ tail < record fields others ++ otherTail ↔
    values < others ∨ values = others ∧ tail < otherTail := by
  induction fits generalizing others with
  | nil =>
    cases fitsOther
    simp [record]
  | @cons field value fields values fit _ ih =>
    cases fitsOther with
    | @cons _ other _ others fitOther fitsOther =>
      have separated : ∀ first second : List Char,
          field.2 ++ first < field.2 ++ second ↔ first < second := by
        intro first second
        rw [append_lt_append_iff rfl]
        simp
      simp only [record, append_assoc]
      rw [append_lt_append_iff (by rw [pad_length, pad_length]), pad_lt_iff fit fitOther, pad_inj
        fit fitOther, separated, ih fitsOther, cons_lt_cons_iff, cons.injEq]
      tauto

end RuneTerminal.Kit
