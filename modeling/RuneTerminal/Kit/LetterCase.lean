import Mathlib.Data.List.Basic

/-! The simple upper letters of Unicode 15.0, and two ways to compare letters without regard to
case: by characters along the simple folding, and by UTF-16 units, each with its upper unit as far
as that is one unit and does not turn into ASCII. -/

namespace RuneTerminal.Kit.LetterCase

open List Bool

/-- Every `step`-th character from `first` to `last` has an upper letter, at the same distance
from `image`. -/
structure CaseRange where
  first : Nat
  last : Nat
  step : Nat
  image : Nat

def CaseRange.upper? (range : CaseRange) (c : Nat) : Option Nat :=
  if range.first ≤ c ∧ c ≤ range.last ∧ (c - range.first) % range.step = 0 then
    some (range.image + (c - range.first))
  else none

def caseRanges : List CaseRange :=
  [
    ⟨0x61, 0x7a, 1, 0x41⟩, ⟨0xe0, 0xf6, 1, 0xc0⟩, ⟨0xf8, 0xfe, 1, 0xd8⟩, ⟨0x101, 0x12f, 2, 0x100⟩,
    ⟨0x133, 0x137, 2, 0x132⟩, ⟨0x13a, 0x148, 2, 0x139⟩, ⟨0x14b, 0x177, 2, 0x14a⟩,
    ⟨0x17a, 0x17e, 2, 0x179⟩, ⟨0x183, 0x185, 2, 0x182⟩, ⟨0x1a1, 0x1a5, 2, 0x1a0⟩,
    ⟨0x1b4, 0x1b6, 2, 0x1b3⟩, ⟨0x1ce, 0x1dc, 2, 0x1cd⟩, ⟨0x1df, 0x1ef, 2, 0x1de⟩,
    ⟨0x1f9, 0x21f, 2, 0x1f8⟩, ⟨0x223, 0x233, 2, 0x222⟩, ⟨0x23f, 0x240, 1, 0x2c7e⟩,
    ⟨0x247, 0x24f, 2, 0x246⟩, ⟨0x256, 0x257, 1, 0x189⟩, ⟨0x28a, 0x28b, 1, 0x1b1⟩,
    ⟨0x371, 0x373, 2, 0x370⟩, ⟨0x37b, 0x37d, 1, 0x3fd⟩, ⟨0x3ad, 0x3af, 1, 0x388⟩,
    ⟨0x3b1, 0x3c1, 1, 0x391⟩, ⟨0x3c3, 0x3cb, 1, 0x3a3⟩, ⟨0x3cd, 0x3ce, 1, 0x38e⟩,
    ⟨0x3d9, 0x3ef, 2, 0x3d8⟩, ⟨0x430, 0x44f, 1, 0x410⟩, ⟨0x450, 0x45f, 1, 0x400⟩,
    ⟨0x461, 0x481, 2, 0x460⟩, ⟨0x48b, 0x4bf, 2, 0x48a⟩, ⟨0x4c2, 0x4ce, 2, 0x4c1⟩,
    ⟨0x4d1, 0x52f, 2, 0x4d0⟩, ⟨0x561, 0x586, 1, 0x531⟩, ⟨0x10d0, 0x10fa, 1, 0x1c90⟩,
    ⟨0x10fd, 0x10ff, 1, 0x1cbd⟩, ⟨0x13f8, 0x13fd, 1, 0x13f0⟩, ⟨0x1c83, 0x1c84, 1, 0x421⟩,
    ⟨0x1e01, 0x1e95, 2, 0x1e00⟩, ⟨0x1ea1, 0x1eff, 2, 0x1ea0⟩, ⟨0x1f00, 0x1f07, 1, 0x1f08⟩,
    ⟨0x1f10, 0x1f15, 1, 0x1f18⟩, ⟨0x1f20, 0x1f27, 1, 0x1f28⟩, ⟨0x1f30, 0x1f37, 1, 0x1f38⟩,
    ⟨0x1f40, 0x1f45, 1, 0x1f48⟩, ⟨0x1f51, 0x1f57, 2, 0x1f59⟩, ⟨0x1f60, 0x1f67, 1, 0x1f68⟩,
    ⟨0x1f70, 0x1f71, 1, 0x1fba⟩, ⟨0x1f72, 0x1f75, 1, 0x1fc8⟩, ⟨0x1f76, 0x1f77, 1, 0x1fda⟩,
    ⟨0x1f78, 0x1f79, 1, 0x1ff8⟩, ⟨0x1f7a, 0x1f7b, 1, 0x1fea⟩, ⟨0x1f7c, 0x1f7d, 1, 0x1ffa⟩,
    ⟨0x1f80, 0x1f87, 1, 0x1f88⟩, ⟨0x1f90, 0x1f97, 1, 0x1f98⟩, ⟨0x1fa0, 0x1fa7, 1, 0x1fa8⟩,
    ⟨0x1fb0, 0x1fb1, 1, 0x1fb8⟩, ⟨0x1fd0, 0x1fd1, 1, 0x1fd8⟩, ⟨0x1fe0, 0x1fe1, 1, 0x1fe8⟩,
    ⟨0x2170, 0x217f, 1, 0x2160⟩, ⟨0x24d0, 0x24e9, 1, 0x24b6⟩, ⟨0x2c30, 0x2c5f, 1, 0x2c00⟩,
    ⟨0x2c68, 0x2c6c, 2, 0x2c67⟩, ⟨0x2c81, 0x2ce3, 2, 0x2c80⟩, ⟨0x2cec, 0x2cee, 2, 0x2ceb⟩,
    ⟨0x2d00, 0x2d25, 1, 0x10a0⟩, ⟨0xa641, 0xa66d, 2, 0xa640⟩, ⟨0xa681, 0xa69b, 2, 0xa680⟩,
    ⟨0xa723, 0xa72f, 2, 0xa722⟩, ⟨0xa733, 0xa76f, 2, 0xa732⟩, ⟨0xa77a, 0xa77c, 2, 0xa779⟩,
    ⟨0xa77f, 0xa787, 2, 0xa77e⟩, ⟨0xa791, 0xa793, 2, 0xa790⟩, ⟨0xa797, 0xa7a9, 2, 0xa796⟩,
    ⟨0xa7b5, 0xa7c3, 2, 0xa7b4⟩, ⟨0xa7c8, 0xa7ca, 2, 0xa7c7⟩, ⟨0xa7d7, 0xa7d9, 2, 0xa7d6⟩,
    ⟨0xab70, 0xabbf, 1, 0x13a0⟩, ⟨0xff41, 0xff5a, 1, 0xff21⟩, ⟨0x10428, 0x1044f, 1, 0x10400⟩,
    ⟨0x104d8, 0x104fb, 1, 0x104b0⟩, ⟨0x10597, 0x105bb, 2, 0x10570⟩, ⟨0x10598, 0x105a0, 2, 0x10571⟩,
    ⟨0x105a4, 0x105b0, 2, 0x1057d⟩, ⟨0x105b4, 0x105b8, 2, 0x1058d⟩, ⟨0x10cc0, 0x10cf2, 1, 0x10c80⟩,
    ⟨0x118c0, 0x118df, 1, 0x118a0⟩, ⟨0x16e60, 0x16e7f, 1, 0x16e40⟩, ⟨0x1e922, 0x1e943, 1, 0x1e900⟩
  ]

/-- The letters that stand alone, with their upper letters. -/
def casePairs : List (Nat × Nat) :=
  [
    (0xb5, 0x39c), (0xff, 0x178), (0x131, 0x49), (0x17f, 0x53), (0x180, 0x243), (0x188, 0x187),
    (0x18c, 0x18b), (0x192, 0x191), (0x195, 0x1f6), (0x199, 0x198), (0x19a, 0x23d), (0x19e, 0x220),
    (0x1a8, 0x1a7), (0x1ad, 0x1ac), (0x1b0, 0x1af), (0x1b9, 0x1b8), (0x1bd, 0x1bc), (0x1bf, 0x1f7),
    (0x1c5, 0x1c4), (0x1c6, 0x1c4), (0x1c8, 0x1c7), (0x1c9, 0x1c7), (0x1cb, 0x1ca), (0x1cc, 0x1ca),
    (0x1dd, 0x18e), (0x1f2, 0x1f1), (0x1f3, 0x1f1), (0x1f5, 0x1f4), (0x23c, 0x23b), (0x242, 0x241),
    (0x250, 0x2c6f), (0x251, 0x2c6d), (0x252, 0x2c70), (0x253, 0x181), (0x254, 0x186),
    (0x259, 0x18f), (0x25b, 0x190), (0x25c, 0xa7ab), (0x260, 0x193), (0x261, 0xa7ac),
    (0x263, 0x194), (0x265, 0xa78d), (0x266, 0xa7aa), (0x268, 0x197), (0x269, 0x196),
    (0x26a, 0xa7ae), (0x26b, 0x2c62), (0x26c, 0xa7ad), (0x26f, 0x19c), (0x271, 0x2c6e),
    (0x272, 0x19d), (0x275, 0x19f), (0x27d, 0x2c64), (0x280, 0x1a6), (0x282, 0xa7c5),
    (0x283, 0x1a9), (0x287, 0xa7b1), (0x288, 0x1ae), (0x289, 0x244), (0x28c, 0x245), (0x292, 0x1b7),
    (0x29d, 0xa7b2), (0x29e, 0xa7b0), (0x345, 0x399), (0x377, 0x376), (0x3ac, 0x386),
    (0x3c2, 0x3a3), (0x3cc, 0x38c), (0x3d0, 0x392), (0x3d1, 0x398), (0x3d5, 0x3a6), (0x3d6, 0x3a0),
    (0x3d7, 0x3cf), (0x3f0, 0x39a), (0x3f1, 0x3a1), (0x3f2, 0x3f9), (0x3f3, 0x37f), (0x3f5, 0x395),
    (0x3f8, 0x3f7), (0x3fb, 0x3fa), (0x4cf, 0x4c0), (0x1c80, 0x412), (0x1c81, 0x414),
    (0x1c82, 0x41e), (0x1c85, 0x422), (0x1c86, 0x42a), (0x1c87, 0x462), (0x1c88, 0xa64a),
    (0x1d79, 0xa77d), (0x1d7d, 0x2c63), (0x1d8e, 0xa7c6), (0x1e9b, 0x1e60), (0x1fb3, 0x1fbc),
    (0x1fbe, 0x399), (0x1fc3, 0x1fcc), (0x1fe5, 0x1fec), (0x1ff3, 0x1ffc), (0x214e, 0x2132),
    (0x2184, 0x2183), (0x2c61, 0x2c60), (0x2c65, 0x23a), (0x2c66, 0x23e), (0x2c73, 0x2c72),
    (0x2c76, 0x2c75), (0x2cf3, 0x2cf2), (0x2d27, 0x10c7), (0x2d2d, 0x10cd), (0xa78c, 0xa78b),
    (0xa794, 0xa7c4), (0xa7d1, 0xa7d0), (0xa7f6, 0xa7f5), (0xab53, 0xa7b3), (0x105bc, 0x10595)
  ]

def upperRanges : List CaseRange :=
  caseRanges ++ casePairs.map fun (c, image) => ⟨c, c, 1, image⟩

def toUpper (c : Nat) : Nat := (upperRanges.findSome? (·.upper? c)).getD c

/-- The small letters with an iota below, or next to it: in full, their upper letters are two. -/
def hasIota (c : Nat) : Bool :=
  decide (0x1f80 ≤ c ∧ c < 0x1fb0) || c == 0x1fb3 || c == 0x1fc3 || c == 0x1ff3

/-- What an expression for UTF-16 units with the flag `i` compares. -/
def canonicalize (unit : Nat) : Nat :=
  if hasIota unit then unit
  else if 0x80 ≤ unit ∧ toUpper unit < 0x80 then unit
  else toUpper unit

/-- The upper letter stands for the letters with one folding, apart from these. -/
def foldExceptions : List (Nat × Nat) :=
  [(0x131, 0x131), (0x3f4, 0x398), (0x1e9e, 0xdf), (0x2126, 0x3a9), (0x212a, 0x4b),
    (0x212b, 0xc5)]

def foldCode (c : Nat) : Nat := (foldExceptions.lookup c).getD (toUpper c)

/-- What an expression for characters with the flag `i` compares. -/
def simpleFold (c : Char) : Char := Char.ofNat (foldCode c.val.toNat)

/-- Neither a surrogate nor the end of a line. -/
def isPlainCode (c : Nat) : Bool :=
  decide (c < 0xd800 ∨ 0xdfff < c) && c != 0xa && c != 0xd && c != 0x2028 && c != 0x2029

def CaseRange.isPlain (range : CaseRange) : Bool :=
  let avoids (first last : Nat) : Bool :=
    decide ((last < 0xd800 ∨ 0xdfff < first) ∧ (last < 0xa ∨ 0xd < first) ∧
      (last < 0x2028 ∨ 0x2029 < first) ∧ last < 0x110000)
  avoids range.first range.last && avoids range.image (range.image + (range.last - range.first))

theorem upper_ranges_plain : upperRanges.all CaseRange.isPlain = true := by decide +kernel

theorem to_upper_cases (c : Nat) : toUpper c = c ∨ ∃ range ∈ upperRanges,
    range.first ≤ c ∧ c ≤ range.last ∧ toUpper c = range.image + (c - range.first) := by
  unfold toUpper
  cases found : upperRanges.findSome? (·.upper? c) with
  | none => exact .inl rfl
  | some image =>
    obtain ⟨range, mem, isImage⟩ := exists_of_findSome?_eq_some found
    unfold CaseRange.upper? at isImage
    split_ifs at isImage with within
    exact .inr ⟨range, mem, within.1, within.2.1, (Option.some.inj isImage).symm⟩

theorem to_upper_plain (c : Nat) : toUpper c = c ∨
    (isPlainCode c = true ∧ isPlainCode (toUpper c) = true ∧ toUpper c < 0x110000) := by
  rcases to_upper_cases c with same | ⟨range, mem, first, last, image⟩
  · exact .inl same
  have plain := all_eq_true.mp upper_ranges_plain range mem
  simp only [CaseRange.isPlain, and_eq_true, decide_eq_true_iff] at plain
  simp only [isPlainCode, and_eq_true, decide_eq_true_iff, bne_iff_ne]
  omega

theorem canonicalize_cases (unit : Nat) :
    canonicalize unit = unit ∨ canonicalize unit = toUpper unit := by
  unfold canonicalize
  split_ifs
  · exact .inl rfl
  · exact .inl rfl
  · exact .inr rfl

theorem canonicalize_plain (unit : Nat) : canonicalize unit = unit ∨
    (isPlainCode unit = true ∧ isPlainCode (canonicalize unit) = true) := by
  rcases canonicalize_cases unit with same | upper
  · exact .inl same
  rcases to_upper_plain unit with same | ⟨plain, image, _⟩
  · exact .inl (upper.trans same)
  · rw [upper]
    exact .inr ⟨plain, image⟩

/-- The letters that the two ways compare in their own ways. -/
def isOddLetter (c : Nat) : Bool :=
  hasIota c || c == 0x17f || (foldExceptions.lookup c).isSome

def CaseRange.isOdd (range : CaseRange) : Bool :=
  decide (range.last < 0x80 ∨ 0x80 ≤ range.image ∨
    (range.first = range.last ∧ isOddLetter range.first = true))

theorem upper_ranges_odd : upperRanges.all CaseRange.isOdd = true := by decide +kernel

theorem canonicalize_eq_fold {c : Nat} (plain : isOddLetter c = false) :
    canonicalize c = foldCode c := by
  have unexceptional : foldExceptions.lookup c = none := by
    simpa using (or_eq_false_iff.mp plain).2
  have noIota : hasIota c = false := (or_eq_false_iff.mp (or_eq_false_iff.mp plain).1).1
  rw [foldCode, unexceptional, canonicalize, noIota, if_neg Bool.false_ne_true, Option.getD_none]
  apply if_neg
  rintro ⟨large, small⟩
  rcases to_upper_cases c with same | ⟨range, mem, first, last, image⟩
  · omega
  have odd := all_eq_true.mp upper_ranges_odd range mem
  simp only [CaseRange.isOdd, decide_eq_true_iff] at odd
  rcases odd with ascii | beyond | ⟨single, odd⟩
  · omega
  · omega
  · have isFirst : range.first = c := by omega
    rw [isFirst, plain] at odd
    cases odd

theorem fold_code_valid {c : Nat} (valid : c.isValidChar) : (foldCode c).isValidChar := by
  unfold foldCode
  cases found : foldExceptions.lookup c with
  | none =>
    rcases to_upper_plain c with same | ⟨_, plain, bound⟩
    · rw [Option.getD_none, same]
      exact valid
    · simp only [isPlainCode, and_eq_true, decide_eq_true_iff] at plain
      unfold Nat.isValidChar
      rw [Option.getD_none]
      omega
  | some image =>
    have all : foldExceptions.all (fun pair => decide pair.2.isValidChar) = true := by decide
    obtain ⟨before, after, split, _⟩ := lookup_eq_some_iff.mp found
    have mem : (c, image) ∈ foldExceptions := by simp [split]
    exact of_decide_eq_true (all_eq_true.mp all _ mem)

theorem simple_fold_eq_iff {letter c : Char} :
    simpleFold letter = simpleFold c ↔ foldCode letter.val.toNat = foldCode c.val.toNat := by
  have read (c : Char) : (simpleFold c).val.toNat = foldCode c.val.toNat := by
    rw [simpleFold, Char.ofNat, dif_pos (fold_code_valid c.valid)]
    rfl
  constructor
  · intro same
    rw [← read, ← read, same]
  · intro same
    rw [simpleFold, same, simpleFold]

end RuneTerminal.Kit.LetterCase
