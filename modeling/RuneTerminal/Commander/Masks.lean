import RuneTerminal.Commander.PaneInvariant
import RuneTerminal.Files.RemoteListing
import RuneTerminal.Kit.LetterCase

/-! A pane filters names by an expression for UTF-16 units, the backend by one for characters. Both
keep the names that the mask matches, unless a wildcard meets a line end or a character of two
units, or they compare white space or the case of letters in their own ways. -/

namespace RuneTerminal.Commander

open Files Go Go.Regexp Kit Kit.Glob Kit.LetterCase List Utf8

/-- The wildcards stand for any characters, and letter case does not count. -/
def MatchesName (pattern : List (Wild Char)) (name : List Char) : Prop :=
  Matches (fun _ => True) (fun letter c => simpleFold letter = simpleFold c) pattern name

/-- A mask without patterns keeps all names. Any other one keeps those that one of the
patterns matches. -/
def Keeps (mask : String) (name : List Char) : Prop :=
  queryPatterns mask = [] ∨ ∃ pattern ∈ queryPatterns mask, MatchesName pattern name

/-- Both sides keep a name if the mask does. -/
structure MasksAgree (locale : Locale) (mask : String) (name : List UInt8) : Prop where
  backend : ∃ matchers, compileFSListQueryMatchers mask = some matchers ∧
    (matchesFSListQuery simpleFold name matchers = true ↔ Keeps mask (Utf8.decode name))
  frontend : ∀ (entries : List CommanderDirectoryEntry), ∀ entry ∈ entries,
    entry.name = String.ofList (Utf8.decode name) →
    (entry ∈ getCommanderMatchedEntries { locale with canonicalize := canonicalize } entries
      mask true ↔ Keeps mask (Utf8.decode name))

def sameSpaces (mask : String) : Bool :=
  mask.toList.all fun c => isSpace c == Strings.isSpace c

def unitsOf (c : Char) : List Nat := codeUnits [c]

def comparedAlike (letter c : Char) : Bool :=
  ((unitsOf letter).map canonicalize == (unitsOf c).map canonicalize) ==
    (simpleFold letter == simpleFold c)

def isLineEnd (c : Char) : Bool := isLineTerminator c.val.toNat

def isShort (c : Char) : Bool := c.val.toNat < 0x10000

/-- Wherever the pattern leads, `?` meets a character of one unit, and a letter one that both sides
compare alike with it. -/
def readAlike (pattern : List (Wild Char)) (name : List Char) : Bool :=
  steady isShort comparedAlike (fun letter c => simpleFold letter == simpleFold c) pattern name

/-- White space is the same on both sides of the mask, and either no pattern is to match a name with
a line end, or there is none and all patterns are read alike, or one that matches. -/
def KeptAlike (mask : String) (name : List Char) : Prop :=
  sameSpaces mask = true ∧
    (if name.any isLineEnd then
      queryPatterns mask = [] ∨ ∀ pattern ∈ queryPatterns mask, ¬MatchesName pattern name
    else
      (∀ pattern ∈ queryPatterns mask, readAlike pattern name = true) ∨
        ∃ pattern ∈ queryPatterns mask,
          readAlike pattern name = true ∧ MatchesName pattern name)

def isPlainLetter (c : Char) : Bool := isShort c && !isOddLetter c.val.toNat

def isSurrogate (unit : Nat) : Bool := 0xd800 ≤ unit && unit < 0xe000

/-- How units are compared without regard to case: a surrogate is the same as itself only,
and so is the end of a line. -/
structure UnitCase (canonicalize : Nat → Nat) : Prop where
  surrogate : ∀ unit, isSurrogate unit = true → canonicalize unit = unit
  other : ∀ unit, isSurrogate unit = false → isSurrogate (canonicalize unit) = false
  line : ∀ unit ending, isLineTerminator ending = true → canonicalize unit = canonicalize ending →
    unit = ending

theorem canonicalize_unit_case : UnitCase canonicalize := by
  constructor
  · intro unit surrogate
    rcases canonicalize_plain unit with same | ⟨plain, _⟩
    · exact same
    simp only [isSurrogate, isPlainCode, Bool.and_eq_true, decide_eq_true_iff] at surrogate plain
    omega
  · intro unit other
    rcases canonicalize_plain unit with same | ⟨_, plain⟩
    · rwa [same]
    simp only [isSurrogate, isPlainCode, Bool.and_eq_true, decide_eq_true_iff] at plain ⊢
    rw [Bool.and_eq_false_iff, decide_eq_false_iff_not, decide_eq_false_iff_not]
    omega
  intro unit ending isEnding same
  have odd : isPlainCode ending = false := by
    simp only [isLineTerminator, Bool.or_eq_true, beq_iff_eq] at isEnding
    rcases isEnding with ((rfl | rfl) | rfl) | rfl <;> rfl
  have endingStays : canonicalize ending = ending := by
    rcases canonicalize_plain ending with stays | ⟨plain, _⟩
    · exact stays
    · rw [odd] at plain
      cases plain
  rw [endingStays] at same
  rcases canonicalize_plain unit with stays | ⟨_, plain⟩
  · exact stays.symm.trans same
  · rw [same, odd] at plain
    cases plain

variable {c : Char}

section

theorem code_units_eq_flat_map (text : List Char) : codeUnits text = text.flatMap unitsOf := by
  unfold unitsOf codeUnits
  simp

theorem units_of_cases (c : Char) :
    (isShort c = true ∧ unitsOf c = [c.val.toNat] ∧ isSurrogate c.val.toNat = false) ∨
    (isShort c = false ∧ ∃ high low, unitsOf c = [high, low] ∧
      0xd800 ≤ high ∧ high < 0xdc00 ∧ 0xdc00 ≤ low ∧ low < 0xe000) := by
  have valid : c.val.toNat < 0xd800 ∨ (0xdfff < c.val.toNat ∧ c.val.toNat < 0x110000) := c.valid
  by_cases short : c.val.toNat < 0x10000
  · apply Or.inl
    refine ⟨decide_eq_true short, ?_, ?_⟩
    · unfold unitsOf codeUnits
      rw [flatMap_cons]
      rw [if_pos short]
      rfl
    · simp only [isSurrogate, Bool.and_eq_false_iff, decide_eq_false_iff_not]
      omega
  apply Or.inr
  refine ⟨decide_eq_false short, 0xd800 + (c.val.toNat - 0x10000) / 0x400,
    0xdc00 + (c.val.toNat - 0x10000) % 0x400, ?_, ?_, ?_, ?_, ?_⟩
  · unfold unitsOf codeUnits
    rw [flatMap_cons]
    rw [if_neg short]
    rfl
  · omega
  · omega
  · omega
  · omega

theorem units_length_of_short (c : Char) (short : isShort c = true) : (unitsOf c).length = 1 := by
  rcases units_of_cases c with ⟨_, units, _⟩ | ⟨long, _⟩
  · rw [units]
    rfl
  · rw [short] at long
    cases long

variable {canonicalize : Nat → Nat}

theorem first_not_low (caseless : UnitCase canonicalize) {first low : Nat}
    (isFirst : isSurrogate first = false ∨ first < 0xdc00) (isLow : 0xdc00 ≤ low)
    (bound : low < 0xe000) : canonicalize first ≠ canonicalize low := by
  have lowSurrogate : isSurrogate low = true := by
    simp only [isSurrogate, Bool.and_eq_true, decide_eq_true_iff]
    omega
  intro same
  rw [caseless.surrogate low lowSurrogate] at same
  cases isOther : isSurrogate first with
  | false =>
    have other := caseless.other first isOther
    rw [same, lowSurrogate] at other
    cases other
  | true =>
    rw [caseless.surrogate first isOther] at same
    rcases isFirst with notSurrogate | small
    · rw [isOther] at notSurrogate
      cases notSurrogate
    · omega

theorem units_synchronized (caseless : UnitCase canonicalize) :
    SelfSynchronizing unitsOf fun unit other => canonicalize unit = canonicalize other := by
  constructor
  · intro c
    rcases units_of_cases c with ⟨_, units, _⟩ | ⟨_, high, low, units, _⟩
    · rw [units]
      exact cons_ne_nil _ _
    · rw [units]
      exact cons_ne_nil _ _
  · intro left right first first' others others' leftUnits rightUnits same
    have separate {unit high : Nat} (plain : isSurrogate unit = false) (lower : 0xd800 ≤ high)
        (upper : high < 0xdc00) : canonicalize unit ≠ canonicalize high := by
      have highSurrogate : isSurrogate high = true := by
        simp only [isSurrogate, Bool.and_eq_true, decide_eq_true_iff]
        omega
      intro same
      have other := caseless.other unit plain
      rw [same, caseless.surrogate high highSurrogate, highSurrogate] at other
      cases other
    rcases units_of_cases left with ⟨_, units, plain⟩ | ⟨_, high, low, units, lower, upper, _⟩
    · rw [units] at leftUnits
      cases leftUnits
      rcases units_of_cases right with ⟨_, units', _⟩ | ⟨_, high, low, units', lower, upper, _⟩
      · rw [units'] at rightUnits
        cases rightUnits
        rfl
      · rw [units'] at rightUnits
        cases rightUnits
        exact absurd same (separate plain lower upper)
    · rw [units] at leftUnits
      cases leftUnits
      rcases units_of_cases right with ⟨_, units', plain⟩ | ⟨_, high', low', units', _⟩
      · rw [units'] at rightUnits
        cases rightUnits
        exact absurd same.symm (separate plain lower upper)
      · rw [units'] at rightUnits
        cases rightUnits
        rfl
  · intro left right first others leftUnits unit inside
    have isFirst : isSurrogate first = false ∨ first < 0xdc00 := by
      rcases units_of_cases left with ⟨_, units, plain⟩ | ⟨_, high, low, units, _, upper, _⟩
      · rw [units] at leftUnits
        cases leftUnits
        exact .inl plain
      · rw [units] at leftUnits
        cases leftUnits
        exact .inr upper
    rcases units_of_cases right with ⟨_, units, _⟩ | ⟨_, high, low, units, _, _, isLow, bound⟩
    · rw [units] at inside
      cases inside
    · rw [units, tail_cons, mem_singleton] at inside
      rw [inside]
      exact first_not_low caseless isFirst isLow bound

theorem units_end_no_line (inLine : isLineEnd c = false) {unit : Nat} (mem : unit ∈ unitsOf c) :
    isLineTerminator unit = false := by
  rcases units_of_cases c with ⟨_, units, _⟩ | ⟨_, high, low, units, lower, upper, isLow, bound⟩
  · rw [units, mem_singleton] at mem
    rw [mem]
    exact inLine
  · rw [units, mem_cons, mem_singleton] at mem
    simp only [isLineTerminator, Bool.or_eq_false_iff, beq_eq_false_iff_ne]
    omega

theorem read_units (c : Char) :
    (unitsOf c).map (Wild.read 0x2a 0x3f) = (Wild.read '*' '?' c).spell unitsOf := by
  by_cases isMany : c = '*'
  · rw [isMany]
    rfl
  by_cases isOne : c = '?'
  · rw [isOne]
    rfl
  have noWild : ∀ unit ∈ unitsOf c, Wild.read 0x2a 0x3f unit = .symbol unit := by
    intro unit mem
    have ne : unit ≠ 0x2a ∧ unit ≠ 0x3f := by
      rcases units_of_cases c with ⟨_, units, _⟩ | ⟨_, high, low, units, _⟩
      · rw [units, mem_singleton] at mem
        rw [mem]
        constructor
        · intro same
          exact isMany (Char.ext (UInt32.toNat_inj.mp same))
        · intro same
          exact isOne (Char.ext (UInt32.toNat_inj.mp same))
      · rw [units, mem_cons, mem_singleton] at mem
        omega
    rw [Wild.read, if_neg ne.1, if_neg ne.2]
  rw [Wild.read, if_neg isMany, if_neg isOne]
  exact map_congr_left noWild

theorem read_code_units (pattern : List Char) : (codeUnits pattern).map (Wild.read 0x2a 0x3f) =
    (pattern.map (Wild.read '*' '?')).flatMap (Wild.spell unitsOf) := by
  rw [code_units_eq_flat_map]
  induction pattern with
  | nil => rfl
  | cons c pattern ih =>
    rw [flatMap_cons, map_append, ih, read_units, map_cons, flatMap_cons]

theorem test_pattern_iff (locale : Locale) (pattern text : List Nat) :
    testPattern locale pattern text = true ↔
      Matches (fun unit => isLineTerminator unit = false)
        (fun unit other => locale.canonicalize unit = locale.canonicalize other)
        (pattern.map (Wild.read 0x2a 0x3f)) text := by
  induction pattern generalizing text with
  | nil => rw [List.map_nil, testPattern, List.isEmpty_iff, matches_nil_iff]
  | cons unit pattern ih =>
    rw [map_cons, Wild.read]
    by_cases isMany : unit = 0x2a
    · unfold testPattern
      rw [if_pos isMany, if_pos isMany, matches_many_iff]
      simp only [any_eq_true, mem_range, Bool.and_eq_true, all_eq_true,
        Bool.not_eq_true', ih, Nat.lt_succ_iff]
    unfold testPattern
    rw [if_neg isMany]
    cases text with
    | nil =>
      split_ifs
      · constructor
        · intro matched
          cases matched
        · intro matched
          cases matched
      · constructor
        · intro matched
          cases matched
        · intro matched
          cases matched
    | cons first others =>
      rw [Bool.and_eq_true, ih]
      split_ifs with isOne
      · rw [matches_one_cons_iff, Bool.not_eq_true']
      · rw [matches_symbol_cons_iff, beq_iff_eq]

end

section

variable {locale : Locale} {mask : String} {pattern : List (Wild Char)} {letter : Char}
  {name : List Char}

theorem patterns_split_alike (spaces : sameSpaces mask = true) :
    (splitCommanderMaskPatterns mask).map (·.map (Wild.read '*' '?')) = queryPatterns mask := by
  have split : mask.toList.splitOnP (fun c => c == ';' || c == ',' || isSpace c) =
      mask.toList.splitOnP separatesPatterns := by
    apply split_congr
    intro c mem
    have same := all_eq_true.mp spaces c mem
    rw [separatesPatterns, eq_of_beq same]
  rw [splitCommanderMaskPatterns, split]
  rfl

theorem symbol_of_mask (mem : pattern ∈ queryPatterns mask) (symbol : .symbol letter ∈ pattern) :
    letter ∈ mask.toList ∧ separatesPatterns letter = false := by
  rcases mem_map.mp mem with ⟨field, isField, rfl⟩
  rcases mem_map.mp symbol with ⟨c, inside, read⟩
  rcases of_mem_split (mem_filter.mp isField).1 inside with ⟨inMask, noSeparator⟩
  rw [Wild.read] at read
  split_ifs at read with isMany isOne
  obtain rfl := Wild.symbol.inj read
  exact ⟨inMask, noSeparator⟩

/-- What the expression of a pattern matches on the side of the pane. -/
def MatchesUnits (pattern : List (Wild Char)) (name : List Char) : Prop :=
  Matches (fun unit => isLineTerminator unit = false)
    (fun unit other => canonicalize unit = canonicalize other)
    (pattern.flatMap (Wild.spell unitsOf)) (name.flatMap unitsOf)

theorem matches_mask_iff (spaces : sameSpaces mask = true) (name : List Char) :
    matchesMask { locale with canonicalize := canonicalize } mask (String.ofList name) = true ↔
      queryPatterns mask = [] ∨ ∃ pattern ∈ queryPatterns mask, MatchesUnits pattern name := by
  rw [← patterns_split_alike spaces, matchesMask, Bool.or_eq_true_iff, decide_eq_true_iff,
    map_eq_nil_iff, any_eq_true, String.toList_ofList]
  simp only [test_pattern_iff, read_code_units, code_units_eq_flat_map name, mem_map,
    exists_exists_and_eq_and, MatchesUnits]

theorem same_units_iff (letter c : Char) :
    SameUnits unitsOf (fun unit other => canonicalize unit = canonicalize other) letter c ↔
      (unitsOf letter).map canonicalize = (unitsOf c).map canonicalize := by
  rw [← forall₂_eq_eq_eq, forall₂_map_left_iff, forall₂_map_right_iff]
  rfl

theorem pane_reads_pattern (inLine : ∀ c ∈ name, isLineEnd c = false)
    (alike : readAlike pattern name = true) :
    MatchesUnits pattern name ↔ MatchesName pattern name := by
  have free : ∀ unit ∈ name.flatMap unitsOf, isLineTerminator unit = false := by
    intro unit inside
    rcases mem_flatMap.mp inside with ⟨c, isChar, inChar⟩
    exact units_end_no_line (inLine c isChar) inChar
  have compared : ∀ letter c, comparedAlike letter c = true →
      (SameUnits unitsOf (fun unit other => canonicalize unit = canonicalize other) letter c ↔
        (simpleFold letter == simpleFold c) = true) := by
    intro letter c alike
    rw [same_units_iff, ← beq_iff_eq, eq_of_beq alike]
  have readings := matches_units_iff units_length_of_short compared
    (units_synchronized canonicalize_unit_case) alike
  simp only [beq_iff_eq] at readings
  rw [MatchesName, ← readings]
  constructor
  · exact fun matched => matched.imp (fun _ _ _ => trivial) fun _ _ _ _ same => same
  · exact fun matched => matched.imp (fun unit inside _ => free unit inside)
      fun _ _ _ _ same => same

theorem pane_drops_line_end (isPattern : pattern ∈ queryPatterns mask) (mem : c ∈ name)
    (ending : isLineEnd c = true) : ¬MatchesUnits pattern name := by
  intro matched
  have code : c.val.toNat = 0xa ∨ c.val.toNat = 0xd ∨ c.val.toNat = 0x2028 ∨
      c.val.toNat = 0x2029 := by
    simpa only [isLineEnd, isLineTerminator, Bool.or_eq_true, beq_iff_eq, or_assoc] using ending
  have inside : c.val.toNat ∈ name.flatMap unitsOf := by
    apply mem_flatMap.mpr
    refine ⟨c, mem, ?_⟩
    rcases units_of_cases c with ⟨_, units, _⟩ | ⟨long, _⟩
    · rw [units]
      exact mem_cons_self
    · simp only [isShort, decide_eq_false_iff_not] at long
      omega
  rcases matched.stands inside with free | ⟨unit, isSymbol, same⟩
  · rw [isLineEnd, free] at ending
    cases ending
  obtain rfl := canonicalize_unit_case.line unit _ ending same
  -- A letter of a pattern is no white space, and the end of a line is.
  rcases mem_flatMap.mp isSymbol with ⟨part, isPart, spelled⟩
  cases part with
  | many | one => cases mem_singleton.mp spelled
  | symbol letter =>
    rcases mem_map.mp spelled with ⟨unit, isUnit, isCode⟩
    obtain rfl := Wild.symbol.inj isCode
    have isLetter : letter = c := by
      rcases units_of_cases letter with ⟨_, units, _⟩ | ⟨_, high, low, units, bounds⟩
      · rw [units, mem_singleton] at isUnit
        exact Char.ext (UInt32.toNat_inj.mp isUnit.symm)
      · rw [units, mem_cons, mem_singleton] at isUnit
        omega
    have noSeparator := (symbol_of_mask isPattern isPart).2
    rw [isLetter] at noSeparator
    have isChar : c = Char.ofNat c.val.toNat := (Char.ofNat_toNat c).symm
    rcases code with code | code | code | code <;>
    · rw [code] at isChar
      rw [isChar] at noSeparator
      exact absurd noSeparator (by decide)

section

variable {name : List UInt8}

theorem backend_keeps_iff :
    (∃ matchers, compileFSListQueryMatchers mask = some matchers ∧
      (matchesFSListQuery simpleFold name matchers = true ↔ Keeps mask (Utf8.decode name))) ↔
    ((queryPatterns mask = [] ∨
        ∃ pattern ∈ queryPatterns mask,
          Matches (· ≠ '\n') (fun letter c => simpleFold letter = simpleFold c) pattern
            (Utf8.decode name)) ↔
      Keeps mask (Utf8.decode name)) := by
  rw [← matches_query_iff simpleFold mask name (query_compiles mask), query_compiles]
  simp only [Option.some.injEq, exists_eq_left']

theorem pane_keeps_iff (spaces : sameSpaces mask = true) {entries : List CommanderDirectoryEntry}
    {entry : CommanderDirectoryEntry} (mem : entry ∈ entries)
    (named : entry.name = String.ofList (Utf8.decode name)) :
    entry ∈
      getCommanderMatchedEntries { locale with canonicalize := canonicalize } entries mask true ↔
    queryPatterns mask = [] ∨
      ∃ pattern ∈ queryPatterns mask, MatchesUnits pattern (Utf8.decode name) := by
  rw [matched_eq_filter, mem_filter, named, matches_mask_iff spaces, and_iff_right mem]

def rowOf (name : List Char) : CommanderDirectoryEntry where
  id := String.ofList name
  name := String.ofList name

theorem agree_with_line_end (spaces : sameSpaces mask = true) (mem : c ∈ Utf8.decode name)
    (ending : isLineEnd c = true) :
    MasksAgree locale mask name ↔ queryPatterns mask = [] ∨
      ∀ pattern ∈ queryPatterns mask, ¬MatchesName pattern (Utf8.decode name) := by
  have noneShown : ¬∃ pattern ∈ queryPatterns mask, MatchesUnits pattern (decode name) := by
    rintro ⟨pattern, isPattern, matched⟩
    exact pane_drops_line_end isPattern mem ending matched
  constructor
  · intro agree
    by_cases noPatterns : queryPatterns mask = []
    · exact .inl noPatterns
    have shown := (pane_keeps_iff spaces mem_cons_self rfl).symm.trans
      (agree.frontend [rowOf (decode name)] _ mem_cons_self rfl)
    apply Or.inr
    intro pattern isPattern matched
    exact (shown.mpr (.inr ⟨pattern, isPattern, matched⟩)).elim noPatterns noneShown
  intro none
  have keeps : Keeps mask (decode name) ↔ queryPatterns mask = [] := by
    refine ⟨?_, .inl⟩
    rintro (noPatterns | ⟨pattern, isPattern, matched⟩)
    · exact noPatterns
    · exact none.elim id fun unmatched => absurd matched (unmatched pattern isPattern)
  constructor
  · rw [backend_keeps_iff, keeps]
    refine ⟨?_, .inl⟩
    rintro (noPatterns | ⟨pattern, isPattern, matched⟩)
    · exact noPatterns
    have anything : MatchesName pattern (decode name) :=
      matched.imp (fun _ _ _ => trivial) fun _ _ _ _ same => same
    exact none.elim id fun unmatched => absurd anything (unmatched pattern isPattern)
  · intro entries entry isEntry named
    rw [pane_keeps_iff spaces isEntry named, keeps]
    exact or_iff_left noneShown

theorem agree_in_line (spaces : sameSpaces mask = true)
    (inLine : ∀ c ∈ Utf8.decode name, isLineEnd c = false)
    (alike : (∀ pattern ∈ queryPatterns mask, readAlike pattern (Utf8.decode name) = true) ∨
      ∃ pattern ∈ queryPatterns mask, readAlike pattern (Utf8.decode name) = true ∧
        MatchesName pattern (Utf8.decode name)) :
    MasksAgree locale mask name := by
  constructor
  · rw [backend_keeps_iff]
    apply or_congr Iff.rfl
    apply exists_congr
    intro pattern
    apply and_congr Iff.rfl
    constructor
    · exact fun matched => matched.imp (fun _ _ _ => trivial) fun _ _ _ _ same => same
    intro matched
    apply matched.imp _ fun _ _ _ _ same => same
    rintro c isChar _ rfl
    have noEnd := inLine _ isChar
    cases noEnd
  · intro entries entry isEntry named
    rw [pane_keeps_iff spaces isEntry named]
    apply or_congr Iff.rfl
    rcases alike with alike | ⟨pattern, isPattern, alike, matched⟩
    · apply exists_congr
      intro pattern
      apply and_congr_right
      intro isPattern
      exact pane_reads_pattern inLine (alike pattern isPattern)
    · exact iff_of_true ⟨pattern, isPattern, (pane_reads_pattern inLine alike).mpr matched⟩
        ⟨pattern, isPattern, matched⟩

theorem plain_compared_alike (plainLetter : isPlainLetter letter = true)
    (plain : isPlainLetter c = true) : comparedAlike letter c = true := by
  have compared (c : Char) (plain : isPlainLetter c = true) :
      (unitsOf c).map canonicalize = [foldCode c.val.toNat] := by
    rcases Bool.and_eq_true_iff.mp plain with ⟨short, odd⟩
    rcases units_of_cases c with ⟨_, units, _⟩ | ⟨long, _⟩
    · rw [units, map_singleton, canonicalize_eq_fold (by simpa using odd)]
    · rw [short] at long
      cases long
  rw [comparedAlike, compared letter plainLetter, compared c plain, beq_iff_eq, Bool.eq_iff_iff,
    beq_iff_eq, beq_iff_eq, singleton_inj, simple_fold_eq_iff]

end

end

end RuneTerminal.Commander
