import Mathlib.Data.List.DropRight
import Mathlib.Data.String.Basic
import RuneTerminal.Kit.ListSplit

/-! What the runtime uses of `strings` and `unicode`. Go strings that reach it have passed a JSON
decoder, so they are sequences of Unicode scalar values: Lean's `String`. -/

namespace RuneTerminal.Go.Strings

open Kit List

/-- `unicode.IsSpace`: the characters of the Unicode property White_Space. -/
def isSpace (c : Char) : Bool :=
  (0x09 ≤ c.val && c.val ≤ 0x0d) || c.val == 0x20 || c.val == 0x85 || c.val == 0xa0 ||
    c.val == 0x1680 || (0x2000 ≤ c.val && c.val ≤ 0x200a) || c.val == 0x2028 ||
    c.val == 0x2029 || c.val == 0x202f || c.val == 0x205f || c.val == 0x3000

/-- `strings.TrimSpace`. -/
def trimSpace (s : String) : String :=
  String.ofList ((s.toList.dropWhile isSpace).rdropWhile isSpace)

def trimmedText (raw : String) : Option String :=
  if trimSpace raw = "" then none else some (trimSpace raw)

/-- `strings.TrimRight` with a single character to cut. -/
def trimRight (s : String) (cut : Char) : String :=
  String.ofList (s.toList.rdropWhile (· == cut))

def decimal (digits : List Char) : Option Nat :=
  if digits = [] ∨ !digits.all Char.isDigit then none else some (Nat.ofDigitChars 10 digits 0)

/-- `strconv.Atoi`: an optional sign and decimal digits, in the range of 64 bits. -/
def atoi (s : String) : Option Int :=
  match s.toList with
  | '-' :: digits => (decimal digits).bind fun n => if n ≤ 2 ^ 63 then some (-n) else none
  | '+' :: digits => (decimal digits).bind fun n => if n < 2 ^ 63 then some n else none
  | digits => (decimal digits).bind fun n => if n < 2 ^ 63 then some n else none

/-- `strings.HasPrefix`. -/
def hasPrefix (s start : String) : Bool := start.toList.isPrefixOf s.toList

/-- `strings.Contains`. -/
def contains (s part : String) : Bool := s.toList.tails.any (part.toList.isPrefixOf ·)

/-- `strings.FieldsFunc`. -/
def fieldsFunc (separates : Char → Bool) (s : List Char) : List (List Char) :=
  (s.splitOnP separates).filter (· ≠ [])

/-- The next `skipped` characters belong to what has been replaced. -/
def replaceFrom (old new : List Char) : Nat → List Char → List Char
  | _, [] => []
  | skipped + 1, _ :: rest => replaceFrom old new skipped rest
  | 0, c :: rest =>
    if old.isPrefixOf (c :: rest) then new ++ replaceFrom old new (old.length - 1) rest
    else c :: replaceFrom old new 0 rest

/-- `strings.ReplaceAll`, of a text that is not empty. -/
def replaceAll (s old new : List Char) : List Char := replaceFrom old new 0 s

/-- Functions of the standard library that rest on large tables or engines: `regexp.Compile` with
`MatchString`, where a pattern that does not compile matches nothing, and `strings.ToLower`. -/
structure TextLibrary where
  matchRegexp : String → String → Bool
  toLower : String → String

variable {text : String}

theorem map_to_lower_small (small : text.toList.all Char.isLower = true) :
    text.map Char.toLower = text := by
  rw [← String.toList_inj, String.toList_map]
  have same : ∀ c ∈ text.toList, Char.toLower c = id c := by
    intro c mem
    have isLower := all_eq_true.mp small c mem
    change (_ && _) = true at isLower
    rw [Bool.and_eq_true, decide_eq_true_eq] at isLower
    have notUpper : ¬(c.val ≥ 'A'.val ∧ c.val ≤ 'Z'.val) := by
      rintro ⟨_, high⟩
      have bound := UInt32.le_trans isLower.1 high
      exact absurd bound (by decide)
    exact dif_neg notUpper
  rw [map_congr_left same, map_id]

/-- An identifier as the runtime mints and stores them: no surrounding white
space, and not blank. -/
def CleanID (id : String) : Prop :=
  trimSpace id = id ∧ id ≠ ""

instance (id : String) : Decidable (CleanID id) :=
  inferInstanceAs (Decidable (_ ∧ _))

variable {Item : Type}

private theorem drop_while_rdrop_while (p : Item → Bool) (items : List Item) :
    ((items.dropWhile p).rdropWhile p).dropWhile p = (items.dropWhile p).rdropWhile p := by
  cases kept : (items.dropWhile p).rdropWhile p with
  | nil => rfl
  | cons head tail =>
    have isPrefix := rdropWhile_prefix p (items.dropWhile p)
    rw [kept] at isPrefix
    obtain ⟨rest, whole⟩ := isPrefix
    have headKept : p head = false := by
      have nonempty : items.dropWhile p ≠ [] := by rw [← whole]; simp
      have := head_dropWhile_not p nonempty
      simpa only [← whole, cons_append, head_cons] using this
    rw [dropWhile_cons, if_neg (by simp [headKept])]

@[simp]
theorem trim_space_twice (s : String) : trimSpace (trimSpace s) = trimSpace s := by
  simp only [trimSpace, String.toList_ofList, drop_while_rdrop_while, rdropWhile_idempotent]

variable {c : Char}

theorem trim_space_nonblank {s : String} (mem : c ∈ s.toList) (visible : isSpace c = false) :
    trimSpace s ≠ "" := by
  intro blank
  have dropped : (s.toList.dropWhile isSpace).rdropWhile isSpace = [] := by
    rw [← String.toList_ofList (l := (s.toList.dropWhile isSpace).rdropWhile isSpace)]
    exact congrArg String.toList blank
  have spaces := rdropWhile_eq_nil_iff.mp dropped
  rw [← takeWhile_append_dropWhile (p := isSpace) (l := s.toList), mem_append] at mem
  have space : isSpace c = true := mem.elim mem_takeWhile_imp (spaces c)
  rw [visible] at space
  cases space

@[simp]
theorem trim_space_empty : trimSpace "" = "" := by decide

variable {raw : String}

theorem clean_id_trim (nonblank : trimSpace raw ≠ "") : CleanID (trimSpace raw) :=
  ⟨trim_space_twice raw, nonblank⟩

@[simp]
theorem trimmed_text_eq_some : trimmedText raw = some text ↔ trimSpace raw = text ∧ text ≠ "" := by
  unfold trimmedText
  by_cases blank : trimSpace raw = ""
  · rw [blank]
    constructor
    · intro impossible
      cases impossible
    · rintro ⟨rfl, nonblank⟩
      exact absurd rfl nonblank
  · rw [if_neg blank, Option.some.injEq]
    constructor
    · rintro rfl
      exact ⟨rfl, blank⟩
    · exact And.left

theorem trimmed_text_clean (trimmed : trimmedText raw = some text) : CleanID text := by
  obtain ⟨rfl, nonblank⟩ := trimmed_text_eq_some.mp trimmed
  exact clean_id_trim nonblank

theorem CleanID.trimmed_text (clean : CleanID text) : trimmedText text = some text :=
  trimmed_text_eq_some.mpr clean

variable {id : String}

theorem clean_id_of_ends (nonempty : id.toList ≠ [])
    (head : isSpace (id.toList.head nonempty) = false)
    (last : isSpace (id.toList.getLast nonempty) = false) : CleanID id := by
  refine ⟨?_, ?_⟩
  · have left : id.toList.dropWhile isSpace = id.toList := by
      rw [dropWhile_eq_self_iff]
      intro positive
      rw [← head_eq_getElem_zero nonempty, head]
      decide
    have right : id.toList.rdropWhile isSpace = id.toList := by
      rw [rdropWhile_eq_self_iff]
      intro _
      simp [last]
    rw [trimSpace, left, right, String.ofList_toList]
  · rintro rfl
    exact nonempty rfl

theorem CleanID.ends (clean : CleanID id) : ∃ nonempty : id.toList ≠ [],
    isSpace (id.toList.head nonempty) = false ∧ isSpace (id.toList.getLast nonempty) = false := by
  obtain ⟨trimmed, nonblank⟩ := clean
  have nonempty : id.toList ≠ [] := by
    intro empty
    exact nonblank (String.toList_inj.mp (by rw [empty]; rfl))
  have same : (id.toList.dropWhile isSpace).rdropWhile isSpace = id.toList := by
    conv_rhs => rw [← trimmed, trimSpace, String.toList_ofList]
  -- Trimming either side cannot shorten the text, so neither end is white space.
  have left : id.toList.dropWhile isSpace = id.toList := by
    apply (dropWhile_suffix _).eq_of_length_le
    conv_lhs => rw [← same]
    apply IsPrefix.length_le
    exact rdropWhile_prefix _ _
  rw [left] at same
  refine ⟨nonempty, ?_, ?_⟩
  · have positive := length_pos_iff.mpr nonempty
    have kept := dropWhile_eq_self_iff.mp left positive
    rw [head_eq_getElem_zero nonempty]
    simpa using kept
  · have kept := rdropWhile_eq_self_iff.mp same nonempty
    simpa using kept

theorem clean_id_between {left right : String} (cleanLeft : CleanID left) (middle : String)
    (cleanRight : CleanID right) : CleanID (left ++ middle ++ right) := by
  obtain ⟨leftNonempty, head, _⟩ := cleanLeft.ends
  obtain ⟨rightNonempty, _, last⟩ := cleanRight.ends
  have chars : (left ++ middle ++ right).toList =
      left.toList ++ (middle.toList ++ right.toList) := by
    simp
  have whole : (left ++ middle ++ right).toList ≠ [] := by simp [leftNonempty]
  apply clean_id_of_ends whole
  · simp only [chars, head_append_of_ne_nil leftNonempty, head]
  · have rest : middle.toList ++ right.toList ≠ [] := by simp [rightNonempty]
    simp only [chars, getLast_append_of_ne_nil _ rest,
      getLast_append_of_ne_nil _ rightNonempty, last]

theorem is_space_of_is_digit (digit : c.isDigit) : isSpace c = false := by
  simp only [Char.isDigit, UInt32.le_iff_toNat_le] at digit
  simp only [isSpace, Bool.or_eq_false_iff, beq_eq_false_iff_ne, ne_eq, UInt32.le_iff_toNat_le, ←
    UInt32.toNat_inj]
  simp at digit ⊢
  omega

theorem clean_id_append_number {stem : String} (nonempty : stem.toList ≠ [])
    (head : isSpace (stem.toList.head nonempty) = false) (number : Nat) :
    CleanID (stem ++ toString number) := by
  have chars : (stem ++ toString number).toList = stem.toList ++ Nat.toDigits 10 number := by
    simp
  have digits : Nat.toDigits 10 number ≠ [] := Nat.toDigits_ne_nil
  have whole : (stem ++ toString number).toList ≠ [] := by simp [digits]
  apply clean_id_of_ends whole
  · simp only [chars, head_append_of_ne_nil nonempty, head]
  · simp only [chars, getLast_append_of_ne_nil _ digits]
    apply is_space_of_is_digit
    exact Nat.isDigit_of_mem_toDigits (by decide) (by decide) (getLast_mem digits)

theorem atoi_to_string {number : Nat} (fits : number < 2 ^ 63) :
    atoi (toString number) = some (number : Int) := by
  have chars : (toString number).toList = Nat.toDigits 10 number := by simp
  have digit : ∀ c ∈ Nat.toDigits 10 number, c.isDigit = true := fun c mem =>
    Nat.isDigit_of_mem_toDigits (by decide) (by decide) mem
  have value : decimal (Nat.toDigits 10 number) = some number := by
    unfold decimal
    rw [if_neg, Nat.ofDigitChars_toDigits (by decide) (by decide)]
    rintro (empty | other)
    · exact Nat.toDigits_ne_nil empty
    · rw [all_eq_true.mpr digit] at other
      cases other
  unfold atoi
  rw [chars]
  split
  next rest same =>
    have sign := digit '-' (by rw [same]; exact mem_cons_self)
    cases sign
  next rest same =>
    have sign := digit '+' (by rw [same]; exact mem_cons_self)
    cases sign
  · rw [value, Option.bind_some, if_pos fits]

/-- `strings.TrimSpace`. -/
def trim (s : List Char) : List Char := (s.dropWhile isSpace).rdropWhile isSpace

/-- `strings.SplitN`, for a separator that is not empty. -/
def splitN (separator : List Char) : Nat → List Char → List (List Char)
  | 0, _ => []
  | 1, s => [s]
  | parts + 2, s =>
    match cutFirst separator s with
    | none => [s]
    | some (front, back) => front :: splitN separator (parts + 1) back

/-- `strings.Split` at the ends of lines. -/
def lines (s : List Char) : List (List Char) := s.splitOnP (· == '\n')

variable {s : List Char}

section

variable {first : Char} {rest : List Char}

theorem to_list_trim_space (text : String) : (trimSpace text).toList = trim text.toList :=
  String.toList_ofList

theorem trim_cons_space (space : isSpace c = true) (s : List Char) : trim (c :: s) = trim s := by
  rw [trim, dropWhile_cons_of_pos space, trim]

theorem drop_while_append_singleton (c : Char) (s : List Char) :
    (s ++ [c]).dropWhile isSpace =
      if (s.dropWhile isSpace).isEmpty then [c].dropWhile isSpace else s.dropWhile isSpace ++ [c] :=
  dropWhile_append

theorem trim_append_space (space : isSpace c = true) (s : List Char) :
    trim (s ++ [c]) = trim s := by
  rw [trim, drop_while_append_singleton, trim]
  split_ifs with blank
  · rw [isEmpty_iff.mp blank, dropWhile_cons_of_pos space, dropWhile_nil]
  · rw [rdropWhile_concat_pos _ _ _ space]

theorem trim_head_not_space (trimmed : trim s = first :: rest) : isSpace first = false := by
  have front : trim s <+: s.dropWhile isSpace := rdropWhile_prefix _ _
  rw [trimmed] at front
  obtain ⟨others, whole⟩ := front
  have head := head?_dropWhile_not isSpace s
  rw [← whole] at head
  simpa using head

theorem trim_of_ends {last : Char} (start : isSpace first = false) (stop : isSpace last = false)
    (ends : (first :: rest).getLast? = some last) : trim (first :: rest) = first :: rest := by
  rw [trim, dropWhile_cons_of_neg (by rw [start]; exact Bool.false_ne_true),
    rdropWhile_eq_self_iff]
  intro nonempty
  rw [Option.some.inj ends, stop]
  exact Bool.false_ne_true

end

section

variable {front : List Char}

theorem cut_char (absent : c ∉ front) (back : List Char) :
    cutFirst [c] (front ++ c :: back) = some (front, back) := by
  induction front with
  | nil =>
    have here : [c].isPrefixOf (c :: back) = true := by simp
    rw [nil_append, cutFirst, if_pos here]
    rfl
  | cons first front ih =>
    rw [mem_cons, not_or] at absent
    have elsewhere : ¬[c].isPrefixOf (first :: (front ++ c :: back)) = true := by
      simpa using absent.1
    rw [cons_append, cutFirst, if_neg elsewhere, ih absent.2, Option.map_some]

theorem cut_char_none (absent : c ∉ s) : cutFirst [c] s = none := by
  induction s with
  | nil => rfl
  | cons first s ih =>
    rw [mem_cons, not_or] at absent
    have elsewhere : ¬[c].isPrefixOf (first :: s) = true := by simpa using absent.1
    rw [cutFirst, if_neg elsewhere, ih absent.2, Option.map_none]

variable {stem : List Char}

theorem first_line (oneLine : '\n' ∉ stem) (rest : List Char) :
    (stem ++ '\n' :: rest).takeWhile (· ≠ '\n') = stem := by
  have inside : ∀ c ∈ stem, decide (c ≠ '\n') = true := fun c mem =>
    decide_eq_true (ne_of_mem_of_not_mem mem oneLine)
  rw [takeWhile_append_of_pos inside, takeWhile_cons_of_neg (by simp), append_nil]

theorem line_prefix_append (oneLine : '\n' ∉ stem) (ended : '\n' ∈ s) (behind : List Char) :
    stem ++ ['\n'] <+: s ++ behind ↔ stem ++ ['\n'] <+: s := by
  constructor
  · rintro ⟨rest, whole⟩
    obtain ⟨front, back, rfl, before⟩ := eq_append_cons_of_mem ended
    rw [append_assoc, singleton_append, append_assoc, cons_append] at whole
    have same := congrArg (takeWhile (· ≠ '\n')) whole
    rw [first_line oneLine, first_line before] at same
    exact ⟨back, by rw [same, append_assoc, singleton_append]⟩
  · intro isPrefix
    exact isPrefix.trans (prefix_append _ _)

theorem cut_line (oneLine : '\n' ∉ stem) (ended : s = [] ∨ s.getLast? = some '\n')
    (absent : cutFirst (stem ++ ['\n']) s = none) (back : List Char) :
    cutFirst (stem ++ ['\n']) (s ++ (stem ++ ['\n']) ++ back) = some (s, back) := by
  induction s with
  | nil =>
    cases whole : stem ++ ['\n'] with
    | nil => simp at whole
    | cons first rest =>
      have here : (first :: rest).isPrefixOf (first :: (rest ++ back)) = true := by
        apply isPrefixOf_iff_prefix.mpr
        exact prefix_append _ _
      rw [nil_append, cons_append, cutFirst, if_pos here, ← cons_append,
        drop_left]
  | cons c s ih =>
    have stop : (c :: s).getLast? = some '\n' := ended.resolve_left (cons_ne_nil c s)
    have elsewhere : ¬(stem ++ ['\n']).isPrefixOf (c :: s) = true := by
      intro here
      rw [cutFirst, if_pos here] at absent
      cases absent
    rw [cutFirst, if_neg elsewhere, Option.map_eq_none_iff] at absent
    have still :
        ¬(stem ++ ['\n']).isPrefixOf (c :: (s ++ (stem ++ ['\n']) ++ back)) = true := by
      intro here
      have starts := isPrefixOf_iff_prefix.mp here
      rw [append_assoc, ← cons_append,
        line_prefix_append oneLine (mem_of_getLast? stop)] at starts
      exact elsewhere <| isPrefixOf_iff_prefix.mpr starts
    have later : s = [] ∨ s.getLast? = some '\n' := by
      cases s with
      | nil => exact .inl rfl
      | cons next s =>
        exact .inr stop
    rw [cons_append, cons_append, cutFirst, if_neg still, ih later absent, Option.map_some]

theorem length_split_n (c : Char) (parts : Nat) (s : List Char) :
    (splitN [c] (parts + 1) s).length = min parts (s.count c) + 1 := by
  induction parts generalizing s with
  | zero => rw [splitN, length_singleton, Nat.zero_min]
  | succ parts ih =>
    rw [splitN]
    by_cases found : c ∈ s
    · obtain ⟨front, back, rfl, before⟩ := eq_append_cons_of_mem found
      rw [cut_char before]
      rw [length_cons, ih, count_append, count_cons_self,
        count_eq_zero_of_not_mem before]
      omega
    · rw [cut_char_none found]
      rw [length_singleton, count_eq_zero_of_not_mem found, Nat.min_zero]

end

section

variable {read : List Char → Option Item}

theorem lines_append_line (front back : List Char) :
    lines (front ++ '\n' :: back) = lines front ++ lines back :=
  splitOnP_append_cons front back rfl

theorem lines_one_line (oneLine : '\n' ∉ s) : lines s = [s] := by
  apply splitOnP_eq_singleton
  intro c mem
  exact beq_eq_false_iff_ne.mpr (ne_of_mem_of_not_mem mem oneLine)

variable (trims : ∀ line, read line = read (trim line)) (blank : read [] = none)
include trims

theorem read_cons_space (space : isSpace c = true) (line : List Char) :
    read (c :: line) = read line := by
  rw [trims, trim_cons_space space, ← trims]

theorem read_append_space (space : isSpace c = true) (line : List Char) :
    read (line ++ [c]) = read line := by
  rw [trims, trim_append_space space, ← trims]

include blank

theorem read_lines_cons_space (space : isSpace c = true) (s : List Char) :
    (lines (c :: s)).filterMap read = (lines s).filterMap read := by
  by_cases newline : c = '\n'
  · rw [newline, ← nil_append ('\n' :: s), lines_append_line, filterMap_append]
    have empty : (lines []).filterMap read = [] := filterMap_cons_none blank
    rw [empty, nil_append]
  rcases exists_cons_of_ne_nil (splitOnP_ne_nil (· == '\n') s) with
    ⟨line, others, parts⟩
  have longer : lines (c :: s) = (c :: line) :: others := by
    rw [lines, splitOnP_cons_eq_if_modifyHead, parts, modifyHead_cons,
      if_neg (by simpa using newline)]
  rw [longer, lines, parts, filterMap_cons, filterMap_cons, read_cons_space trims space]

theorem read_lines_append_space (space : isSpace c = true) (s : List Char) :
    (lines (s ++ [c])).filterMap read = (lines s).filterMap read := by
  by_cases newline : c = '\n'
  · rw [newline, lines_append_line, filterMap_append]
    have empty : (lines []).filterMap read = [] := filterMap_cons_none blank
    rw [empty, append_nil]
  induction size : s.length using Nat.strongRecOn generalizing s with
  | _ count ih =>
    by_cases ended : '\n' ∈ s
    · obtain ⟨front, back, rfl, -⟩ := eq_append_cons_of_mem ended
      have shorter : back.length < count := by
        rw [← size, length_append, length_cons]
        omega
      rw [append_assoc, cons_append, lines_append_line, lines_append_line,
        filterMap_append, filterMap_append, ih back.length shorter back rfl]
    · have longer : '\n' ∉ s ++ [c] := by
        rw [mem_append, mem_singleton, not_or]
        exact ⟨ended, Ne.symm newline⟩
      rw [lines_one_line ended, lines_one_line longer, filterMap_cons,
        filterMap_cons, read_append_space trims space]

theorem read_lines_trim (s : List Char) :
    (lines (trim s)).filterMap read = (lines s).filterMap read := by
  have front : (lines (s.dropWhile isSpace)).filterMap read = (lines s).filterMap read := by
    induction s with
    | nil => rfl
    | cons c s ih =>
      by_cases space : isSpace c = true
      · rw [dropWhile_cons_of_pos space, ih, read_lines_cons_space trims blank space]
      · rw [dropWhile_cons_of_neg space]
  have back : ∀ text : List Char,
      (lines (text.rdropWhile isSpace)).filterMap read = (lines text).filterMap read := by
    intro text
    induction text using reverseRecOn with
    | nil => rfl
    | append_singleton text c ih =>
      by_cases space : isSpace c = true
      · rw [rdropWhile_concat_pos _ _ _ space, ih, read_lines_append_space trims blank space]
      · rw [rdropWhile_concat_neg _ _ _ space]
  rw [trim, back, front]

end

end RuneTerminal.Go.Strings
