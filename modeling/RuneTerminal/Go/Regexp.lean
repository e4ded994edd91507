import RuneTerminal.Go.Strings
import RuneTerminal.Kit.Glob

/-! `regexp.QuoteMeta`, and `MatchString` for anchored expressions without regard to case, made of
characters, of the dot and of the dot with a star. The smallest fold of a character is a parameter.
-/

namespace RuneTerminal.Go.Regexp

open Go.Strings Kit.Glob List

def isSpecial (c : Char) : Bool :=
  ['\\', '.', '+', '*', '?', '(', ')', '|', '[', ']', '\x7b', '\x7d', '^', '$'].contains c

def quoteChar (c : Char) : List Char := if isSpecial c then ['\\', c] else [c]

def quoteMeta (s : List Char) : List Char := s.flatMap quoteChar

/-- A character, or the dot, which is any character but the end of a line. -/
inductive Atom where
  | dot
  | char (c : Char)

structure Part where
  atom : Atom
  star : Bool

/-- Only punctuation is escaped; a special character that stands for itself must be. -/
def parse : List Char → Option (List Part)
  | [] => some []
  | '.' :: '*' :: rest => (parse rest).map (⟨.dot, true⟩ :: ·)
  | '.' :: rest => (parse rest).map (⟨.dot, false⟩ :: ·)
  | '\\' :: c :: rest => if isSpecial c then (parse rest).map (⟨.char c, false⟩ :: ·) else none
  | c :: rest => if isSpecial c then none else (parse rest).map (⟨.char c, false⟩ :: ·)

/-- The expression between `(?i)^` and `$`. An expression with a syntax error panics. -/
def mustCompile (expression : List Char) : Option (List Part) :=
  if "(?i)^".toList.isPrefixOf expression && expression.getLast? = some '$' then
    parse (expression.drop 5).dropLast
  else none

def Atom.accepts (fold : Char → Char) : Atom → Char → Bool
  | .dot, c => c ≠ '\n'
  | .char letter, c => fold letter = fold c

def matchString (fold : Char → Char) : List Part → List Char → Bool
  | [], text => text.isEmpty
  | part :: rest, text =>
    if part.star then
      (List.range (text.length + 1)).any fun count =>
        (text.take count).all (part.atom.accepts fold ·) &&
          matchString fold rest (text.drop count)
    else text.head?.any (part.atom.accepts fold ·) && matchString fold rest text.tail

def wildPart : Wild Char → Part
  | .many => ⟨.dot, true⟩
  | .one => ⟨.dot, false⟩
  | .symbol c => ⟨.char c, false⟩

theorem match_parts_iff (fold : Char → Char) (pattern : List (Wild Char)) (text : List Char) :
    matchString fold (pattern.map wildPart) text = true ↔
    Matches (· ≠ '\n') (fun letter c => fold letter = fold c) pattern text := by
  induction pattern generalizing text with
  | nil => rw [List.map_nil, matchString, List.isEmpty_iff, matches_nil_iff]
  | cons part pattern ih =>
    rw [map_cons, matchString]
    cases part with
    | many =>
      rw [matches_many_iff]
      simp only [wildPart, if_true, any_eq_true, mem_range, Bool.and_eq_true,
        all_eq_true, Atom.accepts, decide_eq_true_iff, ih, Nat.lt_succ_iff]
    | one =>
      cases text with
      | nil =>
        constructor
        · intro matched
          cases matched
        · intro matched
          cases matched
      | cons c text =>
        rw [matches_one_cons_iff, ← ih]
        simp [wildPart, Atom.accepts]
    | symbol letter =>
      cases text with
      | nil =>
        constructor
        · intro matched
          cases matched
        · intro matched
          cases matched
      | cons c text =>
        rw [matches_symbol_cons_iff, ← ih]
        simp [wildPart, Atom.accepts]

variable {c : Char}

theorem replace_escaped (new rest : List Char) :
    replaceAll ('\\' :: c :: rest) ['\\', c] new = new ++ replaceAll rest ['\\', c] new := by
  simp [replaceAll, replaceFrom]

variable {rest : List Char}

theorem replace_other {first : Char} {new : List Char} (ne : first = '\\' → rest.head? ≠ some c) :
    replaceAll (first :: rest) ['\\', c] new = first :: replaceAll rest ['\\', c] new := by
  have noPrefix : ['\\', c].isPrefixOf (first :: rest) = false := by
    apply Bool.eq_false_iff.mpr
    intro isPrefix
    rcases isPrefixOf_iff_prefix.mp isPrefix with ⟨others, whole⟩
    cases whole
    exact ne rfl rfl
  simp [replaceAll, replaceFrom, noPrefix]

theorem replace_plain {new word : List Char} (plain : '\\' ∉ word) :
    replaceAll (word ++ rest) ['\\', c] new = word ++ replaceAll rest ['\\', c] new := by
  induction word with
  | nil => rfl
  | cons first word ih =>
    rw [cons_append, replace_other, ih, cons_append]
    · intro mem
      exact plain (mem_cons_of_mem first mem)
    · rintro rfl
      exact absurd mem_cons_self plain

/-- A text whose characters are quoted, or have been replaced by others. -/
structure Quoted (expand : Char → List Char) (target : Char) : Prop where
  special : isSpecial target = true
  notEscape : target ≠ '\\'
  self : expand target = quoteChar target
  shape : ∀ c, expand c = quoteChar c ∨ ('\\' ∉ expand c ∧ (expand c).head? ≠ some target)

section

variable {expand : Char → List Char} {target : Char}

theorem Quoted.head (quoted : Quoted expand target) (s : List Char) :
    (s.flatMap expand).head? ≠ some target := by
  induction s with
  | nil => simp
  | cons c s ih =>
    rw [flatMap_cons, head?_append]
    rcases quoted.shape c with isQuoted | ⟨_, other⟩
    · rw [isQuoted, quoteChar]
      split_ifs with special
      · exact fun same => quoted.notEscape (Option.some.inj same).symm
      · rintro same
        cases same
        exact special quoted.special
    · cases first : (expand c).head? with
      | none => exact ih
      | some letter =>
        rw [first] at other
        exact other

theorem Quoted.replace (quoted : Quoted expand target) (new s : List Char) :
    replaceAll (s.flatMap expand) ['\\', target] new = s.flatMap fun c => if c =
    target then new else expand c := by
  induction s with
  | nil => rfl
  | cons c s ih =>
    rw [flatMap_cons, flatMap_cons, ← ih]
    by_cases isTarget : c = target
    · rw [if_pos isTarget, isTarget, quoted.self, quoteChar, if_pos quoted.special]
      exact replace_escaped new _
    rw [if_neg isTarget]
    rcases quoted.shape c with isQuoted | ⟨plain, _⟩
    · rw [isQuoted, quoteChar]
      split_ifs with special
      · rw [cons_append, cons_append, replace_other, replace_other]
        · rfl
        · exact fun _ => quoted.head s
        · intro _ same
          exact isTarget (Option.some.inj same)
      · apply replace_plain
        intro mem
        rw [← mem_singleton.mp mem] at special
        exact special (by decide)
    · exact replace_plain plain

end

def wildChar (c : Char) : List Char :=
  if c = '?' then ['.'] else if c = '*' then ['.', '*'] else quoteChar c

theorem replaced_wildcards (s : List Char) :
    replaceAll (replaceAll (quoteMeta s) ['\\', '*'] ['.', '*']) ['\\', '?'] ['.'] =
      s.flatMap wildChar := by
  have stars : Quoted quoteChar '*' :=
    { special := by decide
      notEscape := by decide
      self := rfl
      shape := fun _ => .inl rfl }
  have ones : Quoted (fun c => if c = '*' then ['.', '*'] else quoteChar c) '?' :=
    { special := by decide
      notEscape := by decide
      self := rfl
      shape := by
        intro c
        by_cases isStar : c = '*'
        · rw [if_pos isStar]
          exact .inr ⟨by decide, by decide⟩
        · exact .inl (if_neg isStar) }
  rw [quoteMeta, stars.replace, ones.replace]
  rfl

theorem wild_chars_head (s : List Char) : (s.flatMap wildChar).head? ≠ some '*' := by
  induction s with
  | nil => simp
  | cons c s ih =>
    rw [flatMap_cons, wildChar, quoteChar]
    split_ifs with isOne isStar special
    · simp
    · simp
    · simp
    · intro same
      exact isStar (Option.some.inj same)

theorem parse_dot (noStar : rest.head? ≠ some '*') :
    parse ('.' :: rest) = (parse rest).map (⟨.dot, false⟩ :: ·) := by
  cases rest with
  | nil => rfl
  | cons first rest =>
    rw [parse]
    rintro others whole
    cases whole
    exact noStar rfl

theorem parse_plain (plain : isSpecial c = false) (rest : List Char) :
    parse (c :: rest) = (parse rest).map (⟨.char c, false⟩ :: ·) := by
  rw [parse, if_neg (by rw [plain]; exact Bool.false_ne_true)]
  · rintro others rfl
    cases plain
  · rintro rfl
    cases plain
  · rintro other others rfl
    cases plain

theorem parse_wild_chars (s : List Char) :
    parse (s.flatMap wildChar) = some ((s.map (Wild.read '*' '?')).map wildPart) := by
  induction s with
  | nil => rfl
  | cons c s ih =>
    rw [flatMap_cons, wildChar, map_cons, Wild.read]
    by_cases isOne : c = '?'
    · rw [if_pos isOne, if_neg (by rw [isOne]; decide), if_pos isOne]
      rw [singleton_append, parse_dot (wild_chars_head s), ih]
      rfl
    rw [if_neg isOne]
    by_cases isStar : c = '*'
    · rw [if_pos isStar, if_pos isStar, cons_append, cons_append, parse,
        nil_append, ih]
      rfl
    rw [quoteChar]
    split_ifs with special
    · rw [cons_append, cons_append, parse, if_pos special, nil_append, ih]
      rfl
    · rw [singleton_append, parse_plain (Bool.eq_false_iff.mpr special), ih]
      rfl

theorem compile_wild_chars (s : List Char) :
    mustCompile ("(?i)^".toList ++ s.flatMap wildChar ++ ['$']) =
      some ((s.map (Wild.read '*' '?')).map wildPart) := by
  have body : (("(?i)^".toList ++ s.flatMap wildChar ++ ['$']).drop 5).dropLast =
      s.flatMap wildChar := by
    rw [append_assoc, drop_left' (by rfl), dropLast_concat]
  rw [mustCompile, getLast?_concat, body]
  exact parse_wild_chars s

end RuneTerminal.Go.Regexp
