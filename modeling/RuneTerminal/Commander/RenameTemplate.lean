import RuneTerminal.Commander.Clone

/-! A template is text with tokens for a counter and for the parts of a name
(`operation-preview.ts`). What takes the place of a counter is never part of a token, so the tokens
can be read from left to right at once. -/

namespace RuneTerminal.Commander

open List

inductive TemplatePiece where
  | literal (c : Char)
  | counter (numbers : List Nat)
  | name (token : Char) (modifier : Option Char)

def scanCounterNumbers : List Char → Option (List Nat × Nat)
  | '[' :: letter :: rest =>
    if letter = 'C' ∨ letter = 'c' then
      let numbers := scanNumbers 3 rest
      if numbers.2.head? = some ']' then
        some (numbers.1.map parseDigits, 2 + (rest.length - numbers.2.length) + 1)
      else none
    else none
  | _ => none

def scanToken (text : List Char) : Option (TemplatePiece × Nat) :=
  match scanCounterNumbers text with
  | some (numbers, length) => some (.counter numbers, length)
  | none => (scanNameToken text).map fun found => (.name found.1 found.2.1, found.2.2)

def templatePieces : Nat → List Char → List TemplatePiece
  | _, [] => []
  | skipped + 1, _ :: rest => templatePieces skipped rest
  | 0, c :: rest =>
    match scanToken (c :: rest) with
    | some (piece, length) => piece :: templatePieces (length - 1) rest
    | none => .literal c :: templatePieces 0 rest

def counterAt (index : Nat) : List Nat → List Char
  | [] => (toString (1 + index)).toList
  | [width] => (toString (1 + index)).toList.leftpad width '0'
  | [start, width] => (toString (start + index)).toList.leftpad width '0'
  | start :: width :: step :: _ => (toString (start + index * step)).toList.leftpad width '0'

def counterValue (index : Nat) : List Nat → Nat
  | [] => 1 + index
  | [_] => 1 + index
  | [start, _] => start + index
  | start :: _ :: step :: _ => start + index * step

def TemplatePiece.expansion (host : HostLocale) (entry : CommanderDirectoryEntry) (index : Nat) :
    TemplatePiece → List Char
  | .literal c => [c]
  | .counter numbers => counterAt index numbers
  | .name token modifier =>
    let parts := splitEntryBaseNameAndExt host entry
    applyRenameTextTransform host
      (if token.toUpper = 'N' then parts.baseName
      else if token.toUpper = 'E' then parts.ext
      else entry.name.toList) modifier

def expandedTemplate (host : HostLocale) (entry : CommanderDirectoryEntry) (template : String)
    (index : Nat) : String :=
  trim (String.ofList
    ((templatePieces 0 (trim template).toList).flatMap (·.expansion host entry index)))

def TemplatePiece.isNamed (tokens : List Char) : TemplatePiece → Bool
  | .name token _ => token ∈ tokens
  | _ => false

/-- A file keeps its extension where neither the template nor the result has one. -/
def keepExtension (host : HostLocale) (entry : CommanderDirectoryEntry) (template : String)
    (name : String) : String :=
  let parts := splitEntryBaseNameAndExt host entry
  if entry.kind = .file ∧ parts.ext ≠ [] ∧
      !(templatePieces 0 (trim template).toList).any
        (TemplatePiece.isNamed ['E', 'e', 'F', 'f']) ∧ '.' ∉ name.toList then
    name ++ "." ++ String.ofList parts.ext
  else name

variable {token : Char} {modifier : Option Char}

section

variable {text inner rest : List Char} {c letter : Char} {numbers : List Nat} {length : Nat}
  {found : Char × Option Char × Nat}

def TokenInFront (text : List Char) (length : Nat) : Prop :=
  ∃ inner rest, text = '[' :: (inner ++ rest) ∧ '[' ∉ inner ∧ length = inner.length + 1

theorem digit_other {other : Char} (digit : c.isDigit = true) (notDigit : other.isDigit = false) :
    c ≠ other := by
  rintro rfl
  rw [digit] at notDigit
  cases notDigit

theorem scan_numbers_front (count : Nat) (text : List Char) :
    ∃ front, text = front ++ (scanNumbers count text).2 ∧ '[' ∉ front := by
  induction count generalizing text with
  | zero => exact ⟨[], rfl, by simp⟩
  | succ count ih =>
    match text with
    | [] => exact ⟨[], rfl, by simp⟩
    | c :: rest =>
      by_cases colon : c = ':'
      · subst colon
        rw [scanNumbers]
        split_ifs with none
        · exact ⟨[], rfl, by simp⟩
        obtain ⟨front, more, clean⟩ := ih (rest.drop (rest.takeWhile Char.isDigit).length)
        refine ⟨':' :: rest.takeWhile Char.isDigit ++ front, ?_, ?_⟩
        · rw [append_assoc, ← more]
          congr 1
          have isFront : rest.takeWhile Char.isDigit <+: rest := takeWhile_prefix _
          exact (prefix_iff_eq_append.mp isFront).symm
        rw [mem_append, mem_cons]
        rintro ((same | digit) | later)
        · cases same
        · exact digit_other (mem_takeWhile_imp digit) (by decide) rfl
        · exact clean later
      · refine ⟨[], ?_, by simp⟩
        rw [scanNumbers]
        · rfl
        · intro _ same
          exact colon (cons.inj same).1

theorem scan_counter_front (found : scanCounterNumbers text = some (numbers, length)) :
    TokenInFront text length := by
  unfold scanCounterNumbers at found
  split at found
  next letter rest =>
    by_cases isLetter : letter = 'C' ∨ letter = 'c'
    · rw [if_pos isLetter] at found
      by_cases closed : (scanNumbers 3 rest).2.head? = some ']'
      · rw [if_pos closed] at found
        cases found
        obtain ⟨front, split, clean⟩ := scan_numbers_front 3 rest
        obtain ⟨after, isClosed⟩ := head?_eq_some_iff.mp closed
        rw [isClosed] at split
        refine ⟨letter :: front ++ [']'], after, by simp [split], ?_, ?_⟩
        · rcases isLetter with rfl | rfl
          · simpa using clean
          · simpa using clean
        · rw [isClosed, split]
          simp
          omega
      · rw [if_neg closed] at found
        cases found
    · rw [if_neg isLetter] at found
      cases found
  next => cases found

theorem bracket_no_token (isToken : c.toUpper ∈ ['N', 'E', 'F']) : c ≠ '[' ∧ c.isDigit = false := by
  constructor
  · rintro rfl
    revert isToken
    decide
  rw [← Bool.not_eq_true]
  intro digit
  have same : c.toUpper = c := by
    apply dif_neg
    rintro ⟨small, -⟩
    simp only [Char.isDigit, Bool.and_eq_true, decide_eq_true_eq] at digit
    have bounds := UInt32.le_iff_toNat_le.mp (UInt32.le_trans small digit.2)
    revert bounds
    decide
  rw [same] at isToken
  simp only [mem_cons, not_mem_nil, or_false] at isToken
  rcases isToken with rfl | rfl | rfl
  · cases digit
  · cases digit
  · cases digit

theorem scan_name_front (scanned : scanNameToken text = some found) : TokenInFront text found.2.2 ∧
    ∀ rest, scanNameToken (text.take found.2.2 ++ rest) = some found := by
  unfold scanNameToken at scanned
  split at scanned
  next token rest =>
    by_cases isToken : token.toUpper ∈ ['N', 'E', 'F']
    · rw [if_pos isToken] at scanned
      cases scanned
      refine ⟨⟨[token, ']'], rest, rfl, ?_, rfl⟩, fun rest => if_pos isToken⟩
      simp [(bracket_no_token isToken).1.symm]
    · rw [if_neg isToken] at scanned
      cases scanned
  next token modifier rest =>
    by_cases isToken : token.toUpper ∈ ['N', 'E', 'F'] ∧ modifier.isAlpha = true
    · rw [if_pos isToken] at scanned
      cases scanned
      refine ⟨⟨[token, ':', modifier, ']'], rest, rfl, ?_, rfl⟩, fun rest => if_pos isToken⟩
      have notBracket : '[' ≠ modifier := by
        rintro rfl
        cases isToken.2
      simp [(bracket_no_token isToken.1).1.symm, notBracket]
    · rw [if_neg isToken] at scanned
      cases scanned
  next => cases scanned

theorem replace_skip (scan : List Char → Option (List Char × Nat)) (skipped : Nat)
    (text : List Char) :
    replaceMatches scan skipped text = replaceMatches scan 0 (text.drop skipped) := by
  induction text generalizing skipped with
  | nil => simp [replaceMatches]
  | cons c rest ih =>
    cases skipped with
    | zero => rfl
    | succ skipped => exact ih skipped

theorem pieces_skip (skipped : Nat) (text : List Char) :
    templatePieces skipped text = templatePieces 0 (text.drop skipped) := by
  induction text generalizing skipped with
  | nil => simp [templatePieces]
  | cons c rest ih =>
    cases skipped with
    | zero => rfl
    | succ skipped => exact ih skipped

theorem replace_plain {scan : List Char → Option (List Char × Nat)}
    (opens : ∀ c rest, c ≠ '[' → scan (c :: rest) = none) (plain : '[' ∉ inner) (rest : List Char) :
    replaceMatches scan 0 (inner ++ rest) = inner ++ replaceMatches scan 0 rest := by
  induction inner with
  | nil => rfl
  | cons c inner ih =>
    rw [mem_cons, not_or] at plain
    rw [cons_append, replaceMatches, opens c _ (Ne.symm plain.1), ih plain.2]
    rfl

theorem scan_counter_eq (index : Nat) (text : List Char) : scanCounter index text =
    (scanCounterNumbers text).map fun found =>
      (counterText index (found.1.map Kit.wholeDouble), found.2) := by
  unfold scanCounter
  split
  · rw [scanCounterNumbers]
    dsimp only
    split_ifs
    · rw [Option.map_some, map_map]
      rfl
    all_goals rfl
  next other => rw [scanCounterNumbers, Option.map_none]; exact other

/-- The numbers of a counter, and what it shows, are doubles without rounding. -/
structure ExactCounter (index : Nat) (numbers : List Nat) : Prop where
  inputs : ∀ number ∈ numbers, number < 2 ^ 53
  value : counterValue index numbers < 2 ^ 53

theorem counter_text_eq {index : Nat} (exact : ExactCounter index numbers) :
    counterText index (numbers.map Kit.wholeDouble) = counterAt index numbers := by
  have doubles : numbers.map Kit.wholeDouble = numbers.map some :=
    map_congr_left fun number mem => Kit.whole_double_small (exact.inputs number mem)
  have value := exact.value
  rw [doubles]
  unfold counterText formatRenameCounter
  match numbers with
  | [] =>
    rw [counterValue] at value
    simp [counterAt, Kit.whole_double_small (show index < 2 ^ 53 by omega),
      Kit.whole_double_small value, Kit.whole_text_small value]
  | [width] =>
    rw [counterValue] at value
    simp [counterAt, leftpad, Kit.whole_double_small (show index < 2 ^ 53 by omega),
      Kit.whole_double_small value, Kit.whole_text_small value]
  | [start, width] =>
    rw [counterValue] at value
    simp [counterAt, leftpad, Kit.whole_double_small (show index < 2 ^ 53 by omega),
      Kit.whole_double_small value, Kit.whole_text_small value]
  | start :: width :: step :: _ =>
    rw [counterValue] at value
    simp [counterAt, leftpad, Kit.whole_double_small (show index * step < 2 ^ 53 by omega),
      Kit.whole_double_small value, Kit.whole_text_small value]

theorem counter_front (index : Nat) (numbers : List (Option Nat)) :
    ∃ first rest, counterText index numbers = first :: rest ∧
      (first.isDigit = true ∨ first = 'I' ∧ rest.head? = some 'n') := by
  unfold counterText formatRenameCounter
  dsimp only
  generalize (if numbers[1]?.join.isSome then numbers[1]?.join else numbers[0]?.join) = width
  generalize Option.bind _ _ = counter
  obtain ⟨first, rest, text, front⟩ := Kit.whole_text_front counter
  rw [text]
  cases width.getD 0 - (first :: rest).length with
  | zero => exact ⟨first, rest, rfl, front⟩
  | succ zeros => exact ⟨'0', _, rfl, .inl rfl⟩

theorem counter_no_bracket (index : Nat) (numbers : List (Option Nat)) :
    '[' ∉ counterText index numbers := by
  unfold counterText formatRenameCounter
  simp [Kit.whole_text_no_bracket]

theorem counted_cons {index : Nat} {u : List Char} (notDigit : c.isDigit = false)
    (noText : c = 'I' → u.head? ≠ some 'n')
    (counted : replaceMatches (scanCounter index) 0 text = c :: u) :
    ∃ rest, text = c :: rest ∧ replaceMatches (scanCounter index) 0 rest = u := by
  cases text with
  | nil => cases counted
  | cons first rest =>
    rw [replaceMatches] at counted
    split at counted
    next replacement length found =>
      rw [scan_counter_eq] at found
      obtain ⟨⟨numbers, _⟩, -, same⟩ := Option.map_eq_some_iff.mp found
      cases same
      obtain ⟨digit, more, shown, front⟩ := counter_front index (numbers.map Kit.wholeDouble)
      rw [shown] at counted
      obtain ⟨rfl, rfl⟩ := cons.inj counted
      rcases front with isDigit | ⟨isText, next⟩
      · rw [notDigit] at isDigit
        cases isDigit
      · apply absurd _ (noText isText)
        rw [append_eq, head?_append, next]
        rfl
    next =>
      cases counted
      exact ⟨rest, rfl, rfl⟩

theorem to_upper_eq {upper lower : Char} (range : lower.toNat = upper.toNat + 32)
    (isUpper : upper.toNat < 91) (folds : c.toUpper = upper) : c = upper ∨ c = lower := by
  unfold Char.toUpper at folds
  split at folds
  next small =>
    right
    subst folds
    apply Char.ext
    apply UInt32.toNat_inj.mp
    simp [UInt32.le_iff_toNat_le] at range small isUpper ⊢
    omega
  next => exact .inl folds

theorem scan_other_letter (other : letter.toUpper ∉ ['N', 'E', 'F']) (rest : List Char) :
    scanNameToken ('[' :: letter :: rest) = none := by
  unfold scanNameToken
  split
  next same =>
    cases same
    exact if_neg other
  next same =>
    cases same
    exact if_neg fun isToken => other isToken.1
  next => rfl

theorem counter_not_name {found : List Nat × Nat} (counter : scanCounterNumbers text = some found) :
    scanNameToken text = none := by
  unfold scanCounterNumbers at counter
  split at counter
  next letter rest =>
    by_cases isLetter : letter = 'C' ∨ letter = 'c'
    · apply scan_other_letter
      rcases isLetter with rfl | rfl
      · decide
      · decide
    · rw [if_neg isLetter] at counter
      cases counter
  next => cases counter

theorem scan_name_opens (c : Char) (rest : List Char)
    (other : c ≠ '[') : scanNameToken (c :: rest) = none := by
  unfold scanNameToken
  split
  next same => exact absurd (cons.inj same).1 other
  next same => exact absurd (cons.inj same).1 other
  next => rfl

theorem scan_counter_opens (index : Nat) (c : Char) (rest : List Char)
    (other : c ≠ '[') : scanCounter index (c :: rest) = none := by
  unfold scanCounter
  split
  next same => exact absurd (cons.inj same).1 other
  next => rfl

theorem not_digit_of_alpha (isAlpha : c.isAlpha = true) : c.isDigit = false := by
  delta Char.isAlpha Char.isUpper Char.isLower at isAlpha
  simp only [UInt32.le_iff_toNat_le] at isAlpha
  simp only [Char.isDigit, UInt32.le_iff_toNat_le]
  simp at isAlpha ⊢
  omega

theorem counted_name_token {index : Nat}
    (scanned : scanNameToken (c :: replaceMatches (scanCounter index) 0 rest) = some found) :
    scanNameToken (c :: rest) = some found := by
  have notDigit : ∀ token : Char, token.toUpper ∈ ['N', 'E', 'F'] → token.isDigit = false :=
    fun token isToken => (bracket_no_token isToken).2
  unfold scanNameToken at scanned
  split at scanned
  next token after same =>
    by_cases isToken : token.toUpper ∈ ['N', 'E', 'F']
    · obtain ⟨rfl, counted⟩ := cons.inj same
      obtain ⟨_, rfl, after⟩ := counted_cons (notDigit token isToken) (fun _ => by simp) counted
      obtain ⟨_, rfl, -⟩ := counted_cons (by decide) (fun same => by cases same) after
      exact scanned
    · rw [if_neg isToken] at scanned
      cases scanned
  next token modifier after same =>
    by_cases isToken : token.toUpper ∈ ['N', 'E', 'F'] ∧ modifier.isAlpha = true
    · obtain ⟨rfl, counted⟩ := cons.inj same
      obtain ⟨_, rfl, colon⟩ :=
        counted_cons (notDigit token isToken.1) (fun _ => by simp) counted
      obtain ⟨_, rfl, letter⟩ := counted_cons (by decide) (fun same => by cases same) colon
      obtain ⟨_, rfl, after⟩ :=
        counted_cons (not_digit_of_alpha isToken.2) (fun _ => by simp) letter
      obtain ⟨_, rfl, -⟩ := counted_cons (by decide) (fun same => by cases same) after
      exact scanned
    · rw [if_neg isToken] at scanned
      cases scanned
  next => cases scanned

theorem template_induction {motive : List Char → Prop} (nil : motive [])
    (counter : ∀ inner rest numbers, '[' ∉ inner →
      scanCounterNumbers ('[' :: (inner ++ rest)) = some (numbers, inner.length + 1) → motive rest →
      motive ('[' :: (inner ++ rest)))
    (name : ∀ inner rest token modifier, '[' ∉ inner →
      scanCounterNumbers ('[' :: (inner ++ rest)) = none →
      scanNameToken ('[' :: (inner ++ rest)) = some (token, modifier, inner.length + 1) →
      motive rest → motive ('[' :: (inner ++ rest)))
    (literal : ∀ c rest, scanCounterNumbers (c :: rest) = none → scanNameToken (c :: rest) = none →
      motive rest → motive (c :: rest))
    (text : List Char) : motive text := by
  induction size : text.length using Nat.strong_induction_on generalizing text with
  | _ size ih =>
    have later : ∀ inner rest, text = '[' :: (inner ++ rest) → motive rest := by
      intro inner rest split
      apply ih rest.length _ rest rfl
      rw [← size, split, length_cons, length_append]
      omega
    cases isCounter : scanCounterNumbers text with
    | some found =>
      obtain ⟨inner, rest, rfl, plain, same⟩ := scan_counter_front isCounter
      exact counter inner rest found.1 plain (same ▸ isCounter) (later inner rest rfl)
    | none =>
      cases isName : scanNameToken text with
      | some found =>
        obtain ⟨inner, rest, rfl, plain, same⟩ := (scan_name_front isName).1
        exact name inner rest found.1 found.2.1 plain isCounter (same ▸ isName)
          (later inner rest rfl)
      | none =>
        cases text with
        | nil => exact nil
        | cons c rest =>
          exact literal c rest isCounter isName (ih rest.length (by simp [← size]) rest rfl)

theorem replace_token {scan : List Char → Option (List Char × Nat)} {replacement : List Char}
    (found : scan ('[' :: (inner ++ rest)) = some (replacement, inner.length + 1)) :
    replaceMatches scan 0 ('[' :: (inner ++ rest)) = replacement ++ replaceMatches scan 0 rest := by
  rw [replaceMatches, found]
  dsimp only
  rw [Nat.add_sub_cancel, replace_skip, drop_left]

theorem pieces_token {piece : TemplatePiece}
    (found : scanToken ('[' :: (inner ++ rest)) = some (piece, inner.length + 1)) :
    templatePieces 0 ('[' :: (inner ++ rest)) = piece :: templatePieces 0 rest := by
  rw [templatePieces, found]
  dsimp only
  rw [Nat.add_sub_cancel, pieces_skip, drop_left]

theorem pieces_literal (noCounter : scanCounterNumbers (c :: rest) = none)
    (noName : scanNameToken (c :: rest) = none) :
    templatePieces 0 (c :: rest) = .literal c :: templatePieces 0 rest := by
  rw [templatePieces, scanToken, noCounter, noName]
  rfl

theorem scan_token_name (noCounter : scanCounterNumbers text = none)
    (found : scanNameToken text = some (token, modifier, length)) :
    scanToken text = some (.name token modifier, length) := by
  rw [scanToken, noCounter, found]
  rfl

theorem uses_none (noName : scanNameToken (c :: rest) = none) :
    usesToken (c :: rest) letter = usesToken rest letter := by
  simp [usesToken, noName]

theorem uses_plain {letter : Char} (plain : '[' ∉ inner) (rest : List Char) :
    usesToken (inner ++ rest) letter = usesToken rest letter := by
  induction inner with
  | nil => rfl
  | cons c inner ih =>
    rw [mem_cons, not_or] at plain
    rw [cons_append, uses_none (scan_name_opens c _ (Ne.symm plain.1)), ih plain.2]

theorem uses_found {token letter : Char} {modifier : Option Char} {length : Nat}
    (found : scanNameToken (c :: (inner ++ rest)) = some (token, modifier, length))
    (plain : '[' ∉ inner) : usesToken (c :: (inner ++ rest)) letter =
    (token.toUpper == letter || usesToken rest letter) := by
  rw [← uses_plain plain rest]
  simp [usesToken, found]

/-- The pieces of a template hold each token that is anywhere in its text. -/
theorem uses_token_eq {upper lower : Char} (range : lower.toNat = upper.toNat + 32)
    (isUpper : upper.toNat < 91) (same : lower.toUpper = upper) (fixed : upper.toUpper = upper)
    (text : List Char) :
    usesToken text upper = (templatePieces 0 text).any (TemplatePiece.isNamed [upper, lower]) := by
  induction text using template_induction with
  | nil => rfl
  | counter inner rest numbers plain found ih =>
    have token : scanToken ('[' :: (inner ++ rest)) =
        some (.counter numbers, inner.length + 1) := by rw [scanToken, found]
    rw [pieces_token token, uses_none (counter_not_name found), uses_plain plain, ih]
    rfl
  | name inner rest token modifier plain noCounter found ih =>
    have folds : token.toUpper = upper ↔ token = upper ∨ token = lower := by
      refine ⟨to_upper_eq range isUpper, ?_⟩
      rintro (rfl | rfl)
      · exact fixed
      · exact same
    rw [pieces_token (scan_token_name noCounter found), uses_found found plain]
    congr 1
    rw [Bool.eq_iff_iff, beq_iff_eq, folds]
    simp [TemplatePiece.isNamed]
  | literal c rest noCounter noName ih =>
    rw [pieces_literal noCounter noName, uses_none noName, ih]
    rfl

end

section

variable (host : HostLocale) (entry : CommanderDirectoryEntry) (index : Nat)

def scanName (text : List Char) : Option (List Char × Nat) :=
  (scanNameToken text).map fun found =>
    (nameText host entry (splitEntryBaseNameAndExt host entry) found.1 found.2.1, found.2.2)

theorem name_expansion (upper : (TemplatePiece.name token modifier).isNamed ['n', 'e'] = false) :
    nameText host entry (splitEntryBaseNameAndExt host entry) token modifier =
    (TemplatePiece.name token modifier).expansion host entry index := by
  have notLower : token ≠ 'n' ∧ token ≠ 'e' := by simpa [TemplatePiece.isNamed] using upper
  have base : token.toUpper = 'N' ↔ token = 'N' :=
    ⟨fun folds => (to_upper_eq rfl (by decide) folds).resolve_right notLower.1, by rintro rfl; rfl⟩
  have extension : token.toUpper = 'E' ↔ token = 'E' :=
    ⟨fun folds => (to_upper_eq rfl (by decide) folds).resolve_right notLower.2, by rintro rfl; rfl⟩
  simp only [TemplatePiece.expansion, nameText, base, extension]

theorem replace_both (text : List Char)
    (upper : (templatePieces 0 text).any (TemplatePiece.isNamed ['n', 'e']) = false)
    (exact : ∀ numbers, .counter numbers ∈ templatePieces 0 text → ExactCounter index numbers) :
    replaceMatches (scanName host entry) 0 (replaceMatches (scanCounter index) 0 text) =
    (templatePieces 0 text).flatMap (·.expansion host entry index) := by
  have nameOpens : ∀ c rest, c ≠ '[' → scanName host entry (c :: rest) = none :=
    fun c rest other => by rw [scanName, scan_name_opens c rest other]; rfl
  induction text using template_induction with
  | nil => rfl
  | counter inner rest numbers plain found ih =>
    -- No bracket takes the place of a counter, and the second pass copies what does.
    have token : scanToken ('[' :: (inner ++ rest)) =
        some (.counter numbers, inner.length + 1) := by rw [scanToken, found]
    rw [pieces_token token] at upper exact ⊢
    rw [any_cons, Bool.or_eq_false_iff] at upper
    rw [replace_token (by rw [scan_counter_eq, found]; rfl),
      replace_plain nameOpens (counter_no_bracket index _),
      ih upper.2 fun numbers mem => exact numbers (mem_cons_of_mem _ mem),
      counter_text_eq (exact numbers mem_cons_self)]
    rfl
  | name inner rest token modifier plain noCounter found ih =>
    -- The first pass copies the token, so the second one finds it.
    rw [pieces_token (scan_token_name noCounter found)] at upper exact ⊢
    rw [any_cons, Bool.or_eq_false_iff] at upper
    have still := (scan_name_front found).2 (replaceMatches (scanCounter index) 0 rest)
    have noScan : scanCounter index ('[' :: (inner ++ rest)) = none := by
      rw [scan_counter_eq, noCounter]
      rfl
    rw [take_succ_cons, take_left, cons_append] at still
    rw [replaceMatches, noScan]
    rw [replace_plain (scan_counter_opens index) plain,
      replace_token (by rw [scanName, still]; rfl), ih upper.2 fun numbers mem =>
        exact numbers (mem_cons_of_mem _ mem), flatMap_cons,
      name_expansion host entry index upper.1]
  | literal c rest noCounter noName ih =>
    rw [pieces_literal noCounter noName] at upper exact ⊢
    rw [any_cons, Bool.or_eq_false_iff] at upper
    have noScan : scanCounter index (c :: rest) = none := by
      rw [scan_counter_eq, noCounter]
      rfl
    have noToken : scanName host entry (c :: replaceMatches (scanCounter index) 0 rest) = none := by
      rw [scanName, Option.map_eq_none_iff, Option.eq_none_iff_forall_not_mem]
      intro found scanned
      cases noName.symm.trans (counted_name_token scanned)
    rw [replaceMatches, noScan]
    rw [replaceMatches, noToken, flatMap_cons,
      ← ih upper.2 fun numbers mem => exact numbers (mem_cons_of_mem _ mem)]
    rfl

theorem uses_extension_or_name (template : List Char) :
    (templatePieces 0 template).any (TemplatePiece.isNamed ['E', 'e', 'F', 'f']) =
    (usesToken template 'F' || usesToken template 'E') := by
  have full := @uses_token_eq 'F' 'f' rfl (by decide) rfl rfl template
  have extension := @uses_token_eq 'E' 'e' rfl (by decide) rfl rfl template
  have either : ∀ piece : TemplatePiece, piece.isNamed ['E', 'e', 'F', 'f'] = true ↔
      piece.isNamed ['F', 'f'] = true ∨ piece.isNamed ['E', 'e'] = true := by
    intro piece
    cases piece with
    | name token modifier =>
      simp only [TemplatePiece.isNamed, decide_eq_true_eq, mem_cons]
      tauto
    | literal | counter => simp [TemplatePiece.isNamed]
  rw [full, extension, Bool.eq_iff_iff]
  simp only [any_eq_true, Bool.or_eq_true, either, and_or_left, exists_or]

end

/-- Templates are expanded token by token, from left to right. A blank result stays blank. -/
theorem rename_template_expands (host : HostLocale) (entry : CommanderDirectoryEntry)
    (template : String) (index : Nat)
    (upper : (templatePieces 0 (trim template).toList).any (TemplatePiece.isNamed ['n', 'e']) =
      false)
    (exact : ∀ numbers, .counter numbers ∈ templatePieces 0 (trim template).toList →
      ExactCounter index numbers) :
    applyCommanderRenameTemplate host entry template index =
      if expandedTemplate host entry template index = "" then ""
      else keepExtension host entry template (expandedTemplate host entry template index) := by
  have both := replace_both host entry index (trim template).toList upper exact
  have expanded : trim (String.ofList (replaceMatches (scanName host entry) 0
      (replaceMatches (scanCounter index) 0 (trim template).toList))) =
      expandedTemplate host entry template index := by rw [both, expandedTemplate]
  by_cases blank : (trim template).toList = []
  · have empty : expandedTemplate host entry template index = "" := by
      rw [expandedTemplate, blank, templatePieces, flatMap_nil]
      decide
    rw [applyCommanderRenameTemplate, empty]
    simp [blank]
  · unfold applyCommanderRenameTemplate keepExtension
    rw [uses_extension_or_name]
    unfold scanName at expanded
    simp only [if_neg blank, expanded, Bool.not_or, Bool.and_eq_true, and_assoc]

def scannedReport : CommanderDirectoryEntry where
  id := "/scans::report.txt"
  name := "report.txt"
  ext := "txt"

theorem numbered_report_expands :
    applyCommanderRenameTemplate plainHost scannedReport " [N:l]-[c:8:3:2] " 1 = "report-010.txt" ∧
    applyCommanderRenameTemplate plainHost scannedReport " [N:l]-[c:8:3:2] " 1 =
      if expandedTemplate plainHost scannedReport " [N:l]-[c:8:3:2] " 1 = "" then ""
      else keepExtension plainHost scannedReport " [N:l]-[c:8:3:2] "
        (expandedTemplate plainHost scannedReport " [N:l]-[c:8:3:2] " 1) := by
  refine ⟨by decide +kernel,
    rename_template_expands plainHost scannedReport " [N:l]-[c:8:3:2] " 1 (by decide +kernel) ?_⟩
  intro numbers mem
  have pieces : templatePieces 0 (trim " [N:l]-[c:8:3:2] ").toList =
      [.name 'N' (some 'l'), .literal '-', .counter [8, 3, 2]] := by rfl
  rw [pieces] at mem
  simp only [mem_cons, reduceCtorEq, TemplatePiece.counter.injEq, false_or, not_mem_nil,
    or_false] at mem
  rw [mem]
  exact ⟨by decide, by decide⟩

/-- A file would keep its extension where the template is blank. -/
theorem blank_template_stays_blank :
    ¬ ∀ (host : HostLocale) (entry : CommanderDirectoryEntry) (template : String) (index : Nat),
      applyCommanderRenameTemplate host entry template index =
        keepExtension host entry template (expandedTemplate host entry template index) := by
  intro claimed
  have blank := claimed plainHost scannedReport "" 0
  revert blank
  decide +kernel

end RuneTerminal.Commander
