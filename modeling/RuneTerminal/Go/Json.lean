import RuneTerminal.Go.Strings

/-! Values as `json.Unmarshal` sees them, and its decoding into records. A member goes to the field
with its name, or to one whose name differs in letter case only; `null` changes nothing, and a value
of the wrong type is an error. -/

namespace RuneTerminal.Go.Json

open Go.Strings List Option

/-- Numbers with a fraction or an exponent are kept as they are written. -/
inductive Value where
  | null
  | bool (value : Bool)
  | int (value : Int)
  | real (literal : String)
  | str (text : String)
  | arr (items : List Value)
  | obj (members : List (String × Value))

mutual

def depth : Value → Nat
  | .arr items => itemsDepth items + 1
  | .obj members => membersDepth members + 1
  | _ => 0

def itemsDepth : List Value → Nat
  | [] => 0
  | item :: rest => max (depth item) (itemsDepth rest)

def membersDepth : List (String × Value) → Nat
  | [] => 0
  | (_, value) :: rest => max (depth value) (membersDepth rest)

end

def maxNestingDepth : Nat := 10000

variable {bound : Nat} {text : List Char}

theorem items_depth_le {items : List Value} (each : ∀ item ∈ items, depth item ≤ bound) :
    itemsDepth items ≤ bound := by
  induction items with
  | nil => exact Nat.zero_le _
  | cons item rest ih =>
    have first := each item mem_cons_self
    have others := ih fun other mem => each other (mem_cons_of_mem _ mem)
    rw [itemsDepth]
    omega

variable {members : List (String × Value)}

theorem members_depth_le (each : ∀ entry ∈ members, depth entry.2 ≤ bound) :
    membersDepth members ≤ bound := by
  induction members with
  | nil => exact Nat.zero_le _
  | cons entry rest ih =>
    have first := each entry mem_cons_self
    have others := ih fun other mem => each other (mem_cons_of_mem _ mem)
    rw [membersDepth]
    omega

abbrev Decoder (Data : Type) := Value → Data → Option Data

def decodeString : Decoder String
  | .null, current => some current
  | .str text, _ => some text
  | _, _ => none

def decodeBool : Decoder Bool
  | .null, current => some current
  | .bool value, _ => some value
  | _, _ => none

/-- Into an `int` of 64 bits. -/
def decodeInt : Decoder Int
  | .null, current => some current
  | .int value, _ =>
    if -9223372036854775808 ≤ value ∧ value ≤ 9223372036854775807 then some value else none
  | _, _ => none

def decodeList {Item : Type} (decodeItem : Decoder Item) (zero : Item) : Decoder (List Item)
  | .null, _ => some []
  | .arr items, _ => items.mapM fun item => decodeItem item zero
  | _, _ => none

/-- The letters that a name without case is compared by; two letters outside ASCII
fold to letters in it. -/
def foldChar (c : Char) : Char :=
  if c = '\u017f' then 's' else if c = '\u212a' then 'k' else c.toLower

def sameFolded (name key : String) : Bool :=
  name.toList.map foldChar == key.toList.map foldChar

def resolveName (names : List String) (key : String) : Option String :=
  if names.contains key then some key else names.find? (sameFolded · key)

structure Field (Record : Type) where
  name : String
  decode : Decoder Record

section

variable {Record : Type}

def findField (fields : List (Field Record)) (key : String) : Option (Field Record) :=
  (resolveName (fields.map Field.name) key).bind fun name => fields.find? (·.name == name)

variable {fields : List (Field Record)}

theorem find_field_unknown {key : String}
    (unknown : resolveName (fields.map Field.name) key = none) : findField fields key = none := by
  rw [findField, unknown, bind_none]

def decodeMembers (fields : List (Field Record)) :
    List (String × Value) → Record → Option Record
  | [], current => some current
  | (key, value) :: rest, current =>
    match findField fields key with
    | none => decodeMembers fields rest current
    | some field => (field.decode value current).bind (decodeMembers fields rest)

def decodeStruct (fields : List (Field Record)) : Decoder Record
  | .null, current => some current
  | .obj members, current => decodeMembers fields members current
  | _, _ => none

theorem decode_members_unknown (unknown : ∀ entry ∈ members, findField fields entry.1 = none)
    (current : Record) : decodeMembers fields members current = some current := by
  induction members with
  | nil => rfl
  | cons entry rest ih =>
    rw [decodeMembers, unknown entry mem_cons_self]
    exact ih fun other mem => unknown other (mem_cons_of_mem _ mem)

end

/-- `json.Unmarshal` of a text that is valid JSON into a zero value. -/
def unmarshal {Data : Type} (decode : Decoder Data) (zero : Data) (value : Value) :
    Option Data :=
  if depth value ≤ maxNestingDepth then decode value zero else none

def omitEmpty (name text : String) : List (String × Value) :=
  if text = "" then [] else [(name, .str text)]

theorem mem_omit_empty {name text : String} {entry : String × Value}
    (mem : entry ∈ omitEmpty name text) : entry = (name, .str text) := by
  unfold omitEmpty at mem
  split_ifs at mem with empty
  · cases mem
  · exact mem_singleton.mp mem

/-- Names and numbers are told apart by the parser, and the text of a string still
has its escapes. -/
inductive Token where
  | beginObject
  | endObject
  | beginArray
  | endArray
  | colon
  | comma
  | str (raw : List Char)
  | word (text : List Char)
  deriving DecidableEq

inductive LexMode where
  | between
  | word (text : List Char)
  | str (raw : List Char)
  | escape (raw : List Char)

structure LexState where
  tokens : List Token := []
  mode : LexMode := .between

def isBlank (c : Char) : Bool :=
  c = ' ' ∨ c = '\t' ∨ c = '\n' ∨ c = '\r'

def punctuation : Char → Option Token
  | '{' => some .beginObject
  | '}' => some .endObject
  | '[' => some .beginArray
  | ']' => some .endArray
  | ':' => some .colon
  | ',' => some .comma
  | _ => none

def isWordChar (c : Char) : Bool :=
  c.isAlphanum ∨ c = '+' ∨ c = '-' ∨ c = '.'

def isEscape (c : Char) : Bool :=
  c ∈ ['"', '\\', '/', 'b', 'f', 'n', 'r', 't', 'u']

def startToken (tokens : List Token) (c : Char) : Option LexState :=
  if isBlank c then some ⟨tokens, .between⟩
  else if c = '"' then some ⟨tokens, .str []⟩
  else if isWordChar c then some ⟨tokens, .word [c]⟩
  else (punctuation c).map fun token => ⟨tokens ++ [token], .between⟩

def lexStep (s : LexState) (c : Char) : Option LexState :=
  match s.mode with
  | .between => startToken s.tokens c
  | .word text =>
    if isWordChar c then some ⟨s.tokens, .word (text ++ [c])⟩
    else startToken (s.tokens ++ [.word text]) c
  | .str raw =>
    if c = '"' then some ⟨s.tokens ++ [.str raw], .between⟩
    else if c = '\\' then some ⟨s.tokens, .escape raw⟩
    else if c.toNat < 32 then none
    else some ⟨s.tokens, .str (raw ++ [c])⟩
  | .escape raw => if isEscape c then some ⟨s.tokens, .str (raw ++ ['\\', c])⟩ else none

def LexState.finish (s : LexState) : Option (List Token) :=
  match s.mode with
  | .between => some s.tokens
  | .word text => some (s.tokens ++ [.word text])
  | _ => none

def lexFrom (s : LexState) (text : List Char) : Option LexState :=
  text.foldlM lexStep s

def lex (text : List Char) : Option (List Token) :=
  (lexFrom {} text).bind LexState.finish

def hexDigit (c : Char) : Option Nat :=
  if '0' ≤ c ∧ c ≤ '9' then some (c.toNat - 48)
  else if 'a' ≤ c ∧ c ≤ 'f' then some (c.toNat - 87)
  else if 'A' ≤ c ∧ c ≤ 'F' then some (c.toNat - 55)
  else none

def hexValue (digits : List Char) : Option Nat :=
  digits.foldlM (fun value c => (hexDigit c).map fun digit => value * 16 + digit) 0

def simpleEscape : Char → Option Char
  | '"' => some '"'
  | '\\' => some '\\'
  | '/' => some '/'
  | 'b' => some '\x08'
  | 'f' => some '\x0c'
  | 'n' => some '\n'
  | 'r' => some '\r'
  | 't' => some '\t'
  | _ => none

/-- What an escape stands for is a character or a code unit of UTF-16. -/
def unescape : List Char → Option (List (Char ⊕ Nat))
  | '\\' :: 'u' :: a :: b :: c :: d :: rest => do
      let unit ← hexValue [a, b, c, d]
      let others ← unescape rest
      return .inr unit :: others
  | '\\' :: c :: rest => do
      let char ← simpleEscape c
      let others ← unescape rest
      return .inl char :: others
  | '\\' :: [] => none
  | c :: rest => (unescape rest).map (.inl c :: ·)
  | [] => some []

def isHighSurrogate (unit : Nat) : Bool := 0xd800 ≤ unit ∧ unit < 0xdc00

def isLowSurrogate (unit : Nat) : Bool := 0xdc00 ≤ unit ∧ unit < 0xe000

def joinUnits : List (Char ⊕ Nat) → List Char
  | .inr high :: .inr low :: rest =>
    if isHighSurrogate high ∧ isLowSurrogate low then
      Char.ofNat (0x10000 + (high - 0xd800) * 0x400 + (low - 0xdc00)) :: joinUnits rest
    else
      (if isHighSurrogate high ∨ isLowSurrogate high then '\ufffd' else Char.ofNat high) ::
        joinUnits (.inr low :: rest)
  | .inr unit :: rest =>
    (if isHighSurrogate unit ∨ isLowSurrogate unit then '\ufffd' else Char.ofNat unit) ::
      joinUnits rest
  | .inl c :: rest => c :: joinUnits rest
  | [] => []

def unquote (raw : List Char) : Option String :=
  (unescape raw).map fun units => String.ofList (joinUnits units)

def someDigits (text : List Char) : Option (List Char × List Char) :=
  if text.takeWhile Char.isDigit = [] then none
  else some (text.takeWhile Char.isDigit, text.dropWhile Char.isDigit)

def skipFraction : List Char → Option (List Char)
  | '.' :: rest => (someDigits rest).map Prod.snd
  | rest => some rest

def skipExponent : List Char → Option (List Char)
  | 'e' :: '+' :: rest | 'e' :: '-' :: rest | 'E' :: '+' :: rest | 'E' :: '-' :: rest =>
    (someDigits rest).map Prod.snd
  | 'e' :: rest | 'E' :: rest => (someDigits rest).map Prod.snd
  | rest => some rest

def unsignedNumber (text : List Char) : Option (List Char × List Char) := do
  let (digits, rest) ← someDigits text
  if digits.head? = some '0' ∧ digits.length ≠ 1 then none
  else
    let afterFraction ← skipFraction rest
    let afterExponent ← skipExponent afterFraction
    if afterExponent = [] then some (digits, rest) else none

def numberValue (text : List Char) : Option Value :=
  match text with
  | '-' :: digits => (unsignedNumber digits).map fun (whole, rest) =>
    if rest = [] then .int (-(Nat.ofDigitChars 10 whole 0)) else .real (String.ofList text)
  | digits => (unsignedNumber digits).map fun (whole, rest) =>
    if rest = [] then .int (Nat.ofDigitChars 10 whole 0) else .real (String.ofList text)

def wordValue (text : List Char) : Option Value :=
  if text = "null".toList then some .null
  else if text = "true".toList then some (.bool true)
  else if text = "false".toList then some (.bool false)
  else numberValue text

mutual

/-- A value and the tokens behind it. Each call takes a token, so their number is fuel
enough. -/
def parseValue : Nat → List Token → Option (Value × List Token)
  | 0, _ => none
  | fuel + 1, tokens =>
    match tokens with
    | .word text :: rest => (wordValue text).map (·, rest)
    | .str raw :: rest => (unquote raw).map (.str ·, rest)
    | .beginArray :: .endArray :: rest => some (.arr [], rest)
    | .beginArray :: rest => (parseItems fuel rest).map fun (items, rest) => (.arr items, rest)
    | .beginObject :: .endObject :: rest => some (.obj [], rest)
    | .beginObject :: rest =>
      (parseMembers fuel rest).map fun (members, rest) => (.obj members, rest)
    | _ => none

def parseItems : Nat → List Token → Option (List Value × List Token)
  | 0, _ => none
  | fuel + 1, tokens =>
    (parseValue fuel tokens).bind fun (item, rest) =>
      match rest with
      | .comma :: rest => (parseItems fuel rest).map fun (items, rest) => (item :: items, rest)
      | .endArray :: rest => some ([item], rest)
      | _ => none

def parseMembers : Nat → List Token → Option (List (String × Value) × List Token)
  | 0, _ => none
  | fuel + 1, tokens =>
    match tokens with
    | .str raw :: .colon :: rest =>
      (unquote raw).bind fun key => (parseValue fuel rest).bind fun (value, rest) =>
        match rest with
        | .comma :: rest =>
          (parseMembers fuel rest).map fun (members, rest) => ((key, value) :: members, rest)
        | .endObject :: rest => some ([(key, value)], rest)
        | _ => none
    | _ => none

end

def parseTokens (tokens : List Token) : Option Value :=
  match parseValue (2 * tokens.length) tokens with
  | some (value, []) => some value
  | _ => none

def parse (text : List Char) : Option Value :=
  (lex text).bind parseTokens

/-- `json.Unmarshal` of a text into a zero value. -/
def unmarshalText {Data : Type} (decode : Decoder Data) (zero : Data) (text : String) :
    Option Data :=
  (parse text.toList).bind (unmarshal decode zero)

variable {s : LexState} {c : Char} {tokens : List Token}

def LexState.behind (front : List Token) (s : LexState) : LexState :=
  ⟨front ++ s.tokens, s.mode⟩

theorem start_token_behind (front tokens : List Token) (c : Char) :
    startToken (front ++ tokens) c = (startToken tokens c).map (LexState.behind front) := by
  unfold startToken
  split_ifs
  · rfl
  · rfl
  · rfl
  rw [Option.map_map]
  congr 1
  funext token
  simp [LexState.behind]

theorem lex_step_behind (front : List Token) (s : LexState) (c : Char) :
    lexStep (s.behind front) c = (lexStep s c).map (LexState.behind front) := by
  obtain ⟨tokens, mode⟩ := s
  cases mode with
  | between => exact start_token_behind front tokens c
  | word text =>
    have closed := start_token_behind front (tokens ++ [.word text]) c
    rw [← append_assoc] at closed
    simp only [lexStep, LexState.behind]
    split_ifs
    · rfl
    · exact closed
  | str raw =>
    simp only [lexStep, LexState.behind]
    split_ifs
    · simp [LexState.behind]
    · rfl
    · rfl
    · rfl
  | escape raw =>
    simp only [lexStep, LexState.behind]
    split_ifs
    · rfl
    · rfl

theorem lex_from_behind (front : List Token) (s : LexState) (text : List Char) :
    lexFrom (s.behind front) text = (lexFrom s text).map (LexState.behind front) := by
  unfold lexFrom
  induction text generalizing s with
  | nil => rfl
  | cons c text ih =>
    rw [foldlM_cons, foldlM_cons, lex_step_behind]
    cases lexStep s c with
    | none => rfl
    | some next => exact ih next

theorem finish_behind (front : List Token) (s : LexState) :
    (s.behind front).finish = s.finish.map (front ++ ·) := by
  obtain ⟨tokens, mode⟩ := s
  cases mode <;> simp [LexState.finish, LexState.behind]

theorem start_token_blank (tokens : List Token) (blank : isBlank c = true) :
    startToken tokens c = some ⟨tokens, .between⟩ :=
  if_pos blank

theorem lex_step_newline (s : LexState) :
    lexStep s '\n' = s.finish.map fun tokens => ⟨tokens, .between⟩ := by
  obtain ⟨tokens, mode⟩ := s
  cases mode with
  | between | str | escape => rfl
  | word text => exact start_token_blank (c := '\n') _ rfl

theorem lex_append_newline (first second : List Char) : lex (first ++ '\n' :: second) =
    (lex first).bind fun tokens => (lex second).map (tokens ++ ·) := by
  unfold lex lexFrom
  rw [foldlM_append, bind_eq_bind, bind_assoc, bind_assoc]
  congr 1
  funext s
  rw [foldlM_cons, lex_step_newline]
  cases s.finish with
  | none => rfl
  | some tokens =>
    have further := lex_from_behind tokens {} second
    have start : LexState.behind tokens {} = ⟨tokens, .between⟩ := by
      simp [LexState.behind]
    rw [start] at further
    change ((lexFrom ⟨tokens, .between⟩ second).bind LexState.finish) = _
    rw [further]
    change _ = ((lexFrom {} second).bind LexState.finish).map (tokens ++ ·)
    cases lexFrom {} second with
    | none => rfl
    | some last => exact finish_behind tokens last

theorem lex_lines (lines : List (List Char)) :
    lex (['\n'].intercalate lines) = (lines.mapM lex).map List.flatten := by
  induction lines with
  | nil => rfl
  | cons line lines ih =>
    cases lines with
    | nil =>
      rw [mapM_cons, intercalate_singleton]
      cases lex line with
      | none => rfl
      | some tokens => simp
    | cons next lines =>
      rw [intercalate_cons_cons, append_assoc, singleton_append,
        lex_append_newline, ih, mapM_cons (a := line)]
      cases lex line with
      | none => rfl
      | some tokens =>
        cases (next :: lines).mapM lex with
        | none | some => rfl

theorem not_word_of_space (space : isSpace c = true) :
    isWordChar c = false ∧ c ≠ '"' ∧ c ≠ '\\' ∧ isEscape c = false ∧ punctuation c = none := by
  have other (mark : Char) (notSpace : isSpace mark = false) : c ≠ mark := by
    rintro rfl
    rw [space] at notSpace
    cases notSpace
  refine ⟨?_, other '"' rfl, other '\\' rfl, ?_, ?_⟩
  · have notAlphanum : c.isAlphanum = false := by
      simp only [isSpace, Bool.or_eq_true, beq_iff_eq, UInt32.le_iff_toNat_le, ← UInt32.toNat_inj]
        at space
      rw [← Bool.not_eq_true]
      intro alphanum
      delta Char.isAlphanum Char.isAlpha Char.isUpper Char.isLower Char.isDigit at alphanum
      simp only [UInt32.le_iff_toNat_le] at alphanum
      simp at space alphanum
      omega
    rw [isWordChar]
    simp [notAlphanum, other '+' rfl, other '-' rfl, other '.' rfl]
  · rw [isEscape, decide_eq_false_iff_not]
    intro mem
    have each : (['"', '\\', '/', 'b', 'f', 'n', 'r', 't', 'u'].all fun mark => !isSpace mark) =
        true := by
      decide
    have notSpace : isSpace c = false := by
      simpa using all_eq_true.mp each c mem
    exact other _ notSpace rfl
  unfold punctuation
  split
  · exact absurd rfl (other '{' rfl)
  · exact absurd rfl (other '}' rfl)
  · exact absurd rfl (other '[' rfl)
  · exact absurd rfl (other ']' rfl)
  · exact absurd rfl (other ':' rfl)
  · exact absurd rfl (other ',' rfl)
  · rfl

theorem finish_space (space : isSpace c = true)
    (lexed : (lexStep s c).bind LexState.finish = some tokens) : s.finish = some tokens := by
  obtain ⟨notWord, notQuote, notBackslash, notEscape, notPunctuation⟩ := not_word_of_space space
  have start (front : List Token) (started : (startToken front c).bind LexState.finish =
      some tokens) : front = tokens := by
    unfold startToken at started
    by_cases blank : isBlank c = true
    · rw [if_pos blank] at started
      exact some.inj started
    · rw [if_neg blank, if_neg notQuote, if_neg (by simp [notWord]), notPunctuation] at started
      cases started
  obtain ⟨front, mode⟩ := s
  cases mode with
  | between => exact congrArg some (start front lexed)
  | word text =>
    simp only [lexStep, notWord] at lexed
    exact congrArg some (start _ lexed)
  | str raw =>
    simp only [lexStep, notQuote, notBackslash, if_false] at lexed
    split_ifs at lexed
    · cases lexed
    · cases lexed
  | escape raw =>
    simp only [lexStep, notEscape] at lexed
    cases lexed

theorem lex_cons_space (space : isSpace c = true) (lexed : lex (c :: text) = some tokens) :
    lex text = some tokens := by
  obtain ⟨notWord, notQuote, _, _, notPunctuation⟩ := not_word_of_space space
  change ((startToken [] c).bind fun next => text.foldlM lexStep next).bind _ = _ at lexed
  unfold startToken at lexed
  by_cases blank : isBlank c = true
  · rw [if_pos blank] at lexed
    exact lexed
  · rw [if_neg blank, if_neg notQuote, if_neg (by simp [notWord]), notPunctuation] at lexed
    cases lexed

theorem lex_concat_space (space : isSpace c = true) (lexed : lex (text ++ [c]) = some tokens) :
    lex text = some tokens := by
  unfold lex lexFrom at lexed ⊢
  rw [foldlM_append, bind_eq_bind] at lexed
  cases reached : text.foldlM lexStep {} with
  | none =>
    rw [reached] at lexed
    cases lexed
  | some last =>
    rw [reached, bind_some, foldlM_cons, bind_eq_bind, bind_assoc] at lexed
    exact finish_space space lexed

theorem lex_drop_while_space (lexed : lex text = some tokens) :
    lex (text.dropWhile isSpace) = some tokens := by
  induction text with
  | nil => exact lexed
  | cons c text ih =>
    rw [dropWhile_cons]
    split_ifs with space
    · exact ih (lex_cons_space space lexed)
    · exact lexed

theorem lex_rdrop_while_space (lexed : lex text = some tokens) :
    lex (text.rdropWhile isSpace) = some tokens := by
  induction text using reverseRecOn with
  | nil => exact lexed
  | append_singleton text c ih =>
    rw [rdropWhile_concat]
    split_ifs with space
    · exact ih (lex_concat_space space lexed)
    · exact lexed

theorem lex_trim_space {text : String} (lexed : lex text.toList = some tokens) :
    lex (trimSpace text).toList = some tokens := by
  rw [trimSpace, String.toList_ofList]
  exact lex_rdrop_while_space (lex_drop_while_space lexed)

theorem parse_append (behind : List Token) (more fuel : Nat) :
    (∀ tokens value rest, parseValue fuel tokens = some (value, rest) →
      parseValue (fuel + more) (tokens ++ behind) = some (value, rest ++ behind)) ∧
    (∀ tokens items rest, parseItems fuel tokens = some (items, rest) →
      parseItems (fuel + more) (tokens ++ behind) = some (items, rest ++ behind)) ∧
    ∀ tokens members rest, parseMembers fuel tokens = some (members, rest) →
      parseMembers (fuel + more) (tokens ++ behind) = some (members, rest ++ behind) := by
  have noValue : ∀ fuel, parseValue fuel [] = none := by
    intro fuel
    cases fuel <;> rfl
  induction fuel with
  | zero =>
    refine ⟨?_, ?_, ?_⟩
    all_goals
      intro tokens read rest parsed
      simp [parseValue, parseItems, parseMembers] at parsed
  | succ fuel ih =>
    obtain ⟨values, itemLists, memberLists⟩ := ih
    rw [Nat.add_right_comm]
    refine ⟨?_, ?_, ?_⟩
    · intro tokens value rest parsed
      unfold parseValue at parsed
      split at parsed
      case h_4 after notEmpty =>
        obtain ⟨⟨items, last⟩, inside, same⟩ := map_eq_some_iff.mp parsed
        cases same
        have further := itemLists _ _ _ inside
        cases after with
        | nil => cases fuel <;> simp [parseItems, noValue] at inside
        | cons token after =>
          cases token <;> simp_all [parseValue]
      case h_6 after notEmpty =>
        obtain ⟨⟨members, last⟩, inside, same⟩ := map_eq_some_iff.mp parsed
        cases same
        have further := memberLists _ _ _ inside
        cases after with
        | nil => cases fuel <;> simp [parseMembers] at inside
        | cons token after =>
          cases token <;> simp_all [parseValue]
      all_goals simp_all [parseValue]
    · intro tokens items rest parsed
      unfold parseItems at parsed ⊢
      obtain ⟨⟨item, after⟩, first, parsed⟩ := bind_eq_some_iff.mp parsed
      rw [values _ _ _ first]
      dsimp only at parsed ⊢
      split at parsed
      · obtain ⟨⟨others, last⟩, later, same⟩ := map_eq_some_iff.mp parsed
        cases same
        simp [itemLists _ _ _ later]
      · cases parsed
        simp
      · cases parsed
    intro tokens members rest parsed
    unfold parseMembers at parsed
    split at parsed
    · obtain ⟨key, unquoted, parsed⟩ := bind_eq_some_iff.mp parsed
      obtain ⟨⟨value, after⟩, first, parsed⟩ := bind_eq_some_iff.mp parsed
      rw [cons_append, cons_append, parseMembers, unquoted, values _ _ _ first]
      dsimp only at parsed ⊢
      split at parsed
      · obtain ⟨⟨others, last⟩, later, same⟩ := map_eq_some_iff.mp parsed
        cases same
        simp [memberLists _ _ _ later]
      · cases parsed
        simp
      · cases parsed
    · cases parsed

theorem parse_tokens_append {value : Value} (parsed : parseTokens tokens = some value)
    (behind : List Token) :
    parseTokens (tokens ++ behind) = if behind = [] then some value else none := by
  unfold parseTokens at parsed ⊢
  split at parsed
  next read =>
    cases parsed
    have further := (parse_append behind (2 * behind.length) _).1 _ _ _ read
    rw [← Nat.mul_add, ← length_append] at further
    rw [further]
    cases behind <;> rfl
  next => cases parsed

def Token.kind : Token → Token
  | .str _ => .str []
  | .word _ => .word []
  | token => token

def LexState.kinds (s : LexState) : List Token :=
  s.tokens.map Token.kind ++
    match s.mode with
    | .between => []
    | .word _ => [.word []]
    | .str _ => [.str []]
    | .escape _ => [.str []]

variable {next : LexState}

theorem kinds_start_token (started : startToken tokens c = some next) :
    tokens.map Token.kind <+: next.kinds := by
  unfold startToken at started
  split_ifs at started
  · cases started
    exact prefix_append _ _
  · cases started
    exact prefix_append _ _
  · cases started
    exact prefix_append _ _
  · obtain ⟨mark, -, same⟩ := map_eq_some_iff.mp started
    cases same
    simp [LexState.kinds]

theorem kinds_lex_step (step : lexStep s c = some next) : s.kinds <+: next.kinds := by
  obtain ⟨tokens, mode⟩ := s
  cases mode with
  | between => simpa [LexState.kinds] using kinds_start_token step
  | word text =>
    unfold lexStep at step
    dsimp only at step
    split_ifs at step
    · cases step
      exact prefix_rfl
    · simpa [LexState.kinds, Token.kind] using kinds_start_token step
  | str raw =>
    unfold lexStep at step
    dsimp only at step
    split_ifs at step
    all_goals
      cases step
      simp [LexState.kinds, Token.kind]
  | escape raw =>
    unfold lexStep at step
    dsimp only at step
    split_ifs at step
    cases step
    exact prefix_rfl

theorem kinds_lex_from (lexed : lexFrom s text = some next) : s.kinds <+: next.kinds := by
  induction text generalizing s with
  | nil =>
    cases lexed
    exact prefix_rfl
  | cons c text ih =>
    obtain ⟨after, first, later⟩ := bind_eq_some_iff.mp lexed
    exact (kinds_lex_step first).trans (ih later)

theorem kinds_finish (finished : s.finish = some tokens) : tokens.map Token.kind = s.kinds := by
  obtain ⟨before, mode⟩ := s
  cases mode with
  | between =>
    cases finished
    simp [LexState.kinds]
  | word text =>
    cases finished
    simp [LexState.kinds, Token.kind]
  | str | escape => cases finished

theorem kinds_brace (step : lexStep s '{' = some next) : ∃ kind ∈ next.kinds, kind ≠ .word [] := by
  obtain ⟨tokens, mode⟩ := s
  cases mode with
  | between | word =>
    cases step
    exact ⟨.beginObject, by simp [LexState.kinds, Token.kind], by simp⟩
  | str raw =>
    cases step
    exact ⟨.str [], by simp [LexState.kinds], by simp⟩
  | escape raw => cases step

theorem word_value_not_object : wordValue text ≠ some (.obj members) := by
  unfold wordValue numberValue
  intro read
  split_ifs at read
  · cases read
  · cases read
  · cases read
  split at read
  all_goals
    obtain ⟨⟨whole, rest⟩, -, same⟩ := map_eq_some_iff.mp read
    dsimp only at same
    split_ifs at same

theorem parse_opened_otherwise {before after : List Char} {first : Token}
    (opened : ∃ s, lexFrom {} before = some s ∧ ∃ others, s.kinds = first :: others)
    (other : first ≠ .beginObject) {value : Value}
    (parsed : parse (before ++ '{' :: after) = some value) :
    value ≠ .null ∧ ∀ members, value ≠ .obj members := by
  obtain ⟨s, reached, others, kinds⟩ := opened
  obtain ⟨tokens, lexed, parsed⟩ := bind_eq_some_iff.mp parsed
  obtain ⟨last, ran, finished⟩ := bind_eq_some_iff.mp lexed
  rw [lexFrom, foldlM_append, show before.foldlM lexStep {} = some s from reached,
    bind_eq_bind, bind_some] at ran
  obtain ⟨next, brace, ran⟩ := bind_eq_some_iff.mp ran
  have run : lexFrom next after = some last := ran
  have kept : tokens.map Token.kind = last.kinds := kinds_finish finished
  obtain ⟨kind, mem, notWord⟩ := kinds_brace brace
  have marked : kind ∈ tokens.map Token.kind := kept ▸ (kinds_lex_from run).subset mem
  have head : first :: others <+: tokens.map Token.kind := by
    rw [kept, ← kinds]
    exact (kinds_lex_step brace).trans (kinds_lex_from run)
  unfold parseTokens at parsed
  split at parsed
  next read =>
    cases parsed
    cases tokens with
    | nil => cases marked
    | cons token rest =>
      have same : first = token.kind := (cons_prefix_cons.mp head).1
      rw [length_cons, Nat.mul_succ] at read
      refine ⟨?_, ?_⟩
      · rintro rfl
        unfold parseValue at read
        split at read
        case h_1 =>
          cases same
          simp_all [Token.kind]
          exact notWord (by simpa [← kept] using marked)
        all_goals simp_all
      · rintro members rfl
        unfold parseValue at read
        split at read
        case h_1 =>
          obtain ⟨_, isWord, same⟩ := map_eq_some_iff.mp read
          cases same
          exact word_value_not_object isWord
        all_goals simp_all [Token.kind]
  next => cases parsed

theorem kinds_of_first {text : List Char} (noBrace : '{' ∉ text)
    (nonblank : ∃ c ∈ text, isBlank c = false) {s : LexState} (lexed : lexFrom {} text = some s) :
    ∃ first others, s.kinds = first :: others ∧ first ≠ .beginObject := by
  induction text with
  | nil => simp at nonblank
  | cons c text ih =>
    obtain ⟨next, started, later⟩ := bind_eq_some_iff.mp lexed
    by_cases blank : isBlank c = true
    · have same : next = {} := by
        rw [show lexStep {} c = _ from start_token_blank [] blank] at started
        exact (some.inj started).symm
      rw [same] at later
      refine ih (fun mem => noBrace (mem_cons_of_mem _ mem)) ?_ later
      simpa [blank] using nonblank
    have notBrace : c ≠ '{' := by
      rintro rfl
      exact noBrace mem_cons_self
    obtain ⟨more, run⟩ := kinds_lex_from later
    have opened : ∃ first, next.kinds = [first] ∧ first ≠ .beginObject := by
      change startToken [] c = some next at started
      unfold startToken at started
      split_ifs at started
      · cases started
        exact ⟨_, rfl, by simp⟩
      · cases started
        exact ⟨_, rfl, by simp⟩
      obtain ⟨mark, isMark, same⟩ := map_eq_some_iff.mp started
      cases same
      refine ⟨mark, ?_, ?_⟩
      · unfold punctuation at isMark
        split at isMark <;> cases isMark <;> rfl
      unfold punctuation at isMark
      split at isMark <;> cases isMark
      · exact absurd rfl notBrace
      all_goals simp
    obtain ⟨first, single, other⟩ := opened
    exact ⟨first, more, by rw [← run, single]; rfl, other⟩

theorem lex_blank_append (blank : ∀ c ∈ text, isBlank c = true) (after : List Char) :
    lexFrom {} (text ++ after) = lexFrom {} after := by
  induction text with
  | nil => rfl
  | cons c text ih =>
    rw [forall_mem_cons] at blank
    rw [cons_append, lexFrom, foldlM_cons,
      show lexStep {} c = _ from start_token_blank [] blank.1]
    exact ih blank.2

theorem lex_object_append {object : List Char} {tokens : List Token}
    (lexed : lex (object ++ ['}']) = some tokens) (after : List Char) :
    lex (object ++ '}' :: after) = (lex after).map (tokens ++ ·) := by
  obtain ⟨s, ran, finished⟩ := bind_eq_some_iff.mp lexed
  have closed : s = LexState.behind tokens {} := by
    rw [lexFrom, foldlM_append] at ran
    obtain ⟨before, -, step⟩ := bind_eq_some_iff.mp ran
    obtain ⟨front, mode⟩ := before
    cases mode with
    | between | word =>
      cases step
      cases finished
      simp [LexState.behind]
    | str raw =>
      cases step
      cases finished
    | escape raw => cases step
  have split : object ++ '}' :: after = (object ++ ['}']) ++ after := by simp
  unfold lex at lexed ⊢
  rw [split, lexFrom, foldlM_append, show (object ++ ['}']).foldlM lexStep {} = some s from
    ran, closed]
  change (lexFrom (LexState.behind tokens {}) after).bind _ = _
  rw [lex_from_behind]
  cases lexFrom {} after with
  | none => rfl
  | some last => exact finish_behind tokens last

theorem parse_between {before object after : List Char} {value read : Value}
    (noBrace : '{' ∉ before) (parsed : parse ('{' :: object ++ ['}']) = some value)
    (whole : parse (before ++ ('{' :: object ++ '}' :: after)) = some read) :
    read = value ∨ (read ≠ .null ∧ ∀ members, read ≠ .obj members) := by
  by_cases nonblank : ∃ c ∈ before, isBlank c = false
  · right
    obtain ⟨tokens, lexed, -⟩ := bind_eq_some_iff.mp whole
    obtain ⟨last, ran, -⟩ := bind_eq_some_iff.mp lexed
    rw [lexFrom, foldlM_append] at ran
    obtain ⟨s, reached, -⟩ := bind_eq_some_iff.mp ran
    obtain ⟨first, others, kinds, other⟩ := kinds_of_first noBrace nonblank reached
    exact parse_opened_otherwise ⟨s, reached, others, kinds⟩ other whole
  left
  have blank : ∀ c ∈ before, isBlank c = true := by simpa using nonblank
  obtain ⟨tokens, lexed, known⟩ := bind_eq_some_iff.mp parsed
  have split : lex (before ++ ('{' :: object ++ '}' :: after)) =
      (lex after).map (tokens ++ ·) := by
    rw [lex, lex_blank_append blank]
    exact lex_object_append lexed after
  rw [parse, split] at whole
  obtain ⟨all, later, known'⟩ := bind_eq_some_iff.mp whole
  obtain ⟨behind, -, same⟩ := map_eq_some_iff.mp later
  rw [← same, parse_tokens_append known] at known'
  split_ifs at known'
  exact (some.inj known').symm

end RuneTerminal.Go.Json
