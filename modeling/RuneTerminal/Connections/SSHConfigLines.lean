import RuneTerminal.Connections.SSHConfigFiles

/-! `sshConfigFields` splits a line at white space before it looks for the equals sign and for
quotes. -/

namespace RuneTerminal.Connections

open Go Go.Strings Kit List

def words (s : List Char) : List (List Char) := fieldsFunc isSpace s

def trimQuotes (field : List Char) : List Char := (field.dropWhile isQuote).rdropWhile isQuote

/-- `Key=value` as two fields. -/
def splitKey : List (List Char) → List (List Char)
  | [] => []
  | first :: rest => if first.contains '=' then splitN ['='] 2 first ++ rest else first :: rest

def IsBlank (c : Char) : Prop := c = ' ' ∨ c = '\t'

def Visible (s : List Char) : Prop := ∀ c ∈ s, isSpace c = false

/-- No quote, and no comment. -/
def Plain (s : List Char) : Prop := ∀ c ∈ s, isQuote c = false ∧ c ≠ '#'

instance (s : List Char) : Decidable (Visible s) := List.decidableBAll _ s
instance (s : List Char) : Decidable (Plain s) := List.decidableBAll _ s

structure IsKeyword (key : List Char) : Prop where
  nonempty : key ≠ []
  visible : Visible key
  plain : Plain key
  unassigned : '=' ∉ key

variable {c : Char} {gap word s text : List Char}

theorem words_nil : words [] = [] := by
  rw [words, fieldsFunc, splitOnP_nil]
  rfl

theorem words_append_space (space : isSpace c = true) (front back : List Char) :
    words (front ++ c :: back) = words front ++ words back := by
  rw [words, fieldsFunc, splitOnP_append_cons front back space, filter_append]
  rfl

theorem words_spaces_append (spaces : ∀ c ∈ gap, isSpace c = true) (s : List Char) :
    words (gap ++ s) = words s := by
  induction gap with
  | nil => rfl
  | cons c gap ih =>
    rw [forall_mem_cons] at spaces
    have split := words_append_space spaces.1 [] (gap ++ s)
    rw [nil_append, words_nil, nil_append, ih spaces.2] at split
    exact split

theorem words_append_gap (nonempty : gap ≠ []) (spaces : ∀ c ∈ gap, isSpace c = true)
    (front back : List Char) : words (front ++ (gap ++ back)) = words front ++ words back := by
  cases gap with
  | nil => exact absurd rfl nonempty
  | cons c gap =>
    rw [forall_mem_cons] at spaces
    rw [cons_append, words_append_space spaces.1, words_spaces_append spaces.2]

theorem words_append_spaces (spaces : ∀ c ∈ gap, isSpace c = true) (s : List Char) :
    words (s ++ gap) = words s := by
  by_cases empty : gap = []
  · rw [empty, append_nil]
  · have split := words_append_gap empty spaces s []
    rw [append_nil, words_nil, append_nil] at split
    exact split

theorem words_visible (nonempty : word ≠ []) (visible : Visible word) : words word = [word] := by
  rw [words, fieldsFunc, splitOnP_eq_singleton visible, filter_cons_of_pos
    (by simpa using nonempty),
    filter_nil]

theorem visible_of_mem_words (mem : word ∈ words s) : Visible word := by
  have part := (mem_filter.mp mem).1
  intro c inside
  exact (of_mem_split part inside).2

theorem words_append (nonempty : word ≠ []) (visible : Visible word) (s : List Char) :
    words (word ++ s) = (word ++ s.takeWhile (!isSpace ·)) :: words (s.dropWhile (!isSpace ·)) := by
  have seen : Visible (word ++ s.takeWhile (!isSpace ·)) := by
    intro c mem
    rcases mem_append.mp mem with inside | taken
    · exact visible c inside
    · simpa using mem_takeWhile_imp taken
  have only := words_visible (append_ne_nil_of_left_ne_nil nonempty _) seen
  have whole : word ++ s = word ++ s.takeWhile (!isSpace ·) ++ s.dropWhile (!isSpace ·) := by
    rw [append_assoc, takeWhile_append_dropWhile]
  rw [whole]
  cases same : s.dropWhile (!isSpace ·) with
  | nil => rw [append_nil, only, words_nil]
  | cons c rest =>
    have space := head?_dropWhile_not (!isSpace ·) s
    rw [same] at space
    have split := words_append_space (by simpa using space) [] rest
    rw [words_append_space (by simpa using space), only, singleton_append]
    rw [nil_append, words_nil, nil_append] at split
    rw [split]

theorem words_drop_while (s : List Char) : words (s.dropWhile isSpace) = words s := by
  have spaces : ∀ c ∈ s.takeWhile isSpace, isSpace c = true := fun _ => mem_takeWhile_imp
  rw [← words_spaces_append spaces, takeWhile_append_dropWhile]

theorem words_trim (s : List Char) : words (trim s) = words s := by
  have spaces : ∀ c ∈ (s.dropWhile isSpace).rtakeWhile isSpace, isSpace c = true :=
    fun _ => mem_rtakeWhile_imp
  rw [trim, ← words_append_spaces spaces, rdropWhile_append_rtakeWhile, words_drop_while]

variable {front : List Char}

section

variable {back : List Char}

/-- The piece holds no comment, and leaves no quote open. -/
def Transparent (piece : List Char) : Prop :=
  ∀ rest, stripCommentFrom none (piece ++ rest) = piece ++ stripCommentFrom none rest

theorem Transparent.append (first : Transparent front) (second : Transparent back) :
    Transparent (front ++ back) := by
  intro rest
  rw [append_assoc, first, second, append_assoc]

theorem Plain.transparent (plain : Plain s) : Transparent s := by
  intro rest
  induction s with
  | nil => rfl
  | cons c s ih =>
    rw [Plain, forall_mem_cons] at plain
    have quote : ¬(c = '\'' ∨ c = '"') := by
      rintro (rfl | rfl)
      · exact absurd plain.1.1 (by decide)
      · exact absurd plain.1.1 (by decide)
    rw [cons_append, stripCommentFrom, if_neg quote, if_neg plain.1.2, ih plain.2,
      cons_append]

theorem strip_quoted {quote : Char} (closed : quote ∉ text) (rest : List Char) :
    stripCommentFrom (some quote) (text ++ quote :: rest) =
    text ++ quote :: stripCommentFrom none rest := by
  induction text with
  | nil => rw [nil_append, stripCommentFrom, if_pos rfl, nil_append]
  | cons c text ih =>
    rw [mem_cons, not_or] at closed
    rw [cons_append, stripCommentFrom, if_neg (Ne.symm closed.1), ih closed.2, cons_append]

theorem strip_drop_while (kept : stripCommentFrom none s = s) :
    stripCommentFrom none (s.dropWhile isSpace) = s.dropWhile isSpace := by
  induction s with
  | nil => rfl
  | cons c s ih =>
    by_cases space : isSpace c = true
    · rw [dropWhile_cons_of_pos space]
      have quote : ¬(c = '\'' ∨ c = '"') := by
        rintro (rfl | rfl)
        · exact absurd space (by decide)
        · exact absurd space (by decide)
      have hash : c ≠ '#' := by
        rintro rfl
        exact absurd space (by decide)
      rw [stripCommentFrom, if_neg quote, if_neg hash] at kept
      exact ih (cons.inj kept).2
    · rw [dropWhile_cons_of_neg space]
      exact kept

theorem strip_front {quote : Option Char}
    (kept : stripCommentFrom quote (front ++ back) = front ++ back) :
    stripCommentFrom quote front = front := by
  induction front generalizing quote with
  | nil => cases quote <;> rfl
  | cons c front ih =>
    cases quote with
    | some quote =>
      rw [cons_append, stripCommentFrom] at kept
      rw [stripCommentFrom, ih (cons.inj kept).2]
    | none =>
      rw [cons_append, stripCommentFrom] at kept
      rw [stripCommentFrom]
      split_ifs at kept ⊢
      · rw [ih (cons.inj kept).2]
      · rw [ih (cons.inj kept).2]

theorem strip_trim (kept : stripCommentFrom none s = s) :
    stripCommentFrom none (trim s) = trim s := by
  obtain ⟨spaces, whole⟩ : trim s <+: s.dropWhile isSpace := rdropWhile_prefix _ _
  have front := strip_drop_while kept
  rw [← whole] at front
  exact strip_front front

end

variable {key : List Char}

theorem ssh_config_fields_of_words (s : List Char) : sshConfigFields (String.ofList s) =
    ((splitKey (words (stripCommentFrom none (trim s)))).map trimQuotes).map String.ofList := by
  have stripped : stripSSHConfigComment (trimSpace (String.ofList s)) =
      String.ofList (trim (stripCommentFrom none (trim s))) := by
    rw [stripSSHConfigComment, to_list_trim_space, String.toList_ofList, trimSpace,
      String.toList_ofList, ← trim]
  rw [sshConfigFields, stripped, String.toList_ofList]
  dsimp only
  split_ifs with empty
  · have none := congrArg String.toList empty
    rw [String.toList_ofList, String.toList_empty] at none
    rw [← words_trim, none, words_nil]
    rfl
  · have fields : fieldsFunc isSpace (trim (stripCommentFrom none (trim s))) =
        words (stripCommentFrom none (trim s)) := words_trim _
    rw [fields, map_map]
    cases words (stripCommentFrom none (trim s)) with
    | nil | cons => rfl

theorem Transparent.fields (transparent : Transparent s) :
    sshConfigFields (String.ofList s) =
    ((splitKey (words s)).map trimQuotes).map String.ofList := by
  have kept := transparent []
  rw [append_nil, stripCommentFrom, append_nil] at kept
  rw [ssh_config_fields_of_words, strip_trim kept, words_trim]

theorem rdrop_while_append {p : Char → Bool} (holds : p c = false) (front back : List Char) :
    (front ++ c :: back).rdropWhile p = front ++ c :: back.rdropWhile p := by
  induction back using reverseRecOn with
  | nil =>
    rw [rdropWhile_concat_neg _ _ _ (by rw [holds]; exact Bool.false_ne_true), rdropWhile_nil]
  | append_singleton back last ih =>
    have assoc : front ++ c :: (back ++ [last]) = (front ++ c :: back) ++ [last] := by
      rw [append_assoc, cons_append]
    rw [assoc, rdropWhile_concat, rdropWhile_concat, ih]
    split_ifs
    · rfl
    · rw [append_assoc, cons_append]

/-- Everything from the first hash on is ignored, if no quote stands in front of it. -/
theorem fields_before_hash (plain : Plain front) (rest : List Char) :
    sshConfigFields (String.ofList (front ++ '#' :: rest)) =
    sshConfigFields (String.ofList front) := by
  have start : (front ++ '#' :: rest).dropWhile isSpace =
      front.dropWhile isSpace ++ '#' :: rest := by
    rw [dropWhile_append]
    split_ifs with blank
    · rw [isEmpty_iff.mp blank]
      rfl
    · rfl
  have inner : Transparent (front.dropWhile isSpace) := by
    apply Plain.transparent
    intro c mem
    exact plain c ((dropWhile_suffix isSpace).subset mem)
  have hash (rest : List Char) : stripCommentFrom none ('#' :: rest) = [] := by
    rw [stripCommentFrom, if_neg (by decide), if_pos rfl]
  rw [plain.transparent.fields, ssh_config_fields_of_words, trim, start,
    rdrop_while_append (by decide), inner, hash, append_nil, words_drop_while]

theorem space_of_blank (blank : IsBlank c) : isSpace c = true := by
  rcases blank with rfl | rfl
  · decide
  · decide

theorem split_key_plain (plain : '=' ∉ key) (rest : List (List Char)) :
    splitKey (key :: rest) = key :: rest := by
  rw [splitKey, if_neg (by simpa using plain)]

theorem split_key_equals (plain : '=' ∉ key) (value : List Char) (rest : List (List Char)) :
    splitKey ((key ++ '=' :: value) :: rest) = key :: value :: rest := by
  rw [splitKey, if_pos (by simp), splitN, cut_char plain]
  rfl

theorem split_key_all {fields : List (List Char)} {p : Char → Prop}
    (each : ∀ field ∈ fields, ∀ c ∈ field, p c) : ∀ field ∈ splitKey fields, ∀ c ∈ field, p c := by
  cases fields with
  | nil => exact each
  | cons first rest =>
    rw [forall_mem_cons] at each
    rw [splitKey]
    split_ifs
    · rw [forall_mem_append, splitN]
      refine ⟨?_, each.2⟩
      cases found : cutFirst ['='] first with
      | none => exact forall_mem_singleton.mpr each.1
      | some parts =>
        have inside := each.1
        rw [cut_first_whole found, forall_mem_append, forall_mem_append] at inside
        exact forall_mem_cons.mpr ⟨inside.1.1, forall_mem_singleton.mpr inside.2⟩
    · exact forall_mem_cons.mpr each

theorem trim_quotes_self_iff : trimQuotes text = text ↔
    (∀ c, text.head? = some c → isQuote c = false) ∧
    ∀ c, text.getLast? = some c → isQuote c = false := by
  constructor
  · intro same
    have front : text <+: text.dropWhile isQuote := by
      nth_rewrite 1 [← same]
      exact rdropWhile_prefix _ _
    have full : text.dropWhile isQuote = text :=
      ((dropWhile_suffix isQuote).sublist.antisymm front.sublist)
    rw [trimQuotes, full] at same
    constructor
    · intro c head
      have start := head?_dropWhile_not isQuote text
      rw [full, head] at start
      exact start
    · intro c last
      obtain ⟨front, rfl⟩ := getLast?_eq_some_iff.mp last
      simpa using rdropWhile_eq_self_iff.mp same (by simp)
  · rintro ⟨head, last⟩
    cases text with
    | nil => rfl
    | cons c text =>
      rw [trimQuotes, dropWhile_cons_of_neg (by simpa using head c rfl), rdropWhile_eq_self_iff]
      intro nonempty
      simpa using last _ (getLast?_eq_some_getLast nonempty)

theorem trim_quotes_quoted_iff (closed : '"' ∉ text) :
    trimQuotes ('"' :: (text ++ ['"'])) = text ↔
    ∀ c, text.head? = some c ∨ text.getLast? = some c → c ≠ '\'' := by
  have outer : trimQuotes ('"' :: (text ++ ['"'])) = trimQuotes text := by
    rw [trimQuotes, dropWhile_cons_of_pos (by decide), dropWhile_append, trimQuotes]
    split_ifs with empty
    · rw [isEmpty_iff.mp empty]
      rfl
    · exact rdropWhile_concat_pos _ _ _ (by decide)
  have quote {c : Char} (mem : c ∈ text) : isQuote c = false ↔ c ≠ '\'' := by
    have other : c ≠ '"' := fun double => closed (double ▸ mem)
    simp [isQuote, other]
  rw [outer, trim_quotes_self_iff, ← forall_and]
  refine forall_congr' fun c => ?_
  rw [or_imp]
  exact and_congr (imp_congr_right fun head => quote (mem_of_mem_head? head))
    (imp_congr_right fun last => quote (mem_of_getLast? last))

theorem Plain.trim_quotes (plain : Plain s) : trimQuotes s = s :=
  trim_quotes_self_iff.mpr ⟨fun c head => (plain c (mem_of_mem_head? head)).1,
    fun c last => (plain c (mem_of_getLast? last)).1⟩

theorem Plain.words (plain : Plain s) : ∀ word ∈ words s, Plain word := by
  intro word mem c inside
  exact plain c (of_mem_split (mem_filter.mp mem).1 inside).1

theorem trim_all {fields : List (List Char)} (plain : ∀ field ∈ fields, Plain field) :
    fields.map trimQuotes = fields :=
  (map_congr_left fun field mem => (plain field mem).trim_quotes).trans (map_id _)

theorem map_of_list_inj {first second : List (List Char)} :
    first.map String.ofList = second.map String.ofList ↔ first = second :=
  map_injective_iff.mpr (fun _ _ => String.ofList_injective) |>.eq_iff

section

variable {before after values opening tail : List Char} {fields : List (List Char)}

theorem blanks_space (blanks : ∀ c ∈ gap, IsBlank c) : ∀ c ∈ gap, isSpace c = true :=
  fun c mem => space_of_blank (blanks c mem)

theorem blanks_plain (blanks : ∀ c ∈ gap, IsBlank c) : Plain gap := by
  intro c mem
  rcases blanks c mem with rfl | rfl
  · decide
  · decide

theorem sign_visible (visible : Visible key) : Visible (key ++ ['=']) := by
  rw [Visible, forall_mem_append, forall_mem_singleton]
  exact ⟨visible, by decide⟩

/-- The spellings with and without an equals sign agree if no blank stands in front of it, and no
white space or nothing behind it. -/
theorem equals_fields_iff (keyword : IsKeyword key) (plain : Plain values)
    (blanks : ∀ c ∈ before ++ after ++ gap, IsBlank c) (apart : gap ≠ []) :
    sshConfigFields (String.ofList (key ++ (before ++ '=' :: (after ++ values)))) =
      sshConfigFields (String.ofList (key ++ (gap ++ values))) ↔
    before = [] ∧ ∃ c rest, after ++ values = c :: rest ∧ isSpace c = false := by
  rw [forall_mem_append, forall_mem_append] at blanks
  obtain ⟨⟨isBefore, isAfter⟩, isGap⟩ := blanks
  have sign : Plain ['='] := by decide
  have left : Transparent (key ++ (before ++ '=' :: (after ++ values))) :=
    keyword.plain.transparent.append ((blanks_plain isBefore).transparent.append
      (sign.transparent.append ((blanks_plain isAfter).transparent.append plain.transparent)))
  have right : Transparent (key ++ (gap ++ values)) :=
    keyword.plain.transparent.append ((blanks_plain isGap).transparent.append plain.transparent)
  have front : words key = [key] := words_visible keyword.nonempty keyword.visible
  have same : words values = words (after ++ values) :=
    (words_spaces_append (blanks_space isAfter) values).symm
  have signed (word : List Char) (seen : Visible word) :=
    words_append (append_ne_nil_of_right_ne_nil word (cons_ne_nil '=' [])) (sign_visible seen)
      (after ++ values)
  -- The first value has the sign at its head if there are blanks in front of it.
  have split : splitKey (words (key ++ (before ++ '=' :: (after ++ values)))) =
      key :: (if before = [] then (after ++ values).takeWhile (!isSpace ·)
        else '=' :: (after ++ values).takeWhile (!isSpace ·)) ::
      words ((after ++ values).dropWhile (!isSpace ·)) := by
    split_ifs with close
    · rw [close, nil_append, append_cons, signed key keyword.visible, append_assoc,
        singleton_append, split_key_equals keyword.unassigned]
    · have behind := signed [] nofun
      rw [nil_append, singleton_append, singleton_append] at behind
      rw [words_append_gap close (blanks_space isBefore), front, behind, singleton_append,
        split_key_plain keyword.unassigned]
  rw [left.fields, right.fields, map_of_list_inj, split,
    words_append_gap apart (blanks_space isGap), front, singleton_append,
    split_key_plain keyword.unassigned, same]
  have seenPlain : Plain (after ++ values) := forall_mem_append.mpr ⟨blanks_plain isAfter, plain⟩
  generalize after ++ values = s at seenPlain ⊢
  have longer (second : List Char) :
      ¬(key :: second :: words s).map trimQuotes = (key :: words s).map trimQuotes := by
    intro equal
    have lengths := congrArg length equal
    simp only [map_cons, length_cons, length_map] at lengths
    omega
  cases s with
  | nil => exact iff_of_false (longer _) (by rintro ⟨_, _, _, ⟨⟩, _⟩)
  | cons c rest =>
    cases space : isSpace c with
    | true =>
      rw [takeWhile_cons_of_neg (by simp [space]), dropWhile_cons_of_neg (by simp [space])]
      refine iff_of_false (longer _) ?_
      rintro ⟨-, _, _, ⟨⟩, visible⟩
      rw [space] at visible
      cases visible
    | false =>
      have first : words (c :: rest) =
          (c :: rest).takeWhile (!isSpace ·) :: words ((c :: rest).dropWhile (!isSpace ·)) := by
        rw [takeWhile_cons_of_pos (by simp [space]), dropWhile_cons_of_pos (by simp [space])]
        exact words_append (cons_ne_nil c []) (forall_mem_singleton.mpr space) rest
      rw [first]
      by_cases close : before = []
      · rw [if_pos close]
        exact iff_of_true rfl ⟨close, c, rest, rfl, space⟩
      · rw [if_neg close]
        refine iff_of_false ?_ fun given => close given.1
        have start : (c :: rest).takeWhile (!isSpace ·) <+: c :: rest := takeWhile_prefix _
        have value : Plain ((c :: rest).takeWhile (!isSpace ·)) :=
          fun c mem => seenPlain c (start.subset mem)
        have both : Plain ('=' :: (c :: rest).takeWhile (!isSpace ·)) :=
          forall_mem_cons.mpr ⟨by decide, value⟩
        rw [map_cons, map_cons, map_cons, map_cons, both.trim_quotes, value.trim_quotes]
        intro equal
        exact cons_ne_self _ _ (cons.inj (cons.inj equal).2).1

/-- What stands in front of a value, and its fields. -/
inductive Opening : List Char → List (List Char) → Prop
  | gap {front gap : List Char} (plain : Plain front) (nonempty : words front ≠ [])
      (apart : gap ≠ []) (blanks : ∀ c ∈ gap, IsBlank c) :
      Opening (front ++ gap) (splitKey (words front))
  | equals {key : List Char} (keyword : IsKeyword key) : Opening (key ++ ['=']) [key]

section

variable (opens : Opening opening fields)
include opens

theorem Opening.plain : Plain opening := by
  cases opens with
  | gap plain _ _ blanks => exact forall_mem_append.mpr ⟨plain, blanks_plain blanks⟩
  | equals keyword =>
    exact forall_mem_append.mpr ⟨keyword.plain, forall_mem_singleton.mpr (by decide)⟩

theorem Opening.split (nonempty : word ≠ []) (visible : Visible word)
    (ended : ∀ c, tail.head? = some c → IsBlank c) :
    splitKey (words (opening ++ (word ++ tail))) = fields ++ word :: words tail := by
  have stops : tail.takeWhile (!isSpace ·) = [] ∧ tail.dropWhile (!isSpace ·) = tail := by
    cases tail with
    | nil => exact ⟨rfl, rfl⟩
    | cons c tail =>
      have space := space_of_blank (ended c rfl)
      exact ⟨takeWhile_cons_of_neg (by simp [space]), dropWhile_cons_of_neg (by simp [space])⟩
  cases opens with
  | gap _ notEmpty apart blanks =>
    rw [append_assoc, words_append_gap apart (blanks_space blanks), words_append nonempty visible,
      stops.1, stops.2, append_nil]
    obtain ⟨first, others, same⟩ := exists_cons_of_ne_nil notEmpty
    rw [same, cons_append, splitKey, splitKey]
    split_ifs
    · rw [append_assoc]
    · rfl
  | @equals key keyword =>
    have seen : Visible (key ++ ['='] ++ word) :=
      forall_mem_append.mpr ⟨sign_visible keyword.visible, visible⟩
    rw [← append_assoc, words_append (append_ne_nil_of_right_ne_nil _ nonempty) seen, stops.1,
      stops.2, append_nil, append_assoc, singleton_append, split_key_equals keyword.unassigned]
    rfl

theorem Opening.trimmed : fields.map trimQuotes = fields := by
  cases opens with
  | gap plain => exact trim_all (split_key_all plain.words)
  | equals keyword => exact trim_all (forall_mem_singleton.mpr keyword.plain)

theorem quoted_field_iff (closed : '"' ∉ text)
    (plain : Plain tail) (ended : ∀ c, tail.head? = some c → IsBlank c) :
    sshConfigFields (String.ofList (opening ++ ('"' :: (text ++ ['"']) ++ tail))) =
      (fields ++ text :: words tail).map String.ofList ↔
    Visible text ∧ ∀ c, text.head? = some c ∨ text.getLast? = some c → c ≠ '\'' := by
  have quoted : Transparent ('"' :: (text ++ ['"'])) := by
    intro rest
    rw [cons_append, stripCommentFrom, if_pos (.inr rfl), append_assoc, singleton_append,
      strip_quoted closed, cons_append, append_assoc, singleton_append]
  have whole := opens.plain.transparent.append (quoted.append plain.transparent)
  rw [whole.fields, map_of_list_inj]
  by_cases visible : Visible text
  · have seen : Visible ('"' :: (text ++ ['"'])) := by
      rw [Visible, forall_mem_cons, forall_mem_append, forall_mem_singleton]
      exact ⟨by decide, visible, by decide⟩
    rw [opens.split (cons_ne_nil _ _) seen ended, map_append, opens.trimmed, map_cons,
      trim_all plain.words,
      append_cancel_left_eq, cons.injEq, and_iff_left rfl, and_iff_right visible]
    exact trim_quotes_quoted_iff closed
  · refine iff_of_false (fun same => visible ?_) fun given => visible given.1
    have field : text ∈ fields ++ text :: words tail := mem_append_right _ mem_cons_self
    rw [← same] at field
    obtain ⟨word, inside, rfl⟩ := mem_map.mp field
    intro c within
    apply split_key_all (fun _ => visible_of_mem_words) word inside
    have start := rdropWhile_prefix isQuote (word.dropWhile isQuote)
    exact (dropWhile_suffix _).subset (start.subset within)

end

/-- The fields are those that `ssh` reads exactly if no white space stands around the equals sign,
and a quoted text holds no white space and has no apostrophe at an end. -/
theorem ssh_config_fields_iff (key before after gap values opening text tail front rest : List Char)
    (fields : List (List Char)) :
    (IsKeyword key → Plain values → (∀ c ∈ before ++ after ++ gap, IsBlank c) → gap ≠ [] →
      (sshConfigFields (String.ofList (key ++ (before ++ '=' :: (after ++ values)))) =
          sshConfigFields (String.ofList (key ++ (gap ++ values))) ↔
        before = [] ∧ ∃ c rest, after ++ values = c :: rest ∧ isSpace c = false)) ∧
    (Opening opening fields → '"' ∉ text → Plain tail →
      (∀ c, tail.head? = some c → IsBlank c) →
      (sshConfigFields (String.ofList (opening ++ ('"' :: (text ++ ['"']) ++ tail))) =
          (fields ++ text :: words tail).map String.ofList ↔
        Visible text ∧ ∀ c, text.head? = some c ∨ text.getLast? = some c → c ≠ '\'')) ∧
    (Plain front → sshConfigFields (String.ofList (front ++ '#' :: rest)) =
      sshConfigFields (String.ofList front)) :=
  ⟨equals_fields_iff, quoted_field_iff, fun plain => fields_before_hash plain rest⟩

theorem host_is_keyword : IsKeyword ['H', 'o', 's', 't'] where
  nonempty := cons_ne_nil _ _
  visible := by decide
  plain := by decide
  unassigned := by decide

/-- `Host=web`, `Host="a#=b"` and `Host web # home` -/
theorem ssh_config_fields_host :
    sshConfigFields (String.ofList ['H', 'o', 's', 't', '=', 'w']) =
      sshConfigFields (String.ofList ['H', 'o', 's', 't', ' ', 'w']) ∧
    sshConfigFields (String.ofList ['H', 'o', 's', 't', '=', '"', 'a', '#', '=', '"']) =
      [['H', 'o', 's', 't'], ['a', '#', '=']].map String.ofList ∧
    sshConfigFields (String.ofList ['a', ' ', '#', 'b']) =
      sshConfigFields (String.ofList ['a', ' ']) := by
  have spelled := (ssh_config_fields_iff ['H', 'o', 's', 't'] [] [] [' '] ['w'] [] [] [] [] [] []).1
  have quoted := (ssh_config_fields_iff [] [] [] [] [] ['H', 'o', 's', 't', '='] ['a', '#', '='] []
    [] [] [['H', 'o', 's', 't']]).2.1
  have ignored := (ssh_config_fields_iff [] [] [] [] [] [] [] [] ['a', ' '] ['b'] []).2.2
  refine ⟨(spelled host_is_keyword ?_ ?_ (cons_ne_nil _ _)).mpr ?_,
    (quoted (.equals host_is_keyword) ?_ ?_ nofun).mpr ?_, ignored ?_⟩
  · decide
  · exact forall_mem_singleton.mpr (.inl rfl)
  · exact ⟨rfl, 'w', [], rfl, by decide⟩
  · decide
  · nofun
  · refine ⟨by decide, ?_⟩
    rintro c (⟨⟨⟩⟩ | ⟨⟨⟩⟩)
    · decide
    · decide
  · decide

/-- With blanks around it the equals sign is a value of its own. -/
theorem spaced_equals_is_field :
    sshConfigFields "Host = web" = ["Host", "=", "web"] ∧
    sshConfigFields "Host = web" ≠ sshConfigFields "Host web" := by
  decide +kernel

end

end RuneTerminal.Connections
