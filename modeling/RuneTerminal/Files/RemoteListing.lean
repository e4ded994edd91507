import RuneTerminal.Go.Regexp
import RuneTerminal.Kit.Utf8

/-! The listing that the script of `listRemoteFS` prints, and the one that is read from it. The
reader trims each line, so the blanks in front of a name are lost. -/

namespace RuneTerminal.Files

open Go.Regexp Go.Strings Kit Kit.Glob List

def separatesPatterns (c : Char) : Bool := c == ';' || c == ',' || isSpace c

def queryExpression (normalizedPattern : List Char) : List Char :=
  let expression := quoteMeta normalizedPattern
  let expression := replaceAll expression ['\\', '*'] ['.', '*']
  let expression := replaceAll expression ['\\', '?'] ['.']
  "(?i)^".toList ++ expression ++ ['$']

/-- Blank patterns are skipped; a panic is `none`. -/
def compileFSListQueryMatchers (query : String) : Option (List (List Part)) :=
  let patterns := fieldsFunc separatesPatterns query.toList
  let normalized := (patterns.map fun pattern => (trimSpace (String.ofList pattern)).toList)
  (normalized.filter (· ≠ [])).mapM fun pattern => mustCompile (queryExpression pattern)

def matchesFSListQuery (fold : Char → Char) (name : List UInt8) (matchers : List (List Part)) :
    Bool :=
  matchers.isEmpty || matchers.any fun matcher => matchString fold matcher (Utf8.decode name)

def queryPatterns (query : String) : List (List (Wild Char)) :=
  (fieldsFunc separatesPatterns query.toList).map fun pattern => pattern.map (.read '*' '?')

variable {s : List Char}

theorem trim_of_no_space (noSpace : ∀ c ∈ s, isSpace c = false) :
    (trimSpace (String.ofList s)).toList = s := by
  have front : s.dropWhile isSpace = s := by
    cases s with
    | nil => rfl
    | cons first rest =>
      rw [dropWhile_cons_of_neg]
      rw [noSpace first mem_cons_self]
      exact Bool.false_ne_true
  have back : s.rdropWhile isSpace = s := by
    rw [rdropWhile_eq_self_iff]
    intro nonempty
    rw [noSpace _ (getLast_mem nonempty)]
    exact Bool.false_ne_true
  rw [trimSpace, String.toList_ofList, String.toList_ofList, front, back]

theorem field_nonempty {pattern : List Char} (mem : pattern ∈ fieldsFunc separatesPatterns s) :
    pattern ≠ [] :=
  of_decide_eq_true (mem_filter.mp mem).2

theorem normalized_fields (s : List Char) : ((fieldsFunc separatesPatterns s).map fun pattern =>
    (trimSpace (String.ofList pattern)).toList).filter (· ≠ []) =
    fieldsFunc separatesPatterns s := by
  have same : ((fieldsFunc separatesPatterns s).map fun pattern =>
      (trimSpace (String.ofList pattern)).toList) = fieldsFunc separatesPatterns s := by
    apply (map_congr_left _).trans (map_id _)
    intro pattern mem
    apply trim_of_no_space
    intro c inside
    have split := of_mem_split (mem_filter.mp mem).1 inside
    exact (Bool.or_eq_false_iff.mp split.2).2
  rw [same, filter_eq_self]
  intro pattern mem
  exact decide_eq_true (field_nonempty mem)

theorem query_compiles (query : String) : compileFSListQueryMatchers query =
    some ((queryPatterns query).map fun pattern => pattern.map wildPart) := by
  unfold compileFSListQueryMatchers queryPatterns
  dsimp only
  rw [normalized_fields]
  generalize fieldsFunc separatesPatterns query.toList = patterns
  induction patterns with
  | nil => rfl
  | cons pattern patterns ih =>
    rw [mapM_cons, ih, queryExpression, replaced_wildcards, compile_wild_chars]
    rfl

theorem matches_query_iff (fold : Char → Char) (query : String) (name : List UInt8)
    {matchers : List (List Part)} (compiled : compileFSListQueryMatchers query = some matchers) :
    matchesFSListQuery fold name matchers = true ↔
    queryPatterns query = [] ∨ ∃ pattern ∈ queryPatterns query,
    Matches (· ≠ '\n') (fun letter c => fold letter = fold c) pattern (Utf8.decode name) := by
  rw [query_compiles] at compiled
  cases compiled
  rw [matchesFSListQuery, Bool.or_eq_true_iff, List.isEmpty_iff, List.map_eq_nil_iff,
    List.any_map, List.any_eq_true]
  simp only [Function.comp_apply, match_parts_iff]

inductive FSNodeType
  | directory
  | file
deriving DecidableEq

structure FSNode where
  name : List Char
  type : FSNodeType
  size : Int
  modifiedTime : Int
deriving DecidableEq

structure FSListResult where
  path : List Char
  directories : List FSNode
  files : List FSNode

inductive RemoteListError
  | invalidPayload
  | panics

/-- An entry of the directory, with what `[ -d ]` and `stat` say about it. -/
structure RemoteEntry where
  name : List Char
  named : name ≠ []
  plain : '\n' ∉ name ∧ '\t' ∉ name
  isDirectory : Bool
  modified : Int
  size : Nat

def kindText (isDirectory : Bool) : List Char :=
  if isDirectory then "directory".toList else "file".toList

/-- The line of an entry. `find` puts "./" in front of the name and the loop takes it off. -/
def entryLine (entry : RemoteEntry) : List Char :=
  entry.name ++ '\t' :: (kindText entry.isDirectory ++ '\t' :: ((toString entry.modified).toList ++
    '\t' :: (toString entry.size).toList))

/-- `LC_ALL=C sort` -/
def sortByName (entries : List RemoteEntry) : List RemoteEntry :=
  entries.mergeSort fun left right =>
    decide (Utf8.encode left.name ≤ Utf8.encode right.name)

def marker : List Char := "__RTSEP__".toList

def separator : List Char := marker ++ ['\n']

def listingOutput (pwd : List Char) (entries : List RemoteEntry) : List Char :=
  pwd ++ ['\n'] ++ separator ++
    ((sortByName entries).map fun entry => entryLine entry ++ ['\n']).flatten

def parseRemoteFSInt (raw : List Char) : Int := (atoi (String.ofList (trim raw))).getD 0

/-- One round of the loop over the lines. A line with too few fields is passed over. -/
def parseEntry (line : List Char) : Option FSNode :=
  match splitN ['\t'] 4 (trim line) with
  | [name, kind, modified, size] =>
    if kind = "directory".toList then
      some { name := name, type := .directory, size := 0,
             modifiedTime := parseRemoteFSInt modified }
    else
      some { name := name, type := .file, size := parseRemoteFSInt size,
             modifiedTime := parseRemoteFSInt modified }
  | _ => none

/-- `sort.Slice` leaves the order of equal names open. -/
def sortNodes (toLower : List Char → List Char) (nodes : List FSNode) : List FSNode :=
  nodes.mergeSort fun left right =>
    decide (Utf8.encode (toLower left.name) ≤ Utf8.encode (toLower right.name))

def listedNodes (fold : Char → Char) (matchers : List (List Go.Regexp.Part))
    (listing : List Char) : List FSNode :=
  ((lines listing).filterMap parseEntry).filter fun node =>
    matchesFSListQuery fold (Utf8.encode node.name) matchers

def listRemoteFS (fold : Char → Char) (toLower : List Char → List Char) (stdout : List Char)
    (remotePath query : String) : Except RemoteListError FSListResult :=
  match splitN separator 2 stdout with
  | [front, back] =>
    let resolvedPath := if trim front = [] then remotePath.toList else trim front
    let listing := trim back
    match compileFSListQueryMatchers query with
    | none => .error .panics
    | some matchers =>
      if listing = [] then .ok { path := resolvedPath, directories := [], files := [] }
      else
        let nodes := listedNodes fold matchers listing
        .ok { path := resolvedPath
              directories := sortNodes toLower (nodes.filter (·.type = .directory))
              files := sortNodes toLower (nodes.filter (·.type = .file)) }
  | _ => .error .invalidPayload

def kindOf (entry : RemoteEntry) : FSNodeType :=
  if entry.isDirectory then .directory else .file

def startsWithSpace (name : List Char) : Bool := name.head?.any isSpace

section

variable {line : List Char} {node : FSNode} {entry : RemoteEntry} {c : Char}

theorem parse_entry_trim (line : List Char) : parseEntry line = parseEntry (trim line) := by
  have again : trim (trim line) = trim line := by
    have same := trim_space_twice (String.ofList line)
    have chars := congrArg String.toList same
    rwa [to_list_trim_space, to_list_trim_space, String.toList_ofList] at chars
  rw [parseEntry, parseEntry, again]

theorem parse_entry_blank : parseEntry [] = none := rfl

theorem parse_entry_cases (line : List Char) : (∃ name kind modified size node,
    splitN ['\t'] 4 (trim line) = [name, kind, modified, size] ∧ parseEntry line = some node ∧
    node.name = name) ∨ parseEntry line = none ∧ (splitN ['\t'] 4 (trim line)).length ≠ 4 := by
  unfold parseEntry
  split
  next name kind modified size fields =>
    left
    split_ifs
    · exact ⟨name, kind, modified, size, _, fields, rfl, rfl⟩
    · exact ⟨name, kind, modified, size, _, fields, rfl, rfl⟩
  next others =>
    right
    refine ⟨rfl, fun four => ?_⟩
    obtain ⟨name, kind, modified, size, fields⟩ := length_eq_four.mp four
    exact others name kind modified size fields

theorem parse_entry_eq_none : parseEntry line = none ↔ (trim line).count '\t' < 3 := by
  have parts : (splitN ['\t'] 4 (trim line)).length = min 3 ((trim line).count '\t') + 1 :=
    length_split_n '\t' 3 (trim line)
  rcases parse_entry_cases line with ⟨name, kind, modified, size, node, fields, read, -⟩ |
    ⟨unread, other⟩
  · rw [fields] at parts
    have four : 4 = min 3 ((trim line).count '\t') + 1 := parts
    rw [read]
    constructor
    · intro impossible
      cases impossible
    · omega
  · constructor
    · omega
    · exact fun _ => unread

theorem parse_entry_name (read : parseEntry line = some node) :
    startsWithSpace node.name = false := by
  rcases parse_entry_cases line with ⟨name, kind, modified, size, node', fields, read', same⟩ |
    ⟨unread, -⟩
  · rw [read'] at read
    cases read
    rw [same]
    rw [splitN] at fields
    cases found : cutFirst ['\t'] (trim line) with
    | none => rw [found] at fields; cases fields
    | some halves =>
      obtain ⟨front, back⟩ := halves
      rw [found] at fields
      obtain rfl := (cons.inj fields).1
      have whole := cut_first_whole found
      cases front with
      | nil => rfl
      | cons first rest =>
        exact trim_head_not_space whole
  · rw [unread] at read
    cases read

theorem size_text (entry : RemoteEntry) :
    (toString entry.size).toList = Nat.toDigits 10 entry.size := by simp

theorem digit_of_mem {number : Nat} (mem : c ∈ Nat.toDigits 10 number) : c.isDigit = true :=
  Nat.isDigit_of_mem_toDigits (by decide) (by decide) mem

theorem number_text {number : Int} (mem : c ∈ (toString number).toList) :
    c = '-' ∨ c.isDigit = true := by
  cases number with
  | ofNat natural =>
    have chars : (toString (Int.ofNat natural)).toList = Nat.toDigits 10 natural := by
      rw [← Nat.toList_repr]
      rfl
    rw [chars] at mem
    exact .inr (digit_of_mem mem)
  | negSucc natural =>
    have chars : (toString (Int.negSucc natural)).toList =
        '-' :: Nat.toDigits 10 (natural + 1) := by
      change ("-" ++ (natural + 1).repr).toList = _
      rw [String.toList_append, Nat.toList_repr]
      rfl
    rw [chars, mem_cons] at mem
    exact mem.imp_right digit_of_mem

theorem number_text_plain (number : Int) (notMinus : c ≠ '-') (notDigit : c.isDigit = false) :
    c ∉ (toString number).toList := by
  intro mem
  rcases number_text mem with minus | digit
  · exact notMinus minus
  · rw [notDigit] at digit
    cases digit

theorem size_text_plain (entry : RemoteEntry) (notDigit : c.isDigit = false) :
    c ∉ (toString entry.size).toList := by
  intro mem
  rw [size_text] at mem
  rw [digit_of_mem mem] at notDigit
  cases notDigit

theorem kind_text_plain (isDirectory : Bool) :
    '\n' ∉ kindText isDirectory ∧ '\t' ∉ kindText isDirectory := by
  cases isDirectory <;> decide

theorem entry_line_one_line (entry : RemoteEntry) : '\n' ∉ entryLine entry := by
  have kind := (kind_text_plain entry.isDirectory).1
  have modified := number_text_plain entry.modified (c := '\n') (by decide) (by decide)
  have size := size_text_plain entry (c := '\n') (by decide)
  simp only [entryLine, mem_append, mem_cons, not_or]
  exact ⟨entry.plain.1, by decide, kind, by decide, modified, by decide, size⟩

theorem split_entry_line (entry : RemoteEntry) :
    splitN ['\t'] 4 (entryLine entry) =
      [entry.name, kindText entry.isDirectory, (toString entry.modified).toList,
        (toString entry.size).toList] := by
  have kind := (kind_text_plain entry.isDirectory).2
  have modified := number_text_plain entry.modified (c := '\t') (by decide) (by decide)
  rw [entryLine, splitN, cut_char entry.plain.2]
  dsimp only
  rw [splitN, cut_char kind]
  dsimp only
  rw [splitN, cut_char modified]
  rfl

theorem entry_line_last (entry : RemoteEntry) :
    ∃ last, (entryLine entry).getLast? = some last ∧ isSpace last = false := by
  have nonempty : Nat.toDigits 10 entry.size ≠ [] := Nat.toDigits_ne_nil
  refine ⟨(Nat.toDigits 10 entry.size).getLast nonempty, ?_, ?_⟩
  · rw [entryLine]
    simp [getLast?_cons, getLast?_eq_some_getLast nonempty]
  · exact is_space_of_is_digit (digit_of_mem (getLast_mem nonempty))

theorem trim_entry_line (visible : startsWithSpace entry.name = false) :
    trim (entryLine entry) = entryLine entry := by
  obtain ⟨last, ends, stop⟩ := entry_line_last entry
  cases name : entry.name with
  | nil => exact absurd name entry.named
  | cons first rest =>
    rw [name] at visible
    have start : isSpace first = false := visible
    rw [entryLine, name] at ends ⊢
    exact trim_of_ends start stop ends

theorem parse_entry_line (visible : startsWithSpace entry.name = false) :
    ∃ node, parseEntry (entryLine entry) = some node ∧ node.name = entry.name ∧
      node.type = kindOf entry := by
  unfold parseEntry
  rw [trim_entry_line visible, split_entry_line]
  cases kind : entry.isDirectory with
  | true =>
    exact ⟨_, rfl, rfl, by rw [kindOf, if_pos kind]⟩
  | false =>
    exact ⟨_, rfl, rfl, by rw [kindOf, kind]; rfl⟩

end

def strayLines (pwd : List Char) : List (List Char) :=
  match cutFirst separator (pwd ++ ['\n']) with
  | none => []
  | some (_, back) => lines back

section

variable {pwd front back : List Char} {entries : List RemoteEntry} {nodes : List FSNode}

theorem printed_lines (entries : List RemoteEntry) :
    (lines ((entries.map fun entry => entryLine entry ++ ['\n']).flatten)).filterMap parseEntry =
    (entries.map entryLine).filterMap parseEntry := by
  induction entries with
  | nil => rfl
  | cons entry entries ih =>
    rw [map_cons, flatten_cons, append_assoc, singleton_append,
      lines_append_line, lines_one_line (entry_line_one_line entry), filterMap_append, ih,
      map_cons, ← filterMap_append, singleton_append]

theorem marker_one_line : '\n' ∉ marker := by
  have each : (marker.all fun c => c != '\n') = true := by decide
  intro mem
  exact absurd (all_eq_true.mp each _ mem) (by decide)

theorem marker_unread : parseEntry marker = none := by decide +kernel

theorem stray_ended (found : cutFirst separator (pwd ++ ['\n']) = some (front, back)) :
    back = [] ∨ ∃ text, back = text ++ ['\n'] := by
  have whole := cut_first_whole found
  induction back using reverseRecOn with
  | nil => exact .inl rfl
  | append_singleton text last _ =>
    rw [← append_assoc] at whole
    have same := (append_inj' whole rfl).2
    exact .inr ⟨text, by rw [← same]⟩

theorem split_output (pwd : List Char) (entries : List RemoteEntry) :
    ∃ front back, splitN separator 2 (listingOutput pwd entries) = [front, back] ∧
      (lines (trim back)).filterMap parseEntry =
        (strayLines pwd).filterMap parseEntry ++
          ((sortByName entries).map entryLine).filterMap parseEntry := by
  unfold listingOutput strayLines
  rw [← printed_lines]
  generalize ((sortByName entries).map fun entry => entryLine entry ++ ['\n']).flatten = listing
  rw [splitN]
  cases found : cutFirst separator (pwd ++ ['\n']) with
  | none =>
    have ended : pwd ++ ['\n'] = [] ∨ (pwd ++ ['\n']).getLast? = some '\n' := by simp
    rw [separator, cut_line marker_one_line ended found]
    refine ⟨pwd ++ ['\n'], listing, rfl, ?_⟩
    rw [read_lines_trim parse_entry_trim parse_entry_blank]
    rfl
  | some halves =>
    obtain ⟨front, back⟩ := halves
    rw [append_assoc, cut_first_append found]
    refine ⟨front, back ++ (separator ++ listing), rfl, ?_⟩
    rw [read_lines_trim parse_entry_trim parse_entry_blank, separator, append_assoc,
      singleton_append]
    have behind : (lines (marker ++ '\n' :: listing)).filterMap parseEntry =
        (lines listing).filterMap parseEntry := by
      rw [lines_append_line, lines_one_line marker_one_line, filterMap_append,
        filterMap_cons_none marker_unread, filterMap_nil, nil_append]
    have empty : (lines []).filterMap parseEntry = [] :=
      filterMap_cons_none parse_entry_blank
    rcases stray_ended found with rfl | ⟨text, rfl⟩
    · rw [nil_append, behind, empty, nil_append]
    have stray : lines (text ++ ['\n']) = lines text ++ lines [] := lines_append_line text []
    rw [append_assoc, singleton_append, lines_append_line, filterMap_append,
      behind]
    dsimp only
    rw [stray, filterMap_append, empty, append_nil]

def entryNames (fold : Char → Char) (query : String) (entries : List RemoteEntry)
    (isDirectory : Bool) : List (List Char) :=
  (entries.filter fun entry => entry.isDirectory == isDirectory &&
    (compileFSListQueryMatchers query).any fun matchers =>
      matchesFSListQuery fold (Utf8.encode entry.name) matchers).map RemoteEntry.name

/-- The entries that a query keeps are listed, each under its name and as what it is. -/
def Lists (fold : Char → Char) (query : String) (entries : List RemoteEntry)
    (result : Except RemoteListError FSListResult) : Prop :=
  ∃ listed, result = .ok listed ∧
    (listed.directories.map FSNode.name).Perm (entryNames fold query entries true) ∧
    (listed.files.map FSNode.name).Perm (entryNames fold query entries false)

theorem list_remote_eq {stdout : List Char} (fold : Char → Char) (toLower : List Char → List Char)
    (remotePath query : String) (halves : splitN separator 2 stdout = [front, back])
    {matchers : List (List Go.Regexp.Part)}
    (compiled : compileFSListQueryMatchers query = some matchers) :
    ∃ listed, listRemoteFS fold toLower stdout remotePath query = .ok listed ∧
    listed.directories.Perm ((listedNodes fold matchers (trim back)).filter (·.type = .directory)) ∧
    listed.files.Perm ((listedNodes fold matchers (trim back)).filter (·.type = .file)) := by
  unfold listRemoteFS
  rw [halves]
  rw [compiled]
  dsimp only
  by_cases blank : trim back = []
  · have none : listedNodes fold matchers (trim back) = [] := by
      rw [blank]
      rfl
    rw [if_pos blank, none]
    exact ⟨_, rfl, List.Perm.refl _, List.Perm.refl _⟩
  · rw [if_neg blank]
    exact ⟨_, rfl, mergeSort_perm _ _, mergeSort_perm _ _⟩

theorem read_entry_lines (visible : ∀ entry ∈ entries, startsWithSpace entry.name = false) :
    ∃ nodes, (entries.map entryLine).filterMap parseEntry = nodes ∧
      nodes.map (fun node => (node.name, node.type)) =
        entries.map fun entry => (entry.name, kindOf entry) := by
  induction entries with
  | nil => exact ⟨[], rfl, rfl⟩
  | cons entry entries ih =>
    rw [forall_mem_cons] at visible
    obtain ⟨node, read, name, kind⟩ := parse_entry_line visible.1
    obtain ⟨nodes, others, same⟩ := ih visible.2
    refine ⟨node :: nodes, ?_, ?_⟩
    · rw [map_cons, filterMap_cons_some read, others]
    · rw [map_cons, map_cons, name, kind, same]

theorem kept_names {nodes : List FSNode}
    (same : nodes.map (fun node => (node.name, node.type)) =
      entries.map fun entry => (entry.name, kindOf entry))
    (keeps : List Char → Bool) (isDirectory : Bool) :
    ((nodes.filter fun node => keeps node.name).filter
      (·.type = if isDirectory then .directory else .file)).map FSNode.name =
      (entries.filter fun entry => entry.isDirectory == isDirectory && keeps entry.name).map
        RemoteEntry.name := by
  let chosen : List Char × FSNodeType → Bool := fun pair =>
    decide (pair.2 = if isDirectory then .directory else .file) && keeps pair.1
  have left : ((nodes.filter fun node => keeps node.name).filter
      (·.type = if isDirectory then .directory else .file)).map FSNode.name =
      ((nodes.map fun node => (node.name, node.type)).filter chosen).map Prod.fst := by
    rw [filter_filter, filter_map, map_map]
    rfl
  have right : (entries.filter fun entry =>
      entry.isDirectory == isDirectory && keeps entry.name).map RemoteEntry.name =
      ((entries.map fun entry => (entry.name, kindOf entry)).filter chosen).map Prod.fst := by
    rw [filter_map, map_map]
    have agree : (fun entry : RemoteEntry =>
        entry.isDirectory == isDirectory && keeps entry.name) =
        chosen ∘ fun entry => (entry.name, kindOf entry) := by
      funext entry
      cases kind : entry.isDirectory <;> cases isDirectory <;> simp [chosen, kindOf, kind]
    rw [agree]
    rfl
  rw [left, right, same]

theorem length_by_type (nodes : List FSNode) :
    (nodes.filter (·.type = .directory)).length + (nodes.filter (·.type = .file)).length =
      nodes.length := by
  induction nodes with
  | nil => rfl
  | cons node nodes ih => cases kind : node.type <;> simp [kind] <;> omega

theorem length_by_kind (entries : List RemoteEntry) : (entries.filter (·.isDirectory ==
    true)).length + (entries.filter (·.isDirectory == false)).length = entries.length := by
  induction entries with
  | nil => rfl
  | cons entry entries ih =>
    cases kind : entry.isDirectory <;> simp [kind] at ih ⊢ <;> omega

theorem compile_empty_query : compileFSListQueryMatchers "" = some [] :=
  query_compiles ""

theorem entry_names_all (fold : Char → Char) (entries : List RemoteEntry) (isDirectory : Bool) :
    entryNames fold "" entries isDirectory =
      (entries.filter (·.isDirectory == isDirectory)).map RemoteEntry.name := by
  rw [entryNames, compile_empty_query]
  simp [matchesFSListQuery]

theorem listed_nodes_all (fold : Char → Char) (listing : List Char) :
    listedNodes fold [] listing = (lines listing).filterMap parseEntry := by
  rw [listedNodes, filter_eq_self]
  intro node _
  rfl

theorem visible_of_names {nodes : List FSNode}
    (read : ∀ node ∈ nodes, startsWithSpace node.name = false)
    (directories : ((nodes.filter (·.type = .directory)).map FSNode.name).Perm
      ((entries.filter (·.isDirectory == true)).map RemoteEntry.name))
    (files : ((nodes.filter (·.type = .file)).map FSNode.name).Perm
      ((entries.filter (·.isDirectory == false)).map RemoteEntry.name)) :
    ∀ entry ∈ entries, startsWithSpace entry.name = false := by
  intro entry mem
  have own : entry.name ∈ (entries.filter (·.isDirectory == entry.isDirectory)).map
      RemoteEntry.name :=
    mem_map.mpr ⟨entry, mem_filter.mpr ⟨mem, beq_self_eq_true _⟩, rfl⟩
  have listed : ∃ type : FSNodeType,
      entry.name ∈ (nodes.filter (·.type = type)).map FSNode.name := by
    cases kind : entry.isDirectory with
    | true =>
      rw [kind] at own
      exact ⟨.directory, directories.mem_iff.mpr own⟩
    | false =>
      rw [kind] at own
      exact ⟨.file, files.mem_iff.mpr own⟩
  obtain ⟨type, named⟩ := listed
  obtain ⟨node, inside, name⟩ := mem_map.mp named
  rw [← name]
  exact read node (mem_filter.mp inside).1

theorem strays_unread_iff (pwd : List Char) : (strayLines pwd).filterMap parseEntry = [] ↔
    ∀ line ∈ strayLines pwd, (trim line).count '\t' < 3 := by
  rw [filterMap_eq_nil_iff]
  exact forall₂_congr fun line _ => parse_entry_eq_none

variable {fold : Char → Char} {toLower : List Char → List Char} {remotePath : String}

theorem visible_of_lists
    (lists : Lists fold "" entries
      (listRemoteFS fold toLower (listingOutput pwd entries) remotePath "")) :
    (∀ entry ∈ entries, startsWithSpace entry.name = false) ∧
    (strayLines pwd).filterMap parseEntry = [] := by
  obtain ⟨front, back, halves, parsed⟩ := split_output pwd entries
  have sorted : (sortByName entries).Perm entries := mergeSort_perm _ _
  obtain ⟨listed, result, directories, files⟩ := lists
  obtain ⟨listed', result', ofDirectories, ofFiles⟩ :=
    list_remote_eq fold toLower remotePath "" halves compile_empty_query
  rw [result'] at result
  cases result
  rw [listed_nodes_all] at ofDirectories ofFiles
  rw [entry_names_all] at directories files
  have read : ∀ node ∈ (lines (trim back)).filterMap parseEntry,
      startsWithSpace node.name = false := by
    intro node inside
    obtain ⟨line, -, fromLine⟩ := mem_filterMap.mp inside
    exact parse_entry_name fromLine
  have directories' := (ofDirectories.map FSNode.name).symm.trans directories
  have files' := (ofFiles.map FSNode.name).symm.trans files
  have visible := visible_of_names read directories' files'
  refine ⟨visible, ?_⟩
  obtain ⟨nodes, fromEntries, same⟩ :=
    read_entry_lines fun entry mem => visible entry (sorted.mem_iff.mp mem)
  have count := congrArg length same
  rw [length_map, length_map, sorted.length_eq] at count
  have whole := congrArg length parsed
  rw [fromEntries, length_append, ← length_by_type] at whole
  have ofKind := length_by_kind entries
  have directoryCount := directories'.length_eq
  have fileCount := files'.length_eq
  rw [length_map, length_map] at directoryCount fileCount
  apply eq_nil_of_length_eq_zero
  omega

theorem lists_of_visible (visible : ∀ entry ∈ entries, startsWithSpace entry.name = false)
    (clean : (strayLines pwd).filterMap parseEntry = []) (query : String) :
    Lists fold query entries
      (listRemoteFS fold toLower (listingOutput pwd entries) remotePath query) := by
  obtain ⟨front, back, halves, parsed⟩ := split_output pwd entries
  have sorted : (sortByName entries).Perm entries := mergeSort_perm _ _
  obtain ⟨nodes, fromEntries, same⟩ :=
    read_entry_lines fun entry mem => visible entry (sorted.mem_iff.mp mem)
  rw [clean, fromEntries] at parsed
  have compiled := query_compiles query
  obtain ⟨listed, result, ofDirectories, ofFiles⟩ :=
    list_remote_eq fold toLower remotePath query halves compiled
  rw [listedNodes, parsed] at ofDirectories ofFiles
  have kept := kept_names same fun name => matchesFSListQuery fold (Utf8.encode name)
    ((queryPatterns query).map fun pattern => pattern.map Go.Regexp.wildPart)
  have names : ∀ isDirectory, (entryNames fold query (sortByName entries) isDirectory).Perm
      (entryNames fold query entries isDirectory) := fun isDirectory =>
    (sorted.filter _).map RemoteEntry.name
  simp only [entryNames, compiled] at names
  refine ⟨listed, result, ?_, ?_⟩
  · rw [entryNames, compiled]
    exact (ofDirectories.map FSNode.name).trans (kept true ▸ names true)
  · rw [entryNames, compiled]
    exact (ofFiles.map FSNode.name).trans (kept false ▸ names false)

end

/-- A listing comes through for every query exactly if no name starts with white space, and the name
of the directory has no line of four fields behind a marker of its own. -/
theorem remote_listing_round_trips_iff (fold : Char → Char) (toLower : List Char → List Char)
    (remotePath : String) (pwd : List Char) (entries : List RemoteEntry) :
    (∀ query,
      Lists fold query entries
        (listRemoteFS fold toLower (listingOutput pwd entries) remotePath query)) ↔
    (∀ entry ∈ entries, startsWithSpace entry.name = false) ∧
      ∀ line ∈ strayLines pwd, (trim line).count '\t' < 3 := by
  rw [← strays_unread_iff]
  constructor
  · intro listsAll
    exact visible_of_lists (listsAll "")
  · rintro ⟨visible, clean⟩
    exact lists_of_visible visible clean

def blankEntry : RemoteEntry where
  name := " a".toList
  named := by decide
  plain := by decide
  isDirectory := false
  modified := 5
  size := 1

example : parseEntry (entryLine blankEntry) =
    some { name := "a".toList, type := .file, size := 1, modifiedTime := 5 } := by decide +kernel

/-- The file " a" is listed under another name. -/
theorem blank_entry_not_listed :
    ¬∀ query,
      Lists id query [blankEntry]
        (listRemoteFS id id (listingOutput "/srv".toList [blankEntry]) "/srv" query) := by
  intro listsAll
  have visible := (visible_of_lists (listsAll "")).1 blankEntry List.mem_cons_self
  revert visible
  decide

end RuneTerminal.Files
