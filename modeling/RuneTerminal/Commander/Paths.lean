import RuneTerminal.Commander.Clone
import RuneTerminal.Go.Filepath

/-! Paths as the commander shows, reads, splits and joins them (`runtime.ts`, `view-model.ts`).
Separators of other platforms are replaced first. -/

namespace RuneTerminal.Commander

open Go.Filepath (IsName Name Path componentsOf writePath)
open List

/-- `lastIndexOf('/')` is at the end of what is kept here. -/
def getRuntimePathParent (path : String) : Option String :=
  let normalizedPath := trimTrailingSeparators path.toList
  if normalizedPath = [] ∨ normalizedPath = ['/'] ∨ isDriveRoot normalizedPath then none
  else if '/' ∉ normalizedPath then none
  else
    let parent := (normalizedPath.rdropWhile (· != '/')).dropLast
    if parent = [] then some "/" else some (String.ofList parent)

def formatRuntimePathForDisplay (path homeDir : String) : String :=
  let normalizedPath := trimTrailingSeparators path.toList
  let normalizedHomeDir := trimTrailingSeparators homeDir.toList
  if normalizedPath = [] ∨ normalizedHomeDir = [] then String.ofList normalizedPath
  else if normalizedPath = normalizedHomeDir then "~"
  else if (normalizedHomeDir ++ ['/']).isPrefixOf normalizedPath then
    String.ofList ('~' :: normalizedPath.drop normalizedHomeDir.length)
  else String.ofList normalizedPath

def isAbsolutePath (path : List Char) : Bool :=
  match path with
  | '/' :: _ => true
  | '\\' :: '\\' :: _ => true
  | letter :: ':' :: separator :: _ =>
    letter.isAlpha && (separator == '\\' || separator == '/')
  | _ => false

def resolveRuntimePathInput (inputValue homeDir currentPath : String) : String :=
  let trimmedInputValue := trim inputValue
  if trimmedInputValue = "" then currentPath
  else
    let normalizedInputValue := normalizePathSeparators trimmedInputValue.toList
    if normalizedInputValue = ['~'] ∧ homeDir ≠ "" then
      String.ofList (trimTrailingSeparators homeDir.toList)
    else if ['~', '/'].isPrefixOf normalizedInputValue ∧ homeDir ≠ "" then
      joinRuntimePath homeDir (String.ofList (normalizedInputValue.drop 2))
    else if isAbsolutePath normalizedInputValue then
      String.ofList (trimTrailingSeparators normalizedInputValue)
    else joinRuntimePath currentPath (String.ofList normalizedInputValue)

def toEntryIdFromPath (path : String) : String :=
  let trimmed := (normalizePathSeparators path.toList).rdropWhile (· == '/')
  let normalizedPath := if trimmed = [] then ['/'] else trimmed
  let parentPath := (getRuntimePathParent (String.ofList normalizedPath)).getD "/"
  let entryName := (normalizedPath.splitOn '/').getLast?.getD normalizedPath
  parentPath ++ "::" ++ String.ofList entryName

def toEntryIdsFromPaths (directoryPath : String) (paths : List String) : List String :=
  (paths.filter fun path => (getRuntimePathParent path).getD "/" = directoryPath).map
    toEntryIdFromPath

variable {segments : List (List Char)} {text : List Char}

section

variable {path : List Char} {place : Path}

theorem separators_of_plain (plain : '\\' ∉ path) :
    normalizePathSeparators path = path := by
  have same : ∀ c ∈ path, (if c = '\\' then '/' else c) = id c := by
    intro c mem
    rw [if_neg (fun back : c = '\\' => plain (back ▸ mem))]
    rfl
  rw [normalizePathSeparators, map_congr_left same, map_id]

theorem plain_of_normalize (path : List Char) : '\\' ∉ normalizePathSeparators path := by
  intro mem
  obtain ⟨c, -, same⟩ := mem_map.mp mem
  by_cases back : c = '\\'
  · rw [if_pos back] at same
    cases same
  · rw [if_neg back] at same
    exact back same

theorem intercalate_concat (nonempty : segments ≠ []) (last : List Char) :
    ['/'].intercalate (segments ++ [last]) = ['/'].intercalate segments ++ '/' :: last := by
  induction segments with
  | nil => exact absurd rfl nonempty
  | cons first rest ih =>
    cases rest with
    | nil => simp [intercalate]
    | cons next rest =>
      rw [cons_append, cons_append, intercalate_cons_cons, ← cons_append, ih (by
        simp)]
      simp

theorem write_path_concat (place : Path) (name : Name) : writePath (place ++ [name]) =
    (if place = [] then [] else writePath place) ++ '/' :: name.val := by
  unfold writePath componentsOf Go.Filepath.renderPath
  by_cases root : place = []
  · rw [root]
    simp
  · rw [if_neg root, map_append, if_pos rfl, if_pos rfl, map_cons, map_nil,
      intercalate_concat (map_eq_nil_iff.not.mpr root), cons_append]

theorem split_write_path (place : Path) : ((writePath place).splitOn '/').filter (fun segment =>
    segment ≠ [] ∧ segment ≠ ['.']) = componentsOf place := by
  induction place using reverseRecOn with
  | nil => rfl
  | append_singleton place name ih =>
    obtain ⟨nonempty, notDot, -, noSlash⟩ := name.property
    have single : (name.val.splitOn '/').filter
        (fun segment => segment ≠ [] ∧ segment ≠ ['.']) = [name.val] := by
      rw [splitOn_eq_singleton noSlash]
      simp [nonempty, show name.val ≠ ['.'] from notDot]
    rw [write_path_concat, splitOn_append_cons_self, filter_append, single]
    unfold componentsOf at ih ⊢
    rw [map_append]
    split_ifs with root
    · rw [root]
      rfl
    · rw [ih]
      rfl

theorem join_segments_names (place : Path) (segments : List (List Char)) :
    (componentsOf place).foldl joinSegment segments = segments ++ componentsOf place := by
  induction place generalizing segments with
  | nil => simp [componentsOf]
  | cons name rest ih =>
    have named : joinSegment segments name.val = segments ++ [name.val] :=
      if_neg name.property.2.2.1
    unfold componentsOf at ih ⊢
    rw [map_cons, foldl_cons, named, ih, append_assoc, singleton_append]

theorem head_write_path (place : Path) : (writePath place).head? = some '/' := rfl

theorem last_write_path {place : Path} (below : place ≠ []) :
    ∀ nonempty, (writePath place).getLast nonempty ≠ '/' := by
  obtain ⟨above, name, rfl⟩ := (eq_nil_or_concat place).resolve_left below
  rw [concat_eq_append, write_path_concat]
  intro nonempty
  obtain ⟨named, -, -, noSlash⟩ := name.property
  rw [getLast_append_of_ne_nil _ (cons_ne_nil _ _), getLast_cons named]
  intro same
  exact noSlash (same ▸ getLast_mem named)

theorem trim_write_path (plain : '\\' ∉ writePath place) :
    trimTrailingSeparators (writePath place) = writePath place := by
  unfold trimTrailingSeparators
  rw [separators_of_plain plain]
  dsimp only
  split_ifs with bare
  · rfl
  apply rdropWhile_eq_self_iff.mpr
  intro nonempty
  have below : place ≠ [] := by
    rintro rfl
    exact bare (.inr rfl)
  simpa using last_write_path below nonempty

def joinedSegments (base next : String) : List (List Char) :=
  (((trimTrailingSeparators base.toList ++
    '/' :: normalizePathSeparators next.toList).splitOn '/').filter fun segment =>
      segment ≠ [] ∧ segment ≠ ['.']).foldl joinSegment []

theorem join_without_drive {base : String} (next : String)
    (noDrive : drivePrefixMatch (trimTrailingSeparators base.toList) = none) :
    joinRuntimePath base next =
      String.ofList
        ((if (trimTrailingSeparators base.toList).head? = some '/' then ['/'] else []) ++
          ['/'].intercalate (joinedSegments base next)) := by
  unfold joinRuntimePath
  dsimp only
  rw [noDrive]
  split_ifs <;> rfl

theorem no_drive_of_rooted (rooted : text.head? = some '/') : drivePrefixMatch text = none := by
  unfold drivePrefixMatch
  split
  · cases rooted
    rfl
  · rfl

theorem join_runtime_path_eq {base next : String}
    (rooted : (trimTrailingSeparators base.toList).head? = some '/')
    (segments : ((trimTrailingSeparators base.toList ++ '/' ::
      normalizePathSeparators next.toList).splitOn '/').filter
      (fun segment => segment ≠ [] ∧ segment ≠ ['.']) =
      componentsOf place) :
    joinRuntimePath base next = String.ofList (writePath place) := by
  rw [join_without_drive next (no_drive_of_rooted rooted), if_pos rooted, joinedSegments, segments,
    join_segments_names]
  rfl

end

/-- The text of a normalized absolute path without a backslash. -/
def IsNormalPath (path : String) : Prop :=
  '\\' ∉ path.toList ∧ ∃ place : Path, path.toList = writePath place

theorem trim_of_ends (first : ∀ c ∈ text.head?, isSpace c = false)
    (last : ∀ c ∈ text.getLast?, isSpace c = false) :
    trim (String.ofList text) = String.ofList text := by
  unfold trim
  rw [String.toList_ofList]
  congr 1
  cases text with
  | nil => rfl
  | cons c rest =>
    rw [dropWhile_cons_of_neg (by simpa using first c rfl)]
    apply rdropWhile_eq_self_iff.mpr
    intro nonempty
    simpa using last _ (getLast?_eq_getLast_of_ne_nil nonempty)

/-- A path that is shown can be typed back, wherever the home directory is. -/
theorem resolve_displayed_path {path : String} (normal : IsNormalPath path)
    (last : ∀ c ∈ path.toList.getLast?, isSpace c = false) (homeDir currentPath : String) :
    resolveRuntimePathInput (formatRuntimePathForDisplay path homeDir) homeDir currentPath =
    path := by
  obtain ⟨plain, place, text⟩ := normal
  have kept : trimTrailingSeparators path.toList = path.toList := by
    rw [text] at plain ⊢
    exact trim_write_path plain
  have shown : resolveRuntimePathInput path homeDir currentPath = path := by
    obtain ⟨rest, slash⟩ : ∃ rest, path.toList = '/' :: rest := ⟨_, text⟩
    have trimmed : trim path = path := by
      have first : ∀ c ∈ path.toList.head?, isSpace c = false := by
        intro c first
        rw [slash] at first
        cases first
        decide
      have ends := trim_of_ends first last
      rwa [String.ofList_toList] at ends
    have nonempty : path ≠ "" := by
      rintro rfl
      cases slash
    unfold resolveRuntimePathInput
    dsimp only
    rw [trimmed, separators_of_plain plain, if_neg nonempty, if_neg (by rw [slash]; simp),
      if_neg (by rw [slash]; simp), if_pos (by rw [slash]; rfl), kept, String.ofList_toList]
  unfold formatRuntimePathForDisplay
  dsimp only
  rw [kept, String.ofList_toList]
  split_ifs with empty atHome below
  · exact shown
  · have known : homeDir ≠ "" := by
      rintro rfl
      exact empty (.inr rfl)
    unfold resolveRuntimePathInput
    rw [if_neg (by decide), if_pos ⟨rfl, known⟩, ← atHome, String.ofList_toList]
  · obtain ⟨rest, whole⟩ := isPrefixOf_iff_prefix.mp below
    rw [append_assoc, singleton_append] at whole
    have known : homeDir ≠ "" := by
      rintro rfl
      exact empty (.inr rfl)
    have dropped : path.toList.drop (trimTrailingSeparators homeDir.toList).length =
      '/' :: rest := by
      rw [← whole, drop_left]
    have restPlain : '\\' ∉ rest := by
      intro mem
      exact plain (whole ▸ by simp [mem])
    have trimmed : trim (String.ofList ('~' :: '/' :: rest)) =
      String.ofList ('~' :: '/' :: rest) := by
      apply trim_of_ends
      · intro c first
        cases first
        decide
      · rw [← whole, getLast?_append_of_ne_nil _ (cons_ne_nil _ _)] at last
        rwa [getLast?_cons_cons]
    unfold resolveRuntimePathInput
    dsimp only
    rw [dropped, trimmed, String.toList_ofList, separators_of_plain (by simp [restPlain]),
      if_neg (by simp), if_neg (by simp), if_pos ⟨by simp, known⟩]
    have rooted : (trimTrailingSeparators homeDir.toList).head? = some '/' := by
      have same := congrArg head? (whole.trans text)
      rwa [head?_append_of_ne_nil _ (fun bare => empty (.inr bare))] at same
    have joined := @join_runtime_path_eq place homeDir (String.ofList rest)
    rw [String.toList_ofList, separators_of_plain restPlain, whole, text] at joined
    exact (joined rooted (split_write_path place)).trans (by rw [← text, String.ofList_toList])
  · exact shown

theorem home_entry_displayed :
    resolveRuntimePathInput (formatRuntimePathForDisplay "/home/me/notes" "/home/me/") "/home/me/"
      "/tmp" =
      "/home/me/notes" := by
  apply resolve_displayed_path
  · exact ⟨by decide, [⟨"home".toList, by decide⟩, ⟨"me".toList, by decide⟩,
      ⟨"notes".toList, by decide⟩], by decide⟩
  · intro c last
    cases last
    decide

def textOf (place : Path) : String := String.ofList (writePath place)

def pathOfEntry (directory : Path) (name : Name) : String :=
  joinRuntimePath (textOf directory) (String.ofList name.val)

/-- The paths and ids of entries name these entries and no others. -/
structure NamesEntries (directory : Path) (names : List Name) : Prop where
  joined : ∀ name ∈ names, pathOfEntry directory name = textOf (directory ++ [name])
  parent : ∀ name ∈ names,
    getRuntimePathParent (pathOfEntry directory name) = some (textOf directory)
  last : ∀ name ∈ names, ((pathOfEntry directory name).toList.splitOn '/').getLast? = some name.val
  distinct : ∀ name ∈ names, ∀ other ∈ names,
    pathOfEntry directory name = pathOfEntry directory other → name = other
  ids : toEntryIdsFromPaths (textOf directory) (names.map (pathOfEntry directory)) =
    names.map fun name => toCommanderEntryId (textOf directory) (String.ofList name.val)

section

variable {directory : Path} {name : Name} {segment : List Char} {c : Char}

theorem mem_of_mem_split (mem : segment ∈ text.splitOn '/') (inside : c ∈ segment) : c ∈ text := by
  induction text generalizing segment with
  | nil =>
    rw [splitOn_nil, mem_singleton] at mem
    exact mem ▸ inside
  | cons first rest ih =>
    rw [splitOn_cons_eq_if_modifyHead] at mem
    obtain ⟨front, others, parts⟩ := exists_cons_of_ne_nil (splitOn_ne_nil '/' rest)
    rw [parts] at mem ih
    split_ifs at mem
    · rcases mem_cons.mp mem with rfl | later
      · cases inside
      · exact mem_cons_of_mem _ (ih later inside)
    rcases mem_cons.mp mem with rfl | later
    · rcases mem_cons.mp inside with rfl | inside
      · exact mem_cons_self
      · exact mem_cons_of_mem _ (ih mem_cons_self inside)
    · exact mem_cons_of_mem _ (ih (mem_cons_of_mem _ later) inside)

theorem mem_intercalate (mem : c ∈ ['/'].intercalate segments) :
    c = '/' ∨ ∃ segment ∈ segments, c ∈ segment := by
  induction segments with
  | nil => cases mem
  | cons first rest ih =>
    cases rest with
    | nil => exact .inr ⟨first, mem_cons_self, by simpa [intercalate] using mem⟩
    | cons next rest =>
      rw [intercalate_cons_cons, mem_append, mem_append, mem_singleton] at mem
      rcases mem with (inFirst | slash) | later
      · exact .inr ⟨first, mem_cons_self, inFirst⟩
      · exact .inl slash
      · exact (ih later).imp_right fun ⟨segment, known, inside⟩ =>
          ⟨segment, mem_cons_of_mem _ known, inside⟩

theorem mem_join_segment {first : List Char} (mem : segment ∈ joinSegment segments first) :
    segment ∈ segments ∨ segment = first := by
  unfold joinSegment at mem
  split_ifs at mem
  · split at mem
    · exact .inl mem
    · split_ifs at mem
      · exact .inl mem
      · exact .inl ((dropLast_sublist _).subset mem)
  · rcases mem_append.mp mem with kept | isFirst
    · exact .inl kept
    · exact .inr (mem_singleton.mp isFirst)

theorem mem_joined_segments {joined : List (List Char)}
    (mem : segment ∈ segments.foldl joinSegment joined) :
    segment ∈ joined ∨ segment ∈ segments := by
  induction segments generalizing joined with
  | nil => exact .inl mem
  | cons first rest ih =>
    rcases ih mem with kept | later
    · rcases mem_join_segment kept with old | rfl
      · exact .inl old
      · exact .inr mem_cons_self
    · exact .inr (mem_cons_of_mem _ later)

theorem plain_of_join (directory : Path) (name : Name) :
    '\\' ∉ (pathOfEntry directory name).toList := by
  have start : trimTrailingSeparators (writePath directory) <+:
      normalizePathSeparators (writePath directory) := by
    unfold trimTrailingSeparators
    dsimp only
    split_ifs
    · exact prefix_rfl
    · exact rdropWhile_prefix _ _
  have noDrive : drivePrefixMatch (trimTrailingSeparators (writePath directory)) = none := by
    cases trimmed : trimTrailingSeparators (writePath directory) with
    | nil => rfl
    | cons c rest =>
      rw [trimmed] at start
      obtain ⟨more, whole⟩ := start
      apply no_drive_of_rooted
      exact congrArg head? whole
  unfold pathOfEntry textOf
  rw [join_without_drive _ (by rwa [String.toList_ofList]), String.toList_ofList, mem_append]
  rintro (slash | member)
  · split_ifs at slash <;> simp at slash
  rcases mem_intercalate member with slash | ⟨segment, known, inside⟩
  · cases slash
  unfold joinedSegments at known
  rw [String.toList_ofList] at known
  rcases mem_joined_segments known with none | known
  · cases none
  have whole := mem_of_mem_split (mem_filter.mp known).1 inside
  rcases mem_append.mp whole with before | after
  · exact plain_of_normalize _ (start.subset before)
  · rcases mem_cons.mp after with slash | after
    · cases slash
    · exact plain_of_normalize _ after

theorem joined_of_plain (plain : '\\' ∉ writePath (directory ++ [name])) :
    pathOfEntry directory name = textOf (directory ++ [name]) := by
  obtain ⟨nonempty, notDot, -, noSlash⟩ := name.property
  rw [write_path_concat] at plain
  have directoryPlain : '\\' ∉ writePath directory := by
    split_ifs at plain with root
    · rw [root]
      decide
    · exact fun mem => plain (mem_append_left _ mem)
  have namePlain : '\\' ∉ name.val := fun mem => plain (by simp [mem])
  apply join_runtime_path_eq
  · rw [textOf, String.toList_ofList, trim_write_path directoryPlain]
    rfl
  rw [textOf, String.toList_ofList, String.toList_ofList, trim_write_path directoryPlain,
    separators_of_plain namePlain]
  rw [splitOn_append_cons_self, filter_append, split_write_path,
    splitOn_eq_singleton noSlash]
  simp [componentsOf, nonempty, show name.val ≠ ['.'] from notDot]

theorem parent_of_entry (plain : '\\' ∉ writePath (directory ++ [name])) :
    getRuntimePathParent (textOf (directory ++ [name])) = some (textOf directory) := by
  obtain ⟨nonempty, -, -, noSlash⟩ := name.property
  have kept : trimTrailingSeparators (textOf (directory ++ [name])).toList =
      writePath (directory ++ [name]) := by
    rw [textOf, String.toList_ofList, trim_write_path plain]
  have last : ((writePath (directory ++ [name])).rdropWhile (· != '/')).dropLast =
      if directory = [] then [] else writePath directory := by
    rw [write_path_concat, rdropWhile, reverse_append, reverse_cons,
      append_assoc, dropWhile_append_of_pos]
    · simp
    intro c mem
    have other : c ≠ '/' := by
      rintro rfl
      exact noSlash (mem_reverse.mp mem)
    simpa using other
  unfold getRuntimePathParent
  dsimp only
  rw [kept, last]
  have below : writePath (directory ++ [name]) ≠ ['/'] := by
    intro bare
    exact @last_write_path (directory ++ [name]) (by simp) (by simp [bare]) (by simp [bare])
  have noRoot : ¬(writePath (directory ++ [name]) = [] ∨ writePath (directory ++ [name]) = ['/'] ∨
      isDriveRoot (writePath (directory ++ [name])) = true) := by
    rintro (empty | slash | drive)
    · cases empty
    · exact below slash
    have rooted := head_write_path (directory ++ [name])
    unfold isDriveRoot at drive
    split at drive
    next letter text =>
      rw [text] at rooted
      cases rooted
      cases drive
    next => cases drive
  rw [if_neg noRoot]
  by_cases root : directory = []
  · rw [root]
    rfl
  · rw [if_neg root]
    rfl

theorem last_of_entry :
    ((textOf (directory ++ [name])).toList.splitOn '/').getLast? = some name.val := by
  rw [textOf, String.toList_ofList, write_path_concat, splitOn_append_cons_self,
    splitOn_eq_singleton name.property.2.2.2, getLast?_concat]

theorem entry_id_of_path (plain : '\\' ∉ writePath (directory ++ [name])) :
    toEntryIdFromPath (textOf (directory ++ [name])) =
    toCommanderEntryId (textOf directory) (String.ofList name.val) := by
  have kept : (normalizePathSeparators (textOf (directory ++ [name])).toList).rdropWhile
      (· == '/') = writePath (directory ++ [name]) := by
    rw [textOf, String.toList_ofList, separators_of_plain plain]
    apply rdropWhile_eq_self_iff.mpr
    intro nonempty
    simpa using last_write_path (by simp) nonempty
  have last := @last_of_entry directory name
  rw [textOf, String.toList_ofList] at last
  have parent := parent_of_entry plain
  rw [textOf] at parent
  unfold toEntryIdFromPath
  dsimp only
  rw [kept, if_neg (by simp [writePath, Go.Filepath.renderPath]), parent, last]
  rfl

end

theorem names_entries_iff (directory : Path) (names : List Name) :
    NamesEntries directory names ↔ ∀ name ∈ names, '\\' ∉ writePath (directory ++ [name]) := by
  constructor
  · intro exact name mem backslash
    have plain := plain_of_join directory name
    rw [exact.joined name mem, textOf, String.toList_ofList] at plain
    exact plain backslash
  intro plain
  have joined : ∀ name ∈ names, pathOfEntry directory name = textOf (directory ++ [name]) :=
    fun name mem => joined_of_plain (plain name mem)
  have last : ∀ name ∈ names,
      ((pathOfEntry directory name).toList.splitOn '/').getLast? = some name.val := by
    intro name mem
    rw [joined name mem, last_of_entry]
  have parent : ∀ name ∈ names,
      getRuntimePathParent (pathOfEntry directory name) = some (textOf directory) := by
    intro name mem
    rw [joined name mem, parent_of_entry (plain name mem)]
  refine ⟨joined, parent, last, ?_, ?_⟩
  · intro name mem other known same
    have ends := last name mem
    rw [same, last other known] at ends
    exact Subtype.ext (Option.some.inj ends).symm
  unfold toEntryIdsFromPaths
  rw [filter_eq_self.mpr, map_map]
  · apply map_congr_left
    intro name mem
    rw [Function.comp, joined name mem, entry_id_of_path (plain name mem)]
  · intro path mem
    obtain ⟨name, known, rfl⟩ := mem_map.mp mem
    simp [parent name known]

def backslashName : Name := ⟨"a\\b".toList, by decide⟩

theorem backslash_renames_entry :
    pathOfEntry [] backslashName = "/a/b" ∧ ¬NamesEntries [] [backslashName] := by
  have joined : pathOfEntry [] backslashName = "/a/b" := by decide
  refine ⟨joined, fun exact => ?_⟩
  have same := exact.joined backslashName mem_cons_self
  exact absurd same (by decide)

end RuneTerminal.Commander
