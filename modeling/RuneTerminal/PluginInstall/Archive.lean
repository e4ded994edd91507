import RuneTerminal.Files.Mutation
import RuneTerminal.Go.Scanner

/-! `extractPluginArchive` writes the entries of an archive into the directory that `os.MkdirTemp`
has just made. Links and paths that leave it are turned down, and what is written is counted against
a limit over all entries. -/

namespace RuneTerminal.PluginInstall

open Files Go.Filepath Go.Strings Kit.FileTree List

/-- The end of a path that is opened: a link there is followed as well. -/
def openEnd (tree : Tree Name Go.Bytes)
    (walk follow : Path → List (Kit.FileTree.Part Name) → Except OsError Path) (here : Path)
    (parts : List (Kit.FileTree.Part Name)) : Except OsError Path :=
  match parts.getLast? with
  | some (.name name) =>
    match walk here parts.dropLast with
    | .error err => .error err
    | .ok there =>
      match tree.find (there ++ [name]) with
      | some (.link target) => follow (target.start there) target.parts
      | _ => if tree.isDir there then .ok (there ++ [name]) else .error .notDir
  | _ => walk here parts

/-- The place of the file that is opened or made. -/
def openPlace (tree : Tree Name Go.Bytes) :
    Nat → Path → List (Kit.FileTree.Part Name) → Except OsError Path
  | 0 => openEnd tree (walk tree 0) fun _ _ => .error .tooManyLinks
  | links + 1 => openEnd tree (walk tree (links + 1)) (openPlace tree links)

inductive ArchiveError where
  | tooManyEntries
  | invalidPath
  | symlinkEntry
  | expandsBeyondLimit
  | os (err : OsError)
  | isDir
  | refused
  | openEntry
  | read
  | write
  | close
  deriving DecidableEq

/-- What the system may do besides: at each entry it may turn down a new directory or a
file at a path, take only so many bytes, or fail to close the file. -/
structure Device where
  refuses : Nat → Path → Bool := fun _ _ => false
  room : Nat → Option Nat := fun _ => none
  closes : Nat → Bool := fun _ => true

/-- `os.MkdirAll`, on the names from the last one up. -/
def mkdirUp (refuses : Path → Bool) (tree : Tree Name Go.Bytes) :
    List Name → Tree Name Go.Bytes × Option ArchiveError
  | [] => (tree, none)
  | last :: above =>
    let path := (last :: above).reverse
    match stat tree path with
    | .ok (_, .dir) => (tree, none)
    | .ok _ => (tree, some (.os .notDir))
    | .error _ =>
      match mkdirUp refuses tree above with
      | (next, some err) => (next, some err)
      | (next, none) =>
        if refuses path then (next, some .refused)
        else
          match createEntry next path .dir with
          | .ok made => (made, none)
          | .error err =>
            match lstat next path with
            | .ok (_, .dir) => (next, none)
            | _ => (next, some (.os err))

def mkdirAll (refuses : Path → Bool) (tree : Tree Name Go.Bytes) (path : Path) :
    Tree Name Go.Bytes × Option ArchiveError := mkdirUp refuses tree path.reverse

/-- A file with this content, new or in the place of an older one. -/
def writeAt (tree : Tree Name Go.Bytes) (place : Path) (content : Go.Bytes) :
    Option (Tree Name Go.Bytes) :=
  match held : tree.find place with
  | none =>
    if parent : tree.find place.dropLast = some .dir then
      some (tree.create place (.file content) held parent)
    else none
  | some (.file _) => some (tree.rewrite place content ⟨_, held⟩)
  | some _ => none

def pluginArchiveMaxExtractedBytes : Nat := 32 * 2 ^ 20

def pluginArchiveMaxExtractedFileCount : Nat := 4096

/-- What the reader of an entry yields, whatever sizes the archive declares, and whether
an error follows. -/
structure Payload where
  data : Go.Bytes
  fails : Bool := false

structure ZipFile where
  name : String
  symlink : Bool := false
  isDir : Bool := false
  content : Option Payload := none

def pluginArchiveEntryPath (target : Path) (name : String) : Option Path :=
  let entryName := trimSpace name
  if entryName = "" then none
  else
    let entryPath := join target entryName.toList
    if ¬fsPathWithinRoot entryPath target then none else some entryPath

/-- `copyPluginPayloadWithBudget`: the bytes that are written, and the error. -/
def copyPluginArchiveEntry (room : Option Nat) (input : Payload) (extractedBytes : Nat) :
    Go.Bytes × Option ArchiveError :=
  if pluginArchiveMaxExtractedBytes < extractedBytes then ([], some .expandsBeyondLimit)
  else
    let remaining := pluginArchiveMaxExtractedBytes - extractedBytes
    let read := input.data.take (remaining + 1)
    let written := read.take (room.getD read.length)
    if pluginArchiveMaxExtractedBytes < extractedBytes + written.length then
      (written, some .expandsBeyondLimit)
    else if written.length < read.length then (written, some .write)
    else if input.fails then (written, some .read)
    else (written, none)

/-- `handled` counts the entries that came through the check of `entryCount`. -/
structure Extraction where
  tree : Tree Name Go.Bytes
  extractedBytes : Nat := 0
  handled : Nat := 0

def extractEntry (device : Device) (target : Path) (run : Extraction) (file : ZipFile) :
    Extraction × Option ArchiveError :=
  let refuses := device.refuses run.handled
  match pluginArchiveEntryPath target file.name with
  | none => (run, some .invalidPath)
  | some entryPath =>
    if file.symlink then (run, some .symlinkEntry)
    else if file.isDir then
      let made := mkdirAll refuses run.tree entryPath
      ({ run with tree := made.1 }, made.2)
    else
      match mkdirAll refuses run.tree (dir entryPath) with
      | (tree, some err) => ({ run with tree := tree }, some err)
      | (tree, none) =>
        match file.content with
        | none => ({ run with tree := tree }, some .openEntry)
        | some input =>
          match openPlace tree kernelLinks [] (nameParts entryPath) with
          | .error err => ({ run with tree := tree }, some (.os err))
          | .ok place =>
            let copied := copyPluginArchiveEntry (device.room run.handled) input run.extractedBytes
            if refuses entryPath then ({ run with tree := tree }, some .refused)
            else
              match writeAt tree place copied.1 with
              | none => ({ run with tree := tree }, some .isDir)
              | some next =>
                ({ run with tree := next, extractedBytes := run.extractedBytes + copied.1.length },
                  copied.2.or (if device.closes run.handled then none else some .close))

def extractEntries (device : Device) (target : Path) :
    Extraction → List ZipFile → Extraction × Option ArchiveError
  | run, [] => (run, none)
  | run, file :: rest =>
    if pluginArchiveMaxExtractedFileCount < run.handled + 1 then (run, some .tooManyEntries)
    else
      match extractEntry device target run file with
      | (next, some err) => ({ next with handled := next.handled + 1 }, some err)
      | (next, none) => extractEntries device target { next with handled := next.handled + 1 } rest

def zipName : Name := ⟨"zip".toList, by decide⟩

/-- `extractPluginArchive`, from the opened archive on. -/
def extractPluginArchive (device : Device) (tree : Tree Name Go.Bytes) (stageRoot : Path)
    (files : List ZipFile) : Extraction × Option ArchiveError :=
  let target := join stageRoot zipName.val
  match mkdirAll (device.refuses 0) tree target with
  | (next, some err) => ({ tree := next }, some err)
  | (next, none) => extractEntries device target { tree := next } files

/-- Nothing but files and directories below the target is new or changed. -/
structure Confined (target : Path) (tree next : Tree Name Go.Bytes) : Prop where
  outside : ∀ place, ¬target <+: place → next.find place = tree.find place
  dirs : ∀ place, tree.find place = some .dir → next.find place = some .dir
  links : ∀ place link, next.find place = some (.link link) → tree.find place = some (.link link)

def MakesDirs (tree next : Tree Name Go.Bytes) : Prop :=
  ∀ place, next.find place = tree.find place ∨
    tree.find place = none ∧ next.find place = some .dir

/-- Some directories are made, and then `bytes` bytes of the entry's data are written into
one file, or nothing is. -/
def WritesEntry (file : ZipFile) (tree : Tree Name Go.Bytes) (bytes : Nat)
    (next : Tree Name Go.Bytes) : Prop :=
  ∃ made, MakesDirs tree made ∧
    (bytes = 0 ∧ next = made ∨
      ∃ place input content, file.content = some input ∧ content <+: input.data ∧
        content.length = bytes ∧ writeAt made place content = some next)

/-- The entries write their data one by one, `bytes` bytes together. -/
inductive WritesEntries : List ZipFile → Tree Name Go.Bytes → Nat → Tree Name Go.Bytes → Prop
  | nil {tree : Tree Name Go.Bytes} : WritesEntries [] tree 0 tree
  | cons {file : ZipFile} {rest : List ZipFile} {tree middle next : Tree Name Go.Bytes}
      {bytes more : Nat} : WritesEntry file tree bytes middle →
      WritesEntries rest middle more next → WritesEntries (file :: rest) tree (bytes + more) next

/-- The staging directory is found, and no link is below the target in it. -/
structure Staged (stageRoot stage : Path) (tree : Tree Name Go.Bytes) : Prop where
  found : walk tree kernelLinks [] (nameParts stageRoot) = .ok stage
  isDir : tree.find stage = some .dir
  noLinks : ∀ place link, stage ++ [zipName] <+: place → tree.find place ≠ some (.link link)

variable {stageRoot stage : Path}

section

variable {target place names : Path} {tree next after : Tree Name Go.Bytes} {content : Go.Bytes}

theorem Confined.refl (target : Path) (tree : Tree Name Go.Bytes) : Confined target tree tree :=
  ⟨fun _ _ => rfl, fun _ held => held, fun _ _ held => held⟩

theorem Confined.trans (first : Confined target tree next) (second : Confined target next after) :
    Confined target tree after where
  outside place apart := (second.outside place apart).trans (first.outside place apart)
  dirs place held := second.dirs place (first.dirs place held)
  links place link held := first.links place link (second.links place link held)

theorem Staged.kept (staged : Staged stageRoot stage tree)
    (confined : Confined (stage ++ [zipName]) tree next) : Staged stageRoot stage next where
  found := by
    have keeps : KeepsWays tree next := by
      intro place node held notFile
      cases node with
      | file content => exact absurd rfl (notFile content)
      | dir => exact confined.dirs place held
      | link link =>
        rw [confined.outside place fun inside => staged.noLinks place link inside held]
        exact held
    obtain ⟨left, same⟩ := walk_kept keeps staged.isDir staged.found
    have again := same []
    rw [append_nil, walk_done] at again
    exact again
  isDir := confined.dirs stage staged.isDir
  noLinks place link inside held :=
    staged.noLinks place link inside (confined.links place link held)

theorem Staged.place_eq (staged : Staged stageRoot stage tree)
    (below : ∀ first ∈ names.head?, first = zipName)
    (walked : walk tree kernelLinks [] (nameParts (stageRoot ++ names)) = .ok place) :
    place = stage ++ names := by
  obtain ⟨left, same⟩ := walk_kept (fun _ _ held _ => held) staged.isDir staged.found
  rw [name_parts_append, same] at walked
  apply walk_names _ walked
  intro above link nonempty isAbove
  apply staged.noLinks
  obtain ⟨first, others, rfl⟩ := exists_cons_of_ne_nil nonempty
  obtain ⟨rest, rfl⟩ := isAbove
  rw [below first rfl]
  exact ⟨others, by simp⟩

theorem head_front {before : Path} {last : Name}
    (below : ∀ first ∈ (before ++ [last]).head?, first = zipName) :
    ∀ first ∈ before.head?, first = zipName := by
  cases before with
  | nil => simp
  | cons first rest => exact below

theorem zip_prefix (below : ∀ first ∈ names.head?, first = zipName) (nonempty : names ≠ []) :
    stage ++ [zipName] <+: stage ++ names := by
  obtain ⟨first, rest, rfl⟩ := exists_cons_of_ne_nil nonempty
  rw [below first rfl]
  exact ⟨rest, by simp⟩

section

variable (staged : Staged stageRoot stage tree) (below : ∀ first ∈ names.head?, first = zipName)
  (nonempty : names ≠ [])
include staged below nonempty

theorem Staged.entry_place (placed : entryPlace tree (stageRoot ++ names) = .ok place) :
    place = stage ++ names := by
  obtain ⟨before, last, rfl⟩ := (eq_nil_or_concat names).resolve_left nonempty
  rw [concat_eq_append] at below placed ⊢
  unfold entryPlace at placed
  rw [← append_assoc, getLast?_concat] at placed
  dsimp only at placed
  rw [dropLast_concat] at placed
  split at placed
  next => cases placed
  next here walked =>
    split_ifs at placed
    cases placed
    rw [staged.place_eq (head_front below) walked, append_assoc]

theorem Staged.open_place
    (opened : openPlace tree kernelLinks [] (nameParts (stageRoot ++ names)) = .ok place) :
    place = stage ++ names := by
  obtain ⟨before, last, rfl⟩ := (eq_nil_or_concat names).resolve_left nonempty
  rw [concat_eq_append] at below opened ⊢
  have inside : stage ++ [zipName] <+: stage ++ before ++ [last] := by
    rw [append_assoc]
    exact zip_prefix below (by simp)
  unfold kernelLinks openPlace openEnd at opened
  rw [← append_assoc, nameParts, map_append, map_singleton, getLast?_concat,
    dropLast_concat] at opened
  dsimp only at opened
  split at opened
  next => cases opened
  next there walked =>
    rw [staged.place_eq (head_front below) walked] at opened
    split at opened
    next link held => exact absurd held (staged.noLinks _ link inside)
    next =>
      split_ifs at opened
      cases opened
      rw [append_assoc]

end

theorem confined_create {node : Node Name Go.Bytes} {free : tree.find place = none}
    {parent : tree.find place.dropLast = some .dir} (inside : target <+: place)
    (notLink : node.isLink = false) :
    Confined target tree (tree.create place node free parent) where
  outside other apart := if_neg fun (same : other = place) => apart (same ▸ inside)
  dirs other held := Tree.create_extends other _ held
  links other link held := by
    unfold Tree.create at held
    dsimp only at held
    split_ifs at held with same
    · cases held
      cases notLink
    · exact held

theorem confined_rewrite {isFile : ∃ old, tree.find place = some (.file old)}
    (inside : target <+: place) : Confined target tree (tree.rewrite place content isFile) where
  outside other apart := if_neg fun (same : other = place) => apart (same ▸ inside)
  dirs other held := by
    obtain ⟨old, isOld⟩ := isFile
    apply (if_neg _).trans held
    rintro rfl
    rw [isOld] at held
    cases held
  links other link held := by
    unfold Tree.rewrite at held
    dsimp only at held
    split_ifs at held with same
    · cases held
    · exact held

theorem confined_write (inside : target <+: place)
    (written : writeAt tree place content = some next) : Confined target tree next := by
  unfold writeAt at written
  split at written
  next free =>
    split_ifs at written with parent
    cases written
    exact confined_create inside rfl
  next =>
    cases written
    exact confined_rewrite inside
  next => cases written

theorem Staged.make (staged : Staged stageRoot stage tree)
    (below : ∀ first ∈ names.head?, first = zipName) (nonempty : names ≠ [])
    (made : createEntry tree (stageRoot ++ names) .dir = .ok next) :
    Confined (stage ++ [zipName]) tree next := by
  unfold createEntry at made
  split at made
  next => cases made
  next place placed =>
    split at made
    next => cases made
    next free =>
      cases made
      have same := staged.entry_place below nonempty placed
      exact confined_create (same ▸ zip_prefix below nonempty) rfl

theorem Staged.mkdir_all (staged : Staged stageRoot stage tree) (refuses : Path → Bool)
    (below : ∀ first ∈ names.head?, first = zipName) :
    Confined (stage ++ [zipName]) tree (mkdirAll refuses tree (stageRoot ++ names)).1 := by
  unfold mkdirAll
  induction names using reverseRecOn with
  | nil =>
    have held : stat tree stageRoot = .ok (stage, .dir) := by
      rw [stat, staged.found]
      simp [nodeAt, staged.isDir]
    have stays : mkdirUp refuses tree stageRoot.reverse = (tree, none) := by
      cases reversed : stageRoot.reverse with
      | nil => rfl
      | cons last above =>
        have same : (last :: above).reverse = stageRoot := by rw [← reversed, reverse_reverse]
        rw [mkdirUp, same, held]
    rw [append_nil, stays]
    exact Confined.refl _ tree
  | append_singleton before last ih =>
    have inner := ih (head_front below)
    have path : (stageRoot ++ (before ++ [last])).reverse =
        last :: (stageRoot ++ before).reverse := by simp
    have again : (last :: (stageRoot ++ before).reverse).reverse =
        stageRoot ++ (before ++ [last]) := by simp
    rw [path, mkdirUp, again]
    split
    next => exact Confined.refl _ tree
    next => exact Confined.refl _ tree
    next =>
      split
      next next err made =>
        rw [made] at inner
        exact inner
      next next made =>
        rw [made] at inner
        split_ifs
        · exact inner
        split
        next done created =>
          exact inner.trans ((staged.kept inner).make below (by simp) created)
        next => split <;> exact inner

theorem MakesDirs.refl (tree : Tree Name Go.Bytes) : MakesDirs tree tree := fun _ => .inl rfl

theorem MakesDirs.create {path : Path} (dirs : MakesDirs tree next)
    (made : createEntry next path .dir = .ok after) : MakesDirs tree after := by
  unfold createEntry at made
  split at made
  next => cases made
  next place placed =>
    split at made
    next => cases made
    next free =>
      cases made
      intro other
      by_cases same : other = place
      · rw [same]
        refine .inr ⟨?_, if_pos rfl⟩
        rcases dirs place with kept | ⟨none, _⟩
        · rw [← kept, free]
        · exact none
      · have kept : (next.create place .dir free (names_of_place placed).parent_dir).find
            other = next.find other := if_neg same
        rw [kept]
        exact dirs other

theorem mkdir_all_makes_dirs (refuses : Path → Bool) (tree : Tree Name Go.Bytes) (path : Path) :
    MakesDirs tree (mkdirAll refuses tree path).1 := by
  unfold mkdirAll
  induction path.reverse with
  | nil => exact .refl tree
  | cons last above ih =>
    rw [mkdirUp]
    split
    next => exact .refl tree
    next => exact .refl tree
    next =>
      split
      next failed =>
        rw [failed] at ih
        exact ih
      next failed =>
        rw [failed] at ih
        split_ifs
        · exact ih
        split
        next made => exact ih.create made
        next => split <;> exact ih

end

section

variable {run : Extraction}

/-- The limits hold, up to one byte where the extraction has failed. -/
structure WithinLimits (result : Extraction × Option ArchiveError) : Prop where
  handled : result.1.handled ≤ pluginArchiveMaxExtractedFileCount
  bytes : result.1.extractedBytes ≤ pluginArchiveMaxExtractedBytes + 1
  succeeded : result.2 = none → result.1.extractedBytes ≤ pluginArchiveMaxExtractedBytes

theorem entry_path_below {target entryPath : Path} {name : String}
    (accepted : pluginArchiveEntryPath target name = some entryPath) : target <+: entryPath := by
  unfold pluginArchiveEntryPath at accepted
  dsimp only at accepted
  split_ifs at accepted with blank outside
  cases accepted
  exact is_prefix_of_within (by simpa using outside)

theorem copied_within (room : Option Nat) (input : Payload) {extractedBytes : Nat}
    (within : extractedBytes ≤ pluginArchiveMaxExtractedBytes) :
    extractedBytes + (copyPluginArchiveEntry room input extractedBytes).1.length ≤
      pluginArchiveMaxExtractedBytes + 1 ∧
    ((copyPluginArchiveEntry room input extractedBytes).2 = none →
      extractedBytes + (copyPluginArchiveEntry room input extractedBytes).1.length ≤
        pluginArchiveMaxExtractedBytes) := by
  unfold copyPluginArchiveEntry
  rw [if_neg (by omega)]
  dsimp only
  generalize same : (input.data.take (pluginArchiveMaxExtractedBytes - extractedBytes + 1)).take
    (room.getD (input.data.take (pluginArchiveMaxExtractedBytes - extractedBytes + 1)).length) =
      written
  have limited : written.length ≤ pluginArchiveMaxExtractedBytes - extractedBytes + 1 := by
    rw [← same, length_take, length_take]
    omega
  split_ifs with above
  · exact ⟨by dsimp only; omega, fun failed => by cases failed⟩
  · exact ⟨by dsimp only; omega, fun failed => by cases failed⟩
  · exact ⟨by dsimp only; omega, fun failed => by cases failed⟩
  · exact ⟨by dsimp only; omega, fun _ => by dsimp only; omega⟩

theorem copied_front (room : Option Nat) (input : Payload) (extractedBytes : Nat) :
    (copyPluginArchiveEntry room input extractedBytes).1 <+: input.data := by
  unfold copyPluginArchiveEntry
  dsimp only
  split_ifs
  · exact nil_prefix
  all_goals
    rw [take_take]
    exact take_prefix _ _

/-- The count of bytes goes up by what is written. -/
theorem extract_entry_writes (device : Device) (target : Path) (run : Extraction) (file : ZipFile) :
    ∃ bytes, (extractEntry device target run file).1.extractedBytes = run.extractedBytes + bytes ∧
      (extractEntry device target run file).1.handled = run.handled ∧
      WritesEntry file run.tree bytes (extractEntry device target run file).1.tree := by
  have dirsOnly {made : Tree Name Go.Bytes} (dirs : MakesDirs run.tree made) :
      WritesEntry file run.tree 0 made := ⟨made, dirs, .inl ⟨rfl, rfl⟩⟩
  unfold extractEntry
  split
  next => exact ⟨0, rfl, rfl, dirsOnly (.refl _)⟩
  next entryPath _ =>
    by_cases isLink : file.symlink = true
    · rw [if_pos isLink]
      exact ⟨0, rfl, rfl, dirsOnly (.refl _)⟩
    rw [if_neg isLink]
    by_cases isDir : file.isDir = true
    · rw [if_pos isDir]
      exact ⟨0, rfl, rfl, dirsOnly (mkdir_all_makes_dirs _ _ _)⟩
    rw [if_neg isDir]
    have dirs := mkdir_all_makes_dirs (device.refuses run.handled) run.tree (dir entryPath)
    split
    next made =>
      rw [made] at dirs
      exact ⟨0, rfl, rfl, dirsOnly dirs⟩
    next made =>
      rw [made] at dirs
      split
      next => exact ⟨0, rfl, rfl, dirsOnly dirs⟩
      next input read =>
        split
        next => exact ⟨0, rfl, rfl, dirsOnly dirs⟩
        next place _ =>
          by_cases refused : device.refuses run.handled entryPath = true
          · rw [if_pos refused]
            exact ⟨0, rfl, rfl, dirsOnly dirs⟩
          rw [if_neg refused]
          split
          next => exact ⟨0, rfl, rfl, dirsOnly dirs⟩
          next written =>
            refine ⟨_, rfl, rfl, _, dirs, .inr ⟨place, input, _, read, ?_, rfl, written⟩⟩
            exact copied_front _ _ _

theorem extract_entries_write (device : Device) (target : Path) (run : Extraction)
    (files : List ZipFile) :
    ∃ worked bytes, worked <+: files ∧
      (extractEntries device target run files).1.handled = run.handled + worked.length ∧
      (extractEntries device target run files).1.extractedBytes = run.extractedBytes + bytes ∧
      WritesEntries worked run.tree bytes (extractEntries device target run files).1.tree := by
  induction files generalizing run with
  | nil => exact ⟨[], 0, nil_prefix, rfl, rfl, .nil⟩
  | cons file rest ih =>
    rw [extractEntries]
    split_ifs
    · exact ⟨[], 0, nil_prefix, rfl, rfl, .nil⟩
    obtain ⟨bytes, counted, handled, writes⟩ := extract_entry_writes device target run file
    split
    next next err result =>
      rw [result] at counted handled writes
      dsimp only at counted handled writes ⊢
      refine ⟨[file], bytes, ⟨rest, rfl⟩, ?_, counted, ?_⟩
      · rw [handled]
        rfl
      · exact .cons writes .nil
    next next result =>
      rw [result] at counted handled writes
      dsimp only at counted handled writes
      obtain ⟨worked, more, front, laterHandled, later, laterWrites⟩ :=
        ih { next with handled := next.handled + 1 }
      refine ⟨file :: worked, bytes + more, ?_, ?_, ?_, .cons writes laterWrites⟩
      · exact (prefix_cons_inj file).mpr front
      · rw [laterHandled, handled, length_cons]
        dsimp only
        omega
      · rw [later, counted, Nat.add_assoc]

theorem Staged.extract_entry (staged : Staged stageRoot stage run.tree) (device : Device)
    (file : ZipFile) (within : run.extractedBytes ≤ pluginArchiveMaxExtractedBytes) :
    let result := extractEntry device (stageRoot ++ [zipName]) run file
    Confined (stage ++ [zipName]) run.tree result.1.tree ∧ result.1.handled = run.handled ∧
      result.1.extractedBytes ≤ pluginArchiveMaxExtractedBytes + 1 ∧
      (result.2 = none → result.1.extractedBytes ≤ pluginArchiveMaxExtractedBytes) := by
  have unchanged := Confined.refl (stage ++ [zipName]) run.tree
  have still : run.extractedBytes ≤ pluginArchiveMaxExtractedBytes + 1 := by omega
  unfold extractEntry
  split
  next => exact ⟨unchanged, rfl, still, fun _ => within⟩
  next entryPath accepted =>
    obtain ⟨rest, rfl⟩ := entry_path_below accepted
    rw [append_assoc]
    have below : ∀ first ∈ ([zipName] ++ rest).head?, first = zipName := by simp
    by_cases isLink : file.symlink = true
    · rw [if_pos isLink]
      exact ⟨unchanged, rfl, still, fun _ => within⟩
    rw [if_neg isLink]
    by_cases isDir : file.isDir = true
    · rw [if_pos isDir]
      exact ⟨staged.mkdir_all _ below, rfl, still, fun _ => within⟩
    rw [if_neg isDir]
    obtain ⟨before, last, split⟩ :=
      (eq_nil_or_concat ([zipName] ++ rest)).resolve_left (by simp)
    rw [concat_eq_append] at split
    rw [split] at below ⊢
    have parent := staged.mkdir_all (device.refuses run.handled) (head_front below)
    rw [dir, ← append_assoc, dropLast_concat, append_assoc]
    split
    next tree err made =>
      rw [made] at parent
      exact ⟨parent, rfl, still, fun _ => within⟩
    next tree made =>
      rw [made] at parent
      split
      next => exact ⟨parent, rfl, still, fun _ => within⟩
      next input _ =>
        split
        next => exact ⟨parent, rfl, still, fun _ => within⟩
        next place opened =>
          by_cases refused : device.refuses run.handled (stageRoot ++ (before ++ [last])) = true
          · rw [if_pos refused]
            exact ⟨parent, rfl, still, fun _ => within⟩
          rw [if_neg refused]
          split
          next => exact ⟨parent, rfl, still, fun _ => within⟩
          next written =>
            have placed := (staged.kept parent).open_place below (by simp) opened
            have inside : stage ++ [zipName] <+: place := placed ▸ zip_prefix below (by simp)
            have copied := copied_within (device.room run.handled) input within
            refine ⟨parent.trans (confined_write inside written), rfl, copied.1, ?_⟩
            intro succeeded
            exact copied.2 (Option.or_eq_none_iff.mp succeeded).1

theorem Staged.extract_entries (staged : Staged stageRoot stage run.tree) (device : Device)
    (files : List ZipFile) (handled : run.handled ≤ pluginArchiveMaxExtractedFileCount)
    (within : run.extractedBytes ≤ pluginArchiveMaxExtractedBytes) :
    let result := extractEntries device (stageRoot ++ [zipName]) run files
    Confined (stage ++ [zipName]) run.tree result.1.tree ∧ WithinLimits result := by
  induction files generalizing run with
  | nil => exact ⟨Confined.refl _ _, handled, Nat.le_succ_of_le within, fun _ => within⟩
  | cons file rest ih =>
    rw [extractEntries]
    split_ifs with full
    · exact ⟨Confined.refl _ _, handled, Nat.le_succ_of_le within, fun _ => within⟩
    have step := staged.extract_entry device file within
    split
    next next err result =>
      rw [result] at step
      obtain ⟨confined, same, bytes, -⟩ := step
      refine ⟨confined, ?_, bytes, fun failed => by cases failed⟩
      dsimp only at same ⊢
      omega
    next next result =>
      rw [result] at step
      obtain ⟨confined, same, -, succeeded⟩ := step
      dsimp only at same
      have later := @ih { next with handled := next.handled + 1 } (staged.kept confined)
        (by dsimp only; omega) (succeeded rfl)
      exact ⟨confined.trans later.1, later.2⟩

end

/-- Whatever an archive holds, it is extracted into a new directory of the staging directory,
without links and within the limits. -/
theorem archive_extracted_within (device : Device) (tree : Tree Name Go.Bytes)
    (stageRoot stage : Path) (files : List ZipFile)
    (found : stat tree stageRoot = .ok (stage, .dir))
    (fresh : tree.find (stage ++ [zipName]) = none) :
    let result := extractPluginArchive device tree stageRoot files
    Confined (stage ++ [zipName]) tree result.1.tree ∧ WithinLimits result ∧
      ∃ made worked, MakesDirs tree made ∧ worked <+: files ∧
        worked.length = result.1.handled ∧
        WritesEntries worked made result.1.extractedBytes result.1.tree := by
  obtain ⟨walked, isDir⟩ := placed_of_node_at found
  have staged : Staged stageRoot stage tree := by
    refine ⟨walked, isDir, fun place link inside held => ?_⟩
    exact Tree.find_above inside (by rw [held]; simp) fresh
  have made : Confined (stage ++ [zipName]) tree
      (mkdirAll (device.refuses 0) tree (stageRoot ++ [zipName])).1 :=
    staged.mkdir_all (device.refuses 0) (by simp)
  have dirs := mkdir_all_makes_dirs (device.refuses 0) tree (stageRoot ++ [zipName])
  unfold extractPluginArchive
  rw [join_name]
  dsimp only
  split
  next next err failed =>
    rw [failed] at made dirs
    refine ⟨made, ⟨Nat.zero_le _, Nat.zero_le _, fun _ => Nat.zero_le _⟩, ?_⟩
    exact ⟨next, [], dirs, nil_prefix, rfl, .nil⟩
  next next done =>
    rw [done] at made dirs
    have run := @Staged.extract_entries stageRoot stage { tree := next } (staged.kept made) device
      files (Nat.zero_le _) (Nat.zero_le _)
    obtain ⟨worked, bytes, front, handled, counted, writes⟩ :=
      extract_entries_write device (stageRoot ++ [zipName]) { tree := next } files
    refine ⟨made.trans run.1, run.2, next, worked, dirs, front, ?_, ?_⟩
    · rw [handled, Nat.zero_add]
    · rw [counted, Nat.zero_add]
      exact writes

def stageName : Name := ⟨"stage".toList, by decide⟩

def stagingTree : Tree Name Go.Bytes := Tree.bare.create [stageName] .dir (by decide) (by decide)

def craftedArchive : List ZipFile :=
  [{ name := "bin/", isDir := true }, { name := "/etc/passwd", content := some { data := [1] } },
    { name := "bin/tool", content := some { data := [1, 2, 3] } },
    { name := " ../../bin/sh", content := some { data := [4] } }]

theorem crafted_archive_within :
    let result := extractPluginArchive {} stagingTree [stageName] craftedArchive
    result.2 = some .invalidPath ∧ result.1.extractedBytes = 4 ∧
      Confined ([stageName] ++ [zipName]) stagingTree result.1.tree ∧ WithinLimits result ∧
      ∃ made worked, MakesDirs stagingTree made ∧ worked <+: craftedArchive ∧
        worked.length = result.1.handled ∧
        WritesEntries worked made result.1.extractedBytes result.1.tree :=
  ⟨by decide +kernel, by decide +kernel,
    archive_extracted_within {} stagingTree [stageName] [stageName] craftedArchive rfl rfl⟩

end RuneTerminal.PluginInstall
