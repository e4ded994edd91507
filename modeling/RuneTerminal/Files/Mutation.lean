import RuneTerminal.Files.Navigation
import Mathlib.Data.List.Dedup
import Mathlib.Data.List.Sort

/-! `CopyFS`, `CopyFSEntries` and `MoveFS` over a tree that they change: the paths are checked
first; then one source after the other is copied or moved, up to the first error. -/

namespace RuneTerminal.Files

open Go.Filepath Go.Strings Kit.FileTree

variable {Content : Type}

/-- What the calls depend on besides the tree: the working directory, the runtime's root, the number
of levels that the limit on the length of a path leaves room for, and which places are on different
devices. -/
structure Host where
  getwd : Option Path
  repoRoot : String
  pathLevels : Nat
  crossDevice : Path → Path → Bool

abbrev Change (Content : Type) := Tree Name Content × Option FSError

/-- `os.Mkdir`, `os.Symlink` and the link at the end of
`atomicfile.WriteReaderNoReplace`: a new entry where there is none. -/
def createEntry (tree : Tree Name Content) (path : Path) (node : Node Name Content) :
    Except OsError (Tree Name Content) :=
  match placed : entryPlace tree path with
  | .error err => .error err
  | .ok place =>
    match free : tree.find place with
    | some _ => .error .exist
    | none => .ok (tree.create place node free (names_of_place placed).parent_dir)

/-- `os.RemoveAll`; of the root, all entries go and the root itself is busy. -/
def removeAll (tree : Tree Name Content) (path : Path) : Change Content :=
  match lstat tree path with
  | .error .notExist => (tree, none)
  | .error err => (tree, some (.os err))
  | .ok (place, _) => (tree.without place, if place = [] then some (.os .busy) else none)

/-- `os.ReadDir`, sorted by name. -/
def readDir (tree : Tree Name Content) (path : Path) : Except OsError (List Name) :=
  match stat tree path with
  | .error err => .error err
  | .ok (place, .dir) =>
    .ok ((tree.childNames place).dedup.insertionSort fun first second => first.val ≤ second.val)
  | .ok _ => .error .notDir

/-- The system call behind `os.Rename`. -/
def renameEntry (host : Host) (tree : Tree Name Content) (old new : Path) :
    Except OsError (Tree Name Content) :=
  match entryPlace tree old with
  | .error err => .error err
  | .ok source =>
    match placed : entryPlace tree new with
    | .error err => .error err
    | .ok target =>
      if host.crossDevice source target then .error .crossDevice
      else if busy : source = [] ∨ target = [] then .error .busy
      else
        match tree.find source with
        | none => .error .notExist
        | some _ =>
          if source = target then .ok tree
          else if inside : source <+: target then .error .invalid
          else if tree.isDir source ∧ tree.find target ≠ none then .error .notDir
          else
            .ok (tree.moved source target inside (fun isRoot => busy (Or.inr isRoot))
              (names_of_place placed).parent_dir)

/-- `os.Rename`, which turns down a directory at the new name unless it is the
old one under another spelling. -/
def rename (host : Host) (tree : Tree Name Content) (old new : Path) :
    Except OsError (Tree Name Content) :=
  match lstat tree new with
  | .ok (target, .dir) =>
    match lstat tree old with
    | .error err => .error err
    | .ok (source, _) =>
      if new = old ∨ source ≠ target then .error .exist else renameEntry host tree old new
  | _ => renameEntry host tree old new

def forEach {Item : Type} (step : Tree Name Content → Item → Change Content) :
    Tree Name Content → List Item → Change Content
  | tree, [] => (tree, none)
  | tree, item :: rest =>
    match step tree item with
    | (next, some err) => (next, some err)
    | (next, none) => forEach step next rest

def removeFSPath (tree : Tree Name Content) (path : Path) : Change Content :=
  match lstat tree path with
  | .error .notExist => (tree, none)
  | .error err => (tree, some (.os err))
  | .ok _ => removeAll tree path

/-- A new entry at the target; one that is there already is an error of its own. -/
def createTarget (tree : Tree Name Content) (targetPath : Path) (node : Node Name Content) :
    Change Content :=
  match createEntry tree targetPath node with
  | .error .exist => (tree, some .fsPathExists)
  | .error err => (tree, some (.os err))
  | .ok next => (next, none)

/-- `copyFSPath`, and `copyFSFile` for a file. A directory is made before its
entries are read. -/
def copyFSPath : Nat → Tree Name Content → Path → Path → Change Content
  | 0, tree, _, _ => (tree, some (.os .nameTooLong))
  | levels + 1, tree, sourcePath, targetPath =>
    match lstat tree sourcePath with
    | .error .notExist => (tree, some .fsPathNotFound)
    | .error err => (tree, some (.os err))
    | .ok (_, .link linkTarget) => createTarget tree targetPath (.link linkTarget)
    | .ok (_, .file content) => createTarget tree targetPath (.file content)
    | .ok (_, .dir) =>
      match createTarget tree targetPath .dir with
      | (next, some err) => (next, some err)
      | (next, none) =>
        match readDir next sourcePath with
        | .error err => (next, some (.os err))
        | .ok entries =>
          forEach (fun current entry => copyFSPath levels current
            (join sourcePath entry.val) (join targetPath entry.val)) next entries

/-- `moveFSPath`; no error of `os.Rename` is `os.ErrInvalid`, so that only
another device leads to a copy. -/
def moveFSPath (host : Host) (tree : Tree Name Content) (sourcePath targetPath : Path) :
    Change Content :=
  match rename host tree sourcePath targetPath with
  | .ok next => (next, none)
  | .error .crossDevice =>
    match copyFSPath host.pathLevels tree sourcePath targetPath with
    | (next, some err) => (next, some err)
    | (next, none) => removeAll next sourcePath
  | .error err => (tree, some (.os err))

def resolveFSExistingEntryPath (host : Host) (tree : Tree Name Content) (path : String) :
    Except FSError Path := do
  let resolvedPath ← resolveFSEntryPath tree host.getwd host.repoRoot path
  match lstat tree resolvedPath with
  | .error .notExist => .error .fsPathNotFound
  | .error err => .error (.os err)
  | .ok _ => .ok resolvedPath

def resolveFSPaths (host : Host) (tree : Tree Name Content) (paths : List String) :
    Except FSError (List Path) :=
  if paths = [] then .error .invalidFSPath else paths.mapM (resolveFSExistingEntryPath host tree)

def resolveFSExistingPath (host : Host) (tree : Tree Name Content) (path : String) :
    Except FSError Path := do
  let resolvedPath ← resolveFSPath tree host.getwd host.repoRoot path false
  match stat tree resolvedPath with
  | .error .notExist => .error .fsPathNotFound
  | .error err => .error (.os err)
  | .ok _ => .ok resolvedPath

def resolveFSDirectory (host : Host) (tree : Tree Name Content) (path : String) :
    Except FSError Path := do
  let resolvedPath ← resolveFSExistingPath host tree path
  match stat tree resolvedPath with
  | .error err => .error (.os err)
  | .ok (_, .dir) => .ok resolvedPath
  | .ok _ => .error .fsPathNotDirectory

def ensureFSParentDirectory (tree : Tree Name Content) (path : Path) : Except FSError Unit :=
  match stat tree (dir path) with
  | .error .notExist => .error .fsPathNotFound
  | .error err => .error (.os err)
  | .ok (_, .dir) => .ok ()
  | .ok _ => .error .fsPathNotDirectory

/-- `prepareFSTargetPaths`, with the targets planned so far. -/
def prepareFSTargetPaths (targetPath : Path) :
    List Path → List Path → Except FSError (List Path)
  | targetPaths, [] => .ok targetPaths
  | targetPaths, sourcePath :: rest =>
    let targetEntryPath := join targetPath (baseChars (writePath sourcePath))
    if targetEntryPath ∈ targetPaths then .error .fsPathExists
    else prepareFSTargetPaths targetPath (targetPaths ++ [targetEntryPath]) rest

structure FSCopyEntry where
  sourcePath : String
  targetPath : String

/-- The loop of `CopyFSEntries`, with the sources and targets planned so far. -/
def prepareFSCopyEntries (host : Host) (tree : Tree Name Content) :
    List Path → List Path → List FSCopyEntry → Except FSError (List Path × List Path)
  | sourcePaths, targetPaths, [] => .ok (sourcePaths, targetPaths)
  | sourcePaths, targetPaths, entry :: rest => do
      let sourcePath ← resolveFSExistingEntryPath host tree entry.sourcePath
      let targetInput := trimSpace entry.targetPath
      if targetInput = "" then .error .invalidFSTarget
      else
        let targetPath ← resolveFSPath tree host.getwd host.repoRoot targetInput false
        ensureFSParentDirectory tree targetPath
        if targetPath ∈ targetPaths then .error .fsPathExists
        else
          prepareFSCopyEntries host tree (sourcePaths ++ [sourcePath]) (targetPaths ++ [targetPath])
            rest

def validateFSOverwriteTargets (tree : Tree Name Content) (overwrite : Bool) :
    List Path → Except FSError Unit
  | [] => .ok ()
  | targetPath :: rest =>
    match lstat tree targetPath with
    | .ok _ =>
      if overwrite then validateFSOverwriteTargets tree overwrite rest else .error .fsPathExists
    | .error .notExist => validateFSOverwriteTargets tree overwrite rest
    | .error err => .error (.os err)

def validateFSTargetPath (tree : Tree Name Content) (sourcePath targetPath : Path) :
    Except FSError Unit :=
  if sourcePath = targetPath then .error .invalidFSTarget
  else
    match lstat tree sourcePath with
    | .error .notExist => .error .fsPathNotFound
    | .error err => .error (.os err)
    | .ok (_, .dir) =>
      if (writePath sourcePath ++ ['/']).isPrefixOf (writePath targetPath) then
        .error .invalidFSTarget
      else .ok ()
    | .ok _ => .ok ()

/-- The `overwrite` block at the start of a round. -/
def clearTarget (overwrite : Bool) (tree : Tree Name Content) (targetPath : Path) :
    Change Content :=
  if overwrite then removeFSPath tree targetPath else (tree, none)

def transferRound (transferPath : Tree Name Content → Path → Path → Change Content)
    (overwrite : Bool) (tree : Tree Name Content) (pair : Path × Path) : Change Content :=
  match clearTarget overwrite tree pair.2 with
  | (next, some err) => (next, some err)
  | (next, none) => transferPath next pair.1 pair.2

def copyRound (host : Host) (overwrite : Bool) :
    Tree Name Content → Path × Path → Change Content :=
  transferRound (copyFSPath host.pathLevels) overwrite

def moveRound (host : Host) (overwrite : Bool) :
    Tree Name Content → Path × Path → Change Content :=
  transferRound (moveFSPath host) overwrite

def validateTransfer (tree : Tree Name Content) (sourcePaths targetPaths : List Path)
    (overwrite : Bool) : Except FSError Unit := do
  validateFSOverwriteTargets tree overwrite targetPaths
  (sourcePaths.zip targetPaths).forM fun pair => validateFSTargetPath tree pair.1 pair.2

/-- What a call answers with, next to the tree that it leaves: an
`FSPathsResult` or an error. -/
abbrev Answer (Content : Type) := Tree Name Content × Except FSError (List Path)

def Change.answer (change : Change Content) (paths : List Path) : Answer Content :=
  match change with
  | (tree, some err) => (tree, .error err)
  | (tree, none) => (tree, .ok paths)

@[simp]
theorem answer_fst (change : Change Content) (paths : List Path) :
    (change.answer paths).1 = change.1 := by
  obtain ⟨after, err⟩ := change
  cases err <;> rfl

def copyFSResolvedPaths (host : Host) (tree : Tree Name Content)
    (sourcePaths targetPaths : List Path) (overwrite : Bool) : Answer Content :=
  if sourcePaths = [] ∨ sourcePaths.length ≠ targetPaths.length then
    (tree, .error .invalidFSPath)
  else
    match validateTransfer tree sourcePaths targetPaths overwrite with
    | .error err => (tree, .error err)
    | .ok () =>
      (forEach (copyRound host overwrite) tree (sourcePaths.zip targetPaths)).answer targetPaths

/-- The sources and targets of `CopyFS` and `MoveFS`. -/
def planInto (host : Host) (tree : Tree Name Content) (sourcePaths : List String)
    (targetPath : String) : Except FSError (List Path × List Path) := do
  let normalizedSourcePaths ← resolveFSPaths host tree sourcePaths
  let normalizedTargetPath ← resolveFSDirectory host tree targetPath
  let targetPaths ← prepareFSTargetPaths normalizedTargetPath [] normalizedSourcePaths
  return (normalizedSourcePaths, targetPaths)

def copyFS (host : Host) (tree : Tree Name Content) (sourcePaths : List String)
    (targetPath : String) (overwrite : Bool) : Answer Content :=
  match planInto host tree sourcePaths targetPath with
  | .error err => (tree, .error err)
  | .ok (sourcePaths, targetPaths) =>
    copyFSResolvedPaths host tree sourcePaths targetPaths overwrite

/-- The sources and targets of `CopyFSEntries`. -/
def planEntries (host : Host) (tree : Tree Name Content) (entries : List FSCopyEntry) :
    Except FSError (List Path × List Path) :=
  if entries = [] then .error .invalidFSPath else prepareFSCopyEntries host tree [] [] entries

def copyFSEntries (host : Host) (tree : Tree Name Content) (entries : List FSCopyEntry)
    (overwrite : Bool) : Answer Content :=
  match planEntries host tree entries with
  | .error err => (tree, .error err)
  | .ok (sourcePaths, targetPaths) =>
    copyFSResolvedPaths host tree sourcePaths targetPaths overwrite

def moveFS (host : Host) (tree : Tree Name Content) (sourcePaths : List String)
    (targetPath : String) (overwrite : Bool) : Answer Content :=
  match planInto host tree sourcePaths targetPath with
  | .error err => (tree, .error err)
  | .ok (sourcePaths, targetPaths) =>
    match validateTransfer tree sourcePaths targetPaths overwrite with
    | .error err => (tree, .error err)
    | .ok () =>
      (forEach (moveRound host overwrite) tree (sourcePaths.zip targetPaths)).answer targetPaths

end RuneTerminal.Files
