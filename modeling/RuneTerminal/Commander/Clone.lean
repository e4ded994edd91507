import RuneTerminal.Commander.Store
import RuneTerminal.Kit.WholeDouble

/-! A copy within one directory asks for names (`operation-preview.ts`, `store-operations.ts`) and
sends pairs of paths (`hooks.ts`), each with the source at the position of its entry. -/

namespace RuneTerminal.Commander

def normalizePathSeparators (path : List Char) : List Char :=
  path.map fun c => if c = '\\' then '/' else c

def isDriveRoot : List Char → Bool
  | [letter, ':', '/'] => letter.isAlpha
  | _ => false

def trimTrailingSeparators (path : List Char) : List Char :=
  let normalizedPath := normalizePathSeparators path
  if isDriveRoot normalizedPath ∨ normalizedPath = ['/'] then normalizedPath
  else normalizedPath.rdropWhile (· == '/')

def joinSegment (segments : List (List Char)) (segment : List Char) : List (List Char) :=
  if segment = ['.', '.'] then
    match segments.getLast? with
    | none => segments
    | some last => if last = ['.', '.'] then segments else segments.dropLast
  else segments ++ [segment]

/-- `match(/^[A-Za-z]:/)` -/
def drivePrefixMatch : List Char → Option (List Char)
  | letter :: ':' :: _ => if letter.isAlpha then some [letter, ':'] else none
  | _ => none

def withoutDrive (drive path : List Char) : List Char :=
  if drive.isPrefixOf path then
    let rest := path.drop drive.length
    if rest.head? = some '/' then rest.tail else rest
  else path

/-- `normalizeJoinedPath` -/
def joinRuntimePath (basePath nextPath : String) : String :=
  let normalizedBasePath := trimTrailingSeparators basePath.toList
  let normalizedNextPath := normalizePathSeparators nextPath.toList
  let pathSegments :=
    (((normalizedBasePath ++ '/' :: normalizedNextPath).splitOn '/').filter fun segment =>
      segment ≠ [] ∧ segment ≠ ['.']).foldl joinSegment []
  let joinedPath := List.intercalate ['/'] pathSegments
  match drivePrefixMatch normalizedBasePath with
  | some drive => String.ofList (drive ++ '/' :: withoutDrive drive joinedPath)
  | none =>
    if normalizedBasePath.head? = some '/' then String.ofList ('/' :: joinedPath)
    else String.ofList joinedPath

def toCommanderEntryPath (directoryPath entryName : String) : String :=
  joinRuntimePath directoryPath entryName

/-- `text.length` -/
def unitLength (text : List Char) : Nat := (codeUnits text).length

def takeUnits : Nat → List Char → List Char
  | _, [] => []
  | count, c :: rest =>
    if unitLength [c] ≤ count then c :: takeUnits (count - unitLength [c]) rest else []

structure NameParts where
  baseName : List Char
  ext : List Char

def splitEntryBaseNameAndExt (host : HostLocale) (entry : CommanderDirectoryEntry) : NameParts :=
  if entry.kind ≠ .file ∨ entry.ext = "" then { baseName := entry.name.toList, ext := [] }
  else
    let expectedSuffix := "." ++ entry.ext
    let endsWith := (codeUnits (host.toLocaleLowerCase expectedSuffix).toList).isSuffixOf
      (codeUnits (host.toLocaleLowerCase entry.name).toList)
    if endsWith then
      { baseName := takeUnits
          (unitLength entry.name.toList - unitLength expectedSuffix.toList) entry.name.toList
        ext := entry.ext.toList }
    else { baseName := entry.name.toList, ext := entry.ext.toList }

def buildCommanderCloneName (host : HostLocale) (entry : CommanderDirectoryEntry)
    (suffixIndex : Nat) : String :=
  let parts := splitEntryBaseNameAndExt host entry
  let copySuffix :=
    if suffixIndex ≤ 1 then "-copy".toList else ("-copy-" ++ toString suffixIndex).toList
  if entry.kind = .file ∧ parts.ext ≠ [] then
    String.ofList (parts.baseName ++ copySuffix ++ '.' :: parts.ext)
  else String.ofList (entry.name.toList ++ copySuffix)

def getCommanderEntryNameConflict (locale : Locale) (pane : CommanderPaneRuntimeState)
    (name : String) (ignoreEntryId : Option String) : Bool :=
  pane.directoryEntries.any fun entry =>
    truthy ignoreEntryId ≠ some entry.id &&
      normalizeEntryName locale entry.name == normalizeEntryName locale name

def suggestFrom (host : HostLocale) (pane : CommanderPaneRuntimeState)
    (entry : CommanderDirectoryEntry) : Nat → Nat → String
  | 0, suffixIndex => buildCommanderCloneName host entry suffixIndex
  | tries + 1, suffixIndex =>
    let candidateName := buildCommanderCloneName host entry suffixIndex
    if getCommanderEntryNameConflict host.toLocale pane candidateName (some entry.id) then
      suggestFrom host pane entry tries (suffixIndex + 1)
    else candidateName

def suggestCommanderCloneName (host : HostLocale) (pane : CommanderPaneRuntimeState)
    (entryId : String) : Option String :=
  (pane.directoryEntries.find? (·.id == entryId)).map fun entry =>
    suggestFrom host pane entry 999 1

/-- `replace` with a global expression: `scan` gives what stands for the match at the
front of a text, and the length of that match. -/
def replaceMatches (scan : List Char → Option (List Char × Nat)) : Nat → List Char → List Char
  | _, [] => []
  | skipped + 1, _ :: rest => replaceMatches scan skipped rest
  | 0, c :: rest =>
    match scan (c :: rest) with
    | some (replacement, length) => replacement ++ replaceMatches scan (length - 1) rest
    | none => c :: replaceMatches scan 0 rest

/-- Groups of a colon and digits, at most `count` of them, and what follows. -/
def scanNumbers : Nat → List Char → List (List Char) × List Char
  | 0, text => ([], text)
  | count + 1, ':' :: rest =>
    let digits := rest.takeWhile Char.isDigit
    if digits = [] then ([], ':' :: rest)
    else
      let others := scanNumbers count (rest.drop digits.length)
      (digits :: others.1, others.2)
  | _ + 1, text => ([], text)

def parseDigits (digits : List Char) : Nat :=
  digits.foldl (fun value digit => 10 * value + (digit.toNat - '0'.toNat)) 0

/-- `Number.parseInt(digits, 10)`; an infinite number is `none`. -/
def parseInt (digits : List Char) : Option Nat := Kit.wholeDouble (parseDigits digits)

def formatRenameCounter (counter width : Option Nat) : List Char :=
  let counterValue := Kit.wholeText counter
  List.replicate (width.getD 0 - counterValue.length) '0' ++ counterValue

/-- The counter `start + index * step`; a number that is infinite is as good as none, unless
it is the start. -/
def counterText (index : Nat) (numbers : List (Option Nat)) : List Char :=
  let first := numbers[0]?
  let second := numbers[1]?.join
  let third := numbers[2]?.join
  let start := if second.isSome then first.getD (some 1) else some 1
  let width := if second.isSome then second else first.join
  let step := third.getD 1
  let counter := start.bind fun start =>
    (Kit.wholeDouble (index * step)).bind fun steps => Kit.wholeDouble (start + steps)
  formatRenameCounter counter width

/-- `[C]`, with up to three numbers -/
def scanCounter (index : Nat) : List Char → Option (List Char × Nat)
  | '[' :: letter :: rest =>
    if letter = 'C' ∨ letter = 'c' then
      let numbers := scanNumbers 3 rest
      if numbers.2.head? = some ']' then
        some (counterText index (numbers.1.map parseInt),
          2 + (rest.length - numbers.2.length) + 1)
      else none
    else none
  | _ => none

/-- `[N]`, `[E]` or `[F]`, with an optional letter: the token, the letter and the length. -/
def scanNameToken : List Char → Option (Char × Option Char × Nat)
  | '[' :: token :: ']' :: _ =>
    if token.toUpper ∈ ['N', 'E', 'F'] then some (token, none, 3) else none
  | '[' :: token :: ':' :: modifier :: ']' :: _ =>
    if token.toUpper ∈ ['N', 'E', 'F'] ∧ modifier.isAlpha then some (token, some modifier, 5)
    else none
  | _ => none

def applyRenameTextTransform (host : HostLocale) (value : List Char) : Option Char → List Char
  | none => value
  | some modifier =>
    if modifier.toLower = 'l' then (host.toLocaleLowerCase (String.ofList value)).toList
    else if modifier.toLower = 'u' then (host.toLocaleUpperCase (String.ofList value)).toList
    else value

def nameText (host : HostLocale) (entry : CommanderDirectoryEntry) (parts : NameParts)
    (token : Char) : Option Char → List Char :=
  applyRenameTextTransform host
    (if token = 'N' then parts.baseName
    else if token = 'E' then parts.ext
    else entry.name.toList)

def usesToken (template : List Char) (token : Char) : Bool :=
  template.tails.any fun rest =>
    match scanNameToken rest with
    | some (found, _, _) => found.toUpper == token
    | none => false

def applyCommanderRenameTemplate (host : HostLocale) (entry : CommanderDirectoryEntry)
    (template : String) (index : Nat) : String :=
  let normalizedTemplate := (trim template).toList
  if normalizedTemplate = [] then ""
  else
    let parts := splitEntryBaseNameAndExt host entry
    let counted := replaceMatches (scanCounter index) 0 normalizedTemplate
    let named := replaceMatches (fun text => (scanNameToken text).map fun found =>
      (nameText host entry parts found.1 found.2.1, found.2.2)) 0 counted
    let nextName := trim (String.ofList named)
    if nextName = "" then ""
    else if entry.kind = .file ∧ parts.ext ≠ [] ∧ !usesToken normalizedTemplate 'F' ∧
        !usesToken normalizedTemplate 'E' ∧ '.' ∉ nextName.toList then
      nextName ++ "." ++ String.ofList parts.ext
    else nextName

inductive CommanderRenamePreviewStatus where
  | ok
  | duplicate
  | conflict
  | invalid
  deriving DecidableEq

structure CommanderRenamePreviewItem where
  entryId : String
  currentName : String
  nextName : String
  status : CommanderRenamePreviewStatus := .ok
  conflict : Bool := false
  deriving DecidableEq

def namedByTemplate (host : HostLocale) (pane : CommanderPaneRuntimeState)
    (entryIds : List String) (template : String) : List CommanderRenamePreviewItem :=
  (resolveEntriesInOrder pane entryIds).zipIdx.map fun (entry, index) =>
    { entryId := entry.id
      currentName := entry.name
      nextName := applyCommanderRenameTemplate host entry template index }

def hasDuplicateTarget (locale : Locale) (items : List CommanderRenamePreviewItem)
    (item : CommanderRenamePreviewItem) : Bool :=
  1 < (items.map fun other => normalizeEntryName locale other.nextName).count
    (normalizeEntryName locale item.nextName)

def hasDirectoryConflict (locale : Locale) (pane : CommanderPaneRuntimeState)
    (items : List CommanderRenamePreviewItem) (item : CommanderRenamePreviewItem) : Bool :=
  pane.directoryEntries.any fun entry =>
    entry.id ∉ items.map (·.entryId) &&
      normalizeEntryName locale entry.name == normalizeEntryName locale item.nextName

def previewStatus (locale : Locale) (pane : CommanderPaneRuntimeState)
    (items : List CommanderRenamePreviewItem) (item : CommanderRenamePreviewItem) :
    CommanderRenamePreviewStatus :=
  if normalizeEntryName locale item.nextName = "" then .invalid
  else if hasDuplicateTarget locale items item then .duplicate
  else if hasDirectoryConflict locale pane items item then .conflict
  else .ok

structure CommanderRenamePreview where
  preview : List CommanderRenamePreviewItem
  conflictEntryNames : List String
  duplicateTargetNames : List String

/-- `generatedNameCounts` counts only the names that are not blank. -/
def previewCommanderRenameEntries (host : HostLocale) (pane : CommanderPaneRuntimeState)
    (entryIds : List String) (template : String) : CommanderRenamePreview :=
  let items := namedByTemplate host pane entryIds template
  let preview := items.map fun item =>
    let status := previewStatus host.toLocale pane items item
    let conflict := match status with
      | .ok => false
      | .invalid => true
      | .duplicate => true
      | .conflict => true
    { item with status := status, conflict := conflict }
  { preview := preview
    conflictEntryNames :=
      ((preview.filter fun item => item.status = .conflict).map (·.nextName)).eraseDups
    duplicateTargetNames :=
      (preview.filterMap fun item =>
        if item.status = .invalid then some item.currentName
        else if item.status = .duplicate then some item.nextName
        else none).eraseDups }

def previewCommanderCloneEntries (host : HostLocale) (pane : CommanderPaneRuntimeState)
    (entryIds : List String) (template : String) : CommanderRenamePreview :=
  previewCommanderRenameEntries host pane entryIds template

inductive CloneMode where
  | single
  | batch
  deriving DecidableEq

/-- `CommanderCloneTransferPendingOperation` -/
structure CommanderCloneOperation where
  sourcePath : String
  entryIds : List String
  entryNames : List String
  inputValue : String
  cloneMode : CloneMode
  conflictEntryNames : List String
  duplicateTargetNames : List String
  renamePreview : List CommanderRenamePreviewItem
  deriving DecidableEq

namespace CommanderCloneOperation

def preview (host : HostLocale) (op : CommanderCloneOperation) (pane : CommanderPaneRuntimeState)
    (template : String) : CommanderCloneOperation :=
  let clonePreview := previewCommanderCloneEntries host pane op.entryIds template
  { op with
    inputValue := template
    conflictEntryNames := clonePreview.conflictEntryNames
    duplicateTargetNames := clonePreview.duplicateTargetNames
    renamePreview := clonePreview.preview }

/-- `createPendingOperation` for a copy to the same directory. -/
def create (host : HostLocale) (pane : CommanderPaneRuntimeState) :
    Option CommanderCloneOperation :=
  let entryIds := getOperationEntryIds pane
  let op : CommanderCloneOperation :=
    { sourcePath := pane.path
      entryIds := entryIds
      entryNames := (pane.entries.filter fun entry => entry.id ∈ entryIds).map (·.name)
      inputValue := ""
      cloneMode := .batch
      conflictEntryNames := []
      duplicateTargetNames := []
      renamePreview := [] }
  match entryIds with
  | [] => none
  | [entryId] =>
    match truthy (suggestCommanderCloneName host pane entryId) with
    | none => none
    | some cloneName => some { op with inputValue := cloneName, cloneMode := .single }
  | _ => some (op.preview host pane "[N]-copy")

end CommanderCloneOperation

structure ClonePair where
  sourcePath : String
  targetPath : String
  deriving DecidableEq

/-- What is sent by `copyCommanderEntriesToPaths`. -/
structure CloneRequest where
  entries : List ClonePair
  overwrite : Bool
  deriving DecidableEq

def getEntryPaths (pane : CommanderPaneRuntimeState) (entryIds : List String) : List String :=
  (resolveEntriesInOrder pane entryIds).map fun entry => toCommanderEntryPath pane.path entry.name

namespace CommanderCloneOperation

def batchPair (op : CommanderCloneOperation) (sourcePaths : List String)
    (item : CommanderRenamePreviewItem) : Option ClonePair :=
  let sourcePath := truthy
    ((op.entryIds.findIdx? (· == item.entryId)).bind fun sourceIndex => sourcePaths[sourceIndex]?)
  let nextName := trim item.nextName
  if nextName = "" then none
  else sourcePath.map fun sourcePath =>
    { sourcePath := sourcePath, targetPath := toCommanderEntryPath op.sourcePath nextName }

/-- `performTransferMutation` for a copy within a directory. -/
def performTransferMutation (pane : CommanderPaneRuntimeState) (op : CommanderCloneOperation)
    (overwrite : Bool) : Option CloneRequest :=
  match getEntryPaths pane op.entryIds with
  | [] => none
  | first :: others =>
    if first = "" then none
    else
      let entries :=
        match op.cloneMode with
        | .batch => op.renamePreview.filterMap (op.batchPair (first :: others))
        | .single =>
          [{ sourcePath := first
             targetPath := toCommanderEntryPath op.sourcePath (trim op.inputValue) }]
      some { entries := entries, overwrite := overwrite }

/-- `confirmPendingOperationAsync`: the duplicates of the preview are not looked at. -/
def confirm (pane : CommanderPaneRuntimeState) (op : CommanderCloneOperation) :
    Option CloneRequest :=
  if trim op.inputValue = "" ∨
      (op.cloneMode = .single ∧ some (trim op.inputValue) = op.entryNames.head?) then none
  else if op.conflictEntryNames ≠ [] then none
  else op.performTransferMutation pane false

/-- `resolvePendingTransferConflictAsync`: to skip is to cancel. -/
def resolve (pane : CommanderPaneRuntimeState) (op : CommanderCloneOperation) :
    ConflictResolution → Option CloneRequest
  | .skipCurrent => none
  | .skipAll => none
  | .overwriteCurrent => op.performTransferMutation pane true
  | .overwriteAll => op.performTransferMutation pane true

def answer (pane : CommanderPaneRuntimeState) (op : CommanderCloneOperation) :
    Answer → Option CloneRequest
  | .confirm => op.confirm pane
  | .resolve resolution => op.resolve pane resolution
  | .cancel => none

end CommanderCloneOperation

end RuneTerminal.Commander
