import Mathlib.Data.List.DropRight
import Mathlib.Data.List.Sort
import Mathlib.Data.String.Basic
import RuneTerminal.Kit.Transition

/-! The widget with its two panes and the events that move the cursor, select and sort (`store.ts`),
and a copy or a move to the other directory (`store-operations.ts`, `hooks.ts`). -/

namespace RuneTerminal.Commander

open Kit

/-- What the host brings: `localeCompare`, `toLowerCase`, and the comparison of a
regular expression without regard to case. -/
structure Locale where
  localeCompare : String → String → Int
  toLowerCase : String → String
  canonicalize : Nat → Nat

/-- The white space of `String.prototype.trim` and of `\s`. -/
def isSpace (c : Char) : Bool :=
  (0x09 ≤ c.val && c.val ≤ 0x0d) || c.val == 0x20 || c.val == 0xa0 || c.val == 0x1680 ||
    (0x2000 ≤ c.val && c.val ≤ 0x200a) || c.val == 0x2028 || c.val == 0x2029 ||
    c.val == 0x202f || c.val == 0x205f || c.val == 0x3000 || c.val == 0xfeff

def trim (text : String) : String :=
  String.ofList ((text.toList.dropWhile isSpace).rdropWhile isSpace)

def codeUnits (text : List Char) : List Nat :=
  text.flatMap fun c =>
    let code := c.val.toNat
    if code < 0x10000 then [code]
    else [0xd800 + (code - 0x10000) / 0x400, 0xdc00 + (code - 0x10000) % 0x400]

def truthy (text : Option String) : Option String := text.filter (· ≠ "")

/-- A part of a mask is never blank, so `commanderMaskPatternToRegExp` never gives `null`. -/
def splitCommanderMaskPatterns (mask : String) : List (List Char) :=
  (mask.toList.splitOnP fun c => c == ';' || c == ',' || isSpace c).filter (· ≠ [])

def isLineTerminator (unit : Nat) : Bool :=
  unit == 0x0a || unit == 0x0d || unit == 0x2028 || unit == 0x2029

/-- The regular expression of `commanderMaskPatternToRegExp` on the code units of a name. -/
def testPattern (locale : Locale) : List Nat → List Nat → Bool
  | [], text => text.isEmpty
  | unit :: rest, text =>
    if unit = 0x2a then
      (List.range (text.length + 1)).any fun count =>
        (text.take count).all (!isLineTerminator ·) && testPattern locale rest (text.drop count)
    else
      match text with
      | [] => false
      | first :: others =>
        (if unit = 0x3f then !isLineTerminator first
          else locale.canonicalize unit == locale.canonicalize first) &&
          testPattern locale rest others

inductive CommanderRowKind where
  | file
  | folder
  | symlink
  deriving DecidableEq

structure CommanderDirectoryEntry where
  id : String
  name : String
  ext : String := ""
  kind : CommanderRowKind := .file
  sizeBytes : Option Nat := none
  modified : String := ""
  hidden : Bool := false
  deriving DecidableEq

def toCommanderEntryId (path name : String) : String := path ++ "::" ++ name

/-- A listing of a directory as the backend gives it: the names are distinct, and the
ids are made of them. -/
structure Listing (path : String) (entries : List CommanderDirectoryEntry) : Prop where
  names : (entries.map (·.name)).Nodup
  nonempty : ∀ entry ∈ entries, entry.name ≠ ""
  ids : ∀ entry ∈ entries, entry.id = toCommanderEntryId path entry.name

def getCommanderMatchedEntries (locale : Locale) (entries : List CommanderDirectoryEntry)
    (mask : String) (emptyMeansAll : Bool) : List CommanderDirectoryEntry :=
  let patterns := splitCommanderMaskPatterns mask
  if patterns = [] then (if emptyMeansAll then entries else [])
  else entries.filter fun entry => patterns.any fun pattern =>
    testPattern locale (codeUnits pattern) (codeUnits entry.name.toList)

inductive CommanderSortMode where
  | name
  | ext
  | size
  | modified
  deriving DecidableEq

inductive CommanderSortDirection where
  | asc
  | desc
  deriving DecidableEq

structure ProjectionOptions where
  showHidden : Bool
  sortMode : CommanderSortMode
  sortDirection : CommanderSortDirection
  dirsFirst : Bool

/-- The comparator of `sortCommanderEntries`. -/
def compareCommanderEntries (locale : Locale) (options : ProjectionOptions)
    (left right : CommanderDirectoryEntry) : Int :=
  if options.dirsFirst ∧ left.kind = .folder ∧ right.kind ≠ .folder then -1
  else if options.dirsFirst ∧ left.kind ≠ .folder ∧ right.kind = .folder then 1
  else
    let orName (entry : CommanderDirectoryEntry) : String :=
      if entry.ext = "" then entry.name else entry.ext
    let size (entry : CommanderDirectoryEntry) : Int :=
      (entry.sizeBytes.map Int.ofNat).getD (-1)
    let result :=
      match options.sortMode with
      | .name => 0
      | .ext => locale.localeCompare (orName left) (orName right)
      | .modified => locale.localeCompare right.modified left.modified
      | .size => size right - size left
    let result := if result = 0 then locale.localeCompare left.name right.name else result
    match options.sortDirection with
    | .asc => result
    | .desc => result * -1

/-- `Array.prototype.sort` is stable. -/
def sortCommanderEntries (locale : Locale) (options : ProjectionOptions)
    (entries : List CommanderDirectoryEntry) : List CommanderDirectoryEntry :=
  entries.insertionSort fun left right => compareCommanderEntries locale options left right ≤ 0

def projectCommanderEntries (locale : Locale) (options : ProjectionOptions)
    (directoryEntries : List CommanderDirectoryEntry) (filterQuery : String) :
    List CommanderDirectoryEntry :=
  let visibleEntries := directoryEntries.filter fun entry => options.showHidden || !entry.hidden
  getCommanderMatchedEntries locale (sortCommanderEntries locale options visibleEntries)
    filterQuery true

/-- The history, the status and the id of a pane are left out. -/
structure CommanderPaneRuntimeState where
  path : String
  filterQuery : String
  directoryEntries : List CommanderDirectoryEntry
  entries : List CommanderDirectoryEntry
  cursorEntryId : Option String
  selectionAnchorEntryId : Option String
  selectedIds : List String

namespace CommanderPaneRuntimeState

def hasEntry (pane : CommanderPaneRuntimeState) (entryId : String) : Bool :=
  pane.entries.any (·.id == entryId)

/-- `buildCommanderPaneState` -/
def rebuild (locale : Locale) (options : ProjectionOptions) (pane : CommanderPaneRuntimeState) :
    CommanderPaneRuntimeState :=
  let entries := projectCommanderEntries locale options pane.directoryEntries pane.filterQuery
  let isVisible (entryId : String) : Bool := entries.any (·.id == entryId)
  let cursorEntryId :=
    ((truthy pane.cursorEntryId).filter isVisible).or (entries.head?.map (·.id))
  { pane with
    entries := entries
    selectedIds := pane.selectedIds.filter isVisible
    cursorEntryId := cursorEntryId
    selectionAnchorEntryId :=
      ((truthy pane.selectionAnchorEntryId).filter isVisible).or cursorEntryId }

def load (locale : Locale) (options : ProjectionOptions) (path filterQuery : String)
    (directoryEntries : List CommanderDirectoryEntry) : CommanderPaneRuntimeState :=
  rebuild locale options
    { path := path
      filterQuery := filterQuery
      directoryEntries := directoryEntries
      entries := []
      cursorEntryId := none
      selectionAnchorEntryId := none
      selectedIds := [] }

def cursorIndex (pane : CommanderPaneRuntimeState) : Nat :=
  ((truthy pane.cursorEntryId).bind fun entryId =>
    pane.entries.findIdx? (·.id == entryId)).getD 0

def rowAway (pane : CommanderPaneRuntimeState) (delta : Int) : Option String :=
  let index := min ((pane.entries.length : Int) - 1) (max 0 ((pane.cursorIndex : Int) + delta))
  pane.entries[index.toNat]?.map (·.id)

def movePaneCursor (pane : CommanderPaneRuntimeState) (delta : Int) :
    CommanderPaneRuntimeState :=
  if pane.entries = [] then pane
  else { pane with
    cursorEntryId := pane.rowAway delta, selectionAnchorEntryId := pane.rowAway delta }

/-- `'start' | 'end'` -/
inductive Boundary where
  | start
  | finish

def boundaryRow (pane : CommanderPaneRuntimeState) : Boundary → Option String
  | .start => pane.entries.head?.map (·.id)
  | .finish => pane.entries.getLast?.map (·.id)

def setCursorToBoundary (pane : CommanderPaneRuntimeState) (boundary : Boundary) :
    CommanderPaneRuntimeState :=
  if pane.entries = [] then pane
  else { pane with
    cursorEntryId := pane.boundaryRow boundary
    selectionAnchorEntryId := pane.boundaryRow boundary }

def setSelectionRangeAtCursor (pane : CommanderPaneRuntimeState) (targetEntryId : String) :
    CommanderPaneRuntimeState :=
  match pane.entries.findIdx? (·.id == targetEntryId) with
  | none => pane
  | some targetIndex =>
    let anchorEntryId :=
      (pane.selectionAnchorEntryId.or pane.cursorEntryId).getD targetEntryId
    let anchorIndex :=
      (pane.entries.findIdx? (·.id == anchorEntryId)).getD targetIndex
    let rangeStart := min anchorIndex targetIndex
    let rangeEnd := max anchorIndex targetIndex
    { pane with
      cursorEntryId := some targetEntryId
      selectionAnchorEntryId := some anchorEntryId
      selectedIds :=
        ((pane.entries.drop rangeStart).take (rangeEnd + 1 - rangeStart)).map (·.id) }

def movePaneCursorWithSelection (pane : CommanderPaneRuntimeState) (delta : Int) :
    CommanderPaneRuntimeState :=
  match truthy (pane.rowAway delta) with
  | none => pane
  | some targetEntryId => pane.setSelectionRangeAtCursor targetEntryId

def setCursorToBoundaryWithSelection (pane : CommanderPaneRuntimeState) (boundary : Boundary) :
    CommanderPaneRuntimeState :=
  match truthy (pane.boundaryRow boundary) with
  | none => pane
  | some targetEntryId => pane.setSelectionRangeAtCursor targetEntryId

def toggleEntrySelection (pane : CommanderPaneRuntimeState) (entryId : String) :
    CommanderPaneRuntimeState :=
  if pane.hasEntry entryId then
    { pane with
      selectedIds :=
        if entryId ∈ pane.selectedIds then pane.selectedIds.filter (· ≠ entryId)
        else pane.selectedIds ++ [entryId]
      selectionAnchorEntryId := some entryId }
  else pane

inductive MaskMode where
  | select
  | unselect

def applySelectionMaskToPane (locale : Locale) (pane : CommanderPaneRuntimeState) (mask : String)
    (mode : MaskMode) : CommanderPaneRuntimeState :=
  let matchedIds := (getCommanderMatchedEntries locale pane.entries mask false).map (·.id)
  let selectedIds :=
    match mode with
    | .select =>
      (pane.entries.filter fun entry =>
        entry.id ∈ pane.selectedIds || entry.id ∈ matchedIds).map (·.id)
    | .unselect => pane.selectedIds.filter (· ∉ matchedIds)
  { pane with
    selectedIds := selectedIds
    selectionAnchorEntryId :=
      (pane.selectionAnchorEntryId.or pane.cursorEntryId).or selectedIds.head? }

def invertPaneSelection (pane : CommanderPaneRuntimeState) : CommanderPaneRuntimeState :=
  let selectedIds := (pane.entries.filter fun entry => entry.id ∉ pane.selectedIds).map (·.id)
  { pane with
    selectedIds := selectedIds
    selectionAnchorEntryId := pane.cursorEntryId.or selectedIds.head? }

end CommanderPaneRuntimeState

inductive CommanderPaneId where
  | left
  | right
  deriving DecidableEq

def CommanderPaneId.other : CommanderPaneId → CommanderPaneId
  | .left => .right
  | .right => .left

structure CommanderWidgetRuntimeState where
  activePane : CommanderPaneId
  options : ProjectionOptions
  leftPane : CommanderPaneRuntimeState
  rightPane : CommanderPaneRuntimeState

namespace CommanderWidgetRuntimeState

def getPaneState (widget : CommanderWidgetRuntimeState) :
    CommanderPaneId → CommanderPaneRuntimeState
  | .left => widget.leftPane
  | .right => widget.rightPane

def updatePaneState (widget : CommanderWidgetRuntimeState) (paneId : CommanderPaneId)
    (updater : CommanderPaneRuntimeState → CommanderPaneRuntimeState) :
    CommanderWidgetRuntimeState :=
  match paneId with
  | .left => { widget with leftPane := updater widget.leftPane }
  | .right => { widget with rightPane := updater widget.rightPane }

def project (locale : Locale) (widget : CommanderWidgetRuntimeState)
    (options : ProjectionOptions) : CommanderWidgetRuntimeState :=
  { widget with
    options := options
    leftPane := widget.leftPane.rebuild locale options
    rightPane := widget.rightPane.rebuild locale options }

end CommanderWidgetRuntimeState

/-- The events of the widget. A mask is confirmed in the prompt for it. -/
inductive WidgetEvent where
  | setActivePane (paneId : CommanderPaneId)
  | switchActivePane
  | setPaneCursor (paneId : CommanderPaneId) (entryId : String) (rangeSelect : Bool)
  | movePaneCursor (paneId : CommanderPaneId) (delta : Int) (extendSelection : Bool)
  | moveActivePaneCursor (delta : Int) (extendSelection : Bool)
  | setPaneBoundaryCursor (paneId : CommanderPaneId)
      (boundary : CommanderPaneRuntimeState.Boundary) (extendSelection : Bool)
  | togglePaneSelection (paneId : CommanderPaneId) (entryId : String)
  | toggleActivePaneSelection (advance : Bool)
  | confirmMask (paneId : CommanderPaneId) (inputValue : String)
      (mode : CommanderPaneRuntimeState.MaskMode)
  | invertActivePaneSelection
  | setSortMode (sortMode : CommanderSortMode)
  | toggleShowHidden
  | toggleDirsFirst
  | setPaneFilterQuery (paneId : CommanderPaneId) (filterQuery : String)

namespace CommanderWidgetRuntimeState

def extendOrMove (pane : CommanderPaneRuntimeState) (delta : Int) (extendSelection : Bool) :
    CommanderPaneRuntimeState :=
  if extendSelection then pane.movePaneCursorWithSelection delta else pane.movePaneCursor delta

def handle (locale : Locale) (widget : CommanderWidgetRuntimeState) :
    WidgetEvent → CommanderWidgetRuntimeState
  | .setActivePane paneId => { widget with activePane := paneId }
  | .switchActivePane => { widget with activePane := widget.activePane.other }
  | .setPaneCursor paneId entryId rangeSelect =>
    { widget with activePane := paneId }.updatePaneState paneId fun pane =>
      if pane.hasEntry entryId then
        if rangeSelect then pane.setSelectionRangeAtCursor entryId
        else { pane with cursorEntryId := some entryId, selectionAnchorEntryId := some entryId }
      else pane
  | .movePaneCursor paneId delta extendSelection =>
    { widget with activePane := paneId }.updatePaneState paneId fun pane =>
      extendOrMove pane delta extendSelection
  | .moveActivePaneCursor delta extendSelection =>
    widget.updatePaneState widget.activePane fun pane =>
      extendOrMove pane delta extendSelection
  | .setPaneBoundaryCursor paneId boundary extendSelection =>
    { widget with activePane := paneId }.updatePaneState paneId fun pane =>
      if extendSelection then pane.setCursorToBoundaryWithSelection boundary
      else pane.setCursorToBoundary boundary
  | .togglePaneSelection paneId entryId =>
    { widget with activePane := paneId }.updatePaneState paneId fun pane =>
      pane.toggleEntrySelection entryId
  | .toggleActivePaneSelection advance =>
    match truthy (widget.getPaneState widget.activePane).cursorEntryId with
    | none => widget
    | some entryId =>
      widget.updatePaneState widget.activePane fun pane =>
        let toggled := pane.toggleEntrySelection entryId
        if advance then toggled.movePaneCursor 1 else toggled
  | .confirmMask paneId inputValue mode =>
    widget.updatePaneState paneId fun pane =>
      pane.applySelectionMaskToPane locale (trim inputValue) mode
  | .invertActivePaneSelection =>
    widget.updatePaneState widget.activePane (·.invertPaneSelection)
  | .setSortMode sortMode =>
    widget.project locale
      { widget.options with
        sortMode := sortMode
        sortDirection :=
          if widget.options.sortMode = sortMode ∧ widget.options.sortDirection = .asc then .desc
          else .asc }
  | .toggleShowHidden =>
    widget.project locale { widget.options with showHidden := !widget.options.showHidden }
  | .toggleDirsFirst =>
    widget.project locale { widget.options with dirsFirst := !widget.options.dirsFirst }
  | .setPaneFilterQuery paneId filterQuery =>
    widget.updatePaneState paneId fun pane =>
      { pane with filterQuery := filterQuery }.rebuild locale widget.options

def Loaded (locale : Locale) (widget : CommanderWidgetRuntimeState) : Prop :=
  ∀ paneId, ∃ path filterQuery directoryEntries, Listing path directoryEntries ∧
    widget.getPaneState paneId = .load locale widget.options path filterQuery directoryEntries

def step (locale : Locale) (widget : CommanderWidgetRuntimeState) (event : WidgetEvent) :
    Option CommanderWidgetRuntimeState :=
  some (widget.handle locale event)

end CommanderWidgetRuntimeState

inductive TransferKind where
  | copy
  | move
  deriving DecidableEq

/-- `CommanderPaneTransferPendingOperation` -/
structure CommanderTransferPendingOperation where
  kind : TransferKind
  sourcePaneId : CommanderPaneId
  sourcePath : String
  targetPaneId : CommanderPaneId
  targetPath : String
  entryIds : List String
  entryNames : List String
  conflictEntryNames : List String
  deriving DecidableEq

def getOperationEntryIds (pane : CommanderPaneRuntimeState) : List String :=
  if pane.selectedIds ≠ [] then pane.selectedIds else (truthy pane.cursorEntryId).toList

def normalizeEntryName (locale : Locale) (name : String) : String :=
  locale.toLowerCase (trim name)

def resolveEntriesInOrder (pane : CommanderPaneRuntimeState) (entryIds : List String) :
    List CommanderDirectoryEntry :=
  entryIds.filterMap fun entryId => pane.directoryEntries.find? (·.id == entryId)

def isTaken (locale : Locale) (target : CommanderPaneRuntimeState) (name : String) : Bool :=
  normalizeEntryName locale name ∈
    target.directoryEntries.map fun entry => normalizeEntryName locale entry.name

def getCommanderConflictingEntryNames (locale : Locale)
    (source target : CommanderPaneRuntimeState) (entryIds : List String) : List String :=
  ((resolveEntriesInOrder source entryIds).map (·.name)).filter (isTaken locale target)

/-- `createPendingOperation` for a copy or a move to another directory. -/
def createPendingOperation (locale : Locale) (widget : CommanderWidgetRuntimeState)
    (kind : TransferKind) : Option CommanderTransferPendingOperation :=
  let sourcePane := widget.getPaneState widget.activePane
  let targetPane := widget.getPaneState widget.activePane.other
  let entryIds := getOperationEntryIds sourcePane
  if entryIds = [] ∨ sourcePane.path = targetPane.path then none
  else some
    { kind := kind
      sourcePaneId := widget.activePane
      sourcePath := sourcePane.path
      targetPaneId := widget.activePane.other
      targetPath := targetPane.path
      entryIds := entryIds
      entryNames := (sourcePane.entries.filter fun entry => entry.id ∈ entryIds).map (·.name)
      conflictEntryNames :=
        getCommanderConflictingEntryNames locale sourcePane targetPane entryIds }

inductive ConflictResolution where
  | overwriteCurrent
  | skipCurrent
  | overwriteAll
  | skipAll
  deriving DecidableEq

/-- A request to the backend: the entries whose paths it names. -/
structure TransferRequest where
  kind : TransferKind
  sources : List CommanderDirectoryEntry
  targetPath : String
  overwrite : Bool
  deriving DecidableEq

namespace CommanderTransferPendingOperation

def getCurrentPendingConflictName (op : CommanderTransferPendingOperation) : Option String :=
  op.conflictEntryNames.head?

def removePendingTransferEntry (op : CommanderTransferPendingOperation) (entryName : String) :
    CommanderTransferPendingOperation :=
  match op.entryNames.findIdx? (· == entryName) with
  | none => op
  | some entryIndex =>
    { op with
      entryIds := op.entryIds.eraseIdx entryIndex
      entryNames := op.entryNames.eraseIdx entryIndex
      conflictEntryNames := op.conflictEntryNames.filter (· ≠ entryName) }

def performTransferMutation (source : CommanderPaneRuntimeState)
    (op : CommanderTransferPendingOperation) (entryIds : List String) (overwrite : Bool) :
    List TransferRequest :=
  let sources := resolveEntriesInOrder source entryIds
  if sources = [] then []
  else [⟨op.kind, sources, op.targetPath, overwrite⟩]

abbrev Outcome := Option CommanderTransferPendingOperation × List TransferRequest

def proceed (source : CommanderPaneRuntimeState) (next : CommanderTransferPendingOperation)
    (sent : List TransferRequest) : Outcome :=
  if next.entryIds = [] then (none, sent)
  else if next.conflictEntryNames ≠ [] then (some next, sent)
  else (none, sent ++ next.performTransferMutation source next.entryIds false)

def resolvePendingTransferConflict (source : CommanderPaneRuntimeState)
    (op : CommanderTransferPendingOperation) : ConflictResolution → Outcome
  | .overwriteAll => (none, op.performTransferMutation source op.entryIds true)
  | .skipAll =>
    let nonConflictingEntryIds := (op.entryIds.zipIdx.filter fun (_, index) =>
      (op.entryNames[index]?.getD "") ∉ op.conflictEntryNames).map Prod.fst
    (none,
      if nonConflictingEntryIds ≠ [] then
        op.performTransferMutation source nonConflictingEntryIds false
      else [])
  | .skipCurrent =>
    match truthy op.getCurrentPendingConflictName with
    | none => (some op, [])
    | some name => proceed source (op.removePendingTransferEntry name) []
  | .overwriteCurrent =>
    match truthy op.getCurrentPendingConflictName with
    | none => (some op, [])
    | some name =>
      let currentConflictEntryId :=
        (op.entryNames.findIdx? (· == name)).bind fun index => op.entryIds[index]?
      match truthy currentConflictEntryId with
      | none => (some op, [])
      | some entryId =>
        proceed source (op.removePendingTransferEntry name)
          (op.performTransferMutation source [entryId] true)

/-- `confirmPendingOperationAsync`: without conflicts everything is sent. -/
def confirmPendingOperation (source : CommanderPaneRuntimeState)
    (op : CommanderTransferPendingOperation) : Outcome :=
  if op.conflictEntryNames ≠ [] then (some op, [])
  else (none, op.performTransferMutation source op.entryIds false)

end CommanderTransferPendingOperation

inductive Answer where
  | resolve (resolution : ConflictResolution)
  | confirm
  | cancel
  deriving DecidableEq

/-- A transfer with the requests it has sent, and for reference the names that the
user answered for. -/
structure Transfer where
  pending : Option CommanderTransferPendingOperation
  requests : List TransferRequest := []
  overwriteNames : List String := []
  skippedNames : List String := []
  overwriteAll : Bool := false
  cancelled : Bool := false
  deriving DecidableEq

namespace Transfer

def settle (transfer : Transfer) (outcome : CommanderTransferPendingOperation.Outcome) :
    Transfer :=
  { transfer with pending := outcome.1, requests := transfer.requests ++ outcome.2 }

/-- The listing of the source pane does not change. Nothing is answered once the
transfer is closed. -/
def answer (source : CommanderPaneRuntimeState) (transfer : Transfer) :
    Answer → Option Transfer
  | given =>
    match transfer.pending with
    | none => none
    | some op =>
      let current := op.getCurrentPendingConflictName.toList
      match given with
      | .resolve .overwriteCurrent =>
        some ({ transfer with overwriteNames := current ++ transfer.overwriteNames }.settle
          (op.resolvePendingTransferConflict source .overwriteCurrent))
      | .resolve .skipCurrent =>
        some ({ transfer with skippedNames := current ++ transfer.skippedNames }.settle
          (op.resolvePendingTransferConflict source .skipCurrent))
      | .resolve .overwriteAll =>
        some ({ transfer with overwriteAll := true }.settle
          (op.resolvePendingTransferConflict source .overwriteAll))
      | .resolve .skipAll =>
        some ({ transfer with
          skippedNames := op.conflictEntryNames ++ transfer.skippedNames }.settle
            (op.resolvePendingTransferConflict source .skipAll))
      | .confirm => some (transfer.settle (op.confirmPendingOperation source))
      | .cancel => some ({ transfer with cancelled := true }.settle (none, []))

end Transfer

end RuneTerminal.Commander
