import RuneTerminal.Commander.Transfer
import RuneTerminal.Kit.ListSplit

/-! A widget with the history of its panes and the status of their loads (`store.ts`). A prompt is
left out: the events that confirm one carry what it holds. -/

namespace RuneTerminal.Commander

open Kit List CommanderPaneRuntimeState

section

variable {entries : List CommanderDirectoryEntry} {pane : CommanderPaneRuntimeState}
  {locale : Locale}

section

variable {path : String} (listing : Listing path entries)
include listing

theorem Listing.distinct_ids : (entries.map (·.id)).Nodup := by
  have ids : entries.map (·.id) = (entries.map (·.name)).map (toCommanderEntryId path) := by
    rw [map_map]
    exact map_congr_left listing.ids
  rw [ids]
  apply listing.names.map
  intro first second same
  unfold toCommanderEntryId at same
  simpa using same

theorem Listing.same_name {first second : CommanderDirectoryEntry} (isFirst : first ∈ entries)
    (isSecond : second ∈ entries) (same : first.name = second.name) : first = second :=
  inj_on_of_nodup_map listing.names isFirst isSecond same

theorem Listing.id_nonempty {entry : CommanderDirectoryEntry} (mem : entry ∈ entries) :
    entry.id ≠ "" := by
  rw [listing.ids entry mem, toCommanderEntryId]
  intro empty
  have length := congrArg String.length empty
  simp at length

end

structure PaneFits (pane : CommanderPaneRuntimeState) : Prop where
  listing : Listing pane.path pane.directoryEntries
  shown : ∀ entry ∈ pane.entries, entry ∈ pane.directoryEntries
  distinct : (pane.entries.map (·.id)).Nodup
  cursor : ∀ entryId, pane.cursorEntryId = some entryId → entryId ∈ pane.entries.map (·.id)

structure SameRows (pane next : CommanderPaneRuntimeState) : Prop where
  path : next.path = pane.path
  directoryEntries : next.directoryEntries = pane.directoryEntries
  entries : next.entries = pane.entries
  cursor : next.cursorEntryId = pane.cursorEntryId ∨
    ∀ entryId, next.cursorEntryId = some entryId → entryId ∈ pane.entries.map (·.id)

section

variable {next : CommanderPaneRuntimeState} {entryId : String}

theorem SameRows.refl (pane : CommanderPaneRuntimeState) : SameRows pane pane :=
  ⟨rfl, rfl, rfl, .inl rfl⟩

theorem PaneFits.same_rows (fits : PaneFits pane) (same : SameRows pane next) : PaneFits next := by
  refine ⟨?_, ?_, ?_, ?_⟩
  · rw [same.path, same.directoryEntries]
    exact fits.listing
  · rw [same.entries, same.directoryEntries]
    exact fits.shown
  · rw [same.entries]
    exact fits.distinct
  rw [same.entries]
  rcases same.cursor with unmoved | moved
  · rw [unmoved]
    exact fits.cursor
  · exact moved

theorem row_away_shown {delta : Int} (found : pane.rowAway delta = some entryId) :
    entryId ∈ pane.entries.map (·.id) := by
  obtain ⟨entry, isRow, rfl⟩ := Option.map_eq_some_iff.mp found
  exact mem_map_of_mem (mem_of_getElem? isRow)

theorem boundary_row_shown {boundary : CommanderPaneRuntimeState.Boundary}
    (found : pane.boundaryRow boundary = some entryId) : entryId ∈ pane.entries.map (·.id) := by
  cases boundary with
  | start =>
    obtain ⟨entry, isRow, rfl⟩ := Option.map_eq_some_iff.mp found
    exact mem_map_of_mem (mem_of_mem_head? isRow)
  | finish =>
    obtain ⟨entry, isRow, rfl⟩ := Option.map_eq_some_iff.mp found
    exact mem_map_of_mem (mem_of_getLast? isRow)

theorem has_entry_iff : pane.hasEntry entryId = true ↔ entryId ∈ pane.entries.map (·.id) := by
  simp [hasEntry]

theorem move_pane_cursor_rows (delta : Int) : SameRows pane (pane.movePaneCursor delta) := by
  unfold movePaneCursor
  split_ifs
  · exact .refl pane
  · exact ⟨rfl, rfl, rfl, .inr fun _ => row_away_shown⟩

theorem set_cursor_to_boundary_rows (boundary : CommanderPaneRuntimeState.Boundary) :
    SameRows pane (pane.setCursorToBoundary boundary) := by
  unfold setCursorToBoundary
  split_ifs
  · exact .refl pane
  · exact ⟨rfl, rfl, rfl, .inr fun _ => boundary_row_shown⟩

theorem set_selection_range_rows (targetEntryId : String) :
    SameRows pane (pane.setSelectionRangeAtCursor targetEntryId) := by
  unfold setSelectionRangeAtCursor
  split
  · exact .refl pane
  next targetIndex found =>
    refine ⟨rfl, rfl, rfl, .inr ?_⟩
    rintro entryId ⟨⟩
    obtain ⟨before, entry, after, whole, _, same⟩ := split_at_find_idx found
    rw [whole]
    simp [eq_of_beq same]

theorem move_with_selection_rows (delta : Int) :
    SameRows pane (pane.movePaneCursorWithSelection delta) := by
  unfold movePaneCursorWithSelection
  split
  · exact .refl pane
  · exact set_selection_range_rows _

theorem boundary_with_selection_rows (boundary : CommanderPaneRuntimeState.Boundary) :
    SameRows pane (pane.setCursorToBoundaryWithSelection boundary) := by
  unfold setCursorToBoundaryWithSelection
  split
  · exact .refl pane
  · exact set_selection_range_rows _

theorem toggle_entry_rows (entryId : String) :
    SameRows pane (pane.toggleEntrySelection entryId) := by
  unfold toggleEntrySelection
  split_ifs
  · exact ⟨rfl, rfl, rfl, .inl rfl⟩
  · exact ⟨rfl, rfl, rfl, .inl rfl⟩
  · exact .refl pane

theorem matched_entries_sublist (locale : Locale) (entries : List CommanderDirectoryEntry)
    (mask : String) (emptyMeansAll : Bool) :
    (getCommanderMatchedEntries locale entries mask emptyMeansAll).Sublist entries := by
  unfold getCommanderMatchedEntries
  dsimp only
  split_ifs
  · exact List.Sublist.refl _
  · exact nil_sublist _
  · exact filter_sublist

theorem projected_entries (locale : Locale) (options : ProjectionOptions)
    (directoryEntries : List CommanderDirectoryEntry) (filterQuery : String) :
    ∃ visible, visible.Sublist directoryEntries ∧ ∃ sorted, sorted.Perm visible ∧
      (projectCommanderEntries locale options directoryEntries filterQuery).Sublist sorted :=
  ⟨_, filter_sublist, _, perm_insertionSort _ _, matched_entries_sublist _ _ _ _⟩

theorem rebuild_fits {options : ProjectionOptions}
    (listing : Listing pane.path pane.directoryEntries) :
    PaneFits (pane.rebuild locale options) := by
  obtain ⟨visible, isVisible, sorted, sameEntries, shown⟩ :=
    projected_entries locale options pane.directoryEntries pane.filterQuery
  refine ⟨listing, ?_, ?_, ?_⟩
  · intro entry mem
    exact isVisible.subset (sameEntries.subset (shown.subset mem))
  · apply List.Nodup.sublist (shown.map _)
    exact (sameEntries.map _).nodup_iff.mpr (listing.distinct_ids.sublist (isVisible.map _))
  intro entryId found
  rcases Option.or_eq_some_iff.mp found with kept | ⟨_, first⟩
  · have visible := (Option.filter_eq_some_iff.mp kept).2
    simpa [rebuild] using visible
  · obtain ⟨entry, isFirst, rfl⟩ := Option.map_eq_some_iff.mp first
    exact mem_map_of_mem (mem_of_mem_head? isFirst)

end

section

open CommanderWidgetRuntimeState

variable {widget next : CommanderWidgetRuntimeState}

section

variable (fits : ∀ paneId, PaneFits (widget.getPaneState paneId))
include fits

theorem update_pane_fits {updater : CommanderPaneRuntimeState → CommanderPaneRuntimeState}
    (keeps : ∀ pane, PaneFits pane → PaneFits (updater pane)) (updated : CommanderPaneId) :
    ∀ paneId, PaneFits ((widget.updatePaneState updated updater).getPaneState paneId) := by
  intro paneId
  cases updated <;> cases paneId
  · exact keeps _ (fits .left)
  · exact fits .right
  · exact fits .left
  · exact keeps _ (fits .right)

theorem project_fits (options : ProjectionOptions) :
    ∀ paneId, PaneFits ((widget.project locale options).getPaneState paneId) := by
  intro paneId
  cases paneId with
  | left => exact rebuild_fits (fits .left).listing
  | right => exact rebuild_fits (fits .right).listing

end

theorem extend_or_move_fits (fits : PaneFits pane) (delta : Int) (extendSelection : Bool) :
    PaneFits (extendOrMove pane delta extendSelection) := by
  unfold extendOrMove
  split_ifs
  · exact fits.same_rows (move_with_selection_rows delta)
  · exact fits.same_rows (move_pane_cursor_rows delta)

theorem handle_fits (fits : ∀ paneId, PaneFits (widget.getPaneState paneId)) (event : WidgetEvent) :
    ∀ paneId, PaneFits ((widget.handle locale event).getPaneState paneId) := by
  -- The active pane does not matter to what the panes are.
  have focused : ∀ active paneId,
      PaneFits ({ widget with activePane := active }.getPaneState paneId) := by
    intro active paneId
    cases paneId with
    | left => exact fits .left
    | right => exact fits .right
  cases event with
  | setActivePane active => exact focused active
  | switchActivePane => exact focused widget.activePane.other
  | setPaneCursor active entryId rangeSelect =>
    apply update_pane_fits (focused active)
    intro pane paneFits
    split_ifs with known
    · exact paneFits.same_rows (set_selection_range_rows entryId)
    · apply paneFits.same_rows
      refine ⟨rfl, rfl, rfl, .inr ?_⟩
      rintro other ⟨⟩
      exact has_entry_iff.mp known
    · exact paneFits
  | movePaneCursor active delta extendSelection =>
    exact update_pane_fits (focused active)
      (fun _ paneFits => extend_or_move_fits paneFits delta extendSelection) active
  | moveActivePaneCursor delta extendSelection =>
    exact update_pane_fits fits
      (fun _ paneFits => extend_or_move_fits paneFits delta extendSelection) widget.activePane
  | setPaneBoundaryCursor active boundary extendSelection =>
    apply update_pane_fits (focused active)
    intro pane paneFits
    split_ifs
    · exact paneFits.same_rows (boundary_with_selection_rows boundary)
    · exact paneFits.same_rows (set_cursor_to_boundary_rows boundary)
  | togglePaneSelection active entryId =>
    exact update_pane_fits (focused active)
      (fun _ paneFits => paneFits.same_rows (toggle_entry_rows entryId)) active
  | toggleActivePaneSelection advance =>
    simp only [handle]
    split
    · exact fits
    next entryId _ =>
      apply update_pane_fits fits
      intro pane paneFits
      have toggled := paneFits.same_rows (toggle_entry_rows entryId)
      split_ifs
      · exact toggled.same_rows (move_pane_cursor_rows 1)
      · exact toggled
  | confirmMask | invertActivePaneSelection =>
    apply update_pane_fits fits
    intro pane paneFits
    exact paneFits.same_rows ⟨rfl, rfl, rfl, .inl rfl⟩
  | setSortMode | toggleShowHidden | toggleDirsFirst => exact project_fits fits _
  | setPaneFilterQuery paneId filterQuery =>
    apply update_pane_fits fits
    intro pane paneFits
    exact rebuild_fits paneFits.listing

theorem panes_fit (reachable : Reachable (Loaded locale) (step locale) widget) :
    ∀ paneId, PaneFits (widget.getPaneState paneId) := by
  apply reachable.invariant
  · intro loaded isLoaded paneId
    obtain ⟨path, filterQuery, directoryEntries, listing, isPane⟩ := isLoaded paneId
    rw [isPane]
    exact rebuild_fits listing
  · intro before event after fits taken
    cases taken
    exact handle_fits fits event

end

end

/-- A member of a payload. It may be there and be `undefined`. -/
inductive Member (Data : Type) where
  | absent
  | undefined
  | value (data : Data)

namespace Member

variable {Data : Type}

/-- `Object.prototype.hasOwnProperty` -/
def hasOwn : Member Data → Bool
  | .absent => false
  | _ => true

/-- `member ?? fallback` -/
def orElse (member : Member Data) (fallback : Data) : Data :=
  match member with
  | .value data => data
  | _ => fallback

def ofArgument : Option Data → Member Data
  | none => .undefined
  | some data => .value data

end Member

inductive CommanderViewMode where
  | commander
  | split
  | terminal
  deriving DecidableEq

/-- The history of a pane and the status of its loads. -/
structure PaneStatus where
  historyBack : List String
  historyForward : List String
  isLoading : Bool
  errorMessage : Option String

def PaneStatus.built (status : PaneStatus) : PaneStatus :=
  { status with isLoading := false, errorMessage := none }

structure CommanderPane where
  rows : CommanderPaneRuntimeState
  status : PaneStatus

/-- `rebuildCommanderPaneState` with the overrides in place. -/
def CommanderPane.rebuild (locale : Locale) (options : ProjectionOptions) (pane : CommanderPane) :
    CommanderPane where
  rows := pane.rows.rebuild locale options
  status := pane.status.built

structure CommanderWidget extends CommanderWidgetRuntimeState where
  viewMode : CommanderViewMode
  leftStatus : PaneStatus
  rightStatus : PaneStatus

inductive HistoryMode where
  | back
  | forward
  | push
  | replace
  deriving DecidableEq

structure HydratePanePayload where
  paneId : CommanderPaneId
  path : String
  filterQuery : Option String := none
  directoryEntries : List CommanderDirectoryEntry
  cursorEntryId : Member (Option String) := .absent
  historyMode : Option HistoryMode := none
  selectedIds : Member (List String) := .absent
  selectionAnchorEntryId : Member (Option String) := .absent

inductive StoreEvent where
  | rows (event : WidgetEvent)
  | setViewMode (viewMode : CommanderViewMode)
  | setPaneLoading (paneId : CommanderPaneId)
  | setPaneLoadError (paneId : CommanderPaneId) (path errorMessage : Option String)
  | hydratePaneDirectory (payload : HydratePanePayload)
  | confirmFilter (paneId : CommanderPaneId) (inputValue : String)
  | confirmSearch (paneId : CommanderPaneId) (inputValue : String) (matchIndex : Option Int)
  | stepSearchMatch (paneId : CommanderPaneId) (inputValue : String) (matchIndex : Option Int)
      (delta : Int)
  | clearActivePaneFilter

/-- The host with the other mappings of letter case. -/
structure HostLocale extends Locale where
  toLocaleLowerCase : String → String
  toLocaleUpperCase : String → String

def plainHost : HostLocale where
  localeCompare first second := if first < second then -1 else if second < first then 1 else 0
  toLowerCase := id
  canonicalize := id
  toLocaleLowerCase := id
  toLocaleUpperCase := id

def getCommanderSearchMatches (host : HostLocale) (pane : CommanderPaneRuntimeState)
    (query : String) : List CommanderDirectoryEntry :=
  let normalizedQuery := host.toLocaleLowerCase (trim query)
  if normalizedQuery = "" then []
  else pane.entries.filter fun entry =>
    (codeUnits (host.toLocaleLowerCase entry.name).toList).tails.any fun rest =>
      (codeUnits normalizedQuery.toList).isPrefixOf rest

def getCommanderResolvedSearchMatchIndex (entryIds : List String) (cursorEntryId : Option String)
    (fallbackIndex : Int) : Int :=
  if entryIds = [] then -1
  else
    match (truthy cursorEntryId).bind fun entryId => entryIds.findIdx? (· == entryId) with
    | some cursorIndex => cursorIndex
    | none => max 0 (min fallbackIndex (entryIds.length - 1))

def confirmedMatch (host : HostLocale) (pane : CommanderPaneRuntimeState) (inputValue : String)
    (matchIndex : Option Int) : Option String :=
  let entryIds := (getCommanderSearchMatches host pane inputValue).map (·.id)
  let index := getCommanderResolvedSearchMatchIndex entryIds pane.cursorEntryId
    (matchIndex.getD 0)
  if index = -1 then none else truthy entryIds[index.toNat]?

def steppedMatch (host : HostLocale) (pane : CommanderPaneRuntimeState) (inputValue : String)
    (matchIndex : Option Int) (delta : Int) : Option String :=
  let entryIds := (getCommanderSearchMatches host pane inputValue).map (·.id)
  if entryIds = [] then none
  else
    let index := getCommanderResolvedSearchMatchIndex entryIds pane.cursorEntryId
      (matchIndex.getD 0)
    truthy entryIds[((index + delta + entryIds.length).tmod entryIds.length).toNat]?

def CommanderPaneRuntimeState.goToMatch (pane : CommanderPaneRuntimeState) :
    Option String → CommanderPaneRuntimeState
  | none => pane
  | some entryId =>
    { pane with cursorEntryId := some entryId, selectionAnchorEntryId := some entryId }

def WidgetEvent.rebuilds : WidgetEvent → CommanderPaneId → Bool
  | .setSortMode _, _ => true
  | .toggleShowHidden, _ => true
  | .toggleDirsFirst, _ => true
  | .setPaneFilterQuery filtered _, paneId => filtered = paneId
  | _, _ => false

def historyAfterLoad (mode : Option HistoryMode) (path : String) (status : PaneStatus) :
    List String × List String :=
  let historyBack :=
    if mode = some .push ∧ path ≠ "" then status.historyBack ++ [path]
    else if mode = some .forward ∧ path ≠ "" then status.historyBack ++ [path]
    else if mode = some .back then status.historyBack.dropLast
    else status.historyBack
  let historyForward :=
    if mode = some .push then []
    else if mode = some .back ∧ path ≠ "" then status.historyForward ++ [path]
    else if mode = some .forward then status.historyForward.dropLast
    else status.historyForward
  (historyBack, historyForward)

namespace CommanderWidget

def getPane (widget : CommanderWidget) : CommanderPaneId → CommanderPane
  | .left => { rows := widget.leftPane, status := widget.leftStatus }
  | .right => { rows := widget.rightPane, status := widget.rightStatus }

def updatePane (widget : CommanderWidget) (paneId : CommanderPaneId)
    (updater : CommanderPane → CommanderPane) : CommanderWidget :=
  let pane := updater (widget.getPane paneId)
  match paneId with
  | .left => { widget with leftPane := pane.rows, leftStatus := pane.status }
  | .right => { widget with rightPane := pane.rows, rightStatus := pane.status }

def updateRows (widget : CommanderWidget) (paneId : CommanderPaneId)
    (updater : CommanderPaneRuntimeState → CommanderPaneRuntimeState) : CommanderWidget :=
  widget.updatePane paneId fun pane => { pane with rows := updater pane.rows }

/-- The pane that is built for `hydrateCommanderPaneDirectory`. A member that is there
and `undefined` counts as given. -/
def hydratedPane (payload : HydratePanePayload) (pane : CommanderPane) : CommanderPane :=
  let pathChanged := pane.rows.path ≠ payload.path
  let history := historyAfterLoad payload.historyMode pane.rows.path pane.status
  { rows :=
      { pane.rows with
        path := payload.path
        filterQuery := payload.filterQuery.getD (if pathChanged then "" else pane.rows.filterQuery)
        directoryEntries := payload.directoryEntries
        selectedIds :=
          if payload.selectedIds.hasOwn then payload.selectedIds.orElse []
          else if pathChanged then [] else pane.rows.selectedIds
        cursorEntryId :=
          if payload.cursorEntryId.hasOwn then payload.cursorEntryId.orElse none
          else if pathChanged then none else pane.rows.cursorEntryId
        selectionAnchorEntryId :=
          if payload.selectionAnchorEntryId.hasOwn then payload.selectionAnchorEntryId.orElse none
          else if pathChanged then none else pane.rows.selectionAnchorEntryId }
    status := { pane.status with historyBack := history.1, historyForward := history.2 } }

def failedPane (path errorMessage : Option String) (pane : CommanderPane) : CommanderPane :=
  let nextPath := path.getD pane.rows.path
  let pathChanged := nextPath ≠ pane.rows.path
  { rows :=
      { pane.rows with
        path := nextPath
        directoryEntries := if pathChanged then [] else pane.rows.directoryEntries
        selectedIds := if pathChanged then [] else pane.rows.selectedIds
        cursorEntryId := if pathChanged then none else pane.rows.cursorEntryId
        selectionAnchorEntryId := if pathChanged then none else pane.rows.selectionAnchorEntryId }
    status :=
      { pane.status with
        isLoading := false
        errorMessage := some (errorMessage.getD "Unable to load directory") } }

def statusAfter (event : WidgetEvent) (paneId : CommanderPaneId) (status : PaneStatus) :
    PaneStatus :=
  if event.rebuilds paneId then status.built else status

def handleRows (locale : Locale) (widget : CommanderWidget) (event : WidgetEvent) :
    CommanderWidget :=
  { widget with
    toCommanderWidgetRuntimeState := widget.toCommanderWidgetRuntimeState.handle locale event
    leftStatus := statusAfter event .left widget.leftStatus
    rightStatus := statusAfter event .right widget.rightStatus }

def reduce (host : HostLocale) (widget : CommanderWidget) : StoreEvent → CommanderWidget
  | .rows event => widget.handleRows host.toLocale event
  | .setViewMode viewMode => { widget with viewMode := viewMode }
  | .setPaneLoading paneId =>
    widget.updatePane paneId fun pane =>
      { pane with status := { pane.status with isLoading := true, errorMessage := none } }
  | .setPaneLoadError paneId path errorMessage =>
    widget.updatePane paneId fun pane =>
      (failedPane path errorMessage pane).rebuild host.toLocale widget.options
  | .hydratePaneDirectory payload =>
    { widget with activePane := payload.paneId }.updatePane payload.paneId fun pane =>
      (hydratedPane payload pane).rebuild host.toLocale widget.options
  | .confirmFilter paneId inputValue =>
    widget.handleRows host.toLocale (.setPaneFilterQuery paneId (trim inputValue))
  | .confirmSearch paneId inputValue matchIndex =>
    widget.updateRows paneId fun pane =>
      pane.goToMatch (confirmedMatch host pane inputValue matchIndex)
  | .stepSearchMatch paneId inputValue matchIndex delta =>
    widget.updateRows paneId fun pane =>
      pane.goToMatch (steppedMatch host pane inputValue matchIndex delta)
  | .clearActivePaneFilter =>
    widget.handleRows host.toLocale (.setPaneFilterQuery widget.activePane "")

def step (host : HostLocale) (widget : CommanderWidget) (event : StoreEvent) :
    Option CommanderWidget :=
  some (widget.reduce host event)

end CommanderWidget

end RuneTerminal.Commander
