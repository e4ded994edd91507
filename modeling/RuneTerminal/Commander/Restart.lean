import RuneTerminal.Commander.Store
import RuneTerminal.Go.Json

/-! What is read back is what was written, up to a missing anchor. After the initial load the cursor
is on the first row and nothing is selected. -/

namespace RuneTerminal.Commander

open Go.Json (Value)
open Kit List CommanderWidgetRuntimeState CommanderPaneRuntimeState

section

variable {Data : Type}

def member (key : String) (members : List (String × Value)) : Option Value :=
  members.reverse.lookup key

def stringSchema : Value → Option String
  | .str text => some text
  | _ => none

def booleanSchema : Value → Option Bool
  | .bool value => some value
  | _ => none

def numberSchema : Value → Option Unit
  | .int _ => some ()
  | .real _ => some ()
  | _ => none

def enumSchema (names : List (String × Data)) : Value → Option Data
  | .str text => names.lookup text
  | _ => none

def arraySchema (schema : Value → Option Data) : Value → Option (List Data)
  | .arr items => items.mapM schema
  | _ => none

def nullable (schema : Value → Option Data) : Value → Option (Option Data)
  | .null => some none
  | value => (schema value).map some

def required (schema : Value → Option Data) (value : Option Value) : Option Data :=
  value.bind schema

def optional (schema : Value → Option Data) (fallback : Data) : Option Value → Option Data
  | none => some fallback
  | some value => schema value

end

def stringArraySchema : Value → Option (List String) := arraySchema stringSchema

def commanderPaneIdNames : List (String × CommanderPaneId) := [("left", .left), ("right", .right)]

def commanderViewModeNames : List (String × CommanderViewMode) :=
  [("commander", .commander), ("split", .split), ("terminal", .terminal)]

def commanderSortModeNames : List (String × CommanderSortMode) :=
  [("name", .name), ("ext", .ext), ("size", .size), ("modified", .modified)]

def commanderSortDirectionNames : List (String × CommanderSortDirection) :=
  [("asc", .asc), ("desc", .desc)]

def commanderRowKindNames : List (String × CommanderRowKind) :=
  [("file", .file), ("folder", .folder), ("symlink", .symlink)]

/-- Stored entries are checked, and then left out of the runtime state. -/
def commanderDirectoryEntrySchema : Value → Option Unit
  | .obj members => do
    let _ ← required stringSchema (member "id" members)
    let _ ← required stringSchema (member "name" members)
    let _ ← required stringSchema (member "ext" members)
    let _ ← required (enumSchema commanderRowKindNames) (member "kind" members)
    let _ ← required stringSchema (member "sizeLabel" members)
    let _ ← optional (nullable numberSchema) none (member "sizeBytes" members)
    let _ ← required stringSchema (member "modified" members)
    let _ ← optional booleanSchema false (member "hidden" members)
    let _ ← optional stringSchema "" (member "gitStatus" members)
    let _ ← optional booleanSchema false (member "executable" members)
    let _ ← optional stringSchema "" (member "symlinkTarget" members)
    return ()
  | _ => none

structure CommanderPanePersistedState where
  path : String
  filterQuery : String
  cursorEntryId : Option String
  selectionAnchorEntryId : Option String
  selectedIds : List String
  historyBack : List String
  historyForward : List String

def commanderPanePersistedStateSchema : Value → Option CommanderPanePersistedState
  | .obj members => do
    let path ← required stringSchema (member "path" members)
    let filterQuery ← optional stringSchema "" (member "filterQuery" members)
    let _ ← optional (arraySchema commanderDirectoryEntrySchema) []
      (member "directoryEntries" members)
    let _ ← optional (arraySchema commanderDirectoryEntrySchema) [] (member "entries" members)
    let cursorEntryId ← optional (nullable stringSchema) none (member "cursorEntryId" members)
    let selectionAnchorEntryId ←
      optional (nullable stringSchema) none (member "selectionAnchorEntryId" members)
    let selectedIds ← required stringArraySchema (member "selectedIds" members)
    let historyBack ← required stringArraySchema (member "historyBack" members)
    let historyForward ← required stringArraySchema (member "historyForward" members)
    return {
      path := path
      filterQuery := filterQuery
      cursorEntryId := cursorEntryId
      selectionAnchorEntryId := selectionAnchorEntryId.or cursorEntryId
      selectedIds := selectedIds
      historyBack := historyBack
      historyForward := historyForward }
  | _ => none

structure CommanderWidgetPersistedState where
  activePane : CommanderPaneId
  viewMode : CommanderViewMode
  options : ProjectionOptions
  leftPane : CommanderPanePersistedState
  rightPane : CommanderPanePersistedState

def commanderWidgetPersistedRuntimeSchema : Value → Option CommanderWidgetPersistedState
  | .obj members => do
    let activePane ← required (enumSchema commanderPaneIdNames) (member "activePane" members)
    let viewMode ← required (enumSchema commanderViewModeNames) (member "viewMode" members)
    let showHidden ← required booleanSchema (member "showHidden" members)
    let sortMode ← required (enumSchema commanderSortModeNames) (member "sortMode" members)
    let sortDirection ←
      optional (enumSchema commanderSortDirectionNames) .asc (member "sortDirection" members)
    let dirsFirst ← optional booleanSchema true (member "dirsFirst" members)
    let leftPane ← required commanderPanePersistedStateSchema (member "leftPane" members)
    let rightPane ← required commanderPanePersistedStateSchema (member "rightPane" members)
    return {
      activePane := activePane
      viewMode := viewMode
      options := {
        showHidden := showHidden
        sortMode := sortMode
        sortDirection := sortDirection
        dirsFirst := dirsFirst }
      leftPane := leftPane
      rightPane := rightPane }
  | _ => none

/-- `normalizeWidgetState` -/
def commanderWidgetPersistedSnapshotSchema : Value → Option CommanderWidgetPersistedState
  | .obj members => required commanderWidgetPersistedRuntimeSchema (member "runtime" members)
  | _ => none

def nameOf {Data : Type} [DecidableEq Data] (names : List (String × Data)) (data : Data) : Value :=
  .str (((names.find? fun name => name.2 = data).map Prod.fst).getD "")

def stringsValue (texts : List String) : Value := .arr (texts.map Value.str)

def nullableValue (text : Option String) : Value := text.elim Value.null Value.str

def serializePaneState (pane : CommanderPane) : Value :=
  .obj [
    ("path", .str pane.rows.path),
    ("filterQuery", .str pane.rows.filterQuery),
    ("cursorEntryId", nullableValue pane.rows.cursorEntryId),
    ("selectionAnchorEntryId", nullableValue pane.rows.selectionAnchorEntryId),
    ("selectedIds", stringsValue pane.rows.selectedIds),
    ("historyBack", stringsValue pane.status.historyBack),
    ("historyForward", stringsValue pane.status.historyForward)]

def serializeCommanderWidgetRuntimeState (widget : CommanderWidget) : Value :=
  .obj [
    ("activePane", nameOf commanderPaneIdNames widget.activePane),
    ("viewMode", nameOf commanderViewModeNames widget.viewMode),
    ("showHidden", .bool widget.options.showHidden),
    ("sortMode", nameOf commanderSortModeNames widget.options.sortMode),
    ("sortDirection", nameOf commanderSortDirectionNames widget.options.sortDirection),
    ("dirsFirst", .bool widget.options.dirsFirst),
    ("leftPane", serializePaneState (widget.getPane .left)),
    ("rightPane", serializePaneState (widget.getPane .right))]

def writePersistedCommanderWidgets (widgets : List (String × CommanderWidget)) : Value :=
  .obj [("widgets", .obj (widgets.map fun entry =>
    (entry.1, .obj [("runtime", serializeCommanderWidgetRuntimeState entry.2)])))]

def readPersistedCommanderWidget (storage : Value) (widgetId : String) :
    Option CommanderWidgetPersistedState :=
  match storage with
  | .obj members =>
    match member "widgets" members with
    | some (.obj widgets) =>
      (member widgetId widgets).bind commanderWidgetPersistedSnapshotSchema
    | _ => none
  | _ => none

def createPaneStateFromPersisted (pane : CommanderPanePersistedState) : CommanderPane where
  rows := {
    path := pane.path
    filterQuery := pane.filterQuery
    directoryEntries := []
    entries := []
    cursorEntryId := pane.cursorEntryId
    selectionAnchorEntryId := pane.selectionAnchorEntryId
    selectedIds := pane.selectedIds }
  status := {
    historyBack := pane.historyBack
    historyForward := pane.historyForward
    isLoading := true
    errorMessage := none }

def createEmptyPaneState : CommanderPane where
  rows := {
    path := ""
    filterQuery := ""
    directoryEntries := []
    entries := []
    cursorEntryId := none
    selectionAnchorEntryId := none
    selectedIds := [] }
  status := { historyBack := [], historyForward := [], isLoading := true, errorMessage := none }

def defaultOptions : ProjectionOptions where
  showHidden := true
  sortMode := .name
  sortDirection := .asc
  dirsFirst := true

def CommanderWidget.ofPanes (activePane : CommanderPaneId) (viewMode : CommanderViewMode)
    (options : ProjectionOptions) (left right : CommanderPane) : CommanderWidget where
  activePane := activePane
  options := options
  leftPane := left.rows
  rightPane := right.rows
  viewMode := viewMode
  leftStatus := left.status
  rightStatus := right.status

def createCommanderWidgetRuntimeState : Option CommanderWidgetPersistedState → CommanderWidget
  | none => .ofPanes .left .commander defaultOptions createEmptyPaneState createEmptyPaneState
  | some persisted =>
    .ofPanes persisted.activePane persisted.viewMode persisted.options
      (createPaneStateFromPersisted persisted.leftPane)
      (createPaneStateFromPersisted persisted.rightPane)

def Mounted (widget : CommanderWidget) : Prop :=
  ∃ persisted, widget = createCommanderWidgetRuntimeState persisted

structure DirectorySnapshot where
  path : String
  entries : List CommanderDirectoryEntry

structure LoadOptions where
  cursorEntryId : Option (Option String) := none
  filterQuery : Option String := none
  selectedIds : Option (List String) := none
  selectionAnchorEntryId : Option (Option String) := none

def loadPayload (known : CommanderWidget) (paneId : CommanderPaneId) (mode : HistoryMode)
    (loadOptions : LoadOptions) (snapshot : DirectorySnapshot) : HydratePanePayload where
  paneId := paneId
  path := snapshot.path
  filterQuery := some (loadOptions.filterQuery.getD (known.getPane paneId).rows.filterQuery)
  directoryEntries := snapshot.entries
  cursorEntryId := .ofArgument loadOptions.cursorEntryId
  historyMode := some mode
  selectedIds := .ofArgument loadOptions.selectedIds
  selectionAnchorEntryId := .ofArgument loadOptions.selectionAnchorEntryId

/-- The events of the initial load, which begins with both panes. The answer for one of
them comes `first`. -/
def initialLoad (mounted : CommanderWidget) (first : CommanderPaneId)
    (snapshots : CommanderPaneId → DirectorySnapshot) : List StoreEvent :=
  [.setPaneLoading .left, .setPaneLoading .right,
    .hydratePaneDirectory (loadPayload mounted first .replace {} (snapshots first)),
    .hydratePaneDirectory (loadPayload mounted first.other .replace {} (snapshots first.other))]

def restart (host : HostLocale) (storage : Value) (widgetId : String) (first : CommanderPaneId)
    (snapshots : CommanderPaneId → DirectorySnapshot) : CommanderWidget :=
  let mounted := createCommanderWidgetRuntimeState (readPersistedCommanderWidget storage widgetId)
  (initialLoad mounted first snapshots).foldl (·.reduce host) mounted

def Picks (pane next : CommanderPaneRuntimeState) : Prop :=
  next =
    { pane with
      cursorEntryId := next.cursorEntryId
      selectionAnchorEntryId := next.selectionAnchorEntryId
      selectedIds := next.selectedIds }

variable {pane next : CommanderPaneRuntimeState}

theorem Picks.refl (pane : CommanderPaneRuntimeState) : Picks pane pane := rfl

theorem Picks.trans {last : CommanderPaneRuntimeState} (first : Picks pane next)
    (second : Picks next last) : Picks pane last := by
  rw [Picks, second, first]

theorem move_pane_cursor_picks (delta : Int) : Picks pane (pane.movePaneCursor delta) := by
  rw [movePaneCursor]
  split
  · exact .refl pane
  · rfl

theorem set_cursor_to_boundary_picks (boundary : CommanderPaneRuntimeState.Boundary) :
    Picks pane (pane.setCursorToBoundary boundary) := by
  rw [setCursorToBoundary]
  split
  · exact .refl pane
  · rfl

theorem selection_range_picks (targetEntryId : String) :
    Picks pane (pane.setSelectionRangeAtCursor targetEntryId) := by
  rw [setSelectionRangeAtCursor]
  split
  · exact .refl pane
  · rfl

theorem move_with_selection_picks (delta : Int) :
    Picks pane (pane.movePaneCursorWithSelection delta) := by
  rw [movePaneCursorWithSelection]
  split
  · exact .refl pane
  · exact selection_range_picks _

theorem boundary_with_selection_picks (boundary : CommanderPaneRuntimeState.Boundary) :
    Picks pane (pane.setCursorToBoundaryWithSelection boundary) := by
  rw [setCursorToBoundaryWithSelection]
  split
  · exact .refl pane
  · exact selection_range_picks _

theorem toggle_entry_picks (entryId : String) : Picks pane (pane.toggleEntrySelection entryId) := by
  rw [toggleEntrySelection]
  split
  · rfl
  · exact .refl pane

theorem extend_or_move_picks (delta : Int) (extendSelection : Bool) :
    Picks pane (CommanderWidgetRuntimeState.extendOrMove pane delta extendSelection) := by
  rw [extendOrMove]
  split
  · exact move_with_selection_picks delta
  · exact move_pane_cursor_picks delta

theorem go_to_match_picks (entryId : Option String) : Picks pane (pane.goToMatch entryId) := by
  cases entryId with
  | none => exact .refl pane
  | some entryId => rfl

def ShowsListing (locale : Locale) (options : ProjectionOptions)
    (pane : CommanderPaneRuntimeState) : Prop :=
  pane.entries = projectCommanderEntries locale options pane.directoryEntries pane.filterQuery

variable {locale : Locale}

section

variable {options : ProjectionOptions}

theorem ShowsListing.picks (shows : ShowsListing locale options pane) (picks : Picks pane next) :
    ShowsListing locale options next := by
  rw [picks]
  exact shows

theorem rebuild_shows_listing : ShowsListing locale options (pane.rebuild locale options) := rfl

end

section

variable {widget : CommanderWidgetRuntimeState}
  {updater : CommanderPaneRuntimeState → CommanderPaneRuntimeState}

def AllShown (locale : Locale) (widget : CommanderWidgetRuntimeState) : Prop :=
  ∀ paneId, ShowsListing locale widget.options (widget.getPaneState paneId)

theorem update_pane_shown {updater : CommanderPaneRuntimeState → CommanderPaneRuntimeState}
    (shown : AllShown locale widget) (updated : CommanderPaneId)
    (keeps : ∀ pane, ShowsListing locale widget.options pane →
      ShowsListing locale widget.options (updater pane)) :
    AllShown locale (widget.updatePaneState updated updater) := by
  intro paneId
  cases updated with
  | left =>
    cases paneId with
    | left => exact keeps _ (shown .left)
    | right => exact shown .right
  | right =>
    cases paneId with
    | left => exact shown .left
    | right => exact keeps _ (shown .right)

theorem update_pane_picks (shown : AllShown locale widget) (updated : CommanderPaneId)
    (picks : ∀ pane, Picks pane (updater pane)) :
    AllShown locale (widget.updatePaneState updated updater) :=
  update_pane_shown shown updated fun pane shows => shows.picks (picks pane)

theorem project_shown (options : ProjectionOptions) :
    AllShown locale (widget.project locale options) := by
  intro paneId
  cases paneId with
  | left | right => exact rebuild_shows_listing

theorem handle_shown (shown : AllShown locale widget) (event : WidgetEvent) :
    AllShown locale (widget.handle locale event) := by
  have focused : ∀ active, AllShown locale { widget with activePane := active } := by
    intro active paneId
    cases paneId with
    | left => exact shown .left
    | right => exact shown .right
  cases event with
  | setActivePane active => exact focused active
  | switchActivePane => exact focused widget.activePane.other
  | setPaneCursor active entryId rangeSelect =>
    apply update_pane_picks (focused active)
    intro pane
    split
    · split
      · exact selection_range_picks entryId
      · rfl
    · exact .refl pane
  | movePaneCursor active delta extendSelection =>
    exact update_pane_picks (focused active) active
      fun _ => extend_or_move_picks delta extendSelection
  | moveActivePaneCursor delta extendSelection =>
    exact update_pane_picks shown widget.activePane
      fun _ => extend_or_move_picks delta extendSelection
  | setPaneBoundaryCursor active boundary extendSelection =>
    apply update_pane_picks (focused active)
    intro pane
    split
    · exact boundary_with_selection_picks boundary
    · exact set_cursor_to_boundary_picks boundary
  | togglePaneSelection active entryId =>
    exact update_pane_picks (focused active) active fun _ => toggle_entry_picks entryId
  | toggleActivePaneSelection advance =>
    rw [handle]
    split
    · exact shown
    rename_i entryId _
    apply update_pane_picks shown
    intro pane
    split
    · exact (toggle_entry_picks entryId).trans (move_pane_cursor_picks 1)
    · exact toggle_entry_picks entryId
  | confirmMask paneId inputValue mode => exact update_pane_picks shown paneId fun _ => rfl
  | invertActivePaneSelection => exact update_pane_picks shown widget.activePane fun _ => rfl
  | setSortMode | toggleShowHidden | toggleDirsFirst => exact project_shown _
  | setPaneFilterQuery paneId filterQuery =>
    exact update_pane_shown shown paneId fun _ _ => rebuild_shows_listing

end

variable {host : HostLocale} {widget : CommanderWidget}

section

theorem get_pane_rows (paneId : CommanderPaneId) :
    (widget.getPane paneId).rows = widget.toCommanderWidgetRuntimeState.getPaneState paneId := by
  cases paneId with
  | left | right => rfl

theorem update_pane_rows (updated : CommanderPaneId) (updater : CommanderPane → CommanderPane) :
    (widget.updatePane updated updater).toCommanderWidgetRuntimeState =
    widget.toCommanderWidgetRuntimeState.updatePaneState updated fun _ =>
    (updater (widget.getPane updated)).rows := by
  cases updated with
  | left | right => rfl

section

variable (shown : AllShown locale widget.toCommanderWidgetRuntimeState)
include shown

theorem replace_pane_shown (updated : CommanderPaneId) {updater : CommanderPane → CommanderPane}
    (shows : ShowsListing locale widget.options (updater (widget.getPane updated)).rows) :
    AllShown locale (widget.updatePane updated updater).toCommanderWidgetRuntimeState := by
  rw [update_pane_rows]
  exact update_pane_shown shown updated fun _ _ => shows

theorem pane_shown (paneId : CommanderPaneId) :
    ShowsListing locale widget.options (widget.getPane paneId).rows := by
  rw [get_pane_rows]
  exact shown paneId

end

theorem reduce_shown (shown : AllShown host.toLocale widget.toCommanderWidgetRuntimeState)
    (event : StoreEvent) :
    AllShown host.toLocale (widget.reduce host event).toCommanderWidgetRuntimeState := by
  cases event with
  | rows event => exact handle_shown shown event
  | setViewMode viewMode => exact shown
  | setPaneLoading paneId => exact replace_pane_shown shown paneId (pane_shown shown paneId)
  | setPaneLoadError paneId path errorMessage =>
    exact replace_pane_shown shown paneId rebuild_shows_listing
  | hydratePaneDirectory payload =>
    have focused : AllShown host.toLocale
        { widget with activePane := payload.paneId }.toCommanderWidgetRuntimeState :=
      handle_shown shown (.setActivePane payload.paneId)
    exact replace_pane_shown focused payload.paneId rebuild_shows_listing
  | confirmFilter paneId inputValue => exact handle_shown shown _
  | confirmSearch paneId | stepSearchMatch paneId =>
    exact replace_pane_shown shown paneId
      ((pane_shown shown paneId).picks (go_to_match_picks _))
  | clearActivePaneFilter => exact handle_shown shown _

theorem project_nil (locale : Locale) (options : ProjectionOptions) (filterQuery : String) :
    projectCommanderEntries locale options [] filterQuery = [] := by
  exact List.sublist_nil.mp (matched_entries_sublist locale _ filterQuery true)

theorem mounted_shown (mounted : Mounted widget) :
    AllShown locale widget.toCommanderWidgetRuntimeState := by
  rcases mounted with ⟨persisted, rfl⟩
  intro paneId
  cases persisted with
  | none | some =>
    cases paneId with
    | left | right => exact (project_nil _ _ _).symm

theorem reachable_shown (reachable : Reachable Mounted (CommanderWidget.step host) widget) :
    AllShown host.toLocale widget.toCommanderWidgetRuntimeState := by
  let invariant (widget : CommanderWidget) : Prop :=
    AllShown host.toLocale widget.toCommanderWidgetRuntimeState
  apply reachable.invariant
  · intro first mounted
    exact mounted_shown mounted
  · intro before event after shown taken
    cases taken
    exact reduce_shown shown event

end

variable {widgets : List (String × CommanderWidget)} {widgetId : String}

section

theorem string_array_round_trip (texts : List String) :
    stringArraySchema (stringsValue texts) = some texts := by
  rw [stringArraySchema, stringsValue, arraySchema]
  induction texts with
  | nil => rfl
  | cons text texts ih =>
    rw [map_cons, mapM_cons, ih]
    rfl

theorem nullable_round_trip (text : Option String) :
    nullable stringSchema (nullableValue text) = some text := by
  cases text with
  | none | some => rfl

theorem pane_id_round_trip (paneId : CommanderPaneId) :
    enumSchema commanderPaneIdNames (nameOf commanderPaneIdNames paneId) = some paneId := by
  cases paneId <;> decide

theorem view_mode_round_trip (viewMode : CommanderViewMode) :
    enumSchema commanderViewModeNames (nameOf commanderViewModeNames viewMode) = some viewMode := by
  cases viewMode <;> decide

theorem sort_mode_round_trip (sortMode : CommanderSortMode) :
    enumSchema commanderSortModeNames (nameOf commanderSortModeNames sortMode) = some sortMode := by
  cases sortMode <;> decide

theorem sort_direction_round_trip (sortDirection : CommanderSortDirection) :
    enumSchema commanderSortDirectionNames (nameOf commanderSortDirectionNames sortDirection) =
    some sortDirection := by
  cases sortDirection <;> decide

def persistedPane (pane : CommanderPane) : CommanderPanePersistedState where
  path := pane.rows.path
  filterQuery := pane.rows.filterQuery
  cursorEntryId := pane.rows.cursorEntryId
  selectionAnchorEntryId := pane.rows.selectionAnchorEntryId.or pane.rows.cursorEntryId
  selectedIds := pane.rows.selectedIds
  historyBack := pane.status.historyBack
  historyForward := pane.status.historyForward

def persistedWidget (widget : CommanderWidget) : CommanderWidgetPersistedState where
  activePane := widget.activePane
  viewMode := widget.viewMode
  options := widget.options
  leftPane := persistedPane (widget.getPane .left)
  rightPane := persistedPane (widget.getPane .right)

theorem pane_round_trip (pane : CommanderPane) :
    commanderPanePersistedStateSchema (serializePaneState pane) = some (persistedPane pane) := by
  simp [serializePaneState, commanderPanePersistedStateSchema, member, required, optional,
    lookup_cons, stringSchema, nullable_round_trip, string_array_round_trip, persistedPane]

theorem widget_round_trip (widget : CommanderWidget) :
    commanderWidgetPersistedRuntimeSchema (serializeCommanderWidgetRuntimeState widget) =
      some (persistedWidget widget) := by
  simp [serializeCommanderWidgetRuntimeState, commanderWidgetPersistedRuntimeSchema, member,
    required, optional, lookup_cons, booleanSchema, pane_id_round_trip, view_mode_round_trip,
    sort_mode_round_trip, sort_direction_round_trip, pane_round_trip, persistedWidget]

section

variable {key : String} {value : Value} {members : List (String × Value)}
  (nodup : (members.map Prod.fst).Nodup) (stored : (key, value) ∈ members)
include nodup stored

theorem lookup_of_distinct : members.lookup key = some value := by
  induction members with
  | nil => cases stored
  | cons entry rest ih =>
    rw [map_cons, nodup_cons] at nodup
    rcases mem_cons.mp stored with rfl | later
    · exact lookup_cons_self
    have ne : (key == entry.1) = false := by
      rw [beq_eq_false_iff_ne]
      rintro rfl
      exact nodup.1 (mem_map.mpr ⟨_, later, rfl⟩)
    rw [lookup_cons, ne]
    exact ih nodup.2 later

theorem member_of_distinct : member key members = some value := by
  apply lookup_of_distinct
  · rw [map_reverse, nodup_reverse]
    exact nodup
  · exact mem_reverse.mpr stored

end

theorem read_written (nodup : (widgets.map Prod.fst).Nodup)
    (stored : (widgetId, widget) ∈ widgets) :
    readPersistedCommanderWidget (writePersistedCommanderWidgets widgets) widgetId =
    some (persistedWidget widget) := by
  let snapshot (entry : String × CommanderWidget) : String × Value :=
    (entry.1, .obj [("runtime", serializeCommanderWidgetRuntimeState entry.2)])
  have keys : (widgets.map snapshot).map Prod.fst = widgets.map Prod.fst := by
    rw [map_map]
    rfl
  have found : member widgetId (widgets.map snapshot) =
      some (.obj [("runtime", serializeCommanderWidgetRuntimeState widget)]) :=
    member_of_distinct (keys ▸ nodup) (mem_map_of_mem stored)
  have whole : member "widgets" [("widgets", Value.obj (widgets.map snapshot))] =
      some (.obj (widgets.map snapshot)) := by
    simp [member]
  have runtime : commanderWidgetPersistedSnapshotSchema
      (.obj [("runtime", serializeCommanderWidgetRuntimeState widget)]) =
        some (persistedWidget widget) := by
    simp [commanderWidgetPersistedSnapshotSchema, member, required, widget_round_trip]
  rw [writePersistedCommanderWidgets, readPersistedCommanderWidget, whole]
  dsimp only
  rw [found]
  exact runtime

end

def snapshotsOf (widget : CommanderWidget) (paneId : CommanderPaneId) : DirectorySnapshot where
  path := (widget.getPane paneId).rows.path
  entries := (widget.getPane paneId).rows.directoryEntries

/-- What a restart is to bring back. -/
structure Restored (before after : CommanderPane) : Prop where
  path : after.rows.path = before.rows.path
  filterQuery : after.rows.filterQuery = before.rows.filterQuery
  cursorEntryId : after.rows.cursorEntryId = before.rows.cursorEntryId
  selectionAnchorEntryId : after.rows.selectionAnchorEntryId = before.rows.selectionAnchorEntryId
  selectedIds : after.rows.selectedIds = before.rows.selectedIds
  historyBack : after.status.historyBack = before.status.historyBack
  historyForward : after.status.historyForward = before.status.historyForward
  entries : after.rows.entries = before.rows.entries

def CommanderPaneRuntimeState.firstRow (pane : CommanderPaneRuntimeState) : Option String :=
  pane.entries.head?.map (·.id)

structure AtFirstRow (pane : CommanderPaneRuntimeState) : Prop where
  selectedIds : pane.selectedIds = []
  cursorEntryId : pane.cursorEntryId = pane.firstRow
  selectionAnchorEntryId : pane.selectionAnchorEntryId = pane.firstRow

theorem initial_load_pane (mounted : CommanderWidget) (first paneId : CommanderPaneId)
    (snapshots : CommanderPaneId → DirectorySnapshot) :
    ((initialLoad mounted first snapshots).foldl (·.reduce host) mounted).getPane paneId =
      (CommanderWidget.hydratedPane (loadPayload mounted paneId .replace {} (snapshots paneId))
        { mounted.getPane paneId with
          status :=
            { (mounted.getPane paneId).status with isLoading := true, errorMessage := none } }
        ).rebuild host.toLocale mounted.options := by
  cases first with
  | left | right =>
    cases paneId with
    | left | right => rfl

theorem restarted_pane (nodup : (widgets.map Prod.fst).Nodup)
    (stored : (widgetId, widget) ∈ widgets)
    (shown : AllShown host.toLocale widget.toCommanderWidgetRuntimeState)
    (first paneId : CommanderPaneId) :
    (restart host (writePersistedCommanderWidgets widgets) widgetId first
        (snapshotsOf widget)).getPane paneId =
      { rows :=
          { (widget.getPane paneId).rows with
            selectedIds := []
            cursorEntryId := (widget.getPane paneId).rows.firstRow
            selectionAnchorEntryId := (widget.getPane paneId).rows.firstRow }
        status := (widget.getPane paneId).status.built } := by
  have rows := pane_shown shown paneId
  rw [restart, read_written nodup stored]
  dsimp only
  rw [initial_load_pane, firstRow, rows]
  cases paneId with
  | left | right => rfl

/-- A pane of a running widget is restored exactly if nothing in it is selected and its
cursor and anchor are on its first row. -/
theorem restored_iff (reachable : Reachable Mounted (CommanderWidget.step host) widget)
    {widgets : List (String × CommanderWidget)} {widgetId : String}
    (distinct : (widgets.map Prod.fst).Nodup) (stored : (widgetId, widget) ∈ widgets)
    (first paneId : CommanderPaneId) :
    Restored (widget.getPane paneId)
      ((restart host (writePersistedCommanderWidgets widgets) widgetId first
        (snapshotsOf widget)).getPane paneId) ↔
    AtFirstRow (widget.getPane paneId).rows := by
  rw [restarted_pane distinct stored (reachable_shown reachable) first paneId]
  constructor
  · intro restored
    exact ⟨restored.selectedIds.symm, restored.cursorEntryId.symm,
      restored.selectionAnchorEntryId.symm⟩
  · intro atFirst
    exact ⟨rfl, rfl, atFirst.cursorEntryId.symm, atFirst.selectionAnchorEntryId.symm,
      atFirst.selectedIds.symm, rfl, rfl, rfl⟩

theorem reachable_events (events : List StoreEvent)
    (reachable : Reachable Mounted (CommanderWidget.step host) widget) :
    Reachable Mounted (CommanderWidget.step host) (events.foldl (·.reduce host) widget) := by
  induction events generalizing widget with
  | nil => exact reachable
  | cons event events ih => exact ih (reachable.next rfl)

def sourceListing : List CommanderDirectoryEntry :=
  ["a", "b"].map fun name => { id := toCommanderEntryId "/src" name, name := name }

def loadedWidget : CommanderWidget :=
  let mounted := createCommanderWidgetRuntimeState none
  (initialLoad mounted .left fun _ => ⟨"/src", sourceListing⟩).foldl (·.reduce plainHost) mounted

theorem loaded_widget_reachable : Reachable Mounted (CommanderWidget.step plainHost) loadedWidget :=
  reachable_events _ (.start ⟨none, rfl⟩)

def storedAlone (widget : CommanderWidget) : List (String × CommanderWidget) := [("files", widget)]

theorem stored_alone_distinct (widget : CommanderWidget) :
    ((storedAlone widget).map Prod.fst).Nodup :=
  List.nodup_singleton "files"

def restarted (widget : CommanderWidget) : CommanderWidget :=
  restart plainHost (writePersistedCommanderWidgets (storedAlone widget)) "files" .left
    (snapshotsOf widget)

theorem untouched_pane_is_restored :
    Restored (loadedWidget.getPane .left) ((restarted loadedWidget).getPane .left) :=
  (restored_iff loaded_widget_reachable (stored_alone_distinct loadedWidget)
    mem_cons_self .left .left).mpr ⟨rfl, rfl, rfl⟩

def movedWidget : CommanderWidget :=
  loadedWidget.reduce plainHost (.rows (.movePaneCursor .left 1 false))

theorem moved_cursor_is_reset :
    Reachable Mounted (CommanderWidget.step plainHost) movedWidget ∧
      (movedWidget.getPane .left).rows.cursorEntryId = some "/src::b" ∧
      ((restarted movedWidget).getPane .left).rows.cursorEntryId = some "/src::a" ∧
      ¬Restored (movedWidget.getPane .left) ((restarted movedWidget).getPane .left) := by
  have reachable : Reachable Mounted (CommanderWidget.step plainHost) movedWidget :=
    loaded_widget_reachable.next rfl
  have cursor : (movedWidget.getPane .left).rows.cursorEntryId = some "/src::b" := by
    decide +kernel
  have first : (movedWidget.getPane .left).rows.firstRow = some "/src::a" := by
    decide +kernel
  have after : ((restarted movedWidget).getPane .left).rows.cursorEntryId = some "/src::a" := by
    rw [restarted, restarted_pane (stored_alone_distinct movedWidget) mem_cons_self
      (reachable_shown reachable), first]
  refine ⟨reachable, cursor, after, ?_⟩
  intro restored
  have same := restored.cursorEntryId
  rw [after] at same
  exact absurd same (by decide)

end RuneTerminal.Commander
