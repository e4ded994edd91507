import RuneTerminal.Commander.LoadStatus
import RuneTerminal.Kit.Comparator

/-! A pane shows the entries of its listing that are visible and match the filter, in order;
selection, cursor and anchor have rows of the pane. -/

namespace RuneTerminal.Commander

open Kit List CommanderPaneRuntimeState CommanderWidget

def matchesMask (locale : Locale) (mask name : String) : Bool :=
  let patterns := splitCommanderMaskPatterns mask
  patterns = [] || patterns.any fun pattern =>
    testPattern locale (codeUnits pattern) (codeUnits name.toList)

theorem matched_eq_filter (locale : Locale) (entries : List CommanderDirectoryEntry)
    (mask : String) : getCommanderMatchedEntries locale entries mask true =
    entries.filter fun entry => matchesMask locale mask entry.name := by
  unfold getCommanderMatchedEntries matchesMask
  by_cases empty : splitCommanderMaskPatterns mask = []
  · simp [empty]
  · simp [empty]

def IsShown (locale : Locale) (options : ProjectionOptions) (filterQuery : String)
    (entry : CommanderDirectoryEntry) : Bool :=
  (options.showHidden || !entry.hidden) && matchesMask locale filterQuery entry.name

def InOrder (locale : Locale) (options : ProjectionOptions)
    (first second : CommanderDirectoryEntry) : Prop :=
  compareCommanderEntries locale options first second ≤ 0

variable {locale : Locale} {next : CommanderPaneRuntimeState}

def folderRank (options : ProjectionOptions) (entry : CommanderDirectoryEntry) : Int :=
  if options.dirsFirst = true ∧ entry.kind ≠ .folder then 1 else 0

def compareInMode (locale : Locale) (options : ProjectionOptions)
    (first second : CommanderDirectoryEntry) : Int :=
  let orName (entry : CommanderDirectoryEntry) : String :=
    if entry.ext = "" then entry.name else entry.ext
  let size (entry : CommanderDirectoryEntry) : Int :=
    (entry.sizeBytes.map Int.ofNat).getD (-1)
  match options.sortMode with
  | .name => 0
  | .ext => locale.localeCompare (orName first) (orName second)
  | .modified => locale.localeCompare second.modified first.modified
  | .size => size second - size first

def compareInDirection (locale : Locale) (options : ProjectionOptions)
    (first second : CommanderDirectoryEntry) : Int :=
  let result := compareInMode locale options first second
  let result := if result = 0 then locale.localeCompare first.name second.name else result
  match options.sortDirection with
  | .asc => result
  | .desc => result * -1

theorem compare_entries_eq (options : ProjectionOptions) (first second : CommanderDirectoryEntry) :
    compareCommanderEntries locale options first second =
      if folderRank options first - folderRank options second = 0 then
        compareInDirection locale options first second
      else folderRank options first - folderRank options second := by
  unfold compareCommanderEntries
  by_cases before : options.dirsFirst = true ∧ first.kind = .folder ∧ second.kind ≠ .folder
  · simp [folderRank, before]
  rw [if_neg before]
  by_cases after : options.dirsFirst = true ∧ first.kind ≠ .folder ∧ second.kind = .folder
  · simp [folderRank, after]
  have sameRank : folderRank options first - folderRank options second = 0 := by
    unfold folderRank
    split_ifs with isFirst isSecond isSecond
    · rfl
    · exact absurd ⟨isFirst.1, isFirst.2, by simpa [isFirst.1] using isSecond⟩ after
    · exact absurd ⟨isSecond.1, by simpa [isSecond.1] using isFirst, isSecond.2⟩ before
    · rfl
  rw [if_neg after, if_pos sameRank]
  rfl

theorem compare_entries_consistent (ordered : Consistent locale.localeCompare)
    (options : ProjectionOptions) : Consistent (compareCommanderEntries locale options) := by
  have inMode : Consistent (compareInMode locale options) := by
    unfold compareInMode
    cases options.sortMode with
    | name => exact .nothing
    | ext => exact ordered.on fun entry : CommanderDirectoryEntry =>
      if entry.ext = "" then entry.name else entry.ext
    | modified => exact (ordered.on CommanderDirectoryEntry.modified).flip
    | size => exact (Consistent.sub fun entry : CommanderDirectoryEntry =>
      (entry.sizeBytes.map Int.ofNat).getD (-1)).flip
  have named := inMode.orElse (ordered.on CommanderDirectoryEntry.name)
  have inDirection : Consistent (compareInDirection locale options) := by
    unfold compareInDirection
    cases options.sortDirection with
    | asc => exact named
    | desc => exact named.neg
  exact ((Consistent.sub (folderRank options)).orElse inDirection).congr
    (compare_entries_eq options)

theorem project_entries_perm (options : ProjectionOptions)
    (directoryEntries : List CommanderDirectoryEntry) (filterQuery : String) :
    (projectCommanderEntries locale options directoryEntries filterQuery).Perm
      (directoryEntries.filter (IsShown locale options filterQuery)) := by
  unfold projectCommanderEntries
  rw [matched_eq_filter]
  have sorted := (perm_insertionSort
    (fun left right => compareCommanderEntries locale options left right ≤ 0)
    (directoryEntries.filter fun entry => options.showHidden || !entry.hidden)).filter
      fun entry => matchesMask locale filterQuery entry.name
  rw [filter_filter] at sorted
  have same : (directoryEntries.filter fun entry =>
      matchesMask locale filterQuery entry.name && (options.showHidden || !entry.hidden)) =
      directoryEntries.filter (IsShown locale options filterQuery) := by
    apply filter_congr
    intro entry _
    exact Bool.and_comm _ _
  rw [same] at sorted
  exact sorted

theorem project_entries_ordered (ordered : Consistent locale.localeCompare)
    (options : ProjectionOptions) (directoryEntries : List CommanderDirectoryEntry)
    (filterQuery : String) :
    (projectCommanderEntries locale options directoryEntries filterQuery).Pairwise
      (InOrder locale options) := by
  unfold projectCommanderEntries
  rw [matched_eq_filter]
  have sorted := (compare_entries_consistent ordered options).pairwise_sorted
    (directoryEntries.filter fun entry => options.showHidden || !entry.hidden)
  exact sorted.filter _

structure OnRow (entries : List CommanderDirectoryEntry) (entryId : Option String) : Prop where
  nowhere : entryId = none ↔ entries = []
  row : ∀ id, entryId = some id → id ∈ entries.map (·.id)

structure Placed (pane : CommanderPaneRuntimeState) : Prop where
  selected : ∀ id ∈ pane.selectedIds, id ∈ pane.entries.map (·.id)
  cursor : OnRow pane.entries pane.cursorEntryId
  anchor : OnRow pane.entries pane.selectionAnchorEntryId

structure Marks (pane next : CommanderPaneRuntimeState) : Prop where
  picks : Picks pane next
  once : (pane.entries.map (·.id)).Nodup → pane.selectedIds.Nodup → next.selectedIds.Nodup
  placed : Placed pane → Placed next

variable {pane : CommanderPaneRuntimeState} {id : String} {first second : Option String}
  {delta : Int}

section

theorem Picks.entries (picks : Picks pane next) : next.entries = pane.entries := by rw [picks]

theorem Marks.refl (pane : CommanderPaneRuntimeState) : Marks pane pane :=
  ⟨.refl pane, fun _ once => once, fun placed => placed⟩

theorem Marks.trans {last : CommanderPaneRuntimeState} (first : Marks pane next)
    (second : Marks next last) : Marks pane last := by
  refine ⟨first.picks.trans second.picks, ?_, fun placed => second.placed (first.placed placed)⟩
  intro nodup once
  apply second.once ?_ (first.once nodup once)
  rw [first.picks.entries]
  exact nodup

variable {entries : List CommanderDirectoryEntry}

theorem on_row_of_mem (row : id ∈ entries.map (·.id)) : OnRow entries (some id) := by
  constructor
  · constructor
    · intro impossible
      cases impossible
    · rintro rfl
      cases row
  · intro other isSame
    rw [← Option.some.inj isSame]
    exact row

theorem OnRow.orElse (isFirst : OnRow entries first)
    (isSecond : ∀ id, second = some id → id ∈ entries.map (·.id)) :
    OnRow entries (first.or second) := by
  cases first with
  | some id => exact isFirst
  | none =>
    obtain rfl := isFirst.nowhere.mp rfl
    cases second with
    | none => exact isFirst
    | some id => cases isSecond id rfl

theorem mem_of_head {ids : List String} (rows : ∀ id ∈ ids, id ∈ entries.map (·.id)) (id : String)
    (isHead : ids.head? = some id) : id ∈ entries.map (·.id) :=
  rows id (mem_of_mem_head? isHead)

theorem row_away_on_row (someRow : pane.entries ≠ []) :
    OnRow pane.entries (pane.rowAway delta) := by
  have length : 0 < pane.entries.length := length_pos_iff.mpr someRow
  cases found : pane.rowAway delta with
  | some id => exact on_row_of_mem (row_away_shown found)
  | none =>
    exfalso
    rw [rowAway, Option.map_eq_none_iff,
      getElem?_eq_none_iff] at found
    omega

theorem boundary_row_on_row {boundary : CommanderPaneRuntimeState.Boundary}
    (someRow : pane.entries ≠ []) : OnRow pane.entries (pane.boundaryRow boundary) := by
  cases found : pane.boundaryRow boundary with
  | some id => exact on_row_of_mem (boundary_row_shown found)
  | none =>
    exfalso
    cases boundary with
    | start => exact someRow (head?_eq_none_iff.mp (Option.map_eq_none_iff.mp found))
    | finish => exact someRow (getLast?_eq_none_iff.mp (Option.map_eq_none_iff.mp found))

theorem move_pane_cursor_marks (delta : Int) : Marks pane (pane.movePaneCursor delta) := by
  refine ⟨move_pane_cursor_picks delta, ?_, ?_⟩
  · intro _ once
    unfold movePaneCursor
    split_ifs
    · exact once
    · exact once
  intro placed
  unfold movePaneCursor
  split_ifs with noRow
  · exact placed
  · have onRow : OnRow pane.entries (pane.rowAway delta) := row_away_on_row noRow
    exact ⟨placed.selected, onRow, onRow⟩

theorem set_cursor_to_boundary_marks (boundary : CommanderPaneRuntimeState.Boundary) :
    Marks pane (pane.setCursorToBoundary boundary) := by
  refine ⟨set_cursor_to_boundary_picks boundary, ?_, ?_⟩
  · intro _ once
    unfold setCursorToBoundary
    split_ifs
    · exact once
    · exact once
  intro placed
  unfold setCursorToBoundary
  split_ifs with noRow
  · exact placed
  · have onRow : OnRow pane.entries (pane.boundaryRow boundary) := boundary_row_on_row noRow
    exact ⟨placed.selected, onRow, onRow⟩

theorem selection_range_marks (targetEntryId : String) :
    Marks pane (pane.setSelectionRangeAtCursor targetEntryId) := by
  refine ⟨selection_range_picks targetEntryId, ?_, ?_⟩
  · intro nodup once
    unfold setSelectionRangeAtCursor
    split
    · exact once
    · exact nodup.sublist (((take_sublist _ _).trans (drop_sublist _ _)).map _)
  intro placed
  unfold setSelectionRangeAtCursor
  split
  · exact placed
  next targetIndex found =>
    rcases split_at_find_idx found with ⟨before, entry, after, whole, _, same⟩
    have isRow : targetEntryId ∈ pane.entries.map (·.id) := by
      rw [whole]
      simp [eq_of_beq same]
    refine ⟨?_, on_row_of_mem isRow, on_row_of_mem ?_⟩
    · intro id mem
      rcases mem_map.mp mem with ⟨picked, isPicked, rfl⟩
      exact mem_map_of_mem (mem_of_mem_drop (mem_of_mem_take isPicked))
    cases anchor : pane.selectionAnchorEntryId with
    | some id => exact placed.anchor.row id anchor
    | none =>
      cases cursor : pane.cursorEntryId with
      | some id => exact placed.cursor.row id cursor
      | none => exact isRow

theorem move_with_selection_marks (delta : Int) :
    Marks pane (pane.movePaneCursorWithSelection delta) := by
  unfold movePaneCursorWithSelection
  split
  · exact .refl pane
  · exact selection_range_marks _

theorem boundary_with_selection_marks (boundary : CommanderPaneRuntimeState.Boundary) :
    Marks pane (pane.setCursorToBoundaryWithSelection boundary) := by
  unfold setCursorToBoundaryWithSelection
  split
  · exact .refl pane
  · exact selection_range_marks _

theorem extend_or_move_marks (delta : Int) (extendSelection : Bool) :
    Marks pane (CommanderWidgetRuntimeState.extendOrMove pane delta extendSelection) := by
  unfold CommanderWidgetRuntimeState.extendOrMove
  split_ifs
  · exact move_with_selection_marks delta
  · exact move_pane_cursor_marks delta

theorem toggle_entry_marks (entryId : String) : Marks pane (pane.toggleEntrySelection entryId) := by
  refine ⟨toggle_entry_picks entryId, ?_, ?_⟩
  · intro _ once
    unfold toggleEntrySelection
    split_ifs with isRow isSelected
    · exact once.filter _
    · exact nodup_append.mpr ⟨once, nodup_singleton _, by
        rintro id mem other isNew rfl
        exact isSelected (mem_singleton.mp isNew ▸ mem)⟩
    · exact once
  intro placed
  unfold toggleEntrySelection
  split_ifs with isRow isSelected
  · refine ⟨?_, placed.cursor, on_row_of_mem (has_entry_iff.mp isRow)⟩
    intro id mem
    exact placed.selected id (mem_filter.mp mem).1
  · refine ⟨?_, placed.cursor, on_row_of_mem (has_entry_iff.mp isRow)⟩
    intro id mem
    rcases mem_append.mp mem with old | isNew
    · exact placed.selected id old
    · rw [mem_singleton.mp isNew]
      exact has_entry_iff.mp isRow
  · exact placed

theorem put_cursor_marks {entryId : String} (isRow : entryId ∈ pane.entries.map (·.id)) :
    Marks pane
      { pane with cursorEntryId := some entryId, selectionAnchorEntryId := some entryId } :=
  ⟨rfl, fun _ once => once,
    fun placed => ⟨placed.selected, on_row_of_mem isRow, on_row_of_mem isRow⟩⟩

theorem invert_selection_marks : Marks pane pane.invertPaneSelection := by
  refine ⟨rfl, ?_, ?_⟩
  · intro nodup _
    exact nodup.sublist (filter_sublist.map _)
  intro placed
  have selected : ∀ id ∈ pane.invertPaneSelection.selectedIds,
      id ∈ pane.entries.map (·.id) := by
    intro id mem
    exact (filter_sublist.map _).subset mem
  exact ⟨selected, placed.cursor, placed.cursor.orElse (mem_of_head selected)⟩

theorem apply_mask_marks (locale : Locale) (mask : String)
    (mode : CommanderPaneRuntimeState.MaskMode) :
    Marks pane (pane.applySelectionMaskToPane locale mask mode) := by
  refine ⟨rfl, ?_, ?_⟩
  · intro nodup once
    cases mode with
    | select => exact nodup.sublist (filter_sublist.map _)
    | unselect => exact once.filter _
  intro placed
  have selected : ∀ id ∈ (pane.applySelectionMaskToPane locale mask mode).selectedIds,
      id ∈ pane.entries.map (·.id) := by
    intro id mem
    cases mode with
    | select => exact (filter_sublist.map _).subset mem
    | unselect => exact placed.selected id (mem_filter.mp mem).1
  exact ⟨selected, placed.cursor,
    (placed.anchor.orElse placed.cursor.row).orElse (mem_of_head selected)⟩

end

/-- The entries of the listing that are shown, in order. A selection has a row once. -/
structure PaneStands (locale : Locale) (options : ProjectionOptions)
    (pane : CommanderPaneRuntimeState) : Prop where
  listing : (pane.directoryEntries.map (·.id)).Nodup
  entries : pane.entries.Perm
    (pane.directoryEntries.filter (IsShown locale options pane.filterQuery))
  ordered : pane.entries.Pairwise (InOrder locale options)
  once : pane.selectedIds.Nodup

section

variable {options : ProjectionOptions}

theorem PaneStands.distinct (stands : PaneStands locale options pane) :
    (pane.entries.map (·.id)).Nodup := by
  rw [(stands.entries.map _).nodup_iff]
  exact stands.listing.sublist (filter_sublist.map _)

theorem PaneStands.marks (stands : PaneStands locale options pane) (marks : Marks pane next) :
    PaneStands locale options next := by
  have once := marks.once stands.distinct stands.once
  have same := marks.picks
  refine ⟨?_, ?_, ?_, once⟩
  · rw [same]
    exact stands.listing
  · rw [same]
    exact stands.entries
  · rw [same]
    exact stands.ordered

theorem first_on_row (entries : List CommanderDirectoryEntry) :
    OnRow entries (entries.head?.map (·.id)) := by
  cases entries with
  | nil => exact ⟨⟨fun _ => rfl, fun _ => rfl⟩, fun _ impossible => by cases impossible⟩
  | cons entry rest => exact on_row_of_mem mem_cons_self

theorem OnRow.or {entries : List CommanderDirectoryEntry}
    (isFirst : ∀ id, first = some id → id ∈ entries.map (·.id)) (isSecond : OnRow entries second) :
    OnRow entries (first.or second) := by
  cases first with
  | none => exact isSecond
  | some id => exact on_row_of_mem (isFirst id rfl)

theorem rebuild_placed : Placed (pane.rebuild locale options) := by
  have visible : ∀ (choice : Option String) id,
      (choice.filter fun entryId =>
        (pane.rebuild locale options).entries.any (·.id == entryId)) = some id →
      id ∈ (pane.rebuild locale options).entries.map (·.id) := by
    intro choice id chosen
    have isVisible := (Option.filter_eq_some_iff.mp chosen).2
    exact has_entry_iff.mp isVisible
  have cursor : OnRow (pane.rebuild locale options).entries
      (pane.rebuild locale options).cursorEntryId :=
    OnRow.or (visible _) (first_on_row _)
  refine ⟨?_, cursor, OnRow.or (visible _) cursor⟩
  intro id mem
  exact has_entry_iff.mp (mem_filter.mp mem).2

end

section

open CommanderWidgetRuntimeState

variable {rowsOf : CommanderWidgetRuntimeState}

theorem update_pane_marks {updater : CommanderPaneRuntimeState → CommanderPaneRuntimeState}
    (marks : ∀ pane, Marks pane (updater pane)) (updated paneId : CommanderPaneId) :
    (rowsOf.updatePaneState updated updater).options = rowsOf.options ∧
    Marks (rowsOf.getPaneState paneId)
      ((rowsOf.updatePaneState updated updater).getPaneState paneId) := by
  cases updated with
  | left =>
    cases paneId with
    | left => exact ⟨rfl, marks _⟩
    | right => exact ⟨rfl, .refl _⟩
  | right =>
    cases paneId with
    | left => exact ⟨rfl, .refl _⟩
    | right => exact ⟨rfl, marks _⟩

theorem handle_pane (event : WidgetEvent) (paneId : CommanderPaneId) :
    ((rowsOf.handle locale event).options = rowsOf.options ∧
      Marks (rowsOf.getPaneState paneId) ((rowsOf.handle locale event).getPaneState paneId)) ∨
    ∃ filterQuery,
      (rowsOf.handle locale event).getPaneState paneId =
        { rowsOf.getPaneState paneId with filterQuery := filterQuery }.rebuild locale
          (rowsOf.handle locale event).options := by
  have projected : ∀ options, ∃ filterQuery,
      (rowsOf.project locale options).getPaneState paneId =
        { rowsOf.getPaneState paneId with filterQuery := filterQuery }.rebuild locale options := by
    intro options
    cases paneId with
    | left | right => exact ⟨_, rfl⟩
  -- The active pane does not matter to what the panes are.
  have focused : ∀ active, Marks (rowsOf.getPaneState paneId)
      ({ rowsOf with activePane := active }.getPaneState paneId) := by
    intro active
    cases paneId with
    | left | right => exact .refl _
  have updated : ∀ {updater : CommanderPaneRuntimeState → CommanderPaneRuntimeState} {active},
      (∀ pane, Marks pane (updater pane)) →
      ({ rowsOf with activePane := active }.updatePaneState active updater).options =
          rowsOf.options ∧
        Marks (rowsOf.getPaneState paneId)
          (({ rowsOf with activePane := active }.updatePaneState active updater).getPaneState
            paneId) := by
    intro updater active marks
    rcases @update_pane_marks { rowsOf with activePane := active } _ marks active paneId with
      ⟨sameOptions, moved⟩
    exact ⟨sameOptions, (focused active).trans moved⟩
  cases event with
  | setActivePane active => exact Or.inl ⟨rfl, focused active⟩
  | switchActivePane => exact Or.inl ⟨rfl, focused _⟩
  | setPaneCursor active entryId rangeSelect =>
    apply Or.inl
    apply updated
    intro pane
    split_ifs with isRow ranges
    · exact selection_range_marks entryId
    · exact put_cursor_marks (has_entry_iff.mp isRow)
    · exact .refl pane
  | movePaneCursor active delta extendSelection =>
    exact Or.inl (updated fun _ => extend_or_move_marks delta extendSelection)
  | moveActivePaneCursor delta extendSelection =>
    exact Or.inl (update_pane_marks (fun _ => extend_or_move_marks delta extendSelection) _ _)
  | setPaneBoundaryCursor active boundary extendSelection =>
    apply Or.inl
    apply updated
    intro pane
    split_ifs
    · exact boundary_with_selection_marks boundary
    · exact set_cursor_to_boundary_marks boundary
  | togglePaneSelection active entryId =>
    exact Or.inl (updated fun _ => toggle_entry_marks entryId)
  | toggleActivePaneSelection advance =>
    apply Or.inl
    simp only [handle]
    split
    · exact ⟨rfl, .refl _⟩
    next entryId _ =>
      apply update_pane_marks
      intro pane
      split_ifs
      · exact (toggle_entry_marks entryId).trans (move_pane_cursor_marks 1)
      · exact toggle_entry_marks entryId
  | confirmMask masked inputValue mode =>
    exact Or.inl (update_pane_marks (fun _ => apply_mask_marks locale _ mode) _ _)
  | invertActivePaneSelection =>
    exact Or.inl (update_pane_marks (fun _ => invert_selection_marks) _ _)
  | setSortMode | toggleShowHidden | toggleDirsFirst => exact Or.inr (projected _)
  | setPaneFilterQuery filtered filterQuery =>
    cases filtered with
    | left =>
      cases paneId with
      | left => exact Or.inr ⟨filterQuery, rfl⟩
      | right => exact Or.inl ⟨rfl, .refl _⟩
    | right =>
      cases paneId with
      | left => exact Or.inl ⟨rfl, .refl _⟩
      | right => exact Or.inr ⟨filterQuery, rfl⟩

end

def StoreEvent.distinct : StoreEvent → Bool
  | .hydratePaneDirectory payload =>
    decide (payload.directoryEntries.map (·.id)).Nodup &&
      decide (payload.selectedIds.orElse []).Nodup
  | _ => true

def StoreEvent.loads (event : StoreEvent) (paneId : CommanderPaneId) : Bool :=
  match event.news paneId with
  | some .hydrated | some (.failed _) => true
  | _ => false

variable {host : HostLocale}

section

variable {widget : CommanderWidget} {inputValue : String} {matchIndex : Option Int}

theorem search_matches_rows {query : String}
    (isMatch : id ∈ (getCommanderSearchMatches host pane query).map (·.id)) :
    id ∈ pane.entries.map (·.id) := by
  unfold getCommanderSearchMatches at isMatch
  dsimp only at isMatch
  split_ifs at isMatch with empty
  · cases isMatch
  · exact (filter_sublist.map _).subset isMatch

theorem truthy_mem {ids : List String} {index : Nat} (isMatch : truthy ids[index]? = some id) :
    id ∈ ids :=
  mem_of_getElem? (Option.filter_eq_some_iff.mp isMatch).1

theorem go_to_match_marks {found : Option String}
    (isRow : ∀ id, found = some id → id ∈ pane.entries.map (·.id)) :
    Marks pane (pane.goToMatch found) := by
  cases found with
  | none => exact .refl pane
  | some id => exact put_cursor_marks (isRow id rfl)

theorem confirmed_match_row (found : confirmedMatch host pane inputValue matchIndex = some id) :
    id ∈ pane.entries.map (·.id) := by
  unfold confirmedMatch at found
  dsimp only at found
  split_ifs at found
  exact search_matches_rows (truthy_mem found)

theorem stepped_match_row (found : steppedMatch host pane inputValue matchIndex delta = some id) :
    id ∈ pane.entries.map (·.id) := by
  unfold steppedMatch at found
  dsimp only at found
  split_ifs at found
  exact search_matches_rows (truthy_mem found)

theorem reduce_pane {event : StoreEvent} (nodup : event.distinct = true)
    (paneId : CommanderPaneId) :
    let pane := (widget.getPane paneId).rows
    let next := ((widget.reduce host event).getPane paneId).rows
    (event.loads paneId = false ∧ (widget.reduce host event).options = widget.options ∧
        Marks pane next) ∨
      ∃ base : CommanderPaneRuntimeState,
        next = base.rebuild host.toLocale (widget.reduce host event).options ∧
        ((pane.directoryEntries.map (·.id)).Nodup → pane.selectedIds.Nodup →
          (base.directoryEntries.map (·.id)).Nodup ∧ base.selectedIds.Nodup) := by
  have rows : ∀ event : WidgetEvent,
      let pane := (widget.getPane paneId).rows
      let next := ((widget.handleRows host.toLocale event).getPane paneId).rows
      ((widget.handleRows host.toLocale event).options = widget.options ∧ Marks pane next) ∨
        ∃ base : CommanderPaneRuntimeState,
          next = base.rebuild host.toLocale (widget.handleRows host.toLocale event).options ∧
          ((pane.directoryEntries.map (·.id)).Nodup → pane.selectedIds.Nodup →
            (base.directoryEntries.map (·.id)).Nodup ∧ base.selectedIds.Nodup) := by
    intro event
    rw [get_pane_rows, get_pane_rows]
    rcases @handle_pane host.toLocale widget.toCommanderWidgetRuntimeState event paneId with
      marked | ⟨filterQuery, rebuilt⟩
    · exact Or.inl marked
    · exact Or.inr ⟨_, rebuilt, fun listing once => ⟨listing, once⟩⟩
  have onRows : ∀ {updated : CommanderPaneId}
      {updater : CommanderPaneRuntimeState → CommanderPaneRuntimeState},
      Marks (widget.getPane updated).rows (updater (widget.getPane updated).rows) →
      (widget.updateRows updated updater).options = widget.options ∧
        Marks (widget.getPane paneId).rows
          ((widget.updateRows updated updater).getPane paneId).rows := by
    intro updated updater marks
    cases updated with
    | left =>
      cases paneId with
      | left => exact ⟨rfl, marks⟩
      | right => exact ⟨rfl, .refl _⟩
    | right =>
      cases paneId with
      | left => exact ⟨rfl, .refl _⟩
      | right => exact ⟨rfl, marks⟩
  have sameRows : Marks (widget.getPane paneId).rows (widget.getPane paneId).rows := .refl _
  cases event with
  | rows event => exact (rows event).imp (fun marked => ⟨rfl, marked⟩) id
  | setViewMode viewMode =>
    cases paneId with
    | left | right => exact Or.inl ⟨rfl, rfl, sameRows⟩
  | setPaneLoading loading =>
    cases loading with
    | left | right => cases paneId <;> exact Or.inl ⟨rfl, rfl, sameRows⟩
  | setPaneLoadError failing path errorMessage =>
    by_cases own : failing = paneId
    · subst own
      refine Or.inr ⟨(failedPane path errorMessage
        (widget.getPane failing)).rows, ?_, ?_⟩
      · cases failing with
        | left | right => rfl
      intro listing once
      unfold failedPane
      dsimp only
      split_ifs
      · exact ⟨nodup_nil, nodup_nil⟩
      · exact ⟨listing, once⟩
    · apply Or.inl
      refine ⟨by simp [StoreEvent.loads, StoreEvent.news, own], ?_⟩
      cases failing with
      | left =>
        cases paneId with
        | left => exact absurd rfl own
        | right => exact ⟨rfl, sameRows⟩
      | right =>
        cases paneId with
        | left => exact ⟨rfl, sameRows⟩
        | right => exact absurd rfl own
  | hydratePaneDirectory payload =>
    by_cases own : payload.paneId = paneId
    · subst own
      refine Or.inr ⟨(hydratedPane payload
        (widget.getPane payload.paneId)).rows, ?_, ?_⟩
      · obtain ⟨loaded, _⟩ := payload
        cases loaded with
        | left | right => rfl
      intro _ once
      rcases Bool.and_eq_true_iff.mp nodup with ⟨listing, given⟩
      refine ⟨of_decide_eq_true listing, ?_⟩
      unfold hydratedPane
      dsimp only
      split_ifs
      · exact of_decide_eq_true given
      · exact nodup_nil
      · exact once
    · apply Or.inl
      refine ⟨by simp [StoreEvent.loads, StoreEvent.news, own], ?_⟩
      obtain ⟨loaded, _⟩ := payload
      cases loaded with
      | left =>
        cases paneId with
        | left => exact absurd rfl own
        | right => exact ⟨rfl, sameRows⟩
      | right =>
        cases paneId with
        | left => exact ⟨rfl, sameRows⟩
        | right => exact absurd rfl own
  | confirmFilter | clearActivePaneFilter => exact (rows _).imp (fun marked => ⟨rfl, marked⟩) id
  | confirmSearch searched inputValue matchIndex =>
    exact Or.inl ⟨rfl, onRows (go_to_match_marks fun _ => confirmed_match_row)⟩
  | stepSearchMatch searched inputValue matchIndex delta =>
    exact Or.inl ⟨rfl, onRows (go_to_match_marks fun _ => stepped_match_row)⟩

end

/-- A widget, and which of its panes have been loaded, or should have been. -/
structure Opened where
  widget : CommanderWidget
  loaded : CommanderPaneId → Bool

def Opened.step (host : HostLocale) (s : Opened) (event : StoreEvent) : Option Opened :=
  some
    { widget := s.widget.reduce host event
      loaded := fun paneId => event.loads paneId || s.loaded paneId }

structure Opened.New (s : Opened) : Prop where
  mounted : Mounted s.widget
  unloaded : ∀ paneId, s.loaded paneId = false

structure Opened.Unloaded (s : Opened) : Prop extends s.New where
  once : ∀ paneId, (s.widget.getPane paneId).rows.selectedIds.Nodup

def Opened.InOrder (locale : Locale) (s : Opened) : Prop :=
  ∀ paneId, PaneStands locale s.widget.options (s.widget.getPane paneId).rows ∧
    (s.loaded paneId = true → Placed (s.widget.getPane paneId).rows)

section

variable {s next : Opened}

theorem unloaded_in_order (unloaded : s.Unloaded) : s.InOrder host.toLocale := by
  intro paneId
  have empty : (s.widget.getPane paneId).rows.directoryEntries = [] ∧
      (s.widget.getPane paneId).rows.entries = [] := by
    rcases unloaded.mounted with ⟨persisted, isWidget⟩
    rw [isWidget]
    cases persisted with
    | none | some =>
      cases paneId with
      | left | right => exact ⟨rfl, rfl⟩
  refine ⟨⟨?_, ?_, ?_, unloaded.once paneId⟩, ?_⟩
  · rw [empty.1]
    exact nodup_nil
  · rw [empty.1, empty.2]
    exact List.Perm.refl _
  · rw [empty.2]
    exact List.Pairwise.nil
  · intro loaded
    rw [unloaded.unloaded paneId] at loaded
    cases loaded

theorem step_in_order (ordered : Consistent host.localeCompare) {event : StoreEvent}
    (inOrder : s.InOrder host.toLocale) (nodup : event.distinct = true) :
    (Opened.InOrder host.toLocale
      { widget := s.widget.reduce host event
        loaded := fun paneId => event.loads paneId || s.loaded paneId }) := by
  intro paneId
  rcases inOrder paneId with ⟨stands, placed⟩
  rcases @reduce_pane host s.widget _ nodup paneId with
    ⟨unloaded, sameOptions, marks⟩ | ⟨base, rebuilt, sound⟩
  · dsimp only
    rw [sameOptions, unloaded]
    exact ⟨stands.marks marks, fun loaded => marks.placed (placed loaded)⟩
  · rcases sound stands.listing stands.once with ⟨listing, once⟩
    rw [rebuilt]
    exact ⟨⟨listing, project_entries_perm _ _ _, project_entries_ordered ordered _ _ _,
      once.filter _⟩, fun _ => rebuild_placed⟩

/-- From the first load of a pane on, or the report that it has failed: it shows the visible entries
that match its filter, in order; its selection has rows, each once; cursor and anchor are on rows,
or nowhere if there are none. -/
theorem pane_in_order_from_first_load (ordered : Consistent host.localeCompare)
    (reachable : Reachable Opened.Unloaded
      (guarded (fun _ event => event.distinct) (Opened.step host)) s)
    {paneId : CommanderPaneId} (loaded : s.loaded paneId = true) :
    let pane := (s.widget.getPane paneId).rows
    pane.entries.Perm (pane.directoryEntries.filter
        (IsShown host.toLocale s.widget.options pane.filterQuery)) ∧
      pane.entries.Pairwise (InOrder host.toLocale s.widget.options) ∧
      pane.selectedIds.Nodup ∧ (∀ id ∈ pane.selectedIds, id ∈ pane.entries.map (·.id)) ∧
      OnRow pane.entries pane.cursorEntryId ∧
      OnRow pane.entries pane.selectionAnchorEntryId := by
  have inOrder : s.InOrder host.toLocale := by
    apply reachable.invariant
    · exact unloaded_in_order
    intro before event after inOrder taken
    rcases guarded_eq_some.mp taken with ⟨nodup, stepped⟩
    cases stepped
    exact step_in_order ordered inOrder nodup
  rcases inOrder paneId with ⟨stands, placed⟩
  have marks := placed loaded
  exact ⟨stands.entries, stands.ordered, stands.once, marks.selected, marks.cursor, marks.anchor⟩

end

theorem plain_host_consistent : Consistent plainHost.localeCompare :=
  .ofOrder

def selectedState (selectedIds : List String) : CommanderWidgetPersistedState where
  activePane := .left
  viewMode := .commander
  options := defaultOptions
  leftPane :=
    { path := "/b"
      filterQuery := ""
      cursorEntryId := none
      selectionAnchorEntryId := none
      selectedIds := selectedIds
      historyBack := []
      historyForward := [] }
  rightPane :=
    { path := "/b"
      filterQuery := ""
      cursorEntryId := none
      selectionAnchorEntryId := none
      selectedIds := []
      historyBack := []
      historyForward := [] }

def selectedWidget (selectedIds : List String) : Opened where
  widget := createCommanderWidgetRuntimeState (some (selectedState selectedIds))
  loaded := fun _ => false

def twoFilesLoaded : StoreEvent :=
  .hydratePaneDirectory
    { paneId := .left
      path := "/b"
      directoryEntries := [{ id := "/b::y", name := "y" }, { id := "/b::x", name := "x" }] }

theorem pane_in_order_from_first_load_here : ∃ s, Reachable Opened.Unloaded (guarded (fun _ event =>
    event.distinct) (Opened.step plainHost)) s ∧ ∃ id, (s.widget.getPane .left).rows.cursorEntryId =
    some id ∧ id ∈ (s.widget.getPane .left).rows.entries.map (·.id) := by
  have unloaded : (selectedWidget ["/b::x"]).Unloaded := by
    refine ⟨⟨⟨some (selectedState ["/b::x"]), rfl⟩, fun _ => rfl⟩, ?_⟩
    intro paneId
    cases paneId with
    | left => exact nodup_singleton _
    | right => exact nodup_nil
  have tested : (runActions (guarded (fun _ event => event.distinct) (Opened.step plainHost))
      (selectedWidget ["/b::x"]) [twoFilesLoaded]).map
        (fun s => s.loaded .left && !(s.widget.getPane .left).rows.entries.isEmpty) =
      some true := by decide +kernel
  rcases reachable_of_run unloaded tested with ⟨s, reachable, tested⟩
  rcases Bool.and_eq_true_iff.mp tested with ⟨loaded, someRow⟩
  have cursor := (pane_in_order_from_first_load plain_host_consistent reachable loaded).2.2.2.2.1
  refine ⟨s, reachable, ?_⟩
  cases onRow : (s.widget.getPane .left).rows.cursorEntryId with
  | some id => exact ⟨id, rfl, cursor.row id onRow⟩
  | none =>
    rw [cursor.nowhere.mp onRow] at someRow
    cases someRow

/-- A stored selection with a row twice, and a first load that gives no selection. -/
theorem stored_selection_is_taken_over : ¬ ∀ (host : HostLocale), Consistent host.localeCompare →
    ∀ (s : Opened) (paneId : CommanderPaneId),
    Reachable Opened.New (guarded (fun _ event => event.distinct) (Opened.step host)) s →
    s.loaded paneId = true → (s.widget.getPane paneId).rows.selectedIds.Nodup := by
  intro claimed
  have mounted : (selectedWidget ["/b::x", "/b::x"]).New :=
    ⟨⟨some (selectedState ["/b::x", "/b::x"]), rfl⟩, fun _ => rfl⟩
  have tested : (runActions (guarded (fun _ event => event.distinct) (Opened.step plainHost))
      (selectedWidget ["/b::x", "/b::x"]) [twoFilesLoaded]).map
        (fun s => s.loaded .left &&
          (s.widget.getPane .left).rows.selectedIds == ["/b::x", "/b::x"]) =
      some true := by decide +kernel
  rcases reachable_of_run mounted tested with ⟨s, reachable, tested⟩
  rcases Bool.and_eq_true_iff.mp tested with ⟨loaded, twice⟩
  have once := claimed plainHost plain_host_consistent s .left reachable loaded
  rw [eq_of_beq twice] at once
  exact absurd once (by decide)

end RuneTerminal.Commander
