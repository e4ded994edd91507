import RuneTerminal.Workspace.ServiceRuns

/-! No method touches the texts of the workspace. On a well-formed snapshot `normalizeSnapshot` only
trims the id, the name, the icon and the colour. -/

namespace RuneTerminal.Workspace

open Go.Strings Kit List Action

def Snapshot.header (s : Snapshot) : String × String × String × String :=
  (s.id, s.name, s.icon, s.color)

theorem activate_neighbour_header (remaining : List Tab) (index : Nat) (widgetOf : Tab → String)
    (s : Snapshot) : (Snapshot.activateNeighbour remaining index widgetOf s).header = s.header := by
  unfold Snapshot.activateNeighbour
  split
  · rfl
  · rfl

theorem update_tab_header (id : String) (change : Tab → Tab) (s : Snapshot) :
    (s.updateTab id change).2.header = s.header := by
  unfold Snapshot.updateTab
  split
  · rfl
  · split
    · rfl
    · rfl

theorem close_tab_header (id : String) (s : Snapshot) : (s.closeTab id).2.header = s.header := by
  unfold Snapshot.closeTab
  dsimp only
  repeat' split
  all_goals first
    | exact activate_neighbour_header _ _ _ _
    | rfl

theorem close_widget_header (id : String) (s : Snapshot) :
    (s.closeWidget id).2.header = s.header := by
  unfold Snapshot.closeWidget
  dsimp only
  repeat' split
  all_goals first
    | exact activate_neighbour_header _ _ _ _
    | rfl

theorem locked_header (layout : Layout) (s : Snapshot) :
    (s.applyLayoutLocked layout).header = s.header := by
  rfl

theorem Action.perform_header (action : Action) (s : Snapshot) :
    (action.perform s).2.header = s.header := by
  cases action with
  | focusWidget widgetID =>
    simp only [perform]
    unfold Snapshot.focusWidget
    repeat' split
    all_goals rfl
  | focusTab id =>
    simp only [perform]
    unfold Snapshot.focusTab
    repeat' split
    all_goals rfl
  | addTerminalTab tab widget => rfl
  | splitTabWithWidget id targetWidgetID widget direction =>
    simp only [perform]
    unfold Snapshot.splitTabWithWidget
    dsimp only
    repeat' split
    all_goals rfl
  | moveWidgetBySplit id widgetID targetWidgetID direction =>
    simp only [perform]
    unfold Snapshot.moveWidgetBySplit
    dsimp only
    repeat' split
    all_goals rfl
  | closeTab id =>
    simp only [perform, discard_snd, close_tab_header]
  | closeWidget widgetID =>
    simp only [perform, discard_snd, close_widget_header]
  | renameTab id title =>
    simp only [perform, discard_snd]
    unfold Snapshot.renameTab
    dsimp only
    split
    · rfl
    · exact update_tab_header _ _ _
  | setTabPinned id pinned =>
    simp only [perform, discard_snd]
    exact update_tab_header _ _ _
  | moveTab id beforeTabID =>
    simp only [perform]
    unfold Snapshot.moveTab
    repeat' split
    all_goals rfl
  | updateLayout | saveLayout => exact locked_header _ s
  | switchLayout layoutID =>
    simp only [perform]
    unfold Snapshot.switchLayout
    dsimp only
    split
    · exact locked_header _ s
    · rfl

def WritesOnSuccess {Value : Type} (outcome : Outcome Value) (s : Snapshot) : Prop :=
  ∀ err, outcome.1 = .error err → outcome.2 = s

@[simp]
theorem writes_on_success_error {Value : Type} (err : WorkspaceError) (s : Snapshot) :
    WritesOnSuccess ((.error err, s) : Outcome Value) s :=
  fun _ _ => rfl

@[simp]
theorem writes_on_success_ok {Value : Type} (value : Value) (s next : Snapshot) :
    WritesOnSuccess ((.ok value, next) : Outcome Value) s := by
  intro err failed
  cases failed

variable {s : Snapshot} {err : WorkspaceError} {layouts : List Layout} {tabs : List Tab} {tab : Tab}
  {id : String} {widgets : List Widget} {widgetIDs : List String}

theorem discard_error {Value : Type} {outcome : Outcome Value} (writes : WritesOnSuccess outcome s)
    (failed : outcome.discard.1 = some err) : outcome.discard.2 = s := by
  obtain ⟨result, next⟩ := outcome
  cases result with
  | ok value => cases failed
  | error other => exact writes other rfl

theorem update_tab_error (id : String) (change : Tab → Tab) (s : Snapshot) :
    WritesOnSuccess (s.updateTab id change) s := by
  unfold Snapshot.updateTab
  repeat' split
  all_goals simp

theorem Action.perform_error {action : Action} (failed : (action.perform s).1 = some err) :
    (action.perform s).2 = s := by
  cases action with
  | focusWidget widgetID =>
    apply discard_error _ failed
    unfold Snapshot.focusWidget
    repeat' split
    all_goals simp
  | focusTab id =>
    apply discard_error _ failed
    unfold Snapshot.focusTab
    repeat' split
    all_goals simp
  | addTerminalTab | updateLayout | saveLayout => cases failed
  | splitTabWithWidget id targetWidgetID widget direction =>
    apply discard_error _ failed
    unfold Snapshot.splitTabWithWidget
    dsimp only
    repeat' split
    all_goals simp
  | moveWidgetBySplit id widgetID targetWidgetID direction =>
    apply discard_error _ failed
    unfold Snapshot.moveWidgetBySplit
    dsimp only
    repeat' split
    all_goals simp
  | closeTab id =>
    apply discard_error _ failed
    unfold Snapshot.closeTab
    repeat' split
    all_goals simp
  | closeWidget widgetID =>
    apply discard_error _ failed
    unfold Snapshot.closeWidget
    dsimp only
    repeat' split
    all_goals simp
  | renameTab id title =>
    apply discard_error _ failed
    unfold Snapshot.renameTab
    dsimp only
    split
    · exact writes_on_success_error _ _
    · exact update_tab_error _ _ _
  | setTabPinned id pinned => exact discard_error (update_tab_error _ _ _) failed
  | moveTab id beforeTabID =>
    apply discard_error _ failed
    unfold Snapshot.moveTab
    repeat' split
    all_goals simp
  | switchLayout layoutID =>
    apply discard_error _ failed
    unfold Snapshot.switchLayout
    dsimp only
    repeat' split
    all_goals simp

theorem normalize_surfaces_identity {surfaces : List LayoutSurface}
    (valid : ∀ surface ∈ surfaces, surface.id ≠ .other "" ∧ surface.region.known)
    (nodup : (surfaces.map LayoutSurface.id).Nodup) : normalizeSurfaces surfaces = surfaces := by
  apply foldl_collects_all LayoutSurface.id _ nodup
  intro kept surface mem fresh
  obtain ⟨named, region⟩ := valid surface mem
  have notKept : ¬layoutSurfaceExists kept surface.id = true := by
    rwa [surface_exists_iff]
  rw [if_neg named, if_neg (by simp [region]), if_neg notKept]

theorem normalize_layout_identity {layout : Layout} (normal : LayoutNormal layout)
    (fallback : Layout) : normalizeLayout layout fallback = layout := by
  have surfaces : completeSurfaces (normalizeSurfaces layout.surfaces) fallback =
      layout.surfaces := by
    rw [normalize_surfaces_identity normal.validSurfaces normal.distinctSurfaces]
    have terminal := surface_exists_iff.mpr normal.terminalSurface
    have nonempty : layout.surfaces.isEmpty = false := by
      cases shown : layout.surfaces with
      | nil =>
        rw [shown] at terminal
        cases terminal
      | cons _ _ => rfl
    unfold completeSurfaces
    simp only [nonempty, Bool.false_eq_true, if_false, terminal, if_true]
  have active : ¬(layout.activeSurfaceID = .other "" ∨
      (!layoutSurfaceExists layout.surfaces layout.activeSurfaceID) = true) := by
    have shown := surface_exists_iff.mpr normal.activeSurface
    obtain ⟨surface, mem, same⟩ := mem_map.mp normal.activeSurface
    rintro (unset | missing)
    · exact (normal.validSurfaces surface mem).1 (same.trans unset)
    · rw [shown] at missing
      cases missing
  unfold normalizeLayout
  simp only [surfaces]
  rw [if_neg (by rw [normal.cleanID.1]; exact normal.cleanID.2), normal.cleanID.1,
    if_pos normal.knownMode, if_neg active]

theorem layout_exists_iff {layoutID : String} :
    layoutExists layouts layoutID = true ↔ layoutID ∈ layouts.map Layout.id := by
  simp [layoutExists]

section

variable {layout : Layout} {activeLayoutID : String}

theorem normalize_layouts_identity (inv : LayoutsConsistent layout layouts activeLayoutID)
    (fallbackLayouts : List Layout) (fallback : Layout) :
    normalizeLayouts layouts layout fallbackLayouts fallback = layouts := by
  have nonempty : layouts.isEmpty = false := by
    cases listed : layouts with
    | nil => simpa [listed] using inv.listed
    | cons _ _ => rfl
  have collected : layouts.foldl (fun normalized layout =>
      let next := normalizeLayout layout (fallbackLayoutFor fallbackLayouts fallback layout.id)
      if next.id = "" then normalized
      else if layoutExists normalized next.id then normalized
      else normalized ++ [next]) [] = layouts := by
    apply foldl_collects_all Layout.id _ inv.distinctIDs
    intro kept entry mem fresh
    have normal := inv.normal entry mem
    have notKept : ¬layoutExists kept entry.id = true := by
      rwa [layout_exists_iff]
    simp only [normalize_layout_identity normal]
    rw [if_neg normal.cleanID.2, if_neg notKept]
  have listed : layoutExists layouts layout.id = true :=
    layout_exists_iff.mpr (mem_map.mpr ⟨layout, inv.listed, rfl⟩)
  unfold normalizeLayouts
  simp only [nonempty, Bool.false_eq_true, if_false, collected, listed, if_true]

theorem find_current_layout (inv : LayoutsConsistent layout layouts activeLayoutID) :
    findLayout layouts layout.id = some layout :=
  find_by_key Layout.id inv.distinctIDs inv.listed

end

theorem layouts_identity (formed : WellFormed s) (fallback : Snapshot) :
    normalizeSnapshotLayouts s fallback = ⟨s.layout, s.layouts, s.activeLayoutID⟩ := by
  have consistent := formed.layouts
  have normal := consistent.normal s.layout consistent.listed
  have listed : layoutExists s.layouts s.layout.id = true :=
    layout_exists_iff.mpr (mem_map.mpr ⟨s.layout, consistent.listed, rfl⟩)
  unfold normalizeSnapshotLayouts
  simp only [normalize_layout_identity normal, normalize_layouts_identity consistent,
    consistent.active, normal.cleanID.1, listed, normal.cleanID.2, Bool.not_true,
    Bool.false_eq_true, or_self, if_false, find_current_layout consistent]

namespace TabsConsistent

theorem clean_widget_id (inv : TabsConsistent tabs widgetIDs) {widgetID : String}
    (mem : widgetID ∈ widgetIDs) : CleanID widgetID := by
  obtain ⟨tab, tabMember, shown⟩ := mem_flatMap.mp (inv.partition.mem_iff.mpr mem)
  exact (inv.panes tab tabMember).clean_widget shown

theorem shown_widget_id (inv : TabsConsistent tabs widgetIDs) (mem : tab ∈ tabs)
    (shown : id ∈ tab.widgetIDs) : id ∈ widgetIDs :=
  inv.partition.mem_iff.mp (mem_flatMap.mpr ⟨tab, mem, shown⟩)

end TabsConsistent

theorem known_widget_ids_clean (clean : ∀ id ∈ widgets.map Widget.id, CleanID id) :
    knownWidgetIDs widgets = widgets.map Widget.id := by
  have trimmed : (widgets.map fun widget => trimSpace widget.id) = widgets.map Widget.id := by
    apply map_congr_left
    intro widget mem
    exact (clean widget.id (mem_map.mpr ⟨widget, mem, rfl⟩)).1
  unfold knownWidgetIDs
  rw [trimmed, filter_eq_self]
  intro id mem
  simpa using (clean id mem).2

theorem filter_widget_ids_identity {known : List String} (nodup : widgetIDs.Nodup)
    (clean : ∀ widgetID ∈ widgetIDs, CleanID widgetID)
    (isKnown : ∀ widgetID ∈ widgetIDs, widgetID ∈ known) :
    filterWidgetIDs known widgetIDs = widgetIDs := by
  apply foldl_collects_all id
  · intro kept widgetID mem fresh
    rw [map_id, id_eq] at fresh
    have trimmed := (clean widgetID mem).1
    have nonblank := (clean widgetID mem).2
    simp only [trimmed]
    rw [if_neg nonblank, if_neg fresh, if_neg (not_not.mpr (isKnown widgetID mem))]
  · rw [map_id]
    exact nodup

theorem normalize_tab_identity (inv : TabsConsistent tabs widgetIDs) (mem : tab ∈ tabs) :
    normalizeTab widgetIDs tab = some tab := by
  have shows := inv.panes tab mem
  have clean := inv.cleanIDs tab mem
  have sameWidgets : filterWidgetIDs widgetIDs tab.widgetIDs = tab.widgetIDs :=
    filter_widget_ids_identity shows.widget_ids_nodup (fun _ => shows.clean_widget)
      (fun _ => inv.shown_widget_id mem)
  have nonempty : tab.widgetIDs.isEmpty = false := by
    rw [isEmpty_eq_false_iff]
    exact shows.widget_ids_nonempty
  unfold normalizeTab
  simp only [clean.1, clean.2, sameWidgets, nonempty, Bool.false_eq_true, if_false]

theorem widget_exists_iff : widgetExists widgets id = true ↔ id ∈ widgets.map Widget.id := by
  simp [widgetExists]

theorem referenced_widgets_identity {referenced : List String}
    (nodup : (widgets.map Widget.id).Nodup)
    (isReferenced : ∀ id ∈ widgets.map Widget.id, id ∈ referenced) :
    referencedWidgets referenced widgets = widgets := by
  apply foldl_collects_all Widget.id _ nodup
  intro kept widget mem fresh
  have notKept : ¬widgetExists kept widget.id = true := by
    rwa [widget_exists_iff]
  have wanted := isReferenced widget.id (mem_map.mpr ⟨widget, mem, rfl⟩)
  rw [if_neg (not_not.mpr wanted), if_neg notKept]

theorem normalize_tab_window_identity (inv : TabsConsistent tabs widgetIDs)
    (activeTabID activeWidgetID : String) :
    tabs.map (normalizeTabWindow activeTabID activeWidgetID) = tabs := by
  conv_rhs => rw [← map_id tabs]
  apply map_congr_left
  intro tab mem
  unfold normalizeTabWindow
  dsimp only
  rw [(inv.panes tab mem).normalize_window_layout]
  rfl

def trimHeader (s fallback : Snapshot) : Snapshot :=
  { s with
    id := if trimSpace s.id = "" then fallback.id else trimSpace s.id
    name := if trimSpace s.name = "" then fallback.name else trimSpace s.name
    icon := trimSpace s.icon
    color := trimSpace s.color }

theorem WellFormed.no_widgets (formed : WellFormed s) (noTabs : s.tabs = []) : s.widgets = [] := by
  have partition := formed.tabs.partition
  rw [noTabs] at partition
  exact map_eq_nil_iff.mp partition.nil_eq.symm

theorem normalize_snapshot_well_formed (formed : WellFormed s) (fallback : Snapshot) :
    normalizeSnapshot s fallback = trimHeader s fallback := by
  have consistent := formed.tabs
  have sameTabs : s.tabs.filterMap (normalizeTab (knownWidgetIDs s.widgets)) = s.tabs := by
    rw [known_widget_ids_clean fun _ => consistent.clean_widget_id]
    rw [filterMap_congr fun _ => normalize_tab_identity consistent, filterMap_some]
  unfold normalizeSnapshot
  simp only [sameTabs, layouts_identity formed]
  rcases formed.focus with ⟨noTabs, noTab, noWidget⟩ | ⟨tab, mem, sameID, shown⟩
  · have noWidgets := formed.no_widgets noTabs
    simp only [noTabs, isEmpty_nil, if_true]
    unfold trimHeader
    rw [noTabs, noTab, noWidgets, noWidget]
  have sameWidgets : referencedWidgets (s.tabs.flatMap Tab.widgetIDs) s.widgets = s.widgets :=
    referenced_widgets_identity consistent.distinctWidgets
      fun _ => consistent.partition.mem_iff.mpr
  have shownWidget := consistent.shown_widget_id mem shown
  have widgets : s.widgets.isEmpty = false := by
    rw [isEmpty_eq_false_iff]
    rintro noWidgets
    rw [noWidgets] at shownWidget
    cases shownWidget
  have cleanTab : CleanID s.activeTabID := sameID ▸ consistent.cleanIDs tab mem
  have cleanWidget : CleanID s.activeWidgetID := consistent.clean_widget_id shownWidget
  have tabListed : tabExists s.tabs s.activeTabID = true := by
    unfold tabExists
    rw [any_eq_true]
    exact ⟨tab, mem, by simp [sameID]⟩
  have widgetListed : widgetExists s.widgets s.activeWidgetID = true :=
    widget_exists_iff.mpr shownWidget
  have widgetShown : widgetInTab s.tabs s.activeTabID s.activeWidgetID = true := by
    unfold widgetInTab
    rw [any_eq_true]
    exact ⟨tab, mem, by simp [sameID, shown]⟩
  split
  next noTabs =>
    rw [noTabs] at mem
    cases mem
  · simp only [sameWidgets, widgets, cleanTab.1, cleanTab.2, tabListed,
      normalize_tab_window_identity consistent, cleanWidget.1, cleanWidget.2, widgetListed,
      widgetShown, Bool.not_true, Bool.false_eq_true, or_self, if_false]
    rfl

structure NormalSnapshot (s : Snapshot) : Prop where
  wellFormed : WellFormed s
  cleanID : CleanID s.id
  cleanName : CleanID s.name
  trimmedIcon : trimSpace s.icon = s.icon
  trimmedColor : trimSpace s.color = s.color

theorem normalize_snapshot_identity (normal : NormalSnapshot s) (fallback : Snapshot) :
    normalizeSnapshot s fallback = s := by
  rw [normalize_snapshot_well_formed normal.wellFormed]
  unfold trimHeader
  simp only [normal.cleanID.1, normal.cleanID.2, normal.cleanName.1, normal.cleanName.2,
    normal.trimmedIcon, normal.trimmedColor, if_false]

theorem trim_header_well_formed (formed : WellFormed s) (fallback : Snapshot) :
    WellFormed (trimHeader s fallback) := by
  unfold trimHeader
  exact ⟨formed.tabs, formed.focus, formed.layouts⟩

theorem normalize_snapshot_normal {fallback : Snapshot} (formed : WellFormed s)
    (cleanID : CleanID s.id) (fallbackName : CleanID fallback.name) :
    NormalSnapshot (normalizeSnapshot s fallback) := by
  rw [normalize_snapshot_well_formed formed]
  refine ⟨trim_header_well_formed formed fallback, ?_, ?_, ?_, ?_⟩
  · simp only [trimHeader, cleanID.1, cleanID.2]
    exact cleanID
  · by_cases blank : trimSpace s.name = ""
    · simp only [trimHeader, blank]
      exact fallbackName
    · simp only [trimHeader, blank]
      exact clean_id_trim blank
  · exact trim_space_twice s.icon
  · exact trim_space_twice s.color

theorem NormalSnapshot.of_header {next : Snapshot} (normal : NormalSnapshot s)
    (formed : WellFormed next) (header : next.header = s.header) : NormalSnapshot next := by
  simp only [Snapshot.header, Prod.mk.injEq] at header
  obtain ⟨sameID, sameName, sameIcon, sameColor⟩ := header
  refine ⟨formed, ?_, ?_, ?_, ?_⟩
  · rw [sameID]
    exact normal.cleanID
  · rw [sameName]
    exact normal.cleanName
  · rw [sameIcon]
    exact normal.trimmedIcon
  · rw [sameColor]
    exact normal.trimmedColor

theorem Action.perform_normal (normal : NormalSnapshot s) {action : Action}
    (admissible : Admissible s action) : NormalSnapshot (action.perform s).2 :=
  normal.of_header (perform_well_formed normal.wellFormed admissible)
    (perform_header action s)

theorem default_normal : NormalSnapshot bootstrapDefault :=
  ⟨default_well_formed, by decide, by decide, by decide, by decide⟩

end RuneTerminal.Workspace
