import RuneTerminal.Workspace.CatalogRuns
import RuneTerminal.Workspace.WindowNormal

/-! `normalizeSnapshot` compares neither the ids of the tabs nor their widgets with one another. The
result is well-formed exactly if the named tabs with a known widget differ in both, and every widget
they show is listed under its trimmed id. -/

namespace RuneTerminal.Workspace

open Go.Strings Kit List

/-- A named tab shows a widget: the trimmed id is nonblank, and the snapshot has
a widget under it. -/
def Snapshot.ShowsWidget (s : Snapshot) (tab : Tab) (widgetID : String) : Prop :=
  trimSpace tab.id ≠ "" ∧ widgetID ≠ "" ∧ (∃ raw ∈ tab.widgetIDs, trimSpace raw = widgetID) ∧
    ∃ widget ∈ s.widgets, trimSpace widget.id = widgetID

/-- What the candidate has to bring itself. A candidate of which no tab shows a
widget under the widget's own id is replaced as a whole. -/
def Repairable (s : Snapshot) : Prop :=
  ¬Usable s ∨
    (s.tabs.Pairwise (fun tab other => ∀ widgetID otherID, s.ShowsWidget tab widgetID →
      s.ShowsWidget other otherID → trimSpace tab.id ≠ trimSpace other.id ∧ widgetID ≠ otherID) ∧
    ∀ tab ∈ s.tabs, ∀ widgetID, s.ShowsWidget tab widgetID →
      widgetID ∈ s.widgets.map Widget.id)

theorem fallback_layout_normal {fallbackLayouts : List Layout} {fallback : Layout}
    (normal : ∀ entry ∈ fallbackLayouts, LayoutNormal entry)
    (normalFallback : LayoutNormal fallback) (layoutID : String) :
    LayoutNormal (fallbackLayoutFor fallbackLayouts fallback layoutID) := by
  unfold fallbackLayoutFor findLayout
  cases found : fallbackLayouts.reverse.find? (·.id == layoutID) with
  | none => exact normalFallback
  | some entry => exact normal entry (mem_reverse.mp (mem_of_find?_eq_some found))

theorem normalize_layouts_normal (candidate : List Layout) {active fallback : Layout}
    {fallbackLayouts : List Layout} (normalActive : LayoutNormal active)
    (normal : ∀ entry ∈ fallbackLayouts, LayoutNormal entry)
    (normalFallback : LayoutNormal fallback) :
    (∀ entry ∈ normalizeLayouts candidate active fallbackLayouts fallback, LayoutNormal entry) ∧
    ((normalizeLayouts candidate active fallbackLayouts fallback).map Layout.id).Nodup ∧
    active.id ∈ (normalizeLayouts candidate active fallbackLayouts fallback).map Layout.id := by
  unfold normalizeLayouts
  by_cases none : candidate.isEmpty
  · rw [if_pos none]
    simpa using normalActive
  dsimp only
  have collected : ∀ layouts : List Layout,
      layouts = candidate.foldl (fun normalized layout =>
        let next := normalizeLayout layout (fallbackLayoutFor fallbackLayouts fallback layout.id)
        if next.id = "" then normalized
        else if layoutExists normalized next.id then normalized
        else normalized ++ [next]) [] →
      (∀ entry ∈ layouts, LayoutNormal entry) ∧ (layouts.map Layout.id).Nodup := by
    rintro _ rfl
    apply foldlRecOn (motive := fun layouts : List Layout =>
      (∀ entry ∈ layouts, LayoutNormal entry) ∧ (layouts.map Layout.id).Nodup)
    · exact ⟨by simp, by simp⟩
    rintro kept ⟨keptNormal, keptDistinct⟩ layout _
    have nextNormal := normalize_layout_normal layout
      (fallback_layout_normal normal normalFallback layout.id)
    dsimp only
    split_ifs with unnamed known
    · exact ⟨keptNormal, keptDistinct⟩
    · exact ⟨keptNormal, keptDistinct⟩
    refine ⟨?_, ?_⟩
    · intro entry mem
      rcases mem_append.mp mem with old | new
      · exact keptNormal entry old
      · rw [mem_singleton.mp new]
        exact nextNormal
    · rw [map_append, map_singleton, ← concat_eq_append]
      exact keptDistinct.concat fun mem => known (layout_exists_iff.mpr mem)
  obtain ⟨keptNormal, keptDistinct⟩ := collected _ rfl
  split_ifs with listed
  · exact ⟨keptNormal, keptDistinct, layout_exists_iff.mp listed⟩
  refine ⟨?_, ?_, by simp⟩
  · intro entry mem
    rcases mem_append.mp mem with old | new
    · exact keptNormal entry old
    · rw [mem_singleton.mp new]
      exact normalActive
  · rw [map_append, map_singleton, ← concat_eq_append]
    exact keptDistinct.concat fun mem => listed (layout_exists_iff.mpr mem)

theorem layouts_consistent (candidate : Snapshot) {fallback : Snapshot}
    (inv : LayoutsConsistent fallback.layout fallback.layouts fallback.activeLayoutID) :
    LayoutsConsistent (normalizeSnapshotLayouts candidate fallback).layout
      (normalizeSnapshotLayouts candidate fallback).layouts
      (normalizeSnapshotLayouts candidate fallback).activeLayoutID := by
  have normalFallback := inv.normal fallback.layout inv.listed
  have normalActive := normalize_layout_normal candidate.layout normalFallback
  obtain ⟨normal, nodup, listed⟩ := normalize_layouts_normal candidate.layouts normalActive
    inv.normal normalFallback
  unfold normalizeSnapshotLayouts
  dsimp only
  generalize normalizeLayouts candidate.layouts (normalizeLayout candidate.layout fallback.layout)
    fallback.layouts fallback.layout = layouts at normal nodup listed ⊢
  generalize wanted : (if trimSpace candidate.activeLayoutID = "" ∨
      (!layoutExists layouts (trimSpace candidate.activeLayoutID)) = true then
    (normalizeLayout candidate.layout fallback.layout).id
    else trimSpace candidate.activeLayoutID) = activeLayoutID
  have isListed : activeLayoutID ∈ layouts.map Layout.id := by
    rw [← wanted]
    split_ifs with unusable
    · exact listed
    · rw [not_or] at unusable
      exact layout_exists_iff.mp (by simpa using unusable.2)
  obtain ⟨entry, mem, isEntry⟩ := mem_map.mp isListed
  have found : findLayout layouts activeLayoutID = some entry := by
    rw [← isEntry]
    exact find_by_key Layout.id nodup mem
  rw [found]
  exact ⟨normal, nodup, mem, isEntry.symm⟩

section

variable {s : Snapshot} {tab next : Tab} {widgetID : String}

def Snapshot.keptTabs (s : Snapshot) : List Tab :=
  s.tabs.filterMap (normalizeTab (knownWidgetIDs s.widgets))

theorem kept_tab_spec (kept : normalizeTab (knownWidgetIDs s.widgets) tab = some next) :
    next.id = trimSpace tab.id ∧ CleanID next.id ∧ next.widgetIDs ≠ [] ∧
    ∀ widgetID, widgetID ∈ next.widgetIDs ↔ s.ShowsWidget tab widgetID := by
  obtain ⟨named, nonempty, rfl⟩ := normalize_tab_eq_some.mp kept
  refine ⟨rfl, clean_id_trim named, nonempty, ?_⟩
  intro widgetID
  rw [mem_filter_widget_ids]
  constructor
  · rintro ⟨raw, mem, nonblank, known, rfl⟩
    exact ⟨named, nonblank, ⟨raw, mem, rfl⟩, (mem_known_widget_ids.mp known).2⟩
  · rintro ⟨_, nonblank, ⟨raw, mem, rfl⟩, known⟩
    exact ⟨raw, mem, nonblank, mem_known_widget_ids.mpr ⟨nonblank, known⟩, rfl⟩

theorem tab_kept_of_shows (shows : s.ShowsWidget tab widgetID) :
    ∃ next, normalizeTab (knownWidgetIDs s.widgets) tab = some next := by
  obtain ⟨named, nonblank, ⟨raw, mem, isRaw⟩, known⟩ := shows
  refine ⟨_, normalize_tab_eq_some.mpr ⟨named, ?_, rfl⟩⟩
  apply ne_nil_of_mem (a := widgetID)
  rw [mem_filter_widget_ids]
  refine ⟨raw, mem, by rwa [isRaw], ?_, isRaw.symm⟩
  rw [isRaw]
  exact mem_known_widget_ids.mpr ⟨nonblank, known⟩

theorem mem_kept_tabs : next ∈ s.keptTabs ↔
    ∃ tab ∈ s.tabs, normalizeTab (knownWidgetIDs s.widgets) tab = some next :=
  mem_filterMap

theorem mem_kept_tabs_widgets :
    widgetID ∈ s.keptTabs.flatMap Tab.widgetIDs ↔ ∃ tab ∈ s.tabs, s.ShowsWidget tab widgetID := by
  rw [mem_flatMap]
  constructor
  · rintro ⟨next, mem, shown⟩
    obtain ⟨tab, isTab, kept⟩ := mem_kept_tabs.mp mem
    exact ⟨tab, isTab, ((kept_tab_spec kept).2.2.2 widgetID).mp shown⟩
  rintro ⟨tab, isTab, shows⟩
  obtain ⟨next, kept⟩ := tab_kept_of_shows shows
  exact ⟨next, mem_kept_tabs.mpr ⟨tab, isTab, kept⟩,
    ((kept_tab_spec kept).2.2.2 widgetID).mpr shows⟩

theorem kept_tab_widgets_clean (mem : next ∈ s.keptTabs) (shown : widgetID ∈ next.widgetIDs) :
    CleanID widgetID := by
  obtain ⟨tab, _, kept⟩ := mem_kept_tabs.mp mem
  obtain ⟨_, nonblank, ⟨raw, _, rfl⟩, _⟩ := ((kept_tab_spec kept).2.2.2 widgetID).mp shown
  exact clean_id_trim nonblank

theorem filter_widget_ids_nodup (known widgetIDs : List String) :
    (filterWidgetIDs known widgetIDs).Nodup := by
  refine foldlRecOn widgetIDs _ nodup_nil ?_
  intro filtered nodup raw _
  dsimp only
  split_ifs with blank old isKnown
  · exact nodup
  · exact nodup
  · rw [← concat_eq_append]
    exact nodup.concat old
  · exact nodup

theorem kept_tab_widgets_nodup (mem : next ∈ s.keptTabs) : next.widgetIDs.Nodup := by
  obtain ⟨tab, _, kept⟩ := mem_kept_tabs.mp mem
  obtain ⟨_, _, rfl⟩ := normalize_tab_eq_some.mp kept
  exact filter_widget_ids_nodup _ _

theorem kept_tabs_pairwise_iff : (s.keptTabs.Pairwise fun next other => next.id ≠ other.id ∧
    next.widgetIDs.Disjoint other.widgetIDs) ↔
    s.tabs.Pairwise fun tab other => ∀ widgetID otherID, s.ShowsWidget tab widgetID →
    s.ShowsWidget other otherID → trimSpace tab.id ≠ trimSpace other.id ∧ widgetID ≠ otherID := by
  unfold Snapshot.keptTabs
  rw [pairwise_filterMap]
  apply List.Pairwise.iff
  intro tab other
  constructor
  · intro apart widgetID otherID shows showsOther
    obtain ⟨next, kept⟩ := tab_kept_of_shows shows
    obtain ⟨nextOther, keptOther⟩ := tab_kept_of_shows showsOther
    obtain ⟨differs, disjoint⟩ := apart next kept nextOther keptOther
    obtain ⟨sameID, _, _, widgets⟩ := kept_tab_spec kept
    obtain ⟨sameOther, _, _, otherWidgets⟩ := kept_tab_spec keptOther
    refine ⟨by rwa [← sameID, ← sameOther], ?_⟩
    rintro rfl
    exact disjoint ((widgets widgetID).mpr shows) ((otherWidgets widgetID).mpr showsOther)
  intro apart next kept nextOther keptOther
  obtain ⟨sameID, _, nonempty, widgets⟩ := kept_tab_spec kept
  obtain ⟨sameOther, _, otherNonempty, otherWidgets⟩ := kept_tab_spec keptOther
  obtain ⟨shown, isShown⟩ := exists_mem_of_ne_nil _ nonempty
  obtain ⟨otherShown, isOtherShown⟩ := exists_mem_of_ne_nil _ otherNonempty
  constructor
  · rw [sameID, sameOther]
    exact (apart shown otherShown ((widgets _).mp isShown)
      ((otherWidgets _).mp isOtherShown)).1
  · intro widgetID inNext inOther
    exact (apart widgetID widgetID ((widgets _).mp inNext) ((otherWidgets _).mp inOther)).2 rfl

theorem kept_tabs_widgets_nodup
    (apart : s.keptTabs.Pairwise fun next other => next.id ≠ other.id ∧
      next.widgetIDs.Disjoint other.widgetIDs) :
    (s.keptTabs.flatMap Tab.widgetIDs).Nodup := by
  rw [nodup_flatMap]
  exact ⟨fun _ => kept_tab_widgets_nodup, apart.imp And.right⟩

end

section

variable {referenced : List String} {widgets : List Widget}

theorem referenced_widgets_nodup :
    ((referencedWidgets referenced widgets).map Widget.id).Nodup := by
  apply foldlRecOn (motive := fun kept : List Widget => (kept.map Widget.id).Nodup)
  · exact nodup_nil
  intro kept nodup widget _
  split_ifs with isReferenced old
  · exact nodup
  · rw [map_append, map_singleton, ← concat_eq_append]
    exact nodup.concat fun mem => old (widget_exists_iff.mpr mem)
  · exact nodup

theorem mem_referenced_widgets {id : String} :
    id ∈ (referencedWidgets referenced widgets).map Widget.id ↔ id ∈ referenced ∧
    id ∈ widgets.map Widget.id := by
  have collected : id ∈ (referencedWidgets referenced widgets).map Widget.id ↔
      id ∈ ([] : List Widget).map Widget.id ∨
        ∃ widget ∈ widgets, widget.id ∈ referenced ∧ id = widget.id := by
    apply foldl_holds_iff (fun kept : List Widget => id ∈ kept.map Widget.id)
    intro kept widget
    split_ifs with isReferenced old
    · constructor
      · exact .inl
      · rintro (mem | ⟨_, rfl⟩)
        · exact mem
        · exact widget_exists_iff.mp old
    · simp [isReferenced]
    · simp [isReferenced]
  rw [collected, map_nil, or_iff_right not_mem_nil]
  constructor
  · rintro ⟨widget, mem, isReferenced, rfl⟩
    exact ⟨isReferenced, mem_map.mpr ⟨widget, mem, rfl⟩⟩
  · rintro ⟨isReferenced, listed⟩
    obtain ⟨widget, mem, rfl⟩ := mem_map.mp listed
    exact ⟨widget, mem, isReferenced, rfl⟩

end

section

variable {s fallback : Snapshot}

theorem normalize_tab_window_shows_panes {tab : Tab} (nonempty : tab.widgetIDs ≠ [])
    (clean : ∀ id ∈ tab.widgetIDs, CleanID id) (nodup : tab.widgetIDs.Nodup)
    (activeTabID activeWidgetID : String) :
    ShowsPanes (normalizeTabWindow activeTabID activeWidgetID tab) := by
  have trimmed : trimmedWidgetIDs tab.widgetIDs = tab.widgetIDs := by
    rw [← widget_ids_trimmed]
    exact widget_ids_clean clean nodup
  unfold normalizeTabWindow
  generalize (if tab.id = activeTabID ∧ activeWidgetID ≠ "" ∧ activeWidgetID ∈ tab.widgetIDs then
    activeWidgetID else tab.widgetIDs.headD "") = preferredWidgetID
  obtain ⟨panes, isLayout, normalized⟩ := normalize_window_layout_normalized
    (by rwa [trimmed]) tab.windowLayout preferredWidgetID
  exact ⟨panes, isLayout, trimmed ▸ normalized.widgets⟩

structure Repaired (s fallback result : Snapshot) : Prop where
  icon : result.icon = trimSpace s.icon
  color : result.color = trimSpace s.color
  tabs : result.tabs =
    s.keptTabs.map (normalizeTabWindow result.activeTabID (trimSpace s.activeWidgetID))
  activeTab : result.activeTabID ∈ s.keptTabs.map Tab.id
  widgets : result.widgets = referencedWidgets (s.keptTabs.flatMap Tab.widgetIDs) s.widgets
  activeWidget : widgetInTab result.tabs result.activeTabID result.activeWidgetID = true ∨
    result.activeWidgetID = fallbackActiveWidgetID result.tabs result.activeTabID
  layouts : normalizeSnapshotLayouts s fallback =
    ⟨result.layout, result.layouts, result.activeLayoutID⟩

theorem normalize_snapshot_repaired (hasTabs : s.tabs ≠ []) (usable : Usable s)
    (fallback : Snapshot) : Repaired s fallback (normalizeSnapshot s fallback) := by
  have widgets := (usable_iff_widgets hasTabs).mp usable
  unfold normalizeSnapshot
  dsimp only
  split
  next noneKept =>
    rw [noneKept, referenced_nonempty_iff] at widgets
    obtain ⟨_, _, mem⟩ := widgets
    cases mem
  next firstTab others kept =>
    rw [if_neg (by rw [List.isEmpty_iff]; exact widgets)]
    refine ⟨rfl, rfl, rfl, ?_, rfl, ?_, rfl⟩
    · dsimp only
      split_ifs with unusable
      · rw [Snapshot.keptTabs, kept]
        exact mem_cons_self
      rw [not_or] at unusable
      have listed : tabExists (s.tabs.filterMap (normalizeTab (knownWidgetIDs s.widgets)))
          (trimSpace s.activeTabID) = true := by simpa using unusable.2
      obtain ⟨tab, mem, same⟩ := any_eq_true.mp listed
      exact mem_map.mpr ⟨tab, mem, beq_iff_eq.mp same⟩
    dsimp only
    generalize (if trimSpace s.activeTabID = "" ∨
      (!tabExists (s.tabs.filterMap (normalizeTab (knownWidgetIDs s.widgets)))
        (trimSpace s.activeTabID)) = true then firstTab.id
      else trimSpace s.activeTabID) = activeTabID
    split_ifs with unusable
    · exact .inr rfl
    · left
      rw [not_or, not_or] at unusable
      simpa using unusable.2.2

namespace Repaired

variable {result : Snapshot}

section

variable (repaired : Repaired s fallback result)
include repaired

theorem widget_ids_of_tabs : result.tabs.map Tab.widgetIDs = s.keptTabs.map Tab.widgetIDs := by
  rw [repaired.tabs, map_map]
  rfl

theorem tab_ids : result.tabs.map Tab.id = s.keptTabs.map Tab.id := by
  rw [repaired.tabs, map_map]
  rfl

theorem shows_panes {tab : Tab} (mem : tab ∈ result.tabs) : ShowsPanes tab := by
  rw [repaired.tabs] at mem
  obtain ⟨next, isKept, rfl⟩ := mem_map.mp mem
  obtain ⟨_, _, kept⟩ := mem_kept_tabs.mp isKept
  exact normalize_tab_window_shows_panes (kept_tab_spec kept).2.2.1
    (fun _ => kept_tab_widgets_clean isKept) (kept_tab_widgets_nodup isKept) _ _

theorem focus_consistent :
    FocusConsistent result.tabs result.activeTabID result.activeWidgetID := by
  have active := repaired.activeTab
  rw [← repaired.tab_ids] at active
  obtain ⟨tab, mem, sameID⟩ := mem_map.mp active
  right
  rcases repaired.activeWidget with shown | isFallback
  · obtain ⟨shownTab, shownMember, shows⟩ := any_eq_true.mp shown
    simp only [Bool.and_eq_true, beq_iff_eq, contains_iff_mem] at shows
    exact ⟨shownTab, shownMember, shows⟩
  have nonempty := (repaired.shows_panes mem).widget_ids_nonempty
  cases found : result.tabs.find? (fun tab => tab.id == result.activeTabID &&
      !tab.widgetIDs.isEmpty) with
  | none =>
    have unfit := find?_eq_none.mp found tab mem
    simp [sameID, nonempty] at unfit
  | some foundTab =>
    have fits := find?_some found
    have foundMember := mem_of_find?_eq_some found
    have shows := repaired.shows_panes foundMember
    refine ⟨foundTab, foundMember, by simpa using (Bool.and_eq_true_iff.mp fits).1, ?_⟩
    rw [isFallback]
    unfold fallbackActiveWidgetID
    rw [found]
    dsimp only
    split_ifs with unfit
    · exact shows.head_mem ""
    · rw [not_or, not_not] at unfit
      exact unfit.2

theorem tabs_consistent
    (apart : s.keptTabs.Pairwise fun next other =>
      next.id ≠ other.id ∧ next.widgetIDs.Disjoint other.widgetIDs)
    (listed : ∀ widgetID ∈ s.keptTabs.flatMap Tab.widgetIDs, widgetID ∈ s.widgets.map Widget.id) :
    TabsConsistent result.tabs (result.widgets.map Widget.id) where
  cleanIDs := by
    intro tab mem
    rw [repaired.tabs] at mem
    obtain ⟨next, isKept, rfl⟩ := mem_map.mp mem
    obtain ⟨_, _, kept⟩ := mem_kept_tabs.mp isKept
    exact (kept_tab_spec kept).2.1
  distinctIDs := by
    rw [repaired.tab_ids, List.Nodup, pairwise_map]
    exact apart.imp And.left
  partition := by
    rw [repaired.widgets, flatMap, repaired.widget_ids_of_tabs]
    apply (perm_ext_iff_of_nodup (kept_tabs_widgets_nodup apart)
      referenced_widgets_nodup).mpr
    intro widgetID
    rw [mem_referenced_widgets]
    exact ⟨fun shown => ⟨shown, listed widgetID shown⟩, And.left⟩
  distinctWidgets := by
    rw [repaired.widgets]
    exact referenced_widgets_nodup
  panes := fun _ => repaired.shows_panes

theorem repairable (invariant : RepresentationInvariant result) : Repairable s := by
  right
  constructor
  · rw [← kept_tabs_pairwise_iff]
    have distinct := invariant.tabIDsDistinct
    have disjoint := invariant.tabsDisjoint
    rw [repaired.tab_ids, List.Nodup, pairwise_map] at distinct
    rw [repaired.tabs, pairwise_map] at disjoint
    exact distinct.and disjoint
  · intro tab mem widgetID shows
    have shown := mem_kept_tabs_widgets.mpr ⟨tab, mem, shows⟩
    rw [flatMap, ← repaired.widget_ids_of_tabs, ← flatMap, mem_flatMap] at shown
    have kept := (invariant.widgetsOfTabs widgetID).mpr shown
    rw [repaired.widgets] at kept
    exact (mem_referenced_widgets.mp kept).2

end

end Repaired

theorem normalize_snapshot_no_tabs (noTabs : s.tabs = []) (formed : WellFormed fallback) :
    WellFormed (normalizeSnapshot s fallback) := by
  have layouts := layouts_consistent s formed.layouts
  unfold normalizeSnapshot
  simp only [noTabs]
  refine ⟨⟨?_, nodup_nil, List.Perm.refl _, nodup_nil, ?_⟩, .inl ⟨rfl, rfl, rfl⟩,
    layouts⟩
  · intro tab mem
    cases mem
  · intro tab mem
    cases mem

theorem normalize_snapshot_of_repairable (formed : WellFormed fallback)
    (repairable : Repairable s) : WellFormed (normalizeSnapshot s fallback) := by
  by_cases usable : Usable s
  · by_cases noTabs : s.tabs = []
    · exact normalize_snapshot_no_tabs noTabs formed
    have repaired := normalize_snapshot_repaired noTabs usable fallback
    obtain ⟨apart, listed⟩ := repairable.resolve_left (not_not.mpr usable)
    refine ⟨repaired.tabs_consistent (kept_tabs_pairwise_iff.mpr apart) ?_,
      repaired.focus_consistent, ?_⟩
    · intro widgetID shown
      obtain ⟨tab, mem, shows⟩ := mem_kept_tabs_widgets.mp shown
      exact listed tab mem widgetID shows
    · have layouts := layouts_consistent s formed.layouts
      rw [repaired.layouts] at layouts
      exact layouts
  · rw [snapshot_unusable usable]
    exact formed

theorem normalize_snapshot_icon_color (usable : Usable s) (fallback : Snapshot) :
    (normalizeSnapshot s fallback).icon = trimSpace s.icon ∧
    (normalizeSnapshot s fallback).color = trimSpace s.color := by
  by_cases noTabs : s.tabs = []
  · simp [normalizeSnapshot, noTabs]
  · have repaired := normalize_snapshot_repaired noTabs usable fallback
    exact ⟨repaired.icon, repaired.color⟩

theorem trim_header_repaired (usable : Usable s)
    (settled : trimHeader fallback fallback = fallback) :
    trimHeader (normalizeSnapshot s fallback) fallback = normalizeSnapshot s fallback := by
  have title := snapshot_title usable fallback
  obtain ⟨icon, color⟩ := normalize_snapshot_icon_color usable fallback
  rw [normalizedTitle, Prod.mk.injEq] at title
  have settledID : (if trimSpace fallback.id = "" then fallback.id else trimSpace fallback.id) =
      fallback.id := congrArg Snapshot.id settled
  have settledName : (if trimSpace fallback.name = "" then fallback.name
      else trimSpace fallback.name) = fallback.name := congrArg Snapshot.name settled
  have sameID : (if trimSpace (normalizeSnapshot s fallback).id = "" then fallback.id
      else trimSpace (normalizeSnapshot s fallback).id) = (normalizeSnapshot s fallback).id := by
    rw [title.1]
    by_cases blank : trimSpace s.id = ""
    · rw [if_pos blank]
      exact settledID
    · rw [if_neg blank, trim_space_twice, if_neg blank]
  have sameName : (if trimSpace (normalizeSnapshot s fallback).name = "" then fallback.name
      else trimSpace (normalizeSnapshot s fallback).name) =
        (normalizeSnapshot s fallback).name := by
    rw [title.2]
    by_cases blank : trimSpace s.name = ""
    · rw [if_pos blank]
      exact settledName
    · rw [if_neg blank, trim_space_twice, if_neg blank]
  have sameIcon : trimSpace (normalizeSnapshot s fallback).icon =
      (normalizeSnapshot s fallback).icon := by
    rw [icon, trim_space_twice]
  have sameColor : trimSpace (normalizeSnapshot s fallback).color =
      (normalizeSnapshot s fallback).color := by
    rw [color, trim_space_twice]
  unfold trimHeader
  rw [sameID, sameName, sameIcon, sameColor]

/-- Normalization repairs exactly the repairable candidates: for these the result
meets the workspace invariant, and normalizing it again changes nothing. -/
theorem normalize_snapshot_repairs_iff (wellFormed : WellFormed fallback)
    (settled : normalizeSnapshot fallback fallback = fallback) :
    (RepresentationInvariant (normalizeSnapshot s fallback) ∧
      normalizeSnapshot (normalizeSnapshot s fallback) fallback = normalizeSnapshot s fallback) ↔
    Repairable s := by
  constructor
  · rintro ⟨invariant, _⟩
    by_cases usable : Usable s
    · by_cases noTabs : s.tabs = []
      · right
        simp [noTabs]
      · exact (normalize_snapshot_repaired noTabs usable fallback).repairable invariant
    · exact .inl usable
  intro repairable
  have repaired := normalize_snapshot_of_repairable wellFormed repairable
  refine ⟨repaired.representation_invariant, ?_⟩
  by_cases usable : Usable s
  · rw [normalize_snapshot_well_formed wellFormed] at settled
    rw [normalize_snapshot_well_formed repaired]
    exact trim_header_repaired usable settled
  · rw [snapshot_unusable usable]
    exact settled

end

def looseCandidate : Snapshot :=
  { bootstrapDefault with
    tabs :=
      [ { id := " tab-main "
          title := "Main Shell"
          widgetIDs := ["term-gone", "term-side", " term-side ", "term-main"]
          windowLayout := .leafNode "term-gone" } ]
    activeTabID := "tab-gone" }

theorem normalize_snapshot_repairs_loose :
    RepresentationInvariant (normalizeSnapshot looseCandidate bootstrapDefault) ∧
    normalizeSnapshot (normalizeSnapshot looseCandidate bootstrapDefault) bootstrapDefault =
    normalizeSnapshot looseCandidate bootstrapDefault := by
  apply (normalize_snapshot_repairs_iff default_well_formed (by decide)).mpr
  refine .inr ⟨pairwise_singleton _ _, ?_⟩
  rintro tab _ widgetID ⟨_, _, _, widget, mem, rfl⟩
  have trimmed : ∀ widget ∈ looseCandidate.widgets, trimSpace widget.id = widget.id := by decide
  rw [trimmed widget mem]
  exact mem_map.mpr ⟨widget, mem, rfl⟩

def twinTabs : Snapshot :=
  { bootstrapDefault with
    tabs :=
      [ { id := "tab-main", title := "Main Shell", widgetIDs := ["term-main"] },
        { id := "tab-main", title := "Ops Shell", widgetIDs := ["term-side"] } ] }

theorem normalize_snapshot_keeps_twin_tabs : WellFormed bootstrapDefault ∧
    normalizeSnapshot bootstrapDefault bootstrapDefault = bootstrapDefault ∧
    ¬RepresentationInvariant (normalizeSnapshot twinTabs bootstrapDefault) := by
  refine ⟨default_well_formed, by decide, ?_⟩
  intro invariant
  exact absurd invariant.tabIDsDistinct (by decide)

end RuneTerminal.Workspace
