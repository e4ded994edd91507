import RuneTerminal.Workspace.Service
import RuneTerminal.Workspace.WindowMove

/-! Every reachable snapshot has tabs with distinct ids that share the widgets among themselves, a
split tree of its own widgets in each tab, a focus inside the tabs, and layouts with the current
one. -/

namespace RuneTerminal.Workspace

open Go.Strings Kit
open WindowLayoutNode (leafNode)
open List

def ShowsPanes (tab : Tab) : Prop :=
  ∃ panes : PaneTree, tab.windowLayout = panes.layout ∧ panes.widgetIDs.Perm tab.widgetIDs

/-- Tabs with distinct clean ids that partition the given widget ids. -/
structure TabsConsistent (tabs : List Tab) (widgetIDs : List String) : Prop where
  cleanIDs : ∀ tab ∈ tabs, CleanID tab.id
  distinctIDs : (tabs.map Tab.id).Nodup
  partition : (tabs.flatMap Tab.widgetIDs).Perm widgetIDs
  distinctWidgets : widgetIDs.Nodup
  panes : ∀ tab ∈ tabs, ShowsPanes tab

def FocusConsistent (tabs : List Tab) (activeTabID activeWidgetID : String) : Prop :=
  (tabs = [] ∧ activeTabID = "" ∧ activeWidgetID = "") ∨
    ∃ tab ∈ tabs, tab.id = activeTabID ∧ activeWidgetID ∈ tab.widgetIDs

/-- A surface layout that `normalizeLayout` has nothing to change in. -/
structure LayoutNormal (layout : Layout) : Prop where
  cleanID : CleanID layout.id
  knownMode : layout.mode.known
  validSurfaces : ∀ surface ∈ layout.surfaces, surface.id ≠ .other "" ∧ surface.region.known
  distinctSurfaces : (layout.surfaces.map LayoutSurface.id).Nodup
  terminalSurface : .terminal ∈ layout.surfaces.map LayoutSurface.id
  activeSurface : layout.activeSurfaceID ∈ layout.surfaces.map LayoutSurface.id

structure LayoutsConsistent (layout : Layout) (layouts : List Layout) (activeLayoutID : String) :
    Prop where
  normal : ∀ entry ∈ layouts, LayoutNormal entry
  distinctIDs : (layouts.map Layout.id).Nodup
  listed : layout ∈ layouts
  active : activeLayoutID = layout.id

structure WellFormed (s : Snapshot) : Prop where
  tabs : TabsConsistent s.tabs (s.widgets.map Widget.id)
  focus : FocusConsistent s.tabs s.activeTabID s.activeWidgetID
  layouts : LayoutsConsistent s.layout s.layouts s.activeLayoutID

variable {tab : Tab} {widgetID : String}

namespace ShowsPanes

section

variable (shows : ShowsPanes tab)
include shows

theorem clean_widget (mem : widgetID ∈ tab.widgetIDs) : CleanID widgetID := by
  obtain ⟨panes, _, same⟩ := shows
  exact panes.clean widgetID (same.mem_iff.mpr mem)

theorem widget_ids_nonempty : tab.widgetIDs ≠ [] := by
  obtain ⟨panes, _, same⟩ := shows
  intro empty
  rw [empty] at same
  exact SplitTree.leaves_ne_nil panes.tree same.eq_nil

theorem widget_ids_nodup : tab.widgetIDs.Nodup := by
  obtain ⟨panes, _, same⟩ := shows
  exact same.nodup_iff.mp panes.distinct

theorem head_mem (default : String) : tab.widgetIDs.headD default ∈ tab.widgetIDs := by
  cases widgetIDs : tab.widgetIDs with
  | nil => exact absurd widgetIDs shows.widget_ids_nonempty
  | cons head tail => simp

theorem first_leaf_mem : firstWindowLeafID tab.windowLayout ∈ tab.widgetIDs := by
  obtain ⟨panes, layout, same⟩ := shows
  rw [layout]
  exact same.mem_iff.mp (edge_leaves_mem panes.clean).1

theorem first_leaf_or_mem (fallback : String) :
    Snapshot.firstLeafOr tab fallback ∈ tab.widgetIDs := by
  have member := shows.first_leaf_mem
  have nonblank : firstWindowLeafID tab.windowLayout ≠ "" := (shows.clean_widget member).2
  simp only [Snapshot.firstLeafOr, if_neg nonblank]
  exact member

theorem normalize_window_layout (preferredWidgetID : String) :
    normalizeWindowLayout tab.windowLayout tab.widgetIDs preferredWidgetID = tab.windowLayout := by
  obtain ⟨panes, layout, same⟩ := shows
  rw [layout]
  exact layout_proper panes same preferredWidgetID

end

end ShowsPanes

variable {tabs before : List Tab}

namespace TabsConsistent

variable {after : List Tab} {next : Tab} {widgetIDs nextIDs : List String}

theorem perm (inv : TabsConsistent tabs widgetIDs) {moved : List Tab}
    (same : moved.Perm tabs) : TabsConsistent moved widgetIDs where
  cleanIDs := fun tab mem => inv.cleanIDs tab (same.mem_iff.mp mem)
  distinctIDs := (same.map Tab.id).nodup_iff.mpr inv.distinctIDs
  partition := (same.flatMap_right _).trans inv.partition
  distinctWidgets := inv.distinctWidgets
  panes := fun tab mem => inv.panes tab (same.mem_iff.mp mem)

section

variable (inv : TabsConsistent (before ++ tab :: after) widgetIDs)
include inv

theorem replace
    (sameID : next.id = tab.id) (shows : ShowsPanes next)
    (partition : ((before ++ next :: after).flatMap Tab.widgetIDs).Perm nextIDs)
    (nodup : nextIDs.Nodup) : TabsConsistent (before ++ next :: after) nextIDs where
  cleanIDs := by
    intro other member
    rw [mem_append, mem_cons] at member
    rcases member with member | rfl | member
    · exact inv.cleanIDs other (by simp [member])
    · rw [sameID]
      exact inv.cleanIDs tab (by simp)
    · exact inv.cleanIDs other (by simp [member])
  distinctIDs := by
    have distinctIDs := inv.distinctIDs
    rw [map_append, map_cons] at distinctIDs ⊢
    rw [sameID]
    exact distinctIDs
  partition := partition
  distinctWidgets := nodup
  panes := by
    intro other member
    rw [mem_append, mem_cons] at member
    rcases member with member | rfl | member
    · exact inv.panes other (by simp [member])
    · exact shows
    · exact inv.panes other (by simp [member])

theorem relabel (sameID : next.id = tab.id) (sameWidgets : next.widgetIDs = tab.widgetIDs)
    (shows : ShowsPanes next) : TabsConsistent (before ++ next :: after) widgetIDs := by
  apply inv.replace sameID shows _ inv.distinctWidgets
  have partition := inv.partition
  rw [flatMap_append, flatMap_cons] at partition ⊢
  rw [sameWidgets]
  exact partition

theorem erase
    (partition : ((before ++ after).flatMap Tab.widgetIDs).Perm nextIDs)
    (nodup : nextIDs.Nodup) : TabsConsistent (before ++ after) nextIDs where
  cleanIDs := fun other member => inv.cleanIDs other (by
    rw [mem_append] at member
    rcases member with member | member <;> simp [member])
  distinctIDs := by
    refine List.Nodup.sublist ?_ inv.distinctIDs
    exact ((sublist_cons_self tab after).append_left before).map Tab.id
  partition := partition
  distinctWidgets := nodup
  panes := fun other member => inv.panes other (by
    rw [mem_append] at member
    rcases member with member | member <;> simp [member])

end

theorem append (inv : TabsConsistent tabs widgetIDs) (clean : CleanID tab.id)
    (freshTab : tab.id ∉ tabs.map Tab.id) (shows : ShowsPanes tab)
    (freshWidgets : ∀ widgetID ∈ tab.widgetIDs, widgetID ∉ widgetIDs) :
    TabsConsistent (tabs ++ [tab]) (widgetIDs ++ tab.widgetIDs) where
  cleanIDs := by
    intro other mem
    rw [mem_append, mem_singleton] at mem
    rcases mem with mem | rfl
    · exact inv.cleanIDs other mem
    · exact clean
  distinctIDs := by
    rw [map_append, map_singleton, nodup_append]
    refine ⟨inv.distinctIDs, by simp, ?_⟩
    rintro id mem other single rfl
    rw [mem_singleton] at single
    rw [single] at mem
    exact freshTab mem
  partition := by
    rw [flatMap_append, flatMap_singleton]
    exact inv.partition.append_right tab.widgetIDs
  distinctWidgets := by
    rw [nodup_append]
    refine ⟨inv.distinctWidgets, shows.widget_ids_nodup, ?_⟩
    rintro id mem other fresh rfl
    exact freshWidgets id fresh mem
  panes := by
    intro other mem
    rw [mem_append, mem_singleton] at mem
    rcases mem with mem | rfl
    · exact inv.panes other mem
    · exact shows

section

variable (inv : TabsConsistent (before ++ tab :: after) widgetIDs)
include inv

theorem not_in_other_tabs (own : widgetID ∈ tab.widgetIDs) :
    widgetID ∉ before.flatMap Tab.widgetIDs ∧ widgetID ∉ after.flatMap Tab.widgetIDs := by
  have nodup : ((before ++ tab :: after).flatMap Tab.widgetIDs).Nodup :=
    inv.partition.nodup_iff.mpr inv.distinctWidgets
  rw [flatMap_append, flatMap_cons, nodup_append, nodup_append] at nodup
  obtain ⟨_, ⟨_, _, apartAfter⟩, apartBefore⟩ := nodup
  refine ⟨?_, ?_⟩
  · intro mem
    exact apartBefore widgetID mem widgetID (mem_append_left _ own) rfl
  · intro mem
    exact apartAfter widgetID own widgetID mem rfl

section

variable {keep : String → Bool}
  (dropsOwn : ∀ id, keep id = false → id ∈ tab.widgetIDs)
include dropsOwn

theorem partition_filter :
    (before.flatMap Tab.widgetIDs ++
      (tab.widgetIDs.filter keep ++ after.flatMap Tab.widgetIDs)).Perm (widgetIDs.filter keep) := by
  have filtered := inv.partition.filter keep
  rw [flatMap_append, flatMap_cons, filter_append, filter_append] at filtered
  have keepBefore : (before.flatMap Tab.widgetIDs).filter keep = before.flatMap Tab.widgetIDs := by
    rw [filter_eq_self]
    intro id mem
    by_contra dropped
    exact (inv.not_in_other_tabs (dropsOwn id (by simpa using dropped))).1 mem
  have keepAfter : (after.flatMap Tab.widgetIDs).filter keep = after.flatMap Tab.widgetIDs := by
    rw [filter_eq_self]
    intro id mem
    by_contra dropped
    exact (inv.not_in_other_tabs (dropsOwn id (by simpa using dropped))).2 mem
  rw [keepBefore, keepAfter] at filtered
  exact filtered

theorem partition_without (dropsAll : tab.widgetIDs.filter keep = []) :
    ((before ++ after).flatMap Tab.widgetIDs).Perm (widgetIDs.filter keep) := by
  have filtered := inv.partition_filter dropsOwn
  rw [dropsAll] at filtered
  rw [flatMap_append]
  exact filtered

end

end

end TabsConsistent

namespace FocusConsistent

variable {after : List Tab} {next : Tab} {activeTabID activeWidgetID : String}

theorem on_tab (mem : tab ∈ tabs) {widgetID : String} (shown : widgetID ∈ tab.widgetIDs) :
    FocusConsistent tabs tab.id widgetID :=
  .inr ⟨tab, mem, rfl, shown⟩

theorem perm (focus : FocusConsistent tabs activeTabID activeWidgetID) {moved : List Tab}
    (same : moved.Perm tabs) : FocusConsistent moved activeTabID activeWidgetID := by
  rcases focus with ⟨rfl, noTab, noWidget⟩ | ⟨tab, mem, focused⟩
  · exact .inl ⟨same.eq_nil, noTab, noWidget⟩
  · exact .inr ⟨tab, same.mem_iff.mpr mem, focused⟩

section

variable (focus : FocusConsistent (before ++ tab :: after) activeTabID activeWidgetID)
include focus

theorem replace (sameID : next.id = tab.id)
    (keeps : activeWidgetID ∈ tab.widgetIDs → activeWidgetID ∈ next.widgetIDs) :
    FocusConsistent (before ++ next :: after) activeTabID activeWidgetID := by
  rcases focus with ⟨empty, _⟩ | ⟨focused, member, sameTab, shown⟩
  · simp at empty
  rw [mem_append, mem_cons] at member
  rcases member with member | rfl | member
  · exact .inr ⟨focused, by simp [member], sameTab, shown⟩
  · exact .inr ⟨next, by simp, sameID.trans sameTab, keeps shown⟩
  · exact .inr ⟨focused, by simp [member], sameTab, shown⟩

theorem erase (elsewhere : activeTabID ≠ tab.id) :
    FocusConsistent (before ++ after) activeTabID activeWidgetID := by
  rcases focus with ⟨empty, _⟩ | ⟨focused, member, sameTab, shown⟩
  · simp at empty
  rw [mem_append, mem_cons] at member
  rcases member with member | rfl | member
  · exact .inr ⟨focused, by simp [member], sameTab, shown⟩
  · exact absurd sameTab.symm elsewhere
  · exact .inr ⟨focused, by simp [member], sameTab, shown⟩

end

end FocusConsistent

namespace LayoutsConsistent

variable {layout next : Layout} {layouts : List Layout} {activeLayoutID : String}

theorem apply_layout (inv : LayoutsConsistent layout layouts activeLayoutID)
    (normal : LayoutNormal next) :
    LayoutsConsistent next
      (match layouts.findIdx? (·.id == next.id) with
        | some index => layouts.set index next
        | none => layouts ++ [next]) next.id := by
  cases found : layouts.findIdx? (·.id == next.id) with
  | some index =>
    obtain ⟨before, entry, after, rfl, rfl, matched⟩ := split_at_find_idx found
    rw [beq_iff_eq] at matched
    simp only [set_at_split]
    refine ⟨?_, ?_, by simp, rfl⟩
    · intro other member
      rw [mem_append, mem_cons] at member
      rcases member with member | rfl | member
      · exact inv.normal other (by simp [member])
      · exact normal
      · exact inv.normal other (by simp [member])
    · have distinct := inv.distinctIDs
      rw [map_append, map_cons] at distinct ⊢
      rw [← matched]
      exact distinct
  | none =>
    have absent : next.id ∉ layouts.map Layout.id := by
      rw [findIdx?_eq_none_iff] at found
      intro member
      obtain ⟨entry, entryMember, same⟩ := mem_map.mp member
      have differs := found entry entryMember
      simp [same] at differs
    refine ⟨?_, ?_, by simp, rfl⟩
    · intro other member
      rw [mem_append, mem_singleton] at member
      rcases member with member | rfl
      · exact inv.normal other member
      · exact normal
    rw [map_append, map_singleton, nodup_append]
    refine ⟨inv.distinctIDs, by simp, ?_⟩
    rintro id member other single rfl
    rw [mem_singleton] at single
    rw [single] at member
    exact absent member

theorem current_normal (inv : LayoutsConsistent layout layouts activeLayoutID) :
    LayoutNormal layout :=
  inv.normal layout inv.listed

end LayoutsConsistent

def SurfacesValid (surfaces : List LayoutSurface) : Prop :=
  (∀ surface ∈ surfaces, surface.id ≠ .other "" ∧ surface.region.known) ∧
    (surfaces.map LayoutSurface.id).Nodup

variable {surfaces : List LayoutSurface}

theorem surface_exists_iff {surfaceID : LayoutSurfaceID} :
    layoutSurfaceExists surfaces surfaceID ↔ surfaceID ∈ surfaces.map LayoutSurface.id := by
  simp [layoutSurfaceExists]

theorem normalize_surfaces_valid (surfaces : List LayoutSurface) :
    SurfacesValid (normalizeSurfaces surfaces) := by
  -- Accepting one more surface keeps the surfaces accepted before it valid.
  refine foldlRecOn surfaces _ ?_ ?_
  · exact ⟨by simp, by simp⟩
  rintro accepted ⟨valid, nodup⟩ surface _
  split_ifs with unnamed outside seen
  · exact ⟨valid, nodup⟩
  · exact ⟨valid, nodup⟩
  · exact ⟨valid, nodup⟩
  refine ⟨?_, ?_⟩
  · intro other mem
    rw [mem_append, mem_singleton] at mem
    rcases mem with mem | rfl
    · exact valid other mem
    · exact ⟨unnamed, by simpa using outside⟩
  rw [map_append, map_singleton, nodup_append]
  refine ⟨nodup, by simp, ?_⟩
  rintro id mem other single rfl
  rw [mem_singleton] at single
  rw [single] at mem
  exact seen (surface_exists_iff.mpr mem)

variable {fallback : Layout}

theorem complete_surfaces_valid (valid : SurfacesValid surfaces) (normal : LayoutNormal fallback) :
    SurfacesValid (completeSurfaces surfaces fallback) ∧
    .terminal ∈ (completeSurfaces surfaces fallback).map LayoutSurface.id := by
  unfold completeSurfaces
  dsimp only
  split_ifs with emptyList hasTerminal hasTerminal
  · exact ⟨⟨normal.validSurfaces, normal.distinctSurfaces⟩, normal.terminalSurface⟩
  · exact absurd (surface_exists_iff.mpr normal.terminalSurface) hasTerminal
  · exact ⟨valid, surface_exists_iff.mp hasTerminal⟩
  have region : (preferredSurfaceRegion fallback .terminal .main).known := by
    unfold preferredSurfaceRegion
    cases found : fallback.surfaces.find? (·.id == .terminal) with
    | none => rfl
    | some surface =>
      exact (normal.validSurfaces surface (mem_of_find?_eq_some found)).2
  refine ⟨⟨?_, ?_⟩, by simp⟩
  · intro surface member
    rw [mem_cons] at member
    rcases member with rfl | member
    · exact ⟨by simp, region⟩
    · exact valid.1 surface member
  · rw [map_cons, nodup_cons]
    exact ⟨fun member => hasTerminal (surface_exists_iff.mpr member), valid.2⟩

theorem normalize_layout_normal (candidate : Layout) (normal : LayoutNormal fallback) :
    LayoutNormal (normalizeLayout candidate fallback) := by
  obtain ⟨valid, terminal⟩ :=
    complete_surfaces_valid (normalize_surfaces_valid candidate.surfaces) normal
  refine ⟨?_, ?_, valid.1, valid.2, terminal, ?_⟩
  · simp only [normalizeLayout]
    split_ifs with blank
    · exact normal.cleanID
    · exact clean_id_trim blank
  · simp only [normalizeLayout]
    split_ifs with known
    · exact known
    · exact normal.knownMode
  simp only [normalizeLayout]
  split_ifs with unusable
  · cases surfaces : completeSurfaces (normalizeSurfaces candidate.surfaces) fallback with
    | nil =>
      rw [surfaces] at terminal
      cases terminal
    | cons first rest => simp
  · rw [not_or] at unusable
    apply surface_exists_iff.mp
    simpa using unusable.2

end RuneTerminal.Workspace
