import RuneTerminal.Workspace.Invariant

/-! Every method keeps the workspace invariant, so every snapshot that a run of the service reaches
from the default workspace satisfies it. -/

namespace RuneTerminal.Workspace

open Go.Strings Kit
open WindowLayoutNode (leafNode)
open List Snapshot FocusConsistent SplitTree

/-- The mutating methods of the service, with their arguments. -/
inductive Action where
  | focusWidget (widgetID : String)
  | focusTab (tabID : String)
  | addTerminalTab (tab : Tab) (widget : Widget)
  | splitTabWithWidget (tabID targetWidgetID : String) (widget : Widget)
      (direction : WindowSplitDirection)
  | moveWidgetBySplit (tabID widgetID targetWidgetID : String) (direction : WindowMoveDirection)
  | closeTab (tabID : String)
  | closeWidget (widgetID : String)
  | renameTab (tabID title : String)
  | setTabPinned (tabID : String) (pinned : Bool)
  | moveTab (tabID beforeTabID : String)
  | updateLayout (layout : Layout)
  | saveLayout (layoutID : String)
  | switchLayout (layoutID : String)
  deriving DecidableEq

def Outcome.discard {Value : Type} (outcome : Outcome Value) : Option WorkspaceError × Snapshot :=
  match outcome with
  | (.ok _, next) => (none, next)
  | (.error err, next) => (some err, next)

def Action.perform : Action → Snapshot → Option WorkspaceError × Snapshot
  | .focusWidget widgetID, s => (s.focusWidget widgetID).discard
  | .focusTab tabID, s => (s.focusTab tabID).discard
  | .addTerminalTab tab widget, s => (s.addTerminalTab tab widget).discard
  | .splitTabWithWidget tabID targetWidgetID widget direction, s =>
    (s.splitTabWithWidget tabID targetWidgetID widget direction).discard
  | .moveWidgetBySplit tabID widgetID targetWidgetID direction, s =>
    (s.moveWidgetBySplit tabID widgetID targetWidgetID direction).discard
  | .closeTab tabID, s => (s.closeTab tabID).discard
  | .closeWidget widgetID, s => (s.closeWidget widgetID).discard
  | .renameTab tabID title, s => (s.renameTab tabID title).discard
  | .setTabPinned tabID pinned, s => (s.setTabPinned tabID pinned).discard
  | .moveTab tabID beforeTabID, s => (s.moveTab tabID beforeTabID).discard
  | .updateLayout layout, s => (s.updateLayout layout).discard
  | .saveLayout layoutID, s => (s.saveLayout layoutID).discard
  | .switchLayout layoutID, s => (s.switchLayout layoutID).discard

/-- What the runtime callers guarantee: the ids they mint are clean and not in
use, and a new tab shows its new widget only, without a window layout. -/
def Admissible (s : Snapshot) : Action → Prop
  | .addTerminalTab tab widget =>
    CleanID tab.id ∧ tab.id ∉ s.tabs.map Tab.id ∧ CleanID widget.id ∧
      widget.id ∉ s.widgets.map Widget.id ∧ tab.widgetIDs = [widget.id] ∧
      tab.windowLayout = .nil
  | .splitTabWithWidget _ _ widget _ =>
    CleanID widget.id ∧ widget.id ∉ s.widgets.map Widget.id
  | _ => True

@[simp]
theorem discard_snd {Value : Type} (outcome : Outcome Value) : outcome.discard.2 = outcome.2 := by
  obtain ⟨_ | _, _⟩ := outcome <;> rfl

variable {s : Snapshot} {tabID : String}

theorem tab_index_split {index : Nat} (found : s.tabIndex? tabID = some index) :
    ∃ before tab after, s.tabs = before ++ tab :: after ∧
    before.length = index ∧ tab.id = tabID := by
  obtain ⟨before, tab, after, whole, size, matched⟩ := split_at_find_idx found
  exact ⟨before, tab, after, whole, size, by simpa using matched⟩

section

variable {tab : Tab} {widget : Widget} {widgetID : String} {direction : WindowSplitDirection}
  {widgetIDs : List String}

theorem focus_widget_well_formed (wellFormed : WellFormed s) (id : String) :
    WellFormed (s.focusWidget id).2 := by
  unfold focusWidget
  cases found : s.findWidgetLocked id with
  | error err => exact wellFormed
  | ok widget =>
    refine ⟨wellFormed.tabs, ?_, wellFormed.layouts⟩
    have known : id ∈ s.widgets.map Widget.id := by
      unfold findWidgetLocked at found
      split at found
      next entry located =>
        have matched := find?_some located
        rw [beq_iff_eq] at matched
        exact mem_map.mpr ⟨entry, mem_of_find?_eq_some located, matched⟩
      · cases found
    cases located : s.tabs.find? (·.widgetIDs.contains id) with
    | some tab =>
      have shown := find?_some located
      exact on_tab (mem_of_find?_eq_some located) (by simpa using shown)
    | none =>
      -- Some tab shows the widget, so the loop over the tabs finds one.
      obtain ⟨tab, mem, shown⟩ :=
        mem_flatMap.mp (wellFormed.tabs.partition.mem_iff.mpr known)
      rw [find?_eq_none] at located
      exact absurd (by simpa using shown) (located tab mem)

theorem focus_tab_well_formed (wellFormed : WellFormed s) (tabID : String) :
    WellFormed (s.focusTab tabID).2 := by
  unfold focusTab
  cases found : s.findTabLocked tabID with
  | error err => exact wellFormed
  | ok tab =>
    have located : s.tabs.find? (·.id == tabID) = some tab := by
      unfold findTabLocked at found
      split at found
      next entry located =>
        cases found
        exact located
      · cases found
    have member := mem_of_find?_eq_some located
    have sameID : tab.id = tabID := by simpa using find?_some located
    have shows := wellFormed.tabs.panes tab member
    dsimp only
    split
    · next empty => exact absurd empty shows.widget_ids_nonempty
    next firstWidgetID others widgetIDs =>
      refine ⟨wellFormed.tabs, .inr ⟨tab, member, sameID, ?_⟩, wellFormed.layouts⟩
      split_ifs with unusable
      · rw [widgetIDs]
        exact mem_cons_self
      · exact shows.first_leaf_mem

theorem add_terminal_tab_well_formed (wellFormed : WellFormed s)
    (admissible : Admissible s (.addTerminalTab tab widget)) :
    WellFormed (s.addTerminalTab tab widget).2 := by
  obtain ⟨cleanTab, freshTab, cleanWidget, freshWidget, only, noLayout⟩ := admissible
  unfold addTerminalTab
  simp only [noLayout]
  let added : Tab := { tab with windowLayout := leafNode widget.id }
  have shows : ShowsPanes added := by
    refine ⟨PaneTree.single widget.id cleanWidget, rfl, ?_⟩
    change [widget.id].Perm tab.widgetIDs
    rw [only]
  have cleanAdded : CleanID added.id := cleanTab
  have consistent := wellFormed.tabs.append cleanAdded freshTab shows (by
    intro id mem
    have same : id = widget.id := by
      change id ∈ tab.widgetIDs at mem
      simpa [only] using mem
    rw [same]
    exact freshWidget)
  have widgets : s.widgets.map Widget.id ++ added.widgetIDs =
      (s.widgets ++ [widget]).map Widget.id := by
    rw [only, map_append, map_singleton]
  rw [widgets] at consistent
  refine ⟨consistent, ?_, wellFormed.layouts⟩
  refine .inr ⟨added, by simp [added], rfl, ?_⟩
  rw [only]
  exact mem_singleton_self _

theorem split_target_in_mem (nonempty : tab.widgetIDs ≠ []) (requested : String) :
    s.splitTargetIn tab requested ∈ tab.widgetIDs := by
  unfold splitTargetIn
  dsimp only
  split_ifs with unusable active
  · exact active.2
  · cases widgetIDs : tab.widgetIDs with
    | nil => exact absurd widgetIDs nonempty
    | cons head tail => exact getLast_mem _
  · rw [not_or, not_not] at unusable
    exact unusable.2

theorem split_at_shown_widget (panes : PaneTree) {target widgetID : String}
    (targetShown : target ∈ panes.widgetIDs) (clean : CleanID widgetID)
    (fresh : widgetID ∉ panes.widgetIDs) {direction : WindowSplitDirection}
    {nextLayout : WindowLayoutNode}
    (changed : splitWindowLayoutAtWidget panes.layout target widgetID direction =
      .ok (nextLayout, true)) :
    ∃ next : PaneTree, nextLayout = next.layout ∧
      next.widgetIDs.Perm (widgetID :: panes.widgetIDs) := by
  have cleanTarget := panes.clean target targetShown
  have spec : ∃ axis before,
      splitSpecFromDirection direction = .ok (SplitAxis.toAxis axis, before) := by
    cases direction with
    | left => exact ⟨.horizontal, true, rfl⟩
    | right => exact ⟨.horizontal, false, rfl⟩
    | top => exact ⟨.vertical, true, rfl⟩
    | bottom => exact ⟨.vertical, false, rfl⟩
    | other raw =>
      simp [splitWindowLayoutAtWidget, splitSpecFromDirection, cleanTarget.1, cleanTarget.2,
        clean.1, clean.2, bind, Except.bind] at changed
  obtain ⟨axis, before, spec⟩ := spec
  obtain ⟨path, located⟩ := exists_leaf_path targetShown
  have split := split_at_widget_layout_of cleanTarget clean spec located
  rw [PaneTree.layout, split] at changed
  cases changed
  have same := leaves_modify_at_perm_cons
    (leaves_beside_perm axis before widgetID) (subtree_leaf_path located)
  refine ⟨⟨_, ?_, ?_⟩, rfl, same⟩
  · intro id member
    rw [same.mem_iff, mem_cons] at member
    rcases member with rfl | member
    · exact clean
    · exact panes.clean id member
  · rw [same.nodup_iff, nodup_cons]
    exact ⟨fresh, panes.distinct⟩

theorem split_tab_with_widget_well_formed (wellFormed : WellFormed s) {targetWidgetID : String}
    (admissible : Admissible s (.splitTabWithWidget tabID targetWidgetID widget direction)) :
    WellFormed (s.splitTabWithWidget tabID targetWidgetID widget direction).2 := by
  obtain ⟨cleanWidget, freshWidget⟩ := admissible
  unfold splitTabWithWidget
  cases found : s.tabIndex? tabID with
  | none => exact wellFormed
  | some index =>
    obtain ⟨before, tab, after, tabsEq, rfl, sameID⟩ := tab_index_split found
    have consistent := wellFormed.tabs
    rw [tabsEq] at consistent
    have shows := consistent.panes tab (by simp)
    simp only [tabsEq, get_at_split, set_at_split]
    split_ifs with noWidgets
    · exact wellFormed
    have targetShown := split_target_in_mem (s := s) shows.widget_ids_nonempty targetWidgetID
    rw [shows.normalize_window_layout]
    obtain ⟨panes, layout, same⟩ := shows
    rw [layout]
    split
    · exact wellFormed
    · exact wellFormed
    next nextLayout changed =>
      have shownWidgets : ∀ id ∈ panes.widgetIDs, id ∈ s.widgets.map Widget.id := by
        intro id mem
        apply consistent.partition.mem_iff.mp
        exact mem_flatMap.mpr ⟨tab, by simp, same.mem_iff.mp mem⟩
      obtain ⟨nextPanes, nextEq, added⟩ := split_at_shown_widget panes
        (same.mem_iff.mpr targetShown) cleanWidget
        (fun mem => freshWidget (shownWidgets _ mem)) changed
      let next : Tab :=
        { tab with
          widgetIDs := tab.widgetIDs ++ [widget.id]
          windowLayout := nextLayout }
      have nextShows : ShowsPanes next := by
        refine ⟨nextPanes, nextEq, added.trans ?_⟩
        exact (same.cons widget.id).trans (perm_append_singleton _ _).symm
      have widgets : (s.widgets ++ [widget]).map Widget.id =
          s.widgets.map Widget.id ++ [widget.id] := by simp
      refine ⟨?_, ?_, wellFormed.layouts⟩
      · refine consistent.replace (rfl : next.id = tab.id) nextShows ?_ ?_
        · rw [widgets]
          have partition := consistent.partition
          rw [flatMap_append] at partition ⊢
          have moved : (before.flatMap Tab.widgetIDs ++
              ((tab.widgetIDs ++ [widget.id]) ++ after.flatMap Tab.widgetIDs)).Perm
                (before.flatMap Tab.widgetIDs ++
                  (tab.widgetIDs ++ after.flatMap Tab.widgetIDs) ++ [widget.id]) := by
            simp only [append_assoc]
            exact (perm_append_comm.append_left _).append_left _
          exact moved.trans (partition.append_right _)
        · rw [widgets, nodup_append]
          refine ⟨consistent.distinctWidgets, by simp, ?_⟩
          rintro id mem other single rfl
          rw [mem_singleton] at single
          rw [single] at mem
          exact freshWidget mem
      · refine .inr ⟨next, mem_append_right _ mem_cons_self, sameID, ?_⟩
        exact mem_append_right _ (mem_singleton_self _)

theorem move_widget_by_split_well_formed (wellFormed : WellFormed s)
    (tabID id targetWidgetID : String) (direction : WindowMoveDirection) :
    WellFormed (s.moveWidgetBySplit tabID id targetWidgetID direction).2 := by
  unfold moveWidgetBySplit
  cases found : s.tabIndex? tabID with
  | none => exact wellFormed
  | some index =>
    obtain ⟨before, tab, after, tabsEq, rfl, sameID⟩ := tab_index_split found
    have consistent := wellFormed.tabs
    rw [tabsEq] at consistent
    have shows := consistent.panes tab (by simp)
    simp only [tabsEq, get_at_split, set_at_split, shows.normalize_window_layout]
    split_ifs with blank same widgetShown targetShown
    · exact wellFormed
    · exact wellFormed
    · obtain ⟨panes, layout, permuted⟩ := shows
      rw [layout]
      split
      · exact wellFormed
      · exact wellFormed
      next nextLayout changed =>
        obtain ⟨nextPanes, nextEq, kept⟩ := moved_layout_shows_same_widgets
          (permuted.mem_iff.mpr widgetShown) (permuted.mem_iff.mpr targetShown) same changed
        let next : Tab := { tab with windowLayout := nextLayout }
        have nextShows : ShowsPanes next := ⟨nextPanes, nextEq, kept.trans permuted⟩
        refine ⟨consistent.relabel (rfl : next.id = tab.id) rfl nextShows, ?_,
          wellFormed.layouts⟩
        exact .inr ⟨next, mem_append_right _ mem_cons_self, sameID, widgetShown⟩
    · exact wellFormed
    · exact wellFormed

theorem activate_neighbour_well_formed {closed : Snapshot} {widgetOf : Tab → String}
    (tabs : TabsConsistent closed.tabs (closed.widgets.map Widget.id))
    (layouts : LayoutsConsistent closed.layout closed.layouts closed.activeLayoutID)
    (nonempty : closed.tabs ≠ []) (index : Nat)
    (shown : ∀ tab ∈ closed.tabs, widgetOf tab ∈ tab.widgetIDs) :
    WellFormed (Snapshot.activateNeighbour closed.tabs index widgetOf closed) := by
  unfold activateNeighbour
  have positive := length_pos_of_ne_nil nonempty
  have bound : min index (closed.tabs.length - 1) < closed.tabs.length := by omega
  rw [getElem?_eq_getElem bound]
  have member := getElem_mem bound
  exact ⟨tabs, on_tab member (shown _ member), layouts⟩

theorem close_tab_well_formed (wellFormed : WellFormed s) (tabID : String) :
    WellFormed (s.closeTab tabID).2 := by
  unfold closeTab
  cases found : s.tabIndex? tabID with
  | none => exact wellFormed
  | some index =>
    obtain ⟨before, tab, after, tabsEq, rfl, sameID⟩ := tab_index_split found
    have consistent := wellFormed.tabs
    have focus := wellFormed.focus
    rw [tabsEq] at consistent focus
    have shows := consistent.panes tab (by simp)
    have nonempty : tab.widgetIDs.isEmpty = false := by
      rw [isEmpty_eq_false_iff]
      exact shows.widget_ids_nonempty
    simp only [tabsEq, get_at_split, erase_idx_at_split, nonempty, Bool.false_eq_true, if_false]
    let widgets := s.widgets.filter fun widget => !tab.widgetIDs.contains widget.id
    have widgetsEq : widgets.map Widget.id =
        (s.widgets.map Widget.id).filter fun id => !tab.widgetIDs.contains id := by
      rw [filter_map]
      rfl
    have remaining : TabsConsistent (before ++ after) (widgets.map Widget.id) := by
      apply consistent.erase
      · rw [widgetsEq]
        apply consistent.partition_without
        · intro widgetID dropped
          simpa using dropped
        · rw [filter_eq_nil_iff]
          intro widgetID member
          simp [member]
      · rw [widgetsEq]
        exact consistent.distinctWidgets.filter _
    split_ifs with none wasActive hadWidget
    · rw [List.isEmpty_iff] at none
      exact ⟨remaining, .inl ⟨none, rfl, rfl⟩, wellFormed.layouts⟩
    · rw [List.isEmpty_iff] at none
      let closed : Snapshot := { s with tabs := before ++ after, widgets := widgets }
      have left : TabsConsistent closed.tabs (closed.widgets.map Widget.id) := remaining
      apply activate_neighbour_well_formed left wellFormed.layouts none
      intro other member
      exact (remaining.panes other member).head_mem _
    · have elsewhere := focus.erase (by rw [sameID]; exact wasActive)
      split
      next activeTab located =>
        unfold findTabLocked at located
        split at located
        next entry entryFound =>
          cases located
          have member := mem_of_find?_eq_some entryFound
          have named := find?_some entryFound
          rw [beq_iff_eq] at named
          exact ⟨remaining, .inr ⟨activeTab, member, named,
            (remaining.panes activeTab member).head_mem _⟩, wellFormed.layouts⟩
        · cases located
      · exact ⟨remaining, elsewhere, wellFormed.layouts⟩
    · exact ⟨remaining, focus.erase (by rw [sameID]; exact wasActive), wellFormed.layouts⟩

theorem layout_without_shown_widget {panes : PaneTree} (same : panes.widgetIDs.Perm widgetIDs)
    {id firstWidgetID : String} (shown : id ∈ widgetIDs)
    (firstKept : firstWidgetID ∈ widgetIDs.filter (· ≠ id)) :
    ∃ rest : PaneTree, Snapshot.layoutWithout panes.layout id firstWidgetID = rest.layout ∧
    rest.widgetIDs.Perm (widgetIDs.filter (· ≠ id)) := by
  have inPanes : id ∈ panes.tree.leaves := same.mem_iff.mpr shown
  obtain ⟨firstMember, ne⟩ := mem_filter.mp firstKept
  have firstShown : firstWidgetID ∈ panes.widgetIDs := same.mem_iff.mpr firstMember
  obtain ⟨rest, pruned, _⟩ :=
    prune_shown_widget firstShown (Ne.symm (of_decide_eq_true ne))
  refine ⟨rest, ?_, ?_⟩
  · unfold layoutWithout
    rw [PaneTree.layout, remove_widget_layout_of (panes.clean id inPanes),
      pruned, decide_eq_true inPanes]
    split
    · next unchanged => cases unchanged
    · next empty => exact absurd (congrArg Prod.fst empty) (layout_of_ne_nil rest.tree)
    next kept =>
      have sameLayout := congrArg Prod.fst kept
      exact sameLayout.symm
  · rw [PaneTree.widgetIDs, leaves_of_prune_eq_some pruned]
    exact same.filter _

section

variable {before after : List Tab}

theorem dropped_shown (shown : widgetID ∈ tab.widgetIDs) (id : String)
    (dropped : decide (id ≠ widgetID) = false) : id ∈ tab.widgetIDs := by
  have isClosed : id = widgetID := by simpa using dropped
  rw [isClosed]
  exact shown

section

variable (inv : TabsConsistent (before ++ tab :: after) widgetIDs)
  (shown : widgetID ∈ tab.widgetIDs)
include inv shown

theorem TabsConsistent.close_one_widget {next : Tab} (sameID : next.id = tab.id)
    (shows : ShowsPanes next) (others : tab.widgetIDs.filter (· ≠ widgetID) = next.widgetIDs) :
    TabsConsistent (before ++ next :: after) (widgetIDs.filter (· ≠ widgetID)) := by
  refine inv.replace sameID shows ?_ (inv.distinctWidgets.filter _)
  have partition := inv.partition_filter (dropped_shown shown)
  rw [others] at partition
  rw [flatMap_append]
  exact partition

end

end

section

variable (wellFormed : WellFormed s)
include wellFormed

theorem close_widget_well_formed (widgetID : String) : WellFormed (s.closeWidget widgetID).2 := by
  unfold closeWidget
  generalize trimSpace widgetID = widgetID
  by_cases blank : widgetID = ""
  · rw [if_pos blank]
    exact wellFormed
  rw [if_neg blank]
  cases widgetFound : s.widgets.findIdx? (·.id == widgetID) with
  | none => exact wellFormed
  | some widgetIndex =>
    cases tabFound : s.tabs.findIdx? (·.widgetIDs.contains widgetID) with
    | none => exact wellFormed
    | some tabIndex =>
      obtain ⟨widgetsBefore, widget, widgetsAfter, widgetsEq, rfl, matched⟩ :=
        split_at_find_idx widgetFound
      obtain ⟨before, tab, after, tabsEq, rfl, holds⟩ := split_at_find_idx tabFound
      have shown : widgetID ∈ tab.widgetIDs := by simpa using holds
      rw [beq_iff_eq] at matched
      have consistent := wellFormed.tabs
      have focus := wellFormed.focus
      rw [tabsEq] at consistent focus
      have widgetsLeft : (widgetsBefore ++ widgetsAfter).map Widget.id =
          (s.widgets.map Widget.id).filter (· ≠ widgetID) := by
        have distinct := consistent.distinctWidgets
        rw [widgetsEq, map_append] at distinct
        rw [widgetsEq, ← matched, map_append, map_append]
        exact erased_eq_filter distinct
      have shows := consistent.panes tab (by simp)
      simp only [tabsEq, widgetsEq, get_at_split, erase_idx_at_split, set_at_split,
        shows.normalize_window_layout]
      cases others : tab.widgetIDs.filter (· ≠ widgetID) with
      | nil =>
        have remaining : TabsConsistent (before ++ after)
            ((widgetsBefore ++ widgetsAfter).map Widget.id) := by
          rw [widgetsLeft]
          exact consistent.erase (consistent.partition_without (dropped_shown shown) others)
            (consistent.distinctWidgets.filter _)
        dsimp only
        split_ifs with none wasActive
        · rw [List.isEmpty_iff] at none
          exact ⟨remaining, .inl ⟨none, rfl, rfl⟩, wellFormed.layouts⟩
        · rw [List.isEmpty_iff] at none
          let closed : Snapshot :=
            { s with tabs := before ++ after, widgets := widgetsBefore ++ widgetsAfter }
          have left : TabsConsistent closed.tabs (closed.widgets.map Widget.id) := remaining
          apply activate_neighbour_well_formed left wellFormed.layouts none
          intro other mem
          exact (remaining.panes other mem).first_leaf_or_mem _
        · rw [not_or] at wasActive
          exact ⟨remaining, focus.erase wasActive.1, wellFormed.layouts⟩
      | cons firstWidgetID more =>
        obtain ⟨panes, layout, same⟩ := shows
        have firstKept : firstWidgetID ∈ tab.widgetIDs.filter (· ≠ widgetID) := by
          rw [others]
          exact mem_cons_self
        obtain ⟨rest, nextLayout, left⟩ := layout_without_shown_widget same shown firstKept
        rw [others] at left
        dsimp only
        rw [layout, nextLayout, layout_proper rest left]
        let next : Tab :=
          { tab with
            widgetIDs := firstWidgetID :: more
            windowLayout := rest.layout }
        have nextShows : ShowsPanes next := ⟨rest, rfl, left⟩
        have remaining : TabsConsistent (before ++ next :: after)
            ((widgetsBefore ++ widgetsAfter).map Widget.id) := by
          rw [widgetsLeft]
          exact consistent.close_one_widget shown rfl nextShows others
        have nextMember : next ∈ before ++ next :: after :=
          mem_append_right _ mem_cons_self
        split_ifs with wasActive
        · exact ⟨remaining, on_tab nextMember
            (nextShows.first_leaf_or_mem _), wellFormed.layouts⟩
        refine ⟨remaining, focus.replace (rfl : next.id = tab.id) ?_, wellFormed.layouts⟩
        intro activeShown
        rw [← others]
        exact mem_filter.mpr ⟨activeShown, decide_eq_true wasActive⟩

theorem update_tab_well_formed (tabID : String) {change : Tab → Tab}
    (sameID : ∀ tab, (change tab).id = tab.id)
    (sameWidgets : ∀ tab, (change tab).widgetIDs = tab.widgetIDs)
    (sameLayout : ∀ tab, (change tab).windowLayout = tab.windowLayout) :
    WellFormed (s.updateTab tabID change).2 := by
  unfold updateTab
  cases found : s.tabIndex? tabID with
  | none => exact wellFormed
  | some index =>
    obtain ⟨before, tab, after, tabsEq, rfl, _⟩ := tab_index_split found
    have consistent := wellFormed.tabs
    have focus := wellFormed.focus
    rw [tabsEq] at consistent focus
    simp only [tabsEq, get_at_split, set_at_split]
    have shows : ShowsPanes (change tab) := by
      obtain ⟨panes, layout, same⟩ := consistent.panes tab (by simp)
      refine ⟨panes, (sameLayout tab).trans layout, ?_⟩
      rw [sameWidgets]
      exact same
    refine ⟨consistent.relabel (sameID tab) (sameWidgets tab) shows, ?_, wellFormed.layouts⟩
    apply focus.replace (sameID tab)
    rw [sameWidgets]
    exact id

theorem rename_tab_well_formed (id title : String) : WellFormed (s.renameTab id title).2 := by
  unfold renameTab
  dsimp only
  split_ifs with blank
  · exact wellFormed
  · exact update_tab_well_formed wellFormed id (fun _ => rfl) (fun _ => rfl) (fun _ => rfl)

theorem set_tab_pinned_well_formed (id : String) (pinned : Bool) :
    WellFormed (s.setTabPinned id pinned).2 :=
  update_tab_well_formed wellFormed id (fun _ => rfl) (fun _ => rfl) (fun _ => rfl)

theorem move_tab_well_formed (id beforeTabID : String) :
    WellFormed (s.moveTab id beforeTabID).2 := by
  unfold moveTab
  split
  · exact wellFormed
  split
  · exact wellFormed
  next fromIndex _ =>
    split
    · exact wellFormed
    next toIndex _ =>
      split
      next tab beforeTab tabAt _ =>
        split
        · exact wellFormed
        generalize (if fromIndex < toIndex then toIndex - 1 else toIndex) = position
        have moved : ((s.tabs.eraseIdx fromIndex).take position ++
            tab :: (s.tabs.eraseIdx fromIndex).drop position).Perm s.tabs := by
          obtain ⟨before, after, whole, rfl⟩ := split_at_get tabAt
          rw [whole, erase_idx_at_split]
          refine perm_middle.trans ?_
          rw [take_append_drop]
          exact perm_middle.symm
        exact ⟨wellFormed.tabs.perm moved, wellFormed.focus.perm moved,
          wellFormed.layouts⟩
      · exact wellFormed

theorem locked_well_formed {layout : Layout}
    (normal : LayoutNormal layout) : WellFormed (s.applyLayoutLocked layout) :=
  ⟨wellFormed.tabs, wellFormed.focus, wellFormed.layouts.apply_layout normal⟩

theorem update_layout_well_formed (layout : Layout) : WellFormed (s.updateLayout layout).2 :=
  locked_well_formed wellFormed
    (normalize_layout_normal layout wellFormed.layouts.current_normal)

end

theorem next_layout_id_locked_clean (s : Snapshot) : CleanID s.nextLayoutIDLocked := by
  have candidate : ∀ index : Nat, CleanID ("layout-" ++ toString index) :=
    clean_id_append_number (by decide) (by decide)
  have search : ∀ fuel index, CleanID (s.nextLayoutIDFrom index fuel) := by
    intro fuel
    induction fuel with
    | zero => exact candidate
    | succ fuel ih =>
      intro index
      unfold nextLayoutIDFrom
      dsimp only
      split_ifs
      · exact ih (index + 1)
      · exact candidate index
  exact search _ _

theorem LayoutNormal.with_id {layout : Layout} (normal : LayoutNormal layout) {layoutID : String}
    (clean : CleanID layoutID) : LayoutNormal { layout with id := layoutID } :=
  ⟨clean, normal.knownMode, normal.validSurfaces, normal.distinctSurfaces,
    normal.terminalSurface, normal.activeSurface⟩

theorem save_layout_well_formed (wellFormed : WellFormed s) (layoutID : String) :
    WellFormed (s.saveLayout layoutID).2 := by
  apply locked_well_formed wellFormed
  apply wellFormed.layouts.current_normal.with_id
  split_ifs with blank
  · exact next_layout_id_locked_clean s
  · exact clean_id_trim blank

theorem switch_layout_well_formed (wellFormed : WellFormed s) (layoutID : String) :
    WellFormed (s.switchLayout layoutID).2 := by
  unfold switchLayout
  dsimp only
  split
  next layout found =>
    apply locked_well_formed wellFormed
    apply (normalize_layout_normal layout wellFormed.layouts.current_normal).with_id
    exact (wellFormed.layouts.normal layout (mem_of_find?_eq_some found)).cleanID
  · exact wellFormed

end

theorem Action.perform_well_formed (wellFormed : WellFormed s) {action : Action}
    (admissible : Admissible s action) : WellFormed (action.perform s).2 := by
  cases action with
  | focusWidget widgetID =>
    simpa [Action.perform] using focus_widget_well_formed wellFormed widgetID
  | focusTab id =>
    simpa [Action.perform] using focus_tab_well_formed wellFormed id
  | addTerminalTab tab widget =>
    simpa [Action.perform] using add_terminal_tab_well_formed wellFormed admissible
  | splitTabWithWidget id targetWidgetID widget direction =>
    simpa [Action.perform] using split_tab_with_widget_well_formed wellFormed admissible
  | moveWidgetBySplit id widgetID targetWidgetID direction =>
    simpa [Action.perform] using
      move_widget_by_split_well_formed wellFormed id widgetID targetWidgetID direction
  | closeTab id =>
    simpa [Action.perform] using close_tab_well_formed wellFormed id
  | closeWidget widgetID =>
    simpa [Action.perform] using close_widget_well_formed wellFormed widgetID
  | renameTab id title =>
    simpa [Action.perform] using rename_tab_well_formed wellFormed id title
  | setTabPinned id pinned =>
    simpa [Action.perform] using set_tab_pinned_well_formed wellFormed id pinned
  | moveTab id beforeTabID =>
    simpa [Action.perform] using move_tab_well_formed wellFormed id beforeTabID
  | updateLayout layout =>
    simpa [Action.perform] using update_layout_well_formed wellFormed layout
  | saveLayout layoutID =>
    simpa [Action.perform] using save_layout_well_formed wellFormed layoutID
  | switchLayout layoutID =>
    simpa [Action.perform] using switch_layout_well_formed wellFormed layoutID

/-- The snapshots of the service after any run from the default workspace. A
step that returns an error counts like any other. -/
inductive Reachable : Snapshot → Prop where
  | start : Reachable bootstrapDefault
  | step {s : Snapshot} (reached : Reachable s) (action : Action)
      (admissible : Admissible s action) : Reachable (action.perform s).2

theorem default_layout_normal : LayoutNormal defaultLayout := by
  exact ⟨by decide, rfl, by decide, by decide, by decide, by decide⟩

theorem default_well_formed : WellFormed bootstrapDefault := by
  refine ⟨⟨by decide, by decide, List.Perm.refl _, by decide, ?_⟩, ?_, ?_⟩
  · intro tab mem
    rw [bootstrapDefault, mem_cons, mem_singleton] at mem
    rcases mem with rfl | rfl
    · exact ⟨PaneTree.single "term-main" (by decide), rfl, List.Perm.refl _⟩
    · exact ⟨PaneTree.single "term-side" (by decide), rfl, List.Perm.refl _⟩
  · exact on_tab mem_cons_self (by decide)
  refine ⟨?_, by decide, mem_cons_self, rfl⟩
  intro entry mem
  rw [mem_singleton.mp mem]
  exact default_layout_normal

theorem Reachable.well_formed (reachable : Reachable s) : WellFormed s := by
  induction reachable with
  | start => exact default_well_formed
  | step _ action admissible ih => exact Action.perform_well_formed ih admissible

/-- The invariant in terms of the five structures that a snapshot couples. -/
structure RepresentationInvariant (s : Snapshot) : Prop where
  tabIDsDistinct : (s.tabs.map Tab.id).Nodup
  tabsShowWidgets : ∀ tab ∈ s.tabs, tab.widgetIDs ≠ [] ∧ tab.widgetIDs.Nodup
  tabsDisjoint : s.tabs.Pairwise fun tab other => tab.widgetIDs.Disjoint other.widgetIDs
  widgetsOfTabs : ∀ widgetID, widgetID ∈ s.widgets.map Widget.id ↔
    ∃ tab ∈ s.tabs, widgetID ∈ tab.widgetIDs
  widgetIDsDistinct : (s.widgets.map Widget.id).Nodup
  windowLayouts : ∀ tab ∈ s.tabs, ∃ panes : PaneTree, tab.windowLayout = panes.layout ∧
    panes.widgetIDs.Perm tab.widgetIDs
  noFocusIffNoTabs : s.activeTabID = "" ∧ s.activeWidgetID = "" ↔ s.tabs = []
  focus : s.tabs ≠ [] → ∃ tab ∈ s.tabs, tab.id = s.activeTabID ∧ s.activeWidgetID ∈ tab.widgetIDs
  layoutIDsDistinct : (s.layouts.map Layout.id).Nodup
  currentLayout : s.layout ∈ s.layouts ∧ s.activeLayoutID = s.layout.id

theorem WellFormed.representation_invariant (wellFormed : WellFormed s) :
    RepresentationInvariant s where
  tabIDsDistinct := wellFormed.tabs.distinctIDs
  tabsShowWidgets := by
    intro tab mem
    have shows := wellFormed.tabs.panes tab mem
    exact ⟨shows.widget_ids_nonempty, shows.widget_ids_nodup⟩
  tabsDisjoint := by
    have distinct := wellFormed.tabs.partition.nodup_iff.mpr wellFormed.tabs.distinctWidgets
    exact (nodup_flatMap.mp distinct).2
  widgetsOfTabs := by
    intro id
    rw [← wellFormed.tabs.partition.mem_iff, mem_flatMap]
  widgetIDsDistinct := wellFormed.tabs.distinctWidgets
  windowLayouts := wellFormed.tabs.panes
  noFocusIffNoTabs := by
    rcases wellFormed.focus with ⟨none, noTab, noWidget⟩ | ⟨tab, mem, sameID, shown⟩
    · exact ⟨fun _ => none, fun _ => ⟨noTab, noWidget⟩⟩
    refine ⟨?_, ?_⟩
    · rintro ⟨noTab, _⟩
      exact absurd (sameID.trans noTab) (wellFormed.tabs.cleanIDs tab mem).2
    · intro none
      rw [none] at mem
      cases mem
  focus := by
    intro some
    rcases wellFormed.focus with ⟨none, _⟩ | focused
    · exact absurd none some
    · exact focused
  layoutIDsDistinct := wellFormed.layouts.distinctIDs
  currentLayout := ⟨wellFormed.layouts.listed, wellFormed.layouts.active⟩

theorem reachable_representation_invariant {s : Snapshot} (reachable : Reachable s) :
    RepresentationInvariant s :=
  reachable.well_formed.representation_invariant

def splitPane : Widget where
  id := "term-1"
  kind := .terminal
  title := "Build"
  terminalID := "term-1"
  connectionID := "local"

/-- A split of the main tab followed by the close of the pane it was made at. -/
theorem representation_invariant_after_split_and_close :
    RepresentationInvariant
      ((Action.closeWidget "term-main").perform
        ((Action.splitTabWithWidget "tab-main" "term-main" splitPane .right).perform
          bootstrapDefault).2).2 :=
  reachable_representation_invariant
    (.step (.step .start (.splitTabWithWidget "tab-main" "term-main" splitPane .right)
      ⟨by decide, by decide⟩) (.closeWidget "term-main") trivial)

end RuneTerminal.Workspace
