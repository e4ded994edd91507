import RuneTerminal.Workspace.WindowTree

/-! `moveWindowLayoutByDirection` takes a leaf out of a proper layout and puts it back beside the
target leaf or around the nearest split of the named axis in the layout that is left. -/

namespace RuneTerminal.Workspace

open Go.Strings Kit List SplitTree PaneTree

/-- What a move does: exchange two panes, or put one beside the target or
around an outer split, along an axis and on a side. -/
inductive MovePlacement where
  | swap
  | inner (axis : SplitAxis) (before : Bool)
  | outer (axis : SplitAxis) (before : Bool)

def WindowMoveDirection.placement : WindowMoveDirection → Option MovePlacement
  | .left => some (.inner .horizontal true)
  | .right => some (.inner .horizontal false)
  | .top => some (.inner .vertical true)
  | .bottom => some (.inner .vertical false)
  | .outerLeft => some (.outer .horizontal true)
  | .outerRight => some (.outer .horizontal false)
  | .outerTop => some (.outer .vertical true)
  | .outerBottom => some (.outer .vertical false)
  | .center => some .swap
  | .other _ => none

/-- Somewhere in `result` the widget shares a split with `sibling`, on the
named side and along the named axis. -/
def HasSibling (result : WindowTree) (axis : SplitAxis) (before : Bool) (widgetID : String)
    (sibling : WindowTree) : Prop :=
  ∃ path, result.subtree? path = some (SplitTree.beside axis before widgetID sibling)

/-- The widget stands beside what is left of the nearest non-root split of the
target along `axis`, read in `reference`; beside the target when there is none. -/
def PlacedAround (reference result : WindowTree) (axis : SplitAxis) (before : Bool)
    (widgetID targetWidgetID : String) : Prop :=
  ∃ leafAt, reference.leafPath targetWidgetID = some leafAt ∧
    ((∃ path ancestor group, reference.NearestOuterSplit axis leafAt path ∧
        reference.subtree? path = some ancestor ∧
        ancestor.prune (· ≠ widgetID) = some group ∧
        HasSibling result axis before widgetID group) ∨
      ((∀ path, ¬reference.OuterSplit axis leafAt path) ∧
        HasSibling result axis before widgetID (.leaf targetWidgetID)))

/-- The tree after a move, against the tree before it and `reference`, the
tree in which an outer move looks for its split. -/
def MovedTo (panes reference result : WindowTree) (widgetID targetWidgetID : String) :
    MovePlacement → Prop
  | .swap => result = panes.map (exchange widgetID targetWidgetID)
  | .inner axis before =>
    HasSibling result axis before widgetID (.leaf targetWidgetID) ∧
      result.leaves.filter (· ≠ widgetID) = panes.leaves.filter (· ≠ widgetID)
  | .outer axis before =>
    PlacedAround reference result axis before widgetID targetWidgetID ∧
      result.leaves.filter (· ≠ widgetID) = panes.leaves.filter (· ≠ widgetID)

variable {tree : WindowTree} {axis : SplitAxis} {leafAt path : List Bool} {targetWidgetID : String}
  {direction : WindowMoveDirection} {before : Bool} {depth : Nat}

theorem outer_split_length (outer : tree.OuterSplit axis leafAt path) :
    path.length < leafAt.length := by
  obtain ⟨_, isPrefix, ne, _⟩ := outer
  have bounded := isPrefix.length_le
  have lengths : path.length ≠ leafAt.length := fun same =>
    ne (isPrefix.eq_of_length same)
  omega

theorem outer_split_take_iff (bound : depth + 1 < leafAt.length) :
    tree.OuterSplit axis leafAt (leafAt.take (depth + 1)) ↔
    isSplitAlong axis.toAxis (nodeAtWindowPath (layoutOf tree) (leafAt.take (depth + 1))) := by
  rw [node_at_window_path_layout_of, is_split_along_layout_of_option]
  constructor
  · rintro ⟨_, _, _, found⟩
    exact found
  intro found
  have size : (leafAt.take (depth + 1)).length = depth + 1 := by
    rw [length_take]
    omega
  refine ⟨?_, take_prefix _ _, ?_, found⟩
  · intro empty
    rw [empty] at size
    cases size
  · intro same
    rw [same] at size
    omega

theorem outer_insert_path_from_some (bound : depth < leafAt.length)
    (result : outerInsertPathFrom (layoutOf tree) axis.toAxis leafAt depth = some path) :
    tree.OuterSplit axis leafAt path ∧ ∀ other, tree.OuterSplit axis leafAt other →
    other.length ≤ depth → other <+: path := by
  induction depth with
  | zero => simp [outerInsertPathFrom] at result
  | succ depth ih =>
    simp only [outerInsertPathFrom] at result
    split at result
    next along =>
      cases result
      refine ⟨(outer_split_take_iff bound).mpr along, ?_⟩
      intro other outer short
      rw [prefix_iff_eq_take.mp outer.2.1]
      exact take_prefix_take_left short
    next notAlong =>
      obtain ⟨outer, nearest⟩ := ih (by omega) result
      refine ⟨outer, ?_⟩
      intro other otherOuter short
      apply nearest other otherOuter
      by_contra deep
      have size : other.length = depth + 1 := by omega
      apply notAlong
      apply (outer_split_take_iff bound).mp
      rw [← size, ← prefix_iff_eq_take.mp otherOuter.2.1]
      exact otherOuter

theorem outer_insert_path_from_none (bound : depth < leafAt.length)
    (result : outerInsertPathFrom (layoutOf tree) axis.toAxis leafAt depth = none) :
    ∀ other, tree.OuterSplit axis leafAt other → depth < other.length := by
  induction depth with
  | zero =>
    rintro other ⟨nonempty, _⟩
    exact length_pos_iff.mpr nonempty
  | succ depth ih =>
    simp only [outerInsertPathFrom] at result
    split at result
    · cases result
    next notAlong =>
      intro other outer
      have deeper := ih (by omega) result other outer
      have size : other.length ≠ depth + 1 := by
        intro size
        apply notAlong
        apply (outer_split_take_iff bound).mp
        rw [← size, ← prefix_iff_eq_take.mp outer.2.1]
        exact outer
      omega

theorem outer_insert_path_for_target_spec (clean : CleanID targetWidgetID)
    (located : tree.leafPath targetWidgetID = some leafAt) :
    (∃ path, outerInsertPathForTarget (layoutOf tree) targetWidgetID axis.toAxis = some path ∧
      tree.NearestOuterSplit axis leafAt path) ∨
    (outerInsertPathForTarget (layoutOf tree) targetWidgetID axis.toAxis = none ∧
      ∀ path, ¬tree.OuterSplit axis leafAt path) := by
  have unfolded : outerInsertPathForTarget (layoutOf tree) targetWidgetID axis.toAxis =
      outerInsertPathFrom (layoutOf tree) axis.toAxis leafAt (leafAt.length - 1) := by
    simp [outerInsertPathForTarget, find_window_leaf_path_layout_of clean, located]
  rw [unfolded]
  cases leafAt with
  | nil =>
    refine .inr ⟨rfl, ?_⟩
    intro path outer
    have short := outer_split_length outer
    simp at short
  | cons step below =>
    have bound : (step :: below).length - 1 < (step :: below).length := by simp
    cases result : outerInsertPathFrom (layoutOf tree) axis.toAxis (step :: below)
        ((step :: below).length - 1) with
    | some path =>
      obtain ⟨outer, nearest⟩ := outer_insert_path_from_some bound result
      refine .inl ⟨path, rfl, outer, ?_⟩
      intro other otherOuter
      apply nearest other otherOuter
      have short := outer_split_length otherOuter
      omega
    | none =>
      refine .inr ⟨rfl, ?_⟩
      intro path outer
      have deep := outer_insert_path_from_none bound result path outer
      have short := outer_split_length outer
      omega

def PaneTree.rearranged (panes : PaneTree) (tree : WindowTree)
    (same : tree.leaves.Perm panes.tree.leaves) : PaneTree where
  tree := tree
  clean := fun widgetID member => panes.clean widgetID (same.mem_iff.mp member)
  distinct := same.nodup_iff.mpr panes.distinct

theorem placing_direction_spec {direction : WindowMoveDirection} {before : Bool}
    (placing : direction.placement = some (.inner axis before) ∨
      direction.placement = some (.outer axis before)) :
    direction ≠ .center ∧ splitSpecFromMoveDirection direction = .ok (axis.toAxis, before) ∧
    ∃ fallback, fallbackSplitDirection direction = .ok fallback ∧
      splitSpecFromDirection fallback = .ok (axis.toAxis, before) := by
  rcases placing with placing | placing <;>
    cases direction <;> cases placing <;>
    exact ⟨by decide, rfl, _, rfl, rfl⟩

theorem move_direction_is_outer_inner (placing : direction.placement = some (.inner axis before)) :
    moveDirectionIsOuter direction = false := by
  cases direction <;> first | rfl | cases placing

theorem move_direction_is_outer_outer (placing : direction.placement = some (.outer axis before)) :
    moveDirectionIsOuter direction = true := by
  cases direction <;> first | rfl | cases placing

section

variable {panes rest : PaneTree} {widgetID : String}

theorem prune_shown_widget (targetShown : targetWidgetID ∈ panes.widgetIDs)
    (ne : widgetID ≠ targetWidgetID) : ∃ rest : PaneTree, panes.tree.prune (· ≠ widgetID) =
    some rest.tree ∧ targetWidgetID ∈ rest.tree.leaves := by
  have kept : decide (targetWidgetID ≠ widgetID) = true := by
    simpa using Ne.symm ne
  obtain ⟨tree, pruned⟩ := prune_eq_some_of_mem (· ≠ widgetID) targetShown kept
  have leaves := leaves_of_prune_eq_some pruned
  refine ⟨⟨tree, ?_, ?_⟩, pruned, ?_⟩
  · intro id mem
    rw [leaves] at mem
    exact panes.clean id (mem_of_mem_filter mem)
  · rw [leaves]
    exact panes.distinct.filter _
  · rw [leaves]
    exact mem_filter.mpr ⟨targetShown, kept⟩

theorem move_by_placing_direction {rest : PaneTree} (widgetShown : widgetID ∈ panes.widgetIDs)
    (pruned : panes.tree.prune (· ≠ widgetID) = some rest.tree) {axis : SplitAxis} {before : Bool}
    (placing : direction.placement = some (.inner axis before) ∨
      direction.placement = some (.outer axis before))
    (targetShown : targetWidgetID ∈ rest.tree.leaves) {path : List Bool}
    (located : rest.tree.leafPath targetWidgetID = some path) :
    moveWindowLayoutByDirection panes.layout widgetID targetWidgetID direction =
      match (if moveDirectionIsOuter direction then
          outerMove rest.layout widgetID targetWidgetID axis.toAxis before else none) with
      | some next => .ok (next, true)
      | none =>
        .ok (layoutOf
          (rest.tree.modifyAt (SplitTree.beside axis before widgetID) path), true) := by
  obtain ⟨notCenter, spec, fallback, fallbackEq, fallbackSpec⟩ := placing_direction_spec placing
  have cleanWidget := panes.clean widgetID widgetShown
  have cleanTarget := rest.clean targetWidgetID targetShown
  have removed : removeWindowLayoutWidget (layoutOf panes.tree) widgetID =
      (layoutOf rest.tree, true) := by
    have shown : widgetID ∈ panes.tree.leaves := widgetShown
    rw [remove_widget_layout_of cleanWidget, pruned]
    simp [layoutOfOption, shown]
  have inner := split_at_widget_layout_of cleanTarget cleanWidget fallbackSpec
    located
  rw [moveWindowLayoutByDirection, if_neg notCenter, spec]
  cases outer : (if moveDirectionIsOuter direction then
      outerMove rest.layout widgetID targetWidgetID axis.toAxis before else none) with
  | some next =>
    unfold layout at outer
    simp [bind, Except.bind, removed, outer, layout]
  | none =>
    unfold layout at outer
    simp [bind, Except.bind, removed, fallbackEq, inner, outer, layout]

theorem moves_inner (widgetShown : widgetID ∈ panes.widgetIDs)
    (targetShown : targetWidgetID ∈ panes.widgetIDs) (ne : widgetID ≠ targetWidgetID)
    (placing : direction.placement = some (.inner axis before)) :
    ∃ rest result : PaneTree, panes.tree.prune (· ≠ widgetID) = some rest.tree ∧
    moveWindowLayoutByDirection panes.layout widgetID targetWidgetID direction =
    .ok (result.layout, true) ∧ result.widgetIDs.Perm panes.widgetIDs ∧
    MovedTo panes.tree rest.tree result.tree widgetID targetWidgetID (.inner axis before) := by
  obtain ⟨rest, pruned, targetKept⟩ := prune_shown_widget targetShown ne
  obtain ⟨path, located⟩ := exists_leaf_path targetKept
  have position := subtree_leaf_path located
  have same := leaves_reinsert_perm pruned widgetShown panes.distinct position axis
    before
  refine ⟨rest, panes.rearranged _ same, pruned, ?_, same, ⟨path, ?_⟩, ?_⟩
  · rw [move_by_placing_direction widgetShown pruned (.inl placing) targetKept located,
      move_direction_is_outer_inner placing]
    rfl
  · change (rest.tree.modifyAt _ path).subtree? path = _
    rw [subtree_modify_at, position]
    rfl
  · exact leaves_reinsert_filter pruned path axis before

theorem outer_move_spec (before : Bool) (cleanWidget : CleanID widgetID)
    (cleanTarget : CleanID targetWidgetID)
    (located : rest.tree.leafPath targetWidgetID = some leafAt) :
    (∃ path first second, rest.tree.NearestOuterSplit axis leafAt path ∧
      rest.tree.subtree? path = some (.split axis first second) ∧
      outerMove rest.layout widgetID targetWidgetID axis.toAxis before =
        some (layoutOf (rest.tree.modifyAt (SplitTree.beside axis before widgetID) path))) ∨
    ((∀ path, ¬rest.tree.OuterSplit axis leafAt path) ∧
      outerMove rest.layout widgetID targetWidgetID axis.toAxis before = none) := by
  rcases outer_insert_path_for_target_spec cleanTarget located with
    ⟨path, found, nearest⟩ | ⟨missing, noOuter⟩
  · obtain ⟨first, second, position⟩ := nearest.1.2.2.2
    refine .inl ⟨path, first, second, nearest, position, ?_⟩
    have inserted := split_at_path_rec_layout_of widgetID axis before position
    simp [outerMove, layout, found, splitWindowLayoutAtPath, cleanWidget.1,
      cleanWidget.2, inserted]
  · refine .inr ⟨noOuter, ?_⟩
    simp [outerMove, layout, missing]

theorem moves_outer (widgetShown : widgetID ∈ panes.widgetIDs)
    (targetShown : targetWidgetID ∈ panes.widgetIDs) (ne : widgetID ≠ targetWidgetID)
    (placing : direction.placement = some (.outer axis before)) :
    ∃ rest result : PaneTree, panes.tree.prune (· ≠ widgetID) = some rest.tree ∧
    moveWindowLayoutByDirection panes.layout widgetID targetWidgetID direction =
    .ok (result.layout, true) ∧ result.widgetIDs.Perm panes.widgetIDs ∧
    MovedTo panes.tree rest.tree result.tree widgetID targetWidgetID (.outer axis before) := by
  obtain ⟨rest, pruned, targetKept⟩ := prune_shown_widget targetShown ne
  obtain ⟨leafAt, located⟩ := exists_leaf_path targetKept
  have cleanWidget := panes.clean widgetID widgetShown
  have cleanTarget := rest.clean targetWidgetID targetKept
  have moved := move_by_placing_direction widgetShown pruned (.inr placing) targetKept located
  rw [move_direction_is_outer_outer placing] at moved
  rcases outer_move_spec before cleanWidget cleanTarget located with
    ⟨path, first, second, nearest, position, outer⟩ | ⟨noOuter, outer⟩
  · have same := leaves_reinsert_perm pruned widgetShown panes.distinct position axis
      before
    have untouched : (split axis first second).prune (· ≠ widgetID) =
        some (.split axis first second) := by
      apply prune_eq_self
      intro value mem
      have inRest := mem_leaves_of_subtree position mem
      rw [leaves_of_prune_eq_some pruned] at inRest
      exact (mem_filter.mp inRest).2
    refine ⟨rest, panes.rearranged _ same, pruned, ?_, same, ⟨leafAt, located, .inl ?_⟩, ?_⟩
    · rw [moved, outer]
      rfl
    · refine ⟨path, _, _, nearest, position, untouched, path, ?_⟩
      change (rest.tree.modifyAt _ path).subtree? path = _
      rw [subtree_modify_at, position]
      rfl
    · exact leaves_reinsert_filter pruned path axis before
  · have position := subtree_leaf_path located
    have same := leaves_reinsert_perm pruned widgetShown panes.distinct position axis
      before
    refine ⟨rest, panes.rearranged _ same, pruned, ?_, same,
      ⟨leafAt, located, .inr ⟨noOuter, leafAt, ?_⟩⟩, ?_⟩
    · rw [moved, outer]
      rfl
    · change (rest.tree.modifyAt _ leafAt).subtree? leafAt = _
      rw [subtree_modify_at, position]
      rfl
    · exact leaves_reinsert_filter pruned leafAt axis before

theorem map_exchange_perm (widgetShown : widgetID ∈ panes.tree.leaves)
    (targetShown : targetWidgetID ∈ panes.tree.leaves) :
    (panes.tree.map (exchange widgetID targetWidgetID)).leaves.Perm panes.tree.leaves := by
  rw [leaves_map]
  have injective : Function.Injective (exchange widgetID targetWidgetID) :=
    Function.LeftInverse.injective (exchange_involutive widgetID targetWidgetID)
  have inside : ∀ id ∈ panes.tree.leaves,
      exchange widgetID targetWidgetID id ∈ panes.tree.leaves := by
    intro id mem
    unfold exchange
    split_ifs
    · exact targetShown
    · exact widgetShown
    · exact mem
  apply (perm_ext_iff_of_nodup (panes.distinct.map injective) panes.distinct).mpr
  intro id
  constructor
  · intro mem
    obtain ⟨source, sourceMember, rfl⟩ := mem_map.mp mem
    exact inside source sourceMember
  · intro mem
    exact mem_map.mpr ⟨_, inside id mem, exchange_involutive _ _ id⟩

section

variable (widgetShown : widgetID ∈ panes.widgetIDs) (targetShown : targetWidgetID ∈ panes.widgetIDs)
  (ne : widgetID ≠ targetWidgetID)
include widgetShown targetShown ne

theorem moves_center : moveWindowLayoutByDirection panes.layout widgetID targetWidgetID .center =
    .ok (layoutOf (panes.tree.map (exchange widgetID targetWidgetID)), true) := by
  have cleanWidget := panes.clean widgetID widgetShown
  have cleanTarget := panes.clean targetWidgetID targetShown
  have shownWidget : widgetID ∈ panes.tree.leaves := widgetShown
  have shownTarget : targetWidgetID ∈ panes.tree.leaves := targetShown
  simp [moveWindowLayoutByDirection, swapWindowLayoutWidgets, layout, cleanWidget.1,
    cleanWidget.2, cleanTarget.1, cleanTarget.2, ne, found_by_traversal_layout_of,
    shownWidget, shownTarget, swap_rec_layout_of]

theorem moved_layout_shows_same_widgets {nextLayout : WindowLayoutNode}
    (changed : moveWindowLayoutByDirection panes.layout widgetID targetWidgetID direction =
      .ok (nextLayout, true)) :
    ∃ next : PaneTree, nextLayout = next.layout ∧ next.widgetIDs.Perm panes.widgetIDs := by
  cases placing : direction.placement with
  | none =>
    cases direction with
    | other raw => cases changed
    | _ => cases placing
  | some placement =>
    cases placement with
    | inner axis before =>
      obtain ⟨_, result, _, moved, same, _⟩ :=
        moves_inner widgetShown targetShown ne placing
      rw [moved] at changed
      cases changed
      exact ⟨result, rfl, same⟩
    | outer axis before =>
      obtain ⟨_, result, _, moved, same, _⟩ :=
        moves_outer widgetShown targetShown ne placing
      rw [moved] at changed
      cases changed
      exact ⟨result, rfl, same⟩
    | swap =>
      have isCenter : direction = .center := by
        cases direction <;> first | rfl | cases placing
      subst isCenter
      rw [moves_center widgetShown targetShown ne] at changed
      cases changed
      have same := map_exchange_perm widgetShown targetShown
      exact ⟨panes.rearranged _ same, rfl, same⟩

end

end

/-- Every named direction moves a pane to the place it names. Exchanging two panes again undoes the
exchange. -/
theorem move_window_layout_by_direction_places (panes : PaneTree) (widgetID targetWidgetID : String)
    (widgetShown : widgetID ∈ panes.widgetIDs) (targetShown : targetWidgetID ∈ panes.widgetIDs)
    (different : widgetID ≠ targetWidgetID) (direction : WindowMoveDirection)
    (placement : MovePlacement) (named : direction.placement = some placement) :
    ∃ rest result : PaneTree, panes.tree.prune (· ≠ widgetID) = some rest.tree ∧
      moveWindowLayoutByDirection panes.layout widgetID targetWidgetID direction =
        .ok (result.layout, true) ∧
      result.widgetIDs.Perm panes.widgetIDs ∧
      MovedTo panes.tree rest.tree result.tree widgetID targetWidgetID placement ∧
      (placement = .swap →
        moveWindowLayoutByDirection result.layout widgetID targetWidgetID direction =
          .ok (panes.layout, true)) := by
  cases placement with
  | inner axis before =>
    obtain ⟨rest, result, pruned, moved, same, placed⟩ :=
      moves_inner widgetShown targetShown different named
    exact ⟨rest, result, pruned, moved, same, placed, nofun⟩
  | outer axis before =>
    obtain ⟨rest, result, pruned, moved, same, placed⟩ :=
      moves_outer widgetShown targetShown different named
    exact ⟨rest, result, pruned, moved, same, placed, nofun⟩
  | swap =>
    obtain ⟨rest, pruned, _⟩ := prune_shown_widget targetShown different
    have isCenter : direction = .center := by
      cases direction <;> first | rfl | cases named
    subst isCenter
    have same := map_exchange_perm widgetShown targetShown
    let result := panes.rearranged _ same
    have moved := moves_center widgetShown targetShown different
    refine ⟨rest, result, pruned, moved, same, rfl, ?_⟩
    intro _
    have widgetStill : widgetID ∈ result.widgetIDs := same.mem_iff.mpr widgetShown
    have targetStill : targetWidgetID ∈ result.widgetIDs := same.mem_iff.mpr targetShown
    rw [moves_center widgetStill targetStill different]
    change Except.ok (layoutOf
      ((panes.tree.map (exchange widgetID targetWidgetID)).map
        (exchange widgetID targetWidgetID)), true) = _
    rw [map_involutive (exchange_involutive widgetID targetWidgetID)]
    rfl

/-- A layout where the widget's own parent is the nearest horizontal split
around the target. -/
def collapsingPanes : PaneTree where
  tree :=
    .split .vertical
      (.split .horizontal (.leaf "moved") (.split .vertical (.leaf "target") (.leaf "editor")))
      (.leaf "logs")
  clean := by decide
  distinct := by decide

theorem move_places_collapsing_panes :
    ∃ rest result : PaneTree, collapsingPanes.tree.prune (· ≠ "moved") = some rest.tree ∧
      moveWindowLayoutByDirection collapsingPanes.layout "moved" "target" .outerLeft =
        .ok (result.layout, true) ∧
      result.widgetIDs.Perm collapsingPanes.widgetIDs ∧
      MovedTo collapsingPanes.tree rest.tree result.tree "moved" "target"
        (.outer .horizontal true) ∧
      (MovePlacement.outer .horizontal true = .swap →
        moveWindowLayoutByDirection result.layout "moved" "target" .outerLeft =
          .ok (collapsingPanes.layout, true)) :=
  move_window_layout_by_direction_places collapsingPanes "moved" "target" (by decide)
    (by decide) (by decide) .outerLeft (.outer .horizontal true) rfl

/-- Taking the widget out removes the split around the target, so the widget
lands beside the target alone and not beside the group it was next to. -/
def collapsedPanes : WindowTree :=
  .split .vertical
    (.split .vertical (.split .horizontal (.leaf "moved") (.leaf "target")) (.leaf "editor"))
    (.leaf "logs")

theorem collapsed_panes_not_placed_around :
    ¬PlacedAround collapsingPanes.tree collapsedPanes .horizontal true "moved" "target" := by
  have outer : collapsingPanes.tree.OuterSplit .horizontal [false, true, false] [false] :=
    ⟨by decide, by decide, by decide, _, _, rfl⟩
  rintro ⟨leafAt, located, around⟩
  have leafAtEq : leafAt = [false, true, false] :=
    (Option.some.inj (located.symm.trans (by decide)))
  subst leafAtEq
  rcases around with ⟨path, ancestor, group, nearest, position, pruned, sibling⟩ | ⟨noOuter, _⟩
  · -- Of the two splits above the target only the upper one is horizontal.
    have pathEq : path = [false] := by
      obtain ⟨⟨nonempty, isPrefix, ne, first, second, found⟩, _⟩ := nearest
      have taken := prefix_iff_eq_take.mp isPrefix
      have short := isPrefix.length_le
      rcases size : path.length with _ | _ | _ | _ | more
      · exact absurd (length_eq_zero_iff.mp size) nonempty
      · rw [size] at taken
        exact taken
      · rw [size] at taken
        subst taken
        cases found
      · rw [size] at taken
        exact absurd taken ne
      · rw [length_cons, length_cons, length_singleton] at short
        omega
    subst pathEq
    cases position
    cases pruned
    obtain ⟨at_, siblingAt⟩ := sibling
    rcases at_ with _ | ⟨_ | _, _ | ⟨_ | _, _ | ⟨_ | _, _ | _⟩⟩⟩ <;>
      simp [collapsedPanes, subtree?, beside] at siblingAt
  · exact noOuter [false] outer

/-- Read in the layout as it was before the move, the outer placement fails. -/
theorem outer_move_not_around_original_split :
    ¬∀ (panes : PaneTree) (widgetID targetWidgetID : String), widgetID ∈ panes.widgetIDs →
      targetWidgetID ∈ panes.widgetIDs → widgetID ≠ targetWidgetID →
      ∀ (direction : WindowMoveDirection) (placement : MovePlacement),
        direction.placement = some placement →
        ∃ result : PaneTree,
          moveWindowLayoutByDirection panes.layout widgetID targetWidgetID direction =
            .ok (result.layout, true) ∧
          result.widgetIDs.Perm panes.widgetIDs ∧
          MovedTo panes.tree panes.tree result.tree widgetID targetWidgetID placement := by
  intro claim
  obtain ⟨result, moved, _, placed, _⟩ := claim collapsingPanes "moved" "target" (by decide)
    (by decide) (by decide) .outerLeft (.outer .horizontal true) rfl
  have computed : moveWindowLayoutByDirection collapsingPanes.layout "moved" "target"
      .outerLeft = .ok (layoutOf collapsedPanes, true) := by decide
  have sameLayout : result.layout = layoutOf collapsedPanes := by
    have same := moved.symm.trans computed
    simpa using same
  have sameTree : result.tree = collapsedPanes := layout_of_injective sameLayout
  rw [sameTree] at placed
  exact collapsed_panes_not_placed_around placed

end RuneTerminal.Workspace
