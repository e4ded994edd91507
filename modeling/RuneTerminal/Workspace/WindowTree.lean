import RuneTerminal.Workspace.WindowLayout
import RuneTerminal.Kit.SplitTree

/-! A proper layout is the image of a split tree whose leaves are distinct clean widget ids. There
the operations of `window_layout.go` are the matching split tree operations, and normalization
against the same widgets changes nothing. -/

namespace RuneTerminal.Workspace

open Go.Strings Kit
open WindowLayoutNode (leafNode splitNode)
open List SplitTree

/-- The axes a proper split can have. -/
inductive SplitAxis where
  | horizontal
  | vertical

def SplitAxis.toAxis : SplitAxis → WindowSplitAxis
  | .horizontal => .horizontal
  | .vertical => .vertical

theorem SplitAxis.to_axis_injective {left right : SplitAxis} (same : left.toAxis = right.toAxis) :
    left = right := by
  cases left <;> cases right <;> first | rfl | cases same

abbrev WindowTree := SplitTree SplitAxis String

def layoutOf : WindowTree → WindowLayoutNode
  | .leaf widgetID => leafNode widgetID
  | .split axis first second => splitNode axis.toAxis (layoutOf first) (layoutOf second)

def layoutOfOption : Option WindowTree → WindowLayoutNode
  | none => .nil
  | some tree => layoutOf tree

/-- A split tree of panes: no widget is shown twice, and every id is clean. -/
structure PaneTree where
  tree : WindowTree
  clean : ∀ widgetID ∈ tree.leaves, CleanID widgetID
  distinct : tree.leaves.Nodup

namespace PaneTree

def layout (panes : PaneTree) : WindowLayoutNode := layoutOf panes.tree

def widgetIDs (panes : PaneTree) : List String := panes.tree.leaves

def single (widgetID : String) (clean : CleanID widgetID) : PaneTree where
  tree := .leaf widgetID
  clean := by simpa using clean
  distinct := by simp

end PaneTree

@[simp]
theorem layout_of_ne_nil (tree : WindowTree) : layoutOf tree ≠ .nil := by
  cases tree <;> simp [layoutOf, leafNode, splitNode]

theorem layout_of_injective {left right : WindowTree} (same : layoutOf left = layoutOf right) :
    left = right := by
  induction left generalizing right with
  | leaf id =>
    cases right with
    | leaf other => simpa [layoutOf, leafNode] using same
    | split axis first second => simp [layoutOf, leafNode, splitNode] at same
  | split axis first second firstIh secondIh =>
    cases right with
    | leaf other => simp [layoutOf, leafNode, splitNode] at same
    | split otherAxis otherFirst otherSecond =>
      simp only [layoutOf, splitNode, WindowLayoutNode.node.injEq, true_and] at same
      obtain ⟨sameAxis, sameFirst, sameSecond⟩ := same
      rw [SplitAxis.to_axis_injective sameAxis, firstIh sameFirst, secondIh sameSecond]

variable {tree : WindowTree} {widgetIDs : List String}

theorem edge_leaves_mem (clean : ∀ id ∈ tree.leaves, CleanID id) :
    firstWindowLeafID (layoutOf tree) ∈ tree.leaves ∧
      lastWindowLeafID (layoutOf tree) ∈ tree.leaves := by
  induction tree with
  | leaf id => simp [layoutOf, leafNode, firstWindowLeafID, lastWindowLeafID]
  | split axis first second firstIh secondIh =>
    have inFirst := (firstIh fun id mem => clean id (by simp [mem])).1
    have inSecond := (secondIh fun id mem => clean id (by simp [mem])).2
    have nonblank : firstWindowLeafID (layoutOf first) ≠ "" := (clean _ (by simp [inFirst])).2
    have nonblankLast : lastWindowLeafID (layoutOf second) ≠ "" := (clean _ (by simp [inSecond])).2
    simp only [layoutOf, splitNode, firstWindowLeafID, lastWindowLeafID, if_pos nonblank,
      if_pos nonblankLast, leaves_split, mem_append]
    exact ⟨.inl inFirst, .inr inSecond⟩

theorem find_leaf_rec_layout_of (widgetID : String) (tree : WindowTree) :
    findLeafRec widgetID (layoutOf tree) = tree.leafPath widgetID := by
  induction tree with
  | leaf other => simp [layoutOf, leafNode, findLeafRec, leafPath]
  | split axis first second firstIh secondIh =>
    cases inFirst : first.leafPath widgetID with
    | none =>
      simp [layoutOf, splitNode, findLeafRec, leafPath, firstIh, secondIh, inFirst]
    | some path => simp [layoutOf, splitNode, findLeafRec, leafPath, firstIh, inFirst]

variable {widgetID : String}

theorem find_window_leaf_path_layout_of (clean : CleanID widgetID) (tree : WindowTree) :
    findWindowLeafPath (layoutOf tree) widgetID = tree.leafPath widgetID := by
  simp [findWindowLeafPath, clean.1, clean.2, find_leaf_rec_layout_of]

theorem node_at_window_path_layout_of (path : List Bool) (tree : WindowTree) :
    nodeAtWindowPath (layoutOf tree) path = layoutOfOption (tree.subtree? path) := by
  induction path generalizing tree with
  | nil => simp [nodeAtWindowPath, layoutOfOption]
  | cons step path ih =>
    cases tree with
    | leaf id =>
      simp [layoutOf, leafNode, nodeAtWindowPath, subtree?, layoutOfOption]
    | split axis first second =>
      cases step <;> simp [layoutOf, splitNode, nodeAtWindowPath, subtree?, ih]

theorem is_split_along_layout_of_option (axis : SplitAxis) (tree : Option WindowTree) :
    isSplitAlong axis.toAxis (layoutOfOption tree) ↔
    ∃ first second, tree = some (.split axis first second) := by
  cases tree with
  | none => simp [layoutOfOption, isSplitAlong]
  | some tree =>
    cases tree with
    | leaf id => simp [layoutOfOption, layoutOf, leafNode, isSplitAlong]
    | split nodeAxis first second =>
      simp only [layoutOfOption, layoutOf, splitNode, isSplitAlong, beq_iff_eq,
        Option.some.injEq, split.injEq]
      constructor
      · intro same
        exact ⟨first, second, SplitAxis.to_axis_injective same, rfl, rfl⟩
      · rintro ⟨_, _, rfl, _, _⟩
        rfl

theorem layout_of_beside (axis : SplitAxis) (insertBefore : Bool) (id : String)
    (tree : WindowTree) : layoutOf (SplitTree.beside axis insertBefore id tree) =
    besideNode axis.toAxis insertBefore id (layoutOf tree) := by
  cases insertBefore <;> rfl

theorem split_at_widget_rec_layout_of (target id : String) (axis : SplitAxis)
    (insertBefore : Bool) (tree : WindowTree) :
    splitAtWidgetRec target id axis.toAxis insertBefore (layoutOf tree) =
      match tree.leafPath target with
      | some path =>
        (layoutOf (tree.modifyAt (SplitTree.beside axis insertBefore id) path), true)
      | none => (layoutOf tree, false) := by
  induction tree with
  | leaf other =>
    by_cases same : other = target
    · simp [layoutOf, leafNode, splitAtWidgetRec, leafPath, same, layout_of_beside]
    · simp [layoutOf, leafNode, splitAtWidgetRec, leafPath, same]
  | split nodeAxis first second firstIh secondIh =>
    simp only [layoutOf, splitNode, splitAtWidgetRec, leafPath, firstIh, secondIh]
    cases first.leafPath target with
    | some path => simp [modifyAt, layoutOf, splitNode]
    | none =>
      cases second.leafPath target <;> simp [modifyAt, layoutOf, splitNode]

theorem split_at_widget_layout_of {target id : String} (cleanTarget : CleanID target)
    (cleanWidget : CleanID id) {direction : WindowSplitDirection} {axis : SplitAxis}
    {insertBefore : Bool}
    (spec : splitSpecFromDirection direction = .ok (axis.toAxis, insertBefore)) {path : List Bool}
    (located : tree.leafPath target = some path) :
    splitWindowLayoutAtWidget (layoutOf tree) target id direction =
    .ok (layoutOf (tree.modifyAt (SplitTree.beside axis insertBefore id) path), true) := by
  have nonblank : ¬(target = "" ∨ id = "") := by
    rintro (blank | blank)
    · exact cleanTarget.2 blank
    · exact cleanWidget.2 blank
  simp only [splitWindowLayoutAtWidget, cleanTarget.1, cleanWidget.1, if_neg nonblank, spec]
  change Except.ok (splitAtWidgetRec target id axis.toAxis insertBefore (layoutOf tree)) = _
  rw [split_at_widget_rec_layout_of, located]

theorem split_at_path_rec_layout_of (id : String) (axis : SplitAxis) (insertBefore : Bool)
    {path : List Bool} {found : WindowTree} (position : tree.subtree? path = some found) :
    splitAtPathRec id axis.toAxis insertBefore path (layoutOf tree) =
    (layoutOf (tree.modifyAt (SplitTree.beside axis insertBefore id) path), true) := by
  induction path generalizing tree with
  | nil =>
    cases tree <;> simp [layoutOf, leafNode, splitNode, splitAtPathRec, layout_of_beside]
  | cons step path ih =>
    cases tree with
    | leaf other => simp [subtree?] at position
    | split nodeAxis first second =>
      cases step with
      | false | true =>
        have below := ih (by simpa [subtree?] using position)
        simp [layoutOf, splitNode, splitAtPathRec, modifyAt, below]

theorem remove_widget_layout_of (clean : CleanID widgetID) (tree : WindowTree) :
    removeWindowLayoutWidget (layoutOf tree) widgetID =
    (layoutOfOption (tree.prune (· ≠ widgetID)), decide (widgetID ∈ tree.leaves)) := by
  induction tree with
  | leaf other =>
    by_cases same : other = widgetID
    · subst same
      simp [layoutOf, leafNode, removeWindowLayoutWidget, clean.1, clean.2,
        prune, layoutOfOption]
    · simp [layoutOf, leafNode, removeWindowLayoutWidget, clean.1, prune, layoutOfOption,
        same, Ne.symm same]
  | split axis first second firstIh secondIh =>
    by_cases inTree : widgetID ∈ first.leaves ∨ widgetID ∈ second.leaves
    · have present : (!decide (widgetID ∈ first.leaves) &&
          !decide (widgetID ∈ second.leaves)) = false := by
        rcases inTree with member | member <;> simp [member]
      simp only [layoutOf, splitNode, removeWindowLayoutWidget, clean.1, clean.2, firstIh, secondIh,
        present, prune, leaves_split, mem_append, inTree]
      cases first.prune (· ≠ widgetID) with
      | none => cases second.prune (· ≠ widgetID) with
          | none => rfl
          | some rest => cases rest <;> rfl
      | some firstRest => cases second.prune (· ≠ widgetID) with
          | none => cases firstRest <;> rfl
          | some rest => cases firstRest <;> cases rest <;> rfl
    have absentFirst : widgetID ∉ first.leaves := fun member => inTree (.inl member)
    have absentSecond : widgetID ∉ second.leaves := fun member => inTree (.inr member)
    have untouched : (split axis first second).prune (· ≠ widgetID) =
        some (.split axis first second) := by
      apply prune_eq_self
      intro value member
      have ne : value ≠ widgetID := by
        rintro rfl
        exact inTree (by simpa using member)
      simpa using ne
    rw [untouched]
    simp [layoutOf, splitNode, removeWindowLayoutWidget, clean.1, firstIh, secondIh, absentFirst,
      absentSecond, layoutOfOption]

/-- What `center` does to a single id. -/
def exchange (widgetA widgetB widgetID : String) : String :=
  if widgetID = widgetA then widgetB else if widgetID = widgetB then widgetA else widgetID

theorem exchange_involutive (widgetA widgetB widgetID : String) :
    exchange widgetA widgetB (exchange widgetA widgetB widgetID) = widgetID := by
  unfold exchange
  split_ifs <;> simp_all

theorem swap_rec_layout_of (widgetA widgetB : String) (tree : WindowTree) :
    swapRec widgetA widgetB (layoutOf tree) = layoutOf (tree.map (exchange widgetA widgetB)) := by
  induction tree with
  | leaf id => rfl
  | split axis first second firstIh secondIh =>
    simp only [layoutOf, splitNode, swapRec, SplitTree.map, firstIh, secondIh]

theorem found_by_traversal_layout_of (id : String) (tree : WindowTree) :
    foundByTraversal id (layoutOf tree) = decide (id ∈ tree.leaves) := by
  induction tree with
  | leaf other => simp [layoutOf, leafNode, foundByTraversal, eq_comm, Bool.beq_eq_decide_eq]
  | split axis first second firstIh secondIh =>
    simp [layoutOf, splitNode, foundByTraversal, firstIh, secondIh]

theorem sanitize_window_layout_layout_of {validWidgetIDs seen : List String}
    (clean : ∀ widgetID ∈ tree.leaves, CleanID widgetID) (nodup : tree.leaves.Nodup)
    (valid : ∀ widgetID ∈ tree.leaves, widgetID ∈ validWidgetIDs)
    (unseen : ∀ widgetID ∈ tree.leaves, widgetID ∉ seen) :
    sanitizeWindowLayout validWidgetIDs (layoutOf tree) seen =
    (layoutOf tree, tree.leaves.reverse ++ seen) := by
  induction tree generalizing seen with
  | leaf widgetID =>
    have ⟨trimmed, nonblank⟩ := clean widgetID (by simp)
    have listed := valid widgetID (by simp)
    have fresh := unseen widgetID (by simp)
    simp [layoutOf, leafNode, sanitizeWindowLayout, sanitizeLeaf, trimmed, nonblank, listed, fresh]
  | split axis first second firstIh secondIh =>
    obtain ⟨distinctFirst, distinctSecond, apart⟩ := nodup_append.mp nodup
    have inFirst := firstIh (fun id mem => clean id (by simp [mem])) distinctFirst
      (fun id mem => valid id (by simp [mem]))
      (fun id mem => unseen id (by simp [mem]))
    have inSecond : sanitizeWindowLayout validWidgetIDs (layoutOf second)
        (first.leaves.reverse ++ seen) =
          (layoutOf second, second.leaves.reverse ++ (first.leaves.reverse ++ seen)) := by
      apply secondIh (fun id mem => clean id (by simp [mem])) distinctSecond
        (fun id mem => valid id (by simp [mem]))
      intro id mem
      have notFirst : id ∉ first.leaves := fun other => apart id other id mem rfl
      simp [notFirst, unseen id (by simp [mem])]
    have keepsAxis : joinSanitized axis.toAxis (layoutOf first) (layoutOf second) =
        splitNode axis.toAxis (layoutOf first) (layoutOf second) := by
      cases axis <;> cases first <;> cases second <;> rfl
    simp only [layoutOf, splitNode, sanitizeWindowLayout, inFirst, inSecond]
    rw [keepsAxis]
    simp [splitNode]

theorem widget_ids_clean (clean : ∀ widgetID ∈ widgetIDs, CleanID widgetID)
    (nodup : widgetIDs.Nodup) : normalizeWidgetIDs widgetIDs = widgetIDs := by
  -- The loop has already kept `before`; what is left is appended id by id.
  suffices loop : ∀ before, (∀ widgetID ∈ widgetIDs, widgetID ∉ before) →
      widgetIDs.foldl (fun normalized raw =>
        let widgetID := trimSpace raw
        if widgetID = "" then normalized
        else if widgetID ∈ normalized then normalized
        else normalized ++ [widgetID]) before = before ++ widgetIDs by
    simpa [normalizeWidgetIDs] using loop [] (by simp)
  induction widgetIDs with
  | nil => simp
  | cons widgetID others ih =>
    intro before unseen
    have ⟨trimmed, nonblank⟩ := clean widgetID (by simp)
    have fresh := unseen widgetID (by simp)
    have rest := ih (fun id mem => clean id (by simp [mem]))
      (nodup_cons.mp nodup).2 (before ++ [widgetID])
    rw [foldl_cons]
    simp only [trimmed, nonblank, fresh, if_false]
    rw [rest]
    · simp
    intro id mem
    have ne : id ≠ widgetID := by
      rintro rfl
      exact (nodup_cons.mp nodup).1 mem
    simp [ne, unseen id (by simp [mem])]

theorem foldl_insert_missing_widget_seen {cursor : InsertCursor}
    (shown : ∀ widgetID ∈ widgetIDs, widgetID ∈ cursor.seen) :
    widgetIDs.foldl insertMissingWidget cursor = cursor := by
  induction widgetIDs with
  | nil => rfl
  | cons widgetID others ih =>
    have skipped : insertMissingWidget cursor widgetID = cursor := by
      rw [insertMissingWidget, if_pos (shown widgetID (by simp))]
    rw [foldl_cons, skipped]
    exact ih fun id mem => shown id (by simp [mem])

theorem layout_proper (panes : PaneTree) (same : panes.widgetIDs.Perm widgetIDs)
    (preferredWidgetID : String) :
    normalizeWindowLayout panes.layout widgetIDs preferredWidgetID = panes.layout := by
  have clean : ∀ widgetID ∈ widgetIDs, CleanID widgetID := fun id mem =>
    panes.clean id (same.mem_iff.mpr mem)
  have nodup : widgetIDs.Nodup := same.nodup_iff.mp panes.distinct
  have sanitized : sanitizeWindowLayout widgetIDs (layoutOf panes.tree) [] =
      (layoutOf panes.tree, panes.tree.leaves.reverse ++ []) := by
    apply sanitize_window_layout_layout_of panes.clean panes.distinct
    · intro id mem
      exact same.mem_iff.mp mem
    · simp
  rw [normalizeWindowLayout, widget_ids_clean clean nodup]
  cases widgetIDs with
  | nil =>
    have empty := same.eq_nil
    exact absurd empty (leaves_ne_nil panes.tree)
  | cons firstWidgetID others =>
    simp only [PaneTree.layout, sanitized]
    have shown : ∀ id ∈ firstWidgetID :: others, id ∈ panes.tree.leaves.reverse := by
      intro id mem
      rw [mem_reverse]
      exact same.mem_iff.mpr mem
    cases tree : layoutOf panes.tree with
    | nil => exact absurd tree (layout_of_ne_nil panes.tree)
    | node kind widgetID axis first second =>
      simp only [append_nil]
      rw [foldl_insert_missing_widget_seen]
      exact shown

end RuneTerminal.Workspace
