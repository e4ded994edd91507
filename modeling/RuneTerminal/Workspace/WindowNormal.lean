import RuneTerminal.Workspace.WindowTree

/-! `normalizeWindowLayout` reads the panes that a layout shows, keeps the first one of each valid
widget and puts the missing widgets beside them. Each pass is a step between split trees. -/

namespace RuneTerminal.Workspace

open Go.Strings Kit
open WindowLayoutNode (leafNode splitNode)
open List SplitTree

def trimmedWidgetIDs (widgetIDs : List String) : List String :=
  (widgetIDs.filterMap trimmedText).eraseDups

/-- The trimmed ids that a layout shows, in order. A leaf is its id, a split its
children; a node of unknown kind is a leaf if it has an id and a split if not. -/
def shownWidgetIDs : WindowLayoutNode → List String
  | .nil => []
  | .node .leaf widgetID _ _ _ => (trimmedText widgetID).toList
  | .node .split _ _ first second => shownWidgetIDs first ++ shownWidgetIDs second
  | .node (.other _) widgetID _ first second =>
    match trimmedText widgetID with
    | some shown => [shown]
    | none => shownWidgetIDs first ++ shownWidgetIDs second

theorem widget_ids_trimmed (widgetIDs : List String) :
    normalizeWidgetIDs widgetIDs = trimmedWidgetIDs widgetIDs := by
  have sameStep : (fun normalized raw =>
      let widgetID := trimSpace raw
      if widgetID = "" then normalized
      else if widgetID ∈ normalized then normalized
      else normalized ++ [widgetID]) = collectClean trimmedText := by
    funext normalized raw
    unfold collectClean trimmedText
    split_ifs <;> simp_all
  rw [normalizeWidgetIDs, sameStep, foldl_collect_eq_erase_dups, nil_append,
    filter_eq_self.mpr (by simp), trimmedWidgetIDs]

variable {validWidgetIDs seen widgetIDs : List String} {id : String}

theorem mem_trimmed_widget_ids {widgetID : String} :
    widgetID ∈ trimmedWidgetIDs widgetIDs ↔ ∃ raw ∈ widgetIDs, trimmedText raw = some widgetID := by
  rw [trimmedWidgetIDs, mem_eraseDups, mem_filterMap]

theorem trimmed_widget_ids_clean {widgetIDs : List String} {widgetID : String}
    (mem : widgetID ∈ trimmedWidgetIDs widgetIDs) : CleanID widgetID := by
  obtain ⟨raw, _, trimmed⟩ := mem_trimmed_widget_ids.mp mem
  exact trimmed_text_clean trimmed

theorem trimmed_widget_ids_nodup (widgetIDs : List String) : (trimmedWidgetIDs widgetIDs).Nodup :=
  nodup_erase_dups _

theorem trimmed_widget_ids_eq_nil_iff :
    trimmedWidgetIDs widgetIDs = [] ↔ ∀ raw ∈ widgetIDs, trimSpace raw = "" := by
  rw [eq_nil_iff_forall_not_mem]
  constructor
  · intro empty raw mem
    by_contra nonblank
    exact empty (trimSpace raw)
      (mem_trimmed_widget_ids.mpr ⟨raw, mem, trimmed_text_eq_some.mpr ⟨rfl, nonblank⟩⟩)
  · intro blank widgetID shown
    obtain ⟨raw, mem, trimmed⟩ := mem_trimmed_widget_ids.mp shown
    obtain ⟨rfl, nonblank⟩ := trimmed_text_eq_some.mp trimmed
    exact nonblank (blank raw mem)

/-- The valid ids of a list that have not been seen, each where it comes first. -/
def survivors (validWidgetIDs seen shown : List String) : List String :=
  (shown.filter fun widgetID => widgetID ∈ validWidgetIDs ∧ widgetID ∉ seen).eraseDups

theorem survivors_append (validWidgetIDs seen first second : List String) :
    survivors validWidgetIDs seen (first ++ second) =
      survivors validWidgetIDs seen first ++
        survivors validWidgetIDs ((survivors validWidgetIDs seen first).reverse ++ seen)
          second := by
  unfold survivors
  rw [filter_append, eraseDups_append, removeAll, filter_filter]
  congr 2
  apply filter_congr
  intro id _
  by_cases valid : id ∈ validWidgetIDs <;> by_cases old : id ∈ seen <;>
    simp [valid]

/-- What one pass over a part of the layout gives: the tree of its survivors,
and the ids seen by then. -/
def Sanitizes (validWidgetIDs seen shown : List String)
    (result : WindowLayoutNode × List String) : Prop :=
  ∃ tree : Option WindowTree, result.1 = layoutOfOption tree ∧
    (tree.map SplitTree.leaves).getD [] = survivors validWidgetIDs seen shown ∧
    result.2 = (survivors validWidgetIDs seen shown).reverse ++ seen

theorem sanitize_leaf_sanitizes (validWidgetIDs seen : List String) (raw : String) :
    Sanitizes validWidgetIDs seen (trimmedText raw).toList
      (sanitizeLeaf validWidgetIDs raw seen) := by
  by_cases blank : trimSpace raw = ""
  · refine ⟨none, ?_⟩
    simp [sanitizeLeaf, trimmedText, blank, layoutOfOption, survivors]
  by_cases fresh : trimSpace raw ∈ validWidgetIDs ∧ trimSpace raw ∉ seen
  · refine ⟨some (.leaf (trimSpace raw)), ?_⟩
    simp [sanitizeLeaf, trimmedText, blank, fresh, layoutOfOption, layoutOf, survivors,
      eraseDups_cons]
  refine ⟨none, ?_⟩
  have dropped : survivors validWidgetIDs seen [trimSpace raw] = [] := by
    simp only [survivors, filter_cons, decide_eq_true_eq, fresh, if_false,
      filter_nil, eraseDups_nil]
  have left : sanitizeLeaf validWidgetIDs raw seen = (.nil, seen) := by
    unfold sanitizeLeaf
    by_cases valid : trimSpace raw ∈ validWidgetIDs
    · have old : trimSpace raw ∈ seen := by
        by_contra new
        exact fresh ⟨valid, new⟩
      simp [old]
    · simp [valid]
  simp [trimmedText, blank, left, dropped, layoutOfOption]

theorem join_sanitized_layout_of (axis : WindowSplitAxis) (first second : Option WindowTree) :
    ∃ tree : Option WindowTree, joinSanitized axis (layoutOfOption first) (layoutOfOption second) =
    layoutOfOption tree ∧ (tree.map SplitTree.leaves).getD [] =
    (first.map SplitTree.leaves).getD [] ++ (second.map SplitTree.leaves).getD [] := by
  cases first with
  | none =>
    refine ⟨second, ?_, rfl⟩
    cases second with
    | none => rfl
    | some second => cases second <;> rfl
  | some first =>
    cases second with
    | none =>
      refine ⟨some first, ?_, (append_nil _).symm⟩
      cases first <;> rfl
    | some second =>
      cases axis with
      | vertical =>
        refine ⟨some (.split .vertical first second), ?_, rfl⟩
        cases first <;> cases second <;> rfl
      | horizontal | other =>
        refine ⟨some (.split .horizontal first second), ?_, rfl⟩
        cases first <;> cases second <;> rfl

theorem join_sanitizes {firstShown secondShown : List String}
    {inFirst inSecond : WindowLayoutNode × List String} (axis : WindowSplitAxis)
    (sanitizesFirst : Sanitizes validWidgetIDs seen firstShown inFirst)
    (sanitizesSecond : Sanitizes validWidgetIDs inFirst.2 secondShown inSecond) :
    Sanitizes validWidgetIDs seen (firstShown ++ secondShown)
      (joinSanitized axis inFirst.1 inSecond.1, inSecond.2) := by
  obtain ⟨first, firstLayout, firstLeaves, firstSeen⟩ := sanitizesFirst
  obtain ⟨second, secondLayout, secondLeaves, secondSeen⟩ := sanitizesSecond
  obtain ⟨tree, joined, leaves⟩ := join_sanitized_layout_of axis first second
  refine ⟨tree, ?_, ?_, ?_⟩
  · rw [firstLayout, secondLayout]
    exact joined
  · rw [leaves, firstLeaves, secondLeaves, survivors_append, firstSeen]
  · rw [secondSeen, survivors_append, firstSeen, reverse_append, append_assoc]

theorem sanitize_window_layout_sanitizes (validWidgetIDs : List String) (node : WindowLayoutNode)
    (seen : List String) :
    Sanitizes validWidgetIDs seen (shownWidgetIDs node)
      (sanitizeWindowLayout validWidgetIDs node seen) := by
  induction node generalizing seen with
  | nil => exact ⟨none, rfl, rfl, rfl⟩
  | node kind id axis first second firstIh secondIh =>
    have asSplit := join_sanitizes axis (firstIh seen)
      (secondIh (sanitizeWindowLayout validWidgetIDs first seen).2)
    cases kind with
    | leaf => exact sanitize_leaf_sanitizes validWidgetIDs seen id
    | split => exact asSplit
    | other raw =>
      have asLeaf := sanitize_leaf_sanitizes validWidgetIDs seen id
      by_cases blank : trimSpace id = ""
      · have noText : trimmedText id = none := if_pos blank
        unfold sanitizeWindowLayout shownWidgetIDs
        rw [if_neg (not_not.mpr blank), noText]
        by_cases hasChild : first ≠ .nil ∨ second ≠ .nil
        · rw [if_pos hasChild]
          exact asSplit
        · rw [not_or, not_not, not_not] at hasChild
          rw [hasChild.1, hasChild.2]
          exact ⟨none, rfl, rfl, rfl⟩
      · have text : trimmedText id = some (trimSpace id) := if_neg blank
        unfold sanitizeWindowLayout shownWidgetIDs
        rw [if_pos blank]
        rw [text] at asLeaf ⊢
        exact asLeaf

theorem mem_survivors {shown : List String} :
    id ∈ survivors validWidgetIDs seen shown ↔ id ∈ shown ∧ id ∈ validWidgetIDs ∧ id ∉ seen := by
  simp [survivors]

/-- The cursor of the loop shows a proper tree, has seen exactly its panes and
stands on one of them. -/
structure InsertCursor.Shows (cursor : InsertCursor) (tree : WindowTree) : Prop where
  layout : cursor.sanitized = layoutOf tree
  clean : ∀ widgetID ∈ tree.leaves, CleanID widgetID
  distinct : tree.leaves.Nodup
  seen : ∀ widgetID, widgetID ∈ cursor.seen ↔ widgetID ∈ tree.leaves
  target : cursor.insertTarget ∈ tree.leaves

/-- The panes of `wider` are those of `tree` and the given widgets, and whatever
is not one of these widgets stands where it stood. -/
structure Widens (widgetIDs : List String) (tree wider : WindowTree) : Prop where
  mem : ∀ widgetID, widgetID ∈ wider.leaves ↔ widgetID ∈ widgetIDs ∨ widgetID ∈ tree.leaves
  order : ∀ keep : String → Bool, (∀ widgetID ∈ widgetIDs, widgetID ∉ tree.leaves →
    !keep widgetID) →
    wider.leaves.filter keep = tree.leaves.filter keep

section

variable {cursor : InsertCursor} {tree : WindowTree}

theorem split_or_append_layout_of {target : String} {path : List Bool}
    (cleanTarget : CleanID target) (clean : CleanID id)
    (located : tree.leafPath target = some path) : splitOrAppend (layoutOf tree) target id =
    layoutOf (tree.modifyAt (SplitTree.beside .horizontal false id) path) := by
  have spec : splitSpecFromDirection .right = .ok (SplitAxis.horizontal.toAxis, false) := rfl
  have split := split_at_widget_layout_of cleanTarget clean spec located
  rw [splitOrAppend, split]

theorem insert_missing_widget_widens (shows : cursor.Shows tree) (clean : CleanID id) :
    ∃ wider, (insertMissingWidget cursor id).Shows wider ∧ Widens [id] tree wider := by
  by_cases shown : id ∈ tree.leaves
  · refine ⟨tree, ?_, ?_, fun _ _ => rfl⟩
    · rw [insertMissingWidget, if_pos ((shows.seen id).mpr shown)]
      exact shows
    intro other
    rw [mem_singleton]
    constructor
    · exact .inr
    · rintro (rfl | member)
      · exact shown
      · exact member
  obtain ⟨path, located⟩ := exists_leaf_path shows.target
  have position := subtree_leaf_path located
  have leaves := leaves_modify_at_perm_cons
    (leaves_beside_perm SplitAxis.horizontal false id) position
  have inserted : insertMissingWidget cursor id =
      { sanitized :=
          layoutOf (tree.modifyAt (beside .horizontal false id) path)
        insertTarget := id
        seen := id :: cursor.seen } := by
    rw [insertMissingWidget, if_neg (mt (shows.seen id).mp shown), shows.layout,
      split_or_append_layout_of (shows.clean _ shows.target) clean located]
  refine ⟨tree.modifyAt (beside .horizontal false id) path, ?_, ?_, ?_⟩
  · rw [inserted]
    refine ⟨rfl, ?_, ?_, ?_, ?_⟩
    · intro other member
      rcases mem_cons.mp (leaves.mem_iff.mp member) with rfl | old
      · exact clean
      · exact shows.clean other old
    · exact leaves.nodup_iff.mpr (nodup_cons.mpr ⟨shown, shows.distinct⟩)
    · intro other
      rw [leaves.mem_iff, mem_cons, mem_cons, shows.seen]
    · exact leaves.mem_iff.mpr mem_cons_self
  · intro other
    rw [leaves.mem_iff, mem_cons, mem_singleton]
  intro keep drops
  have dropped := drops id (mem_singleton_self id) shown
  rw [Bool.not_eq_true'] at dropped
  apply leaves_modify_at_filter
  intro part
  simp [beside, dropped]

theorem insert_missing_widgets_widen (clean : ∀ id ∈ widgetIDs, CleanID id)
    (shows : cursor.Shows tree) : ∃ wider,
    (widgetIDs.foldl insertMissingWidget cursor).Shows wider ∧ Widens widgetIDs tree wider := by
  induction widgetIDs generalizing cursor tree with
  | nil => exact ⟨tree, shows, by simp, fun _ _ => rfl⟩
  | cons id others ih =>
    obtain ⟨between, showsBetween, step⟩ :=
      insert_missing_widget_widens shows (clean id mem_cons_self)
    obtain ⟨wider, showsWider, rest⟩ :=
      ih (fun other mem => clean other (mem_cons_of_mem _ mem)) showsBetween
    refine ⟨wider, showsWider, ?_, ?_⟩
    · intro other
      rw [rest.mem, step.mem, mem_singleton, mem_cons, or_left_comm, or_assoc]
    intro keep drops
    rw [rest.order keep, step.order keep]
    · intro other mem new
      rw [mem_singleton] at mem
      exact drops other (mem_cons.mpr (.inl mem)) new
    intro other mem new
    apply drops other (mem_cons_of_mem _ mem)
    intro old
    exact new ((step.mem other).mpr (.inr old))

end

/-- A proper layout of the given widgets, with the surviving panes in order. -/
structure NormalizedLayout (layout : WindowLayoutNode) (widgetIDs : List String)
    (panes : PaneTree) : Prop where
  widgets : panes.widgetIDs.Perm (trimmedWidgetIDs widgetIDs)
  order : panes.widgetIDs.filter (· ∈ shownWidgetIDs layout) =
    ((shownWidgetIDs layout).filter (· ∈ trimmedWidgetIDs widgetIDs)).eraseDups

/-- The sanitized layout, or the first widget alone where nothing is left of it. -/
def orFirstWidget (firstWidgetID : String) :
    WindowLayoutNode × List String → WindowLayoutNode × List String
  | (.nil, seen) => (leafNode firstWidgetID, firstWidgetID :: seen)
  | sanitized => sanitized

def startCursor (preferredWidgetID : String) (start : WindowLayoutNode × List String) :
    InsertCursor where
  sanitized := start.1
  insertTarget :=
    if trimSpace preferredWidgetID ≠ "" ∧ trimSpace preferredWidgetID ∈ start.2 then
      trimSpace preferredWidgetID
    else lastWindowLeafID start.1
  seen := start.2

theorem normalize_window_layout_cons {layout : WindowLayoutNode} {others : List String}
    {firstWidgetID : String} (ids : normalizeWidgetIDs widgetIDs = firstWidgetID :: others)
    (preferredWidgetID : String) :
    normalizeWindowLayout layout widgetIDs preferredWidgetID =
      ((firstWidgetID :: others).foldl insertMissingWidget
        (startCursor preferredWidgetID
          (orFirstWidget firstWidgetID
            (sanitizeWindowLayout (firstWidgetID :: others) layout [])))).sanitized := by
  rw [normalizeWindowLayout, ids]
  rfl

theorem or_first_widget_layout_of (layout : WindowLayoutNode) (firstWidgetID : String)
    (others : List String) :
    ∃ tree seen,
      orFirstWidget firstWidgetID (sanitizeWindowLayout (firstWidgetID :: others) layout []) =
        (layoutOf tree, seen) ∧
      (∀ id, id ∈ seen ↔ id ∈ tree.leaves) ∧
      (∀ id ∈ tree.leaves, id ∈ firstWidgetID :: others) ∧
      tree.leaves.Nodup ∧
      tree.leaves.filter (· ∈ shownWidgetIDs layout) =
        survivors (firstWidgetID :: others) [] (shownWidgetIDs layout) := by
  have sanitizes := sanitize_window_layout_sanitizes (firstWidgetID :: others) layout []
  generalize sanitizeWindowLayout (firstWidgetID :: others) layout [] = result at sanitizes ⊢
  obtain ⟨node, seen⟩ := result
  obtain ⟨tree, isLayout, leaves, isSeen⟩ := sanitizes
  rw [append_nil] at isSeen
  subst isLayout isSeen
  cases tree with
  | none =>
    replace leaves : survivors (firstWidgetID :: others) [] (shownWidgetIDs layout) = [] :=
      leaves.symm
    have notShown : firstWidgetID ∉ shownWidgetIDs layout := by
      intro shown
      have survives : firstWidgetID ∈
          survivors (firstWidgetID :: others) [] (shownWidgetIDs layout) :=
        mem_survivors.mpr ⟨shown, mem_cons_self, not_mem_nil⟩
      rw [leaves] at survives
      cases survives
    refine ⟨.leaf firstWidgetID, [firstWidgetID], ?_, ?_, ?_, ?_, ?_⟩
    · rw [leaves]
      rfl
    · simp
    · simp
    · simp
    · rw [leaves]
      simp [notShown]
  | some tree =>
    replace leaves : tree.leaves =
        survivors (firstWidgetID :: others) [] (shownWidgetIDs layout) := leaves
    refine ⟨tree, (survivors (firstWidgetID :: others) [] (shownWidgetIDs layout)).reverse,
      ?_, ?_, ?_, ?_, ?_⟩
    · cases tree <;> rfl
    · intro id
      rw [mem_reverse, leaves]
    · intro id mem
      rw [leaves] at mem
      exact (mem_survivors.mp mem).2.1
    · rw [leaves]
      exact nodup_erase_dups _
    · rw [leaves, filter_eq_self]
      intro id mem
      simpa using (mem_survivors.mp mem).1

/-- With a widget to show, the result is a proper layout of exactly the widgets. -/
theorem normalize_window_layout_normalized (nonempty : trimmedWidgetIDs widgetIDs ≠ [])
    (layout : WindowLayoutNode) (preferredWidgetID : String) : ∃ panes :
    PaneTree, normalizeWindowLayout layout widgetIDs preferredWidgetID = panes.layout ∧
    NormalizedLayout layout widgetIDs panes := by
  have cleanIDs := @trimmed_widget_ids_clean widgetIDs
  have distinctIDs := trimmed_widget_ids_nodup widgetIDs
  cases ids : trimmedWidgetIDs widgetIDs with
  | nil => exact absurd ids nonempty
  | cons firstWidgetID others =>
    rw [ids] at cleanIDs distinctIDs
    obtain ⟨tree, seen, start, isSeen, valid, nodup, order⟩ :=
      or_first_widget_layout_of layout firstWidgetID others
    rw [normalize_window_layout_cons ((widget_ids_trimmed widgetIDs).trans ids), start]
    have cleanTree : ∀ id ∈ tree.leaves, CleanID id := fun id mem => cleanIDs (valid id mem)
    have shows : (startCursor preferredWidgetID (layoutOf tree, seen)).Shows tree := by
      refine ⟨rfl, cleanTree, nodup, isSeen, ?_⟩
      unfold startCursor
      split_ifs with preferred
      · exact (isSeen _).mp preferred.2
      · exact (edge_leaves_mem cleanTree).2
    obtain ⟨wider, result, widens⟩ := insert_missing_widgets_widen (fun _ => cleanIDs) shows
    refine ⟨⟨wider, result.clean, result.distinct⟩, result.layout, ?_, ?_⟩
    · rw [ids]
      apply (perm_ext_iff_of_nodup result.distinct distinctIDs).mpr
      intro id
      rw [widens.mem]
      exact or_iff_left_of_imp (valid id)
    rw [ids]
    have kept : wider.leaves.filter (· ∈ shownWidgetIDs layout) =
        tree.leaves.filter (· ∈ shownWidgetIDs layout) := by
      apply widens.order
      intro id mem new
      -- A valid widget that the layout shows has survived.
      have notShown : id ∉ shownWidgetIDs layout := by
        intro shown
        have survives : id ∈
            survivors (firstWidgetID :: others) [] (shownWidgetIDs layout) :=
          mem_survivors.mpr ⟨shown, mem, not_mem_nil⟩
        rw [← order] at survives
        exact new (mem_filter.mp survives).1
      simp [notShown]
    have survivorsEq : survivors (firstWidgetID :: others) [] (shownWidgetIDs layout) =
        ((shownWidgetIDs layout).filter (· ∈ firstWidgetID :: others)).eraseDups := by
      simp [survivors]
    exact kept.trans (order.trans survivorsEq)

theorem window_layout_eq_nil (layout : WindowLayoutNode) (preferredWidgetID : String) :
    normalizeWindowLayout layout widgetIDs preferredWidgetID = .nil ↔
      ∀ raw ∈ widgetIDs, trimSpace raw = "" := by
  rw [← trimmed_widget_ids_eq_nil_iff]
  constructor
  · intro isNil
    by_contra nonempty
    obtain ⟨panes, isLayout, _⟩ :=
      normalize_window_layout_normalized nonempty layout preferredWidgetID
    exact layout_of_ne_nil panes.tree (isLayout.symm.trans isNil)
  · intro empty
    rw [normalizeWindowLayout, widget_ids_trimmed, empty]

theorem normalize_window_layout_keeps (panes : PaneTree)
    (same : panes.widgetIDs.Perm (trimmedWidgetIDs widgetIDs)) (preferredWidgetID : String) :
    normalizeWindowLayout panes.layout widgetIDs preferredWidgetID = panes.layout := by
  have again : trimmedWidgetIDs (trimmedWidgetIDs widgetIDs) = trimmedWidgetIDs widgetIDs := by
    rw [← widget_ids_trimmed (trimmedWidgetIDs widgetIDs)]
    exact widget_ids_clean (fun _ => trimmed_widget_ids_clean)
      (trimmed_widget_ids_nodup widgetIDs)
  have sameIDs : normalizeWindowLayout panes.layout widgetIDs preferredWidgetID =
      normalizeWindowLayout panes.layout (trimmedWidgetIDs widgetIDs) preferredWidgetID := by
    rw [normalizeWindowLayout, normalizeWindowLayout, widget_ids_trimmed,
      widget_ids_trimmed, again]
  rw [sameIDs]
  exact layout_proper panes same preferredWidgetID

/-- Nothing is shown exactly if no id is nonblank, and otherwise there is one pane for each trimmed
id, with the surviving panes in their order. Proper layouts of these widgets are left alone. -/
theorem normalize_window_layout_specification (layout : WindowLayoutNode) (widgetIDs : List String)
    (preferredWidgetID : String) :
    (normalizeWindowLayout layout widgetIDs preferredWidgetID = .nil ↔
      ∀ raw ∈ widgetIDs, trimSpace raw = "") ∧
    (normalizeWindowLayout layout widgetIDs preferredWidgetID ≠ .nil →
      ∃ panes : PaneTree, normalizeWindowLayout layout widgetIDs preferredWidgetID = panes.layout ∧
        NormalizedLayout layout widgetIDs panes) ∧
    (∀ panes : PaneTree, panes.widgetIDs.Perm (trimmedWidgetIDs widgetIDs) → layout = panes.layout →
      normalizeWindowLayout layout widgetIDs preferredWidgetID = layout) ∧
    ∀ nextPreferredWidgetID,
      normalizeWindowLayout (normalizeWindowLayout layout widgetIDs preferredWidgetID) widgetIDs
        nextPreferredWidgetID =
        normalizeWindowLayout layout widgetIDs preferredWidgetID := by
  have shown (isShown : normalizeWindowLayout layout widgetIDs preferredWidgetID ≠ .nil) :
      ∃ panes : PaneTree,
        normalizeWindowLayout layout widgetIDs preferredWidgetID = panes.layout ∧
        NormalizedLayout layout widgetIDs panes := by
    apply normalize_window_layout_normalized
    rwa [ne_eq, trimmed_widget_ids_eq_nil_iff, ← window_layout_eq_nil layout
      preferredWidgetID]
  refine ⟨window_layout_eq_nil layout preferredWidgetID, shown, ?_, ?_⟩
  · intro panes same isLayout
    rw [isLayout]
    exact normalize_window_layout_keeps panes same preferredWidgetID
  intro nextPreferredWidgetID
  by_cases isNil : normalizeWindowLayout layout widgetIDs preferredWidgetID = .nil
  · have blank := (window_layout_eq_nil layout preferredWidgetID).mp isNil
    rw [isNil]
    exact (window_layout_eq_nil .nil nextPreferredWidgetID).mpr blank
  · obtain ⟨panes, isLayout, normalized⟩ := shown isNil
    rw [isLayout]
    exact normalize_window_layout_keeps panes normalized.widgets nextPreferredWidgetID

theorem remove_window_layout_widget_trimmed (layout : WindowLayoutNode) (rawWidgetID : String) :
    removeWindowLayoutWidget layout rawWidgetID =
    removeWindowLayoutWidget layout (trimSpace rawWidgetID) := by
  cases layout with
  | nil => rfl
  | node kind id axis first second =>
    cases kind <;> simp only [removeWindowLayoutWidget, trim_space_twice]

theorem split_spec_of_known {direction : WindowSplitDirection}
    (known : ∀ raw, direction ≠ .other raw) : ∃ (axis : SplitAxis) (insertBefore : Bool),
    splitSpecFromDirection direction = .ok (axis.toAxis, insertBefore) := by
  cases direction with
  | left => exact ⟨.horizontal, true, rfl⟩
  | right => exact ⟨.horizontal, false, rfl⟩
  | top => exact ⟨.vertical, true, rfl⟩
  | bottom => exact ⟨.vertical, false, rfl⟩
  | other raw => exact absurd rfl (known raw)

/-- A pane that is put beside any pane of a proper layout and taken out again leaves the layout as
it was. -/
theorem split_then_remove_window_layout_widget (panes : PaneTree) {target newWidgetID : String}
    {direction : WindowSplitDirection} (shown : target ∈ panes.widgetIDs)
    (nonblank : trimSpace newWidgetID ≠ "") (absent : trimSpace newWidgetID ∉ panes.widgetIDs)
    (known : ∀ raw, direction ≠ .other raw) :
    ∃ wider : PaneTree,
      splitWindowLayoutAtWidget panes.layout target newWidgetID direction =
        .ok (wider.layout, true) ∧
      wider.widgetIDs.Perm (trimSpace newWidgetID :: panes.widgetIDs) ∧
      removeWindowLayoutWidget wider.layout newWidgetID = (panes.layout, true) := by
  obtain ⟨axis, insertBefore, spec⟩ := split_spec_of_known known
  obtain ⟨path, located⟩ := exists_leaf_path shown
  have position := subtree_leaf_path located
  have clean := clean_id_trim nonblank
  have leaves := leaves_modify_at_perm_cons
    (leaves_beside_perm axis insertBefore (trimSpace newWidgetID)) position
  refine ⟨⟨panes.tree.modifyAt
    (beside axis insertBefore (trimSpace newWidgetID)) path, ?_, ?_⟩, ?_, leaves, ?_⟩
  · intro widgetID mem
    rcases mem_cons.mp (leaves.mem_iff.mp mem) with rfl | old
    · exact clean
    · exact panes.clean widgetID old
  · exact leaves.nodup_iff.mpr (nodup_cons.mpr ⟨absent, panes.distinct⟩)
  · have trimmed : splitWindowLayoutAtWidget panes.layout target newWidgetID direction =
        splitWindowLayoutAtWidget panes.layout target (trimSpace newWidgetID) direction := by
      simp only [splitWindowLayoutAtWidget, trim_space_twice]
    rw [trimmed]
    exact split_at_widget_layout_of (panes.clean target shown) clean spec located
  · rw [remove_window_layout_widget_trimmed, PaneTree.layout, remove_widget_layout_of
      clean, prune_modify_at_beside absent position]
    have added := leaves.mem_iff.mpr mem_cons_self
    rw [decide_eq_true added]
    rfl

theorem split_then_remove_term_side :
    ∃ wider : PaneTree,
      splitWindowLayoutAtWidget (PaneTree.single "term-main" (by decide)).layout "term-main"
        "term-side" .left = .ok (wider.layout, true) ∧
      wider.widgetIDs.Perm (trimSpace "term-side" ::
        (PaneTree.single "term-main" (by decide)).widgetIDs) ∧
      removeWindowLayoutWidget wider.layout "term-side" =
        ((PaneTree.single "term-main" (by decide)).layout, true) := by
  apply split_then_remove_window_layout_widget
  · exact List.mem_singleton_self "term-main"
  · decide
  · intro shown
    exact absurd (mem_singleton.mp shown) (by decide)
  · intro raw same
    cases same

end RuneTerminal.Workspace
