import Mathlib.Data.List.Perm.Basic
import Mathlib.Data.List.Nodup

/-! Binary trees whose inner nodes carry an axis, and whose leaves carry a value. Positions are
paths from the root, `false` for the first child and `true` for the second. -/

namespace RuneTerminal.Kit

open List

inductive SplitTree (Axis Leaf : Type) where
  | leaf (value : Leaf)
  | split (axis : Axis) (first second : SplitTree Axis Leaf)

namespace SplitTree

variable {Axis Leaf : Type} {path : List Bool}

def leaves : SplitTree Axis Leaf → List Leaf
  | .leaf value => [value]
  | .split _ first second => first.leaves ++ second.leaves

@[simp]
theorem leaves_leaf (value : Leaf) : (leaf value : SplitTree Axis Leaf).leaves = [value] := rfl

@[simp]
theorem leaves_split (axis : Axis) (first second : SplitTree Axis Leaf) :
    (split axis first second).leaves = first.leaves ++ second.leaves := rfl

theorem leaves_ne_nil (tree : SplitTree Axis Leaf) : tree.leaves ≠ [] := by
  induction tree with
  | leaf value => simp
  | split axis first second firstIh secondIh => simp [firstIh]

def map (f : Leaf → Leaf) : SplitTree Axis Leaf → SplitTree Axis Leaf
  | .leaf value => .leaf (f value)
  | .split axis first second => .split axis (first.map f) (second.map f)

theorem leaves_map (f : Leaf → Leaf) (tree : SplitTree Axis Leaf) :
    (tree.map f).leaves = tree.leaves.map f := by
  induction tree with
  | leaf value => rfl
  | split axis first second firstIh secondIh =>
    simp only [map, leaves_split, firstIh, secondIh, map_append]

theorem map_involutive {f : Leaf → Leaf} (involutive : ∀ value, f (f value) = value)
    (tree : SplitTree Axis Leaf) : (tree.map f).map f = tree := by
  induction tree with
  | leaf value => simp only [map, involutive]
  | split axis first second firstIh secondIh => simp only [map, firstIh, secondIh]

def subtree? : SplitTree Axis Leaf → List Bool → Option (SplitTree Axis Leaf)
  | tree, [] => some tree
  | .leaf _, _ :: _ => none
  | .split _ first second, step :: path =>
    if step then second.subtree? path else first.subtree? path

/-- Rewrites the subtree at a path; a path that leaves the tree changes nothing. -/
def modifyAt (f : SplitTree Axis Leaf → SplitTree Axis Leaf) :
    List Bool → SplitTree Axis Leaf → SplitTree Axis Leaf
  | [], tree => f tree
  | _ :: _, .leaf value => .leaf value
  | step :: path, .split axis first second =>
    if step then .split axis first (second.modifyAt f path)
    else .split axis (first.modifyAt f path) second

@[simp]
theorem subtree_nil (tree : SplitTree Axis Leaf) : tree.subtree? [] = some tree := by
  cases tree <;> rfl

@[simp]
theorem modify_at_nil (f : SplitTree Axis Leaf → SplitTree Axis Leaf) (tree : SplitTree Axis Leaf) :
    tree.modifyAt f [] = f tree := by
  cases tree <;> rfl

theorem subtree_modify_at (f : SplitTree Axis Leaf → SplitTree Axis Leaf) (path : List Bool)
    (tree : SplitTree Axis Leaf) :
    (tree.modifyAt f path).subtree? path = (tree.subtree? path).map f := by
  induction path generalizing tree with
  | nil => simp
  | cons step path ih =>
    cases tree with
    | leaf value => rfl
    | split axis first second =>
      cases step <;> simp [modifyAt, subtree?, ih]

variable {tree found rest : SplitTree Axis Leaf} {value : Leaf}
  {f : SplitTree Axis Leaf → SplitTree Axis Leaf} {keep : Leaf → Bool}

theorem mem_leaves_of_subtree (position : tree.subtree? path = some found)
    (mem : value ∈ found.leaves) : value ∈ tree.leaves := by
  induction path generalizing tree with
  | nil =>
    cases (subtree_nil tree).symm.trans position
    exact mem
  | cons step path ih =>
    cases tree with
    | leaf other => simp [subtree?] at position
    | split axis first second =>
      cases step with
      | false | true => simp [ih (by simpa [subtree?] using position)]

theorem leaves_modify_at_filter
    (kept : ∀ tree, (f tree).leaves.filter keep = tree.leaves.filter keep) (path : List Bool)
    (tree : SplitTree Axis Leaf) :
    (tree.modifyAt f path).leaves.filter keep = tree.leaves.filter keep := by
  induction path generalizing tree with
  | nil => simp [kept]
  | cons step path ih =>
    cases tree with
    | leaf value => rfl
    | split axis first second =>
      cases step <;> simp [modifyAt, ih]

theorem leaves_modify_at_perm_cons (adds : ∀ tree, (f tree).leaves.Perm (value :: tree.leaves))
    (position : tree.subtree? path = some found) :
    (tree.modifyAt f path).leaves.Perm (value :: tree.leaves) := by
  induction path generalizing tree with
  | nil => simpa using adds tree
  | cons step path ih =>
    cases tree with
    | leaf value => simp [subtree?] at position
    | split axis first second =>
      cases step with
      | false =>
        have below : (first.modifyAt f path).leaves.Perm (value :: first.leaves) := by
          apply ih
          simpa [subtree?] using position
        simpa [modifyAt] using below.append_right second.leaves
      | true =>
        have below : (second.modifyAt f path).leaves.Perm (value :: second.leaves) := by
          apply ih
          simpa [subtree?] using position
        simpa [modifyAt] using (below.append_left first.leaves).trans perm_middle

def beside (axis : Axis) (before : Bool) (value : Leaf) (tree : SplitTree Axis Leaf) :
    SplitTree Axis Leaf :=
  if before then .split axis (.leaf value) tree else .split axis tree (.leaf value)

theorem leaves_beside_perm (axis : Axis) (before : Bool) (value : Leaf)
    (tree : SplitTree Axis Leaf) :
    (beside axis before value tree).leaves.Perm (value :: tree.leaves) := by
  cases before with
  | true | false => simp [beside]

/-- A strict, nonempty part of a leaf's path that ends at a split along `axis`. -/
def OuterSplit (tree : SplitTree Axis Leaf) (axis : Axis) (leafAt path : List Bool) : Prop :=
  path ≠ [] ∧ path <+: leafAt ∧ path ≠ leafAt ∧
    ∃ first second, tree.subtree? path = some (.split axis first second)

def NearestOuterSplit (tree : SplitTree Axis Leaf) (axis : Axis) (leafAt path : List Bool) :
    Prop :=
  tree.OuterSplit axis leafAt path ∧
    ∀ other, tree.OuterSplit axis leafAt other → other <+: path

section

variable [DecidableEq Leaf] {target : Leaf}

def leafPath (target : Leaf) : SplitTree Axis Leaf → Option (List Bool)
  | .leaf value => if value = target then some [] else none
  | .split _ first second =>
    match first.leafPath target with
    | some path => some (false :: path)
    | none => (second.leafPath target).map (true :: ·)

theorem subtree_leaf_path (located : tree.leafPath target = some path) :
    tree.subtree? path = some (.leaf target) := by
  induction tree generalizing path with
  | leaf value =>
    simp only [leafPath] at located
    split at located
    next same =>
      cases located
      simp [same]
    · cases located
  | split axis first second firstIh secondIh =>
    simp only [leafPath] at located
    cases inFirst : first.leafPath target with
    | some below =>
      simp only [inFirst, Option.some.injEq] at located
      subst located
      simpa [subtree?] using firstIh inFirst
    | none =>
      simp only [inFirst, Option.map_eq_some_iff] at located
      obtain ⟨below, inSecond, rfl⟩ := located
      simpa [subtree?] using secondIh inSecond

theorem leaf_path_is_some_iff : (tree.leafPath target).isSome ↔ target ∈ tree.leaves := by
  induction tree with
  | leaf value =>
    by_cases same : value = target
    · simp [leafPath, same]
    · simp [leafPath, same, Ne.symm same]
  | split axis first second firstIh secondIh =>
    simp only [leaves_split, mem_append, ← firstIh, ← secondIh, leafPath]
    cases first.leafPath target <;> simp

theorem exists_leaf_path (mem : target ∈ tree.leaves) : ∃ path, tree.leafPath target = some path :=
  Option.isSome_iff_exists.mp (leaf_path_is_some_iff.mpr mem)

theorem leaves_beside_filter (axis : Axis) (before : Bool) (value : Leaf)
    (tree : SplitTree Axis Leaf) :
    (beside axis before value tree).leaves.filter (· ≠ value) = tree.leaves.filter (· ≠ value) := by
  cases before <;> simp [beside]

end

/-- Drops the leaves that are not kept. A split left with one child becomes
that child; a tree left with no leaf is gone. -/
def prune (keep : Leaf → Bool) : SplitTree Axis Leaf → Option (SplitTree Axis Leaf)
  | .leaf value => if keep value then some (.leaf value) else none
  | .split axis first second =>
    match first.prune keep, second.prune keep with
    | none, rest => rest
    | rest, none => rest
    | some first, some second => some (.split axis first second)

theorem leaves_prune (keep : Leaf → Bool) (tree : SplitTree Axis Leaf) :
    ((tree.prune keep).map leaves).getD [] = tree.leaves.filter keep := by
  induction tree with
  | leaf value => by_cases kept : keep value <;> simp [prune, kept]
  | split axis first second firstIh secondIh =>
    simp only [leaves_split, filter_append, ← firstIh, ← secondIh, prune]
    cases first.prune keep <;> cases second.prune keep <;> simp

theorem leaves_of_prune_eq_some (pruned : tree.prune keep = some rest) :
    rest.leaves = tree.leaves.filter keep := by
  simpa [pruned] using leaves_prune keep tree

theorem prune_eq_some_of_mem (keep : Leaf → Bool) (mem : value ∈ tree.leaves) (kept : keep value) :
    ∃ rest, tree.prune keep = some rest := by
  cases pruned : tree.prune keep with
  | some rest => exact ⟨rest, rfl⟩
  | none =>
    have filtered : tree.leaves.filter keep = [] := by
      simpa [pruned] using (leaves_prune keep tree).symm
    have survivor : value ∈ tree.leaves.filter keep :=
      mem_filter.mpr ⟨mem, kept⟩
    rw [filtered] at survivor
    cases survivor

theorem prune_eq_self (kept : ∀ value ∈ tree.leaves, keep value) : tree.prune keep = some tree := by
  induction tree with
  | leaf value => simpa [prune] using kept value (by simp)
  | split axis first second firstIh secondIh =>
    have keepFirst : ∀ value ∈ first.leaves, keep value := fun value mem =>
      kept value (by simp [mem])
    have keepSecond : ∀ value ∈ second.leaves, keep value := fun value mem =>
      kept value (by simp [mem])
    simp [prune, firstIh keepFirst, secondIh keepSecond]

section

variable [DecidableEq Leaf]

theorem prune_perm_cons (pruned : tree.prune (· ≠ value) = some rest) (mem : value ∈ tree.leaves)
    (nodup : tree.leaves.Nodup) : (value :: rest.leaves).Perm tree.leaves := by
  have erased : rest.leaves = tree.leaves.erase value := by
    rw [leaves_of_prune_eq_some pruned, nodup.erase_eq_filter]
    apply filter_congr
    intro other _
    by_cases same : other = value <;> simp [same]
  rw [erased]
  exact (perm_cons_erase mem).symm

theorem leaves_reinsert_perm (pruned : tree.prune (· ≠ value) = some rest)
    (mem : value ∈ tree.leaves) (nodup : tree.leaves.Nodup)
    (position : rest.subtree? path = some found) (axis : Axis) (before : Bool) :
    (rest.modifyAt (beside axis before value) path).leaves.Perm tree.leaves :=
  (leaves_modify_at_perm_cons (leaves_beside_perm axis before value) position).trans
    (prune_perm_cons pruned mem nodup)

theorem leaves_reinsert_filter (pruned : tree.prune (· ≠ value) = some rest) (path : List Bool)
    (axis : Axis) (before : Bool) :
    (rest.modifyAt (beside axis before value) path).leaves.filter (· ≠ value) =
    tree.leaves.filter (· ≠ value) := by
  rw [leaves_modify_at_filter (leaves_beside_filter axis before value),
    leaves_of_prune_eq_some pruned, filter_filter]
  apply filter_congr
  intro other _
  simp

theorem prune_modify_at_beside (absent : value ∉ tree.leaves)
    (position : tree.subtree? path = some found) (axis : Axis) (before : Bool) :
    (tree.modifyAt (beside axis before value) path).prune (· ≠ value) = some tree := by
  have untouched {part : SplitTree Axis Leaf} (absent : value ∉ part.leaves) :
      part.prune (· ≠ value) = some part := by
    apply prune_eq_self
    intro other mem
    simpa using ne_of_mem_of_not_mem mem absent
  induction path generalizing tree with
  | nil =>
    rw [modify_at_nil]
    cases before with
    | true =>
      simp only [beside, if_true, prune, untouched absent]
      rw [if_neg (by simp)]
    | false =>
      simp only [beside, Bool.false_eq_true, if_false, prune, untouched absent]
      rw [if_neg (by simp)]
  | cons step path ih =>
    cases tree with
    | leaf other => simp [subtree?] at position
    | split nodeAxis first second =>
      rw [leaves_split, mem_append, not_or] at absent
      cases step with
      | false =>
        have below := ih absent.1 (by simpa [subtree?] using position)
        simp only [modifyAt, Bool.false_eq_true, if_false, prune, below, untouched absent.2]
      | true =>
        have below := ih absent.2 (by simpa [subtree?] using position)
        simp only [modifyAt, if_true, prune, below, untouched absent.1]

end

end SplitTree

end RuneTerminal.Kit
