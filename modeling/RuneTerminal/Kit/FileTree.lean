import Mathlib.Data.List.Infix

/-! A tree is read by place: the names from the root down to a node, with no link followed. There is
a directory at its root and above each of its nodes. -/

namespace RuneTerminal.Kit.FileTree

open List

/-- One step of a path: an empty or `.` component, a `..`, or a name. -/
inductive Part (Name : Type)
  | stay
  | up
  | name (name : Name)
deriving DecidableEq

/-- What a symbolic link holds. -/
structure Target (Name : Type) where
  rooted : Bool
  parts : List (Part Name)
deriving DecidableEq

inductive Node (Name Content : Type)
  | file (content : Content)
  | dir
  | link (target : Target Name)
deriving DecidableEq

def Node.isLink {Name Content : Type} : Node Name Content → Bool
  | .link _ => true
  | _ => false

/-- `places` lists every place that has a node, and maybe some without. -/
structure Tree (Name Content : Type) where
  find : List Name → Option (Node Name Content)
  places : List (List Name)
  mem_places : ∀ {place}, find place ≠ none → place ∈ places
  root_dir : find [] = some .dir
  parent_dir : ∀ {place name}, find (place ++ [name]) ≠ none → find place = some .dir

variable {Name Content : Type}

namespace Tree

variable {tree : Tree Name Content} {place taken : List Name} {node : Node Name Content}

theorem find_dir_of_append {below : List Name} (nonempty : below ≠ [])
    (found : tree.find (place ++ below) ≠ none) : tree.find place = some .dir := by
  induction below using reverseRecOn with
  | nil => exact absurd rfl nonempty
  | append_singleton before name ih =>
    rw [← append_assoc] at found
    have parent := tree.parent_dir found
    cases before with
    | nil => simpa using parent
    | cons first others =>
      apply ih (by simp)
      rw [parent]
      simp

theorem find_above {above : List Name} (isAbove : above <+: place)
    (found : tree.find place ≠ none) : tree.find above ≠ none := by
  obtain ⟨below, rfl⟩ := isAbove
  cases below with
  | nil => simpa using found
  | cons first others =>
    rw [find_dir_of_append (by simp) found]
    simp

theorem find_dropLast_dir (nonempty : place ≠ []) (found : tree.find place ≠ none) :
    tree.find place.dropLast = some .dir := by
  obtain ⟨before, last, rfl⟩ := (eq_nil_or_concat place).resolve_left nonempty
  rw [concat_eq_append] at found ⊢
  rw [dropLast_concat]
  exact tree.parent_dir found

def childNames [DecidableEq Name] (tree : Tree Name Content) (place : List Name) : List Name :=
  tree.places.filterMap fun other =>
    if other.dropLast = place ∧ (tree.find other).isSome then other.getLast? else none

theorem mem_child_names_iff [DecidableEq Name] {name : Name} :
    name ∈ tree.childNames place ↔ tree.find (place ++ [name]) ≠ none := by
  unfold childNames
  rw [mem_filterMap]
  constructor
  · rintro ⟨other, -, named⟩
    split_ifs at named with child
    obtain ⟨rfl, found⟩ := child
    rw [dropLast_append_getLast? name named]
    exact Option.isSome_iff_ne_none.mp found
  · intro found
    refine ⟨place ++ [name], tree.mem_places found, ?_⟩
    rw [if_pos ⟨dropLast_concat, Option.isSome_iff_ne_none.mpr found⟩]
    exact getLast?_concat

def bare : Tree Name Content where
  find place := if place = [] then some .dir else none
  places := [[]]
  mem_places := by
    intro place found
    split_ifs at found with isRoot
    · simp [isRoot]
    · exact absurd rfl found
  root_dir := if_pos rfl
  parent_dir := by
    intro place name found
    simp at found

def Extends (old new : Tree Name Content) : Prop :=
  ∀ place node, old.find place = some node → new.find place = some node

theorem Extends.refl (tree : Tree Name Content) : Extends tree tree := fun _ _ found => found

theorem Extends.trans {first second third : Tree Name Content} (before : Extends first second)
    (after : Extends second third) : Extends first third :=
  fun place node found => after place node (before place node found)

variable [DecidableEq Name]

def without (tree : Tree Name Content) (taken : List Name) : Tree Name Content where
  find place := if taken <+: place ∧ place ≠ [] then none else tree.find place
  places := tree.places
  mem_places := by
    intro place found
    split_ifs at found with away
    · exact absurd rfl found
    · exact tree.mem_places found
  root_dir := by simpa using tree.root_dir
  parent_dir := by
    intro place name found
    split_ifs at found with away
    · exact absurd rfl found
    have kept : ¬(taken <+: place ∧ place ≠ []) := by
      rintro ⟨isAbove, -⟩
      exact away ⟨isAbove.trans (List.prefix_append _ _), by simp⟩
    rw [if_neg kept]
    exact tree.parent_dir found

theorem find_without_apart (apart : ¬taken <+: place) :
    (tree.without taken).find place = tree.find place :=
  if_neg fun away => apart away.1

theorem find_without_eq_some (found : (tree.without taken).find place = some node) :
    tree.find place = some node := by
  unfold without at found
  dsimp only at found
  split_ifs at found
  exact found

theorem not_prefix_of_find_without (nonempty : place ≠ [])
    (found : (tree.without taken).find place ≠ none) : ¬taken <+: place := by
  intro isAbove
  exact found (if_pos ⟨isAbove, nonempty⟩)

theorem without_extends (tree : Tree Name Content) (taken : List Name) :
    Extends (tree.without taken) tree :=
  fun _ _ found => find_without_eq_some found

theorem Extends.without {smaller larger : Tree Name Content} (extended : Extends smaller larger)
    (taken : List Name) : Extends (smaller.without taken) (larger.without taken) := by
  intro place node found
  have inLarger := extended place node (find_without_eq_some found)
  by_cases isRoot : place = []
  · subst isRoot
    rw [larger.root_dir] at inLarger
    rw [← inLarger]
    exact (larger.without taken).root_dir
  · have apart := not_prefix_of_find_without isRoot (by rw [found]; simp)
    rw [find_without_apart apart]
    exact inLarger

theorem extends_without_of_free (free : tree.find taken = none) :
    Extends tree (tree.without taken) := by
  intro place node found
  have apart : ¬taken <+: place := fun isAbove =>
    find_above isAbove (by rw [found]; simp) free
  rw [find_without_apart apart]
  exact found

def create (tree : Tree Name Content) (place : List Name) (node : Node Name Content)
    (free : tree.find place = none) (parent : tree.find place.dropLast = some .dir) :
    Tree Name Content where
  find other := if other = place then some node else tree.find other
  places := place :: tree.places
  mem_places := by
    intro other found
    split_ifs at found with same
    · exact same ▸ List.mem_cons_self
    · exact List.mem_cons_of_mem _ (tree.mem_places found)
  root_dir := by
    have notRoot : [] ≠ place := by
      rintro rfl
      rw [tree.root_dir] at free
      cases free
    rw [if_neg notRoot]
    exact tree.root_dir
  parent_dir := by
    intro other name found
    have above : tree.find other = some .dir := by
      split_ifs at found with same
      · rw [← same, List.dropLast_concat] at parent
        exact parent
      · exact tree.parent_dir found
    have notPlace : other ≠ place := by
      rintro rfl
      rw [free] at above
      cases above
    rw [if_neg notPlace]
    exact above

section

variable {free : tree.find place = none} {parent : tree.find place.dropLast = some .dir}

@[simp]
theorem find_create_self : (tree.create place node free parent).find place = some node :=
  if_pos rfl

theorem create_extends : Extends tree (tree.create place node free parent) := by
  intro other found there
  have notPlace : other ≠ place := by
    rintro rfl
    rw [free] at there
    cases there
  exact (if_neg notPlace).trans there

end

def rewrite (tree : Tree Name Content) (place : List Name) (content : Content)
    (isFile : ∃ old, tree.find place = some (.file old)) : Tree Name Content where
  find other := if other = place then some (.file content) else tree.find other
  places := tree.places
  mem_places := by
    intro other found
    obtain ⟨old, held⟩ := isFile
    split_ifs at found with same
    · exact tree.mem_places (by rw [same, held]; simp)
    · exact tree.mem_places found
  root_dir := by
    obtain ⟨old, held⟩ := isFile
    have notRoot : [] ≠ place := by
      rintro rfl
      rw [tree.root_dir] at held
      cases held
    rw [if_neg notRoot]
    exact tree.root_dir
  parent_dir := by
    intro other name found
    obtain ⟨old, held⟩ := isFile
    have above : tree.find other = some .dir := by
      apply @tree.parent_dir other name
      split_ifs at found with same
      · rw [same, held]
        simp
      · exact found
    have notPlace : other ≠ place := by
      rintro rfl
      rw [held] at above
      cases above
    rw [if_neg notPlace]
    exact above

/-- Where a node stands after what is at `source` has moved to `target`. -/
def placeAfter (source target place : List Name) : List Name :=
  if source <+: place then target ++ place.drop source.length else place

/-- The tree after a rename: what stood at `source` now stands at `target`, in
the place of what was there. -/
def moved (tree : Tree Name Content) (source target : List Name) (notInside : ¬source <+: target)
    (notRoot : target ≠ []) (parent : tree.find target.dropLast = some .dir) :
    Tree Name Content where
  find place :=
    if target <+: place then tree.find (source ++ place.drop target.length)
    else if source <+: place then none
    else tree.find place
  places := tree.places ++ tree.places.map (placeAfter source target)
  mem_places := by
    intro place found
    rw [List.mem_append, List.mem_map]
    split_ifs at found with inTarget inSource
    · obtain ⟨below, rfl⟩ := inTarget
      rw [List.drop_left] at found
      refine Or.inr ⟨_, tree.mem_places found, ?_⟩
      rw [placeAfter, if_pos (List.prefix_append _ _), List.drop_left]
    · exact absurd rfl found
    · exact Or.inl (tree.mem_places found)
  root_dir := by
    have sourceNotRoot : source ≠ [] := by
      rintro rfl
      exact notInside List.nil_prefix
    rw [if_neg (by simpa using notRoot), if_neg (by simpa using sourceNotRoot)]
    exact tree.root_dir
  parent_dir := by
    intro place name found
    by_cases inTarget : target <+: place ++ [name]
    · rw [if_pos inTarget] at found
      rcases List.prefix_concat_iff.mp inTarget with same | inTargetAbove
      · -- The node is the moved one: its parent is the target's directory.
        have placeEq : target.dropLast = place := by rw [same, List.dropLast_concat]
        have outsideTarget : ¬target <+: place := by
          intro isAbove
          have shorter := isAbove.length_le
          rw [same, List.length_append, List.length_singleton] at shorter
          omega
        have outsideSource : ¬source <+: place := by
          intro isAbove
          exact notInside (same ▸ isAbove.trans (List.prefix_append _ _))
        rw [if_neg outsideTarget, if_neg outsideSource, ← placeEq]
        exact parent
      · obtain ⟨below, rfl⟩ := inTargetAbove
        rw [List.append_assoc, List.drop_left, ← List.append_assoc] at found
        rw [if_pos (List.prefix_append _ _), List.drop_left]
        exact tree.parent_dir found
    · rw [if_neg inTarget] at found
      split_ifs at found with inSource
      · exact absurd rfl found
      have outsideTarget : ¬target <+: place := fun isAbove =>
        inTarget (isAbove.trans (List.prefix_append _ _))
      have outsideSource : ¬source <+: place := fun isAbove =>
        inSource (isAbove.trans (List.prefix_append _ _))
      rw [if_neg outsideTarget, if_neg outsideSource]
      exact tree.parent_dir found

section

variable {source target : List Name} {notInside : ¬source <+: target} {notRoot : target ≠ []}
  {parent : tree.find target.dropLast = some .dir}

@[simp]
theorem find_moved_target (below : List Name) :
    (tree.moved source target notInside notRoot parent).find (target ++ below) =
    tree.find (source ++ below) := by
  unfold moved
  dsimp only
  rw [if_pos (prefix_append _ _), drop_left]

theorem without_extends_moved :
    Extends ((tree.without target).without source)
      (tree.moved source target notInside notRoot parent) := by
  intro place node found
  have foundBefore := find_without_eq_some found
  have inTree := find_without_eq_some foundBefore
  by_cases isRoot : place = []
  · subst isRoot
    rw [tree.root_dir] at inTree
    rw [← inTree]
    exact (tree.moved source target notInside notRoot parent).root_dir
  have outsideSource : ¬source <+: place :=
    not_prefix_of_find_without isRoot (by rw [found]; simp)
  have outsideTarget : ¬target <+: place :=
    not_prefix_of_find_without isRoot (by rw [foundBefore]; simp)
  unfold moved
  dsimp only
  rw [if_neg outsideTarget, if_neg outsideSource]
  exact inTree

end

end Tree

end RuneTerminal.Kit.FileTree
