import RuneTerminal.Files.Copying

/-! Each path of a `DeleteFS` request is resolved before the first entry is removed. An entry is
removed with all that is below it, and the root is an entry to it as well. -/

namespace RuneTerminal.Files

open Go.Filepath Kit.FileTree
open Kit.FileTree.Tree (Extends)
open List

variable {Content : Type} {tree next : Tree Name Content} {root place path : Path}
  {paths : List Path}

def deleteFS (host : Host) (tree : Tree Name Content) (paths : List String) : Answer Content :=
  match resolveFSPaths host tree paths with
  | .error err => (tree, .error err)
  | .ok normalizedPaths => (forEach removeFSPath tree normalizedPaths).answer normalizedPaths

def StrictlyBelow (root place : Path) : Prop :=
  root <+: place ∧ place ≠ root

def DeletesOnlyBelow (host : Host) (tree : Tree Name Content) (paths : List String) : Prop :=
  ∀ place, tree.find place ≠ none → (deleteFS host tree paths).1.find place = none →
    ∃ rootAbs rootCanonical,
      resolveRoot tree host.getwd host.repoRoot = .ok (rootAbs, rootCanonical) ∧
        StrictlyBelow rootCanonical place

/-- Where a path of the request is the root itself, the entry that the root's spelling stands
for at its turn, if there is one, lies below the root or is that of the whole tree. -/
def SparesRoot (host : Host) (tree : Tree Name Content) (paths : List String) : Prop :=
  ∀ rootAbs rootCanonical normalizedPaths,
    resolveRoot tree host.getwd host.repoRoot = .ok (rootAbs, rootCanonical) →
    resolveFSPaths host tree paths = .ok normalizedPaths →
    ∀ index path current place node, paths[index]? = some path →
      requestedPath host.getwd rootAbs path = .ok rootAbs →
      ReachedAt removeFSPath tree normalizedPaths index rootAbs current →
      lstat current rootAbs = .ok (place, node) →
      place = [] ∨ StrictlyBelow rootCanonical place

theorem StrictlyBelow.further {below : Path} (isBelow : StrictlyBelow root place)
    (further : place <+: below) : StrictlyBelow root below := by
  refine ⟨isBelow.1.trans further, ?_⟩
  intro same
  rw [same] at further
  exact isBelow.2 (further.eq_of_length_le isBelow.1.length_le)

variable {node : Node Name Content}

theorem remove_fs_path_of_lstat (looked : lstat tree path = .ok (place, node)) :
    removeFSPath tree path =
    (tree.without place, if place = [] then some (.os .busy) else none) := by
  unfold removeFSPath removeAll
  rw [looked]

theorem remove_fs_path_cases (tree : Tree Name Content) (path : Path) :
    (removeFSPath tree path).1 = tree ∨ ∃ place node, lstat tree path = .ok (place, node) ∧
    (removeFSPath tree path).1 = tree.without place := by
  cases looked : lstat tree path with
  | error err =>
    left
    unfold removeFSPath
    rw [looked]
    cases err with
    | _ => rfl
  | ok found =>
    right
    rw [remove_fs_path_of_lstat looked]
    exact ⟨found.1, found.2, rfl, rfl⟩

theorem remove_fs_path_extends (tree : Tree Name Content) (path : Path) :
    Extends (removeFSPath tree path).1 tree := by
  rcases remove_fs_path_cases tree path with same | ⟨place, node, _, without⟩
  · rw [same]
    exact .refl tree
  · rw [without]
    exact Tree.without_extends tree place

theorem for_each_removes (tree : Tree Name Content) (paths : List Path) :
    Extends (forEach removeFSPath tree paths).1 tree := by
  refine for_each_run (fun _ current => Extends current tree) (fun final => Extends final tree)
    (.refl tree) ?_ ?_ ?_
  · intro index path current after _ extended removed
    have step := remove_fs_path_extends current path
    rw [removed] at step
    exact step.trans extended
  · intro index path current after err _ extended removed
    have step := remove_fs_path_extends current path
    rw [removed] at step
    exact step.trans extended
  · intro current extended
    exact extended

section

variable {host : Host} {paths : List String} {normalizedPaths : List Path}
  {rootAbs rootCanonical target : Path} {index : Nat}

theorem resolved_of_normalized (resolves : resolveFSPaths host tree paths = .ok normalizedPaths)
    (isTarget : normalizedPaths[index]? = some target) :
    ∃ path, paths[index]? = some path ∧
    resolveFSEntryPath tree host.getwd host.repoRoot path = .ok target := by
  unfold resolveFSPaths at resolves
  split_ifs at resolves with nothing
  obtain ⟨path, isPath, existing⟩ := Kit.result_of_map_m resolves isTarget
  refine ⟨path, isPath, ?_⟩
  obtain ⟨resolvedPath, resolved, existing⟩ := Kit.bind_eq_ok existing
  rw [resolved]
  split at existing
  · cases existing
  · cases existing
  · exact existing

variable {current : Tree Name Content}

theorem entry_below (within : EntryWithin tree rootCanonical target)
    (extended : Extends current tree) (looked : lstat current target = .ok (place, node)) :
    StrictlyBelow rootCanonical place := by
  obtain ⟨parent, name, location, isTarget, leads, inside, _⟩ := within
  obtain ⟨named, _⟩ := names_lstat looked
  rw [isTarget] at named
  obtain ⟨isPlace, _⟩ := (named.mono extended).place_eq leads
  rw [isPlace]
  refine ⟨inside.trans (prefix_append _ _), ?_⟩
  intro same
  have longer := inside.length_le
  rw [← same, length_append, length_singleton] at longer
  omega

theorem path_of_names_top (named : Names tree path []) : path = [] := by
  generalize isTop : ([] : Path) = place at named
  cases named with
  | root => rfl
  | entry _ _ => simp at isTop

theorem root_of_no_names
    (rooted : resolveRoot tree host.getwd host.repoRoot = .ok ([], rootCanonical)) :
    rootCanonical = [] := by
  have leads := (is_root_of_resolve_root rooted).2
  exact leads_unique leads .done

def OnlyBelowGone (tree current : Tree Name Content) (root : Path) : Prop :=
  ∀ place, tree.find place ≠ none → current.find place = none → StrictlyBelow root place

theorem only_below_gone_without {taken : Path} (gone : OnlyBelowGone tree current root)
    (below : ∀ place, taken <+: place → place ≠ [] → StrictlyBelow root place) :
    OnlyBelowGone tree (current.without taken) root := by
  intro place found away
  by_cases isTaken : taken <+: place ∧ place ≠ []
  · exact below place isTaken.1 isTaken.2
  apply gone place found
  unfold Tree.without at away
  dsimp only at away
  rwa [if_neg isTaken] at away

theorem turn_only_below
    (rooted : resolveRoot tree host.getwd host.repoRoot = .ok (rootAbs, rootCanonical))
    (resolves : resolveFSPaths host tree paths = .ok normalizedPaths)
    (spares : SparesRoot host tree paths)
    (reached : ReachedAt removeFSPath tree normalizedPaths index target current)
    (extended : Extends current tree) (gone : OnlyBelowGone tree current rootCanonical) :
    OnlyBelowGone tree (removeFSPath current target).1 rootCanonical := by
  rcases remove_fs_path_cases current target with same | ⟨place, node, looked, without⟩
  · rw [same]
    exact gone
  rw [without]
  apply only_below_gone_without gone
  intro below further notRoot
  obtain ⟨path, isPath, resolved⟩ := resolved_of_normalized resolves reached.1
  obtain ⟨otherAbs, otherCanonical, otherRooted, entry⟩ := resolve_entry_within resolved
  cases (otherRooted.symm.trans rooted)
  rcases entry with within | ⟨requested, isRoot⟩
  · exact (entry_below within extended looked).further further
  rw [isRoot] at reached looked
  rcases spares _ _ _ rooted resolves index path current place node isPath requested reached
    looked with isTree | isBelow
  · -- The root's spelling stands for the top of the tree: the root is the whole tree.
    obtain ⟨named, _⟩ := names_lstat looked
    rw [isTree] at named
    obtain rfl := path_of_names_top named
    rw [root_of_no_names rooted]
    exact .intro nil_prefix notRoot
  · exact isBelow.further further

theorem deletes_only_below_of_spares (spares : SparesRoot host tree paths) :
    DeletesOnlyBelow host tree paths := by
  intro place found
  unfold deleteFS
  cases resolves : resolveFSPaths host tree paths with
  | error err =>
    intro away
    exact absurd away found
  | ok normalizedPaths =>
    intro away
    rw [answer_fst] at away
    cases normalizedPaths with
    | nil => exact absurd away found
    | cons first rest =>
      obtain ⟨path, _, resolved⟩ := resolved_of_normalized resolves getElem?_cons_zero
      obtain ⟨rootAbs, rootCanonical, rooted, _⟩ := resolve_entry_within resolved
      have onlyBelow : OnlyBelowGone tree
          (forEach removeFSPath tree (first :: rest)).1 rootCanonical := by
        refine for_each_run
          (fun _ current => Extends current tree ∧ OnlyBelowGone tree current rootCanonical)
          (fun final => OnlyBelowGone tree final rootCanonical) ?_ ?_ ?_ ?_
        · exact ⟨.refl tree, fun place found away => absurd away found⟩
        · intro index target current after reached invariant removed
          have step := remove_fs_path_extends current target
          have gone := turn_only_below rooted resolves spares reached invariant.1 invariant.2
          rw [removed] at step gone
          exact ⟨step.trans invariant.1, gone⟩
        · intro index target current after err reached invariant removed
          have gone := turn_only_below rooted resolves spares reached invariant.1 invariant.2
          rw [removed] at gone
          exact gone
        · intro current invariant
          exact invariant.2
      exact ⟨rootAbs, rootCanonical, rooted, onlyBelow place found away⟩

theorem gone_at_end (reached : ReachedAt removeFSPath tree normalizedPaths index target current)
    (looked : lstat current target = .ok (place, node)) (notTop : place ≠ []) :
    (forEach removeFSPath tree normalizedPaths).1.find place = none := by
  rw [for_each_from reached, forEach, remove_fs_path_of_lstat looked, if_neg notTop]
  cases left : (forEach removeFSPath (current.without place)
      (normalizedPaths.drop (index + 1))).1.find place with
  | none => rfl
  | some other =>
    have stays := for_each_removes (current.without place) (normalizedPaths.drop (index + 1))
      place other left
    have apart := Tree.not_prefix_of_find_without notTop (by rw [stays]; simp)
    exact absurd prefix_rfl apart

/-- A request removes only what lies strictly below the root, if and only if it spares the
root. -/
theorem delete_fs_spares_root (host : Host) (tree : Tree Name Content) (paths : List String) :
    DeletesOnlyBelow host tree paths ↔ SparesRoot host tree paths := by
  refine ⟨?_, deletes_only_below_of_spares⟩
  intro below rootAbs rootCanonical normalizedPaths rooted resolves index path current place node
    _ _ reached looked
  by_cases isTop : place = []
  · exact .inl isTop
  right
  have before : Extends current tree := by
    have removed := for_each_removes tree (normalizedPaths.take index)
    rw [reached.2] at removed
    exact removed
  have found : tree.find place ≠ none := by
    rw [before place node (names_lstat looked).2]
    simp
  have deleted : (deleteFS host tree paths).1 =
      (forEach removeFSPath tree normalizedPaths).1 := by
    unfold deleteFS
    rw [resolves]
    exact answer_fst _ _
  have gone := gone_at_end reached looked isTop
  rw [← deleted] at gone
  obtain ⟨otherAbs, otherCanonical, otherRooted, isBelow⟩ := below place found gone
  cases (otherRooted.symm.trans rooted)
  exact isBelow

end

def workspaceHost : Host where
  getwd := none
  repoRoot := "/w"
  pathLevels := 8
  crossDevice := fun _ _ => false

/-- A request for `.` removes the workspace. -/
theorem workspace_is_deleted : ¬ ∀ (host : Host) (tree : Tree Name Unit) (paths : List String),
    DeletesOnlyBelow host tree paths := by
  intro claimed
  obtain ⟨rootAbs, rootCanonical, rooted, below⟩ :=
    claimed workspaceHost linkedWorkspace ["."] [nameW] (by decide) rfl
  have isRoot : resolveRoot linkedWorkspace none "/w" = .ok ([nameW], [nameW]) := rfl
  cases (isRoot.symm.trans rooted)
  exact below.2 rfl

theorem named_of_for_each (found : tree.find place ≠ none)
    (away : (forEach removeFSPath tree paths).1.find place = none) :
    ∃ target ∈ paths, ∃ named, Names tree target named ∧ named <+: place := by
  induction paths generalizing tree with
  | nil => exact absurd away found
  | cons first rest ih =>
    by_cases left : (removeFSPath tree first).1.find place = none
    · rcases remove_fs_path_cases tree first with same | ⟨named, node, looked, without⟩
      · rw [same] at left
        exact absurd left found
      · refine ⟨first, mem_cons_self, named, (names_lstat looked).1, ?_⟩
        by_contra apart
        rw [without, Tree.find_without_apart apart] at left
        exact found left
    have step := remove_fs_path_extends tree first
    unfold forEach at away
    split at away
    next after err removed =>
      rw [removed] at left
      exact absurd away left
    next after removed =>
      rw [removed] at left step
      obtain ⟨target, mem, named, names, isAbove⟩ := ih left away
      exact ⟨target, mem_cons_of_mem _ mem, named, names.mono step, isAbove⟩

theorem gone_of_for_each (ended : forEach removeFSPath tree paths = (next, none))
    (mem : path ∈ paths) (named : Names next path place) : next.find place = none := by
  induction paths generalizing tree with
  | nil => cases mem
  | cons first rest ih =>
    unfold forEach at ended
    split at ended
    · cases ended
    next after removed =>
      rcases mem_cons.mp mem with rfl | mem
      · have kept := for_each_removes after rest
        have step := remove_fs_path_extends tree path
        rw [ended] at kept
        rw [removed] at step
        have free := free_of_remove removed ((named.mono kept).mono step)
        cases left : next.find place with
        | none => rfl
        | some node =>
          rw [kept _ _ left] at free
          cases free
      · exact ih ended mem

/-- A deletion adds and changes nothing, takes away only what is at or below a named entry, and
where it ends well none of its paths leads to an entry any more. -/
theorem delete_fs_removes_named (host : Host) (tree : Tree Name Content) (paths : List String) :
    let next := (deleteFS host tree paths).1
    Extends next tree ∧
    (∀ place, tree.find place ≠ none → next.find place = none → ∃ targets,
      resolveFSPaths host tree paths = .ok targets ∧
        ∃ target ∈ targets, ∃ named, Names tree target named ∧ named <+: place) ∧
    ∀ targets, (deleteFS host tree paths).2 = .ok targets →
      resolveFSPaths host tree paths = .ok targets ∧
        ∀ target ∈ targets, ∀ place, Names next target place → next.find place = none := by
  unfold deleteFS
  cases resolves : resolveFSPaths host tree paths with
  | error err =>
    exact ⟨.refl tree, fun _ found away => absurd away found, fun _ done => by cases done⟩
  | ok normalizedPaths =>
    dsimp only
    rw [answer_fst]
    refine ⟨for_each_removes tree normalizedPaths, ?_, ?_⟩
    · intro place found away
      exact ⟨normalizedPaths, rfl, named_of_for_each found away⟩
    · intro targets done
      cases ended : forEach removeFSPath tree normalizedPaths with
      | mk next failed =>
      rw [ended] at done
      cases failed with
      | some err => cases done
      | none =>
        cases done
        exact ⟨rfl, fun target mem place named => gone_of_for_each ended mem named⟩

end RuneTerminal.Files
