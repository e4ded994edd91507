import RuneTerminal.Go.Filepath
import RuneTerminal.Kit.PathWalk
import RuneTerminal.Kit.Transition

/-! How a path that a client asks for becomes an absolute path inside the workspace root:
`resolveFSPathInRoot` follows the last name through a link, `resolveFSEntryPath` does not. -/

namespace RuneTerminal.Files

open Go.Filepath Go.Strings Kit.FileTree List Except

variable {Content : Type}

inductive FSError
  | invalidFSPath
  | fsPathOutsideWorkspace
  | fsPathNotFound
  | fsPathNotDirectory
  | fsPathExists
  | invalidFSTarget
  | os (err : OsError)

def resolveRoot (tree : Tree Name Content) (getwd : Option Path) (root : String) :
    Except FSError (Path × Path) :=
  let root := (trimSpace root).toList
  if root = [] then .error .invalidFSPath
  else
    match abs getwd (cleanChars root) with
    | none => .error .invalidFSPath
    | some rootAbs =>
      match evalSymlinks tree rootAbs with
      | .error _ => .error .invalidFSPath
      | .ok rootCanonical => .ok (rootAbs, rootCanonical)

def requestedPath (getwd : Option Path) (rootAbs : Path) (path : String) : Except FSError Path :=
  let targetPath := (trimSpace path).toList
  let targetPath := if targetPath = [] then writePath rootAbs else targetPath
  let targetPath := if isAbs targetPath then targetPath else writePath (join rootAbs targetPath)
  match abs getwd (cleanChars targetPath) with
  | none => .error .invalidFSPath
  | some targetAbs => .ok targetAbs

def fsPathWithinRoot (path root : Path) : Bool := (rel root path).parents = 0

def resolveComponents (tree : Tree Name Content) (rootCanonical targetAbs : Path) :
    Path → Path → Bool → List Name → Except FSError Path
  | _, currentCanonical, resolvedThroughSymlink, [] =>
    if ¬fsPathWithinRoot currentCanonical rootCanonical then .error .fsPathOutsideWorkspace
    else if ¬resolvedThroughSymlink then .ok targetAbs
    else .ok currentCanonical
  | currentLexical, currentCanonical, resolvedThroughSymlink, component :: rest =>
    let isFinalComponent := rest.isEmpty
    let currentLexical := join currentLexical component.val
    let nextCanonical := join currentCanonical component.val
    match lstat tree currentLexical with
    | .error .notExist =>
      let candidate := joinAll nextCanonical rest
      if ¬fsPathWithinRoot candidate rootCanonical then .error .fsPathOutsideWorkspace
      else if ¬resolvedThroughSymlink then .ok targetAbs
      else .ok candidate
    | .error err => .error (.os err)
    | .ok (_, .link _) =>
      match evalSymlinks tree currentLexical with
      | .error .notExist => .error .fsPathNotFound
      | .error err => .error (.os err)
      | .ok resolvedAbs =>
        if ¬fsPathWithinRoot resolvedAbs rootCanonical then .error .fsPathOutsideWorkspace
        else resolveComponents tree rootCanonical targetAbs resolvedAbs resolvedAbs true rest
    | .ok (_, .dir) =>
      resolveComponents tree rootCanonical targetAbs currentLexical nextCanonical
        resolvedThroughSymlink rest
    | .ok (_, .file _) =>
      if ¬isFinalComponent then .error .fsPathNotDirectory
      else
        resolveComponents tree rootCanonical targetAbs currentLexical nextCanonical
          resolvedThroughSymlink rest

def resolveFSPathWithinWorkspace (tree : Tree Name Content)
    (rootAbs rootCanonical targetAbs : Path) : Except FSError Path :=
  let relativeToRoot := rel rootAbs targetAbs
  if relativeToRoot.parents ≠ 0 then .error .fsPathOutsideWorkspace
  else if relativeToRoot.names = [] then .ok targetAbs
  else
    resolveComponents tree rootCanonical targetAbs rootAbs rootCanonical false relativeToRoot.names

def resolveFSPathInRoot (tree : Tree Name Content) (getwd : Option Path) (root path : String) :
    Except FSError Path := do
  let (rootAbs, rootCanonical) ← resolveRoot tree getwd root
  let targetAbs ← requestedPath getwd rootAbs path
  resolveFSPathWithinWorkspace tree rootAbs rootCanonical targetAbs

/-- `resolveFSPath`; outside the workspace nothing is looked up. -/
def resolveFSPath (tree : Tree Name Content) (getwd : Option Path) (repoRoot path : String)
    (allowOutsideWorkspace : Bool) : Except FSError Path :=
  let root := trimSpace repoRoot
  if root = "" then .error .invalidFSPath
  else if allowOutsideWorkspace then
    match abs getwd (cleanChars root.toList) with
    | none => .error .invalidFSPath
    | some rootAbs => requestedPath getwd rootAbs path
  else resolveFSPathInRoot tree getwd root path

def resolveEntryComponents (tree : Tree Name Content) (rootCanonical : Path) :
    Path → Path → Bool → List Name → Except FSError Path
  | currentLexical, _, resolvedParentThroughSymlink, [] =>
    if resolvedParentThroughSymlink ∧ ¬fsPathWithinRoot currentLexical rootCanonical then
      .error .fsPathOutsideWorkspace
    else .ok currentLexical
  | currentLexical, currentCanonical, resolvedParentThroughSymlink, component :: rest =>
    let isFinalComponent := rest.isEmpty
    let currentLexical := join currentLexical component.val
    let nextCanonical := join currentCanonical component.val
    match lstat tree currentLexical with
    | .error .notExist => .error .fsPathNotFound
    | .error err => .error (.os err)
    | .ok (_, .link _) =>
      if isFinalComponent then .ok currentLexical
      else
        match evalSymlinks tree currentLexical with
        | .error .notExist => .error .fsPathNotFound
        | .error err => .error (.os err)
        | .ok resolvedAbs =>
          if ¬fsPathWithinRoot resolvedAbs rootCanonical then .error .fsPathOutsideWorkspace
          else resolveEntryComponents tree rootCanonical resolvedAbs resolvedAbs true rest
    | .ok (_, .dir) =>
      resolveEntryComponents tree rootCanonical currentLexical
        (if isFinalComponent then currentCanonical else nextCanonical)
        resolvedParentThroughSymlink rest
    | .ok (_, .file _) =>
      if ¬isFinalComponent then .error .fsPathNotDirectory
      else
        resolveEntryComponents tree rootCanonical currentLexical currentCanonical
          resolvedParentThroughSymlink rest

def resolveFSEntryPath (tree : Tree Name Content) (getwd : Option Path) (repoRoot path : String) :
    Except FSError Path := do
  let (rootAbs, rootCanonical) ← resolveRoot tree getwd repoRoot
  let targetAbs ← requestedPath getwd rootAbs path
  let relativeToRoot := rel rootAbs targetAbs
  if relativeToRoot.parents ≠ 0 then .error .fsPathOutsideWorkspace
  else if relativeToRoot.names = [] then .ok targetAbs
  else
    resolveEntryComponents tree rootCanonical rootAbs rootCanonical false relativeToRoot.names

variable {tree : Tree Name Content} {getwd : Option Path} {root : String}
  {rootAbs rootCanonical targetAbs path resolved location : Path}
  {currentLexical currentCanonical place : Path}
  {component : Name} {components : List Name}

def IsRoot (tree : Tree Name Content) (getwd : Option Path) (root : String)
    (rootAbs rootCanonical : Path) : Prop :=
  abs getwd (cleanChars (trimSpace root).toList) = some rootAbs ∧
    Leads tree [] (nameParts rootAbs) rootCanonical

/-- The path stands for a place, and that place is at or below the root. -/
def ConfinedTo (tree : Tree Name Content) (rootCanonical path : Path) : Prop :=
  (∃ location, Located tree path location) ∧
    ∀ location, Located tree path location → rootCanonical <+: location

/-- The path is that of an entry: it is there, as a child of a directory at or
below the root. -/
def EntryWithin (tree : Tree Name Content) (rootCanonical path : Path) : Prop :=
  ∃ parent name location, path = parent ++ [name] ∧ Leads tree [] (nameParts parent) location ∧
    rootCanonical <+: location ∧ tree.find (location ++ [name]) ≠ none

theorem confined_of_located (located : Located tree path location)
    (inside : rootCanonical <+: location) : ConfinedTo tree rootCanonical path := by
  refine ⟨⟨location, located⟩, ?_⟩
  intro other locatedOther
  rw [locatedOther.unique located]
  exact inside

theorem is_prefix_of_within (within : fsPathWithinRoot location rootCanonical = true) :
    rootCanonical <+: location := by
  have inside : (rel rootCanonical location).parents = 0 := by simpa [fsPathWithinRoot] using within
  exact ⟨_, (rel_parents_eq_zero inside).symm⟩

section

section

variable {node : Node Name Content}
  (leads : Leads tree [] (nameParts currentLexical) currentCanonical)
  (looked : lstat tree (currentLexical ++ [component]) = .ok (place, node))
include leads looked

theorem leads_through_component (notLink : node.isLink = false) :
    Leads tree [] (nameParts (currentLexical ++ [component]))
      (currentCanonical ++ [component]) := by
  obtain ⟨named, found⟩ := names_lstat looked
  obtain ⟨rfl, -⟩ := named.place_eq leads
  exact named.leads ⟨node, found, notLink⟩

theorem entry_of_lstat : tree.find (currentCanonical ++ [component]) ≠ none := by
  obtain ⟨named, found⟩ := names_lstat looked
  obtain ⟨rfl, -⟩ := named.place_eq leads
  rw [found]
  simp

end

theorem leads_through_link {resolvedAbs : Path}
    (evaluated : evalSymlinks tree path = .ok resolvedAbs) :
    Leads tree [] (nameParts resolvedAbs) resolvedAbs :=
  leads_to_itself (leads_of_walk evaluated).solid_from_root

end

/-- The lexical spelling leads to the canonical one, which is inside the root.
It is the start of the requested path until a link is met, and the canonical
one itself from then on. -/
structure OnTrack (tree : Tree Name Content) (rootCanonical targetAbs : Path)
    (currentLexical currentCanonical : Path) (resolvedThroughSymlink : Bool)
    (components : List Name) : Prop where
  leads : Leads tree [] (nameParts currentLexical) currentCanonical
  inside : rootCanonical <+: currentCanonical
  lexical : resolvedThroughSymlink = false → targetAbs = currentLexical ++ components
  canonical : resolvedThroughSymlink = true → currentCanonical = currentLexical

section

variable {resolvedThroughSymlink : Bool} {rest : List Name}

theorem OnTrack.down {place : Path} {node : Node Name Content}
    (track : OnTrack tree rootCanonical targetAbs currentLexical currentCanonical
      resolvedThroughSymlink (component :: rest))
    (looked : lstat tree (currentLexical ++ [component]) = .ok (place, node))
    (notLink : node.isLink = false) :
    OnTrack tree rootCanonical targetAbs (currentLexical ++ [component])
      (currentCanonical ++ [component]) resolvedThroughSymlink rest where
  leads := leads_through_component track.leads looked notLink
  inside := track.inside.trans (prefix_append _ _)
  lexical := by
    intro notThrough
    rw [track.lexical notThrough, append_assoc]
    rfl
  canonical := by
    intro through
    rw [track.canonical through]

theorem OnTrack.link {resolvedAbs : Path} (evaluated : evalSymlinks tree path = .ok resolvedAbs)
    (within : fsPathWithinRoot resolvedAbs rootCanonical = true) :
    OnTrack tree rootCanonical targetAbs resolvedAbs resolvedAbs true rest where
  leads := leads_through_link evaluated
  inside := is_prefix_of_within within
  lexical := fun notThrough => by cases notThrough
  canonical := fun _ => rfl

theorem answer_eq {spelled candidate : Path} {outside : Prop} [Decidable outside]
    (lexical : resolvedThroughSymlink = false → targetAbs = spelled)
    (canonical : resolvedThroughSymlink = true → candidate = spelled)
    (answers :
      (if outside then .error .fsPathOutsideWorkspace
      else if ¬resolvedThroughSymlink then .ok targetAbs
      else .ok candidate : Except FSError Path) = .ok resolved) :
    resolved = spelled := by
  split_ifs at answers with isOutside through
  · rw [← ok.inj answers, canonical through]
  · rw [← ok.inj answers, lexical (by simpa using through)]

theorem resolve_components_confined {components : List Name}
    (track : OnTrack tree rootCanonical targetAbs currentLexical currentCanonical
      resolvedThroughSymlink components)
    (resolves : resolveComponents tree rootCanonical targetAbs currentLexical currentCanonical
      resolvedThroughSymlink components =
      .ok resolved) :
    ConfinedTo tree rootCanonical resolved := by
  induction components generalizing currentLexical currentCanonical resolvedThroughSymlink with
  | nil =>
    have answer := answer_eq track.lexical
      (fun through => (track.canonical through).trans (append_nil _).symm) resolves
    rw [answer, append_nil]
    exact confined_of_located (.there track.leads) track.inside
  | cons component rest ih =>
    unfold resolveComponents at resolves
    simp only [join_name] at resolves
    cases looked : lstat tree (currentLexical ++ [component]) with
    | error err =>
      rw [looked] at resolves
      cases err with
      | notExist =>
        obtain ⟨dirHere, free⟩ := missing_of_lstat track.leads looked
        have answer := answer_eq track.lexical
          (fun through => by rw [track.canonical through]; simp) resolves
        rw [answer]
        apply confined_of_located (.missing track.leads dirHere free)
        exact track.inside.trans (prefix_append _ _)
      | _ => cases resolves
    | ok found =>
      obtain ⟨place, node⟩ := found
      rw [looked] at resolves
      cases node with
      | link target =>
        cases evaluated : evalSymlinks tree (currentLexical ++ [component]) with
        | error err =>
          rw [evaluated] at resolves
          cases err <;> cases resolves
        | ok resolvedAbs =>
          rw [evaluated] at resolves
          dsimp only at resolves
          split_ifs at resolves with within
          exact ih (.link evaluated within) resolves
      | dir => exact ih (track.down looked rfl) resolves
      | file content =>
        dsimp only at resolves
        split_ifs at resolves with final
        exact ih (track.down looked rfl) resolves

end

theorem resolve_within_workspace_confined (leads : Leads tree [] (nameParts rootAbs) rootCanonical)
    (resolves : resolveFSPathWithinWorkspace tree rootAbs rootCanonical targetAbs = .ok resolved) :
    ConfinedTo tree rootCanonical resolved := by
  unfold resolveFSPathWithinWorkspace at resolves
  dsimp only at resolves
  split_ifs at resolves with outside isRoot
  · have target := rel_parents_eq_zero (not_not.mp outside)
    rw [isRoot, append_nil] at target
    rw [← ok.inj resolves, target]
    exact confined_of_located (.there leads) prefix_rfl
  refine resolve_components_confined ⟨leads, prefix_rfl, ?_, ?_⟩ resolves
  · intro _
    exact rel_parents_eq_zero (not_not.mp outside)
  · intro through
    cases through

theorem resolve_entry_components_within {components : List Name}
    {currentLexical currentCanonical : Path} {resolvedParentThroughSymlink : Bool}
    (leads : Leads tree [] (nameParts currentLexical) currentCanonical)
    (inside : rootCanonical <+: currentCanonical) (nonempty : components ≠ [])
    (resolves : resolveEntryComponents tree rootCanonical currentLexical currentCanonical
      resolvedParentThroughSymlink components =
      .ok resolved) :
    EntryWithin tree rootCanonical resolved := by
  induction components generalizing currentLexical currentCanonical
    resolvedParentThroughSymlink with
  | nil => exact absurd rfl nonempty
  | cons component rest ih =>
    unfold resolveEntryComponents at resolves
    simp only [join_name] at resolves
    cases looked : lstat tree (currentLexical ++ [component]) with
    | error err =>
      rw [looked] at resolves
      cases err <;> cases resolves
    | ok found =>
      obtain ⟨place, node⟩ := found
      rw [looked] at resolves
      have isEntry := entry_of_lstat leads looked
      cases rest with
      | nil =>
        -- The last component: its own spelling is the answer, link or not.
        have answer : resolved = currentLexical ++ [component] := by
          cases node <;> dsimp only [isEmpty_nil] at resolves <;>
            simp only [resolveEntryComponents] at resolves <;> split_ifs at resolves <;>
            exact (ok.inj resolves).symm
        exact ⟨currentLexical, component, currentCanonical, answer, leads, inside, isEntry⟩
      | cons next more =>
        have onward := inside.trans (prefix_append currentCanonical [component])
        cases node with
        | link target =>
          rw [if_neg (by simp)] at resolves
          cases evaluated : evalSymlinks tree (currentLexical ++ [component]) with
          | error err =>
            rw [evaluated] at resolves
            cases err <;> cases resolves
          | ok resolvedAbs =>
            rw [evaluated] at resolves
            dsimp only at resolves
            split_ifs at resolves with within
            exact ih (leads_through_link evaluated) (is_prefix_of_within within)
              (by simp) resolves
        | dir =>
          exact ih (leads_through_component leads looked rfl) onward (by simp) resolves
        | file content => cases resolves

theorem is_root_of_resolve_root
    (resolves : resolveRoot tree getwd root = .ok (rootAbs, rootCanonical)) :
    IsRoot tree getwd root rootAbs rootCanonical := by
  unfold resolveRoot at resolves
  dsimp only at resolves
  split_ifs at resolves with blank
  cases absolute : abs getwd (cleanChars (trimSpace root).toList) with
  | none =>
    rw [absolute] at resolves
    cases resolves
  | some found =>
    rw [absolute] at resolves
    dsimp only at resolves
    cases evaluated : evalSymlinks tree found with
    | error err =>
      rw [evaluated] at resolves
      cases resolves
    | ok canonical =>
      rw [evaluated] at resolves
      cases resolves
      exact ⟨absolute, leads_of_walk evaluated⟩

theorem resolve_entry_within {path : String}
    (resolves : resolveFSEntryPath tree getwd root path = .ok resolved) :
    ∃ rootAbs rootCanonical, resolveRoot tree getwd root = .ok (rootAbs, rootCanonical) ∧
      (EntryWithin tree rootCanonical resolved ∨
        requestedPath getwd rootAbs path = .ok rootAbs ∧ resolved = rootAbs) := by
  obtain ⟨⟨rootAbs, rootCanonical⟩, rooted, resolves⟩ := Kit.bind_eq_ok resolves
  obtain ⟨targetAbs, requested, resolves⟩ := Kit.bind_eq_ok resolves
  refine ⟨rootAbs, rootCanonical, rooted, ?_⟩
  dsimp only at resolves
  split_ifs at resolves with outside atRoot
  · have target := rel_parents_eq_zero (not_not.mp outside)
    rw [atRoot, append_nil] at target
    refine .inr ⟨requested.trans (congrArg ok target), ?_⟩
    rw [← ok.inj resolves, target]
  · have leads := (is_root_of_resolve_root rooted).2
    exact .inl (resolve_entry_components_within leads prefix_rfl atRoot resolves)

/-- Every path that is resolved is confined to the root, and every entry is a
child of a directory that is, or the root that was asked for. -/
theorem resolved_paths_are_confined (tree : Tree Name Content) (getwd : Option Path)
    (root path : String) :
    (∀ resolved, resolveFSPathInRoot tree getwd root path = .ok resolved →
      ∃ rootAbs rootCanonical, IsRoot tree getwd root rootAbs rootCanonical ∧
        ConfinedTo tree rootCanonical resolved) ∧
    ∀ resolved, resolveFSEntryPath tree getwd root path = .ok resolved →
      ∃ rootAbs rootCanonical, IsRoot tree getwd root rootAbs rootCanonical ∧
        (EntryWithin tree rootCanonical resolved ∨
          requestedPath getwd rootAbs path = .ok rootAbs ∧ resolved = rootAbs) := by
  constructor
  · intro resolved resolves
    obtain ⟨⟨rootAbs, rootCanonical⟩, rooted, resolves⟩ := Kit.bind_eq_ok resolves
    obtain ⟨targetAbs, -, resolves⟩ := Kit.bind_eq_ok resolves
    have isRoot := is_root_of_resolve_root rooted
    exact ⟨rootAbs, rootCanonical, isRoot, resolve_within_workspace_confined isRoot.2 resolves⟩
  · intro resolved resolves
    obtain ⟨rootAbs, rootCanonical, rooted, within⟩ := resolve_entry_within resolves
    exact ⟨rootAbs, rootCanonical, is_root_of_resolve_root rooted, within⟩

def nameW : Name := ⟨['w'], by decide⟩

def nameD : Name := ⟨['d'], by decide⟩

def nameL : Name := ⟨['l'], by decide⟩

def linkedWorkspace : Tree Name Unit :=
  ((Tree.bare.create [nameW] .dir rfl rfl).create [nameW, nameD] .dir rfl rfl).create
    [nameW, nameL] (.link ⟨false, [.name nameD]⟩) rfl rfl

theorem resolved_paths_are_confined_behind_link :
    (∃ resolved, resolveFSPathInRoot linkedWorkspace none "/w" "l/new" = .ok resolved ∧
      ∃ rootAbs rootCanonical, IsRoot linkedWorkspace none "/w" rootAbs rootCanonical ∧
        ConfinedTo linkedWorkspace rootCanonical resolved) ∧
    ∃ resolved, resolveFSEntryPath linkedWorkspace none "/w" "l" = .ok resolved ∧
      ∃ rootAbs rootCanonical, IsRoot linkedWorkspace none "/w" rootAbs rootCanonical ∧
        (EntryWithin linkedWorkspace rootCanonical resolved ∨
          requestedPath none rootAbs "l" = .ok rootAbs ∧ resolved = rootAbs) := by
  constructor
  · refine ⟨[nameW, nameD, ⟨"new".toList, by decide⟩], rfl, ?_⟩
    exact (resolved_paths_are_confined linkedWorkspace none "/w" "l/new").1 _ rfl
  · refine ⟨[nameW, nameL], rfl, ?_⟩
    exact (resolved_paths_are_confined linkedWorkspace none "/w" "l").2 _ rfl

/-- The entry of the root itself is resolved as well, and the directory that it
is in is outside. -/
theorem root_entry_is_outside_the_root :
    ∃ resolved, resolveFSEntryPath linkedWorkspace none "/w" "." = .ok resolved ∧
      ∀ rootAbs rootCanonical, IsRoot linkedWorkspace none "/w" rootAbs rootCanonical →
        ¬EntryWithin linkedWorkspace rootCanonical resolved := by
  refine ⟨[nameW], rfl, ?_⟩
  rintro rootAbs rootCanonical ⟨absolute, leads⟩
    ⟨parent, name, location, entry, toParent, inside, -⟩
  obtain rfl : [nameW] = rootAbs := Option.some.inj absolute
  obtain rfl : parent = [] := by
    cases parent with
    | nil => rfl
    | cons first others => simp at entry
  cases toParent
  obtain rfl := prefix_nil.mp inside
  exact absurd (walk_of_leads leads 0) (by decide)

end RuneTerminal.Files
