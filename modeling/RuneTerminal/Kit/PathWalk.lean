import RuneTerminal.Kit.FileTree

/-! A path is followed part by part, and a symbolic link puts its own parts in front of the ones
that are left. `Leads` is the walk without a limit on the links. -/

namespace RuneTerminal.Kit.FileTree

open List

/-- The errors that the calls on a tree tell apart. -/
inductive OsError
  | notExist
  | notDir
  | tooManyLinks
  | exist
  | nameTooLong
  | invalid
  | crossDevice
  | busy
deriving DecidableEq

variable {Name Content : Type} {links : Nat}

variable {tree : Tree Name Content} {place other path : List Name} {node : Node Name Content}

namespace Tree

def isDir (tree : Tree Name Content) (place : List Name) : Bool :=
  match tree.find place with
  | some .dir => true
  | _ => false

theorem is_dir_iff : tree.isDir place = true ↔ tree.find place = some .dir := by
  unfold isDir
  split <;> simp_all

end Tree

def Target.start (target : Target Name) (here : List Name) : List Name :=
  if target.rooted then [] else here

/-- The walk up to the first link, which `follow` goes on from. -/
def walkFrom (tree : Tree Name Content)
    (follow : List Name → List (Part Name) → Except OsError (List Name)) :
    List Name → List (Part Name) → Except OsError (List Name)
  | here, [] => .ok here
  | here, part :: rest =>
    if tree.isDir here then
      match part with
      | .stay => walkFrom tree follow here rest
      | .up => walkFrom tree follow here.dropLast rest
      | .name name =>
        match tree.find (here ++ [name]) with
        | none => .error .notExist
        | some (.link target) => follow (target.start here) (target.parts ++ rest)
        | some _ => walkFrom tree follow (here ++ [name]) rest
    else .error .notDir

/-- The walk that follows at most `links` links. -/
def walk (tree : Tree Name Content) : Nat → List Name → List (Part Name) →
    Except OsError (List Name)
  | 0 => walkFrom tree fun _ _ => .error .tooManyLinks
  | links + 1 => walkFrom tree (walk tree links)

/-- Following `parts` from `here` ends at a place. -/
inductive Leads (tree : Tree Name Content) : List Name → List (Part Name) → List Name → Prop
  | done {here : List Name} : Leads tree here [] here
  | stay {here place : List Name} {rest : List (Part Name)} :
      tree.find here = some .dir → Leads tree here rest place →
        Leads tree here (.stay :: rest) place
  | up {here place : List Name} {rest : List (Part Name)} :
      tree.find here = some .dir → Leads tree here.dropLast rest place →
        Leads tree here (.up :: rest) place
  | name {here place : List Name} {name : Name} {node : Node Name Content}
      {rest : List (Part Name)} :
      tree.find here = some .dir → tree.find (here ++ [name]) = some node → node.isLink = false →
        Leads tree (here ++ [name]) rest place → Leads tree here (.name name :: rest) place
  | link {here place : List Name} {name : Name} {target : Target Name} {rest : List (Part Name)} :
      tree.find here = some .dir → tree.find (here ++ [name]) = some (.link target) →
        Leads tree (target.start here) (target.parts ++ rest) place →
          Leads tree here (.name name :: rest) place

variable {here : List Name} {parts : List (Part Name)} {name : Name} {larger : Tree Name Content}

section

theorem leads_of_walk_from {follow : List Name → List (Part Name) → Except OsError (List Name)}
    (right : ∀ here parts place, follow here parts = .ok place → Leads tree here parts place)
    (walked : walkFrom tree follow here parts = .ok place) : Leads tree here parts place := by
  induction parts generalizing here with
  | nil =>
    cases walked
    exact .done
  | cons part rest ih =>
    unfold walkFrom at walked
    split_ifs at walked with isDir
    have dirHere := Tree.is_dir_iff.mp isDir
    cases part with
    | stay => exact .stay dirHere (ih walked)
    | up => exact .up dirHere (ih walked)
    | name name =>
      dsimp only at walked
      cases found : tree.find (here ++ [name]) with
      | none =>
        rw [found] at walked
        cases walked
      | some node =>
        rw [found] at walked
        cases node with
        | link target => exact .link dirHere found (right _ _ _ walked)
        | dir | file => exact .name dirHere found rfl (ih walked)

theorem leads_of_walk (walked : walk tree links here parts = .ok place) :
    Leads tree here parts place := by
  induction links generalizing here parts place with
  | zero =>
    apply leads_of_walk_from _ walked
    intro _ _ _ followed
    cases followed
  | succ links ih => exact leads_of_walk_from (fun _ _ _ followed => ih followed) walked

section

variable {rest : List (Part Name)}

section

variable (dirHere : tree.find here = some .dir)
include dirHere

theorem walk_stay : walk tree links here (.stay :: rest) = walk tree links here rest := by
  cases links <;> simp [walk, walkFrom, Tree.is_dir_iff.mpr dirHere]

theorem walk_up : walk tree links here (.up :: rest) = walk tree links here.dropLast rest := by
  cases links <;> simp [walk, walkFrom, Tree.is_dir_iff.mpr dirHere]

theorem walk_name (found : tree.find (here ++ [name]) = some node) (notLink : node.isLink = false) :
    walk tree links here (.name name :: rest) = walk tree links (here ++ [name]) rest := by
  have isDir := Tree.is_dir_iff.mpr dirHere
  cases node with
  | link target => cases notLink
  | dir | file => cases links <;> simp [walk, walkFrom, isDir, found]

theorem walk_link {target : Target Name}
    (found : tree.find (here ++ [name]) = some (.link target)) :
    walk tree (links + 1) here (.name name :: rest) =
    walk tree links (target.start here) (target.parts ++ rest) := by
  simp [walk, walkFrom, Tree.is_dir_iff.mpr dirHere, found]

end

end

theorem walk_of_leads (leads : Leads tree here parts place) (links : Nat) :
    walk tree links here parts = .ok place ∨ walk tree links here parts = .error .tooManyLinks := by
  induction leads generalizing links with
  | done => cases links <;> exact .inl rfl
  | stay dirHere _ ih =>
    rw [walk_stay dirHere]
    exact ih links
  | up dirHere _ ih =>
    rw [walk_up dirHere]
    exact ih links
  | name dirHere found notLink _ ih =>
    rw [walk_name dirHere found notLink]
    exact ih links
  | link dirHere found _ ih =>
    cases links with
    | zero => exact .inr (by simp [walk, walkFrom, Tree.is_dir_iff.mpr dirHere, found])
    | succ links =>
      rw [walk_link dirHere found]
      exact ih links

theorem leads_unique (leads : Leads tree here parts place)
    (leadsOther : Leads tree here parts other) : place = other := by
  induction leads with
  | done => cases leadsOther; rfl
  | stay _ _ ih =>
    cases leadsOther with
    | stay _ rest => exact ih rest
  | up _ _ ih =>
    cases leadsOther with
    | up _ rest => exact ih rest
  | name _ found notLink _ ih =>
    cases leadsOther with
    | name _ _ _ rest => exact ih rest
    | link _ foundLink _ =>
      cases (found.symm.trans foundLink)
      cases notLink
  | link _ found _ ih =>
    cases leadsOther with
    | name _ foundNode notLink _ =>
      cases (found.symm.trans foundNode)
      cases notLink
    | link _ foundLink rest =>
      obtain ⟨rfl⟩ := Node.link.inj (Option.some.inj (found.symm.trans foundLink))
      exact ih rest

variable {more : List (Part Name)}

theorem Leads.append {middle : List Name} (first : Leads tree here parts middle)
    (second : Leads tree middle more place) : Leads tree here (parts ++ more) place := by
  induction first with
  | done => exact second
  | stay dirHere _ ih => exact .stay dirHere (ih second)
  | up dirHere _ ih => exact .up dirHere (ih second)
  | name dirHere found notLink _ ih => exact .name dirHere found notLink (ih second)
  | link dirHere found _ ih =>
    have onward := ih second
    rw [append_assoc] at onward
    exact .link dirHere found onward

theorem Leads.split {all : List (Part Name)} (leads : Leads tree here all place)
    (together : all = parts ++ more) :
    ∃ middle, Leads tree here parts middle ∧ Leads tree middle more place := by
  induction leads generalizing parts with
  | @done here =>
    obtain ⟨rfl, rfl⟩ := append_eq_nil_iff.mp together.symm
    exact ⟨here, .done, .done⟩
  | @stay here place rest dirHere walked ih =>
    cases parts with
    | nil =>
      obtain rfl : more = _ := together.symm
      exact ⟨here, .done, .stay dirHere walked⟩
    | cons part parts =>
      cases together
      obtain ⟨middle, before, after⟩ := ih rfl
      exact ⟨middle, .stay dirHere before, after⟩
  | @up here place rest dirHere walked ih =>
    cases parts with
    | nil =>
      obtain rfl : more = _ := together.symm
      exact ⟨here, .done, .up dirHere walked⟩
    | cons part parts =>
      cases together
      obtain ⟨middle, before, after⟩ := ih rfl
      exact ⟨middle, .up dirHere before, after⟩
  | @name here place name node rest dirHere found notLink walked ih =>
    cases parts with
    | nil =>
      obtain rfl : more = _ := together.symm
      exact ⟨here, .done, .name dirHere found notLink walked⟩
    | cons part parts =>
      cases together
      obtain ⟨middle, before, after⟩ := ih rfl
      exact ⟨middle, .name dirHere found notLink before, after⟩
  | @link here place name target rest dirHere found walked ih =>
    cases parts with
    | nil =>
      obtain rfl : more = _ := together.symm
      exact ⟨here, .done, .link dirHere found walked⟩
    | cons part parts =>
      cases together
      obtain ⟨middle, before, after⟩ := ih (append_assoc _ _ _).symm
      exact ⟨middle, .link dirHere found before, after⟩

theorem Leads.mono (extended : Tree.Extends tree larger) (leads : Leads tree here parts place) :
    Leads larger here parts place := by
  induction leads with
  | done => exact .done
  | stay dirHere _ ih => exact .stay (extended _ _ dirHere) ih
  | up dirHere _ ih => exact .up (extended _ _ dirHere) ih
  | name dirHere found notLink _ ih =>
    exact .name (extended _ _ dirHere) (extended _ _ found) notLink ih
  | link dirHere found _ ih => exact .link (extended _ _ dirHere) (extended _ _ found) ih

end

def Solid (tree : Tree Name Content) (place : List Name) : Prop :=
  ∃ node, tree.find place = some node ∧ node.isLink = false

theorem solid_of_dir (dirHere : tree.find place = some .dir) : Solid tree place :=
  ⟨.dir, dirHere, rfl⟩

theorem solid_dropLast (dirHere : tree.find place = some .dir) : Solid tree place.dropLast := by
  by_cases isRoot : place = []
  · subst isRoot
    exact solid_of_dir tree.root_dir
  · exact solid_of_dir (Tree.find_dropLast_dir isRoot (by rw [dirHere]; simp))

theorem Leads.solid (leads : Leads tree here parts place) (solid : Solid tree here) :
    Solid tree place := by
  induction leads with
  | done => exact solid
  | stay _ _ ih => exact ih solid
  | up dirHere _ ih => exact ih (solid_dropLast dirHere)
  | @name here place name node rest dirHere found notLink _ ih => exact ih ⟨node, found, notLink⟩
  | @link here place name target rest dirHere found _ ih =>
    apply ih
    unfold Target.start
    split_ifs
    · exact solid_of_dir tree.root_dir
    · exact solid

theorem Leads.solid_from_root (leads : Leads tree [] parts place) : Solid tree place :=
  leads.solid (solid_of_dir tree.root_dir)

def nameParts (path : List Name) : List (Part Name) := path.map .name

@[simp]
theorem name_parts_append (first second : List Name) :
    nameParts (first ++ second) = nameParts first ++ nameParts second := List.map_append

theorem leads_to_itself (solid : Solid tree place) : Leads tree [] (nameParts place) place := by
  induction place using reverseRecOn with
  | nil => exact .done
  | append_singleton before name ih =>
    obtain ⟨node, found, notLink⟩ := solid
    have parent : tree.find before = some .dir := tree.parent_dir (by rw [found]; simp)
    rw [name_parts_append]
    exact (ih (solid_of_dir parent)).append (.name parent found notLink .done)

/-- The place a path stands for once all links are followed. Where the path
stops being there, the names that are left come below the last directory. -/
inductive Located (tree : Tree Name Content) : List Name → List Name → Prop
  | there {path place : List Name} : Leads tree [] (nameParts path) place → Located tree path place
  | missing {before here rest : List Name} {name : Name} :
      Leads tree [] (nameParts before) here → tree.find here = some .dir →
        tree.find (here ++ [name]) = none →
          Located tree (before ++ name :: rest) (here ++ name :: rest)

variable {before : List Name}

section

variable {rest : List Name}

theorem not_leads_past_missing (leads : Leads tree [] (nameParts before) here)
    (free : tree.find (here ++ [name]) = none) :
    ¬Leads tree [] (nameParts (before ++ name :: rest)) place := by
  intro past
  obtain ⟨middle, toMiddle, onward⟩ := past.split (name_parts_append before (name :: rest))
  obtain rfl := leads_unique toMiddle leads
  cases onward with
  | name _ found | link _ found =>
    rw [free] at found
    cases found

theorem Located.unique (located : Located tree path place)
    (locatedOther : Located tree path other) : place = other := by
  generalize samePath : path = again at locatedOther
  cases located with
  | there leads =>
    cases locatedOther with
    | there leadsOther =>
      subst samePath
      exact leads_unique leads leadsOther
    | missing leadsOther _ freeOther =>
      exact absurd (samePath ▸ leads) (not_leads_past_missing leadsOther freeOther)
  | @missing before here rest name leads dirHere free =>
    cases locatedOther with
    | there leadsOther =>
      exact absurd (samePath ▸ leadsOther) (not_leads_past_missing leads free)
    | @missing beforeOther hereOther restOther nameOther leadsOther dirOther freeOther =>
      -- One of the two missing names comes first; the other path leads past it.
      rcases append_eq_append_iff.mp samePath with
        ⟨between, rfl, restEq⟩ | ⟨between, rfl, restEq⟩
      · cases between with
        | nil =>
          cases restEq
          rw [append_nil] at leadsOther
          rw [leads_unique leads leadsOther]
        | cons next more =>
          cases restEq
          exact absurd leadsOther (not_leads_past_missing leads free)
      · cases between with
        | nil =>
          cases restEq
          rw [append_nil] at leads
          rw [leads_unique leads leadsOther]
        | cons next more =>
          cases restEq
          exact absurd leads (not_leads_past_missing leadsOther freeOther)

end

inductive Names (tree : Tree Name Content) : List Name → List Name → Prop
  | root : Names tree [] []
  | entry {before here : List Name} {name : Name} :
      Leads tree [] (nameParts before) here → tree.find here = some .dir →
        Names tree (before ++ [name]) (here ++ [name])

theorem Names.mono (extended : Tree.Extends tree larger) (named : Names tree path place) :
    Names larger path place := by
  cases named with
  | root => exact .root
  | entry leads dirHere => exact .entry (leads.mono extended) (extended _ _ dirHere)

theorem Names.unique (named : Names tree path place) (namedOther : Names tree path other) :
    place = other := by
  generalize samePath : path = again at namedOther
  cases named with
  | root =>
    cases namedOther with
    | root => rfl
    | entry _ _ => simp at samePath
  | entry leads _ =>
    cases namedOther with
    | root => simp at samePath
    | entry leadsOther _ =>
      obtain ⟨rfl, sameName⟩ := append_inj' samePath rfl
      rw [leads_unique leads leadsOther, sameName]

theorem Names.leads (named : Names tree path place) (solid : Solid tree place) :
    Leads tree [] (nameParts path) place := by
  cases named with
  | root => exact .done
  | entry leads dirHere =>
    obtain ⟨node, found, notLink⟩ := solid
    rw [name_parts_append]
    exact leads.append (.name dirHere found notLink .done)

theorem Names.place_eq (named : Names tree (before ++ [name]) place)
    (leads : Leads tree [] (nameParts before) here) :
    place = here ++ [name] ∧ tree.find here = some .dir := by
  generalize samePath : before ++ [name] = path at named
  cases named with
  | root => simp at samePath
  | entry leadsOther dirHere =>
    obtain ⟨rfl, sameName⟩ := append_inj' samePath rfl
    obtain rfl := singleton_inj.mp sameName
    obtain rfl := leads_unique leads leadsOther
    exact ⟨rfl, dirHere⟩

theorem Names.child (named : Names tree path place) (dirThere : tree.find place = some .dir)
    (name : Name) : Names tree (path ++ [name]) (place ++ [name]) :=
  .entry (named.leads (solid_of_dir dirThere)) dirThere

theorem Names.parent_dir (named : Names tree path place) :
    tree.find place.dropLast = some .dir := by
  cases named with
  | root => exact tree.root_dir
  | entry _ dirHere =>
    rw [dropLast_concat]
    exact dirHere

/-- Directories and links are where they were. -/
def KeepsWays (tree next : Tree Name Content) : Prop :=
  ∀ place node, tree.find place = some node → (∀ content, node ≠ .file content) →
    next.find place = some node

section

variable {next : Tree Name Content} {there : List Name}

theorem walk_done : walk tree links here [] = .ok here := by
  cases links <;> rfl

theorem walk_not_dir {part : Part Name} (notDir : tree.find here ≠ some .dir) :
    walk tree links here (part :: parts) = .error .notDir := by
  have turnedDown : tree.isDir here = false := by
    rw [← Bool.not_eq_true, Tree.is_dir_iff]
    exact notDir
  cases links <;> simp [walk, walkFrom, turnedDown]

theorem walk_missing (dirHere : tree.find here = some .dir)
    (free : tree.find (here ++ [name]) = none) :
    walk tree links here (.name name :: parts) = .error .notExist := by
  cases links <;> simp [walk, walkFrom, Tree.is_dir_iff.mpr dirHere, free]

theorem walk_from_file {content : Content} (held : tree.find here = some (.file content))
    (isDir : tree.find there = some .dir) : walk tree links here parts ≠ .ok there := by
  intro walked
  cases parts with
  | nil =>
    rw [walk_done] at walked
    rw [Except.ok.inj walked, isDir] at held
    cases held
  | cons part rest =>
    rw [walk_not_dir (by rw [held]; simp)] at walked
    cases walked

/-- A walk to a directory is the same in a tree that keeps the way, and goes on from there
with the links that are left. -/
theorem walk_kept (kept : KeepsWays tree next) (isDir : tree.find there = some .dir)
    (walked : walk tree links here parts = .ok there) :
    ∃ left, ∀ more, walk next links here (parts ++ more) = walk next left there more := by
  induction links using Nat.strong_induction_on generalizing here parts with
  | _ links ihLinks =>
    induction parts generalizing here with
    | nil =>
      rw [walk_done] at walked
      exact ⟨links, fun more => by rw [nil_append, Except.ok.inj walked]⟩
    | cons part rest ih =>
      by_cases dirAt : tree.find here = some .dir
      · have dirNext := kept here .dir dirAt (by simp)
        cases part with
        | stay =>
          rw [walk_stay dirAt] at walked
          obtain ⟨left, same⟩ := ih walked
          exact ⟨left, fun more => by rw [cons_append, walk_stay dirNext, same]⟩
        | up =>
          rw [walk_up dirAt] at walked
          obtain ⟨left, same⟩ := ih walked
          exact ⟨left, fun more => by rw [cons_append, walk_up dirNext, same]⟩
        | name name =>
          cases found : tree.find (here ++ [name]) with
          | none =>
            rw [walk_missing dirAt found] at walked
            cases walked
          | some node =>
            cases node with
            | dir =>
              rw [walk_name dirAt found rfl] at walked
              obtain ⟨left, same⟩ := ih walked
              refine ⟨left, fun more => ?_⟩
              rw [cons_append, walk_name dirNext (kept _ _ found (by simp)) rfl, same]
            | file content =>
              rw [walk_name dirAt found rfl] at walked
              exact absurd walked (walk_from_file found isDir)
            | link target =>
              cases links with
              | zero => simp [walk, walkFrom, Tree.is_dir_iff.mpr dirAt, found] at walked
              | succ links =>
                rw [walk_link dirAt found] at walked
                obtain ⟨left, same⟩ := ihLinks links (Nat.lt_succ_self links) walked
                refine ⟨left, fun more => ?_⟩
                rw [cons_append, walk_link dirNext (kept _ _ found (by simp)),
                  ← append_assoc, same]
      · rw [walk_not_dir dirAt] at walked
        cases walked

theorem walk_names {place names : List Name} {there : List Name}
    (noLinks : ∀ above target, above ≠ [] → above <+: names →
      tree.find (place ++ above) ≠ some (.link target))
    (walked : walk tree links place (nameParts names) = .ok there) : there = place ++ names := by
  induction names generalizing place with
  | nil =>
    rw [nameParts, map_nil, walk_done] at walked
    rw [append_nil, Except.ok.inj walked]
  | cons name rest ih =>
    rw [nameParts, map_cons] at walked
    by_cases dirAt : tree.find place = some .dir
    · cases found : tree.find (place ++ [name]) with
      | none =>
        rw [walk_missing dirAt found] at walked
        cases walked
      | some node =>
        have notLink : node.isLink = false := by
          cases node with
          | link target => exact absurd found (noLinks [name] target (by simp) (by simp))
          | dir | file => rfl
        rw [walk_name dirAt found notLink] at walked
        have later : ∀ above target, above ≠ [] → above <+: rest →
            tree.find (place ++ [name] ++ above) ≠ some (.link target) := by
          intro above target _ isAbove
          rw [append_assoc]
          exact noLinks _ _ (by simp) ((prefix_append_right_inj [name]).mpr isAbove)
        rw [ih later walked, append_assoc]
        rfl
    · rw [walk_not_dir dirAt] at walked
      cases walked

end

def kernelLinks : Nat := 40

/-- `filepath.EvalSymlinks` gives up on a path with more links. -/
def evalLinks : Nat := 255

/-- `filepath.EvalSymlinks` on an absolute path. -/
def evalSymlinks (tree : Tree Name Content) (path : List Name) : Except OsError (List Name) :=
  walk tree evalLinks [] (nameParts path)

def entryPlace (tree : Tree Name Content) (path : List Name) : Except OsError (List Name) :=
  match path.getLast? with
  | none => .ok []
  | some name =>
    match walk tree kernelLinks [] (nameParts path.dropLast) with
    | .error err => .error err
    | .ok here => if tree.isDir here then .ok (here ++ [name]) else .error .notDir

def nodeAt (tree : Tree Name Content) (placed : Except OsError (List Name)) :
    Except OsError (List Name × Node Name Content) :=
  match placed with
  | .error err => .error err
  | .ok place =>
    match tree.find place with
    | none => .error .notExist
    | some node => .ok (place, node)

/-- `os.Lstat`, with the place of the entry. -/
def lstat (tree : Tree Name Content) (path : List Name) :
    Except OsError (List Name × Node Name Content) :=
  nodeAt tree (entryPlace tree path)

/-- `os.Stat`, with the place that the path leads to. -/
def stat (tree : Tree Name Content) (path : List Name) :
    Except OsError (List Name × Node Name Content) :=
  nodeAt tree (walk tree kernelLinks [] (nameParts path))

theorem names_of_place (placed : entryPlace tree path = .ok place) :
    Names tree path place := by
  unfold entryPlace at placed
  cases last : path.getLast? with
  | none =>
    rw [last] at placed
    cases placed
    obtain rfl := getLast?_eq_none_iff.mp last
    exact .root
  | some name =>
    rw [last] at placed
    cases walked : walk tree kernelLinks [] (nameParts path.dropLast) with
    | error err =>
      rw [walked] at placed
      cases placed
    | ok here =>
      rw [walked] at placed
      dsimp only at placed
      split_ifs at placed with isDir
      cases placed
      rw [← dropLast_append_getLast? name last]
      exact .entry (leads_of_walk walked) (Tree.is_dir_iff.mp isDir)

theorem entry_place_of_names (named : Names tree path place) :
    entryPlace tree path = .ok place ∨ entryPlace tree path = .error .tooManyLinks := by
  cases named with
  | root => exact .inl rfl
  | @entry before here name leads dirHere =>
    unfold entryPlace
    rw [getLast?_concat]
    rw [dropLast_concat]
    rcases walk_of_leads leads kernelLinks with walked | walked
    · rw [walked]
      dsimp only
      rw [if_pos (Tree.is_dir_iff.mpr dirHere)]
      exact .inl rfl
    · rw [walked]
      exact .inr rfl

theorem placed_of_node_at {placed : Except OsError (List Name)}
    (found : nodeAt tree placed = .ok (place, node)) :
    placed = .ok place ∧ tree.find place = some node := by
  unfold nodeAt at found
  split at found
  · cases found
  next there =>
    split at found
    · cases found
    next other held =>
      cases found
      exact ⟨rfl, held⟩

theorem names_lstat (found : lstat tree path = .ok (place, node)) :
    Names tree path place ∧ tree.find place = some node := by
  obtain ⟨placed, held⟩ := placed_of_node_at found
  exact ⟨names_of_place placed, held⟩

theorem leads_of_stat (found : stat tree path = .ok (place, node)) :
    Leads tree [] (nameParts path) place ∧ tree.find place = some node := by
  obtain ⟨walked, held⟩ := placed_of_node_at found
  exact ⟨leads_of_walk walked, held⟩

theorem lstat_of_names (named : Names tree path place) (held : tree.find place = some node) :
    lstat tree path = .ok (place, node) ∨ lstat tree path = .error .tooManyLinks := by
  unfold lstat nodeAt
  rcases entry_place_of_names named with placed | placed
  · rw [placed]
    dsimp only
    rw [held]
    exact .inl rfl
  · rw [placed]
    exact .inr rfl

theorem missing_of_lstat (leads : Leads tree [] (nameParts before) here)
    (missing : lstat tree (before ++ [name]) = .error .notExist) :
    tree.find here = some .dir ∧ tree.find (here ++ [name]) = none := by
  have walked : walk tree kernelLinks [] (nameParts before) = .ok here := by
    rcases walk_of_leads leads kernelLinks with walked | walked
    · exact walked
    · simp [lstat, nodeAt, entryPlace, walked] at missing
  by_cases isDir : tree.isDir here = true
  · have dirHere := Tree.is_dir_iff.mp isDir
    refine ⟨dirHere, ?_⟩
    cases held : tree.find (here ++ [name]) with
    | none => rfl
    | some node =>
      rcases lstat_of_names (.entry leads dirHere) held with found | found <;>
        rw [found] at missing <;> cases missing
  · simp [lstat, nodeAt, entryPlace, walked, isDir] at missing

end RuneTerminal.Kit.FileTree
