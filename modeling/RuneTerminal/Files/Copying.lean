import RuneTerminal.Files.Mutation

/-! A copy only adds to the tree, and one that ends well has all of the source below its target. A
directory is never copied to a place below itself. -/

namespace RuneTerminal.Files

open Go.Filepath Kit.FileTree
open Kit.FileTree.Tree (Extends)
open List Tree

variable {Content : Type} {tree next : Tree Name Content} {path sourcePath targetPath place : Path}
  {node : Node Name Content}

/-- A new entry is put where its path says, at a place that was free. -/
structure CreatedAt (tree next : Tree Name Content) (path place : Path)
    (node : Node Name Content) : Prop where
  named : Names tree path place
  free : tree.find place = none
  found : next.find place = some node
  extended : Extends tree next

theorem created_of_create_entry (created : createEntry tree path node = .ok next) :
    ∃ place, CreatedAt tree next path place node := by
  unfold createEntry at created
  split at created
  · cases created
  next place placed =>
    split at created
    · cases created
    next free =>
      cases created
      exact ⟨place, names_of_place placed, free, find_create_self, create_extends⟩

theorem created_of_create_target (created : createTarget tree targetPath node = (next, none)) :
    ∃ place, CreatedAt tree next targetPath place node := by
  unfold createTarget at created
  split at created
  · cases created
  · cases created
  next after entered =>
    cases created
    exact created_of_create_entry entered

theorem create_target_extends (tree : Tree Name Content) (targetPath : Path)
    (node : Node Name Content) : Extends tree (createTarget tree targetPath node).1 := by
  unfold createTarget
  split
  · exact .refl tree
  · exact .refl tree
  next after entered =>
    obtain ⟨place, created⟩ := created_of_create_entry entered
    exact created.extended

section

variable {Item : Type} {step : Tree Name Content → Item → Change Content}
  {current start : Tree Name Content}

theorem for_each_extends (extends_step : ∀ tree item, Extends tree (step tree item).1)
    (tree : Tree Name Content) (items : List Item) : Extends tree (forEach step tree items).1 := by
  induction items generalizing tree with
  | nil => exact .refl tree
  | cons item rest ih =>
    have first := extends_step tree item
    unfold forEach
    split
    next after err stepped =>
      rw [stepped] at first
      exact first
    next after stepped =>
      rw [stepped] at first
      exact first.trans (ih after)

variable {item : Item} {items : List Item}

theorem for_each_turn (extends_step : ∀ tree item, Extends tree (step tree item).1)
    (ended : forEach step tree items = (next, none)) (member : item ∈ items) :
    ∃ before after, Extends tree before ∧
    step before item = (after, none) ∧ Extends after next := by
  induction items generalizing tree with
  | nil => cases member
  | cons first rest ih =>
    have atFirst := extends_step tree first
    unfold forEach at ended
    split at ended
    · cases ended
    next after stepped =>
      rw [stepped] at atFirst
      rw [mem_cons] at member
      rcases member with rfl | member
      · have atRest := for_each_extends extends_step after rest
        rw [ended] at atRest
        exact ⟨tree, after, .refl tree, stepped, atRest⟩
      · obtain ⟨before, later, beforeIt, turn, afterIt⟩ := ih ended member
        exact ⟨before, later, atFirst.trans beforeIt, turn, afterIt⟩

theorem for_each_append {done : List Item} (reached : forEach step tree done = (current, none))
    (more : List Item) : forEach step tree (done ++ more) = forEach step current more := by
  induction done generalizing tree with
  | nil =>
    cases reached
    rfl
  | cons item rest ih =>
    unfold forEach at reached
    rw [cons_append, forEach]
    split at reached
    · cases reached
    next after stepped => exact ih reached

def ReachedAt (step : Tree Name Content → Item → Change Content) (start : Tree Name Content)
    (items : List Item) (index : Nat) (item : Item) (current : Tree Name Content) : Prop :=
  items[index]? = some item ∧ forEach step start (items.take index) = (current, none)

theorem for_each_from {index : Nat} (reached : ReachedAt step start items index item current) :
    forEach step start items = forEach step current (item :: items.drop (index + 1)) := by
  obtain ⟨isItem, before⟩ := reached
  obtain ⟨bound, rfl⟩ := List.getElem?_eq_some_iff.mp isItem
  rw [← for_each_append before, ← drop_eq_getElem_cons bound, take_append_drop]

/-- The rule for loops: an invariant of the rounds that the index can appear
in, and what follows from it where the loop stops. -/
theorem for_each_run (invariant : Nat → Tree Name Content → Prop) (final : Tree Name Content → Prop)
    {start : Tree Name Content} {items : List Item} (initially : invariant 0 start)
    (onward : ∀ {index item current after}, ReachedAt step start items index item current →
      invariant index current → step current item = (after, none) → invariant (index + 1) after)
    (stopped : ∀ {index item current after err}, ReachedAt step start items index item current →
      invariant index current → step current item = (after, some err) → final after)
    (ended : ∀ {current}, invariant items.length current → final current) :
    final (forEach step start items).1 := by
  have fromHere : ∀ (rest done : List Item) (current : Tree Name Content), items = done ++ rest →
      forEach step start done = (current, none) → invariant done.length current →
        final (forEach step current rest).1 := by
    intro rest
    induction rest with
    | nil =>
      intro done current together _ holds
      rw [append_nil] at together
      rw [← together] at holds
      exact ended holds
    | cons item rest ih =>
      intro done current together before holds
      have reached : ReachedAt step start items done.length item current := by
        rw [together]
        exact ⟨by simp, by simpa using before⟩
      unfold forEach
      split
      next after err stepped => exact stopped reached holds stepped
      next after stepped =>
        apply ih (done ++ [item]) after (by simpa using together)
        · rw [for_each_append before, forEach, stepped]
          rfl
        · rw [length_append]
          exact onward reached holds stepped
  exact fromHere items [] start rfl rfl initially

end

theorem copy_extends (levels : Nat) (tree : Tree Name Content) (sourcePath targetPath : Path) :
    Extends tree (copyFSPath levels tree sourcePath targetPath).1 := by
  induction levels generalizing tree sourcePath targetPath with
  | zero => exact .refl tree
  | succ levels ih =>
    unfold copyFSPath
    split
    · exact .refl tree
    · exact .refl tree
    · exact create_target_extends tree targetPath _
    · exact create_target_extends tree targetPath _
    have made := create_target_extends tree targetPath .dir
    split
    next after err created =>
      rw [created] at made
      exact made
    next after created =>
      rw [created] at made
      split
      · exact made
      · exact made.trans (for_each_extends (fun current entry => ih _ _ _) _ _)

def CopiedTo (before after : Tree Name Content) (place target : Path) : Prop :=
  ∀ below node, before.find (place ++ below) = some node → after.find (target ++ below) = some node

structure Copied (tree next : Tree Name Content) (targetPath place target : Path) : Prop where
  named : Names tree targetPath target
  free : tree.find target = none
  apart : ¬place <+: target
  content : CopiedTo tree next place target

section

variable {target : Path} {levels : Nat}

theorem dir_of_prefix_free (held : tree.find place ≠ none) (free : tree.find target = none)
    (parent : tree.find target.dropLast = some .dir) (isAbove : place <+: target) :
    tree.find place = some .dir := by
  obtain ⟨below, rfl⟩ := isAbove
  rcases eq_nil_or_concat below with rfl | ⟨before, last, rfl⟩
  · rw [append_nil] at free
    exact absurd free held
  rw [concat_eq_append, ← append_assoc, dropLast_concat] at parent
  cases before with
  | nil => simpa using parent
  | cons first others =>
    exact find_dir_of_append (cons_ne_nil first others) (by rw [parent]; simp)

theorem source_of_copy (copies : copyFSPath levels tree sourcePath targetPath = (next, none)) :
    ∃ source, Names tree sourcePath source ∧ tree.find source ≠ none := by
  cases levels with
  | zero => cases copies
  | succ levels =>
    unfold copyFSPath at copies
    cases looked : lstat tree sourcePath with
    | error err =>
      rw [looked] at copies
      cases err <;> cases copies
    | ok found =>
      obtain ⟨named, held⟩ := names_lstat looked
      exact ⟨found.1, named, by rw [held]; simp⟩

theorem copy_without_source (levels : Nat) (targetPath : Path)
    (missing : ∀ place, Names tree sourcePath place → tree.find place = none) :
    ∃ err, copyFSPath levels tree sourcePath targetPath = (tree, some err) := by
  cases levels with
  | zero => exact ⟨_, rfl⟩
  | succ levels =>
    unfold copyFSPath
    cases looked : lstat tree sourcePath with
    | error err => cases err <;> exact ⟨_, rfl⟩
    | ok found =>
      obtain ⟨named, held⟩ := names_lstat looked
      rw [missing _ named] at held
      cases held

theorem copied_leaf (found : tree.find place = some node) (leaf : node ≠ .dir)
    (created : CreatedAt tree next targetPath target node) :
    Copied tree next targetPath place target where
  named := created.named
  free := created.free
  apart := by
    intro isAbove
    have isDir := dir_of_prefix_free (by rw [found]; simp) created.free created.named.parent_dir
      isAbove
    rw [found] at isDir
    exact leaf (Option.some.inj isDir)
  content := by
    intro below inside there
    cases below with
    | nil =>
      rw [append_nil] at there ⊢
      rw [created.found, ← found, there]
    | cons first others =>
      have isDir := find_dir_of_append (cons_ne_nil first others) (by rw [there]; simp)
      rw [found] at isDir
      exact absurd (Option.some.inj isDir) leaf

theorem mem_of_read_dir {entries : List Name} (read : readDir tree path = .ok entries)
    (named : Names tree path place) (isDir : tree.find place = some .dir) {name : Name}
    (held : tree.find (place ++ [name]) ≠ none) : name ∈ entries := by
  unfold readDir at read
  split at read
  · cases read
  next there looked =>
    obtain ⟨leads, -⟩ := leads_of_stat looked
    obtain rfl := leads_unique leads (named.leads (solid_of_dir isDir))
    rw [← Except.ok.inj read, mem_insertionSort, mem_dedup, mem_child_names_iff]
    exact held
  · cases read

theorem copied_dir {levels : Nat} {made : Tree Name Content} {entries : List Name}
    (ih : ∀ {tree next : Tree Name Content} {sourcePath targetPath place : Path},
      copyFSPath levels tree sourcePath targetPath = (next, none) → Names tree sourcePath place →
      tree.find place ≠ none → ∃ target, Copied tree next targetPath place target)
    (named : Names tree sourcePath place) (isDir : tree.find place = some .dir)
    (created : CreatedAt tree made targetPath target .dir)
    (read : readDir made sourcePath = .ok entries)
    (ended : forEach
      (fun current entry =>
        copyFSPath levels current (join sourcePath entry.val) (join targetPath entry.val)) made
      entries =
      (next, none)) :
    Copied tree next targetPath place target := by
  have ends : ∀ (current : Tree Name Content) (entry : Name), Extends current
      (copyFSPath levels current (join sourcePath entry.val) (join targetPath entry.val)).1 :=
    fun _ _ => copy_extends _ _ _ _
  have dirInMade := created.extended _ _ isDir
  have namedInMade := named.mono created.extended
  -- Each entry of the source directory is copied to the entry of the same name.
  have entryCopied : ∀ name, made.find (place ++ [name]) ≠ none →
      ∃ before after, Extends made before ∧ Extends after next ∧
        Copied before after (targetPath ++ [name]) (place ++ [name]) (target ++ [name]) := by
    intro name held
    have member := mem_of_read_dir read namedInMade dirInMade held
    obtain ⟨before, after, beforeIt, turn, afterIt⟩ := for_each_turn ends ended member
    rw [join_name, join_name] at turn
    have namedEntry := (namedInMade.child dirInMade name).mono beforeIt
    have heldBefore : before.find (place ++ [name]) ≠ none := by
      obtain ⟨found, there⟩ := Option.ne_none_iff_exists'.mp held
      rw [beforeIt _ _ there]
      simp
    obtain ⟨there, copied⟩ := ih turn namedEntry heldBefore
    have namedTarget := ((created.named.mono created.extended).child created.found name).mono
      beforeIt
    obtain rfl := copied.named.unique namedTarget
    exact ⟨before, after, beforeIt, afterIt, copied⟩
  have endsWell := for_each_extends ends made entries
  rw [ended] at endsWell
  refine ⟨created.named, created.free, ?_, ?_⟩
  · rintro ⟨below, rfl⟩
    cases below with
    | nil =>
      rw [append_nil] at created
      have free := created.free
      rw [isDir] at free
      cases free
    | cons name others =>
      -- The directory holds its own copy, which is copied below itself again.
      have held : made.find (place ++ [name]) ≠ none := by
        apply find_above _ (by rw [created.found]; simp)
        exact ⟨others, by simp⟩
      obtain ⟨_, _, _, _, copied⟩ := entryCopied name held
      exact copied.apart ⟨others ++ [name], by simp⟩
  intro below found there
  cases below with
  | nil =>
    rw [append_nil] at there ⊢
    rw [isDir] at there
    cases there
    exact endsWell _ _ created.found
  | cons name others =>
    have inMade := created.extended _ _ there
    have held : made.find (place ++ [name]) ≠ none := by
      apply find_above _ (by rw [inMade]; simp)
      exact ⟨others, by simp⟩
    obtain ⟨before, after, beforeIt, afterIt, copied⟩ := entryCopied name held
    have arrived := copied.content others found (by simpa using beforeIt _ _ inMade)
    simpa using afterIt _ _ arrived

theorem copied_of_copy (copies : copyFSPath levels tree sourcePath targetPath = (next, none))
    (named : Names tree sourcePath place) (held : tree.find place ≠ none) :
    ∃ target, Copied tree next targetPath place target := by
  induction levels generalizing tree next sourcePath targetPath place with
  | zero => cases copies
  | succ levels ih =>
    unfold copyFSPath at copies
    split at copies
    · cases copies
    · cases copies
    next there linkTarget looked =>
      obtain ⟨namedThere, found⟩ := names_lstat looked
      obtain rfl := namedThere.unique named
      obtain ⟨target, created⟩ := created_of_create_target copies
      exact ⟨target, copied_leaf found (by simp) created⟩
    next there content looked =>
      obtain ⟨namedThere, found⟩ := names_lstat looked
      obtain rfl := namedThere.unique named
      obtain ⟨target, created⟩ := created_of_create_target copies
      exact ⟨target, copied_leaf found (by simp) created⟩
    next there looked =>
      obtain ⟨namedThere, found⟩ := names_lstat looked
      obtain rfl := namedThere.unique named
      split at copies
      · cases copies
      next made making =>
        obtain ⟨target, created⟩ := created_of_create_target making
        split at copies
        · cases copies
        next entries read =>
          exact ⟨target, copied_dir ih named found created read copies⟩

end

theorem remove_all_cases (tree : Tree Name Content) (path : Path) :
    (removeAll tree path).1 = tree ∨ ∃ place, Names tree path place ∧ tree.find place ≠ none ∧
    (removeAll tree path).1 = tree.without place := by
  unfold removeAll
  split
  · exact .inl rfl
  · exact .inl rfl
  next place node looked =>
    obtain ⟨named, found⟩ := names_lstat looked
    exact .inr ⟨place, named, by rw [found]; simp, rfl⟩

theorem remove_cases (tree : Tree Name Content) (path : Path) :
    (removeFSPath tree path).1 = tree ∨ ∃ place, Names tree path place ∧ tree.find place ≠ none ∧
    (removeFSPath tree path).1 = tree.without place := by
  unfold removeFSPath
  split
  · exact .inl rfl
  · exact .inl rfl
  · exact remove_all_cases tree path

theorem free_of_remove (removed : removeFSPath tree path = (next, none))
    (named : Names tree path place) : next.find place = none := by
  unfold removeFSPath at removed
  split at removed
  next looked =>
    cases removed
    cases held : tree.find place with
    | none => rfl
    | some node =>
      rcases lstat_of_names named held with found | found <;> rw [found] at looked <;>
        cases looked
  · cases removed
  next found looked =>
    obtain ⟨there, node⟩ := found
    obtain ⟨namedThere, -⟩ := names_lstat looked
    obtain rfl := namedThere.unique named
    unfold removeAll at removed
    rw [looked] at removed
    obtain ⟨rfl, notBusy⟩ := Prod.mk.inj removed
    have notRoot : there ≠ [] := by
      intro isRoot
      rw [if_pos isRoot] at notBusy
      cases notBusy
    exact if_pos ⟨prefix_rfl, notRoot⟩

structure Moved (tree next : Tree Name Content) (source target : Path) : Prop where
  apart : ¬source <+: target
  notDir : tree.find target ≠ some .dir
  content : CopiedTo tree next source target
  extended : Extends ((tree.without target).without source) next

section

variable {host : Host}

theorem moved_of_rename_entry
    (sameDir : ∀ source target, Names tree sourcePath source →
      lstat tree targetPath = .ok (target, .dir) → source = target)
    (renamed : renameEntry host tree sourcePath targetPath = .ok next) :
    (next = tree ∧ ∃ place, Names tree sourcePath place ∧ Names tree targetPath place) ∨
    ∃ source target, Names tree sourcePath source ∧ Names tree targetPath target ∧
      Moved tree next source target := by
  unfold renameEntry at renamed
  split at renamed
  · cases renamed
  next source sourcePlaced =>
    split at renamed
    · cases renamed
    next target targetPlaced =>
      cases found : tree.find source with
      | none =>
        rw [found] at renamed
        split_ifs at renamed
      | some node =>
        rw [found] at renamed
        split_ifs at renamed with device busy same inside overFile
        · exact .inl ⟨(Except.ok.inj renamed).symm, source, names_of_place sourcePlaced,
            same ▸ names_of_place targetPlaced⟩
        cases renamed
        have named := names_of_place sourcePlaced
        refine .inr ⟨source, target, named, names_of_place targetPlaced, inside, ?_,
          ?_, without_extends_moved⟩
        · intro isDir
          have looked : lstat tree targetPath = .ok (target, .dir) := by
            simp [lstat, nodeAt, targetPlaced, isDir]
          exact same (sameDir source target named looked)
        · intro below inner there
          rw [find_moved_target]
          exact there

theorem moved_of_rename (renamed : rename host tree sourcePath targetPath = .ok next) :
    (next = tree ∧ ∃ place, Names tree sourcePath place ∧ Names tree targetPath place) ∨
    ∃ source target, Names tree sourcePath source ∧ Names tree targetPath target ∧
    Moved tree next source target := by
  unfold rename at renamed
  split at renamed
  next target lookedTarget =>
    split at renamed
    · cases renamed
    next source node lookedSource =>
      split_ifs at renamed with ne
      rw [not_or, not_not] at ne
      refine moved_of_rename_entry ?_ renamed
      intro other again namedOther lookedAgain
      rw [lookedTarget] at lookedAgain
      cases lookedAgain
      rw [← (names_lstat lookedSource).1.unique namedOther]
      exact ne.2
  next notDir =>
    refine moved_of_rename_entry ?_ renamed
    intro source target _ looked
    exact absurd looked (notDir target)

theorem source_of_rename_entry (renamed : renameEntry host tree sourcePath targetPath = .ok next) :
    ∃ source, Names tree sourcePath source ∧ tree.find source ≠ none := by
  unfold renameEntry at renamed
  split at renamed
  · cases renamed
  next source sourcePlaced =>
    refine ⟨source, names_of_place sourcePlaced, ?_⟩
    intro free
    rw [free] at renamed
    split at renamed
    · cases renamed
    · split_ifs at renamed

theorem move_without_source (host : Host) (targetPath : Path)
    (missing : ∀ place, Names tree sourcePath place → tree.find place = none) :
    ∃ err, moveFSPath host tree sourcePath targetPath = (tree, some err) := by
  have notRenamed : ∀ next, rename host tree sourcePath targetPath ≠ .ok next := by
    intro next renamed
    have entered : renameEntry host tree sourcePath targetPath = .ok next := by
      unfold rename at renamed
      split at renamed
      · split at renamed
        · cases renamed
        · split_ifs at renamed
          exact renamed
      · exact renamed
    obtain ⟨source, named, held⟩ := source_of_rename_entry entered
    exact held (missing source named)
  unfold moveFSPath
  split
  next after renamed => exact absurd renamed (notRenamed after)
  · obtain ⟨err, copies⟩ := copy_without_source host.pathLevels targetPath missing
    rw [copies]
    exact ⟨err, rfl⟩
  · exact ⟨_, rfl⟩

theorem moved_of_copy_and_remove {copy : Tree Name Content} {source target : Path}
    (held : tree.find source ≠ none) (copied : Copied tree copy targetPath source target)
    (extended : Extends tree copy) : Moved tree (copy.without source) source target where
  apart := copied.apart
  notDir := by
    rw [copied.free]
    simp
  content := by
    intro below inner there
    have notBelow : ¬source <+: target ++ below := by
      intro isAbove
      rcases prefix_or_prefix_of_prefix isAbove (prefix_append target below) with
        sourceAbove | targetAbove
      · exact copied.apart sourceAbove
      · exact find_above targetAbove held copied.free
    rw [find_without_apart notBelow]
    exact copied.content below inner there
  extended := (((tree.without_extends target).trans extended).without source)

def ArrivedAt (tree next : Tree Name Content) (sourcePath targetPath : Path) : Prop :=
  ∃ source target, Names tree sourcePath source ∧ Names tree targetPath target ∧
    CopiedTo tree next source target

/-- A move leaves a larger tree, with the source at its target if it ended
well, or it has taken the source away to its target. -/
theorem move_cases (host : Host) (tree : Tree Name Content) (sourcePath targetPath : Path) :
    (Extends tree (moveFSPath host tree sourcePath targetPath).1 ∧
      ((moveFSPath host tree sourcePath targetPath).2 = none →
        ArrivedAt tree (moveFSPath host tree sourcePath targetPath).1 sourcePath targetPath)) ∨
    ∃ source target, Names tree sourcePath source ∧ Names tree targetPath target ∧
      Moved tree (moveFSPath host tree sourcePath targetPath).1 source target := by
  unfold moveFSPath
  split
  next after renamed =>
    rcases moved_of_rename renamed with ⟨rfl, place, named, namedTarget⟩ | moved
    · refine .inl ⟨.refl after, fun _ => ⟨place, place, named, namedTarget, ?_⟩⟩
      exact fun _ _ there => there
    · exact .inr moved
  · have extended := copy_extends host.pathLevels tree sourcePath targetPath
    split
    next after err copies =>
      rw [copies] at extended
      exact .inl ⟨extended, fun ended => by cases ended⟩
    next after copies =>
      rw [copies] at extended
      obtain ⟨source, named, held⟩ := source_of_copy copies
      obtain ⟨target, copied⟩ := copied_of_copy copies named held
      rcases remove_all_cases after sourcePath with unchanged | ⟨place, namedPlace, -, removed⟩
      · rw [unchanged]
        exact .inl ⟨extended, fun _ => ⟨source, target, named, copied.named, copied.content⟩⟩
      obtain rfl := namedPlace.unique (named.mono extended)
      rw [removed]
      exact .inr ⟨place, target, named, copied.named,
        moved_of_copy_and_remove held copied extended⟩
  · exact .inl ⟨.refl tree, fun ended => by cases ended⟩

end

end RuneTerminal.Files
