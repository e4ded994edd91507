import RuneTerminal.Files.Copying

/-! A round takes away the entry at its target path, with `overwrite`, and in a move the source
itself. If it ends well the content of its source is at its target. -/

namespace RuneTerminal.Files

open Go.Filepath Kit.FileTree
open Kit.FileTree.Tree (Extends)

variable {Content : Type} {source target : Path}

def contentOf (tree : Tree Name Content) (path : Path) : Path → Option (Node Name Content) :=
  match entryPlace tree path with
  | .ok place => fun below => tree.find (place ++ below)
  | .error _ => fun _ => none

def Holds (tree : Tree Name Content) (path : Path)
    (content : Path → Option (Node Name Content)) : Prop :=
  ∃ place, Names tree path place ∧
    ∀ below node, content below = some node → tree.find (place ++ below) = some node

def HoldsEither (tree : Tree Name Content) (pair : Path × Path)
    (content : Path → Option (Node Name Content)) : Prop :=
  Holds tree pair.1 content ∨ Holds tree pair.2 content

def Spares (tree : Tree Name Content) (taken path : Path)
    (content : Path → Option (Node Name Content)) : Prop :=
  ∃ place, Names (tree.without taken) path place ∧
    ∀ below, content below ≠ none → ¬taken <+: place ++ below

variable {tree next : Tree Name Content} {content : Path → Option (Node Name Content)}

section

variable {larger : Tree Name Content} {path taken : Path}

theorem Holds.mono (holds : Holds tree path content) (extended : Extends tree larger) :
    Holds larger path content := by
  obtain ⟨place, named, held⟩ := holds
  exact ⟨place, named.mono extended, fun below node part => extended _ _ (held below node part)⟩

theorem Holds.without (holds : Holds tree path content) (spared : Spares tree taken path content) :
    Holds (tree.without taken) path content := by
  obtain ⟨place, named, held⟩ := holds
  obtain ⟨again, namedWithout, apart⟩ := spared
  obtain rfl := (namedWithout.mono (tree.without_extends taken)).unique named
  refine ⟨again, namedWithout, ?_⟩
  intro below node part
  rw [Tree.find_without_apart (apart below (by rw [part]; simp))]
  exact held below node part

theorem Holds.arrived {sourcePath targetPath : Path} (holds : Holds tree sourcePath content)
    (named : Names tree sourcePath source) (namedAfter : Names next targetPath target)
    (copied : CopiedTo tree next source target) : Holds next targetPath content := by
  obtain ⟨place, namedPlace, held⟩ := holds
  obtain rfl := namedPlace.unique named
  exact ⟨target, namedAfter, fun below node part => copied below node (held below node part)⟩

end

def transferPath (host : Host) (moves : Bool) :
    Tree Name Content → Path → Path → Change Content :=
  if moves then moveFSPath host else copyFSPath host.pathLevels

def roundOf (host : Host) (moves overwrite : Bool) :
    Tree Name Content → Path × Path → Change Content :=
  transferRound (transferPath host moves) overwrite

/-- A round takes away what stands at its target: with `overwrite` before the
transfer, and in a rename that replaces a file. -/
def TargetTaken (moves overwrite : Bool) (tree : Tree Name Content) (target : Path) : Prop :=
  ∃ node, tree.find target = some node ∧ (overwrite = true ∨ moves = true ∧ node ≠ .dir)

def SourceTaken (moves overwrite : Bool) (tree : Tree Name Content) (source target : Path) :
    Prop :=
  moves = true ∧ ¬source <+: target ∧ (overwrite = true ∨ tree.find target ≠ some .dir)

structure RoundSpares (moves overwrite : Bool) (tree : Tree Name Content) (pair : Path × Path)
    (path : Path) (content : Path → Option (Node Name Content)) : Prop where
  target : ∀ {target}, Names tree pair.2 target → TargetTaken moves overwrite tree target →
    Spares tree target path content
  source : ∀ {source target}, Names tree pair.1 source → Names tree pair.2 target →
    SourceTaken moves overwrite tree source target →
      Spares (tree.without target) source path content

structure OwnRoundSpares (moves overwrite : Bool) (tree : Tree Name Content) (pair : Path × Path)
    (content : Path → Option (Node Name Content)) : Prop where
  target : ∀ {target}, Names tree pair.2 target → TargetTaken moves overwrite tree target →
    Spares tree target pair.1 content
  source : ∀ {source target}, Names tree pair.1 source → Names tree pair.2 target →
    SourceTaken moves overwrite tree source target →
      Names ((tree.without target).without source) pair.2 target

section

variable {host : Host} {moves overwrite : Bool} {pair : Path × Path} {path : Path}

theorem transfer_cases (host : Host) (moves : Bool) (tree : Tree Name Content)
    (sourcePath targetPath : Path) :
    (Extends tree (transferPath host moves tree sourcePath targetPath).1 ∧
      ((transferPath host moves tree sourcePath targetPath).2 = none →
        ArrivedAt tree (transferPath host moves tree sourcePath targetPath).1 sourcePath
          targetPath)) ∨
    moves = true ∧ ∃ source target, Names tree sourcePath source ∧ Names tree targetPath target ∧
      Moved tree (transferPath host moves tree sourcePath targetPath).1 source target := by
  cases moves with
  | false =>
    have extended := copy_extends host.pathLevels tree sourcePath targetPath
    refine .inl ⟨extended, ?_⟩
    intro ended
    have copies : copyFSPath host.pathLevels tree sourcePath targetPath =
        ((copyFSPath host.pathLevels tree sourcePath targetPath).1, none) :=
      Prod.ext rfl ended
    obtain ⟨source, named, held⟩ := source_of_copy copies
    obtain ⟨target, copied⟩ := copied_of_copy copies named held
    exact ⟨source, target, named, copied.named, copied.content⟩
  | true =>
    rcases move_cases host tree sourcePath targetPath with grown | moved
    · exact .inl grown
    · exact .inr ⟨rfl, moved⟩

theorem clear_cases (cleared : clearTarget overwrite tree path = (next, none))
    (named : Names tree path target) : next = tree ∧ (overwrite = true → tree.find target = none) ∨
    next = tree.without target ∧ overwrite = true ∧ next.find target = none := by
  unfold clearTarget at cleared
  split_ifs at cleared with isOn
  · have free := free_of_remove cleared named
    rcases remove_cases tree path with unchanged | ⟨place, namedPlace, -, removed⟩
    · rw [cleared] at unchanged
      exact .inl ⟨unchanged, fun _ => unchanged ▸ free⟩
    · rw [cleared] at removed
      obtain rfl := namedPlace.unique named
      exact .inr ⟨removed, isOn, free⟩
  · cases cleared
    exact .inl ⟨rfl, fun isTrue => absurd isTrue isOn⟩

theorem clear_holds (holds : Holds tree path content)
    (spared : ∀ {target}, Names tree pair.2 target → TargetTaken moves overwrite tree target →
      Spares tree target path content) :
    Holds (clearTarget overwrite tree pair.2).1 path content := by
  unfold clearTarget
  split_ifs with isOn
  · rcases remove_cases tree pair.2 with unchanged | ⟨place, named, held, removed⟩
    · rw [unchanged]
      exact holds
    · obtain ⟨node, found⟩ := Option.ne_none_iff_exists'.mp held
      rw [removed]
      exact holds.without (spared named ⟨node, found, .inl isOn⟩)
  · exact holds

theorem clear_extends (overwrite : Bool) (tree : Tree Name Content) (path : Path) :
    Extends (clearTarget overwrite tree path).1 tree := by
  unfold clearTarget
  split_ifs
  · rcases remove_cases tree path with unchanged | ⟨place, -, -, removed⟩
    · rw [unchanged]
      exact .refl tree
    · rw [removed]
      exact tree.without_extends place
  · exact .refl tree

theorem moved_from_before {current final : Tree Name Content}
    (cleared : clearTarget overwrite tree pair.2 = (current, none))
    (named : Names current pair.1 source) (namedTarget : Names current pair.2 target)
    (moved : Moved current final source target) : Names tree pair.1 source ∧
    Names tree pair.2 target ∧ (overwrite = true ∨ tree.find target ≠ some .dir) ∧
    Extends ((tree.without target).without source) final := by
  have shrunk := clear_extends overwrite tree pair.2
  rw [cleared] at shrunk
  have namedBefore := namedTarget.mono shrunk
  refine ⟨named.mono shrunk, namedBefore, ?_⟩
  rcases clear_cases cleared namedBefore with ⟨rfl, free⟩ | ⟨rfl, isOn, free⟩
  · exact ⟨.inr moved.notDir, moved.extended⟩
  · exact ⟨.inl isOn, ((Tree.extends_without_of_free free).without source).trans moved.extended⟩

theorem holds_without_target (isMove : moves = true) (holds : Holds tree path content)
    (replaced : overwrite = true ∨ tree.find target ≠ some .dir)
    (spared : TargetTaken moves overwrite tree target → Spares tree target path content) :
    Holds (tree.without target) path content := by
  cases found : tree.find target with
  | none => exact holds.mono (Tree.extends_without_of_free found)
  | some node =>
    apply holds.without
    apply spared
    refine ⟨node, found, ?_⟩
    rcases replaced with isOn | notDir
    · exact .inl isOn
    · refine .inr ⟨isMove, ?_⟩
      rintro rfl
      exact notDir found

theorem round_holds (holds : Holds tree path content)
    (spares : RoundSpares moves overwrite tree pair path content) :
    Holds (roundOf host moves overwrite tree pair).1 path content := by
  have clearHolds := clear_holds holds spares.target
  unfold roundOf transferRound
  split
  next current err cleared =>
    rw [cleared] at clearHolds
    exact clearHolds
  next current cleared =>
    rw [cleared] at clearHolds
    rcases transfer_cases host moves current pair.1 pair.2 with
      ⟨extended, -⟩ | ⟨isMove, source, target, named, namedTarget, moved⟩
    · exact clearHolds.mono extended
    obtain ⟨namedBefore, namedTargetBefore, replaced, extended⟩ :=
      moved_from_before cleared named namedTarget moved
    have withoutTarget := holds_without_target isMove holds replaced
      (spares.target namedTargetBefore)
    have spared := spares.source namedBefore namedTargetBefore ⟨isMove, moved.apart, replaced⟩
    exact (withoutTarget.without spared).mono extended

theorem own_round_holds (host : Host) (holds : Holds tree pair.1 content)
    (spares : OwnRoundSpares moves overwrite tree pair content) :
    ((roundOf host moves overwrite tree pair).2 = none →
      Holds (roundOf host moves overwrite tree pair).1 pair.2 content) ∧
    (Holds (roundOf host moves overwrite tree pair).1 pair.1 content ∨
      moves = true ∧ Holds (roundOf host moves overwrite tree pair).1 pair.2 content) := by
  have clearHolds := clear_holds holds spares.target
  unfold roundOf transferRound
  split
  next current err cleared =>
    rw [cleared] at clearHolds
    exact ⟨fun ended => absurd ended (by simp), .inl clearHolds⟩
  next current cleared =>
    rw [cleared] at clearHolds
    rcases transfer_cases host moves current pair.1 pair.2 with
      ⟨extended, arrives⟩ | ⟨isMove, source, target, named, namedTarget, moved⟩
    · refine ⟨?_, .inl (clearHolds.mono extended)⟩
      intro ended
      obtain ⟨source, target, named, namedTarget, copied⟩ := arrives ended
      exact clearHolds.arrived named (namedTarget.mono extended) copied
    obtain ⟨namedBefore, namedTargetBefore, replaced, extended⟩ :=
      moved_from_before cleared named namedTarget moved
    have stillNamed := spares.source namedBefore namedTargetBefore
      ⟨isMove, moved.apart, replaced⟩
    have atTarget := clearHolds.arrived named (stillNamed.mono extended) moved.content
    exact ⟨fun _ => atTarget, .inr ⟨isMove, atTarget⟩⟩

end

end RuneTerminal.Files
