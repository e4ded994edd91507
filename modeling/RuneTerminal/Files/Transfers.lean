import RuneTerminal.Files.Rounds

/-! A source has its content at its own path or at its target's after a call, unless the rounds take
away a part of it. Nothing rules out a target above its source. -/

namespace RuneTerminal.Files

open Go.Filepath Kit.FileTree
open Kit.FileTree.Tree (Extends)
open List

variable {Content : Type} {source : Path}

inductive FSTransfer
  | copyFS (sourcePaths : List String) (targetPath : String)
  | copyFSEntries (entries : List FSCopyEntry)
  | moveFS (sourcePaths : List String) (targetPath : String)

namespace FSTransfer

def moves : FSTransfer → Bool
  | moveFS _ _ => true
  | _ => false

def plan (host : Host) (tree : Tree Name Content) :
    FSTransfer → Except FSError (List Path × List Path)
  | copyFS sourcePaths targetPath => planInto host tree sourcePaths targetPath
  | copyFSEntries entries => planEntries host tree entries
  | moveFS sourcePaths targetPath => planInto host tree sourcePaths targetPath

def perform (host : Host) (tree : Tree Name Content) (overwrite : Bool) :
    FSTransfer → Answer Content
  | copyFS sourcePaths targetPath => Files.copyFS host tree sourcePaths targetPath overwrite
  | copyFSEntries entries => Files.copyFSEntries host tree entries overwrite
  | moveFS sourcePaths targetPath => Files.moveFS host tree sourcePaths targetPath overwrite

end FSTransfer

section

variable (host : Host) (tree : Tree Name Content) (transfer : FSTransfer) (overwrite : Bool)

/-- The call comes to the round of a source and its target with this tree. -/
def RoundAt (sources targets : List Path) (index : Nat) (pair : Path × Path)
    (current : Tree Name Content) : Prop :=
  validateTransfer tree sources targets overwrite = .ok () ∧
    ReachedAt (roundOf host transfer.moves overwrite) tree (sources.zip targets) index pair current

structure SourceSpared (sources targets : List Path) (index : Nat) (pair : Path × Path) :
    Prop where
  before : ∀ {earlier other current}, earlier < index →
    RoundAt host tree transfer overwrite sources targets earlier other current →
      RoundSpares transfer.moves overwrite current other pair.1 (contentOf tree pair.1)
  own : ∀ {current}, RoundAt host tree transfer overwrite sources targets index pair current →
    OwnRoundSpares transfer.moves overwrite current pair (contentOf tree pair.1)
  after : ∃ kept, (kept = pair.1 ∧ transfer.moves = false ∨ kept = pair.2) ∧
    ∀ {later other current}, index < later →
      RoundAt host tree transfer overwrite sources targets later other current →
        RoundSpares transfer.moves overwrite current other kept (contentOf tree pair.1)

/-- A round comes whose target is above its source, or the source itself under
another spelling, and overwrites it. -/
def OwnSourceOverwritten (sources targets : List Path) (pair : Path × Path) : Prop :=
  overwrite = true ∧ ∃ index current taken node source,
    RoundAt host tree transfer overwrite sources targets index pair current ∧
      lstat current pair.2 = .ok (taken, node) ∧ taken ≠ [] ∧
        Names current pair.1 source ∧ taken <+: source

def SourceKept (pair : Path × Path) : Prop :=
  HoldsEither (transfer.perform host tree overwrite).1 pair (contentOf tree pair.1)

/-- No source is lost, whatever the outcome. A call that fails before it has its
sources and targets changes nothing. -/
def SourcesKept : Prop :=
  match transfer.plan host tree with
  | .error _ => (transfer.perform host tree overwrite).1 = tree
  | .ok (sources, targets) =>
    ∀ pair ∈ sources.zip targets, SourceKept host tree transfer overwrite pair

def SourcesSpared : Prop :=
  ∀ sources targets, transfer.plan host tree = .ok (sources, targets) →
    ∀ index pair, (sources.zip targets)[index]? = some pair →
      SourceSpared host tree transfer overwrite sources targets index pair

def SomeSourceOverwritten : Prop :=
  ∃ sources targets pair, transfer.plan host tree = .ok (sources, targets) ∧
    OwnSourceOverwritten host tree transfer overwrite sources targets pair

end

section

variable {host : Host} {tree current : Tree Name Content} {transfer : FSTransfer} {overwrite : Bool}
  {sources targets : List Path} {index : Nat} {pair : Path × Path} {node : Node Name Content}

theorem rounds_keep_source (valid : validateTransfer tree sources targets overwrite = .ok ())
    (isPair : (sources.zip targets)[index]? = some pair)
    (holds : Holds tree pair.1 (contentOf tree pair.1))
    (spared : SourceSpared host tree transfer overwrite sources targets index pair) :
    HoldsEither (forEach (roundOf host transfer.moves overwrite) tree (sources.zip targets)).1 pair
      (contentOf tree pair.1) := by
  obtain ⟨before, own, kept, isKept, after⟩ := spared
  have either : ∀ {current : Tree Name Content} {path : Path}, (path = pair.1 ∨ path = pair.2) →
      Holds current path (contentOf tree pair.1) →
        HoldsEither current pair (contentOf tree pair.1) := by
    rintro current path (rfl | rfl) there
    · exact .inl there
    · exact .inr there
  have keptIsEither : kept = pair.1 ∨ kept = pair.2 := isKept.imp And.left id
  -- The content is at the source's path up to its round, and at the kept path from then on.
  refine for_each_run
    (fun round current =>
      Holds current (if round ≤ index then pair.1 else kept) (contentOf tree pair.1))
    (fun current => HoldsEither current pair (contentOf tree pair.1))
    (by simpa using holds) ?_ ?_ ?_
  · intro round other current next reached inv stepped
    have isNext : next = (roundOf host transfer.moves overwrite current other).1 := by rw [stepped]
    rw [isNext]
    rcases Nat.lt_trichotomy round index with earlier | rfl | later
    · rw [if_pos earlier.le] at inv
      rw [if_pos (Nat.succ_le_of_lt earlier)]
      exact round_holds inv (before earlier ⟨valid, reached⟩)
    · cases (isPair.symm.trans reached.1)
      rw [if_pos le_rfl] at inv
      rw [if_neg (by omega)]
      obtain ⟨ended, remains⟩ := own_round_holds host inv (own ⟨valid, reached⟩)
      rcases isKept with ⟨rfl, isCopy⟩ | rfl
      · rcases remains with atSource | ⟨isMove, -⟩
        · exact atSource
        · rw [isCopy] at isMove
          cases isMove
      · exact ended (by rw [stepped])
    · rw [if_neg (by omega)] at inv ⊢
      exact round_holds inv (after later ⟨valid, reached⟩)
  · intro round other current next err reached inv stepped
    have isNext : next = (roundOf host transfer.moves overwrite current other).1 := by rw [stepped]
    rw [isNext]
    rcases Nat.lt_trichotomy round index with earlier | rfl | later
    · rw [if_pos earlier.le] at inv
      exact .inl (round_holds inv (before earlier ⟨valid, reached⟩))
    · cases (isPair.symm.trans reached.1)
      rw [if_pos le_rfl] at inv
      obtain ⟨-, remains⟩ := own_round_holds host inv (own ⟨valid, reached⟩)
      exact remains.imp id And.right
    · rw [if_neg (by omega)] at inv
      exact either keptIsEither (round_holds inv (after later ⟨valid, reached⟩))
  · intro current inv
    apply either _ inv
    split_ifs
    · exact .inl rfl
    · exact keptIsEither

theorem resolved_entry_found {path : String} {resolved : Path}
    (resolves : resolveFSExistingEntryPath host tree path = .ok resolved) :
    ∃ found, lstat tree resolved = .ok found := by
  obtain ⟨entry, -, resolves⟩ := Kit.bind_eq_ok resolves
  cases looked : lstat tree entry with
  | error err =>
    rw [looked] at resolves
    cases err <;> cases resolves
  | ok found =>
    rw [looked] at resolves
    cases resolves
    exact ⟨found, looked⟩

theorem resolved_paths_found {paths : List String} {resolved : List Path}
    (resolves : paths.mapM (resolveFSExistingEntryPath host tree) = .ok resolved) :
    ∀ source ∈ resolved, ∃ found, lstat tree source = .ok found := by
  induction paths generalizing resolved with
  | nil =>
    cases resolves
    simp
  | cons path rest ih =>
    rw [mapM_cons] at resolves
    obtain ⟨first, firstResolves, resolves⟩ := Kit.bind_eq_ok resolves
    obtain ⟨others, othersResolve, resolves⟩ := Kit.bind_eq_ok resolves
    cases resolves
    intro source member
    rw [mem_cons] at member
    rcases member with rfl | member
    · exact resolved_entry_found firstResolves
    · exact ih othersResolve source member

theorem plan_into_spec {sourcePaths : List String} {targetPath : String}
    (planned : planInto host tree sourcePaths targetPath = .ok (sources, targets)) :
    (∀ source ∈ sources, ∃ found, lstat tree source = .ok found) ∧
    ∃ target, prepareFSTargetPaths target [] sources = .ok targets := by
  obtain ⟨resolved, resolves, planned⟩ := Kit.bind_eq_ok planned
  obtain ⟨target, _, planned⟩ := Kit.bind_eq_ok planned
  obtain ⟨prepared, prepares, planned⟩ := Kit.bind_eq_ok planned
  cases planned
  unfold resolveFSPaths at resolves
  split_ifs at resolves with empty
  exact ⟨resolved_paths_found resolves, target, prepares⟩

theorem prepare_targets_length {targetPath : Path} {before : List Path}
    (prepared : prepareFSTargetPaths targetPath before sources = .ok targets) :
    targets.length = before.length + sources.length := by
  induction sources generalizing before with
  | nil =>
    cases prepared
    simp
  | cons source rest ih =>
    unfold prepareFSTargetPaths at prepared
    dsimp only at prepared
    split_ifs at prepared with duplicate
    rw [ih prepared, length_append, length_singleton, length_cons]
    omega

theorem prepare_entries_spec {entries : List FSCopyEntry} {sourcesBefore targetsBefore : List Path}
    (foundBefore : ∀ source ∈ sourcesBefore, ∃ found, lstat tree source = .ok found)
    (sameBefore : sourcesBefore.length = targetsBefore.length)
    (planned : prepareFSCopyEntries host tree sourcesBefore targetsBefore entries =
      .ok (sources, targets)) :
    (∀ source ∈ sources, ∃ found, lstat tree source = .ok found) ∧
    sources.length = targets.length := by
  induction entries generalizing sourcesBefore targetsBefore with
  | nil =>
    cases planned
    exact ⟨foundBefore, sameBefore⟩
  | cons entry rest ih =>
    obtain ⟨first, resolves, planned⟩ := Kit.bind_eq_ok planned
    dsimp only at planned
    split_ifs at planned with blank
    obtain ⟨target, _, planned⟩ := Kit.bind_eq_ok planned
    obtain ⟨_, _, planned⟩ := Kit.bind_eq_ok planned
    split_ifs at planned with duplicate
    refine ih ?_ (by simp [sameBefore]) planned
    intro source mem
    rw [mem_append, mem_singleton] at mem
    rcases mem with mem | rfl
    · exact foundBefore source mem
    · exact resolved_entry_found resolves

theorem plan_spec (planned : transfer.plan host tree = .ok (sources, targets)) : (∀ source ∈
    sources, ∃ found, lstat tree source = .ok found) ∧ sources.length = targets.length := by
  have into : ∀ {sourcePaths : List String} {targetPath : String},
      planInto host tree sourcePaths targetPath = .ok (sources, targets) →
        (∀ source ∈ sources, ∃ found, lstat tree source = .ok found) ∧
          sources.length = targets.length := by
    intro sourcePaths targetPath planned
    obtain ⟨found, target, prepared⟩ := plan_into_spec planned
    have lengths := prepare_targets_length prepared
    rw [length_nil, Nat.zero_add] at lengths
    exact ⟨found, lengths.symm⟩
  cases transfer with
  | copyFS | moveFS => exact into planned
  | copyFSEntries entries =>
    have entriesPlanned : planEntries host tree entries = .ok (sources, targets) := planned
    unfold planEntries at entriesPlanned
    split_ifs at entriesPlanned with empty
    exact prepare_entries_spec (by simp) rfl entriesPlanned

section

variable {path place : Path} (looked : lstat tree path = .ok (place, node))
include looked

theorem content_of_lstat : contentOf tree path = fun below => tree.find (place ++ below) := by
  unfold contentOf
  rw [(placed_of_node_at looked).1]

theorem holds_of_lstat : Holds tree path (contentOf tree path) := by
  rw [content_of_lstat looked]
  exact ⟨place, (names_lstat looked).1, fun _ _ part => part⟩

end

theorem perform_eq (host : Host) (tree : Tree Name Content) (transfer : FSTransfer)
    (overwrite : Bool) :
    transfer.perform host tree overwrite =
      match transfer.plan host tree with
      | .error err => (tree, .error err)
      | .ok (sources, targets) =>
        if transfer.moves then
          match validateTransfer tree sources targets overwrite with
          | .error err => (tree, .error err)
          | .ok () =>
            (forEach (moveRound host overwrite) tree (sources.zip targets)).answer targets
        else copyFSResolvedPaths host tree sources targets overwrite := by
  cases transfer <;> rfl

theorem perform_of_plan_error {err : FSError} (planned : transfer.plan host tree = .error err) :
    transfer.perform host tree overwrite = (tree, .error err) := by
  rw [perform_eq, planned]

theorem perform_cases (overwrite : Bool) (nonempty : sources ≠ [])
    (planned : transfer.plan host tree = .ok (sources, targets)) :
    (∃ err, validateTransfer tree sources targets overwrite = .error err ∧
      (transfer.perform host tree overwrite).1 = tree) ∨
    validateTransfer tree sources targets overwrite = .ok () ∧
      (transfer.perform host tree overwrite).1 =
        (forEach (roundOf host transfer.moves overwrite) tree (sources.zip targets)).1 := by
  have counted : ¬(sources = [] ∨ sources.length ≠ targets.length) := by
    rw [not_or, not_not]
    exact ⟨nonempty, (plan_spec planned).2⟩
  rw [perform_eq, planned]
  dsimp only
  unfold copyFSResolvedPaths
  rw [if_neg counted]
  cases valid : validateTransfer tree sources targets overwrite with
  | error err => exact .inl ⟨err, rfl, by cases transfer.moves <;> rfl⟩
  | ok passed =>
    refine .inr ⟨rfl, ?_⟩
    cases transfer.moves with
    | false | true => exact answer_fst _ _

theorem kept_of_spared (planned : transfer.plan host tree = .ok (sources, targets))
    (isPair : (sources.zip targets)[index]? = some pair)
    (spared : SourceSpared host tree transfer overwrite sources targets index pair) :
    SourceKept host tree transfer overwrite pair := by
  have isSource := (of_mem_zip (mem_of_getElem? isPair)).1
  obtain ⟨⟨place, node⟩, looked⟩ := (plan_spec planned).1 pair.1 isSource
  have holds := holds_of_lstat looked
  unfold SourceKept
  rcases perform_cases overwrite (ne_nil_of_mem isSource) planned with
    ⟨err, -, unchanged⟩ | ⟨valid, performed⟩
  · rw [unchanged]
    exact .inl holds
  · rw [performed]
    exact rounds_keep_source valid isPair holds spared

theorem transfer_without_source (host : Host) (moves : Bool) {sourcePath : Path} (targetPath : Path)
    (missing : ∀ place, Names current sourcePath place → current.find place = none) :
    ∃ err, transferPath host moves current sourcePath targetPath = (current, some err) := by
  cases moves with
  | false => exact copy_without_source host.pathLevels targetPath missing
  | true => exact move_without_source host targetPath missing

theorem round_loses_source {taken : Path} (host : Host) (moves : Bool)
    (looked : lstat current pair.2 = .ok (taken, node)) (notRoot : taken ≠ [])
    (named : Names current pair.1 source) (isAbove : taken <+: source) :
    ∃ err, roundOf host moves true current pair = (current.without taken, some err) := by
  have cleared : clearTarget true current pair.2 = (current.without taken, none) := by
    simp [clearTarget, removeFSPath, removeAll, looked, notRoot]
  have missing : ∀ place, Names (current.without taken) pair.1 place →
      (current.without taken).find place = none := by
    intro place namedPlace
    obtain rfl := (namedPlace.mono (current.without_extends taken)).unique named
    refine if_pos ⟨isAbove, ?_⟩
    rintro rfl
    exact notRoot (prefix_nil.mp isAbove)
  obtain ⟨err, failed⟩ := transfer_without_source host moves pair.2 missing
  refine ⟨err, ?_⟩
  unfold roundOf transferRound
  rw [cleared]
  exact failed

theorem lost_of_overwritten (planned : transfer.plan host tree = .ok (sources, targets))
    (overwritten : OwnSourceOverwritten host tree transfer overwrite sources targets pair) :
    pair ∈ sources.zip targets ∧ ¬SourceKept host tree transfer overwrite pair := by
  obtain ⟨rfl, index, current, taken, node, source, ⟨valid, reached⟩, looked, notRoot, named,
    isAbove⟩ := overwritten
  have isPair := mem_of_getElem? reached.1
  have isSource := (of_mem_zip isPair).1
  obtain ⟨err, lost⟩ := round_loses_source host transfer.moves looked notRoot named isAbove
  have performed : (transfer.perform host tree true).1 = current.without taken := by
    rcases perform_cases true (ne_nil_of_mem isSource) planned with
      ⟨_, invalid, -⟩ | ⟨-, rounds⟩
    · rw [valid] at invalid
      cases invalid
    · rw [rounds, for_each_from reached, forEach, lost]
  have gone : ∀ {place : Path}, taken <+: place → (current.without taken).find place = none := by
    intro place below
    refine if_pos ⟨below, ?_⟩
    rintro rfl
    exact notRoot (prefix_nil.mp below)
  refine ⟨isPair, ?_⟩
  -- The source had a node of its own, and neither path names one any more.
  obtain ⟨⟨sourcePlace, first⟩, lookedSource⟩ := (plan_spec planned).1 pair.1 isSource
  have isFirst : contentOf tree pair.1 [] = some first := by
    rw [content_of_lstat lookedSource]
    simpa using (names_lstat lookedSource).2
  unfold SourceKept
  rw [performed]
  rintro (⟨place, namedPlace, held⟩ | ⟨place, namedPlace, held⟩)
  · obtain rfl := (namedPlace.mono (current.without_extends taken)).unique named
    have there := held [] first isFirst
    rw [append_nil, gone isAbove] at there
    cases there
  have namedTaken := (names_lstat looked).1
  obtain rfl := (namedPlace.mono (current.without_extends taken)).unique namedTaken
  have there := held [] first isFirst
  rw [append_nil, gone prefix_rfl] at there
  cases there

end

theorem sources_kept_of_spared {host : Host} {tree : Tree Name Content} {transfer : FSTransfer}
    {overwrite : Bool} (spared : SourcesSpared host tree transfer overwrite) :
    SourcesKept host tree transfer overwrite := by
  unfold SourcesKept
  split
  next err planned => rw [perform_of_plan_error planned]
  next sources targets planned =>
    intro pair mem
    obtain ⟨index, isPair⟩ := getElem?_of_mem mem
    exact kept_of_spared planned isPair (spared sources targets planned index pair isPair)

/-- A call whose rounds spare the sources loses none of them, and one that
overwrites a source by its own target does. -/
theorem transfers_keep_spared_sources (host : Host) (tree : Tree Name Content)
    (transfer : FSTransfer) (overwrite : Bool) :
    (SourcesSpared host tree transfer overwrite → SourcesKept host tree transfer overwrite) ∧
    (SomeSourceOverwritten host tree transfer overwrite →
      ¬SourcesKept host tree transfer overwrite) := by
  constructor
  · exact sources_kept_of_spared
  rintro ⟨sources, targets, pair, planned, overwritten⟩ kept
  obtain ⟨mem, lost⟩ := lost_of_overwritten planned overwritten
  unfold SourcesKept at kept
  rw [planned] at kept
  exact lost (kept pair mem)

theorem single_source_spared {host : Host} {tree : Tree Name Content} {transfer : FSTransfer}
    {overwrite : Bool} {target : Path}
    (planned : transfer.plan host tree = .ok ([source], [target]))
    (own : OwnRoundSpares transfer.moves overwrite tree (source, target) (contentOf tree source)) :
    SourcesSpared host tree transfer overwrite := by
  intro sources targets isPlan index pair isPair
  rw [planned] at isPlan
  cases isPlan
  cases index with
  | succ index => simp at isPair
  | zero =>
    cases isPair
    refine ⟨?_, ?_, target, .inr rfl, ?_⟩
    · intro earlier other current isEarlier
      exact absurd isEarlier (Nat.not_lt_zero _)
    · rintro current ⟨-, -, reached⟩
      cases reached
      exact own
    rintro later other current past ⟨-, isOther, -⟩
    cases later with
    | zero => cases past
    | succ later => simp at isOther

def nameA : Name := ⟨['a'], by decide⟩

def nameB : Name := ⟨['b'], by decide⟩

def exampleHost : Host where
  getwd := none
  repoRoot := "/w"
  pathLevels := 8
  crossDevice := fun _ _ => false

def workspaceTree : Tree Name Nat :=
  (Tree.bare.create [nameW] .dir rfl rfl).create [nameW, nameA] .dir rfl rfl

/-- A file `a/b`, and a directory `b` with another file of that name. -/
def twoFiles : Tree Name Nat :=
  ((workspaceTree.create [nameW, nameA, nameB] (.file 1) rfl rfl).create [nameW, nameB] .dir
    rfl rfl).create [nameW, nameB, nameB] (.file 2) rfl rfl

theorem transfers_keep_spared_sources_over_another :
    SourcesSpared exampleHost twoFiles (.copyFS ["a/b"] "b") true ∧
      SourcesKept exampleHost twoFiles (.copyFS ["a/b"] "b") true := by
  have planned : FSTransfer.plan exampleHost twoFiles (.copyFS ["a/b"] "b") =
      .ok ([[nameW, nameA, nameB]], [[nameW, nameB, nameB]]) := rfl
  have placed : entryPlace twoFiles [nameW, nameB, nameB] = .ok [nameW, nameB, nameB] := rfl
  have placedWithout : entryPlace (twoFiles.without [nameW, nameB, nameB]) [nameW, nameA, nameB] =
      .ok [nameW, nameA, nameB] := rfl
  have own : OwnRoundSpares false true twoFiles ([nameW, nameA, nameB], [nameW, nameB, nameB])
      (contentOf twoFiles [nameW, nameA, nameB]) := by
    refine ⟨?_, fun _ _ taken => absurd taken.1 (by decide)⟩
    intro target named _
    obtain rfl := named.unique (names_of_place placed)
    refine ⟨[nameW, nameA, nameB], names_of_place placedWithout, ?_⟩
    intro below _ isAbove
    simp [nameA, nameB] at isAbove
  have spared : SourcesSpared exampleHost twoFiles (.copyFS ["a/b"] "b") true :=
    single_source_spared planned own
  refine ⟨spared, ?_⟩
  apply (transfers_keep_spared_sources exampleHost twoFiles (.copyFS ["a/b"] "b") true).1
  exact spared

/-- A file `a/a`, whose target in the root is the directory that it is in. -/
def nestedFile : Tree Name Nat :=
  workspaceTree.create [nameW, nameA, nameA] (.file 7) rfl rfl

theorem overwrite_removes_its_own_source :
    ¬SourcesKept exampleHost nestedFile (.copyFS ["a/a"] ".") true := by
  intro kept
  have lost := kept ([nameW, nameA, nameA], [nameW, nameA]) (by decide)
  rcases lost with ⟨place, named, held⟩ | ⟨place, named, held⟩
  · have missing : entryPlace (FSTransfer.perform exampleHost nestedFile true
        (.copyFS ["a/a"] ".")).1 [nameW, nameA, nameA] = .error .notExist := rfl
    rcases entry_place_of_names named with placed | placed <;> rw [missing] at placed <;>
      cases placed
  · obtain rfl := named.unique (names_of_place rfl)
    exact absurd (held [] (.file 7) rfl) (by decide)

/-- A copy without `overwrite` changes and removes nothing, and one that ends well leaves at each
target what its source held before the call. -/
theorem copies_only_add (host : Host) (tree : Tree Name Content) (transfer : FSTransfer)
    (copies : transfer.moves = false) : Extends tree (transfer.perform host tree false).1 ∧
    ∀ targets, (transfer.perform host tree false).2 = .ok targets → ∃ sources,
      transfer.plan host tree = .ok (sources, targets) ∧ sources.length = targets.length ∧
      ∀ pair ∈ sources.zip targets,
        Holds (transfer.perform host tree false).1 pair.2 (contentOf tree pair.1) := by
  have extends_step : ∀ (current : Tree Name Content) (pair : Path × Path),
      Extends current (copyRound host false current pair).1 :=
    fun _ _ => copy_extends _ _ _ _
  cases planned : transfer.plan host tree with
  | error err =>
    rw [perform_of_plan_error planned]
    exact ⟨.refl tree, fun _ done => by cases done⟩
  | ok plan =>
    obtain ⟨sources, targets⟩ := plan
    obtain ⟨found, lengths⟩ := plan_spec planned
    have isCopy : transfer.perform host tree false =
        copyFSResolvedPaths host tree sources targets false := by
      rw [perform_eq, planned, copies]
      rfl
    rw [isCopy]
    unfold copyFSResolvedPaths
    split_ifs
    · exact ⟨.refl tree, fun _ done => by cases done⟩
    split
    · exact ⟨.refl tree, fun _ done => by cases done⟩
    rw [answer_fst]
    refine ⟨for_each_extends extends_step _ _, ?_⟩
    intro answered done
    cases ended : forEach (copyRound host false) tree (sources.zip targets) with
    | mk next failed =>
    rw [ended] at done
    cases failed with
    | some err => cases done
    | none =>
      cases done
      refine ⟨sources, rfl, lengths, ?_⟩
      intro pair mem
      -- What the source holds is still there when its turn comes, and then also at its target.
      obtain ⟨before, after, grown, turn, further⟩ := for_each_turn extends_step ended mem
      obtain ⟨⟨place, node⟩, looked⟩ := found pair.1 (of_mem_zip mem).1
      have holds := (holds_of_lstat looked).mono grown
      obtain ⟨source, named, held⟩ := source_of_copy turn
      obtain ⟨target, copied⟩ := copied_of_copy turn named held
      have step := extends_step before pair
      rw [turn] at step
      exact (holds.arrived named (copied.named.mono step) copied.content).mono further

theorem copies_only_add_into_directory :
    let tree : Tree Name Nat :=
      (workspaceTree.create [nameW, nameA, nameB] (.file 1) rfl rfl).create [nameW, nameB] .dir
        rfl rfl
    Holds (FSTransfer.perform exampleHost tree false (.copyFS ["a/b"] "b")).1
      [nameW, nameB, nameB] (contentOf tree [nameW, nameA, nameB]) := by
  intro tree
  obtain ⟨-, delivers⟩ := copies_only_add exampleHost tree (.copyFS ["a/b"] "b") rfl
  obtain ⟨sources, planned, -, arrived⟩ := delivers [[nameW, nameB, nameB]] rfl
  have isPlan : FSTransfer.plan exampleHost tree (.copyFS ["a/b"] "b") =
      .ok ([[nameW, nameA, nameB]], [[nameW, nameB, nameB]]) := rfl
  cases planned.symm.trans isPlan
  exact arrived _ mem_cons_self

end RuneTerminal.Files
