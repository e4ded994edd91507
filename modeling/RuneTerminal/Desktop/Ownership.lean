import RuneTerminal.Desktop.FailedLaunch
import RuneTerminal.Kit.Ledger
import RuneTerminal.Kit.Transition

/-! A core that is found through the listener of a watcher counts as started by the app; a stale
record is killed by a process id that may have passed on. Apart from that, a process that no launch
has spawned is never signalled. -/

namespace RuneTerminal.Desktop

open Kit List Option Bool Except

/-- The files, the runtime that the app holds while it runs, and the processes that were
spawned or signalled in any launch. -/
structure World where
  files : Files := {}
  slot : Option RuntimeRuntime := none
  spawned : List Nat := []
  signalled : List Nat := []

def World.Initial (world : World) : Prop :=
  world = {}

def World.perform (world : World) : Act → World
  | .spawn process => { world with spawned := process :: world.spawned }
  | .attach _ _ => world
  | .stopChild process => { world with signalled := process :: world.signalled }
  | .kill _ _ hit => { world with signalled := hit.toList ++ world.signalled }
  | .shutdown _ _ hit _ => { world with signalled := hit.toList ++ world.signalled }
  | .writeRuntimeFile file => { world with files.runtime := .found file }
  | .dropRuntimeFile => { world with files.runtime := .missing }
  | .writeSettings settings => { world with files.settings := .found settings }
  | .dropSettings => { world with files.settings := .missing }

inductive Event where
  | launch (outcomes : Outcomes)
  | requestShutdown (outcomes : ShutdownOutcomes) (force : Bool)
  | exit (outcomes : ShutdownOutcomes)
  | setWatcherMode (outcomes : Outcomes) (mode : String)

/-- The runtime that the app holds after the event, and what it does. A launch is that of a
new process of the app. -/
def World.handle (world : World) : Event → Option RuntimeRuntime × List Act
  | .launch outcomes =>
    let (launched, acts) := startOrAttachRuntime world.files outcomes
    (launched.toOption, acts)
  | .requestShutdown outcomes force => (requestShutdown outcomes force world.slot).2
  | .exit outcomes => (none, (cleanupRuntimeState outcomes world.slot).2)
  | .setWatcherMode outcomes mode => (setWatcherMode outcomes mode world.slot).2

/-- An event; in a crash the app goes after the given number of acts. -/
structure Action where
  event : Event
  crash : Option Nat := none

def World.step (world : World) (action : Action) : Option World :=
  let (slot, acts) := world.handle action.event
  match action.crash with
  | none => some { acts.foldl World.perform world with slot := slot }
  | some count => some { (acts.take count).foldl World.perform world with slot := none }

def World.ownsMarked (world : World) (record : RuntimeProcessRecord) : Bool :=
  !record.startedByUi || world.spawned.contains record.process

/-- The address and the process id of the watcher, as far as they are used, are still its
own or nobody's. -/
def ShutdownOutcome.reaches (outcome : ShutdownOutcome) (watcher : RuntimeProcess) : Bool :=
  outcome.listener.all (· = watcher.process) &&
    (watcher.child.isSome || (outcome.accepted && outcome.down) ||
      outcome.holder.all (· = watcher.process))

def CleanupOutcome.reaches (outcome : CleanupOutcome) (record : RuntimeProcessRecord) : Bool :=
  if record.workerId.isSome && record.shutdownToken.isSome then
    outcome.request.listener.all (· = record.process) &&
      ((outcome.request.accepted && outcome.request.down) ||
        outcome.request.holder.all (· = record.process) &&
          (outcome.request.downAfterKill || outcome.holder.all (· = record.process)))
  else outcome.holder.all (· = record.process)

def ShutdownOutcomes.reaches (outcomes : ShutdownOutcomes) (runtime : RuntimeRuntime) : Bool :=
  (runtime.watcher.all fun watcher =>
      !isOwnedWatcher watcher || outcomes.watcher.reaches watcher) &&
    (!runtime.core.startedByUi || runtime.core.child.isSome ||
      outcomes.coreHolder.all (· = runtime.core.process))

/-- What is found through the listener and marked as started by the app is its own. A stale
record that is cleaned up is marked, and its address and process id have not passed on. -/
def World.adoptsItsOwn (world : World) (outcomes : Outcomes) : Bool :=
  let settings := (loadSettings outcomes world.files).1
  let attachment := (readRuntimeAttachment outcomes world.files).1
  let found := findRuntime world.files outcomes
  (attachment.core.isSome ||
      (recoverRunningRuntimeFromWatcher outcomes settings.coreAuthToken).all fun recovered =>
        world.ownsMarked recovered.core && world.ownsMarked recovered.watcher) &&
    match (startOrAttachCore outcomes found.settings found.core).1 with
    | .error _ => true
    | .ok (core, _) =>
      (discoverRunningWatcherForCore outcomes.runningWatcher core.url).all world.ownsMarked &&
        found.watcher.all fun record =>
          (validateWatcherEntryForCoreRecord outcomes.watcherRecord record core.url).isSome ||
            record.startedByUi && outcomes.cleanup.reaches record

/-- The runtime is not marked for what it has not spawned, and its process ids have not
passed on. -/
def World.keepsToItsOwn (world : World) (action : Action) : Bool :=
  match action.event with
  | .launch outcomes => world.adoptsItsOwn outcomes
  | .requestShutdown outcomes _ | .exit outcomes =>
    world.slot.all fun runtime =>
      runtime.settings.watcherMode = .persistent || outcomes.reaches runtime
  | .setWatcherMode _ _ => true

def RecordOwned (spawned : List Nat) (record : RuntimeProcessRecord) : Prop :=
  record.startedByUi = true → record.process ∈ spawned

structure ProcessOwned (spawned : List Nat) (process : RuntimeProcess) : Prop where
  child : ∀ child, process.child = some child → child ∈ spawned
  ownChild : process.child.isSome = true → process.process ∈ spawned
  marked : process.startedByUi = true → process.process ∈ spawned

structure RuntimeOwned (spawned : List Nat) (runtime : RuntimeRuntime) : Prop where
  core : ProcessOwned spawned runtime.core
  watcher : ∀ watcher, runtime.watcher = some watcher → ProcessOwned spawned watcher

structure FileOwned (spawned : List Nat) (file : RuntimeFile) : Prop where
  core : ∀ core, file.core = some core → core.startedByUi = true → core.process ∈ spawned
  watcher : ∀ watcher, file.watcher = some watcher → watcher.startedByUi = true →
    watcher.process ∈ spawned

def Act.Owned (spawned : List Nat) : Act → Prop
  | .stopChild process => process ∈ spawned
  | .kill _ _ hit => ∀ process ∈ hit, process ∈ spawned
  | .shutdown _ _ hit _ => ∀ process ∈ hit, process ∈ spawned
  | .writeRuntimeFile file => FileOwned spawned file
  | _ => True

def ActsOwned : List Nat → List Act → Prop :=
  Covered (fun act => act.spawned.toList) Act.Owned

structure World.Owned (world : World) : Prop where
  signalled : ∀ process ∈ world.signalled, process ∈ world.spawned
  runtimeFile : ∀ file, world.files.runtime = .found file → FileOwned world.spawned file
  slot : ∀ runtime, world.slot = some runtime → RuntimeOwned world.spawned runtime

variable {process : RuntimeProcess} {runtime : RuntimeRuntime} {world : World} {spawned : List Nat}

section

variable {now : List Nat}

theorem ProcessOwned.more (owned : ProcessOwned spawned process) (isMore : spawned ⊆ now) :
    ProcessOwned now process where
  child child isChild := isMore (owned.child child isChild)
  ownChild isSome := isMore (owned.ownChild isSome)
  marked isMarked := isMore (owned.marked isMarked)

theorem RuntimeOwned.more (owned : RuntimeOwned spawned runtime) (isMore : spawned ⊆ now) :
    RuntimeOwned now runtime where
  core := owned.core.more isMore
  watcher watcher isWatcher := (owned.watcher watcher isWatcher).more isMore

theorem FileOwned.more {file : RuntimeFile} (owned : FileOwned spawned file)
    (isMore : spawned ⊆ now) : FileOwned now file where
  core core isCore isMarked := isMore (owned.core core isCore isMarked)
  watcher watcher isWatcher isMarked := isMore (owned.watcher watcher isWatcher isMarked)

theorem act_owned_more : AllowsMore Act.Owned := by
  intro held more act isMore owned
  cases act with
  | stopChild process => exact isMore owned
  | kill pid process | shutdown url process =>
    exact fun process isHit => isMore (owned process isHit)
  | writeRuntimeFile file => exact owned.more isMore
  | spawn | attach | dropRuntimeFile | writeSettings | dropSettings => trivial

theorem perform_owned {act : Act} (owned : world.Owned) (actOwned : act.Owned world.spawned) :
    (world.perform act).Owned ∧
    (world.perform act).spawned = act.spawned.toList ++ world.spawned := by
  rcases owned with ⟨signalled, runtimeFile, slot⟩
  have hits {hit : Option Nat} (hitOwned : ∀ process ∈ hit, process ∈ world.spawned) :
      ∀ process ∈ hit.toList ++ world.signalled, process ∈ world.spawned := by
    intro process mem
    rcases mem_append.mp mem with isHit | wasSignalled
    · exact hitOwned process (mem_toList.mp isHit)
    · exact signalled process wasSignalled
  cases act with
  | spawn process =>
    refine ⟨⟨?_, ?_, ?_⟩, rfl⟩
    · intro other mem
      exact mem_cons_of_mem _ (signalled other mem)
    · intro file isFile
      exact (runtimeFile file isFile).more (subset_cons_self _ _)
    · intro runtime isRuntime
      exact (slot runtime isRuntime).more (subset_cons_self _ _)
  | attach | writeSettings | dropSettings => exact ⟨⟨signalled, runtimeFile, slot⟩, rfl⟩
  | stopChild process =>
    refine ⟨⟨?_, runtimeFile, slot⟩, rfl⟩
    intro other mem
    rcases mem_cons.mp mem with isChild | wasSignalled
    · rw [isChild]
      exact actOwned
    · exact signalled other wasSignalled
  | kill | shutdown => exact ⟨⟨hits actOwned, runtimeFile, slot⟩, rfl⟩
  | writeRuntimeFile file =>
    refine ⟨⟨signalled, ?_, slot⟩, rfl⟩
    intro other isFile
    rw [← FileState.found.inj isFile]
    exact actOwned
  | dropRuntimeFile =>
    refine ⟨⟨signalled, ?_, slot⟩, rfl⟩
    intro other isFile
    cases isFile

theorem perform_all_owned {acts : List Act} (owned : world.Owned)
    (actsOwned : ActsOwned world.spawned acts) :
    (acts.foldl World.perform world).Owned ∧
    (∀ process, process ∈ (acts.foldl World.perform world).spawned ↔
      process ∈ acts.flatMap (fun act => act.spawned.toList) ∨ process ∈ world.spawned) := by
  induction acts generalizing world with
  | nil => exact ⟨owned, fun process => by simp⟩
  | cons act rest ih =>
    rcases actsOwned with ⟨actOwned, restOwned⟩
    rcases perform_owned owned actOwned with ⟨ownedNext, spawnedNext⟩
    rw [← spawnedNext] at restOwned
    rcases ih ownedNext restOwned with ⟨ownedLast, spawnedLast⟩
    refine ⟨ownedLast, ?_⟩
    intro process
    rw [foldl_cons, spawnedLast, spawnedNext, flatMap_cons, mem_append,
      mem_append]
    tauto

end

variable {watcher : RuntimeProcess} {first second : List Act}

section

variable {slot : Option RuntimeRuntime} {outcome : ShutdownOutcome} {outcomes : ShutdownOutcomes}

theorem all_owned {hit : Option Nat} {process : Nat} (reaches : hit.all (· = process) = true)
    (owned : process ∈ spawned) : ∀ other ∈ hit, other ∈ spawned := by
  intro other isHit
  cases hit with
  | none => cases isHit
  | some found =>
    have same : found = process := of_decide_eq_true reaches
    rw [← some.inj isHit, same]
    exact owned

theorem stop_process_owned (holder : Option Nat) (owned : ProcessOwned spawned process)
    (own : process.process ∈ spawned)
    (reaches : (process.child.isSome || holder.all (· = process.process)) = true) :
    ProcessOwned spawned (stopProcess holder process).1 ∧
    ActsOwned spawned (stopProcess holder process).2 := by
  unfold stopProcess
  cases isChild : process.child with
  | some child =>
    refine ⟨⟨?_, ?_, owned.marked⟩, owned.child child isChild, trivial⟩
    · intro other isOther
      cases isOther
    · intro _
      exact own
  | none =>
    rw [isChild] at reaches
    dsimp only
    split
    · exact ⟨owned, trivial⟩
    · exact ⟨owned, all_owned reaches own, trivial⟩

theorem request_shutdown_owned (owned : ProcessOwned spawned watcher)
    (own : watcher.process ∈ spawned) (reaches : outcome.reaches watcher = true) :
    let requested := requestGracefulWatcherShutdown outcome watcher
    ProcessOwned spawned requested.2.1 ∧ ActsOwned spawned requested.2.2 := by
  rcases and_eq_true_iff.mp reaches with ⟨listens, holds⟩
  have listenerOwned := all_owned listens own
  have stopped (notDone : (outcome.accepted && outcome.down) = false) :=
    stop_process_owned outcome.holder owned own (by
      rw [notDone, Bool.or_false] at holds
      exact holds)
  unfold requestGracefulWatcherShutdown
  split
  · exact ⟨owned, trivial⟩
  cases accepted : outcome.accepted with
  | false =>
    have stop := stopped (by rw [accepted]; rfl)
    exact ⟨stop.1, listenerOwned, stop.2⟩
  | true =>
    cases down : outcome.down with
    | true => exact ⟨owned, listenerOwned, trivial⟩
    | false =>
      have stop := stopped (by rw [accepted, down]; rfl)
      exact ⟨stop.1, listenerOwned, stop.2⟩

theorem owned_append (firstOwned : ActsOwned spawned first)
    (secondOwned : ActsOwned spawned second) : ActsOwned spawned (first ++ second) := by
  apply Covered.append firstOwned
  intro now isNow
  exact Covered.more act_owned_more (fun process mem => (isNow process).mpr (.inr mem))
    secondOwned

theorem shutdown_watcher_owned {outcome : ShutdownOutcome} {watcher : Option RuntimeProcess}
    (owned : ∀ process, watcher = some process → ProcessOwned spawned process)
    (reaches : (watcher.all fun watcher =>
      !isOwnedWatcher watcher || outcome.reaches watcher) = true) :
    let stage := shutdownWatcher outcome watcher
    (∀ process, stage.2.1 = some process → ProcessOwned spawned process) ∧
      ActsOwned spawned stage.2.2 := by
  unfold shutdownWatcher
  cases watcher with
  | none => exact ⟨owned, trivial⟩
  | some watcher =>
    dsimp only
    split
    next marked =>
      have watcherOwned := owned watcher rfl
      unfold gracefulShutdownWatcher
      rw [all_some] at reaches
      cases isOwned : isOwnedWatcher watcher with
      | false => exact ⟨owned, trivial⟩
      | true =>
        rw [isOwned] at reaches
        have requested := request_shutdown_owned watcherOwned (watcherOwned.marked marked)
          reaches
        refine ⟨?_, requested.2⟩
        intro process isProcess
        rw [← some.inj isProcess]
        exact requested.1
    · exact ⟨owned, trivial⟩

theorem shutdown_runtime_owned (owned : RuntimeOwned spawned runtime)
    (reaches : outcomes.reaches runtime = true) :
    RuntimeOwned spawned (shutdownRuntime outcomes runtime).2.1 ∧
    ActsOwned spawned (shutdownRuntime outcomes runtime).2.2 := by
  rcases and_eq_true_iff.mp reaches with ⟨watcherReached, coreReached⟩
  have watcherStage := shutdown_watcher_owned owned.watcher watcherReached
  unfold shutdownRuntime
  rcases staged : shutdownWatcher outcomes.watcher runtime.watcher with ⟨result, watcher, acts⟩
  rw [staged] at watcherStage
  rcases watcherStage with ⟨watcherOwned, actsOwned⟩
  cases result with
  | error err => exact ⟨⟨owned.core, watcherOwned⟩, actsOwned⟩
  | ok done =>
    cases marked : runtime.core.startedByUi with
    | false => exact ⟨⟨owned.core, watcherOwned⟩, owned_append actsOwned trivial⟩
    | true =>
      rw [marked] at coreReached
      have stopped := stop_process_owned outcomes.coreHolder owned.core
        (owned.core.marked marked) coreReached
      exact ⟨⟨stopped.1, watcherOwned⟩, owned_append actsOwned stopped.2⟩

section

variable (owned : ∀ runtime, slot = some runtime → RuntimeOwned spawned runtime)
  (reaches : (slot.all fun runtime =>
    runtime.settings.watcherMode = .persistent || outcomes.reaches runtime) = true)
include owned reaches

theorem request_shutdown_event_owned {force : Bool} :
    let requested := (requestShutdown outcomes force slot).2
    (∀ runtime, requested.1 = some runtime → RuntimeOwned spawned runtime) ∧
      ActsOwned spawned requested.2 := by
  unfold requestShutdown
  cases outcomes.lock with
  | error err => exact ⟨owned, trivial⟩
  | ok locked =>
    cases slot with
    | none => exact ⟨owned, trivial⟩
    | some runtime =>
      rw [all_some] at reaches
      dsimp only
      by_cases persistent : runtime.settings.watcherMode = .persistent
      · rw [if_pos persistent]
        exact ⟨owned, trivial⟩
      rw [if_neg persistent]
      rw [decide_eq_false persistent] at reaches
      cases runtime.core.authToken with
      | none => exact ⟨owned, trivial⟩
      | some token =>
        cases outcomes.activeTasks with
        | error err => exact ⟨owned, trivial⟩
        | ok activeTasks =>
          dsimp only
          split
          · exact ⟨owned, trivial⟩
          have shutdown := shutdown_runtime_owned (owned runtime rfl) reaches
          rcases ended : shutdownRuntime outcomes runtime with ⟨result, left, acts⟩
          rw [ended] at shutdown
          rcases shutdown with ⟨leftOwned, actsOwned⟩
          cases result with
          | error err =>
            refine ⟨?_, actsOwned⟩
            intro other isOther
            rw [← some.inj isOther]
            exact leftOwned
          | ok done =>
            refine ⟨?_, owned_append actsOwned ⟨trivial, trivial⟩⟩
            intro other isOther
            cases isOther

theorem cleanup_runtime_state_owned : ActsOwned spawned (cleanupRuntimeState outcomes slot).2 := by
  unfold cleanupRuntimeState
  cases outcomes.lock with
  | error err => trivial
  | ok locked =>
    cases slot with
    | none => trivial
    | some runtime =>
      rw [all_some] at reaches
      dsimp only
      by_cases persistent : runtime.settings.watcherMode = .persistent
      · rw [if_pos persistent]
        trivial
      rw [if_neg persistent]
      rw [decide_eq_false persistent] at reaches
      have shutdown := shutdown_runtime_owned (owned runtime rfl) reaches
      exact owned_append shutdown.2 ⟨trivial, trivial⟩

end

theorem write_file_owned (outcomes : Outcomes) (outcome : WriteOutcome) {written : Act}
    (owned : written.Owned spawned) : ActsOwned spawned (writeFile outcomes outcome written).2 := by
  unfold writeFile
  split
  · cases outcome.answer with
    | ok => exact ⟨owned, trivial⟩
    | error err =>
      dsimp only
      split
      · exact ⟨owned, trivial⟩
      · trivial
  · trivial

theorem set_watcher_mode_owned {outcomes : Outcomes} {mode : String}
    (owned : ∀ runtime, slot = some runtime → RuntimeOwned spawned runtime) :
    let set := (setWatcherMode outcomes mode slot).2
    (∀ runtime, set.1 = some runtime → RuntimeOwned spawned runtime) ∧
      ActsOwned spawned set.2 := by
  unfold setWatcherMode
  cases WatcherMode.fromInput mode with
  | none => exact ⟨owned, trivial⟩
  | some parsed =>
    cases outcomes.lock with
    | error err => exact ⟨owned, trivial⟩
    | ok locked =>
      have settingsOwned : Act.Owned spawned (.writeSettings
          { (slot.map (·.settings)).getD {} with watcherMode := parsed }) := trivial
      refine ⟨?_, write_file_owned outcomes outcomes.saveSettings settingsOwned⟩
      intro runtime isRuntime
      rcases map_eq_some_iff.mp isRuntime with ⟨before, isBefore, changed⟩
      rw [← changed]
      exact ⟨(owned before isBefore).core, (owned before isBefore).watcher⟩

end

section

variable {core : RuntimeProcess} {valid : RuntimeProcessRecord}
  {record : Option RuntimeProcessRecord}

def StageOwned {Result : Type} (good : List Nat → Result → Prop) (spawned : List Nat)
    (stage : Except RuntimeError Result × List Act) : Prop :=
  ActsOwned spawned stage.2 ∧
    ∀ result, stage.1 = .ok result → ∀ now : List Nat, spawned ⊆ now →
      stage.2.flatMap (fun act => act.spawned.toList) ⊆ now → good now result

theorem owned_error {Result : Type} {good : List Nat → Result → Prop} {err : RuntimeError}
    {acts : List Act} (owned : ActsOwned spawned acts) :
    StageOwned good spawned (.error err, acts) := by
  refine ⟨owned, ?_⟩
  intro result isOk
  cases isOk

theorem validate_core_keeps {answer : Except String HealthPayload} {entry : RuntimeFileCore}
    (validated : validateCoreEntry answer entry = some valid) :
    valid.startedByUi = entry.startedByUi ∧ valid.process = entry.process := by
  unfold validateCoreEntry at validated
  split at validated
  · cases validated
  rcases bind_eq_some_iff.mp validated with ⟨health, _, validated⟩
  split at validated
  · cases validated
  · rw [← some.inj validated]
    exact ⟨rfl, rfl⟩

theorem validate_watcher_keeps {probe : Probe} {entry : RuntimeFileWatcher} {url : Option String}
    (validated : validateWatcherEntryForCore probe entry url = some valid) :
    valid.startedByUi = entry.startedByUi ∧ valid.process = entry.process := by
  unfold validateWatcherEntryForCore at validated
  split at validated
  · cases validated
  rcases bind_eq_some_iff.mp validated with ⟨health, _, validated⟩
  split at validated
  · cases validated
  rcases bind_eq_some_iff.mp validated with ⟨state, _, validated⟩
  split at validated
  · cases validated
  split at validated
  · cases validated
  split at validated
  · cases validated
  · rw [← some.inj validated]
    exact ⟨rfl, rfl⟩

theorem attachment_owned {files : Files} (outcomes : Outcomes)
    (owned : ∀ file, files.runtime = .found file → FileOwned spawned file) :
    (∀ core, (readRuntimeAttachment outcomes files).1.core = some core → RecordOwned spawned core) ∧
    ∀ watcher, (readRuntimeAttachment outcomes files).1.watcher = some watcher →
    RecordOwned spawned watcher := by
  have nothing {found : Option RuntimeProcessRecord} (isNone : found = none) :
      ∀ record, found = some record → RecordOwned spawned record := by
    intro record isSome
    rw [isNone] at isSome
    cases isSome
  unfold readRuntimeAttachment
  split
  · cases isFile : files.runtime with
    | missing | invalid => exact ⟨nothing rfl, nothing rfl⟩
    | found file =>
      rcases owned file isFile with ⟨coreOwned, watcherOwned⟩
      constructor
      · intro core isCore
        rcases bind_eq_some_iff.mp isCore with ⟨entry, isEntry, validated⟩
        rcases validate_core_keeps validated with ⟨marked, process⟩
        intro isMarked
        rw [process]
        exact coreOwned entry isEntry (marked ▸ isMarked)
      · intro watcher isWatcher
        rcases bind_eq_some_iff.mp isWatcher with ⟨entry, isEntry, validated⟩
        rcases validate_watcher_keeps validated with ⟨marked, process⟩
        intro isMarked
        rw [process]
        exact watcherOwned entry isEntry (marked ▸ isMarked)
  · exact ⟨nothing rfl, nothing rfl⟩

theorem owns_marked_iff {record : RuntimeProcessRecord} :
    world.ownsMarked record = true ↔ RecordOwned world.spawned record := by
  unfold World.ownsMarked RecordOwned
  cases record.startedByUi with
  | false | true => simp

theorem load_settings_acts_owned (outcomes : Outcomes) (files : Files) :
    ActsOwned spawned (loadSettings outcomes files).2 := by
  unfold loadSettings
  split
  · cases files.settings with
    | missing | found => trivial
    | invalid => exact ⟨trivial, trivial⟩
  · trivial

theorem read_runtime_attachment_acts_owned (outcomes : Outcomes) (files : Files) :
    ActsOwned spawned (readRuntimeAttachment outcomes files).2 := by
  unfold readRuntimeAttachment
  split
  · cases files.runtime with
    | missing => trivial
    | invalid => exact ⟨trivial, trivial⟩
    | found file =>
      dsimp only
      split
      · exact ⟨trivial, trivial⟩
      · trivial
  · trivial

variable {outcomes : Outcomes}

theorem find_runtime_owned {world : World} (owned : world.Owned)
    (recoversOwn : ((readRuntimeAttachment outcomes world.files).1.core.isSome ||
      (recoverRunningRuntimeFromWatcher outcomes
        (loadSettings outcomes world.files).1.coreAuthToken).all fun recovered =>
          world.ownsMarked recovered.core && world.ownsMarked recovered.watcher) = true) :
    let found := findRuntime world.files outcomes
    (∀ core, found.core = some core → RecordOwned world.spawned core) ∧
      (∀ watcher, found.watcher = some watcher → RecordOwned world.spawned watcher) ∧
      ActsOwned world.spawned found.acts := by
  have inFile := attachment_owned outcomes owned.runtimeFile
  have recovered : ∀ runtime : RecoveredRuntime,
      (if (readRuntimeAttachment outcomes world.files).1.core.isNone then
        recoverRunningRuntimeFromWatcher outcomes
          (loadSettings outcomes world.files).1.coreAuthToken
      else none) = some runtime →
      RecordOwned world.spawned runtime.core ∧ RecordOwned world.spawned runtime.watcher := by
    intro runtime isRecovered
    split at isRecovered
    next noCore =>
      rw [isNone_iff_eq_none.mp noCore, isRecovered] at recoversOwn
      have both := and_eq_true_iff.mp recoversOwn
      exact ⟨owns_marked_iff.mp both.1, owns_marked_iff.mp both.2⟩
    · cases isRecovered
  refine ⟨?_, ?_, owned_append (load_settings_acts_owned outcomes world.files)
    (read_runtime_attachment_acts_owned outcomes world.files)⟩
  · intro core isCore
    rcases or_eq_some_iff.mp isCore with isAttached | ⟨_, isRecovered⟩
    · exact inFile.1 core isAttached
    · rcases map_eq_some_iff.mp isRecovered with ⟨runtime, isRuntime, isCore⟩
      rw [← isCore]
      exact (recovered runtime isRuntime).1
  · intro watcher isWatcher
    rcases or_eq_some_iff.mp isWatcher with isAttached | ⟨_, isRecovered⟩
    · exact inFile.2 watcher isAttached
    · rcases map_eq_some_iff.mp isRecovered with ⟨runtime, isRuntime, isWatcher⟩
      rw [← isWatcher]
      exact (recovered runtime isRuntime).2

theorem attached_owned {record : RuntimeProcessRecord} (owned : RecordOwned spawned record)
    (noChild : process.child = none) (marked : process.startedByUi = record.startedByUi)
    (same : process.process = record.process) : ProcessOwned spawned process := by
  refine ⟨?_, ?_, ?_⟩
  · intro child isChild
    rw [noChild] at isChild
    cases isChild
  · intro isSome
    rw [noChild] at isSome
    cases isSome
  · intro isMarked
    rw [same]
    exact owned (marked ▸ isMarked)

theorem spawned_owned {child : Nat} (isChild : process.child = some child)
    (same : process.process = child) (mem : child ∈ spawned) : ProcessOwned spawned process := by
  refine ⟨?_, ?_, ?_⟩
  · intro other isOther
    rw [isChild] at isOther
    rw [← some.inj isOther]
    exact mem
  · intro _
    rw [same]
    exact mem
  · intro _
    rw [same]
    exact mem

theorem start_or_attach_core_owned (outcomes : Outcomes) (settings : SettingsFile)
    (owned : ∀ core, record = some core → RecordOwned spawned core) :
    StageOwned (fun now started => ProcessOwned now started.1) spawned
      (startOrAttachCore outcomes settings record) := by
  unfold startOrAttachCore
  cases record with
  | some record =>
    dsimp only
    cases resolveExistingCoreCredentials settings record with
    | error err => exact owned_error trivial
    | ok found =>
      refine ⟨⟨trivial, trivial⟩, ?_⟩
      intro started isStarted now isMore _
      rw [← ok.inj isStarted]
      exact (attached_owned (owned record rfl) rfl rfl rfl).more isMore
  | none =>
    dsimp only
    rcases spawn_core_cases outcomes (settings.coreAuthToken.getD outcomes.randomAuthToken) with
      ⟨_, err, isError⟩ | ⟨_, child, ⟨err, isError⟩ | ⟨core, isCore, isChild, same⟩⟩
    · rw [isError]
      exact owned_error trivial
    · rw [isError]
      exact owned_error ⟨trivial, trivial⟩
    rw [isCore]
    refine ⟨⟨trivial, trivial⟩, ?_⟩
    intro started isStarted now _ spawns
    rw [← ok.inj isStarted]
    exact spawned_owned isChild same (spawns mem_cons_self)

theorem spawn_watcher_owned (outcomes : Outcomes) :
    StageOwned ProcessOwned spawned (spawnWatcher outcomes) := by
  rcases spawn_watcher_cases outcomes with
    ⟨err, isError⟩ | ⟨err, child, isError⟩ | ⟨watcher, child, isWatcher, isChild, same⟩
  · rw [isError]
    exact owned_error trivial
  · rw [isError]
    exact owned_error ⟨trivial, mem_cons_self, trivial⟩
  rw [isWatcher]
  refine ⟨⟨trivial, trivial⟩, ?_⟩
  intro started isStarted now _ spawns
  rw [← ok.inj isStarted]
  exact spawned_owned isChild same (spawns mem_cons_self)

theorem cleanup_owned {outcome : CleanupOutcome} {record : RuntimeProcessRecord}
    (own : record.process ∈ spawned) (reaches : outcome.reaches record = true) :
    ActsOwned spawned (cleanupStaleWatcherRecord outcome record).2 := by
  let process : RuntimeProcess :=
    { child := none
      pid := record.pid
      url := record.url
      startedByUi := record.startedByUi
      workerId := record.workerId
      shutdownToken := record.shutdownToken
      process := record.process }
  have recordOwned : RecordOwned spawned record := fun _ => own
  have processOwned : ProcessOwned spawned process := attached_owned recordOwned rfl rfl rfl
  have stopOwned (holds : outcome.holder.all (· = record.process) = true) :
      ActsOwned spawned (stopProcess outcome.holder process).2 :=
    (stop_process_owned outcome.holder processOwned own holds).2
  unfold CleanupOutcome.reaches at reaches
  unfold cleanupStaleWatcherRecord
  by_cases canAsk : (record.workerId.isSome && record.shutdownToken.isSome) = true
  · rcases and_eq_true_iff.mp canAsk with ⟨worker, token⟩
    rw [if_pos canAsk] at reaches ⊢
    rcases and_eq_true_iff.mp reaches with ⟨listens, rest⟩
    have requestReaches : outcome.request.reaches process = true := by
      apply and_eq_true_iff.mpr
      refine ⟨listens, ?_⟩
      rcases or_eq_true_iff.mp rest with done | holds
      · exact or_eq_true_iff.mpr (.inl (or_eq_true_iff.mpr (.inr done)))
      · exact or_eq_true_iff.mpr (.inr (and_eq_true_iff.mp holds).1)
    have requested := (request_shutdown_owned processOwned own requestReaches).2
    split
    next stopped acts isOk =>
      rw [isOk] at requested
      exact requested
    next err stopped acts failed =>
      rcases request_shutdown_fails rfl worker token failed with ⟨same, notDone, notDown⟩
      rw [notDone, notDown] at rest
      rw [failed] at requested
      rw [same]
      exact owned_append requested (stopOwned (and_eq_true_iff.mp rest).2)
  · rw [if_neg canAsk] at reaches ⊢
    exact stopOwned reaches

theorem start_or_attach_watcher_owned {record : Option RuntimeProcessRecord} {coreUrl : String}
    (owned : ∀ watcher, record = some watcher → RecordOwned spawned watcher)
    (discovered : ∀ watcher,
      discoverRunningWatcherForCore outcomes.runningWatcher coreUrl = some watcher →
      RecordOwned spawned watcher)
    (cleans : ∀ watcher, record = some watcher →
      validateWatcherEntryForCoreRecord outcomes.watcherRecord watcher coreUrl = none →
      watcher.startedByUi = true ∧ outcomes.cleanup.reaches watcher = true) :
    StageOwned ProcessOwned spawned (startOrAttachWatcher outcomes record coreUrl) := by
  have dropped : ActsOwned spawned (recoverOrDropWatcherRecord outcomes record coreUrl).2 ∧
      ∀ kept, (recoverOrDropWatcherRecord outcomes record coreUrl).1 = .ok (some kept) →
        RecordOwned spawned kept := by
    unfold recoverOrDropWatcherRecord
    cases record with
    | none =>
      refine ⟨trivial, ?_⟩
      intro kept isKept
      cases isKept
    | some record =>
      dsimp only
      cases validated : validateWatcherEntryForCoreRecord outcomes.watcherRecord record
          coreUrl with
      | some valid =>
        refine ⟨trivial, ?_⟩
        intro kept isKept
        rcases validate_watcher_keeps validated with ⟨marked, process⟩
        rw [← some.inj (ok.inj isKept)]
        intro isMarked
        rw [process]
        exact owned record rfl (marked.symm.trans isMarked)
      | none =>
        rcases cleans record rfl validated with ⟨marked, reaches⟩
        have cleaned := cleanup_owned (owned record rfl marked) reaches
        dsimp only
        split
        next acts isCleaned =>
          rw [isCleaned] at cleaned
          refine ⟨cleaned, ?_⟩
          intro kept isKept
          cases isKept
        next err acts failed =>
          rw [failed] at cleaned
          refine ⟨cleaned, ?_⟩
          intro kept isKept
          cases isKept
  unfold startOrAttachWatcher
  rcases recovered : recoverOrDropWatcherRecord outcomes record coreUrl with ⟨result, acts⟩
  rw [recovered] at dropped
  rcases dropped with ⟨actsOwned, keptOwned⟩
  cases result with
  | error err => exact owned_error actsOwned
  | ok kept =>
    dsimp only
    cases isFound : kept.or (discoverRunningWatcherForCore outcomes.runningWatcher coreUrl) with
    | some found =>
      have foundOwned : RecordOwned spawned found := by
        rcases or_eq_some_iff.mp isFound with isKept | ⟨_, isDiscovered⟩
        · exact keptOwned found (congrArg _ isKept)
        · exact discovered found isDiscovered
      refine ⟨owned_append actsOwned ⟨trivial, trivial⟩, ?_⟩
      intro watcher isWatcher now isMore _
      rw [← ok.inj isWatcher]
      exact (attached_owned foundOwned rfl rfl rfl).more isMore
    | none =>
      cases ensureNoForeignWatcherListener outcomes with
      | error err => exact owned_error actsOwned
      | ok free =>
        rcases spawn_watcher_owned outcomes with ⟨laterOwned, watcherOwned⟩
        refine ⟨owned_append actsOwned laterOwned, ?_⟩
        intro watcher isWatcher now isMore spawns
        apply watcherOwned watcher isWatcher now isMore
        intro process mem
        apply spawns
        rw [flatMap_append]
        exact mem_append_right _ mem

theorem file_owned (taskControlToken : Option String) (coreOwned : ProcessOwned spawned core)
    (watcherOwned : ProcessOwned spawned watcher) :
    FileOwned spawned (runtimeFileOf core watcher taskControlToken) := by
  constructor
  · intro entry isEntry
    rw [← some.inj isEntry]
    exact coreOwned.marked
  intro entry isEntry
  unfold runtimeFileOf at isEntry
  split at isEntry
  · cases isEntry
  · rw [← some.inj isEntry]
    exact watcherOwned.marked

theorem keep_runtime_owned (outcomes : Outcomes) (runtime : RuntimeRuntime)
    (coreOwned : ProcessOwned spawned runtime.core) (watcherOwned : ProcessOwned spawned watcher) :
    ActsOwned spawned (keepRuntime outcomes runtime watcher).2 ∧
    ∀ kept, (keepRuntime outcomes runtime watcher).1 = .ok kept → kept = runtime := by
  let file := runtimeFileOf runtime.core watcher runtime.settings.taskControlToken
  have fileOwned : ActsOwned spawned (writeFile outcomes outcomes.writeRuntimeFile
      (.writeRuntimeFile file)).2 :=
    write_file_owned _ _ (file_owned _ coreOwned watcherOwned)
  have settingsOwned : ActsOwned spawned (writeFile outcomes outcomes.saveSettings
      (.writeSettings runtime.settings)).2 := by
    apply write_file_owned
    trivial
  unfold keepRuntime
  dsimp only
  split
  next err acts failed =>
    rw [failed] at fileOwned
    refine ⟨fileOwned, ?_⟩
    intro kept isKept
    cases isKept
  next acts written =>
    rw [written] at fileOwned
    split
    next err saved failed =>
      rw [failed] at settingsOwned
      refine ⟨owned_append fileOwned settingsOwned, ?_⟩
      intro kept isKept
      cases isKept
    next saved isSaved =>
      rw [isSaved] at settingsOwned
      split
      · refine ⟨owned_append fileOwned settingsOwned, ?_⟩
        intro kept isKept
        cases isKept
      · refine ⟨owned_append fileOwned settingsOwned, ?_⟩
        intro kept isKept
        exact (ok.inj isKept).symm

theorem acts_owned_then {first second : List Act} (firstOwned : ActsOwned spawned first)
    (secondOwned : ∀ now : List Nat, spawned ⊆ now →
      first.flatMap (fun act => act.spawned.toList) ⊆ now → ActsOwned now second) :
    ActsOwned spawned (first ++ second) := by
  apply Covered.append firstOwned
  intro now isNow
  apply secondOwned
  · exact fun process mem => (isNow process).mpr (.inr mem)
  · exact fun process mem => (isNow process).mpr (.inl mem)

theorem launch_with_core_owned {core : RuntimeProcess} (settings : SettingsFile)
    {record : Option RuntimeProcessRecord} (coreOwned : ProcessOwned spawned core)
    (watcherStage : StageOwned ProcessOwned spawned
      (startOrAttachWatcher outcomes record core.url)) :
    StageOwned RuntimeOwned spawned (launchWithCore outcomes core settings record) := by
  have flagged {now : List Nat} (isMore : spawned ⊆ now) : ProcessOwned now
      { core with startedByUi := core.child.isSome || core.startedByUi } := by
    refine ⟨(coreOwned.more isMore).child, (coreOwned.more isMore).ownChild, ?_⟩
    intro isMarked
    rcases or_eq_true_iff.mp isMarked with isChild | wasMarked
    · exact isMore (coreOwned.ownChild isChild)
    · exact isMore (coreOwned.marked wasMarked)
  unfold launchWithCore
  split
  · exact owned_error trivial
  dsimp only
  rcases launched : startOrAttachWatcher outcomes record core.url with ⟨result, acts⟩
  rw [launched] at watcherStage
  rcases watcherStage with ⟨actsOwned, watcherOwned⟩
  cases result with
  | error err =>
    apply owned_error
    apply owned_append actsOwned
    split
    next isChild =>
      have reaches : (core.child.isSome ||
          (none : Option Nat).all (· = core.process)) = true := by
        rw [isChild]
        rfl
      exact (stop_process_owned none (flagged (List.Subset.refl _))
        (coreOwned.ownChild isChild) reaches).2
    · trivial
  | ok watcher =>
    let runtime : RuntimeRuntime :=
      { core := { core with startedByUi := core.child.isSome || core.startedByUi }
        watcher := some watcher
        settings := { settings with coreAuthToken := core.authToken } }
    constructor
    · apply acts_owned_then actsOwned
      intro now isMore spawns
      exact (keep_runtime_owned outcomes runtime (flagged isMore)
        (watcherOwned watcher rfl now isMore spawns)).1
    intro kept isKept now isMore spawns
    have spawnsWatcher : acts.flatMap (fun act => act.spawned.toList) ⊆ now := by
      intro process mem
      apply spawns
      rw [flatMap_append]
      exact mem_append_left _ mem
    have ownedWatcher := watcherOwned watcher rfl now isMore spawnsWatcher
    have same := (keep_runtime_owned outcomes runtime (flagged isMore) ownedWatcher).2 kept
      isKept
    rw [same]
    refine ⟨flagged isMore, ?_⟩
    intro other isOther
    rw [← some.inj isOther]
    exact ownedWatcher

theorem launch_owned (owned : world.Owned) (adopts : world.adoptsItsOwn outcomes = true) :
    StageOwned RuntimeOwned world.spawned (startOrAttachRuntime world.files outcomes) := by
  rcases and_eq_true_iff.mp adopts with ⟨recoversOwn, rest⟩
  have found := find_runtime_owned owned recoversOwn
  unfold startOrAttachRuntime
  split
  · exact owned_error trivial
  cases outcomes.appDataDir with
  | error err => exact owned_error trivial
  | ok appDataDir =>
    cases outcomes.createStateDir with
    | error err => exact owned_error trivial
    | ok stateDir =>
      dsimp only at rest ⊢
      generalize findRuntime world.files outcomes = found at found rest ⊢
      rcases found with ⟨coreRecord, watcherRecord, filesOwned⟩
      have coreStage := start_or_attach_core_owned outcomes found.settings coreRecord
      rcases started : startOrAttachCore outcomes found.settings found.core with
        ⟨result, acts⟩
      rw [started] at coreStage rest
      rcases coreStage with ⟨actsOwned, coreOwned⟩
      cases result with
      | error err => exact owned_error (owned_append filesOwned actsOwned)
      | ok launched =>
        rcases launched with ⟨core, settings⟩
        rcases and_eq_true_iff.mp rest with ⟨discovers, cleans⟩
        have later (now : List Nat) (isMore : world.spawned ⊆ now)
            (spawns : acts.flatMap (fun act => act.spawned.toList) ⊆ now) :
            StageOwned RuntimeOwned now
              (launchWithCore outcomes core settings found.watcher) := by
          apply launch_with_core_owned settings (coreOwned _ rfl now isMore spawns)
          apply start_or_attach_watcher_owned
          · intro watcher isWatcher isMarked
            exact isMore (watcherRecord watcher isWatcher isMarked)
          · intro watcher isWatcher isMarked
            rw [isWatcher] at discovers
            exact isMore (owns_marked_iff.mp discovers isMarked)
          · intro watcher isWatcher notValid
            rw [isWatcher, all_some, notValid] at cleans
            exact and_eq_true_iff.mp cleans
        constructor
        · apply acts_owned_then (owned_append filesOwned actsOwned)
          intro now isMore spawns
          refine (later now isMore ?_).1
          intro process mem
          apply spawns
          rw [flatMap_append]
          exact mem_append_right _ mem
        · intro runtime isRuntime now isMore spawns
          rw [flatMap_append, flatMap_append] at spawns
          rcases append_subset.mp spawns with ⟨before, after⟩
          exact (later now isMore (append_subset.mp before).2).2 runtime isRuntime now
            (List.Subset.refl _) after

end

theorem step_owned {next : World} {action : Action} (owned : world.Owned)
    (keeps : world.keepsToItsOwn action = true) (taken : world.step action = some next) :
    next.Owned := by
  have handled : ActsOwned world.spawned (world.handle action.event).2 ∧
      ∀ runtime, (world.handle action.event).1 = some runtime → ∀ now : List Nat,
        world.spawned ⊆ now →
        (world.handle action.event).2.flatMap (fun act => act.spawned.toList) ⊆ now →
        RuntimeOwned now runtime := by
    unfold World.keepsToItsOwn at keeps
    cases isEvent : action.event with
    | launch outcomes =>
      rw [isEvent] at keeps
      rcases launch_owned owned keeps with ⟨actsOwned, runtimeOwned⟩
      refine ⟨actsOwned, ?_⟩
      intro runtime isRuntime
      exact runtimeOwned runtime (to_option_eq_some isRuntime)
    | requestShutdown outcomes force =>
      rw [isEvent] at keeps
      rcases request_shutdown_event_owned owned.slot keeps with ⟨slotOwned, actsOwned⟩
      exact ⟨actsOwned, fun runtime isRuntime now isMore _ =>
        (slotOwned runtime isRuntime).more isMore⟩
    | exit outcomes =>
      rw [isEvent] at keeps
      refine ⟨cleanup_runtime_state_owned owned.slot keeps, ?_⟩
      intro runtime isRuntime
      cases isRuntime
    | setWatcherMode outcomes mode =>
      rcases set_watcher_mode_owned owned.slot with ⟨slotOwned, actsOwned⟩
      exact ⟨actsOwned, fun runtime isRuntime now isMore _ =>
        (slotOwned runtime isRuntime).more isMore⟩
  unfold World.step at taken
  rcases handled with ⟨actsOwned, slotOwned⟩
  cases isCrash : action.crash with
  | none =>
    rw [isCrash] at taken
    rw [← some.inj taken]
    rcases perform_all_owned owned actsOwned with ⟨performed, spawned⟩
    refine ⟨performed.signalled, performed.runtimeFile, ?_⟩
    intro runtime isRuntime
    apply slotOwned runtime isRuntime
    · exact fun process mem => (spawned process).mpr (.inr mem)
    · exact fun process mem => (spawned process).mpr (.inl mem)
  | some count =>
    rw [isCrash] at taken
    rw [← some.inj taken]
    rcases perform_all_owned owned (actsOwned.take count) with ⟨performed, _⟩
    refine ⟨performed.signalled, performed.runtimeFile, ?_⟩
    intro runtime isRuntime
    cases isRuntime

/-- The app signals only what it has spawned, if what it takes for its own is its own, and no
address or process id that it signals has passed on. -/
theorem only_own_processes_are_signalled {world : World}
    (reachable : Reachable World.Initial (guarded World.keepsToItsOwn World.step) world) :
    ∀ process ∈ world.signalled, process ∈ world.spawned := by
  have owned : world.Owned := by
    refine reachable.invariant ?_ ?_
    · intro first isFirst
      have isEmpty : first = {} := isFirst
      rw [isEmpty]
      refine ⟨fun process mem => absurd mem not_mem_nil, ?_, ?_⟩
      · intro file isFile
        cases isFile
      · intro runtime isRuntime
        cases isRuntime
    · intro before action next ownedBefore taken
      rcases guarded_eq_some.mp taken with ⟨keeps, taken⟩
      exact step_owned ownedBefore keeps taken
  exact owned.signalled

def ownShutdown : ShutdownOutcomes where
  lock := .ok ()
  activeTasks := .ok 0
  watcher := { listener := some 2, accepted := true, down := true, holder := none,
               downAfterKill := true }
  coreHolder := none

def launchAndExit : List Action :=
  [{ event := .launch nothingRuns }, { event := .exit ownShutdown }]

theorem only_own_processes_are_signalled_here : ∃ world :
    World, world.signalled = [1, 2] ∧ ∀ process ∈ world.signalled, process ∈ world.spawned := by
  have ran : (runActions (guarded World.keepsToItsOwn World.step) {} launchAndExit).map
      (fun world => decide (world.signalled = [1, 2])) = some true := by decide +kernel
  have isFirst : World.Initial {} := rfl
  rcases reachable_of_run isFirst ran with ⟨world, reachable, tested⟩
  exact ⟨world, of_decide_eq_true tested, only_own_processes_are_signalled reachable⟩

def othersRun : Outcomes :=
  let probe : Probe :=
    { health := .ok { service := "rterm-watcher", status := "ok", pid := 8091, process := 7 }
      state := .ok
        { backendUrl := "http://127.0.0.1:8090", workerId := some "watcher"
          shutdownToken := none } }
  { nothingRuns with
    listener := probe
    listenerCoreHealth := .ok
      { service := "rterm-core", status := "ok", pid := 8090, process := 6 }
    watcherRecord := probe }

/-- The token of an earlier launch is all it takes to adopt the core, and to kill it. -/
theorem core_of_others_is_killed : ¬ ∀ world, Reachable World.Initial World.step world →
    ∀ process ∈ world.signalled, process ∈ world.spawned := by
  intro claimed
  have ran : (runActions World.step {} (launchAndExit ++
      [{ event := .launch othersRun },
        { event := .exit { ownShutdown with coreHolder := some 6 } }])).map
      (fun world => world.signalled.contains 6 && !world.spawned.contains 6) = some true := by
    decide +kernel
  have isFirst : World.Initial {} := rfl
  rcases reachable_of_run isFirst ran with ⟨world, reachable, tested⟩
  rcases and_eq_true_iff.mp tested with ⟨signalled, notSpawned⟩
  have spawned := claimed world reachable 6 (contains_iff_mem.mp signalled)
  rw [contains_iff_mem.mpr spawned] at notSpawned
  cases notSpawned

end RuneTerminal.Desktop
