import RuneTerminal.Desktop.Launch

/-! A launch that returns an error should have stopped what it has spawned, and only that. Core and
watcher may be left running, and a stale record may lead to a process it has attached to. -/

namespace RuneTerminal.Desktop

open List

/-- After an error, all that was spawned has been stopped, and what has been attached to
has been neither killed nor shut down. -/
def LeavesNothing (launched : Except RuntimeError RuntimeRuntime × List Act) : Prop :=
  ∀ err, launched.1 = .error err →
    (∀ process ∈ launched.2.filterMap Act.spawned,
      process ∈ launched.2.filterMap Act.stopped) ∧
    ∀ target ∈ launched.2.flatMap Act.attached, target ∉ launched.2.filterMap Act.killed

def cleanupKills (outcome : CleanupOutcome) (record : RuntimeProcessRecord) : Bool :=
  record.pid ≠ 0 &&
    !(record.workerId.isSome && record.shutdownToken.isSome && outcome.request.accepted &&
      outcome.request.down)

def shutsDown (outcome : ShutdownOutcome) : List StopTarget :=
  if outcome.accepted then (outcome.listener.map .process).toList else []

def stopsPid (kills : Bool) (pid : Nat) : List StopTarget := if kills then [.pid pid] else []

/-- What the clean-up of a stale record stops. -/
def staleStops (outcomes : Outcomes) (record : Option RuntimeProcessRecord) (coreUrl : String) :
    List StopTarget :=
  match record with
  | none => []
  | some record =>
    if (validateWatcherEntryForCoreRecord outcomes.watcherRecord record coreUrl).isNone then
      (if record.workerId.isSome && record.shutdownToken.isSome then
          shutsDown outcomes.cleanup.request
        else []) ++
        stopsPid (cleanupKills outcomes.cleanup record) record.pid
    else []

def spares (stops : List StopTarget) (process : RuntimeProcess) : Bool :=
  !stops.contains (.pid process.pid) && !stops.contains (.process process.process)

def canKeepRuntime (outcomes : Outcomes) : Bool :=
  outcomes.home && outcomes.writeRuntimeFile.answer.isOk && outcomes.saveSettings.answer.isOk &&
    outcomes.lock.isOk

/-- A spawned core comes up, with a process id. The runtime is written down if core or watcher were
spawned. The clean-up of a stale record stops nothing that the launch attaches to, or nothing fails
after it. -/
def cleansUp (files : Files) (outcomes : Outcomes) : Bool :=
  let found := findRuntime files outcomes
  if outcomes.coreBinary && outcomes.appDataDir.isOk && outcomes.createStateDir.isOk then
    match (startOrAttachCore outcomes found.settings found.core).1 with
    | .error _ => found.core.isSome || !outcomes.spawnCore.isOk
    | .ok (core, _) =>
      let stops := staleStops outcomes found.watcher core.url
      if core.pid = 0 then core.child.isNone
      else
        match (startOrAttachWatcher outcomes found.watcher core.url).1 with
        | .error _ => core.child.isSome || spares stops core
        | .ok watcher =>
          canKeepRuntime outcomes ||
            core.child.isNone && watcher.child.isNone && spares stops core && spares stops watcher
  else true

def OnFiles (acts : List Act) : Prop :=
  acts.filterMap Act.spawned = [] ∧ acts.filterMap Act.stopped = [] ∧
    acts.flatMap Act.attached = [] ∧ acts.filterMap Act.killed = []

variable {acts : List Act} {process : RuntimeProcess}

theorem OnFiles.append {later : List Act} (first : OnFiles acts) (second : OnFiles later) :
    OnFiles (acts ++ later) := by
  unfold OnFiles at *
  simp only [filterMap_append, flatMap_append, first, second, append_nil, and_self]

section

variable (files : Files) (outcomes : Outcomes)
include files outcomes

theorem load_settings_on_files : OnFiles (loadSettings outcomes files).2 := by
  unfold loadSettings
  split
  · cases files.settings with
    | missing | found => exact ⟨rfl, rfl, rfl, rfl⟩
    | invalid => exact ⟨rfl, rfl, rfl, rfl⟩
  · exact ⟨rfl, rfl, rfl, rfl⟩

theorem read_runtime_attachment_on_files : OnFiles (readRuntimeAttachment outcomes files).2 := by
  unfold readRuntimeAttachment
  split
  · cases files.runtime with
    | missing | invalid => exact ⟨rfl, rfl, rfl, rfl⟩
    | found file =>
      dsimp only
      split
      · exact ⟨rfl, rfl, rfl, rfl⟩
      · exact ⟨rfl, rfl, rfl, rfl⟩
  · exact ⟨rfl, rfl, rfl, rfl⟩

theorem find_runtime_on_files : OnFiles (findRuntime files outcomes).acts :=
  (load_settings_on_files files outcomes).append (read_runtime_attachment_on_files files outcomes)

end

theorem write_file_on_files (outcomes : Outcomes) (outcome : WriteOutcome) {written : Act}
    (onFiles : OnFiles [written]) : OnFiles (writeFile outcomes outcome written).2 := by
  unfold writeFile
  split
  · cases outcome.answer with
    | ok => exact onFiles
    | error err =>
      dsimp only
      split
      · exact onFiles
      · exact ⟨rfl, rfl, rfl, rfl⟩
  · exact ⟨rfl, rfl, rfl, rfl⟩

theorem write_file_is_ok (outcomes : Outcomes) (outcome : WriteOutcome) (written : Act) :
    (writeFile outcomes outcome written).1.isOk = (outcomes.home && outcome.answer.isOk) := by
  unfold writeFile
  cases outcomes.home with
  | false => rfl
  | true =>
    cases outcome.answer with
    | ok | error => rfl

theorem keep_runtime_spec (outcomes : Outcomes) (runtime : RuntimeRuntime)
    (watcher : RuntimeProcess) : OnFiles (keepRuntime outcomes runtime watcher).2 ∧
    ((keepRuntime outcomes runtime watcher).1.isOk = canKeepRuntime outcomes) := by
  let file := runtimeFileOf runtime.core watcher runtime.settings.taskControlToken
  have runtimeOnFiles : OnFiles (writeFile outcomes outcomes.writeRuntimeFile
      (.writeRuntimeFile file)).2 := write_file_on_files _ _ ⟨rfl, rfl, rfl, rfl⟩
  have settingsOnFiles : OnFiles (writeFile outcomes outcomes.saveSettings
      (.writeSettings runtime.settings)).2 := write_file_on_files _ _ ⟨rfl, rfl, rfl, rfl⟩
  have runtimeIsOk := write_file_is_ok outcomes outcomes.writeRuntimeFile (.writeRuntimeFile file)
  have settingsIsOk := write_file_is_ok outcomes outcomes.saveSettings
    (.writeSettings runtime.settings)
  unfold keepRuntime canKeepRuntime
  dsimp only
  split
  next err acts failed =>
    rw [failed] at runtimeOnFiles runtimeIsOk
    refine ⟨runtimeOnFiles, ?_⟩
    rw [← runtimeIsOk]
    rfl
  next acts written =>
    rw [written] at runtimeOnFiles runtimeIsOk
    rw [← runtimeIsOk]
    have home : outcomes.home = true := (Bool.and_eq_true_iff.mp runtimeIsOk.symm).1
    rw [home, Bool.true_and] at settingsIsOk
    split
    next err saved failed =>
      rw [failed] at settingsOnFiles settingsIsOk
      refine ⟨runtimeOnFiles.append settingsOnFiles, ?_⟩
      rw [← settingsIsOk]
      rfl
    next saved written =>
      rw [written] at settingsOnFiles settingsIsOk
      rw [← settingsIsOk]
      split
      next err failed =>
        refine ⟨runtimeOnFiles.append settingsOnFiles, ?_⟩
        rw [failed]
        rfl
      next locked =>
        refine ⟨runtimeOnFiles.append settingsOnFiles, ?_⟩
        rw [locked]
        rfl

/-- The sections do nothing but stop these. -/
structure Stops (targets : List StopTarget) (acts : List Act) : Prop where
  spawned : acts.filterMap Act.spawned = []
  stopped : acts.filterMap Act.stopped = []
  attached : acts.flatMap Act.attached = []
  killed : ∀ target, target ∈ acts.filterMap Act.killed ↔ target ∈ targets

section

variable {targets later : List StopTarget}

theorem Stops.append {rest : List Act} (first : Stops targets acts) (second : Stops later rest) :
    Stops (targets ++ later) (acts ++ rest) := by
  constructor
  · rw [filterMap_append, first.spawned, second.spawned, append_nil]
  · rw [filterMap_append, first.stopped, second.stopped, append_nil]
  · rw [flatMap_append, first.attached, second.attached, append_nil]
  · intro target
    rw [filterMap_append, mem_append, first.killed, second.killed, mem_append]

theorem Stops.congr (stops : Stops targets acts)
    (same : ∀ target, target ∈ targets ↔ target ∈ later) : Stops later acts :=
  { stops with killed := fun target => (stops.killed target).trans (same target) }

theorem stops_nothing : Stops [] [] :=
  ⟨rfl, rfl, rfl, fun _ => Iff.rfl⟩

theorem stops_shutdown (url : String) (process : Nat) (outcome : ShutdownOutcome) :
    Stops (shutsDown outcome) [.shutdown url process outcome.listener outcome.accepted] := by
  refine ⟨rfl, rfl, rfl, ?_⟩
  intro target
  unfold shutsDown
  cases outcome.accepted <;> simp [Act.killed, eq_comm]

theorem stop_process_stops (holder : Option Nat) (noChild : process.child = none) :
    (stopProcess holder process).1 = process ∧
    Stops (stopsPid (process.pid ≠ 0) process.pid) (stopProcess holder process).2 := by
  unfold stopProcess
  rw [noChild]
  by_cases noPid : process.pid = 0
  · rw [if_pos noPid, decide_eq_false (not_not.mpr noPid)]
    exact ⟨rfl, stops_nothing⟩
  rw [if_neg noPid, decide_eq_true noPid]
  exact ⟨rfl, rfl, rfl, rfl, fun target => Iff.rfl⟩

theorem request_shutdown_stops (outcome : ShutdownOutcome) {watcher : RuntimeProcess}
    (noChild : watcher.child = none) (worker : watcher.workerId.isSome = true)
    (token : watcher.shutdownToken.isSome = true) :
    let requested := requestGracefulWatcherShutdown outcome watcher
    requested.2.1 = watcher ∧
      Stops (shutsDown outcome ++
        stopsPid (watcher.pid ≠ 0 && !(outcome.accepted && outcome.down)) watcher.pid)
        requested.2.2 ∧
      (outcome.accepted = true → outcome.down = true → requested.1 = .ok ()) := by
  have canAsk : (watcher.workerId.isNone || watcher.shutdownToken.isNone) = false := by
    rw [← Option.not_isSome, ← Option.not_isSome, worker, token]
    rfl
  rcases stop_process_stops outcome.holder noChild with ⟨same, stops⟩
  have asked := stops_shutdown watcher.url watcher.process outcome
  have stopsAfter := asked.append stops
  unfold requestGracefulWatcherShutdown
  rw [canAsk]
  cases accepted : outcome.accepted with
  | false =>
    rw [accepted] at stopsAfter
    refine ⟨same, ?_, fun isAccepted => absurd isAccepted Bool.false_ne_true⟩
    rw [Bool.false_and, Bool.not_false, Bool.and_true]
    exact stopsAfter
  | true =>
    rw [accepted] at asked stopsAfter
    cases down : outcome.down with
    | false =>
      refine ⟨same, ?_, fun _ isDown => absurd isDown Bool.false_ne_true⟩
      rw [Bool.and_false, Bool.not_false, Bool.and_true]
      exact stopsAfter
    | true =>
      refine ⟨rfl, ?_, fun _ _ => rfl⟩
      rw [Bool.and_true, Bool.not_true, Bool.and_false, stopsPid, if_neg Bool.false_ne_true,
        append_nil]
      exact asked

theorem cleanup_stops (outcome : CleanupOutcome) (record : RuntimeProcessRecord) :
    Stops
      ((if record.workerId.isSome && record.shutdownToken.isSome then shutsDown outcome.request
        else []) ++
        stopsPid (cleanupKills outcome record) record.pid)
      (cleanupStaleWatcherRecord outcome record).2 := by
  let process : RuntimeProcess :=
    { child := none
      pid := record.pid
      url := record.url
      startedByUi := record.startedByUi
      workerId := record.workerId
      shutdownToken := record.shutdownToken
      process := record.process }
  have noChild : process.child = none := rfl
  unfold cleanupStaleWatcherRecord cleanupKills
  by_cases canAsk : (record.workerId.isSome && record.shutdownToken.isSome) = true
  · rcases Bool.and_eq_true_iff.mp canAsk with ⟨worker, token⟩
    have requested := request_shutdown_stops outcome.request noChild worker token
    rw [if_pos canAsk, if_pos canAsk, canAsk, Bool.true_and]
    split
    next same acts isOk =>
      rw [isOk] at requested
      exact requested.2.1
    next err same acts failed =>
      rw [failed] at requested
      rcases requested with ⟨rfl, stops, success⟩
      have notDown : (outcome.request.accepted && outcome.request.down) = false := by
        apply Bool.eq_false_iff.mpr
        intro both
        rcases Bool.and_eq_true_iff.mp both with ⟨accepted, down⟩
        cases success accepted down
      have again := stops.append (stop_process_stops outcome.holder noChild).2
      rw [notDown, Bool.not_false, Bool.and_true] at again ⊢
      apply again.congr
      intro target
      rw [append_assoc, mem_append, mem_append, mem_append, or_self]
  · have stopped := (stop_process_stops outcome.holder noChild).2
    dsimp only
    rw [Bool.eq_false_iff.mpr canAsk, Bool.false_and, Bool.false_and, Bool.not_false,
      Bool.and_true, if_neg Bool.false_ne_true, if_neg Bool.false_ne_true, nil_append]
    exact stopped

theorem recover_or_drop_stops (outcomes : Outcomes) (record : Option RuntimeProcessRecord)
    (coreUrl : String) :
    Stops (staleStops outcomes record coreUrl)
      (recoverOrDropWatcherRecord outcomes record coreUrl).2 := by
  unfold recoverOrDropWatcherRecord staleStops
  cases record with
  | none => exact stops_nothing
  | some record =>
    dsimp only
    cases validateWatcherEntryForCoreRecord outcomes.watcherRecord record coreUrl with
    | some valid => exact stops_nothing
    | none =>
      have stops := cleanup_stops outcomes.cleanup record
      dsimp only
      rw [Option.isNone_none, if_pos rfl]
      rcases cleaned : cleanupStaleWatcherRecord outcomes.cleanup record with ⟨result, acts⟩
      rw [cleaned] at stops
      cases result with
      | ok | error => exact stops

end

def targetsOf (process : RuntimeProcess) : List StopTarget :=
  [.pid process.pid, .process process.process]

theorem spares_iff {stops : List StopTarget} :
    spares stops process = true ↔ ∀ target ∈ targetsOf process, target ∉ stops := by
  simp [spares, targetsOf]

def LeavesNoWatcher (stale : List StopTarget)
    (launched : Except RuntimeError RuntimeProcess × List Act) : Prop :=
  (∀ target, target ∈ launched.2.filterMap Act.killed ↔ target ∈ stale) ∧
    match launched.1 with
    | .error _ =>
      (∀ process ∈ launched.2.filterMap Act.spawned,
        process ∈ launched.2.filterMap Act.stopped) ∧
      launched.2.flatMap Act.attached = []
    | .ok watcher =>
      launched.2.filterMap Act.spawned = watcher.child.toList ∧
        launched.2.filterMap Act.stopped = [] ∧
        launched.2.flatMap Act.attached =
          if watcher.child.isSome then [] else targetsOf watcher

theorem spawn_watcher_spec (outcomes : Outcomes) : LeavesNoWatcher [] (spawnWatcher outcomes) := by
  rcases spawn_watcher_cases outcomes with
    ⟨err, isError⟩ | ⟨err, child, isError⟩ | ⟨watcher, child, isWatcher, isChild, _⟩
  · rw [isError]
    exact ⟨fun _ => Iff.rfl, fun process mem => absurd mem not_mem_nil, rfl⟩
  · rw [isError]
    exact ⟨fun _ => Iff.rfl, fun process mem => mem, rfl⟩
  rw [isWatcher]
  refine ⟨fun _ => Iff.rfl, ?_, rfl, ?_⟩
  · rw [isChild]
    rfl
  · rw [isChild]
    rfl

theorem start_or_attach_watcher_spec (outcomes : Outcomes) (record : Option RuntimeProcessRecord)
    (coreUrl : String) :
    LeavesNoWatcher (staleStops outcomes record coreUrl)
      (startOrAttachWatcher outcomes record coreUrl) := by
  have dropped := recover_or_drop_stops outcomes record coreUrl
  unfold startOrAttachWatcher
  rcases recovered : recoverOrDropWatcherRecord outcomes record coreUrl with ⟨result, acts⟩
  rw [recovered] at dropped
  rcases dropped with ⟨spawned, stopped, attached, killed⟩
  have nothing : ∀ process ∈ acts.filterMap Act.spawned,
      process ∈ acts.filterMap Act.stopped := by
    rw [spawned]
    exact fun process mem => absurd mem not_mem_nil
  cases result with
  | error err => exact ⟨killed, nothing, attached⟩
  | ok kept =>
    dsimp only
    cases kept.or (discoverRunningWatcherForCore outcomes.runningWatcher coreUrl) with
    | some found =>
      refine ⟨?_, ?_, ?_, ?_⟩
      · intro target
        rw [filterMap_append, mem_append, killed target]
        exact or_iff_left not_mem_nil
      · rw [filterMap_append, spawned]
        rfl
      · rw [filterMap_append, stopped]
        rfl
      · rw [flatMap_append, attached]
        rfl
    | none =>
      cases ensureNoForeignWatcherListener outcomes with
      | error err => exact ⟨killed, nothing, attached⟩
      | ok free =>
        have spawn := spawn_watcher_spec outcomes
        rcases launched : spawnWatcher outcomes with ⟨watcher, later⟩
        rw [launched] at spawn
        rcases spawn with ⟨killedLater, left⟩
        have killedAll : ∀ target, target ∈ (acts ++ later).filterMap Act.killed ↔
            target ∈ staleStops outcomes record coreUrl := by
          intro target
          rw [filterMap_append, mem_append, killed target, killedLater target]
          exact or_iff_left not_mem_nil
        refine ⟨killedAll, ?_⟩
        cases watcher with
        | error err =>
          constructor
          · rw [filterMap_append, filterMap_append, spawned, stopped]
            exact left.1
          · rw [flatMap_append, attached]
            exact left.2
        | ok watcher =>
          rcases left with ⟨spawnedLater, stoppedLater, attachedLater⟩
          rw [filterMap_append, filterMap_append, flatMap_append, spawned, stopped, attached]
          exact ⟨spawnedLater, stoppedLater, attachedLater⟩

def LeavesCore (spawns : Bool)
    (launched : Except RuntimeError (RuntimeProcess × SettingsFile) × List Act) : Prop :=
  launched.2.filterMap Act.stopped = [] ∧ launched.2.filterMap Act.killed = [] ∧
    match launched.1 with
    | .error _ =>
      launched.2.flatMap Act.attached = [] ∧
        (launched.2.filterMap Act.spawned = [] ↔ spawns = false)
    | .ok (core, _) =>
      launched.2.filterMap Act.spawned = core.child.toList ∧
        launched.2.flatMap Act.attached = if core.child.isSome then [] else targetsOf core

theorem start_or_attach_core_spec (outcomes : Outcomes) (settings : SettingsFile)
    (record : Option RuntimeProcessRecord) :
    LeavesCore (record.isNone && outcomes.spawnCore.isOk)
      (startOrAttachCore outcomes settings record) := by
  unfold startOrAttachCore
  cases record with
  | some record =>
    dsimp only
    cases resolveExistingCoreCredentials settings record with
    | error err => exact ⟨rfl, rfl, rfl, fun _ => rfl, fun _ => rfl⟩
    | ok found => exact ⟨rfl, rfl, rfl, rfl⟩
  | none =>
    dsimp only
    rcases spawn_core_cases outcomes (settings.coreAuthToken.getD outcomes.randomAuthToken) with
      ⟨notSpawned, err, isError⟩ | ⟨isSpawned, child, ⟨err, isError⟩ | ⟨core, isCore, isChild, _⟩⟩
    · rw [isError, notSpawned]
      exact ⟨rfl, rfl, rfl, fun _ => rfl, fun _ => rfl⟩
    · rw [isError, isSpawned]
      refine ⟨rfl, rfl, rfl, ?_, ?_⟩
      · intro none
        cases none
      · intro noSpawn
        cases noSpawn
    · rw [isCore]
      refine ⟨rfl, rfl, ?_, ?_⟩
      · rw [isChild]
        rfl
      · rw [isChild]
        rfl

theorem leaves_nothing_error_iff {err : RuntimeError} : LeavesNothing (.error err, acts) ↔
    (∀ process ∈ acts.filterMap Act.spawned, process ∈ acts.filterMap Act.stopped) ∧
    ∀ target ∈ acts.flatMap Act.attached, target ∉ acts.filterMap Act.killed := by
  constructor
  · intro left
    exact left err rfl
  · intro left _ _
    exact left

theorem leaves_nothing_after_files {result : Except RuntimeError RuntimeRuntime} {first : List Act}
    (onFiles : OnFiles first) :
    LeavesNothing (result, first ++ acts) ↔ LeavesNothing (result, acts) := by
  unfold LeavesNothing
  rcases onFiles with ⟨spawned, stopped, attached, killed⟩
  simp only [filterMap_append, flatMap_append, spawned, stopped, attached, killed, nil_append]

theorem launch_with_core_leaves (outcomes : Outcomes) {core : RuntimeProcess}
    (settings : SettingsFile) (record : Option RuntimeProcessRecord)
    (stopped : acts.filterMap Act.stopped = []) (killed : acts.filterMap Act.killed = [])
    (spawned : acts.filterMap Act.spawned = core.child.toList)
    (attached : acts.flatMap Act.attached = if core.child.isSome then [] else targetsOf core) :
    let launched := launchWithCore outcomes core settings record
    LeavesNothing (launched.1, acts ++ launched.2) ↔
      (if core.pid = 0 then core.child.isNone
        else
          match (startOrAttachWatcher outcomes record core.url).1 with
          | .error _ => core.child.isSome || spares (staleStops outcomes record core.url) core
          | .ok watcher =>
            canKeepRuntime outcomes ||
              core.child.isNone && watcher.child.isNone &&
                spares (staleStops outcomes record core.url) core &&
                spares (staleStops outcomes record core.url) watcher) = true := by
  unfold launchWithCore
  dsimp only
  by_cases noPid : core.pid = 0
  · rw [if_pos noPid, if_pos noPid, append_nil, leaves_nothing_error_iff, spawned, stopped,
      killed]
    cases core.child with
    | none | some => simp
  rw [if_neg noPid, if_neg noPid]
  have watcherStage := start_or_attach_watcher_spec outcomes record core.url
  rcases launched : startOrAttachWatcher outcomes record core.url with ⟨result, later⟩
  rw [launched] at watcherStage
  rcases watcherStage with ⟨killedLater, left⟩
  cases result with
  | error err =>
    rcases left with ⟨stoppedAll, attachedLater⟩
    rw [leaves_nothing_error_iff]
    simp only [filterMap_append, flatMap_append, stopped, killed, spawned, attached,
      attachedLater]
    cases child : core.child with
    | some process =>
      have stops : (stopProcess none
          { core with child := some process, startedByUi := true }).2 =
            [.stopChild process] := rfl
      simp only [Option.isSome_some, if_true, Bool.true_or, stops]
      simp only [filterMap_cons, filterMap_nil, flatMap_cons, flatMap_nil, Act.spawned,
        Act.attached, nil_append, append_nil, iff_true]
      refine ⟨?_, fun target mem => absurd mem not_mem_nil⟩
      intro other mem
      rcases mem_cons.mp mem with isCore | isLater
      · rw [isCore]
        exact mem_append_right _ mem_cons_self
      · exact mem_append_left _ (stoppedAll other isLater)
    | none =>
      simp only [Option.isSome_none, Bool.false_eq_true, if_false, filterMap_nil, flatMap_nil,
        nil_append, append_nil, Bool.false_or, spares_iff, killedLater]
      exact and_iff_right stoppedAll
  | ok watcher =>
    rcases left with ⟨spawnedLater, stoppedLater, attachedLater⟩
    let runtime : RuntimeRuntime :=
      { core := { core with startedByUi := core.child.isSome || core.startedByUi }
        watcher := some watcher
        settings := { settings with coreAuthToken := core.authToken } }
    have keeping := keep_runtime_spec outcomes runtime watcher
    dsimp only
    rcases isKept : keepRuntime outcomes runtime watcher with ⟨result, written⟩
    rw [isKept] at keeping
    rcases keeping with ⟨⟨fileSpawned, fileStopped, fileAttached, fileKilled⟩, isOk⟩
    rw [← isOk]
    cases result with
    | ok runtime => exact iff_of_true nofun rfl
    | error err =>
      rw [leaves_nothing_error_iff]
      simp only [filterMap_append, flatMap_append, stopped, killed, spawned, attached,
        spawnedLater, stoppedLater, attachedLater, fileSpawned, fileStopped, fileAttached,
        fileKilled, nil_append, append_nil, Except.toBool, killedLater _]
      cases core.child with
      | some process =>
        refine iff_of_false ?_ Bool.false_ne_true
        intro left
        exact not_mem_nil (left.1 process mem_cons_self)
      | none =>
        cases watcher.child with
        | some process => simp
        | none =>
          simp [spares_iff, or_imp, forall_and]

/-- A launch that fails leaves nothing behind if and only if it meets `cleansUp`. -/
theorem failed_launch_leaves_nothing (files : Files) (outcomes : Outcomes) :
    LeavesNothing (startOrAttachRuntime files outcomes) ↔ cleansUp files outcomes = true := by
  have nothing (err : RuntimeError) : LeavesNothing (.error err, []) := by
    intro _ _
    exact ⟨fun process mem => absurd mem not_mem_nil,
      fun pid mem => absurd mem not_mem_nil⟩
  unfold startOrAttachRuntime cleansUp
  cases outcomes.coreBinary with
  | false => exact iff_of_true (nothing _) rfl
  | true =>
    cases outcomes.appDataDir with
    | error err => exact iff_of_true (nothing _) rfl
    | ok found =>
      cases outcomes.createStateDir with
      | error err => exact iff_of_true (nothing _) rfl
      | ok created =>
        have onFiles := find_runtime_on_files files outcomes
        dsimp only
        generalize findRuntime files outcomes = found at onFiles ⊢
        have coreStage := start_or_attach_core_spec outcomes found.settings found.core
        rcases started : startOrAttachCore outcomes found.settings found.core with
          ⟨result, acts⟩
        rw [started] at coreStage
        rcases coreStage with ⟨stopped, killed, left⟩
        cases result with
        | error err =>
          rcases left with ⟨attached, spawned⟩
          refine (leaves_nothing_after_files onFiles).trans ?_
          rw [leaves_nothing_error_iff, stopped, attached]
          have noSpawn : (∀ process ∈ acts.filterMap Act.spawned, process ∈ []) ↔
              acts.filterMap Act.spawned = [] := by
            rw [eq_nil_iff_forall_not_mem]
            exact forall₂_congr fun process mem => iff_false_intro not_mem_nil
          rw [noSpawn, spawned]
          cases found.core with
          | none | some => simp [Except.isOk, Except.toBool]
        | ok launched =>
          rcases left with ⟨spawned, attached⟩
          have rest := launch_with_core_leaves outcomes launched.2 found.watcher stopped
            killed spawned attached
          dsimp only
          rw [append_assoc]
          exact (leaves_nothing_after_files onFiles).trans rest

def nothingRuns : Outcomes where
  coreBinary := true
  appDataDir := .ok ()
  createStateDir := .ok ()
  home := true
  coreEntryHealth := .error "connection refused"
  watcherEntry := { health := .error "connection refused", state := .error "connection refused" }
  listener := { health := .error "connection refused", state := .error "connection refused" }
  listenerCoreHealth := .error "connection refused"
  randomAuthToken := "token"
  randomTaskControlToken := "control"
  spawnCore := .ok 1
  readyFile := .ok { baseUrl := "http://127.0.0.1:4100", pid := 4100 }
  coreHealth := .ok { service := "rterm-core", status := "ok", pid := 4100, process := 1 }
  watcherRecord := { health := .error "connection refused", state := .error "connection refused" }
  cleanup :=
    { request :=
        { listener := none, accepted := false, down := true, holder := none
          downAfterKill := true }
      holder := none
      down := true }
  runningWatcher := { health := .error "connection refused", state := .error "connection refused" }
  foreignWatcher := { health := .error "connection refused", state := .error "connection refused" }
  listenAddrAvailable := true
  workerId := "worker"
  shutdownToken := "shutdown"
  spawnWatcher := .ok 2
  watcherHealth := some { service := "rterm-watcher", status := "ok", pid := 4200, process := 2 }
  watcherState := .ok
    { backendUrl := "http://127.0.0.1:4100"
      workerId := some "worker"
      shutdownToken := some "shutdown" }
  watcherDown := true
  writeRuntimeFile := { replaced := true, answer := .ok () }
  saveSettings := { replaced := true, answer := .ok () }
  lock := .ok ()

/-- The ready file does not appear in time: the new core is left running. -/
theorem core_without_ready_file_is_left : ¬ ∀ (files : Files) (outcomes : Outcomes),
    LeavesNothing (startOrAttachRuntime files outcomes) := by
  intro leaves
  have left := leaves {} { nothingRuns with readyFile := .error "timed out waiting for ready file" }
    (.ready "timed out waiting for ready file") (by decide +kernel)
  have mem : 1 ∈ (startOrAttachRuntime {}
      { nothingRuns with
        readyFile := .error "timed out waiting for ready file" }).2.filterMap Act.spawned := by
    decide +kernel
  have stopped := left.1 1 mem
  revert stopped
  decide +kernel

end RuneTerminal.Desktop
