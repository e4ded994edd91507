import RuneTerminal.Go.Strings

/-! `start_or_attach_runtime` of `main.rs`, as a function of the files it finds and of the outcomes
of its calls: the runtime or an error, and what was done on the way. -/

namespace RuneTerminal.Desktop

inductive RuntimeError where
  | binaryNotFound
  | path (message : String)
  | spawn (message : String)
  | ready (message : String)
  | http (message : String)
  | runtimePayload (message : String)
  deriving DecidableEq

def RuntimeError.text : RuntimeError → String
  | .binaryNotFound => "core binary not found; set RTERM_CORE_BIN or build core"
  | .path message => "failed to create runtime path: " ++ message
  | .spawn message => "failed to spawn process: " ++ message
  | .ready message => "failed to read ready payload: " ++ message
  | .http message => "request failed: " ++ message
  | .runtimePayload message => "invalid runtime payload: " ++ message

inductive WatcherMode where
  | ephemeral
  | persistent
  deriving DecidableEq

structure SettingsFile where
  watcherMode : WatcherMode := .ephemeral
  coreAuthToken : Option String := none
  taskControlToken : Option String := none
  deriving DecidableEq

/-- `process` is the process that the record is about. -/
structure RuntimeProcessRecord where
  pid : Nat
  url : String
  startedByUi : Bool
  authToken : Option String := none
  taskControlToken : Option String := none
  workerId : Option String := none
  shutdownToken : Option String := none
  process : Nat

/-- A core or a watcher that the app uses; `child` is the handle of a process that it has
spawned. -/
structure RuntimeProcess where
  child : Option Nat
  pid : Nat
  url : String
  startedByUi : Bool
  authToken : Option String := none
  workerId : Option String := none
  shutdownToken : Option String := none
  process : Nat
  deriving DecidableEq

structure RuntimeRuntime where
  core : RuntimeProcess
  watcher : Option RuntimeProcess
  settings : SettingsFile
  deriving DecidableEq

structure RuntimeFileCore where
  pid : Nat
  url : String
  startedByUi : Bool
  authToken : Option String
  taskControlToken : Option String
  process : Nat

structure RuntimeFileWatcher where
  pid : Nat
  url : String
  workerId : Option String
  shutdownToken : Option String
  startedByUi : Bool
  process : Nat

structure RuntimeFile where
  core : Option RuntimeFileCore
  watcher : Option RuntimeFileWatcher

structure ReadyFilePayload where
  baseUrl : String
  pid : Nat

/-- `process` is the process that answers. -/
structure HealthPayload where
  service : String
  status : String
  pid : Nat
  process : Nat

structure WatcherStatePayload where
  backendUrl : String
  workerId : Option String
  shutdownToken : Option String

def watcherListenUrl : String := "http://127.0.0.1:7788"

/-- A file that is not there, that can not be read as what it should be, or that can. -/
inductive FileState (Data : Type) where
  | missing
  | invalid
  | found (data : Data)

/-- What the app does to processes and files. A kill goes to a process id, a shutdown request to an
address; `process` is the one that is meant, and `hit` the one that is there at that time. -/
inductive Act where
  | spawn (process : Nat)
  | attach (pid : Nat) (process : Nat)
  | stopChild (process : Nat)
  | kill (pid : Nat) (process : Nat) (hit : Option Nat)
  | shutdown (url : String) (process : Nat) (hit : Option Nat) (accepted : Bool)
  | writeRuntimeFile (file : RuntimeFile)
  | dropRuntimeFile
  | writeSettings (settings : SettingsFile)
  | dropSettings

def Act.spawned : Act → Option Nat
  | .spawn process => some process
  | _ => none

def Act.stopped : Act → Option Nat
  | .stopChild process => some process
  | _ => none

/-- What is stopped: whatever has a process id, or a process itself. -/
inductive StopTarget where
  | pid (pid : Nat)
  | process (process : Nat)
  deriving DecidableEq

def Act.attached : Act → List StopTarget
  | .attach pid process => [.pid pid, .process process]
  | _ => []

/-- A kill, or a request for a shutdown that is accepted. -/
def Act.killed : Act → Option StopTarget
  | .kill pid _ _ => some (.pid pid)
  | .shutdown _ _ hit true => hit.map .process
  | _ => none

/-- `wait_for_health_service`, given what the request has brought. -/
def waitForHealthService (service : String) (answer : Except String HealthPayload) :
    Except RuntimeError HealthPayload :=
  match answer with
  | .error err => .error (.http err)
  | .ok payload =>
    if payload.service ≠ service ∨ payload.status ≠ "ok" ∨ payload.pid = 0 then
      .error (.http ("invalid health response for " ++ service))
    else .ok payload

def requestWatcherState (answer : Except String WatcherStatePayload) :
    Except RuntimeError WatcherStatePayload :=
  match answer with
  | .error err => .error (.http err)
  | .ok payload =>
    if Go.Strings.trimSpace payload.backendUrl = "" then
      .error (.http "watcher state missing backend_url")
    else .ok payload

def normalizeUrlForCompare (value : String) : String :=
  Go.Strings.trimRight (Go.Strings.trimSpace value) '/'

/-- The answers of a listener to the two requests about a watcher. -/
structure Probe where
  health : Except String HealthPayload
  state : Except String WatcherStatePayload

/-- A request for a shutdown: who listens at the address, whether the request is accepted, and
whether the service is down after it; then who has the process id, and whether it is down after the
kill. -/
structure ShutdownOutcome where
  listener : Option Nat
  accepted : Bool
  down : Bool
  holder : Option Nat
  downAfterKill : Bool

/-- `stop_process`, with the process that has the process id. -/
def stopProcess (holder : Option Nat) (process : RuntimeProcess) : RuntimeProcess × List Act :=
  match process.child with
  | some child => ({ process with child := none }, [.stopChild child])
  | none =>
    if process.pid = 0 then (process, [])
    else (process, [.kill process.pid process.process holder])

def requestGracefulWatcherShutdown (outcome : ShutdownOutcome) (watcher : RuntimeProcess) :
    Except RuntimeError Unit × RuntimeProcess × List Act :=
  if watcher.workerId.isNone || watcher.shutdownToken.isNone then
    (.error (.http "watcher shutdown requires worker identity and token"), watcher, [])
  else
    let requested : Act := .shutdown watcher.url watcher.process outcome.listener outcome.accepted
    if !outcome.accepted then
      let (watcher, acts) := stopProcess outcome.holder watcher
      (if outcome.downAfterKill then .ok ()
        else .error (.http "watcher process did not terminate after kill fallback"),
        watcher, requested :: acts)
    else if outcome.down then (.ok (), watcher, [requested])
    else
      let (watcher, acts) := stopProcess outcome.holder watcher
      (if outcome.downAfterKill then .ok ()
        else .error (.http "watcher did not reach terminal shutdown state"),
        watcher, requested :: acts)

theorem request_shutdown_fails {outcome : ShutdownOutcome} {watcher : RuntimeProcess}
    (noChild : watcher.child = none) (worker : watcher.workerId.isSome = true)
    (token : watcher.shutdownToken.isSome = true) {err : RuntimeError} {stopped : RuntimeProcess}
    {acts : List Act}
    (failed : requestGracefulWatcherShutdown outcome watcher = (.error err, stopped, acts)) :
    stopped = watcher ∧ (outcome.accepted && outcome.down) = false ∧
    outcome.downAfterKill = false := by
  have same : (stopProcess outcome.holder watcher).1 = watcher := by
    unfold stopProcess
    rw [noChild]
    dsimp only
    split
    · rfl
    · rfl
  have canAsk : (watcher.workerId.isNone || watcher.shutdownToken.isNone) = false := by
    rw [← Option.not_isSome, ← Option.not_isSome, worker, token]
    rfl
  unfold requestGracefulWatcherShutdown at failed
  rw [canAsk] at failed
  cases accepted : outcome.accepted with
  | false =>
    cases downAfterKill : outcome.downAfterKill with
    | true =>
      rw [accepted, downAfterKill] at failed
      cases failed
    | false =>
      rw [accepted] at failed
      exact ⟨(congrArg (fun requested => requested.2.1) failed).symm.trans same, rfl, rfl⟩
  | true =>
    cases down : outcome.down with
    | true =>
      rw [accepted, down] at failed
      cases failed
    | false =>
      cases downAfterKill : outcome.downAfterKill with
      | true =>
        rw [accepted, down, downAfterKill] at failed
        cases failed
      | false =>
        rw [accepted, down] at failed
        exact ⟨(congrArg (fun requested => requested.2.1) failed).symm.trans same, rfl, rfl⟩

structure Files where
  runtime : FileState RuntimeFile := .missing
  settings : FileState SettingsFile := .missing

/-- The clean-up of a stale record: the request, who has the process id after it has
failed, and whether the service is down at last. -/
structure CleanupOutcome where
  request : ShutdownOutcome
  holder : Option Nat
  down : Bool

/-- What is written, and what the call answers; a file can be replaced although the call
fails. -/
structure WriteOutcome where
  replaced : Bool
  answer : Except String Unit

/-- The outcomes of the calls of a launch, in their order. -/
structure Outcomes where
  coreBinary : Bool
  appDataDir : Except String Unit
  createStateDir : Except String Unit
  home : Bool
  coreEntryHealth : Except String HealthPayload
  watcherEntry : Probe
  listener : Probe
  listenerCoreHealth : Except String HealthPayload
  randomAuthToken : String
  randomTaskControlToken : String
  spawnCore : Except String Nat
  readyFile : Except String ReadyFilePayload
  coreHealth : Except String HealthPayload
  watcherRecord : Probe
  cleanup : CleanupOutcome
  runningWatcher : Probe
  foreignWatcher : Probe
  listenAddrAvailable : Bool
  workerId : String
  shutdownToken : String
  spawnWatcher : Except String Nat
  watcherHealth : Option HealthPayload
  watcherState : Except String WatcherStatePayload
  watcherDown : Bool
  writeRuntimeFile : WriteOutcome
  saveSettings : WriteOutcome
  lock : Except String Unit

def loadSettings (outcomes : Outcomes) (files : Files) : SettingsFile × List Act :=
  if outcomes.home then
    match files.settings with
    | .missing => ({}, [])
    | .invalid => ({}, [.dropSettings])
    | .found settings => (settings, [])
  else ({}, [])

def validateCoreEntry (answer : Except String HealthPayload) (entry : RuntimeFileCore) :
    Option RuntimeProcessRecord :=
  if entry.pid = 0 ∨ Go.Strings.trimSpace entry.url = "" then none
  else
    (waitForHealthService "rterm-core" answer).toOption.bind fun health =>
      if health.pid ≠ entry.pid then none
      else some
        { pid := health.pid
          url := entry.url
          startedByUi := entry.startedByUi
          authToken := entry.authToken
          taskControlToken := entry.taskControlToken
          process := entry.process }

def validateWatcherEntryForCore (probe : Probe) (entry : RuntimeFileWatcher)
    (expectedCoreUrl : Option String) : Option RuntimeProcessRecord :=
  if entry.pid = 0 ∨ Go.Strings.trimSpace entry.url = "" then none
  else
    (waitForHealthService "rterm-watcher" probe.health).toOption.bind fun health =>
      if health.pid ≠ entry.pid then none
      else
        (requestWatcherState probe.state).toOption.bind fun state =>
          if state.workerId ≠ entry.workerId then none
          else if state.shutdownToken.isSome ∧ state.shutdownToken ≠ entry.shutdownToken then none
          else if expectedCoreUrl.any fun url =>
              normalizeUrlForCompare state.backendUrl ≠ normalizeUrlForCompare url then none
          else some
            { pid := health.pid
              url := entry.url
              startedByUi := entry.startedByUi
              workerId := entry.workerId
              shutdownToken := entry.shutdownToken
              process := entry.process }

def validateWatcherEntryForCoreRecord (probe : Probe) (entry : RuntimeProcessRecord)
    (expectedCoreUrl : String) : Option RuntimeProcessRecord :=
  validateWatcherEntryForCore probe
    { pid := entry.pid
      url := entry.url
      workerId := entry.workerId
      shutdownToken := entry.shutdownToken
      startedByUi := entry.startedByUi
      process := entry.process } (some expectedCoreUrl)

structure RuntimeAttachment where
  core : Option RuntimeProcessRecord := none
  watcher : Option RuntimeProcessRecord := none

def sanitizeRuntimeAttachment (outcomes : Outcomes) (file : RuntimeFile) :
    RuntimeAttachment × Bool :=
  let core := file.core.bind (validateCoreEntry outcomes.coreEntryHealth)
  let watcher := file.watcher.bind fun watcher =>
    validateWatcherEntryForCore outcomes.watcherEntry watcher (core.map (·.url))
  let shouldClear := (file.core.isSome && core.isNone) || (file.watcher.isSome && watcher.isNone)
  ({ core := core, watcher := watcher }, shouldClear)

def readRuntimeAttachment (outcomes : Outcomes) (files : Files) : RuntimeAttachment × List Act :=
  if outcomes.home then
    match files.runtime with
    | .missing => ({}, [])
    | .invalid => ({}, [.dropRuntimeFile])
    | .found file =>
      let (attachment, shouldClear) := sanitizeRuntimeAttachment outcomes file
      (attachment, if shouldClear then [.dropRuntimeFile] else [])
  else ({}, [])

structure LiveWatcherRecord where
  process : RuntimeProcessRecord
  backendUrl : String

def inspectLiveWatcherListener (probe : Probe) : Option LiveWatcherRecord :=
  (waitForHealthService "rterm-watcher" probe.health).toOption.bind fun health =>
    (requestWatcherState probe.state).toOption.bind fun state =>
      state.workerId.map fun workerId =>
        { process :=
            { pid := health.pid
              url := watcherListenUrl
              startedByUi := state.shutdownToken.isSome
              workerId := some workerId
              shutdownToken := state.shutdownToken
              process := health.process }
          backendUrl := state.backendUrl }

def discoverRunningCoreRecord (answer : Except String HealthPayload) (coreBaseUrl : String)
    (authToken : Option String) : Option RuntimeProcessRecord :=
  (waitForHealthService "rterm-core" answer).toOption.map fun health =>
    { pid := health.pid
      url := coreBaseUrl
      startedByUi := true
      authToken := authToken
      process := health.process }

structure RecoveredRuntime where
  core : RuntimeProcessRecord
  watcher : RuntimeProcessRecord

def recoverRunningRuntimeFromWatcher (outcomes : Outcomes) (coreAuthToken : Option String) :
    Option RecoveredRuntime :=
  coreAuthToken.bind fun authToken =>
    (inspectLiveWatcherListener outcomes.listener).bind fun liveWatcher =>
      (discoverRunningCoreRecord outcomes.listenerCoreHealth liveWatcher.backendUrl
        (some authToken)).map fun core =>
          { core := core, watcher := liveWatcher.process }

def discoverRunningWatcherForCore (probe : Probe) (expectedCoreUrl : String) :
    Option RuntimeProcessRecord :=
  (inspectLiveWatcherListener probe).bind fun liveWatcher =>
    if normalizeUrlForCompare liveWatcher.backendUrl ≠ normalizeUrlForCompare expectedCoreUrl
    then none
    else some liveWatcher.process

def ensureNoForeignWatcherListener (outcomes : Outcomes) : Except RuntimeError Unit :=
  match inspectLiveWatcherListener outcomes.foreignWatcher with
  | none =>
    if outcomes.listenAddrAvailable then .ok ()
    else .error (.http ("watcher listen address 127.0.0.1:7788 is already occupied by a " ++
      "non-rterm service"))
  | some liveWatcher =>
    .error (.http ("watcher listen address 127.0.0.1:7788 is already occupied by watcher pid " ++
      toString liveWatcher.process.pid ++ " for backend " ++ liveWatcher.backendUrl))

def resolveExistingCoreCredentials (settings : SettingsFile) (record : RuntimeProcessRecord) :
    Except RuntimeError (String × SettingsFile) :=
  match record.authToken.or settings.coreAuthToken with
  | none => .error (.http "core auth token is not available")
  | some authToken =>
    .ok (authToken,
      { settings with
        coreAuthToken := some authToken
        taskControlToken := record.taskControlToken.or settings.taskControlToken })

def spawnCore (outcomes : Outcomes) (token : String) :
    Except RuntimeError RuntimeProcess × List Act :=
  match outcomes.spawnCore with
  | .error err => (.error (.spawn err), [])
  | .ok child =>
    match outcomes.readyFile with
    | .error err => (.error (.ready err), [.spawn child])
    | .ok ready =>
      match waitForHealthService "rterm-core" outcomes.coreHealth with
      | .error err => (.error (.http ("core unhealthy after spawn: " ++ err.text)), [.spawn child])
      | .ok _ =>
        (.ok
          { child := some child
            pid := ready.pid
            url := ready.baseUrl
            startedByUi := true
            authToken := some token
            process := child }, [.spawn child])

def finalizeSpawnedWatcherStartupFailure (outcomes : Outcomes) (watcher : RuntimeProcess)
    (startupError : RuntimeError) : RuntimeError × List Act :=
  let acts := (stopProcess none watcher).2
  if outcomes.watcherDown then (startupError, acts)
  else (.http (startupError.text ++ "; spawned watcher cleanup did not complete"), acts)

def spawnWatcher (outcomes : Outcomes) : Except RuntimeError RuntimeProcess × List Act :=
  match outcomes.spawnWatcher with
  | .error err => (.error (.spawn err), [])
  | .ok child =>
    let watcher : RuntimeProcess :=
      { child := some child
        pid := 0
        url := watcherListenUrl
        startedByUi := true
        workerId := some outcomes.workerId
        shutdownToken := some outcomes.shutdownToken
        process := child }
    let fail (watcher : RuntimeProcess) (err : RuntimeError) :
        Except RuntimeError RuntimeProcess × List Act :=
      let (err, acts) := finalizeSpawnedWatcherStartupFailure outcomes watcher err
      (.error err, .spawn child :: acts)
    -- An answer that is not valid is asked for again.
    match outcomes.watcherHealth.bind fun payload =>
        (waitForHealthService "rterm-watcher" (.ok payload)).toOption with
    | none => fail watcher (.http "watcher did not become healthy")
    | some health =>
      let watcher := { watcher with pid := health.pid }
      match requestWatcherState outcomes.watcherState with
      | .error err => fail watcher err
      | .ok state =>
        if state.workerId ≠ some outcomes.workerId then
          fail watcher (.runtimePayload "watcher state returned unexpected worker identity")
        else if state.shutdownToken.any (· ≠ outcomes.shutdownToken) then
          fail watcher (.runtimePayload "watcher state returned unexpected shutdown token")
        else (.ok watcher, [.spawn child])

theorem spawn_watcher_cases (outcomes : Outcomes) :
    (∃ err, spawnWatcher outcomes = (.error err, [])) ∨
    (∃ err child, spawnWatcher outcomes = (.error err, [.spawn child, .stopChild child])) ∨
    ∃ watcher child, spawnWatcher outcomes = (.ok watcher, [.spawn child]) ∧
      watcher.child = some child ∧ watcher.process = child := by
  have failure (watcher : RuntimeProcess) {child : Nat} (isChild : watcher.child = some child)
      (startupError : RuntimeError) :
      let failed := finalizeSpawnedWatcherStartupFailure outcomes watcher startupError
      ∃ err process, ((.error failed.1, .spawn child :: failed.2) :
          Except RuntimeError RuntimeProcess × List Act) =
        (.error err, [.spawn process, .stopChild process]) := by
    have acts : (finalizeSpawnedWatcherStartupFailure outcomes watcher startupError).2 =
        [.stopChild child] := by
      unfold finalizeSpawnedWatcherStartupFailure stopProcess
      rw [isChild]
      dsimp only
      split
      · rfl
      · rfl
    dsimp only
    rw [acts]
    exact ⟨_, child, rfl⟩
  unfold spawnWatcher
  cases outcomes.spawnWatcher with
  | error err => exact .inl ⟨_, rfl⟩
  | ok child =>
    right
    cases outcomes.watcherHealth.bind fun payload =>
        (waitForHealthService "rterm-watcher" (.ok payload)).toOption with
    | none => exact .inl (failure _ rfl _)
    | some health =>
      cases requestWatcherState outcomes.watcherState with
      | error err => exact .inl (failure _ rfl _)
      | ok state =>
        dsimp only
        split
        · exact .inl (failure _ rfl _)
        · split
          · exact .inl (failure _ rfl _)
          · exact .inr ⟨_, child, rfl, rfl, rfl⟩

theorem spawn_core_cases (outcomes : Outcomes) (token : String) :
    (outcomes.spawnCore.isOk = false ∧ ∃ err, spawnCore outcomes token = (.error err, [])) ∨
    outcomes.spawnCore.isOk = true ∧
      ∃ child, (∃ err, spawnCore outcomes token = (.error err, [.spawn child])) ∨
        ∃ core, spawnCore outcomes token = (.ok core, [.spawn child]) ∧ core.child = some child ∧
          core.process = child := by
  unfold spawnCore
  cases outcomes.spawnCore with
  | error err => exact .inl ⟨rfl, _, rfl⟩
  | ok child =>
    refine .inr ⟨rfl, child, ?_⟩
    cases outcomes.readyFile with
    | error err => exact .inl ⟨_, rfl⟩
    | ok ready =>
      cases waitForHealthService "rterm-core" outcomes.coreHealth with
      | error err => exact .inl ⟨_, rfl⟩
      | ok health => exact .inr ⟨_, rfl, rfl, rfl⟩

def cleanupStaleWatcherRecord (outcome : CleanupOutcome) (record : RuntimeProcessRecord) :
    Except RuntimeError Unit × List Act :=
  let process : RuntimeProcess :=
    { child := none
      pid := record.pid
      url := record.url
      startedByUi := record.startedByUi
      workerId := record.workerId
      shutdownToken := record.shutdownToken
      process := record.process }
  let last : Except RuntimeError Unit :=
    if outcome.down then .ok ()
    else .error (.http "stale watcher did not terminate before respawn")
  if process.workerId.isSome && process.shutdownToken.isSome then
    match requestGracefulWatcherShutdown outcome.request process with
    | (.ok (), _, acts) => (.ok (), acts)
    | (.error _, process, acts) => (last, acts ++ (stopProcess outcome.holder process).2)
  else (last, (stopProcess outcome.holder process).2)

def recoverOrDropWatcherRecord (outcomes : Outcomes) (record : Option RuntimeProcessRecord)
    (expectedCoreUrl : String) : Except RuntimeError (Option RuntimeProcessRecord) × List Act :=
  match record with
  | none => (.ok none, [])
  | some record =>
    match validateWatcherEntryForCoreRecord outcomes.watcherRecord record expectedCoreUrl with
    | some valid => (.ok (some valid), [])
    | none =>
      match cleanupStaleWatcherRecord outcomes.cleanup record with
      | (.ok (), acts) => (.ok none, acts)
      | (.error err, acts) => (.error err, acts)

/-- The core of the runtime file or of the watcher's listener, or a new one. -/
def startOrAttachCore (outcomes : Outcomes) (settings : SettingsFile)
    (record : Option RuntimeProcessRecord) :
    Except RuntimeError (RuntimeProcess × SettingsFile) × List Act :=
  match record with
  | some record =>
    match resolveExistingCoreCredentials settings record with
    | .error err => (.error err, [])
    | .ok (token, settings) =>
      (.ok (
        { child := none
          pid := record.pid
          url := record.url
          startedByUi := record.startedByUi
          authToken := some token
          process := record.process }, settings), [.attach record.pid record.process])
  | none =>
    let token := settings.coreAuthToken.getD outcomes.randomAuthToken
    let taskControlToken := settings.taskControlToken.getD outcomes.randomTaskControlToken
    let settings := { settings with taskControlToken := some taskControlToken }
    match spawnCore outcomes token with
    | (.error err, acts) => (.error err, acts)
    | (.ok core, acts) => (.ok (core, settings), acts)

def startOrAttachWatcher (outcomes : Outcomes) (record : Option RuntimeProcessRecord)
    (coreUrl : String) : Except RuntimeError RuntimeProcess × List Act :=
  match recoverOrDropWatcherRecord outcomes record coreUrl with
  | (.error err, acts) => (.error err, acts)
  | (.ok kept, acts) =>
    match kept.or (discoverRunningWatcherForCore outcomes.runningWatcher coreUrl) with
    | some record =>
      (.ok
        { child := none
          pid := record.pid
          url := record.url
          startedByUi := record.startedByUi
          workerId := record.workerId
          shutdownToken := record.shutdownToken
          process := record.process }, acts ++ [.attach record.pid record.process])
    | none =>
      match ensureNoForeignWatcherListener outcomes with
      | .error err => (.error err, acts)
      | .ok () =>
        let (watcher, spawned) := spawnWatcher outcomes
        (watcher, acts ++ spawned)

def runtimeFileOf (core : RuntimeProcess) (watcher : RuntimeProcess)
    (taskControlToken : Option String) : RuntimeFile where
  core := some
    { pid := core.pid
      url := core.url
      startedByUi := core.startedByUi
      authToken := core.authToken
      taskControlToken := taskControlToken
      process := core.process }
  watcher :=
    if watcher.pid = 0 then none
    else some
      { pid := watcher.pid
        url := watcher.url
        workerId := watcher.workerId
        shutdownToken := watcher.shutdownToken
        startedByUi := watcher.startedByUi
        process := watcher.process }

def writeFile (outcomes : Outcomes) (outcome : WriteOutcome) (written : Act) :
    Except RuntimeError Unit × List Act :=
  if outcomes.home then
    match outcome.answer with
    | .ok () => (.ok (), [written])
    | .error err => (.error (.path err), if outcome.replaced then [written] else [])
  else (.error (.path "missing home directory"), [])

def keepRuntime (outcomes : Outcomes) (runtime : RuntimeRuntime) (watcher : RuntimeProcess) :
    Except RuntimeError RuntimeRuntime × List Act :=
  let file := runtimeFileOf runtime.core watcher runtime.settings.taskControlToken
  match writeFile outcomes outcomes.writeRuntimeFile (.writeRuntimeFile file) with
  | (.error err, acts) => (.error err, acts)
  | (.ok (), acts) =>
    match writeFile outcomes outcomes.saveSettings (.writeSettings runtime.settings) with
    | (.error err, saved) => (.error err, acts ++ saved)
    | (.ok (), saved) =>
      match outcomes.lock with
      | .error err => (.error (.path err), acts ++ saved)
      | .ok () => (.ok runtime, acts ++ saved)

def launchWithCore (outcomes : Outcomes) (core : RuntimeProcess) (settings : SettingsFile)
    (watcherRecord : Option RuntimeProcessRecord) : Except RuntimeError RuntimeRuntime × List Act :=
  if core.pid = 0 then (.error (.runtimePayload "core pid is zero"), [])
  else
    let core := { core with startedByUi := core.child.isSome || core.startedByUi }
    let settings := { settings with coreAuthToken := core.authToken }
    match startOrAttachWatcher outcomes watcherRecord core.url with
    | (.error err, acts) =>
      (.error err, acts ++ if core.child.isSome then (stopProcess none core).2 else [])
    | (.ok watcher, acts) =>
      let runtime := { core := core, watcher := some watcher, settings := settings }
      let (result, kept) := keepRuntime outcomes runtime watcher
      (result, acts ++ kept)

/-- What a launch finds: the settings, the records, and what it has done to the files. -/
structure Found where
  settings : SettingsFile
  core : Option RuntimeProcessRecord
  watcher : Option RuntimeProcessRecord
  acts : List Act

def findRuntime (files : Files) (outcomes : Outcomes) : Found :=
  let (settings, settingsActs) := loadSettings outcomes files
  let (attachment, attachmentActs) := readRuntimeAttachment outcomes files
  let recovered :=
    if attachment.core.isNone then
      recoverRunningRuntimeFromWatcher outcomes settings.coreAuthToken
    else none
  { settings := settings
    core := attachment.core.or (recovered.map (·.core))
    watcher := attachment.watcher.or (recovered.map (·.watcher))
    acts := settingsActs ++ attachmentActs }

def startOrAttachRuntime (files : Files) (outcomes : Outcomes) :
    Except RuntimeError RuntimeRuntime × List Act :=
  if !outcomes.coreBinary then (.error .binaryNotFound, [])
  else
    match outcomes.appDataDir, outcomes.createStateDir with
    | .error err, _ => (.error (.path err), [])
    | .ok (), .error err => (.error (.path err), [])
    | .ok (), .ok () =>
      let found := findRuntime files outcomes
      match startOrAttachCore outcomes found.settings found.core with
      | (.error err, acts) => (.error err, found.acts ++ acts)
      | (.ok (core, settings), acts) =>
        let (result, launched) := launchWithCore outcomes core settings found.watcher
        (result, found.acts ++ acts ++ launched)

/-- The outcomes of a shutdown: the lock on the runtime, the tasks that the core reports, what
becomes of the watcher, and who has the process id of the core. -/
structure ShutdownOutcomes where
  lock : Except String Unit
  activeTasks : Except String Nat
  watcher : ShutdownOutcome
  coreHolder : Option Nat

def isOwnedWatcher (process : RuntimeProcess) : Bool :=
  process.startedByUi && process.workerId.isSome && process.shutdownToken.isSome

def gracefulShutdownWatcher (outcome : ShutdownOutcome) (watcher : RuntimeProcess) :
    Except RuntimeError Unit × RuntimeProcess × List Act :=
  if !isOwnedWatcher watcher then (.ok (), watcher, [])
  else requestGracefulWatcherShutdown outcome watcher

/-- The first half of `shutdown_runtime`. -/
def shutdownWatcher (outcome : ShutdownOutcome) (watcher : Option RuntimeProcess) :
    Except RuntimeError Unit × Option RuntimeProcess × List Act :=
  match watcher with
  | none => (.ok (), none, [])
  | some watcher =>
    if watcher.startedByUi then
      let (result, watcher, acts) := gracefulShutdownWatcher outcome watcher
      (result, some watcher, acts)
    else (.ok (), some watcher, [])

def shutdownRuntime (outcomes : ShutdownOutcomes) (runtime : RuntimeRuntime) :
    Except RuntimeError Unit × RuntimeRuntime × List Act :=
  match shutdownWatcher outcomes.watcher runtime.watcher with
  | (.error err, watcher, acts) => (.error err, { runtime with watcher := watcher }, acts)
  | (.ok (), watcher, acts) =>
    let (core, stopped) :=
      if runtime.core.startedByUi then stopProcess outcomes.coreHolder runtime.core
      else (runtime.core, [])
    (.ok (), { runtime with core := core, watcher := watcher }, acts ++ stopped)

def WatcherMode.text : WatcherMode → String
  | .ephemeral => "ephemeral"
  | .persistent => "persistent"

structure RuntimeShutdownResult where
  canClose : Bool
  activeTasks : Nat
  watcherMode : String

/-- `request_shutdown`, with what becomes of the runtime that the app holds. -/
def requestShutdown (outcomes : ShutdownOutcomes) (force : Bool) (slot : Option RuntimeRuntime) :
    Except String RuntimeShutdownResult × Option RuntimeRuntime × List Act :=
  match outcomes.lock with
  | .error err => (.error err, slot, [])
  | .ok () =>
    match slot with
    | none =>
      (.ok { canClose := true, activeTasks := 0, watcherMode := WatcherMode.ephemeral.text },
        none, [])
    | some runtime =>
      let watcherMode := runtime.settings.watcherMode
      if watcherMode = .persistent then
        (.ok { canClose := true, activeTasks := 0, watcherMode := watcherMode.text }, slot, [])
      else
        match runtime.core.authToken with
        | none => (.error (RuntimeError.http "core auth token is not available").text, slot, [])
        | some _ =>
          match outcomes.activeTasks with
          | .error err => (.error (RuntimeError.http err).text, slot, [])
          | .ok activeTasks =>
            if !force && 0 < activeTasks then
              (.ok
                { canClose := false, activeTasks := activeTasks
                  watcherMode := watcherMode.text }, slot, [])
            else
              match shutdownRuntime outcomes runtime with
              | (.error err, runtime, acts) => (.error err.text, some runtime, acts)
              | (.ok (), _, acts) =>
                (.ok
                  { canClose := true, activeTasks := activeTasks
                    watcherMode := watcherMode.text }, none, acts ++ [.dropRuntimeFile])

/-- `cleanup_runtime_state`, when the app exits or is told to by a signal. -/
def cleanupRuntimeState (outcomes : ShutdownOutcomes) (slot : Option RuntimeRuntime) :
    Option RuntimeRuntime × List Act :=
  match outcomes.lock with
  | .error _ => (slot, [])
  | .ok () =>
    match slot with
    | none => (none, [])
    | some runtime =>
      if runtime.settings.watcherMode = .persistent then (none, [])
      else (none, (shutdownRuntime outcomes runtime).2.2 ++ [.dropRuntimeFile])

/-- The words have only letters that no other letter than their capitals is lowered to. -/
def WatcherMode.fromInput (value : String) : Option WatcherMode :=
  let value := value.map Char.toLower
  if value = "ephemeral" then some .ephemeral
  else if value = "persistent" then some .persistent
  else none

def setWatcherMode (outcomes : Outcomes) (mode : String) (slot : Option RuntimeRuntime) :
    Except String Unit × Option RuntimeRuntime × List Act :=
  match WatcherMode.fromInput mode with
  | none => (.error ("invalid watcher mode: " ++ mode), slot, [])
  | some parsed =>
    match outcomes.lock with
    | .error err => (.error err, slot, [])
    | .ok () =>
      let settings := (slot.map (·.settings)).getD {}
      let settings := { settings with watcherMode := parsed }
      let slot := slot.map fun runtime => { runtime with settings := settings }
      let (saved, acts) := writeFile outcomes outcomes.saveSettings (.writeSettings settings)
      (saved.mapError RuntimeError.text, slot, acts)

end RuneTerminal.Desktop
