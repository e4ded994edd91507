import RuneTerminal.Kit.Transition

/-! The calls of `core/plugins/mcp_runtime_control.go` on one server, cut where they take a lock. A
process is spawned right before it is put into the map and killed right after it was taken out. -/

namespace RuneTerminal.Plugins

open Kit List

inductive McpProcessState where
  | stopped
  | starting
  | active
  | idle
  | stoppedAuto
  deriving DecidableEq

inductive McpServerType where
  | process
  | remote
  deriving DecidableEq

inductive McpError where
  | serverNotFound
  | serverDisabled
  | explicitStartRequired
  | serverBusy
  | spawnFailed
  | invokeFailed
  deriving DecidableEq

/-- The entry of the registry; a server that was never used has no `lastUsed`. -/
structure RegistryEntry where
  serverType : McpServerType := .process
  state : McpProcessState := .stopped
  lastUsed : Option Nat := none
  active : Bool := false
  enabled : Bool := true

/-- Processes are numbered in the order they are spawned. `held` is the entry of
the runtime's map, `alive` are those that were neither killed nor have exited. -/
structure Processes where
  held : Option Nat := none
  inUse : Nat → Nat := fun _ => 0
  alive : List Nat := []
  spawned : Nat := 0

/-- What a call does when the registry does not know the server: return the
error, or leave out the next sections and go on. -/
inductive OnError where
  | fail
  | leave (count : Nat)
  deriving DecidableEq

abbrev OnError.ignore : OnError := .leave 0

/-- The locked sections of the calls. -/
inductive Section where
  | checkEnabled
  | startSpec
  | findProcess
  | setState (state : McpProcessState) (onError : OnError)
  | setActive (active : Bool) (onError : OnError)
  | touch (onError : OnError)
  | spawn
  | removeProcess (auto : Bool) (nested : Bool)
  | setEnabled (enabled : Bool)
  | invokeSpec (onDemand : Bool)
  | isRunning (serverType : McpServerType) (onDemand : Bool)
  | isRunningRemote (serverType : McpServerType) (onDemand : Bool)
  | acquireProcess
  | releaseProcess (process : Nat)
  | finishRemote
  | sweep
  | fail (err : McpError)
  deriving DecidableEq

def startProgram : List Section := [.checkEnabled, .startSpec]

def startProcess : List Section := [.findProcess]

def stopProgram (auto : Bool) : List Section := [.removeProcess auto false]

def invokeAcquired (serverType : McpServerType) : List Section :=
  [.setState .active .fail, .touch .fail,
    match serverType with
    | .process => .acquireProcess
    | .remote => .finishRemote]

inductive Request where
  | start
  | stop (auto : Bool)
  | setEnabled (enabled : Bool)
  | restart
  | invoke (allowOnDemandStart : Bool)
  | sweepIdle
  deriving DecidableEq

def Request.program : Request → List Section
  | .start => startProgram
  | .stop auto => stopProgram auto
  | .setEnabled true => [.setEnabled true]
  | .setEnabled false =>
    [.removeProcess false true, .setEnabled false, .setActive false .ignore]
  | .restart => [.checkEnabled, .removeProcess false true] ++ startProgram
  | .invoke onDemand => [.checkEnabled, .invokeSpec onDemand]
  | .sweepIdle => [.sweep]

/-- What a step takes from outside: whether the spawner or the invocation fails,
and the clock. -/
structure Oracle where
  spawnFails : Bool := false
  invokeFails : Bool := false
  now : Nat := 0

/-- What a section leaves: the entry, the processes, and the sections that follow
or the error that the call returns. -/
structure Outcome where
  entry : Option RegistryEntry
  processes : Processes
  next : Except McpError (List Section)

section

variable (idleTTL : Nat) (oracle : Oracle) (entry : Option RegistryEntry) (processes : Processes)

def updateEntry (change : RegistryEntry → RegistryEntry) (onError : OnError)
    (rest : List Section) : Outcome :=
  match entry with
  | some known => ⟨some (change known), processes, .ok rest⟩
  | none =>
    match onError with
    | .fail => ⟨none, processes, .error .serverNotFound⟩
    | .leave count => ⟨none, processes, .ok (rest.drop count)⟩

/-- The registry calls at the end of `Stop`; nested in another call, an unknown
server only ends the `Stop`. -/
def stopRest (auto known nested : Bool) : List Section :=
  let state : McpProcessState := if auto then .stoppedAuto else .stopped
  if known then
    [.setState state (if nested then .leave 2 else .fail),
      .setActive false (if nested then .leave 1 else .fail),
      .touch (if nested then .ignore else .fail)]
  else
    [.setState state (if nested then .leave 1 else .fail),
      .setActive false (if nested then .ignore else .fail)]

def Section.perform (rest : List Section) : Section → Outcome
  | .checkEnabled =>
    match entry with
    | none => ⟨entry, processes, .error .serverNotFound⟩
    | some known =>
      if known.enabled then ⟨entry, processes, .ok rest⟩
      else ⟨entry, processes, .error .serverDisabled⟩
  | .startSpec =>
    match entry with
    | none => ⟨entry, processes, .error .serverNotFound⟩
    | some known =>
      match known.serverType with
      | .remote =>
        ⟨entry, processes,
          .ok ([.setState .idle .fail, .setActive true .fail, .touch .fail] ++ rest)⟩
      | .process => ⟨entry, processes, .ok (startProcess ++ rest)⟩
  | .findProcess =>
    match processes.held with
    | some process =>
      let state : McpProcessState :=
        if processes.inUse process > 0 then .active else .idle
      ⟨entry, processes,
        .ok ([.setState state .ignore, .setActive true .ignore, .touch .ignore] ++ rest)⟩
    | none =>
      ⟨entry, processes,
        .ok ([.setState .starting .fail, .setActive true .fail, .spawn] ++ rest)⟩
  | .spawn =>
    if oracle.spawnFails then
      ⟨entry, processes,
        .ok [.setState .stopped .ignore, .setActive false .ignore, .fail .spawnFailed]⟩
    else
      -- The map's entry is overwritten without another look at it.
      ⟨entry,
        { held := some processes.spawned
          inUse := fun process =>
            if process = processes.spawned then 0 else processes.inUse process
          alive := processes.spawned :: processes.alive
          spawned := processes.spawned + 1 },
        .ok ([.setState .idle .ignore, .setActive true .ignore, .touch .ignore] ++ rest)⟩
  | .removeProcess auto nested =>
    match processes.held with
    | some process =>
      if processes.inUse process > 0 then ⟨entry, processes, .error .serverBusy⟩
      else
        ⟨entry,
          { processes with held := none, alive := processes.alive.filter (· ≠ process) },
          .ok (stopRest auto true nested ++ rest)⟩
    | none => ⟨entry, processes, .ok (stopRest auto false nested ++ rest)⟩
  | .setState state onError =>
    updateEntry entry processes (fun known => { known with state := state }) onError rest
  | .setActive active onError =>
    updateEntry entry processes (fun known => { known with active := active }) onError rest
  | .touch onError =>
    updateEntry entry processes (fun known => { known with lastUsed := some oracle.now })
      onError rest
  | .setEnabled enabled =>
    updateEntry entry processes (fun known => { known with enabled := enabled }) .fail rest
  | .invokeSpec onDemand =>
    match entry with
    | none => ⟨entry, processes, .error .serverNotFound⟩
    | some known => ⟨entry, processes, .ok (.isRunning known.serverType onDemand :: rest)⟩
  | .isRunning serverType onDemand =>
    match processes.held with
    | some _ => ⟨entry, processes, .ok (invokeAcquired serverType ++ rest)⟩
    | none => ⟨entry, processes, .ok (.isRunningRemote serverType onDemand :: rest)⟩
  | .isRunningRemote serverType onDemand =>
    let running : Bool :=
      match entry with
      | none => false
      | some known =>
        known.serverType == .remote && known.active && known.enabled &&
          (known.state == .idle || known.state == .active || known.state == .starting)
    if running then ⟨entry, processes, .ok (invokeAcquired serverType ++ rest)⟩
    else if onDemand then
      ⟨entry, processes, .ok (startProgram ++ invokeAcquired serverType ++ rest)⟩
    else ⟨entry, processes, .error .explicitStartRequired⟩
  | .acquireProcess =>
    match processes.held with
    | none => ⟨entry, processes, .error .explicitStartRequired⟩
    | some process =>
      ⟨entry,
        { processes with
          inUse := fun other =>
            if other = process then processes.inUse process + 1 else processes.inUse other },
        .ok (.releaseProcess process :: rest)⟩
  | .releaseProcess process =>
    let inUse := processes.inUse process - 1
    let idle : List Section :=
      if inUse = 0 then [.setState .idle .ignore, .touch .ignore] else []
    ⟨entry,
      { processes with
        inUse := fun other => if other = process then inUse else processes.inUse other },
      .ok (idle ++ if oracle.invokeFails then [.fail .invokeFailed] else rest)⟩
  | .finishRemote =>
    -- The invocation of a remote server is over.
    updateEntry entry processes (fun known => { known with state := .idle }) .ignore
      (.touch .ignore :: if oracle.invokeFails then [.fail .invokeFailed] else rest)
  | .sweep =>
    match entry with
    | none => ⟨entry, processes, .ok []⟩
    | some known =>
      match known.lastUsed with
      | none => ⟨entry, processes, .ok []⟩
      | some lastUsed =>
        if 0 < idleTTL ∧ known.state = .idle ∧ lastUsed + idleTTL ≤ oracle.now then
          ⟨entry, processes, .ok (stopProgram true)⟩
        else ⟨entry, processes, .ok []⟩
  | .fail err => ⟨entry, processes, .error err⟩

end

inductive Call where
  | absent
  | running (program : List Section)
  | finished (err : Option McpError)

structure Server where
  idleTTL : Nat
  entry : Option RegistryEntry
  processes : Processes
  calls : Nat → Call

def Server.setCall (s : Server) (call : Nat) (state : Call) : Server :=
  { s with calls := fun other => if other = call then state else s.calls other }

/-- The registry may be changed by others at any time. -/
inductive Action where
  | begin (call : Nat) (request : Request)
  | advance (call : Nat) (oracle : Oracle)
  | exit (process : Nat)
  | register (entry : Option RegistryEntry)

def Outcome.call (outcome : Outcome) : Call :=
  match outcome.next with
  | .error err => .finished (some err)
  | .ok program => .running program

def step (s : Server) : Action → Option Server
  | .begin call request =>
    match s.calls call with
    | .absent => some (s.setCall call (.running request.program))
    | _ => none
  | .advance call oracle =>
    match s.calls call with
    | .running [] => some (s.setCall call (.finished none))
    | .running (current :: rest) =>
      let outcome := current.perform s.idleTTL oracle s.entry s.processes rest
      some ({ s with entry := outcome.entry, processes := outcome.processes }.setCall call
        outcome.call)
    | _ => none
  | .exit process =>
    if process ∈ s.processes.alive then
      some { s with
        processes :=
          { s.processes with alive := s.processes.alive.filter (· ≠ process) } }
    else none
  | .register entry => some { s with entry := entry }

def Server.perform (s : Server) (call : Nat) (oracle : Oracle) (current : Section)
    (rest : List Section) : Server :=
  let outcome := current.perform s.idleTTL oracle s.entry s.processes rest
  { s with entry := outcome.entry, processes := outcome.processes }.setCall call outcome.call

variable {s next : Server}

section

variable {call other process : Nat} {oracle : Oracle} {program : List Section}

theorem Outcome.next_of_call {outcome : Outcome} (running : outcome.call = .running program) :
    outcome.next = .ok program := by
  unfold Outcome.call at running
  split at running
  · cases running
  next left done =>
    cases running
    exact done

theorem set_call_cases {state : Call}
    (running : (s.setCall call state).calls other = .running program) :
    other = call ∧ state = .running program ∨ other ≠ call ∧ s.calls other = .running program := by
  by_cases same : other = call
  · exact .inl ⟨same, (if_pos same).symm.trans running⟩
  · exact .inr ⟨same, (if_neg same).symm.trans running⟩

theorem step_begin {request : Request} (taken : step s (.begin call request) = some next) :
    s.calls call = .absent ∧ next = s.setCall call (.running request.program) := by
  simp only [step] at taken
  split at taken
  next absent =>
    cases taken
    exact ⟨absent, rfl⟩
  · cases taken

theorem step_advance (taken : step s (.advance call oracle) = some next) :
    (s.calls call = .running [] ∧ next = s.setCall call (.finished none)) ∨
      ∃ current rest, s.calls call = .running (current :: rest) ∧
        next = s.perform call oracle current rest := by
  simp only [step] at taken
  split at taken
  next running =>
    cases taken
    exact .inl ⟨running, rfl⟩
  next current rest running =>
    cases taken
    exact .inr ⟨current, rest, running, rfl⟩
  · cases taken

theorem step_exit (taken : step s (.exit process) = some next) :
    next =
      { s with
        processes := { s.processes with alive := s.processes.alive.filter (· ≠ process) } } := by
  simp only [step] at taken
  split at taken
  · cases taken
    rfl
  · cases taken

end

def Fresh (s : Server) : Prop :=
  s.processes.held = none ∧ s.processes.alive = [] ∧ ∀ call, s.calls call = .absent

theorem entry_processes (entry : Option RegistryEntry) (processes : Processes)
    (change : RegistryEntry → RegistryEntry) (onError : OnError) (rest : List Section) :
    (updateEntry entry processes change onError rest).processes = processes := by
  cases entry with
  | some known => rfl
  | none =>
    cases onError with
    | fail | leave => rfl

def Section.neutral : Section → Bool
  | .spawn => false
  | .removeProcess _ _ => false
  | _ => true

theorem perform_neutral {current : Section} (neutral : current.neutral = true) (idleTTL : Nat)
    (oracle : Oracle) (entry : Option RegistryEntry) (processes : Processes)
    (rest : List Section) :
    let next := (current.perform idleTTL oracle entry processes rest).processes
    next.held = processes.held ∧ next.alive = processes.alive ∧
      next.spawned = processes.spawned := by
  cases current with
  | spawn | removeProcess => cases neutral
  | setState | setActive | touch | setEnabled | finishRemote =>
    simp [Section.perform, entry_processes]
  | releaseProcess | fail => exact ⟨rfl, rfl, rfl⟩
  | checkEnabled | startSpec | findProcess | invokeSpec | isRunning | isRunningRemote
  | acquireProcess | sweep =>
    simp only [Section.perform]
    repeat' split
    all_goals exact ⟨rfl, rfl, rfl⟩

/-- What a section does to the processes: nothing but a count of uses, the
removal of the process that is held, or the installation of a new one. -/
theorem perform_processes_cases (idleTTL : Nat) (oracle : Oracle) (entry : Option RegistryEntry)
    (processes : Processes) (rest : List Section) (current : Section) :
    let next := (current.perform idleTTL oracle entry processes rest).processes
    (next.held = processes.held ∧ next.alive = processes.alive ∧
        next.spawned = processes.spawned) ∨
      (∃ process, processes.held = some process ∧ next.held = none ∧
        next.alive = processes.alive.filter (· ≠ process) ∧ next.spawned = processes.spawned) ∨
      (current = .spawn ∧ oracle.spawnFails = false ∧ next.held = some processes.spawned ∧
        next.alive = processes.spawned :: processes.alive ∧
        next.spawned = processes.spawned + 1) := by
  intro next
  by_cases neutral : current.neutral = true
  · exact .inl (perform_neutral neutral idleTTL oracle entry processes rest)
  cases current with
  | spawn =>
    cases fails : oracle.spawnFails with
    | true => exact .inl (by simp [next, Section.perform, fails])
    | false => exact .inr (.inr ⟨rfl, rfl, by simp [next, Section.perform, fails]⟩)
  | removeProcess auto nested =>
    cases held : processes.held with
    | none => exact .inl (by simp [next, Section.perform, held])
    | some process =>
      by_cases busy : processes.inUse process > 0
      · exact .inl (by simp [next, Section.perform, held, busy])
      · exact .inr (.inl ⟨process, rfl, by simp [next, Section.perform, held, busy]⟩)
  | _ => exact absurd rfl neutral

/-- A new process is put into the map only when the map holds none that still runs. -/
def installsIntoFree (s : Server) : Action → Bool
  | .advance call oracle =>
    match s.calls call with
    | .running (.spawn :: _) =>
      oracle.spawnFails ||
        match s.processes.held with
        | none => true
        | some process => !s.processes.alive.contains process
    | _ => true
  | _ => true

variable {action : Action}

theorem step_processes_cases (taken : step s action = some next) :
    (next.processes.held = s.processes.held ∧
      next.processes.alive = s.processes.alive ∧
      next.processes.spawned = s.processes.spawned) ∨
    (∃ process,
      (next.processes.held = s.processes.held ∨ s.processes.held = some process) ∧
      next.processes.alive = s.processes.alive.filter (· ≠ process) ∧
      next.processes.spawned = s.processes.spawned) ∨
    ((installsIntoFree s action = true →
        ∀ process ∈ s.processes.alive, s.processes.held ≠ some process) ∧
      next.processes.held = some s.processes.spawned ∧
      next.processes.alive = s.processes.spawned :: s.processes.alive ∧
      next.processes.spawned = s.processes.spawned + 1) := by
  cases action with
  | begin call request =>
    obtain ⟨_, rfl⟩ := step_begin taken
    exact .inl ⟨rfl, rfl, rfl⟩
  | register entry =>
    cases taken
    exact .inl ⟨rfl, rfl, rfl⟩
  | exit process =>
    obtain rfl := step_exit taken
    exact .inr (.inl ⟨process, .inl rfl, rfl, rfl⟩)
  | advance call oracle =>
    rcases step_advance taken with ⟨_, rfl⟩ | ⟨current, rest, running, rfl⟩
    · exact .inl ⟨rfl, rfl, rfl⟩
    rcases perform_processes_cases s.idleTTL oracle s.entry s.processes rest current with
      same | ⟨process, held, _, alive, spawned⟩ | ⟨rfl, spawns, installed⟩
    · exact .inl same
    · exact .inr (.inl ⟨process, .inr held, alive, spawned⟩)
    · refine .inr (.inr ⟨?_, installed⟩)
      intro free process mem isHeld
      simp [installsIntoFree, running, spawns, isHeld, mem] at free

/-- Every process that still runs is the one in the runtime's map, and has its number. -/
structure Accounted (processes : Processes) : Prop where
  held : ∀ process ∈ processes.alive, processes.held = some process
  numbered : ∀ process ∈ processes.alive, process < processes.spawned

theorem step_accounted (accounted : Accounted s.processes)
    (taken : guarded installsIntoFree step s action = some next) : Accounted next.processes := by
  obtain ⟨free, taken⟩ := guarded_eq_some.mp taken
  rcases step_processes_cases taken with
    ⟨held, alive, spawned⟩ | ⟨process, held, alive, spawned⟩ | ⟨unheld, held, alive, spawned⟩
  · constructor
    · rw [alive, held]
      exact accounted.held
    · rw [alive, spawned]
      exact accounted.numbered
  · constructor
    · intro other mem
      rw [alive, mem_filter] at mem
      have isHeld := accounted.held other mem.1
      rcases held with same | removed
      · rw [same]
        exact isHeld
      · rw [isHeld, Option.some.injEq] at removed
        simp [removed] at mem
    · intro other mem
      rw [alive, mem_filter] at mem
      rw [spawned]
      exact accounted.numbered other mem.1
  -- Nothing that still runs was in the map, so nothing runs but the new process.
  have noneAlive : s.processes.alive = [] := by
    rw [eq_nil_iff_forall_not_mem]
    intro process mem
    exact unheld free process mem (accounted.held process mem)
  rw [noneAlive] at alive
  constructor
  · intro process mem
    rw [alive, mem_singleton] at mem
    rw [held, mem]
  intro process mem
  rw [alive, mem_singleton] at mem
  rw [spawned, mem]
  exact Nat.lt_succ_self _

theorem overwriting_step (overwrites : installsIntoFree s action = false)
    (taken : step s action = some next) :
    ∃ process, process ∈ s.processes.alive ∧ process ∈ next.processes.alive ∧
    next.processes.held = some s.processes.spawned := by
  cases action with
  | begin | exit | register => cases overwrites
  | advance call oracle =>
    simp only [installsIntoFree] at overwrites
    split at overwrites
    next rest running =>
      obtain ⟨spawns, overwrites⟩ := Bool.or_eq_false_iff.mp overwrites
      split at overwrites
      · cases overwrites
      next process held =>
        have alive : process ∈ s.processes.alive := by simpa using overwrites
        simp only [step, running, Section.perform, spawns] at taken
        cases taken
        exact ⟨process, alive, mem_cons_of_mem _ alive, rfl⟩
    · cases overwrites

/-- While no running process is overwritten in the map, every process that is alive is the one held,
and the first step that does overwrite one breaks this. -/
theorem mcp_processes_accounted {s : Server}
    (reachable : Reachable Fresh (guarded installsIntoFree step) s) :
    (∀ process ∈ s.processes.alive, s.processes.held = some process) ∧
    ∀ action next, installsIntoFree s action = false → step s action = some next →
    ∃ process ∈ next.processes.alive, next.processes.held ≠ some process := by
  have accounted : Accounted s.processes := by
    apply reachable.invariant
    · rintro first ⟨_, noneAlive, _⟩
      constructor
      · simp [noneAlive]
      · simp [noneAlive]
    · exact step_accounted
  refine ⟨accounted.held, ?_⟩
  intro action next overwrites taken
  obtain ⟨process, alive, nextAlive, held⟩ := overwriting_step overwrites taken
  refine ⟨process, nextAlive, ?_⟩
  rw [held]
  intro same
  have older := accounted.numbered process alive
  rw [Option.some.inj same] at older
  exact Nat.lt_irrefl _ older

def newServer : Server where
  idleTTL := 420
  entry := some {}
  processes := {}
  calls := fun _ => .absent

theorem new_server_fresh : Fresh newServer :=
  ⟨rfl, rfl, fun _ => rfl⟩

def startThenInvoke : List Action :=
  [.begin 0 .start] ++ List.replicate 10 (.advance 0 {}) ++
    [.begin 1 (.invoke true)] ++ List.replicate 6 (.advance 1 {})

theorem mcp_processes_accounted_invoke : ∃ s, Reachable Fresh (guarded installsIntoFree step) s ∧
    s.processes.alive = [0] ∧ s.processes.held = some 0 := by
  have ran : (runActions (guarded installsIntoFree step) newServer startThenInvoke).map
      (fun s => decide (s.processes.alive = [0])) = some true := by decide
  obtain ⟨s, reachable, running⟩ := reachable_of_run new_server_fresh ran
  have alive := of_decide_eq_true running
  have accounted := (mcp_processes_accounted reachable).1 0
  rw [alive] at accounted
  exact ⟨s, reachable, alive, accounted (mem_singleton_self 0)⟩

def overlappingStarts : List Action :=
  [.begin 0 .start, .begin 1 .start] ++ List.replicate 3 (.advance 0 {}) ++
    List.replicate 3 (.advance 1 {}) ++ List.replicate 3 (.advance 0 {}) ++
    List.replicate 3 (.advance 1 {})

/-- The process of the first start still runs, and the map holds that of the second. -/
theorem overlapping_starts_orphan :
    ∃ s, Reachable Fresh step s ∧ s.processes.alive = [1, 0] ∧ s.processes.held = some 1 := by
  have ran : (runActions step newServer overlappingStarts).map (fun s =>
      decide (s.processes.alive = [1, 0] ∧ s.processes.held = some 1)) = some true := by decide
  obtain ⟨s, reachable, orphaned⟩ := reachable_of_run new_server_fresh ran
  exact ⟨s, reachable, of_decide_eq_true orphaned⟩

end RuneTerminal.Plugins
