import Mathlib.Data.List.Chain
import Mathlib.Tactic.SplitIfs
import RuneTerminal.Plugins.McpRuntime

/-! A stop removes the process, then writes that the server is stopped and not active. The server
stays stopped exactly as long as no opposite write comes after the stop's, unless from a call that
began later. The sweep spares a remote server while it is not shown as idle. -/

namespace RuneTerminal.Plugins

open Kit List Outcome Server

def McpProcessState.isStopped : McpProcessState → Bool
  | .stopped => true
  | .stoppedAuto => true
  | _ => false

/-- The requests that stop the server, once they have returned without an error. -/
def Request.stops : Request → Bool
  | .stop _ => true
  | .setEnabled enabled => !enabled
  | .sweepIdle => true
  | _ => false

namespace Section

def marksState : Section → Bool
  | .setState state _ => !state.isStopped
  | .finishRemote => true
  | _ => false

def marksActive : Section → Bool
  | .setActive active _ => active
  | _ => false

def marksHeld (oracle : Oracle) : Section → Bool
  | .spawn => !oracle.spawnFails
  | _ => false

def marks (oracle : Oracle) (current : Section) : Bool :=
  current.marksState || current.marksActive || current.marksHeld oracle

def setsState : Section → Bool
  | .setState _ _ => true
  | _ => false

def setsActive : Section → Bool
  | .setActive _ _ => true
  | _ => false

def removes : Section → Bool
  | .removeProcess _ _ => true
  | _ => false

def idles : Section → Bool
  | .setState state _ => state == .idle
  | .finishRemote => true
  | _ => false

def ofStop : Section → Bool
  | .setState state _ => state.isStopped
  | .setActive active _ => !active
  | .touch _ => true
  | .setEnabled _ => true
  | _ => false

end Section

/-- A server with the requests of its calls, the stops that have removed the process and not
returned, whether nothing has undone the last stop that returned, and the calls that have begun, all
and since that return. -/
structure Watched where
  server : Server
  asked : Nat → Option Request
  stopping : List Nat
  settled : Bool
  later : Nat → Bool
  begun : List Nat

def Server.program (s : Server) (call : Nat) : List Section :=
  match s.calls call with
  | .running program => program
  | _ => []

namespace Watched

def advanced (s : Watched) (call : Nat) (oracle : Oracle) (next : Server) : Watched :=
  match s.server.calls call with
  | .running [] =>
    if s.stopping.contains call then
      { s with
        server := next
        stopping := s.stopping.filter (· ≠ call)
        settled := true
        later := fun _ => false }
    else { s with server := next }
  | .running (current :: _) =>
    { s with
      server := next
      stopping :=
        match next.calls call with
        | .running _ =>
          if current.removes && (s.asked call).any Request.stops then call :: s.stopping
          else s.stopping
        | _ => s.stopping.filter (· ≠ call)
      settled := s.settled && !(current.marks oracle && s.later call) }
  | _ => s

def step (s : Watched) : Action → Option Watched
  | .begin call request =>
    (Plugins.step s.server (.begin call request)).map fun next =>
      { s with
        server := next
        asked := fun other => if other = call then some request else s.asked other
        later := fun other => if other = call then true else s.later other
        begun := call :: s.begun }
  | .advance call oracle =>
    (Plugins.step s.server (.advance call oracle)).map (s.advanced call oracle)
  | .exit process =>
    (Plugins.step s.server (.exit process)).map fun next => { s with server := next }
  | .register _ => none

structure Initial (s : Watched) : Prop where
  fresh : Fresh s.server
  known : ∃ known, s.server.entry = some known
  stopping : s.stopping = []
  settled : s.settled = false
  begun : s.begun = []

/-- A call that has begun before the return of a stop does not write that the server runs after it,
and none does so between the stop's own write and its return. -/
def keepsStopped (s : Watched) : Action → Bool
  | .advance call oracle =>
    match s.server.calls call with
    | .running (current :: _) =>
      (!current.marks oracle || !s.settled || s.later call) &&
        s.stopping.all fun other =>
          !current.marksHeld oracle &&
            (!current.marksState || (s.server.program other).any Section.setsState) &&
            (!current.marksActive || (s.server.program other).any Section.setsActive)
    | _ => true
  | _ => true

/-- A call of a remote server is being served. -/
def serves (s : Watched) (call : Nat) : Bool :=
  (s.server.program call).head? == some .finishRemote

/-- A sweep has found the server idle and is stopping it. -/
def sweeps (s : Watched) (call : Nat) : Bool :=
  s.asked call == some .sweepIdle && s.server.program call != [.sweep] &&
    s.server.program call != []

/-- A call of a remote server that is about to be served finds it not idle, with no sweep stopping
it, and meanwhile no other call shows the server as idle. -/
def sparesServed (s : Watched) : Action → Bool
  | .advance call _ =>
    match s.server.calls call with
    | .running (current :: rest) =>
      (rest.head? != some .finishRemote ||
          s.server.entry.all (·.state != .idle) && !s.begun.any s.sweeps) &&
        (!current.idles || !s.begun.any fun other => other != call && s.serves other)
    | _ => true
  | _ => true

end Watched

/-- The registry shows the server as stopped and inactive, and no process is held. -/
def IsStopped (entry : Option RegistryEntry) (processes : Processes) : Prop :=
  processes.held = none ∧
    ∃ known, entry = some known ∧ known.state.isStopped = true ∧ known.active = false

variable {idleTTL call process : Nat} {oracle : Oracle} {entry : Option RegistryEntry}
  {known : RegistryEntry} {processes : Processes} {current : Section} {rest program : List Section}
  {s : Watched} {action : Action}

theorem perform_known (current : Section) :
    ∃ written, (current.perform idleTTL oracle (some known) processes rest).entry = some written ∧
    (current.marksState = false → written.state = known.state ∨ written.state.isStopped = true) ∧
    (current.marksActive = false → written.active = known.active ∨ written.active = false) := by
  cases current with
  | setState state onError =>
    refine ⟨{ known with state := state }, rfl, ?_, fun _ => .inl rfl⟩
    intro stopped
    exact .inr (by simpa [Section.marksState] using stopped)
  | setActive active onError =>
    refine ⟨{ known with active := active }, rfl, fun _ => .inl rfl, ?_⟩
    intro inactive
    exact .inr inactive
  | touch | setEnabled => exact ⟨_, rfl, fun _ => .inl rfl, fun _ => .inl rfl⟩
  | finishRemote =>
    refine ⟨{ known with state := .idle }, rfl, ?_, fun _ => .inl rfl⟩
    intro stopped
    cases stopped
  | spawn | removeProcess | checkEnabled | startSpec | findProcess | invokeSpec | isRunning
  | isRunningRemote | acquireProcess | releaseProcess | sweep | fail =>
    refine ⟨known, ?_, fun _ => .inl rfl, fun _ => .inl rfl⟩
    simp only [Section.perform]
    repeat' split
    all_goals rfl

theorem perform_held (unmarked : current.marksHeld oracle = false) :
    let next := (current.perform idleTTL oracle entry processes rest).processes
    next.held = processes.held ∨ next.held = none := by
  rcases perform_processes_cases idleTTL oracle entry processes rest current with
    same | ⟨process, _, removed, _⟩ | ⟨isSpawn, spawns, _⟩
  · exact .inl same.1
  · exact .inr removed
  · rw [isSpawn, Section.marksHeld, spawns] at unmarked
    cases unmarked

/-- The rest of a stop that has removed the process: what it has written already still
stands. -/
structure Stopping (entry : Option RegistryEntry) (processes : Processes)
    (program : List Section) : Prop where
  sections : ∀ current ∈ program, current.ofStop = true
  held : processes.held = none
  state : program.any Section.setsState = false → ∀ known, entry = some known →
    known.state.isStopped = true
  active : program.any Section.setsActive = false → ∀ known, entry = some known →
    known.active = false

theorem perform_of_stop (isOfStop : current.ofStop = true) :
    ∃ written,
      current.perform idleTTL oracle (some known) processes rest =
        ⟨some written, processes, .ok rest⟩ ∧
      (written.state.isStopped = true ∨ (current.setsState = false ∧ written.state = known.state)) ∧
      (written.active = false ∨ (current.setsActive = false ∧ written.active = known.active)) := by
  cases current with
  | setState state onError =>
    exact ⟨{ known with state := state }, rfl, .inl isOfStop, .inr ⟨rfl, rfl⟩⟩
  | setActive active onError =>
    refine ⟨{ known with active := active }, rfl, .inr ⟨rfl, rfl⟩, .inl ?_⟩
    simpa [Section.ofStop] using isOfStop
  | touch | setEnabled => exact ⟨_, rfl, .inr ⟨rfl, rfl⟩, .inr ⟨rfl, rfl⟩⟩
  | spawn | removeProcess | checkEnabled | startSpec | findProcess | invokeSpec | isRunning
  | isRunningRemote | acquireProcess | releaseProcess | sweep | fail | finishRemote =>
    cases isOfStop

theorem Stopping.perform
    (stopping : Stopping (some known) processes (current :: rest)) :
    ∃ written, current.perform idleTTL oracle (some known) processes rest =
    ⟨some written, processes, .ok rest⟩ ∧ Stopping (some written) processes rest := by
  rcases @perform_of_stop idleTTL oracle known processes current rest
    (stopping.sections current mem_cons_self) with
    ⟨written, performed, state, active⟩
  refine ⟨written, performed, ?_, stopping.held, ?_, ?_⟩
  · intro other mem
    exact stopping.sections other (mem_cons_of_mem current mem)
  · intro none other isWritten
    cases isWritten
    rcases state with stopped | ⟨unset, same⟩
    · exact stopped
    rw [same]
    apply stopping.state _ known rfl
    rw [any_cons, unset, none]
    rfl
  · intro none other isWritten
    cases isWritten
    rcases active with inactive | ⟨unset, same⟩
    · exact inactive
    rw [same]
    apply stopping.active _ known rfl
    rw [any_cons, unset, none]
    rfl

theorem Stopping.other
    (stopping : Stopping (some known) processes program)
    (held : current.marksHeld oracle = false)
    (state : current.marksState = true → program.any Section.setsState = true)
    (active : current.marksActive = true → program.any Section.setsActive = true) :
    let outcome := current.perform idleTTL oracle (some known) processes rest
    Stopping outcome.entry outcome.processes program := by
  rcases @perform_known idleTTL oracle known processes rest current with
    ⟨written, entry, stateKept, activeKept⟩
  constructor
  · exact stopping.sections
  · rcases @perform_held idleTTL oracle (some known) processes current rest held with same | removed
    · rw [same]
      exact stopping.held
    · exact removed
  · intro none other isWritten
    rw [entry] at isWritten
    cases isWritten
    have unmarked : current.marksState = false := by
      apply Bool.eq_false_iff.mpr
      intro marks
      rw [state marks] at none
      cases none
    rcases stateKept unmarked with same | stopped
    · rw [same]
      exact stopping.state none known rfl
    · exact stopped
  · intro none other isWritten
    rw [entry] at isWritten
    cases isWritten
    have unmarked : current.marksActive = false := by
      apply Bool.eq_false_iff.mpr
      intro marks
      rw [active marks] at none
      cases none
    rcases activeKept unmarked with same | inactive
    · rw [same]
      exact stopping.active none known rfl
    · exact inactive

theorem stopping_of_removed (auto held nested : Bool) (free : processes.held = none)
    (ofStop : ∀ current ∈ rest, current.ofStop = true) :
    Stopping entry processes (stopRest auto held nested ++ rest) := by
  constructor
  · intro current mem
    rcases mem_append.mp mem with own | later
    · cases auto <;> cases held <;> cases nested <;>
        simp [stopRest] at own <;> rcases own with rfl | rfl | rfl <;> rfl
    · exact ofStop current later
  · exact free
  · intro none
    cases held <;> simp [stopRest, Section.setsState] at none
  · intro none
    cases held <;> simp [stopRest, Section.setsActive] at none

/-- A stop that has not removed the process, or has found nothing to sweep. -/
def Waiting (program : List Section) : Prop :=
  program = [] ∨ program = [.sweep] ∨ ∃ auto nested rest,
    program = .removeProcess auto nested :: rest ∧ ∀ current ∈ rest, current.ofStop = true

theorem waiting_of_stops {request : Request} (stops : request.stops = true) :
    Waiting request.program := by
  cases request with
  | stop auto =>
    exact .inr (.inr ⟨auto, false, [], rfl, fun _ mem => absurd mem not_mem_nil⟩)
  | sweepIdle => exact .inr (.inl rfl)
  | setEnabled enabled =>
    cases enabled with
    | true => cases stops
    | false =>
      refine .inr (.inr ⟨false, true, _, rfl, ?_⟩)
      simp [Section.ofStop]
  | start | restart | invoke => cases stops

structure Sound (s : Watched) : Prop where
  known : ∃ known, s.server.entry = some known
  waiting : ∀ call program, s.server.calls call = .running program →
    (s.asked call).any Request.stops = true → call ∉ s.stopping → Waiting program
  stopping : ∀ call ∈ s.stopping, ∃ program, s.server.calls call = .running program ∧
    Stopping s.server.entry s.server.processes program
  settled : s.settled = true → IsStopped s.server.entry s.server.processes

section

variable {next : Watched}

theorem initial_sound (initial : s.Initial) : Sound s := by
  constructor
  · exact initial.known
  · intro call program running
    rw [initial.fresh.2.2 call] at running
    cases running
  · intro call mem
    rw [initial.stopping] at mem
    cases mem
  · intro settled
    rw [initial.settled] at settled
    cases settled

/-- What a step of one call has to keep, apart from what the other calls are and what they have
been asked for. -/
theorem Sound.after (sound : Sound s)
    (others : ∀ other, other ≠ call →
      next.server.calls other = s.server.calls other ∧ next.asked other = s.asked other ∧
        (other ∈ next.stopping ↔ other ∈ s.stopping))
    (known : ∃ known, next.server.entry = some known)
    (waiting : ∀ program, next.server.calls call = .running program →
      (next.asked call).any Request.stops = true → call ∉ next.stopping → Waiting program)
    (kept : ∀ other program, other ≠ call → other ∈ s.stopping →
      s.server.calls other = .running program → Stopping s.server.entry s.server.processes program →
      Stopping next.server.entry next.server.processes program)
    (stopping : call ∈ next.stopping →
      ∃ program, next.server.calls call = .running program ∧
        Stopping next.server.entry next.server.processes program)
    (settled : next.settled = true → IsStopped next.server.entry next.server.processes) :
    Sound next := by
  constructor
  · exact known
  · intro other program running stops outside
    by_cases same : other = call
    · rw [same] at running stops outside
      exact waiting program running stops outside
    obtain ⟨calls, asked, members⟩ := others other same
    rw [calls] at running
    rw [asked] at stops
    exact sound.waiting other program running stops fun inside => outside (members.mpr inside)
  · intro other mem
    by_cases same : other = call
    · rw [same] at mem ⊢
      exact stopping mem
    obtain ⟨calls, _, members⟩ := others other same
    obtain ⟨program, running, before⟩ := sound.stopping other (members.mp mem)
    exact ⟨program, calls.trans running,
      kept other program same (members.mp mem) running before⟩
  · exact settled

theorem begin_sound (sound : Sound s) {request : Request}
    (taken : s.step (.begin call request) = some next) : Sound next := by
  rcases Option.map_eq_some_iff.mp taken with ⟨server, begun, rfl⟩
  obtain ⟨absent, rfl⟩ := step_begin begun
  refine sound.after (fun other ne => ⟨if_neg ne, if_neg ne, Iff.rfl⟩) sound.known ?_
    (fun _ _ _ _ _ before => before) ?_ sound.settled
  · intro program running stops _
    rcases set_call_cases running with ⟨_, own⟩ | ⟨ne, _⟩
    · cases own
      simp only [if_true] at stops
      exact waiting_of_stops stops
    · exact absurd rfl ne
  · intro mem
    obtain ⟨program, running, _⟩ := sound.stopping call mem
    rw [absent] at running
    cases running

theorem exit_sound (sound : Sound s) (taken : s.step (.exit process) = some next) : Sound next := by
  rcases Option.map_eq_some_iff.mp taken with ⟨server, exited, rfl⟩
  obtain rfl := step_exit exited
  refine ⟨sound.known, sound.waiting, ?_, sound.settled⟩
  intro other mem
  rcases sound.stopping other mem with ⟨program, running, stopping⟩
  exact ⟨program, running, stopping.sections, stopping.held, stopping.state, stopping.active⟩

theorem return_sound (sound : Sound s) (running : s.server.calls call = .running []) :
    Sound (s.advanced call oracle (s.server.setCall call (.finished none))) := by
  have returned : (s.server.setCall call (.finished none)).calls call = .finished none :=
    if_pos rfl
  by_cases mem : call ∈ s.stopping
  · simp only [Watched.advanced, running, contains_eq_mem, decide_eq_true mem, if_true]
    refine sound.after (fun other ne => ⟨if_neg ne, rfl, by simp [ne]⟩) sound.known ?_
      (fun _ _ _ _ _ before => before) (fun inside => by simp at inside) ?_
    · intro program isRunning
      cases returned.symm.trans isRunning
    intro _
    rcases sound.stopping call mem with ⟨program, isRunning, stopping⟩
    cases running.symm.trans isRunning
    rcases sound.known with ⟨known, entry⟩
    exact ⟨stopping.held, known, entry, stopping.state rfl known entry,
      stopping.active rfl known entry⟩
  · simp only [Watched.advanced, running, contains_eq_mem, decide_eq_false mem,
      Bool.false_eq_true, if_false]
    refine sound.after (fun other ne => ⟨if_neg ne, rfl, Iff.rfl⟩) sound.known ?_
      (fun _ _ _ _ _ before => before) (fun inside => absurd inside mem) sound.settled
    intro program isRunning
    cases returned.symm.trans isRunning

theorem IsStopped.perform (stopped : IsStopped entry processes)
    (unmarked : current.marks oracle = false) :
    let outcome := current.perform idleTTL oracle entry processes rest
    IsStopped outcome.entry outcome.processes := by
  rcases stopped with ⟨free, known, rfl, state, active⟩
  simp only [Section.marks, Bool.or_eq_false_iff] at unmarked
  rcases unmarked with ⟨⟨stateUnmarked, activeUnmarked⟩, heldUnmarked⟩
  rcases @perform_known idleTTL oracle known processes rest current with
    ⟨written, isWritten, stateKept, activeKept⟩
  refine ⟨?_, written, isWritten, ?_, ?_⟩
  · rcases @perform_held idleTTL oracle (some known) processes current rest heldUnmarked with
      same | removed
    · exact same.trans free
    · exact removed
  · rcases stateKept stateUnmarked with same | stopped
    · rw [same]
      exact state
    · exact stopped
  · rcases activeKept activeUnmarked with same | inactive
    · rw [same]
      exact active
    · exact inactive

theorem perform_removal {auto nested : Bool}
    (done : ((Section.removeProcess auto nested).perform idleTTL oracle entry processes rest).next =
      .ok program) :
    ((Section.removeProcess auto nested).perform idleTTL oracle entry processes
      rest).processes.held =
      none ∧
    ∃ held, program = stopRest auto held nested ++ rest := by
  cases held : processes.held with
  | none =>
    simp only [Section.perform, held] at done ⊢
    exact ⟨trivial, false, (Except.ok.inj done).symm⟩
  | some process =>
    simp only [Section.perform, held] at done ⊢
    by_cases busy : processes.inUse process > 0
    · rw [if_pos busy] at done
      cases done
    · rw [if_neg busy] at done ⊢
      exact ⟨rfl, true, (Except.ok.inj done).symm⟩

theorem perform_sweep
    (done : (Section.sweep.perform idleTTL oracle entry processes []).next = .ok program) :
    Waiting program := by
  have outcomes : program = [] ∨ program = stopProgram true := by
    simp only [Section.perform] at done
    repeat' split at done
    all_goals cases done
    all_goals simp
  rcases outcomes with rfl | rfl
  · exact .inl rfl
  · exact @waiting_of_stops (.stop true) rfl

theorem of_keeps_stopped (running : s.server.calls call = .running (current :: rest))
    (keeps : s.keepsStopped (.advance call oracle) = true) :
    (current.marks oracle = true → s.settled = true → s.later call = true) ∧
    ∀ other ∈ s.stopping, current.marksHeld oracle = false ∧
      (current.marksState = true → (s.server.program other).any Section.setsState = true) ∧
      (current.marksActive = true → (s.server.program other).any Section.setsActive = true) := by
  simp only [Watched.keepsStopped, running, Bool.and_eq_true, all_eq_true,
    Bool.or_eq_true, Bool.not_eq_true'] at keeps
  rcases keeps with ⟨settled, stopping⟩
  constructor
  · intro marks isSettled
    rcases settled with (unmarked | unsettled) | isLater
    · rw [marks] at unmarked
      cases unmarked
    · rw [isSettled] at unsettled
      cases unsettled
    · exact isLater
  · intro other mem
    rcases stopping other mem with ⟨⟨held, state⟩, active⟩
    refine ⟨held, fun marks => state.resolve_left ?_, fun marks => active.resolve_left ?_⟩
    · rw [marks]
      exact Bool.noConfusion
    · rw [marks]
      exact Bool.noConfusion

theorem running_of_head {s : Server} (head : (s.program call).head? = some current) :
    ∃ rest, s.calls call = .running (current :: rest) := by
  unfold program at head
  split at head
  next program running =>
    cases program with
    | nil => cases head
    | cons first rest =>
      cases head
      exact ⟨rest, running⟩
  · cases head

theorem perform_other_call {s : Server} {other : Nat} (ne : other ≠ call) :
    (s.perform call oracle current rest).calls other = s.calls other :=
  if_neg ne

theorem perform_own_call {s : Server} :
    (s.perform call oracle current rest).calls call =
      (current.perform s.idleTTL oracle s.entry s.processes rest).call :=
  if_pos rfl

section

variable (sound : Sound s)
include sound

theorem others_stopping (running : s.server.calls call = .running (current :: rest))
    (keeps : s.keepsStopped (.advance call oracle) = true) :
    let next := s.server.perform call oracle current rest
    ∀ other program, other ≠ call → other ∈ s.stopping →
      s.server.calls other = .running program →
      Stopping s.server.entry s.server.processes program →
      Stopping next.entry next.processes program := by
  intro next other program ne mem isRunning stopping
  rcases (of_keeps_stopped running keeps).2 other mem with ⟨held, state, active⟩
  rw [Server.program, isRunning] at state active
  rcases sound.known with ⟨known, entry⟩
  rw [entry] at stopping
  have after := @Stopping.other s.server.idleTTL _ _ _ _ rest _ stopping held state active
  rw [← entry] at after
  exact after

theorem own_stopping (running : s.server.calls call = .running (current :: rest))
    (mem : call ∈ s.stopping) :
    let next := s.server.perform call oracle current rest
    current.removes = false ∧ next.calls call = .running rest ∧
      Stopping next.entry next.processes rest := by
  rcases sound.stopping call mem with ⟨program, isRunning, stopping⟩
  cases running.symm.trans isRunning
  rcases sound.known with ⟨known, entry⟩
  have noRemoval : current.removes = false := by
    have ofStop := stopping.sections current mem_cons_self
    cases current with
    | removeProcess => cases ofStop
    | _ => rfl
  rw [entry] at stopping
  rcases @Stopping.perform s.server.idleTTL oracle _ _ _ _ stopping with
    ⟨written, performed, after⟩
  rw [← entry] at performed
  refine ⟨noRemoval, ?_, ?_⟩
  · rw [perform_own_call, performed]
    rfl
  · simp only [perform, performed]
    exact after

theorem own_waiting (running : s.server.calls call = .running (current :: rest))
    (outside : call ∉ s.stopping) (stops : (s.asked call).any Request.stops = true)
    (left : (s.server.perform call oracle current rest).calls call = .running program) :
    let next := s.server.perform call oracle current rest
    if current.removes then Stopping next.entry next.processes program else Waiting program := by
  have done := next_of_call (perform_own_call.symm.trans left)
  rcases sound.waiting call _ running stops outside with
    none | isSweep | ⟨auto, nested, others, isRemoval, ofStop⟩
  · cases none
  · cases isSweep
    exact perform_sweep done
  · cases isRemoval
    rcases perform_removal done with ⟨free, held, rfl⟩
    exact stopping_of_removed auto held nested free ofStop

theorem perform_sound (running : s.server.calls call = .running (current :: rest))
    (keeps : s.keepsStopped (.advance call oracle) = true) :
    Sound (s.advanced call oracle (s.server.perform call oracle current rest)) := by
  have known : ∃ known, (s.server.perform call oracle current rest).entry = some known := by
    rcases sound.known with ⟨known, entry⟩
    rcases @perform_known s.server.idleTTL oracle known s.server.processes rest current with
      ⟨written, isWritten, _⟩
    rw [← entry] at isWritten
    exact ⟨written, isWritten⟩
  have settled : (s.settled && !(current.marks oracle && s.later call)) = true →
      IsStopped (s.server.perform call oracle current rest).entry
        (s.server.perform call oracle current rest).processes := by
    intro stays
    rcases Bool.and_eq_true_iff.mp stays with ⟨isSettled, unmarked⟩
    have noMark : current.marks oracle = false := by
      apply Bool.eq_false_iff.mpr
      intro marks
      rw [marks, (of_keeps_stopped running keeps).1 marks isSettled] at unmarked
      cases unmarked
    exact (sound.settled isSettled).perform noMark
  have kept := others_stopping sound running keeps
  cases left : (s.server.perform call oracle current rest).calls call with
  | absent =>
    rw [perform_own_call, Outcome.call] at left
    split at left
    · cases left
    · cases left
  | finished err =>
    simp only [Watched.advanced, running, left]
    refine sound.after (fun other ne => ⟨perform_other_call ne, rfl, by simp [ne]⟩) known ?_ kept
      (fun inside => by simp at inside) settled
    intro program isRunning
    cases left.symm.trans isRunning
  | running program =>
    simp only [Watched.advanced, running, left]
    refine sound.after (fun other ne => ⟨perform_other_call ne, rfl, ?_⟩) known ?_ kept ?_ settled
    · dsimp only
      split_ifs
      · simp [ne]
      · exact Iff.rfl
    · intro later isRunning stops outside
      have notYet : call ∉ s.stopping := by
        intro inside
        apply outside
        dsimp only
        split_ifs
        · exact mem_cons_of_mem call inside
        · exact inside
      have waits := own_waiting sound running notYet stops isRunning
      have noRemoval : current.removes = false := by
        apply Bool.eq_false_iff.mpr
        intro removes
        apply outside
        dsimp only at stops ⊢
        rw [removes, stops]
        exact mem_cons_self
      rw [noRemoval] at waits
      exact waits
    · intro mem
      by_cases isStopping : call ∈ s.stopping
      · obtain ⟨_, isLeft, stopping⟩ := @own_stopping _ oracle _ _ _ sound running isStopping
        exact ⟨rest, isLeft, stopping⟩
      dsimp only at mem
      split_ifs at mem with removed
      · rcases Bool.and_eq_true_iff.mp removed with ⟨removes, stops⟩
        have stopping := own_waiting sound running isStopping stops left
        rw [removes] at stopping
        exact ⟨program, left, stopping⟩
      · exact absurd mem isStopping

theorem step_sound (taken : guarded Watched.keepsStopped Watched.step s action = some next) :
    Sound next := by
  rcases guarded_eq_some.mp taken with ⟨keeps, stepped⟩
  cases action with
  | begin call request => exact begin_sound sound stepped
  | exit process => exact exit_sound sound stepped
  | register entry => cases stepped
  | advance call oracle =>
    rcases Option.map_eq_some_iff.mp stepped with ⟨server, advanced, rfl⟩
    rcases step_advance advanced with ⟨running, rfl⟩ | ⟨current, rest, running, rfl⟩
    · exact return_sound sound running
    · exact perform_sound sound running keeps

end

end

def Server.Serves (s : Server) (call process : Nat) : Prop :=
  ∃ rest, s.calls call = .running (.releaseProcess process :: rest)

def ReleasesFirst (program : List Section) : Prop :=
  ∀ process, .releaseProcess process ∉ program.tail

structure Counted (s : Server) : Prop where
  programs : ∀ call program, s.calls call = .running program → ReleasesFirst program
  callers : ∀ process, ∃ callers : List Nat, callers.Nodup ∧
    callers.length ≤ s.processes.inUse process ∧ ∀ call, s.Serves call process → call ∈ callers
  held : ∀ process, s.processes.held = some process → process < s.processes.spawned
  serving : ∀ call process, s.Serves call process → process < s.processes.spawned

def Section.uses : Section → Bool
  | .acquireProcess => true
  | .releaseProcess _ => true
  | .spawn => true
  | _ => false

section

variable {s : Server}

theorem perform_in_use (unused : current.uses = false) :
    (current.perform idleTTL oracle entry processes rest).processes.inUse = processes.inUse := by
  cases current with
  | spawn | acquireProcess | releaseProcess => cases unused
  | setState | setActive | touch | setEnabled | finishRemote =>
    simp [Section.perform, entry_processes]
  | checkEnabled | startSpec | findProcess | invokeSpec | isRunning | isRunningRemote
  | removeProcess | sweep | fail =>
    simp only [Section.perform]
    repeat' split
    all_goals rfl

theorem update_entry_next {change : RegistryEntry → RegistryEntry} {onError : OnError}
    (done : (updateEntry entry processes change onError rest).next = .ok program)
    (mem : current ∈ program) : current ∈ rest := by
  cases entry with
  | some known =>
    cases done
    exact mem
  | none =>
    cases onError with
    | fail => cases done
    | leave count =>
      cases done
      exact mem_of_mem_drop mem

theorem perform_releases (other : current ≠ .acquireProcess)
    (done : (current.perform idleTTL oracle entry processes rest).next = .ok program)
    (mem : .releaseProcess process ∈ program) : .releaseProcess process ∈ rest := by
  cases current with
  | acquireProcess => exact absurd rfl other
  | setState | setActive | touch | setEnabled => exact update_entry_next done mem
  | finishRemote =>
    have inside := update_entry_next done mem
    split_ifs at inside with fails
    · simp at inside
    · simpa using inside
  | removeProcess auto nested =>
    rcases perform_removal done with ⟨_, held, rfl⟩
    rcases mem_append.mp mem with own | later
    · cases held <;> simp [stopRest] at own
    · exact later
  | releaseProcess released =>
    cases done
    split_ifs at mem with idle fails fails
    · simp at mem
    · simpa using mem
    · simp at mem
    · simpa using mem
  | spawn =>
    simp only [Section.perform] at done
    split at done
    · cases done
      simp at mem
    · cases done
      simpa using mem
  | isRunning serverType onDemand | isRunningRemote serverType onDemand =>
    cases serverType <;> simp only [Section.perform] at done <;> repeat' split at done
    all_goals cases done
    all_goals simpa [startProgram, invokeAcquired] using mem
  | sweep =>
    simp only [Section.perform] at done
    repeat' split at done
    all_goals cases done
    all_goals simp [stopProgram] at mem
  | checkEnabled | startSpec | findProcess | invokeSpec | fail =>
    simp only [Section.perform] at done
    repeat' split at done
    all_goals cases done
    all_goals simpa [startProcess] using mem

theorem perform_keeps_used (used : 0 < processes.inUse process)
    (alive : process ∈ processes.alive) :
    process ∈ (current.perform idleTTL oracle entry processes rest).processes.alive := by
  by_cases neutral : current.neutral = true
  · rw [(perform_neutral neutral idleTTL oracle entry processes rest).2.1]
    exact alive
  cases current with
  | spawn =>
    simp only [Section.perform]
    split
    · exact alive
    · exact mem_cons_of_mem _ alive
  | removeProcess auto nested =>
    cases held : processes.held with
    | none =>
      simp only [Section.perform, held]
      exact alive
    | some removed =>
      simp only [Section.perform, held]
      split
      · exact alive
      next free =>
        apply mem_filter.mpr
        refine ⟨alive, decide_eq_true ?_⟩
        rintro rfl
        exact free used
  | _ => exact absurd rfl neutral

theorem serves_after {other : Nat} (first : ReleasesFirst (current :: rest))
    (serves : (s.perform call oracle current rest).Serves other process) :
    (other ≠ call ∧ s.Serves other process) ∨
    (other = call ∧ current = .acquireProcess ∧ s.processes.held = some process) := by
  rcases serves with ⟨later, isRunning⟩
  rcases set_call_cases isRunning with ⟨same, own⟩ | ⟨ne, isOther⟩
  · have done := next_of_call own
    by_cases acquires : current = .acquireProcess
    · subst acquires
      refine .inr ⟨same, rfl, ?_⟩
      cases held : s.processes.held with
      | none =>
        simp only [Section.perform, held] at done
        cases done
      | some acquired =>
        simp only [Section.perform, held] at done
        cases done
        rfl
    · exact absurd (perform_releases acquires done mem_cons_self) (first process)
  · exact .inl ⟨ne, later, isOther⟩

/-- The calls that a process serves are counted. -/
def CountsCallers (s : Server) (process : Nat) : Prop :=
  ∃ callers : List Nat, callers.Nodup ∧ callers.length ≤ s.processes.inUse process ∧
    ∀ call, s.Serves call process → call ∈ callers

section

variable (counted : Counted s) (running : s.calls call = .running (current :: rest))
include counted running

theorem perform_programs {other : Nat}
    (isRunning : (s.perform call oracle current rest).calls other = .running program) :
    ReleasesFirst program := by
  rcases set_call_cases isRunning with ⟨_, own⟩ | ⟨_, isOther⟩
  · have done := next_of_call own
    have first := counted.programs call _ running
    intro process mem
    by_cases acquires : current = .acquireProcess
    · subst acquires
      cases held : s.processes.held with
      | none =>
        simp only [Section.perform, held] at done
        cases done
      | some acquired =>
        simp only [Section.perform, held] at done
        cases done
        exact first process mem
    · exact first process (perform_releases acquires done (mem_of_mem_tail mem))
  · exact counted.programs other program isOther

/-- A step that leaves the count of a process and begins nothing on it. -/
theorem callers_kept
    (inUse : (current.perform s.idleTTL oracle s.entry s.processes rest).processes.inUse process =
      s.processes.inUse process)
    (notAcquired : ¬(current = .acquireProcess ∧ s.processes.held = some process)) :
    CountsCallers (s.perform call oracle current rest) process := by
  rcases counted.callers process with ⟨callers, nodup, bound, complete⟩
  refine ⟨callers, nodup, Nat.le_trans bound (Nat.le_of_eq inUse.symm), ?_⟩
  intro other serves
  rcases serves_after (counted.programs call _ running) serves with ⟨_, before⟩ | ⟨_, acquired⟩
  · exact complete other before
  · exact absurd acquired notAcquired

theorem perform_callers (process : Nat) :
    CountsCallers (s.perform call oracle current rest) process := by
  have first := counted.programs call _ running
  rcases counted.callers process with ⟨callers, nodup, bound, complete⟩
  cases uses : current.uses with
  | false =>
    apply callers_kept counted running
    · rw [perform_in_use uses]
    · rintro ⟨rfl, _⟩
      cases uses
  | true =>
    cases current with
    | acquireProcess =>
      cases held : s.processes.held with
      | none =>
        apply callers_kept counted running
        · simp only [Section.perform, held]
        · simp [held]
      | some acquired =>
        by_cases same : process = acquired
        · have used : (s.perform call oracle .acquireProcess rest).processes.inUse process =
              s.processes.inUse process + 1 := by
            simp only [perform, setCall, Section.perform, held, if_pos same]
            rw [same]
          have complete' : ∀ other,
              (s.perform call oracle .acquireProcess rest).Serves other process →
              other ∈ call :: callers := by
            intro other serves
            rcases serves_after first serves with ⟨_, before⟩ | ⟨rfl, _⟩
            · exact mem_cons_of_mem call (complete other before)
            · exact mem_cons_self
          by_cases counted : call ∈ callers
          · refine ⟨callers, nodup, by omega, ?_⟩
            intro other serves
            rcases mem_cons.mp (complete' other serves) with rfl | member
            · exact counted
            · exact member
          · exact ⟨call :: callers, nodup_cons.mpr ⟨counted, nodup⟩,
              by rw [length_cons]; omega, complete'⟩
        · apply callers_kept counted running
          · simp only [Section.perform, held, if_neg same]
          · rw [held]
            rintro ⟨_, isHeld⟩
            exact same (Option.some.inj isHeld).symm
    | releaseProcess released =>
      by_cases same : process = released
      · subst same
        have member : call ∈ callers := complete call ⟨rest, running⟩
        refine ⟨callers.erase call, nodup.erase call, ?_, ?_⟩
        · simp only [perform, setCall, Section.perform, if_true]
          rw [length_erase_of_mem member]
          omega
        intro other serves
        rcases serves_after first serves with ⟨ne, before⟩ | ⟨_, isOther, _⟩
        · exact (mem_erase_of_ne ne).mpr (complete other before)
        · cases isOther
      · apply callers_kept counted running
        · simp only [Section.perform, if_neg same]
        · simp
    | spawn =>
      by_cases new : process = s.processes.spawned
      · refine ⟨[], nodup_nil, Nat.zero_le _, ?_⟩
        intro other serves
        rcases serves_after first serves with ⟨_, before⟩ | ⟨_, isOther, _⟩
        · exact absurd (counted.serving other process before) (by omega)
        · cases isOther
      apply callers_kept counted running
      · simp only [Section.perform]
        split
        · rfl
        · simp only [if_neg new]
      · simp
    | _ => cases uses

theorem perform_counted : Counted (s.perform call oracle current rest) := by
  have grown : s.processes.spawned ≤
      (s.perform call oracle current rest).processes.spawned ∧
      ∀ process, (s.perform call oracle current rest).processes.held = some process →
        process < (s.perform call oracle current rest).processes.spawned := by
    rcases perform_processes_cases s.idleTTL oracle s.entry s.processes rest current with
      ⟨held, _, spawned⟩ | ⟨process, _, held, _, spawned⟩ | ⟨_, _, held, _, spawned⟩
    · refine ⟨Nat.le_of_eq spawned.symm, fun process isHeld => ?_⟩
      exact Nat.lt_of_lt_of_eq (counted.held process (held.symm.trans isHeld)) spawned.symm
    · refine ⟨Nat.le_of_eq spawned.symm, fun process isHeld => ?_⟩
      cases held.symm.trans isHeld
    refine ⟨Nat.le_of_lt (Nat.lt_of_lt_of_eq (Nat.lt_succ_self _) spawned.symm), ?_⟩
    intro process isHeld
    cases (held.symm.trans isHeld)
    exact Nat.lt_of_lt_of_eq (Nat.lt_succ_self _) spawned.symm
  constructor
  · intro other program isRunning
    exact perform_programs counted running isRunning
  · exact perform_callers counted running
  · exact grown.2
  intro other process serves
  rcases serves_after (counted.programs call _ running) serves with
    ⟨_, before⟩ | ⟨_, _, isHeld⟩
  · exact Nat.lt_of_lt_of_le (counted.serving other process before) grown.1
  · exact Nat.lt_of_lt_of_le (counted.held process isHeld) grown.1

end

theorem set_call_counted (counted : Counted s) {state : Call}
    (first : ∀ program, state = .running program → ∀ process, .releaseProcess process ∉ program) :
    Counted (s.setCall call state) := by
  have before : ∀ other process, (s.setCall call state).Serves other process →
      s.Serves other process := by
    rintro other process ⟨later, isRunning⟩
    rcases set_call_cases isRunning with ⟨_, own⟩ | ⟨_, isOther⟩
    · exact absurd mem_cons_self (first _ own process)
    · exact ⟨later, isOther⟩
  constructor
  · intro other program isRunning
    rcases set_call_cases isRunning with ⟨_, own⟩ | ⟨_, isOther⟩
    · exact fun process mem => first program own process (mem_of_mem_tail mem)
    · exact counted.programs other program isOther
  · intro process
    rcases counted.callers process with ⟨callers, nodup, bound, complete⟩
    exact ⟨callers, nodup, bound,
      fun other serves => complete other (before other process serves)⟩
  · exact counted.held
  · exact fun other process serves => counted.serving other process (before other process serves)

theorem request_releases_nothing (request : Request) (process : Nat) :
    .releaseProcess process ∉ request.program := by
  cases request with
  | setEnabled enabled => cases enabled <;> simp [Request.program]
  | start | stop | restart | invoke | sweepIdle =>
    simp [Request.program, startProgram, stopProgram]

theorem step_counted {next : Server} (counted : Counted s) (taken : step s action = some next) :
    Counted next := by
  cases action with
  | begin call request =>
    obtain ⟨_, rfl⟩ := step_begin taken
    apply set_call_counted counted
    intro program isRunning process
    cases isRunning
    exact request_releases_nothing request process
  | advance call oracle =>
    rcases step_advance taken with ⟨_, rfl⟩ | ⟨current, rest, running, rfl⟩
    · apply set_call_counted counted
      intro program isRunning
      cases isRunning
    · exact perform_counted counted running
  | exit process =>
    obtain rfl := step_exit taken
    exact ⟨counted.programs, counted.callers, counted.held, counted.serving⟩
  | register entry =>
    cases taken
    exact ⟨counted.programs, counted.callers, counted.held, counted.serving⟩

theorem fresh_counted (fresh : Fresh s) : Counted s := by
  have none : ∀ call program, s.calls call ≠ .running program := by
    intro call program isRunning
    rw [fresh.2.2 call] at isRunning
    cases isRunning
  constructor
  · exact fun call program isRunning => absurd isRunning (none call program)
  · intro process
    refine ⟨[], nodup_nil, Nat.zero_le _, ?_⟩
    rintro call ⟨rest, isRunning⟩
    exact absurd isRunning (none call _)
  · intro process held
    rw [fresh.1] at held
    cases held
  · rintro call process ⟨rest, isRunning⟩
    exact absurd isRunning (none call _)

theorem Counted.used (counted : Counted s) (serves : s.Serves call process) :
    0 < s.processes.inUse process := by
  rcases counted.callers process with ⟨callers, _, bound, complete⟩
  exact Nat.lt_of_lt_of_le (length_pos_of_mem (complete call serves)) bound

end

theorem mark_restarts {s : Server} (known : ∃ known, s.entry = some known)
    (marks : current.marks oracle = true) :
    ¬IsStopped (s.perform call oracle current rest).entry
      (s.perform call oracle current rest).processes := by
  rintro ⟨free, written, isWritten, state, active⟩
  rcases known with ⟨known, entry⟩
  cases current with
  | setState marked onError =>
    simp only [perform, entry] at isWritten
    cases isWritten
    simp only [Section.marks, Section.marksState, state] at marks
    cases marks
  | setActive marked onError =>
    simp only [perform, entry] at isWritten
    cases isWritten
    rw [show marked = false from active] at marks
    cases marks
  | finishRemote =>
    simp only [perform, entry] at isWritten
    cases isWritten
    cases state
  | spawn =>
    have spawns : oracle.spawnFails = false := by
      simpa [Section.marks, Section.marksState, Section.marksActive, Section.marksHeld] using marks
    simp only [perform, Section.perform, spawns] at free
    cases free
  | _ => cases marks

def ServedBehindTouch (before current : Section) : Prop :=
  current = .finishRemote → before = .touch .fail

/-- A call is served right after it has touched the server, no call is missing from `begun`, and a
remote server that serves one is not idle and not being stopped by a sweep. -/
structure Sheltered (s : Watched) : Prop where
  known : ∃ known, s.server.entry = some known
  touched : ∀ call program, s.server.calls call = .running program →
    program.IsChain ServedBehindTouch
  begun : ∀ call, s.server.calls call ≠ .absent → call ∈ s.begun
  served : ∀ call, s.serves call = true →
    (∀ known, s.server.entry = some known → known.state ≠ .idle) ∧
      ∀ other, s.sweeps other = false

theorem perform_touched (touched : (current :: rest).IsChain ServedBehindTouch)
    (done : (current.perform idleTTL oracle (some known) processes rest).next = .ok program) :
    (current :: program).IsChain ServedBehindTouch := by
  by_cases isTouch : current = .touch .fail
  · subst isTouch
    cases done
    exact touched
  have behind : ∀ before, (before :: rest).IsChain ServedBehindTouch := by
    intro before
    cases rest with
    | nil => exact .singleton before
    | cons first others =>
      rw [isChain_cons_cons] at touched ⊢
      exact ⟨fun served => absurd (touched.1 served) isTouch, touched.2⟩
  have none : ∀ before, [before].IsChain ServedBehindTouch := .singleton
  cases current with
  | isRunning serverType onDemand | isRunningRemote serverType onDemand =>
    cases serverType <;> simp only [Section.perform] at done <;> repeat' split at done
    all_goals cases done
    all_goals simp [isChain_cons_cons, ServedBehindTouch, startProgram, invokeAcquired, behind]
  | removeProcess auto nested =>
    rcases perform_removal done with ⟨_, held, rfl⟩
    cases held <;> simp [stopRest, isChain_cons_cons, ServedBehindTouch, behind]
  | releaseProcess | finishRemote =>
    cases done
    split_ifs <;> simp [isChain_cons_cons, ServedBehindTouch, behind, none]
  | setState | setActive | touch | setEnabled =>
    cases done
    exact behind _
  | spawn | sweep | checkEnabled | startSpec | findProcess | invokeSpec | acquireProcess | fail =>
    simp only [Section.perform] at done
    repeat' split at done
    all_goals cases done
    all_goals simp [isChain_cons_cons, ServedBehindTouch, startProcess, stopProgram, behind, none]

theorem perform_not_idle (notIdle : known.state ≠ .idle) (spares : current.idles = false) :
    ∃ written, (current.perform idleTTL oracle (some known) processes rest).entry = some written ∧
      written.state ≠ .idle := by
  cases current with
  | setState state onError =>
    exact ⟨{ known with state := state }, rfl, by simpa [Section.idles] using spares⟩
  | setActive active onError => exact ⟨{ known with active := active }, rfl, notIdle⟩
  | touch onError => exact ⟨{ known with lastUsed := some oracle.now }, rfl, notIdle⟩
  | setEnabled enabled => exact ⟨{ known with enabled := enabled }, rfl, notIdle⟩
  | finishRemote => cases spares
  | spawn | removeProcess | checkEnabled | startSpec | findProcess | invokeSpec | isRunning
  | isRunningRemote | acquireProcess | releaseProcess | sweep | fail =>
    refine ⟨known, ?_, notIdle⟩
    simp only [Section.perform]
    repeat' split
    all_goals rfl

theorem perform_idle_sweep (notIdle : known.state ≠ .idle) :
    Section.sweep.perform idleTTL oracle (some known) processes [] =
      ⟨some known, processes, .ok []⟩ := by
  simp only [Section.perform, notIdle, false_and, and_false, if_false]
  split <;> rfl

section

variable {next : Watched}

theorem advance_cases (taken : s.step (.advance call oracle) = some next) :
    next.asked = s.asked ∧ next.begun = s.begun ∧
    ((s.server.calls call = .running [] ∧ next.server = s.server.setCall call (.finished none)) ∨
      ∃ current rest, s.server.calls call = .running (current :: rest) ∧
        next.server = s.server.perform call oracle current rest) := by
  rcases Option.map_eq_some_iff.mp taken with ⟨server, advanced, rfl⟩
  rcases step_advance advanced with ⟨running, rfl⟩ | ⟨current, rest, running, rfl⟩
  · simp only [Watched.advanced, running]
    split_ifs <;> exact ⟨rfl, rfl, .inl ⟨trivial, rfl⟩⟩
  · simp only [Watched.advanced, running]
    exact ⟨trivial, trivial, .inr ⟨current, rest, rfl, rfl⟩⟩

theorem sweep_perform (notIdle : known.state ≠ .idle) (entry : s.server.entry = some known)
    (asked : s.asked call = some .sweepIdle) (begins : s.sweeps call = false)
    (running : s.server.calls call = .running (current :: rest)) :
    current.perform s.server.idleTTL oracle s.server.entry s.server.processes rest =
      ⟨s.server.entry, s.server.processes, .ok []⟩ := by
  have isSweep : current :: rest = [.sweep] := by
    simpa [Watched.sweeps, asked, program, running] using begins
  cases isSweep
  rw [entry]
  exact perform_idle_sweep notIdle

/-- A step of a sweep leaves a remote server that serves a call as it is. -/
theorem Sheltered.sweep_step (sheltered : Sheltered s) {served : Nat}
    (serves : s.serves served = true) (asked : s.asked call = some .sweepIdle)
    (taken : s.step (.advance call oracle) = some next) :
    next.server.entry = s.server.entry ∧ next.server.processes = s.server.processes := by
  obtain ⟨notIdle, noSweep⟩ := sheltered.served served serves
  obtain ⟨known, entry⟩ := sheltered.known
  rcases advance_cases taken with ⟨_, _, ⟨_, server⟩ | ⟨current, rest, running, server⟩⟩
  · rw [server]
    exact ⟨rfl, rfl⟩
  have same := @sweep_perform call oracle known current rest s (notIdle known entry) entry asked
    (noSweep call) running
  rw [server, perform, same]
  exact ⟨rfl, rfl⟩

theorem initial_sheltered (initial : s.Initial) : Sheltered s := by
  have absent := initial.fresh.2.2
  constructor
  · exact initial.known
  · intro call program running
    rw [absent call] at running
    cases running
  · intro call begun
    exact absurd (absent call) begun
  · intro call serves
    rw [Watched.serves, program, absent call] at serves
    cases serves

theorem request_touched (request : Request) : request.program.IsChain ServedBehindTouch := by
  cases request with
  | setEnabled enabled =>
    cases enabled <;> simp [Request.program, isChain_cons_cons, ServedBehindTouch]
  | start | stop | restart | invoke | sweepIdle =>
    simp [Request.program, startProgram, stopProgram, isChain_cons_cons, ServedBehindTouch]

theorem request_serves_nothing (request : Request) :
    request.program.head? ≠ some .finishRemote := by
  cases request with
  | setEnabled enabled => cases enabled <;> simp [Request.program]
  | start | stop | restart | invoke | sweepIdle =>
    simp [Request.program, startProgram, stopProgram]

/-- What a step of one call has to keep, apart from what the other calls are. -/
theorem Sheltered.after (sheltered : Sheltered s)
    (others : ∀ other, other ≠ call →
      next.server.calls other = s.server.calls other ∧ next.asked other = s.asked other)
    (begun : ∀ other ∈ s.begun, other ∈ next.begun) (ownBegun : call ∈ next.begun)
    (known : ∃ known, next.server.entry = some known)
    (touched : ∀ program, next.server.calls call = .running program →
      program.IsChain ServedBehindTouch)
    (own : next.serves call = true →
      (∀ known, next.server.entry = some known → known.state ≠ .idle) ∧ next.sweeps call = false ∧
        ∀ sweeper, s.sweeps sweeper = false)
    (kept : ∀ other, other ≠ call → s.serves other = true →
      (∀ known, next.server.entry = some known → known.state ≠ .idle) ∧ next.sweeps call = false) :
    Sheltered next := by
  constructor
  · exact known
  · intro other program running
    by_cases same : other = call
    · exact touched program (same ▸ running)
    · exact sheltered.touched other program ((others other same).1.symm.trans running)
  · intro other started
    by_cases same : other = call
    · rw [same]
      exact ownBegun
    · rw [(others other same).1] at started
      exact begun other (sheltered.begun other started)
  intro other serves
  have spared : (∀ known, next.server.entry = some known → known.state ≠ .idle) ∧
      next.sweeps call = false ∧ ∀ sweeper, s.sweeps sweeper = false := by
    by_cases same : other = call
    · exact own (same ▸ serves)
    have before : s.serves other = true := by
      simpa only [Watched.serves, program, others other same] using serves
    obtain ⟨notIdle, ownSweep⟩ := kept other same before
    exact ⟨notIdle, ownSweep, (sheltered.served other before).2⟩
  refine ⟨spared.1, ?_⟩
  intro sweeper
  by_cases same : sweeper = call
  · rw [same]
    exact spared.2.1
  · rw [← spared.2.2 sweeper]
    simp only [Watched.sweeps, program, others sweeper same]

theorem begin_sheltered (sheltered : Sheltered s) {request : Request}
    (taken : s.step (.begin call request) = some next) : Sheltered next := by
  rcases Option.map_eq_some_iff.mp taken with ⟨server, begun, rfl⟩
  obtain ⟨_, rfl⟩ := step_begin begun
  have own : (s.server.setCall call (.running request.program)).program call =
      request.program := by
    simp only [program, setCall, if_true]
  refine sheltered.after (fun other ne => ⟨if_neg ne, if_neg ne⟩)
    (fun _ => mem_cons_of_mem call) mem_cons_self sheltered.known ?_ ?_ ?_
  · intro program running
    rcases set_call_cases running with ⟨_, isOwn⟩ | ⟨ne, _⟩
    · cases isOwn
      exact request_touched request
    · exact absurd rfl ne
  · intro serves
    rw [Watched.serves, own, beq_iff_eq] at serves
    exact absurd serves (request_serves_nothing request)
  · intro other _ serves
    refine ⟨(sheltered.served other serves).1, ?_⟩
    simp only [Watched.sweeps, own, if_true]
    cases request <;> rfl

theorem Sheltered.not_begun (sheltered : Sheltered s) {property : Nat → Bool}
    (none : s.begun.any property = false) (call : Nat)
    (nonempty : property call = true → s.server.program call ≠ []) : property call = false := by
  apply Bool.eq_false_iff.mpr
  intro holds
  have begun : call ∈ s.begun := by
    apply sheltered.begun
    intro absent
    apply nonempty holds
    rw [program, absent]
  have found : s.begun.any property = true := any_eq_true.mpr ⟨call, begun, holds⟩
  rw [none] at found
  cases found

theorem Watched.sweeps_nonempty (sweeps : s.sweeps call = true) : s.server.program call ≠ [] := by
  simp only [Watched.sweeps, Bool.and_eq_true, bne_iff_ne] at sweeps
  exact sweeps.2

theorem Watched.serves_nonempty (serves : s.serves call = true) : s.server.program call ≠ [] := by
  intro isNil
  rw [Watched.serves, isNil] at serves
  cases serves

theorem Watched.not_sweeps_nil (isNil : s.server.program call = []) : s.sweeps call = false := by
  simp [Watched.sweeps, isNil]

section

variable (sheltered : Sheltered s)
include sheltered

/-- The call that takes a step is served behind it only when it has just touched the server. -/
theorem newly_served (running : s.server.calls call = .running (current :: rest))
    (spares : s.sparesServed (.advance call oracle) = true)
    (serves : ((s.server.perform call oracle current rest).program call).head? =
      some .finishRemote) :
    current = .touch .fail ∧ (∀ known, s.server.entry = some known → known.state ≠ .idle) ∧
    ∀ other, s.sweeps other = false := by
  obtain ⟨known, entry⟩ := sheltered.known
  obtain ⟨later, isLater⟩ := running_of_head serves
  rw [perform_own_call, entry] at isLater
  have done := next_of_call isLater
  have chain := perform_touched (sheltered.touched call _ running) done
  obtain rfl := (isChain_cons_cons.mp chain).1 rfl
  cases done
  simp only [Watched.sparesServed, running, head?_cons, entry, Option.all_some,
    bne_self_eq_false, Bool.false_or, Bool.and_eq_true, bne_iff_ne, Bool.not_eq_true'] at spares
  refine ⟨rfl, ?_, ?_⟩
  · intro other isOther
    cases entry.symm.trans isOther
    exact spares.1.1
  · intro other
    exact sheltered.not_begun spares.1.2 other Watched.sweeps_nonempty

theorem still_served (running : s.server.calls call = .running (current :: rest))
    (spares : s.sparesServed (.advance call oracle) = true) {other : Nat} (ne : other ≠ call)
    (serves : s.serves other = true) : current.idles = false := by
  simp only [Watched.sparesServed, running, Bool.and_eq_true, Bool.or_eq_true,
    Bool.not_eq_true'] at spares
  rcases spares.2 with spared | unserved
  · exact spared
  have unserved := sheltered.not_begun unserved other fun both =>
    Watched.serves_nonempty (Bool.and_eq_true_iff.mp both).2
  rw [serves, Bool.and_true, bne_eq_false_iff_eq] at unserved
  exact absurd unserved ne

theorem advance_sheltered (spares : s.sparesServed (.advance call oracle) = true)
    (taken : s.step (.advance call oracle) = some next) : Sheltered next := by
  obtain ⟨known, entry⟩ := sheltered.known
  obtain ⟨asked, begun, cut⟩ := advance_cases taken
  have wasBegun : call ∈ next.begun := by
    rw [begun]
    apply sheltered.begun
    intro absent
    rcases cut with ⟨running, _⟩ | ⟨_, _, running, _⟩ <;> simp [absent] at running
  have others : ∀ other, other ≠ call →
      next.server.calls other = s.server.calls other ∧ next.asked other = s.asked other := by
    intro other ne
    rw [asked]
    rcases cut with ⟨_, server⟩ | ⟨current, rest, _, server⟩
    · exact ⟨server ▸ if_neg ne, rfl⟩
    · exact ⟨server ▸ perform_other_call ne, rfl⟩
  have stillBegun : ∀ other ∈ s.begun, other ∈ next.begun := fun _ mem => begun ▸ mem
  rcases cut with ⟨running, server⟩ | ⟨current, rest, running, server⟩
  · have returned : next.server.program call = [] := by
      simp only [server, program, setCall, if_true]
    refine sheltered.after others stillBegun wasBegun (server ▸ sheltered.known) ?_ ?_ ?_
    · intro program isRunning
      simp only [server, setCall, if_true] at isRunning
      cases isRunning
    · intro serves
      exact absurd returned (Watched.serves_nonempty serves)
    · intro other _ serves
      rw [server]
      exact ⟨(sheltered.served other serves).1, Watched.not_sweeps_nil (server ▸ returned)⟩
  have performed : next.server.entry = (current.perform s.server.idleTTL oracle
      (some known) s.server.processes rest).entry := by
    rw [server, perform, entry]
    rfl
  refine sheltered.after others stillBegun wasBegun ?_ ?_ ?_ ?_
  · obtain ⟨written, isWritten, _⟩ := @perform_known s.server.idleTTL oracle known
      s.server.processes rest current
    exact ⟨written, performed.trans isWritten⟩
  · intro program isRunning
    rw [server, perform_own_call, entry] at isRunning
    have done := next_of_call isRunning
    exact (perform_touched (sheltered.touched call _ running) done).tail
  · intro serves
    rw [Watched.serves, server, beq_iff_eq] at serves
    obtain ⟨rfl, notIdle, noSweep⟩ := newly_served sheltered running spares serves
    refine ⟨?_, ?_, noSweep⟩
    · intro written isWritten
      rw [performed] at isWritten
      cases isWritten
      exact notIdle known entry
    · have notAsked : s.asked call ≠ some .sweepIdle := by
        intro isAsked
        have begins := noSweep call
        simp [Watched.sweeps, program, running, isAsked] at begins
      simp [Watched.sweeps, asked, notAsked]
  intro other ne serves
  obtain ⟨notIdle, noSweep⟩ := sheltered.served other serves
  constructor
  · have spared := still_served sheltered running spares ne serves
    obtain ⟨written, isWritten, stays⟩ := @perform_not_idle s.server.idleTTL oracle known
      s.server.processes current rest (notIdle known entry) spared
    intro later isLater
    rw [performed, isWritten] at isLater
    cases isLater
    exact stays
  by_cases isAsked : s.asked call = some .sweepIdle
  · apply Watched.not_sweeps_nil
    rw [server, program, perform_own_call, sweep_perform (notIdle known entry) entry
      isAsked (noSweep call) running]
    rfl
  · simp [Watched.sweeps, asked, isAsked]

end

theorem step_sheltered (sheltered : Sheltered s)
    (taken : guarded Watched.sparesServed Watched.step s action = some next) : Sheltered next := by
  obtain ⟨spares, taken⟩ := guarded_eq_some.mp taken
  cases action with
  | begin call request => exact begin_sheltered sheltered taken
  | advance call oracle => exact advance_sheltered sheltered spares taken
  | register entry => cases taken
  | exit process =>
    rcases Option.map_eq_some_iff.mp taken with ⟨server, exited, rfl⟩
    obtain rfl := step_exit exited
    exact ⟨sheltered.known, sheltered.touched, sheltered.begun, sheltered.served⟩

end

/-- The server stays as a stop has left it while no earlier call writes that it runs, and the first
such write ends that. No step kills a process in use, and no sweep changes a remote server that
serves a call and is not shown as idle. -/
theorem stopped_server_stays_stopped {s t u : Watched}
    (kept : Reachable Watched.Initial (guarded Watched.keepsStopped Watched.step) s)
    (reachable : Reachable Watched.Initial Watched.step t)
    (spared : Reachable Watched.Initial (guarded Watched.sparesServed Watched.step) u) :
    (s.settled = true → IsStopped s.server.entry s.server.processes) ∧
    (∀ call oracle current rest next, s.server.calls call = .running (current :: rest) →
      s.settled = true → current.marks oracle = true → s.later call = false →
      s.step (.advance call oracle) = some next →
      next.settled = true ∧ ¬IsStopped next.server.entry next.server.processes) ∧
    (∀ process, (0 < t.server.processes.inUse process ∨ ∃ call, t.server.Serves call process) →
      ∀ call oracle next, t.step (.advance call oracle) = some next →
        process ∈ t.server.processes.alive → process ∈ next.server.processes.alive) ∧
    ∀ served call oracle next, u.serves served = true → u.asked call = some .sweepIdle →
      u.step (.advance call oracle) = some next →
      next.server.entry = u.server.entry ∧ next.server.processes = u.server.processes := by
  have sound : Sound s :=
    kept.invariant initial_sound fun sound taken => step_sound sound taken
  have counted : Counted t.server := by
    let invariant (t : Watched) : Prop := Counted t.server
    apply reachable.invariant
    · exact fun initial => fresh_counted initial.fresh
    intro before action after counted taken
    cases action with
    | register entry => cases taken
    | begin call request =>
      rcases Option.map_eq_some_iff.mp taken with ⟨server, begun, rfl⟩
      exact step_counted counted begun
    | exit process =>
      rcases Option.map_eq_some_iff.mp taken with ⟨server, exited, rfl⟩
      exact step_counted counted exited
    | advance call oracle =>
      obtain ⟨_, _, server⟩ := advance_cases taken
      apply step_counted counted
      show step before.server (.advance call oracle) = some after.server
      rcases server with ⟨running, server⟩ | ⟨current, rest, running, server⟩
      · simp only [step, running, server]
      · simp only [step, running, server, perform]
  have sheltered : Sheltered u :=
    spared.invariant initial_sheltered fun sheltered taken => step_sheltered sheltered taken
  refine ⟨sound.settled, ?_, ?_, ?_⟩
  · intro call oracle current rest next running settled marks earlier taken
    rcases Option.map_eq_some_iff.mp taken with ⟨server, advanced, rfl⟩
    simp only [step, running] at advanced
    cases advanced
    have restarted := @mark_restarts call _ _ rest _ sound.known marks
    simp only [Watched.advanced, running, settled, earlier, Bool.and_false, Bool.not_false,
      Bool.and_self, true_and]
    exact restarted
  · intro process used call oracle next taken alive
    have inUse : 0 < t.server.processes.inUse process := by
      rcases used with inUse | ⟨other, serves⟩
      · exact inUse
      · exact counted.used serves
    obtain ⟨_, _, ⟨_, server⟩ | ⟨current, rest, _, server⟩⟩ := advance_cases taken
    · rw [server]
      exact alive
    · rw [server]
      exact perform_keeps_used inUse alive
  · intro served call oracle next serves asked taken
    exact sheltered.sweep_step serves asked taken

def newRemote : Watched where
  server := { newServer with entry := some { serverType := .remote } }
  asked := fun _ => none
  stopping := []
  settled := false
  later := fun _ => false
  begun := []

theorem new_remote_initial : newRemote.Initial :=
  ⟨⟨rfl, rfl, fun _ => rfl⟩, ⟨_, rfl⟩, rfl, rfl, rfl⟩

def invokeThenStop : List Action :=
  [.begin 0 (.invoke true)] ++ List.replicate 14 (.advance 0 {}) ++
    [.begin 1 (.stop false)] ++ List.replicate 4 (.advance 1 {})

def sweepWhileInvoked : List Action :=
  [.begin 0 (.invoke true)] ++ List.replicate 11 (.advance 0 {}) ++
    [.begin 1 .sweepIdle]

theorem stopped_server_stays_stopped_here :
    (∃ s, Reachable Watched.Initial (guarded Watched.keepsStopped Watched.step) s ∧
      IsStopped s.server.entry s.server.processes) ∧
    ∃ u : Watched, u.serves 0 = true ∧ ∀ next, u.step (.advance 1 { now := 1000 }) = some next →
      next.server.entry = u.server.entry := by
  have ran : (runActions (guarded Watched.keepsStopped Watched.step) newRemote
      invokeThenStop).map (·.settled) = some true := by decide
  rcases reachable_of_run new_remote_initial ran with ⟨s, reachable, settled⟩
  have first : Reachable Watched.Initial Watched.step newRemote := .start new_remote_initial
  have swept : (runActions (guarded Watched.sparesServed Watched.step) newRemote
      sweepWhileInvoked).map (fun u =>
        u.serves 0 && u.asked 1 == some .sweepIdle) = some true := by decide
  rcases reachable_of_run new_remote_initial swept with ⟨u, spared, tested⟩
  rcases Bool.and_eq_true_iff.mp tested with ⟨serves, asked⟩
  have stays := stopped_server_stays_stopped reachable first spared
  refine ⟨⟨s, reachable, stays.1 settled⟩, u, serves, ?_⟩
  intro next taken
  exact (stays.2.2.2 0 1 _ next serves (beq_iff_eq.mp asked) taken).1

def stopWhileInvoked : List Action :=
  [.begin 0 (.invoke true)] ++ List.replicate 11 (.advance 0 {}) ++
    [.begin 1 (.stop false)] ++ List.replicate 4 (.advance 1 {}) ++ [.advance 0 {}]

def sweepAfterFirstEnd : List Action :=
  [.begin 0 (.invoke true)] ++ List.replicate 11 (.advance 0 {}) ++
    [.begin 1 (.invoke true)] ++ List.replicate 6 (.advance 1 {}) ++ [.advance 0 {}] ++
    [.begin 2 .sweepIdle] ++ List.replicate 3 (.advance 2 { now := 420 })

/-- The end of an invocation shows a stopped server as idle, and a remote server as idle that serves
another one, so that the sweep stops it. -/
theorem invocation_outlives_stop :
    (¬ ∀ s, Reachable Watched.Initial Watched.step s → s.settled = true →
      IsStopped s.server.entry s.server.processes) ∧
    ∃ s, Reachable Watched.Initial Watched.step s ∧
      (s.serves 1 && decide (s.server.entry.map (·.state) = some .stoppedAuto)) = true := by
  constructor
  · intro claimed
    have ran : (runActions Watched.step newRemote stopWhileInvoked).map (fun s =>
        s.settled && decide (s.server.entry.map (·.state) = some .idle)) = some true := by decide
    rcases reachable_of_run new_remote_initial ran with ⟨s, reachable, tested⟩
    rcases Bool.and_eq_true_iff.mp tested with ⟨settled, idle⟩
    rcases claimed s reachable settled with ⟨_, known, entry, stopped, _⟩
    rw [entry] at idle
    have isIdle : known.state = .idle := Option.some.inj (of_decide_eq_true idle)
    rw [isIdle] at stopped
    cases stopped
  · have ran : (runActions Watched.step newRemote sweepAfterFirstEnd).map (fun s =>
        s.serves 1 && decide (s.server.entry.map (·.state) = some .stoppedAuto)) = some true := by
      decide
    exact reachable_of_run new_remote_initial ran

end RuneTerminal.Plugins
