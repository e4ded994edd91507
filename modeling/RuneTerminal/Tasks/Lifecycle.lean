import RuneTerminal.Tasks.Store
import Mathlib.Data.List.Chain

/-! Every transaction changes the status of a task together with one event that starts where the
last one ended. The updates fix the status and the owner that a change starts from. -/

namespace RuneTerminal.Tasks

open Go.Strings (trimSpace)
open Kit List

/-- The rows of `task_events` of a task, in the order of their ids. -/
def Database.eventsOf (db : Database) (taskID : String) : List TaskEvent :=
  db.events.filter (·.taskID == taskID)

/-- From nothing to pending first, then each event from where the last one
ended, and the last one ends in the given status. -/
structure EventChain (events : List TaskEvent) (status : TaskStatus) : Prop where
  first : ∃ event, events.head? = some event ∧ event.fromStatus = none ∧
    event.toStatus = .pending
  linked : events.IsChain fun event next => next.fromStatus = some event.toStatus
  last : ∃ event, events.getLast? = some event ∧ event.toStatus = status

def OwnerFits (task : Task) : Prop :=
  (task.status = .pending → task.lockedBy = none) ∧
    (task.status = .running → ∃ workerID, task.lockedBy = some workerID)

structure DatabaseConsistent (db : Database) : Prop where
  ids : (db.tasks.map Task.id).Nodup
  chains : ∀ task ∈ db.tasks, EventChain (db.eventsOf task.id) task.status
  known : ∀ event ∈ db.events, event.taskID ∈ db.tasks.map Task.id
  owners : ∀ task ∈ db.tasks, OwnerFits task

variable {event : TaskEvent} {db next : Database} {id workerID message : String}
  {format : Instant → String} {now : Instant} {updates : List Task} {limit : Int} {s : State}
  {set : Task → Task} {row : Task}

theorem EventChain.extend {events : List TaskEvent} {status : TaskStatus}
    (chain : EventChain events status) (continues : event.fromStatus = some status) :
    EventChain (events ++ [event]) event.toStatus where
  first := by
    obtain ⟨head, found, created⟩ := chain.first
    exact ⟨head, by simp [head?_append, found], created⟩
  linked := by
    rw [isChain_append]
    refine ⟨chain.linked, isChain_singleton _, ?_⟩
    intro before isLast next isNext
    obtain ⟨last, found, ends⟩ := chain.last
    rw [found] at isLast
    cases isLast
    cases isNext
    rw [continues, ends]
  last := ⟨event, by simp, rfl⟩

theorem events_of_log (taskID : String) : (db.logEventTx event).eventsOf taskID = if event.taskID =
    taskID then db.eventsOf taskID ++ [event] else db.eventsOf taskID := by
  unfold Database.eventsOf Database.logEventTx
  split_ifs with same
  · simp [same]
  · simp [same]

structure LoggedUpdate (matched : Task → Bool) (set : Task → Task) (event : TaskEvent) : Prop where
  matchesTask : ∀ row, matched row = true →
    row.id = event.taskID ∧ event.fromStatus = some row.status
  keepsID : ∀ row, (set row).id = row.id
  setsStatus : ∀ row, (set row).status = event.toStatus
  ownerFits : ∀ row, OwnerFits (set row)

variable {matched : Task → Bool} {task : Task}

theorem mem_update : task ∈ (db.update matched set).2.tasks ↔
    ∃ row ∈ db.tasks, task = if matched row then set row else row := by
  unfold Database.update
  simp only [mem_map, eq_comm]

theorem update_ids (keepsID : ∀ row, (set row).id = row.id) :
    (db.update matched set).2.tasks.map Task.id = db.tasks.map Task.id := by
  unfold Database.update
  rw [map_map]
  apply map_congr_left
  intro row _
  dsimp only [Function.comp]
  split_ifs
  · exact keepsID row
  · rfl

section

variable (inv : DatabaseConsistent db) (logged : LoggedUpdate matched set event)
  (affected : (db.update matched set).1 ≠ 0)
include inv logged affected

theorem LoggedUpdate.other_task (mem : row ∈ db.tasks) (unmatched : ¬matched row = true) :
    event.taskID ≠ row.id := by
  obtain ⟨hit, hitMember, hitMatched⟩ :=
    countP_pos_iff.mp (Nat.pos_of_ne_zero affected)
  intro same
  have hitTask := (logged.matchesTask hit hitMatched).1
  have sameRow : row = hit :=
    inj_on_of_nodup_map inv.ids mem hitMember (same.symm.trans hitTask.symm)
  rw [sameRow] at unmatched
  exact unmatched hitMatched

theorem LoggedUpdate.consistent :
    DatabaseConsistent ((db.update matched set).2.logEventTx event) := by
  obtain ⟨hit, hitMember, hitMatched⟩ :=
    countP_pos_iff.mp (Nat.pos_of_ne_zero affected)
  have ids : (db.update matched set).2.tasks.map Task.id = db.tasks.map Task.id :=
    update_ids logged.keepsID
  refine ⟨?_, ?_, ?_, ?_⟩
  · change ((db.update matched set).2.tasks.map Task.id).Nodup
    rw [ids]
    exact inv.ids
  · intro task mem
    obtain ⟨row, rowMember, rfl⟩ := mem_update.mp mem
    have chain := inv.chains row rowMember
    rw [events_of_log]
    by_cases rowMatched : matched row = true
    · obtain ⟨sameTask, continues⟩ := logged.matchesTask row rowMatched
      rw [if_pos rowMatched, logged.keepsID, if_pos sameTask.symm, logged.setsStatus]
      exact chain.extend continues
    · have otherTask := logged.other_task inv affected rowMember rowMatched
      rw [if_neg rowMatched, if_neg otherTask]
      exact chain
  · intro other mem
    change other.taskID ∈ (db.update matched set).2.tasks.map Task.id
    rw [ids]
    change other ∈ db.events ++ [event] at mem
    rw [mem_append, mem_singleton] at mem
    rcases mem with mem | rfl
    · exact inv.known other mem
    · rw [← (logged.matchesTask hit hitMatched).1]
      exact mem_map.mpr ⟨hit, hitMember, rfl⟩
  · intro task mem
    obtain ⟨row, rowMember, rfl⟩ := mem_update.mp mem
    split_ifs
    · exact logged.ownerFits row
    · exact inv.owners row rowMember

end

theorem claim_logged (pending : task.status = .pending) (id : String) (now : Instant) :
    LoggedUpdate (claimable task.id) (lockRow id now) (claimedEvent task id) where
  matchesTask := by
    intro row matched
    simp only [claimable, Bool.and_eq_true, beq_iff_eq] at matched
    obtain ⟨⟨sameID, rowPending⟩, _⟩ := matched
    exact ⟨sameID, by rw [claimedEvent, pending, rowPending]⟩
  keepsID := fun _ => rfl
  setsStatus := fun _ => rfl
  ownerFits := fun _ => ⟨nofun, fun _ => ⟨id, rfl⟩⟩

theorem owned_running_spec (matched : ownedRunning id workerID row = true) :
    row.id = id ∧ row.status = .running ∧ row.lockedBy = some workerID := by
  simp only [ownedRunning, Bool.and_eq_true, beq_iff_eq] at matched
  exact ⟨matched.1.1, matched.1.2, matched.2⟩

variable {nextStatus : TaskStatus}

theorem finish_logged (running : task.status = .running) (id : String)
    (final : nextStatus = .done ∨ nextStatus = .failed) (errorMessage : String) (now : Instant) :
    LoggedUpdate (ownedRunning task.id id) (finishRow nextStatus errorMessage now)
      (finishedEvent task id nextStatus errorMessage) where
  matchesTask := by
    intro row matched
    obtain ⟨sameID, rowRunning, _⟩ := owned_running_spec matched
    exact ⟨sameID, by rw [finishedEvent, running, rowRunning]⟩
  keepsID := fun _ => rfl
  setsStatus := fun _ => rfl
  ownerFits := by
    intro row
    rcases final with rfl | rfl
    · exact ⟨nofun, nofun⟩
    · exact ⟨nofun, nofun⟩

theorem retry_logged (task : Task) (id reason : String) (now : Instant) :
    LoggedUpdate (ownedRunning task.id id) (retryRow task reason now)
      (retryEvent task id reason) where
  matchesTask := by
    intro row matched
    obtain ⟨sameID, rowRunning, _⟩ := owned_running_spec matched
    exact ⟨sameID, by rw [retryEvent, rowRunning]⟩
  keepsID := fun _ => rfl
  setsStatus := fun _ => rfl
  ownerFits := fun _ => ⟨fun _ => rfl, nofun⟩

theorem select_ready_pending {limit : Nat} (mem : task ∈ selectReady format now limit db) :
    task.status = .pending := by
  have sorted := mem_of_mem_take mem
  rw [mem_mergeSort, mem_filter] at sorted
  have ready := sorted.2
  simp only [Bool.and_eq_true, beq_iff_eq] at ready
  exact ready.1.1

section

variable (invariant : Database → Prop)
  (preserved : ∀ current task, invariant current → task.status = .pending →
    (current.update (claimable task.id) (lockRow workerID now)).1 ≠ 0 →
    invariant ((current.update (claimable task.id) (lockRow workerID now)).2.logEventTx
      (claimedEvent task workerID)))

include preserved

theorem claim_loop_induction {candidates : List Task}
    (pending : ∀ task ∈ candidates, task.status = .pending) {claimed : List Task}
    (done : candidates.foldlM (claimCandidate workerID now) (claimed, db) = .ok (updates, next))
    (initially : invariant db) : invariant next := by
  induction candidates generalizing db claimed with
  | nil =>
    cases done
    exact initially
  | cons task rest ih =>
    rw [foldlM_cons] at done
    have restPending : ∀ other ∈ rest, other.status = .pending := fun other mem =>
      pending other (mem_cons_of_mem _ mem)
    unfold claimCandidate at done
    dsimp only at done
    split_ifs at done with unmatched several
    · exact ih restPending done initially
    · cases done
    · exact ih restPending done
        (preserved db task initially (pending task mem_cons_self) unmatched)

theorem claim_ready_induction
    (done : claimReadyTasks format workerID limit now db = .ok (updates, next))
    (initially : invariant db) : invariant next := by
  unfold claimReadyTasks at done
  split_ifs at done with none
  · cases done
    exact initially
  · exact claim_loop_induction invariant preserved
      (fun _ mem => select_ready_pending mem) done
      initially

end

theorem final_tx_cases (done : finalTx task id nextStatus message now db = .ok next) :
    (schedulesRetry task nextStatus = true ∧
      (db.update (ownedRunning task.id id) (retryRow task message now)).1 ≠ 0 ∧
      next =
        (db.update (ownedRunning task.id id) (retryRow task message now)).2.logEventTx
          (retryEvent task id message)) ∨
    ∃ errorMessage,
      (db.update (ownedRunning task.id id) (finishRow nextStatus errorMessage now)).1 ≠ 0 ∧
      next =
        (db.update (ownedRunning task.id id) (finishRow nextStatus errorMessage now)).2.logEventTx
          (finishedEvent task id nextStatus errorMessage) := by
  unfold finalTx at done
  split_ifs at done with retried
  · unfold retryTx at done
    dsimp only at done
    split_ifs at done with unmatched
    cases done
    exact .inl ⟨retried, unmatched, rfl⟩
  unfold finishTx at done
  dsimp only at done
  generalize (if nextStatus = .done then "" else trimSpace message) = errorMessage at done
  split_ifs at done with unmatched
  cases done
  exact .inr ⟨errorMessage, unmatched, rfl⟩

theorem final_tx_logged (running : task.status = .running)
    (final : nextStatus = .done ∨ nextStatus = .failed)
    (done : finalTx task id nextStatus message now db = .ok next) :
    ∃ set event, LoggedUpdate (ownedRunning task.id id) set event ∧
    (db.update (ownedRunning task.id id) set).1 ≠ 0 ∧
    next = (db.update (ownedRunning task.id id) set).2.logEventTx event ∧
    event.toStatus ≠ .running := by
  rcases final_tx_cases done with ⟨_, affected, same⟩ | ⟨errorMessage, affected, same⟩
  · exact ⟨_, _, retry_logged task id message now, affected, same, nofun⟩
  refine ⟨_, _, finish_logged running id final errorMessage now, affected, same, ?_⟩
  rcases final with rfl | rfl
  · exact nofun
  · exact nofun

structure Created (db : Database) (task : Task) (event : TaskEvent) : Prop where
  fresh : task.id ∉ db.tasks.map Task.id
  noEvents : db.eventsOf task.id = []
  pending : task.status = .pending
  free : task.lockedBy = none
  untried : task.retryCount = 0
  namesTask : event.taskID = task.id
  fromNothing : event.fromStatus = none
  toPending : event.toStatus = .pending

theorem create_task_created (inv : DatabaseConsistent db) {taskType payload : String}
    {runAt : Instant} {maxRetries backoff : Int}
    (done : createTask id taskType payload runAt maxRetries backoff now db = .ok (task, next)) :
    ∃ event, Created db task event ∧ task.maxRetries = maxRetries ∧
      next = { db with tasks := db.tasks ++ [task] }.logEventTx event := by
  unfold createTask at done
  split_ifs at done with known
  have fresh : id ∉ db.tasks.map Task.id := by
    intro mem
    obtain ⟨row, rowMember, same⟩ := mem_map.mp mem
    exact known (any_eq_true.mpr ⟨row, rowMember, by simp [same]⟩)
  have noEvents : db.eventsOf id = [] := by
    unfold Database.eventsOf
    rw [filter_eq_nil_iff]
    intro event mem same
    rw [beq_iff_eq] at same
    exact fresh (same ▸ inv.known event mem)
  cases done
  exact ⟨_, ⟨fresh, noEvents, rfl, rfl, rfl, rfl, rfl, rfl⟩, rfl, rfl⟩

theorem mem_created :
    row ∈ ({ db with tasks := db.tasks ++ [task] }.logEventTx event).tasks ↔
      row ∈ db.tasks ∨ row = task := by
  change row ∈ db.tasks ++ [task] ↔ _
  rw [mem_append, mem_singleton]

theorem Created.consistent (created : Created db task event) (inv : DatabaseConsistent db) :
    DatabaseConsistent ({ db with tasks := db.tasks ++ [task] }.logEventTx event) := by
  refine ⟨?_, ?_, ?_, ?_⟩
  · change ((db.tasks ++ [task]).map Task.id).Nodup
    rw [map_append, map_singleton, nodup_append]
    refine ⟨inv.ids, by simp, ?_⟩
    rintro id mem other single rfl
    rw [mem_singleton] at single
    rw [single] at mem
    exact created.fresh mem
  · intro row mem
    rw [events_of_log, created.namesTask]
    rcases mem_created.mp mem with mem | rfl
    · have otherTask : task.id ≠ row.id := by
        intro same
        exact created.fresh (same ▸ mem_map.mpr ⟨row, mem, rfl⟩)
      rw [if_neg otherTask]
      exact inv.chains row mem
    · rw [if_pos rfl]
      change EventChain (db.eventsOf row.id ++ [event]) row.status
      rw [created.noEvents, created.pending]
      exact ⟨⟨event, rfl, created.fromNothing, created.toPending⟩, isChain_singleton _,
        ⟨event, rfl, created.toPending⟩⟩
  · intro other mem
    change other ∈ db.events ++ [event] at mem
    change other.taskID ∈ (db.tasks ++ [task]).map Task.id
    rw [map_append, mem_append]
    rw [mem_append, mem_singleton] at mem
    rcases mem with mem | rfl
    · exact .inl (inv.known other mem)
    · exact .inr (mem_singleton.mpr created.namesTask)
  · intro row mem
    rcases mem_created.mp mem with mem | rfl
    · exact inv.owners row mem
    refine ⟨fun _ => created.free, ?_⟩
    intro running
    rw [created.pending] at running
    cases running

/-- The ways in which the status of a task can change, and in whose name. -/
def LegalChange (worker : Option String) (old new : Task) : Prop :=
  (new.status = old.status ∧ new.lockedBy = old.lockedBy) ∨
    (old.status = .pending ∧ new.status = .running ∧ new.lockedBy = worker ∧ worker ≠ none) ∨
    (old.status = .running ∧
      (new.status = .pending ∨ new.status = .done ∨ new.status = .failed) ∧
      old.lockedBy = worker ∧ worker ≠ none)

/-- Every task stays and changes legally, and a new one is pending. -/
structure Evolves (worker : Option String) (db next : Database) : Prop where
  changes : ∀ old ∈ db.tasks, ∃ new ∈ next.tasks, new.id = old.id ∧ LegalChange worker old new
  appears : ∀ new ∈ next.tasks, (∃ old ∈ db.tasks, old.id = new.id) ∨ new.status = .pending

theorem Evolves.refl (worker : Option String) (db : Database) : Evolves worker db db where
  changes := fun old mem => ⟨old, mem, rfl, .inl ⟨rfl, rfl⟩⟩
  appears := fun new mem => .inl ⟨new, mem, rfl⟩

theorem final_tx_evolves (running : task.status = .running)
    (final : nextStatus = .done ∨ nextStatus = .failed)
    (done : finalTx task id nextStatus message now db = .ok next) : Evolves (some id) db next := by
  obtain ⟨set, event, logged, _, rfl, notRunning⟩ := final_tx_logged running final done
  refine ⟨?_, ?_⟩
  · intro old mem
    refine ⟨_, mem_update.mpr ⟨old, mem, rfl⟩, ?_⟩
    by_cases matched : ownedRunning task.id id old = true
    · obtain ⟨_, oldRunning, owner⟩ := owned_running_spec matched
      rw [if_pos matched]
      refine ⟨logged.keepsID old, .inr (.inr ⟨oldRunning, ?_, owner, nofun⟩)⟩
      rw [logged.setsStatus]
      cases status : event.toStatus with
      | pending => exact .inl rfl
      | running => exact absurd status notRunning
      | done => exact .inr (.inl rfl)
      | failed => exact .inr (.inr rfl)
    · rw [if_neg matched]
      exact ⟨rfl, .inl ⟨rfl, rfl⟩⟩
  · intro new mem
    obtain ⟨row, rowMember, rfl⟩ := mem_update.mp mem
    refine .inl ⟨row, rowMember, ?_⟩
    split_ifs
    · exact (logged.keepsID row).symm
    · rfl

theorem Created.evolves (created : Created db task event) (worker : Option String) :
    Evolves worker db ({ db with tasks := db.tasks ++ [task] }.logEventTx event) := by
  refine ⟨?_, ?_⟩
  · intro old mem
    exact ⟨old, mem_created.mpr (.inl mem), rfl, .inl ⟨rfl, rfl⟩⟩
  intro new mem
  rcases mem_created.mp mem with mem | rfl
  · exact .inl ⟨new, mem, rfl⟩
  · exact .inr created.pending

theorem claim_ready_tasks_evolves
    (done : claimReadyTasks format workerID limit now db = .ok (updates, next)) :
    Evolves (some workerID) db next := by
  let Locked (old new : Task) : Prop :=
    (new.status = old.status ∧ new.lockedBy = old.lockedBy) ∨
      (old.status = .pending ∧ new.status = .running ∧ new.lockedBy = some workerID)
  have locked : (∀ old ∈ db.tasks, ∃ new ∈ next.tasks, new.id = old.id ∧ Locked old new) ∧
      ∀ new ∈ next.tasks, ∃ old ∈ db.tasks, old.id = new.id := by
    refine claim_ready_induction (fun current =>
      (∀ old ∈ db.tasks, ∃ new ∈ current.tasks, new.id = old.id ∧ Locked old new) ∧
        ∀ new ∈ current.tasks, ∃ old ∈ db.tasks, old.id = new.id) ?_ done ?_
    · intro current task soFar pending unmatched
      refine ⟨?_, ?_⟩
      · intro old mem
        obtain ⟨row, rowMember, sameID, change⟩ := soFar.1 old mem
        refine ⟨_, mem_update.mpr ⟨row, rowMember, rfl⟩, ?_⟩
        by_cases matched : claimable task.id row = true
        · rw [if_pos matched]
          simp only [claimable, Bool.and_eq_true, beq_iff_eq] at matched
          rcases change with ⟨sameStatus, _⟩ | ⟨_, rowRunning, _⟩
          · exact ⟨sameID, .inr ⟨sameStatus.symm.trans matched.1.2, rfl, rfl⟩⟩
          · rw [rowRunning] at matched
            cases matched.1.2
        · rw [if_neg matched]
          exact ⟨sameID, change⟩
      · intro new mem
        obtain ⟨row, rowMember, rfl⟩ := mem_update.mp mem
        obtain ⟨old, oldMember, sameID⟩ := soFar.2 row rowMember
        refine ⟨old, oldMember, ?_⟩
        split_ifs
        · exact sameID
        · exact sameID
    · exact ⟨fun old mem => ⟨old, mem, rfl, .inl ⟨rfl, rfl⟩⟩,
        fun new mem => ⟨new, mem, rfl⟩⟩
  refine ⟨?_, fun new mem => .inl (locked.2 new mem)⟩
  intro old mem
  obtain ⟨new, newMember, sameID, change⟩ := locked.1 old mem
  refine ⟨new, newMember, sameID, ?_⟩
  rcases change with same | ⟨pending, running, owner⟩
  · exact .inl same
  · exact .inr (.inl ⟨pending, running, owner, nofun⟩)

structure Consistent (s : State) : Prop where
  db : DatabaseConsistent s.db
  requests : ∀ request final queue, s.requests request = .finishing final queue →
    final.task.status = .running ∧ (final.nextStatus = .done ∨ final.nextStatus = .failed)

theorem read_final_running (read : readFinal id workerID db = .ok task) :
    task ∈ db.tasks ∧ task.id = id ∧ task.status = .running := by
  unfold readFinal getTask at read
  split_ifs at read
  split at read
  · cases read
  next found =>
    split at found
    next row located =>
      cases found
      split_ifs at read with wrongOwner notRunning
      cases read
      exact ⟨mem_of_find?_eq_some located, by simpa using find?_some located,
        not_not.mp notRunning⟩
    · cases found

theorem step_consistent {next : State} {action : Action} (inv : Consistent s)
    (taken : step format s action = some next) : Consistent next := by
  refine ⟨?_, ?_⟩
  · rw [step_db taken]
    rcases db_after_cases format s action with unchanged |
      ⟨_, _, _, _, _, _, _, _, done, _⟩ | ⟨_, _, _, _, _, done⟩ |
      ⟨request, now, final, queue, waiting, _, _, done⟩
    · rw [unchanged]
      exact inv.db
    · obtain ⟨event, created, _, same⟩ := create_task_created inv.db done
      rw [same]
      exact created.consistent inv.db
    · refine claim_ready_induction DatabaseConsistent ?_ done inv.db
      intro current task soFar pending affected
      exact (claim_logged pending _ _).consistent soFar affected
    obtain ⟨running, isFinal⟩ := inv.requests request final queue waiting
    obtain ⟨set, event, logged, affected, same, _⟩ := final_tx_logged running isFinal done
    rw [same]
    exact logged.consistent inv.db affected
  · intro request final queue finishing
    rcases step_finishing taken finishing with before | ⟨⟨id, read⟩, _, isFinal⟩
    · exact inv.requests request final queue before
    · exact ⟨(read_final_running read).2.2, isFinal⟩

theorem start_consistent (isStart : s.Initial) : Consistent s := by
  obtain ⟨empty, noCalls⟩ := isStart
  refine ⟨?_, ?_⟩
  · rw [empty]
    refine ⟨nodup_nil, ?_, ?_, ?_⟩
    · intro task mem
      cases mem
    · intro event mem
      cases mem
    · intro task mem
      cases mem
  · intro request final queue finishing
    rw [noCalls] at finishing
    cases finishing

theorem reachable_consistent (reachable : Reachable State.Initial (step format) s) : Consistent s :=
  reachable.invariant start_consistent step_consistent

/-- What a step does to the tasks, and that a transaction that fails does
nothing to them. -/
structure LifecycleStep (format : Instant → String) (s : State) (action : Action) (next : State) :
    Prop where
  evolves : Evolves (s.worker? action) s.db next.db
  rollback : ∀ err, s.transaction format action = some (.error err) → next.db = s.db

/-- The events of each task form a chain that ends in its status, running tasks have one owner, and
every step changes tasks legally. -/
theorem task_lifecycle_safe (format : Instant → String) {s : State}
    (reachable : Reachable State.Initial (step format) s) : DatabaseConsistent s.db ∧
    ∀ action next, step format s action = some next → LifecycleStep format s action next := by
  have consistent := reachable_consistent reachable
  refine ⟨consistent.db, ?_⟩
  intro action next taken
  refine ⟨?_, ?_⟩
  · rw [step_db taken]
    rcases db_after_cases format s action with unchanged |
      ⟨_, _, _, _, _, _, _, _, done, _⟩ | ⟨workerID, _, _, _, worker, done⟩ |
      ⟨request, now, final, queue, waiting, _, worker, done⟩
    · rw [unchanged]
      exact Evolves.refl _ _
    · obtain ⟨event, created, _, same⟩ := create_task_created consistent.db done
      rw [same]
      exact created.evolves _
    · rw [worker]
      exact claim_ready_tasks_evolves done
    · obtain ⟨running, isFinal⟩ := consistent.requests request final queue waiting
      rw [worker]
      exact final_tx_evolves running isFinal done
  · intro err failed
    rw [step_db taken]
    unfold State.dbAfter
    rw [failed]

def emptyStore : State where
  db := { tasks := [], events := [] }
  requests := fun _ => .idle

def secondText (now : Instant) : String :=
  "1970-01-01T00:00:0" ++ toString (now / nanosecondsPerSecond) ++ "Z"

def seconds (count : Nat) : Instant := count * nanosecondsPerSecond

/-- Two reports of one failure are read before either commits; the task is
queued again and another worker finishes it. -/
def retriedRun : List Action :=
  [ .create "task_1" "sync" "\x7b\x7d" (seconds 0) (some 1) none (seconds 0) false,
    .claim "alpha" 10 (seconds 1) false,
    .claim "beta" 10 (seconds 1) true,
    .markTaskFailed 0 "task_1" "alpha" "timeout",
    .failAllRunningForWorker 1 "alpha" "shutdown",
    .readNext 1,
    .commit 0 (seconds 2) false,
    .commit 1 (seconds 2) false,
    .claim "beta" 10 (seconds 3) false,
    .markTaskDone 0 "task_1" "beta",
    .commit 0 (seconds 4) false ]

theorem retried_run_safe :
    (runActions (step secondText) emptyStore retriedRun).map
      (fun s => (s.db.eventsOf "task_1").map fun event => (event.toStatus, event.workerID)) =
      some
        [(.pending, ""), (.running, "alpha"), (.pending, "alpha"), (.running, "beta"),
          (.done, "beta")] ∧
    ∀ s, runActions (step secondText) emptyStore retriedRun = some s →
      DatabaseConsistent s.db ∧
        ∀ action next, step secondText s action = some next →
          LifecycleStep secondText s action next := by
  refine ⟨by decide +kernel, ?_⟩
  intro s ran
  exact task_lifecycle_safe secondText
    ⟨emptyStore, ⟨rfl, rfl⟩, runs_to_of_run ran⟩

end RuneTerminal.Tasks
