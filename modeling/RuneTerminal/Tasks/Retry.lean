import Mathlib.Data.Int.ConditionallyCompleteOrder
import Mathlib.Tactic.Positivity
import Mathlib.Tactic.Ring
import RuneTerminal.Tasks.Lifecycle

/-! The new retry count is computed from the row that a failure report has read, and the update
compares only the status and the owner with it. -/

namespace RuneTerminal.Tasks

open Kit List

def Database.claimsOf (db : Database) (taskID : String) : Nat :=
  (db.eventsOf taskID).countP (·.toStatus = .running)

def RetryBudget (db : Database) : Prop :=
  ∀ task ∈ db.tasks, (db.claimsOf task.id : Int) ≤ task.maxRetries + 1

instance (db : Database) : Decidable (RetryBudget db) :=
  inferInstanceAs (Decidable (∀ task ∈ db.tasks, (db.claimsOf task.id : Int) ≤ task.maxRetries + 1))

/-- A report that schedules a retry finds the retry count that it has read. -/
def freshRetry (s : State) : Action → Bool
  | .commit request _ fails =>
    match s.requests request with
    | .finishing final _ =>
      fails || !schedulesRetry final.task final.nextStatus ||
        s.db.tasks.all fun row =>
          !ownedRunning final.task.id final.workerID row ||
            row.retryCount == final.task.retryCount
    | _ => true
  | _ => true

def Task.attempts (task : Task) : Int :=
  task.retryCount + if task.status = .pending then 0 else 1

structure Accounted (db : Database) (task : Task) : Prop where
  claims : (db.claimsOf task.id : Int) = task.attempts
  retries : task.retryCount ≤ task.maxRetries

variable {db next : Database} {event : TaskEvent} {task : Task} {now : Instant} {s : State}
  {matched : Task → Bool}

theorem claims_of_log (taskID : String) :
    (db.logEventTx event).claimsOf taskID =
      db.claimsOf taskID + if event.taskID = taskID ∧ event.toStatus = .running then 1 else 0 := by
  unfold Database.claimsOf
  rw [events_of_log]
  by_cases same : event.taskID = taskID
  · rw [if_pos same, countP_append, countP_singleton]
    simp only [same, true_and, decide_eq_true_eq]
  · simp only [same, false_and, if_false, Nat.add_zero]

theorem LoggedUpdate.accounted (inv : DatabaseConsistent db)
    (accounted : ∀ task ∈ db.tasks, Accounted db task) {matched : Task → Bool} {set : Task → Task}
    {event : TaskEvent} (logged : LoggedUpdate matched set event)
    (affected : (db.update matched set).1 ≠ 0)
    (attempts : ∀ row ∈ db.tasks, matched row = true →
      (set row).attempts = row.attempts + if event.toStatus = .running then 1 else 0)
    (retries : ∀ row ∈ db.tasks, matched row = true → (set row).retryCount ≤ (set row).maxRetries) :
    ∀ task ∈ ((db.update matched set).2.logEventTx event).tasks,
      Accounted ((db.update matched set).2.logEventTx event) task := by
  intro task mem
  obtain ⟨row, rowMember, rfl⟩ := mem_update.mp mem
  have before := accounted row rowMember
  by_cases rowMatched : matched row = true
  · rw [if_pos rowMatched]
    refine ⟨?_, retries row rowMember rowMatched⟩
    have sameTask := (logged.matchesTask row rowMatched).1
    rw [claims_of_log, logged.keepsID, attempts row rowMember rowMatched, ← before.claims]
    simp only [sameTask.symm, true_and]
    split_ifs
    · rfl
    · rfl
  · have otherTask := logged.other_task inv affected rowMember rowMatched
    rw [if_neg rowMatched]
    refine ⟨?_, before.retries⟩
    rw [claims_of_log]
    simp only [otherTask]
    exact before.claims

def LimitRead (db : Database) (task : Task) : Prop :=
  ∃ row ∈ db.tasks, row.id = task.id ∧ row.maxRetries = task.maxRetries

def KeepsLimits (db next : Database) : Prop :=
  ∀ row ∈ db.tasks, ∃ new ∈ next.tasks, new.id = row.id ∧ new.maxRetries = row.maxRetries

theorem KeepsLimits.trans {middle : Database} (first : KeepsLimits db middle)
    (second : KeepsLimits middle next) : KeepsLimits db next := by
  intro row mem
  obtain ⟨between, betweenMember, sameID, sameLimit⟩ := first row mem
  obtain ⟨new, newMember, newID, newLimit⟩ := second between betweenMember
  exact ⟨new, newMember, newID.trans sameID, newLimit.trans sameLimit⟩

theorem LimitRead.keep (read : LimitRead db task) (kept : KeepsLimits db next) :
    LimitRead next task := by
  obtain ⟨row, mem, sameID, sameLimit⟩ := read
  obtain ⟨new, newMember, newID, newLimit⟩ := kept row mem
  exact ⟨new, newMember, newID.trans sameID, newLimit.trans sameLimit⟩

theorem update_keeps_limits {set : Task → Task}
    (keeps : ∀ row, (set row).id = row.id ∧ (set row).maxRetries = row.maxRetries)
    (event : TaskEvent) : KeepsLimits db ((db.update matched set).2.logEventTx event) := by
  intro row mem
  refine ⟨_, mem_update.mpr ⟨row, mem, rfl⟩, ?_⟩
  split_ifs
  · exact keeps row
  · exact ⟨rfl, rfl⟩

structure WithinBudget (s : State) : Prop where
  consistent : Consistent s
  accounted : ∀ task ∈ s.db.tasks, Accounted s.db task
  limits : ∀ request final queue, s.requests request = .finishing final queue →
    LimitRead s.db final.task

theorem Created.accounted (created : Created db task event) (nonneg : 0 ≤ task.maxRetries)
    (accounted : ∀ row ∈ db.tasks, Accounted db row) :
    ∀ row ∈ ({ db with tasks := db.tasks ++ [task] }.logEventTx event).tasks,
      Accounted ({ db with tasks := db.tasks ++ [task] }.logEventTx event) row := by
  intro row mem
  have sameClaims : ({ db with tasks := db.tasks ++ [task] }.logEventTx event).claimsOf row.id =
      db.claimsOf row.id := by
    rw [claims_of_log, created.toPending]
    simp only [reduceCtorEq, and_false]
    rfl
  refine ⟨?_, ?_⟩
  · rw [sameClaims]
    rcases mem_created.mp mem with mem | rfl
    · exact (accounted row mem).claims
    · unfold Database.claimsOf Task.attempts
      rw [created.noEvents, created.pending, created.untried]
      rfl
  · rcases mem_created.mp mem with mem | rfl
    · exact (accounted row mem).retries
    · rw [created.untried]
      exact nonneg

section

variable (inv : DatabaseConsistent db) (accounted : ∀ row ∈ db.tasks, Accounted db row)
  {workerID : String}
include inv accounted

theorem claim_accounted (pending : task.status = .pending)
    (affected : (db.update (claimable task.id) (lockRow workerID now)).1 ≠ 0) :
    ∀ row ∈ ((db.update (claimable task.id) (lockRow workerID now)).2.logEventTx
        (claimedEvent task workerID)).tasks,
      Accounted ((db.update (claimable task.id) (lockRow workerID now)).2.logEventTx
        (claimedEvent task workerID)) row := by
  refine (claim_logged pending workerID now).accounted inv accounted affected ?_ ?_
  · intro row mem matched
    have rowPending : row.status = .pending := by
      have continues := ((claim_logged pending workerID now).matchesTask row matched).2
      rw [claimedEvent, pending] at continues
      exact (Option.some.inj continues).symm
    simp [Task.attempts, rowPending, lockRow, claimedEvent]
  · intro row mem _
    exact (accounted row mem).retries

theorem final_tx_accounted {next : Database} {task : Task} (running : task.status = .running)
    (limit : LimitRead db task) {workerID : String} {nextStatus : TaskStatus}
    (final : nextStatus = .done ∨ nextStatus = .failed)
    (fresh : schedulesRetry task nextStatus = true →
      ∀ row ∈ db.tasks, ownedRunning task.id workerID row = true → row.retryCount = task.retryCount)
    {message : String} {now : Instant}
    (done : finalTx task workerID nextStatus message now db = .ok next) :
    ∀ row ∈ next.tasks, Accounted next row := by
  rcases final_tx_cases done with ⟨retried, affected, rfl⟩ | ⟨errorMessage, affected, rfl⟩
  · refine (retry_logged task workerID message now).accounted inv accounted affected ?_ ?_
    · intro row mem matched
      obtain ⟨_, rowRunning, _⟩ := owned_running_spec matched
      have sameCount := fresh retried row mem matched
      simp [Task.attempts, retryRow, retryEvent, rowRunning, sameCount]
    -- The row is the one that was read, or a later version of it with the same limit.
    intro row mem matched
    obtain ⟨sameID, _, _⟩ := owned_running_spec matched
    obtain ⟨other, otherMember, otherID, sameLimit⟩ := limit
    have sameRow : row = other :=
      inj_on_of_nodup_map inv.ids mem otherMember (sameID.trans otherID.symm)
    subst sameRow
    simp only [schedulesRetry, Bool.and_eq_true, decide_eq_true_eq] at retried
    change task.retryCount + 1 ≤ row.maxRetries
    rw [sameLimit]
    exact retried.2
  · refine (finish_logged running workerID final errorMessage now).accounted inv accounted
      affected ?_ ?_
    · intro row mem matched
      obtain ⟨_, rowRunning, _⟩ := owned_running_spec matched
      rcases final with rfl | rfl
      · simp [Task.attempts, finishRow, finishedEvent, rowRunning]
      · simp [Task.attempts, finishRow, finishedEvent, rowRunning]
    · intro row mem _
      exact (accounted row mem).retries

end

theorem db_after_keeps_limits (format : Instant → String) (inv : Consistent s) (action : Action) :
    KeepsLimits s.db (s.dbAfter format action) := by
  have unchanged : KeepsLimits s.db s.db := fun row mem => ⟨row, mem, rfl, rfl⟩
  rcases db_after_cases format s action with same | ⟨_, _, _, _, _, _, _, _, done, _⟩ |
    ⟨_, _, _, _, _, done⟩ | ⟨request, now, final, queue, waiting, _, _, done⟩
  · rw [same]
    exact unchanged
  · obtain ⟨event, created, _, same⟩ := create_task_created inv.db done
    rw [same]
    exact fun row mem => ⟨row, mem_created.mpr (.inl mem), rfl, rfl⟩
  · refine claim_ready_induction (KeepsLimits s.db) ?_ done unchanged
    intro current task soFar _ _
    refine soFar.trans (update_keeps_limits ?_ _)
    exact fun row => ⟨rfl, rfl⟩
  rcases final_tx_cases done with ⟨_, _, same⟩ | ⟨errorMessage, _, same⟩
  · rw [same]
    refine update_keeps_limits ?_ _
    exact fun row => ⟨rfl, rfl⟩
  · rw [same]
    refine update_keeps_limits ?_ _
    exact fun row => ⟨rfl, rfl⟩

theorem fresh_retry_commit {request : Nat} (fresh : freshRetry s (.commit request now false) = true)
    {final : FinalRequest} {queue : List String}
    (waiting : s.requests request = .finishing final queue)
    (retried : schedulesRetry final.task final.nextStatus = true) :
    ∀ row ∈ s.db.tasks, ownedRunning final.task.id final.workerID row = true →
      row.retryCount = final.task.retryCount := by
  intro row mem matched
  simp only [freshRetry, waiting, retried, Bool.not_true, Bool.false_or, all_eq_true] at fresh
  have found := fresh row mem
  rw [matched] at found
  simpa using found

theorem step_within_budget {format : Instant → String} {next : State} {action : Action}
    (within : WithinBudget s) (fresh : freshRetry s action = true)
    (taken : step format s action = some next) : WithinBudget next := by
  obtain ⟨inv, accounted, limits⟩ := within
  refine ⟨step_consistent inv taken, ?_, ?_⟩
  · rw [step_db taken]
    rcases db_after_cases format s action with same |
      ⟨_, _, _, _, maxRetries, _, _, task, done, nonneg⟩ | ⟨_, _, _, _, _, done⟩ |
      ⟨request, now, final, queue, waiting, rfl, _, done⟩
    · rw [same]
      exact accounted
    · obtain ⟨event, created, sameLimit, same⟩ := create_task_created inv.db done
      rw [same]
      exact created.accounted (sameLimit ▸ nonneg) accounted
    · have both := claim_ready_induction
        (fun db => DatabaseConsistent db ∧ ∀ row ∈ db.tasks, Accounted db row) ?_ done
        ⟨inv.db, accounted⟩
      · exact both.2
      · intro current task soFar pending affected
        exact ⟨(claim_logged pending _ _).consistent soFar.1 affected,
          claim_accounted soFar.1 soFar.2 pending affected⟩
    · obtain ⟨running, isFinal⟩ := inv.requests request final queue waiting
      exact final_tx_accounted inv.db accounted running
        (limits request final queue waiting) isFinal (fresh_retry_commit fresh waiting) done
  · intro request final queue finishing
    rcases step_finishing taken finishing with before | ⟨⟨id, read⟩, sameDb, _⟩
    · rw [step_db taken]
      exact (limits request final queue before).keep
        (db_after_keeps_limits format inv action)
    · rw [sameDb]
      exact ⟨final.task, (read_final_running read).1, rfl, rfl⟩

theorem Accounted.within (accounted : Accounted db task) :
    (db.claimsOf task.id : Int) ≤ task.maxRetries + 1 := by
  have retries := accounted.retries
  rw [accounted.claims]
  unfold Task.attempts
  split_ifs
  · omega
  · omega

/-- In every run in which no report writes an old retry count, no task is
claimed more often than its retries allow. -/
theorem fresh_reports_keep_budget (format : Instant → String) {s : State}
    (reachable : Reachable State.Initial (guarded freshRetry (step format)) s) :
    RetryBudget s.db := by
  have within : WithinBudget s := by
    apply reachable.invariant
    · intro s isStart
      refine ⟨start_consistent isStart, ?_, ?_⟩
      · intro task mem
        rw [isStart.1] at mem
        cases mem
      · intro request final queue finishing
        rw [isStart.2] at finishing
        cases finishing
    · intro s action next within taken
      obtain ⟨fresh, taken⟩ := guarded_eq_some.mp taken
      exact step_within_budget within fresh taken
  intro task mem
  exact (within.accounted task mem).within

def failedTwiceRun : List Action :=
  [ .create "task_1" "sync" "\x7b\x7d" (seconds 0) (some 1) none (seconds 0) false,
    .claim "alpha" 10 (seconds 1) false,
    .markTaskFailed 0 "task_1" "alpha" "timeout",
    .commit 0 (seconds 2) false,
    .claim "alpha" 10 (seconds 3) false,
    .markTaskFailed 0 "task_1" "alpha" "timeout",
    .commit 0 (seconds 4) false ]

theorem failed_twice_within_budget :
    (runActions (guarded freshRetry (step secondText)) emptyStore failedTwiceRun).map
      (fun s => (s.db.claimsOf "task_1", s.db.tasks.map Task.status)) =
      some (2, [.failed]) ∧
    ∀ s, runActions (guarded freshRetry (step secondText)) emptyStore failedTwiceRun = some s →
      RetryBudget s.db := by
  refine ⟨by decide +kernel, ?_⟩
  intro s ran
  exact fresh_reports_keep_budget secondText
    ⟨emptyStore, ⟨rfl, rfl⟩, runs_to_of_run ran⟩

def reportedTwiceRun : List Action :=
  [ .create "task_1" "sync" "\x7b\x7d" (seconds 0) (some 1) none (seconds 0) false,
    .claim "alpha" 10 (seconds 1) false,
    .markTaskFailed 0 "task_1" "alpha" "timeout",
    .markTaskFailed 1 "task_1" "alpha" "timeout",
    .commit 0 (seconds 2) false,
    .claim "alpha" 10 (seconds 3) false,
    .commit 1 (seconds 4) false,
    .claim "alpha" 10 (seconds 5) false ]

theorem reported_twice_exceeds_budget :
    ¬∀ s, Reachable State.Initial (step secondText) s → RetryBudget s.db := by
  intro within
  have isStart : State.Initial emptyStore := ⟨rfl, rfl⟩
  obtain ⟨s, reachable, exceeded⟩ := reachable_of_run isStart
    (show (runActions (step secondText) emptyStore reportedTwiceRun).map
      (fun s => decide (¬RetryBudget s.db)) = some true by decide +kernel)
  exact of_decide_eq_true exceeded (within s reachable)

def clampBackoff (baseSeconds : Int) : Int := max 1 (min 3600 baseSeconds)

/-- `doubleBackoff` with the products that it computes on the way. -/
def tracedBackoff : Nat → Int → List Int × Int
  | 0, delay => ([], delay)
  | attempts + 1, delay =>
    if delay ≥ 1800 then ([], 3600)
    else if delay * 2 > 3600 then ([delay * 2], 3600)
    else
      let (products, final) := tracedBackoff attempts (delay * 2)
      (delay * 2 :: products, final)

theorem traced_backoff_result (attempts : Nat) (delay : Int) :
    (tracedBackoff attempts delay).2 = doubleBackoff attempts delay := by
  induction attempts generalizing delay with
  | zero => rfl
  | succ attempts ih =>
    rw [tracedBackoff, doubleBackoff, ← ih]
    split_ifs <;> rfl

theorem double_backoff_eq {delay : Int} (low : 1 ≤ delay) (high : delay ≤ 3600) (attempts : Nat) :
    doubleBackoff attempts delay = min 3600 (delay * 2 ^ attempts) := by
  induction attempts generalizing delay with
  | zero =>
    rw [doubleBackoff, pow_zero, mul_one, min_eq_right high]
  | succ attempts ih =>
    have power : (1 : Int) ≤ 2 ^ attempts := one_le_pow₀ (by omega)
    have step : delay * 2 ^ (attempts + 1) = delay * 2 * 2 ^ attempts := by ring
    rw [doubleBackoff, step]
    by_cases saturated : delay ≥ 1800
    · have bound : 3600 ≤ delay * 2 * 2 ^ attempts := by
        have doubled := le_mul_of_one_le_right (by omega : 0 ≤ delay * 2) power
        omega
      rw [if_pos saturated, min_eq_left bound]
    · rw [if_neg saturated, if_neg (by omega), ih (by omega) (by omega)]

theorem clamp_backoff_range (baseSeconds : Int) :
    1 ≤ clampBackoff baseSeconds ∧ clampBackoff baseSeconds ≤ 3600 := by
  unfold clampBackoff
  omega

theorem retry_backoff_eq (baseSeconds : Int) (retryCount : Nat) :
    boundedRetryBackoffSeconds baseSeconds retryCount =
      min 3600 (clampBackoff baseSeconds * 2 ^ retryCount) := by
  have range := clamp_backoff_range baseSeconds
  rw [← double_backoff_eq range.1 range.2 retryCount, boundedRetryBackoffSeconds,
    Int.toNat_natCast]
  congr 1
  unfold clampBackoff
  split_ifs <;> omega

theorem traced_backoff_le (attempts : Nat) (delay : Int) :
    ∀ product ∈ (tracedBackoff attempts delay).1, product ≤ 7200 := by
  induction attempts generalizing delay with
  | zero => exact fun product mem => absurd mem not_mem_nil
  | succ attempts ih =>
    intro product mem
    unfold tracedBackoff at mem
    split_ifs at mem with saturated above
    · cases mem
    · rw [mem_singleton.mp mem]
      omega
    · rcases mem_cons.mp mem with rfl | later
      · omega
      · exact ih (delay * 2) product later

theorem bounded_retry_backoff_exponential :
    (∀ (baseSeconds : Int) (retryCount : Nat),
      boundedRetryBackoffSeconds baseSeconds retryCount =
        min 3600 (max 1 (min 3600 baseSeconds) * 2 ^ retryCount)) ∧
    (∀ (baseSeconds : Int) (retryCount : Nat),
      boundedRetryBackoffSeconds baseSeconds retryCount ∈ Set.Icc 1 3600) ∧
    (∀ retryCount : Nat,
      Monotone fun baseSeconds => boundedRetryBackoffSeconds baseSeconds retryCount) ∧
    (∀ baseSeconds,
      Monotone fun retryCount : Nat => boundedRetryBackoffSeconds baseSeconds retryCount) ∧
    ∀ (baseSeconds : Int) (retryCount : Nat),
      (tracedBackoff retryCount (clampBackoff baseSeconds)).2 =
        boundedRetryBackoffSeconds baseSeconds retryCount ∧
      ∀ product ∈ (tracedBackoff retryCount (clampBackoff baseSeconds)).1, product ≤ 7200 := by
  refine ⟨retry_backoff_eq, ?_, ?_, ?_, ?_⟩
  · intro baseSeconds retryCount
    have power : (1 : Int) ≤ 2 ^ retryCount := one_le_pow₀ (by omega)
    have low := (clamp_backoff_range baseSeconds).1
    have grown := le_mul_of_one_le_right (by omega : 0 ≤ clampBackoff baseSeconds) power
    rw [retry_backoff_eq]
    exact ⟨le_min (by omega) (by omega), min_le_left _ _⟩
  · intro retryCount base other le
    have clamped : clampBackoff base ≤ clampBackoff other := by
      unfold clampBackoff
      omega
    simp only [retry_backoff_eq]
    exact min_le_min_left _ (mul_le_mul_of_nonneg_right clamped (by positivity))
  · intro baseSeconds retryCount other le
    have low := (clamp_backoff_range baseSeconds).1
    simp only [retry_backoff_eq]
    have powers : (2 : Int) ^ retryCount ≤ 2 ^ other := pow_le_pow_right₀ (by omega) le
    exact min_le_min_left _ (mul_le_mul_of_nonneg_left powers (by omega))
  · intro baseSeconds retryCount
    have range := clamp_backoff_range baseSeconds
    rw [traced_backoff_result, double_backoff_eq range.1 range.2, retry_backoff_eq]
    exact ⟨rfl, traced_backoff_le retryCount (clampBackoff baseSeconds)⟩

end RuneTerminal.Tasks
