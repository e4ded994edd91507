import Mathlib.Data.List.Sort
import RuneTerminal.Go.Strings
import RuneTerminal.Kit.Transition

/-! The tables `tasks` and `task_events` and the transactions of `core/tasks/store.go`, each of
which may fail. Time columns hold instants, which the store compares by their texts, `format`. The
id and the time of an event are left out. -/

namespace RuneTerminal.Tasks

open Go.Strings (trimSpace)
open Option

abbrev Instant := Nat

inductive TaskStatus where
  | pending
  | running
  | done
  | failed
  deriving DecidableEq

/-- A row of `tasks`; a column that is `NULL` is `none`. -/
structure Task where
  id : String
  type : String
  payload : String
  status : TaskStatus
  runAt : Instant
  lockedBy : Option String := none
  lockedAt : Option Instant := none
  createdAt : Instant
  startedAt : Option Instant := none
  finishedAt : Option Instant := none
  error : Option String := none
  retryCount : Int := 0
  maxRetries : Int
  retryBackoffSeconds : Int
  lastErrorAt : Option Instant := none
  nextRetryAt : Option Instant := none
  deriving DecidableEq

/-- A row of `task_events`; the empty status that a task is created from is `none`. -/
structure TaskEvent where
  taskID : String
  fromStatus : Option TaskStatus
  toStatus : TaskStatus
  workerID : String
  message : String

structure Database where
  tasks : List Task
  events : List TaskEvent

inductive StoreError where
  | notFound
  | wrongOwner
  | invalidStatus
  | idAndWorkerRequired
  | workerRequired
  | invalidMaxRetries
  | invalidRetryBackoff
  | database

/-- `UPDATE tasks SET … WHERE …`, with the number of affected rows. -/
def Database.update (db : Database) (matched : Task → Bool) (set : Task → Task) :
    Nat × Database :=
  (db.tasks.countP matched,
    { db with tasks := db.tasks.map fun task => if matched task then set task else task })

def Database.logEventTx (db : Database) (event : TaskEvent) : Database :=
  { db with events := db.events ++ [event] }

/-- `normalizeRetryPolicy` of the service, which every creation goes through. -/
def normalizeRetryPolicy (maxRetriesRaw backoffRaw : Option Int) :
    Except StoreError (Int × Int) :=
  let maxRetries := maxRetriesRaw.getD 0
  if maxRetries < 0 ∨ maxRetries > 100 then .error .invalidMaxRetries
  else if maxRetries = 0 then .ok (0, 0)
  else
    let backoff := backoffRaw.getD 1
    if backoff < 1 ∨ backoff > 3600 then .error .invalidRetryBackoff
    else .ok (maxRetries, backoff)

def createTask (taskID taskType payload : String) (runAt : Instant)
    (maxRetries retryBackoffSeconds : Int) (now : Instant) (db : Database) :
    Except StoreError (Task × Database) :=
  let task : Task :=
    { id := taskID
      type := taskType
      payload := payload
      status := .pending
      runAt := runAt
      createdAt := now
      maxRetries := maxRetries
      retryBackoffSeconds := retryBackoffSeconds }
  if db.tasks.any (·.id == taskID) then .error .database
  else
    .ok (task,
      { db with tasks := db.tasks ++ [task] }.logEventTx
        { taskID := taskID, fromStatus := none, toStatus := .pending, workerID := "",
          message := "created" })

/-- `COALESCE(next_retry_at, run_at)`. -/
def Task.dueAt (task : Task) : Instant := task.nextRetryAt.getD task.runAt

/-- The candidates: unlocked pending tasks whose due text is not after the text
of `now`, in the order of these texts. -/
def selectReady (format : Instant → String) (now : Instant) (limit : Nat) (db : Database) :
    List Task :=
  let ready := db.tasks.filter fun task =>
    task.status == .pending && decide (format task.dueAt ≤ format now) && task.lockedBy.isNone
  (ready.mergeSort fun left right => decide (format left.dueAt ≤ format right.dueAt)).take limit

def claimable (id : String) (row : Task) : Bool :=
  row.id == id && row.status == .pending && row.lockedBy.isNone

def lockRow (workerID : String) (now : Instant) (row : Task) : Task :=
  { row with
    status := .running
    lockedBy := some workerID
    lockedAt := some now
    startedAt := some now }

def claimedEvent (task : Task) (workerID : String) : TaskEvent where
  taskID := task.id
  fromStatus := some task.status
  toStatus := .running
  workerID := workerID
  message := "claimed"

def claimCandidate (workerID : String) (now : Instant) (claimed : List Task × Database)
    (task : Task) : Except StoreError (List Task × Database) :=
  let (updates, db) := claimed
  let (count, next) := db.update (claimable task.id) (lockRow workerID now)
  if count = 0 then .ok (updates, db)
  else if count ≠ 1 then .error .database
  else
    .ok (updates ++ [{ lockRow workerID now task with nextRetryAt := none }],
      next.logEventTx (claimedEvent task workerID))

def claimReadyTasks (format : Instant → String) (workerID : String) (limit : Int)
    (now : Instant) (db : Database) : Except StoreError (List Task × Database) :=
  if limit ≤ 0 then .ok ([], db)
  else
    (selectReady format now (min limit 100).toNat db).foldlM (claimCandidate workerID now) ([], db)

def getTask (id : String) (db : Database) : Except StoreError Task :=
  match db.tasks.find? (·.id == id) with
  | some task => .ok task
  | none => .error .notFound

/-- The read and the checks of `markFinal`, outside its transaction. -/
def readFinal (id workerID : String) (db : Database) : Except StoreError Task :=
  if id = "" ∨ workerID = "" then .error .idAndWorkerRequired
  else
    match getTask id db with
    | .error err => .error err
    | .ok task =>
      if task.lockedBy.getD "" ≠ workerID then .error .wrongOwner
      else if task.status ≠ .running then .error .invalidStatus
      else .ok task

def ownedRunning (id workerID : String) (row : Task) : Bool :=
  row.id == id && row.status == .running && row.lockedBy == some workerID

def finishRow (nextStatus : TaskStatus) (errorMessage : String) (now : Instant) (row : Task) :
    Task :=
  { row with
    status := nextStatus
    finishedAt := some now
    error := some errorMessage
    lastErrorAt := if nextStatus = .failed then some now else none
    nextRetryAt := none }

def finishedEvent (task : Task) (workerID : String) (nextStatus : TaskStatus)
    (errorMessage : String) : TaskEvent where
  taskID := task.id
  fromStatus := some task.status
  toStatus := nextStatus
  workerID := workerID
  message := trimSpace
    (if nextStatus = .failed ∧ 0 < task.maxRetries ∧ task.maxRetries ≤ task.retryCount then
      "retry_exhausted: " ++ errorMessage
    else errorMessage)

/-- The transaction of `markFinal`; `task` is the row that was read before. -/
def finishTx (task : Task) (workerID : String) (nextStatus : TaskStatus) (message : String)
    (now : Instant) (db : Database) : Except StoreError Database :=
  let errorMessage := if nextStatus = .done then "" else trimSpace message
  let (affected, next) :=
    db.update (ownedRunning task.id workerID) (finishRow nextStatus errorMessage now)
  if affected = 0 then .error .invalidStatus
  else .ok (next.logEventTx (finishedEvent task workerID nextStatus errorMessage))

/-- The loop of `boundedRetryBackoffSeconds`, `attempts` rounds of it. -/
def doubleBackoff : Nat → Int → Int
  | 0, delay => delay
  | attempts + 1, delay =>
    if delay ≥ 1800 then 3600
    else if delay * 2 > 3600 then 3600
    else doubleBackoff attempts (delay * 2)

def boundedRetryBackoffSeconds (baseSeconds retryCount : Int) : Int :=
  let baseSeconds := if baseSeconds < 1 then 1 else baseSeconds
  let baseSeconds := if baseSeconds > 3600 then 3600 else baseSeconds
  doubleBackoff retryCount.toNat baseSeconds

def nanosecondsPerSecond : Nat := 1000000000

def retryMessage (task : Task) (delaySeconds : Int) (reason : String) : String :=
  "retry_scheduled: attempt=" ++ toString (task.retryCount + 1) ++ "/" ++
    toString task.maxRetries ++ " delay_seconds=" ++ toString delaySeconds ++ " reason=" ++
    trimSpace reason

/-- The retry count and the delay come from `task`, the row that was read before. -/
def retryRow (task : Task) (reason : String) (now : Instant) (row : Task) : Task :=
  { row with
    status := .pending
    retryCount := task.retryCount + 1
    nextRetryAt := some (now +
      (boundedRetryBackoffSeconds task.retryBackoffSeconds task.retryCount).toNat *
        nanosecondsPerSecond)
    lastErrorAt := some now
    error := some (trimSpace reason)
    lockedBy := none
    lockedAt := none
    startedAt := none
    finishedAt := none }

def retryEvent (task : Task) (workerID reason : String) : TaskEvent where
  taskID := task.id
  fromStatus := some .running
  toStatus := .pending
  workerID := workerID
  message := retryMessage task
    (boundedRetryBackoffSeconds task.retryBackoffSeconds task.retryCount) reason

/-- The transaction of `scheduleRetry`. -/
def retryTx (task : Task) (workerID reason : String) (now : Instant) (db : Database) :
    Except StoreError Database :=
  let (affected, next) :=
    db.update (ownedRunning task.id workerID) (retryRow task reason now)
  if affected = 0 then .error .invalidStatus
  else .ok (next.logEventTx (retryEvent task workerID reason))

/-- A failure is retried as long as the row that was read has retries left. -/
def schedulesRetry (task : Task) (nextStatus : TaskStatus) : Bool :=
  nextStatus = .failed && decide (task.retryCount < task.maxRetries)

/-- What `markFinal` does behind its checks. -/
def finalTx (task : Task) (workerID : String) (nextStatus : TaskStatus) (message : String)
    (now : Instant) (db : Database) : Except StoreError Database :=
  if schedulesRetry task nextStatus then retryTx task workerID message now db
  else finishTx task workerID nextStatus message now db

/-- The query of `FailAllRunningForWorker`. -/
def runningOf (workerID : String) (db : Database) : List Task :=
  db.tasks.filter fun task => task.status == .running && task.lockedBy == some workerID

structure FinalRequest where
  task : Task
  workerID : String
  nextStatus : TaskStatus
  message : String
  deriving DecidableEq

/-- `queue` holds the tasks that a bulk failure has still to treat. -/
inductive RequestState where
  | idle
  | finishing (request : FinalRequest) (queue : List String)
  | failing (workerID reason : String) (queue : List String)
  deriving DecidableEq

structure State where
  db : Database
  requests : Nat → RequestState

inductive Action where
  | create (taskID taskType payload : String) (runAt : Instant)
      (maxRetriesRaw backoffRaw : Option Int) (now : Instant) (fails : Bool)
  | claim (workerID : String) (limit : Int) (now : Instant) (fails : Bool)
  | markTaskDone (request : Nat) (id workerID : String)
  | markTaskFailed (request : Nat) (id workerID reason : String)
  | failAllRunningForWorker (request : Nat) (workerID reason : String)
  | readNext (request : Nat)
  | commit (request : Nat) (now : Instant) (fails : Bool)

def State.Initial (s : State) : Prop :=
  s.db = { tasks := [], events := [] } ∧ s.requests = fun _ => .idle

def State.setRequest (s : State) (request : Nat) (state : RequestState) : State :=
  { s with requests := fun other => if other = request then state else s.requests other }

/-- Where a bulk failure goes on; without tasks left the call is over. -/
def continueWith (workerID reason : String) : List String → RequestState
  | [] => .idle
  | queue => .failing workerID reason queue

/-- The transaction of an action and how it ends, if the action has one. -/
def State.transaction (format : Instant → String) (s : State) :
    Action → Option (Except StoreError Database)
  | .create taskID taskType payload runAt maxRetriesRaw backoffRaw now fails =>
    match normalizeRetryPolicy maxRetriesRaw backoffRaw with
    | .error _ => none
    | .ok (maxRetries, backoff) =>
      if fails then some (.error .database)
      else some ((createTask taskID taskType payload runAt maxRetries backoff now s.db).map
        Prod.snd)
  | .claim workerID limit now fails =>
    if fails then some (.error .database)
    else some ((claimReadyTasks format workerID limit now s.db).map Prod.snd)
  | .commit request now fails =>
    match s.requests request with
    | .finishing final _ =>
      if fails then some (.error .database)
      else some (finalTx final.task final.workerID final.nextStatus final.message now s.db)
    | _ => none
  | _ => none

def State.dbAfter (format : Instant → String) (s : State) (action : Action) : Database :=
  match s.transaction format action with
  | some (.ok db) => db
  | _ => s.db

def readRequest (db : Database) (id workerID : String) (nextStatus : TaskStatus)
    (message : String) (queue : List String) : RequestState :=
  match readFinal id workerID db with
  | .ok task =>
    .finishing { task := task, workerID := workerID, nextStatus := nextStatus,
                 message := message } queue
  | .error .idAndWorkerRequired => .idle
  | .error _ => continueWith workerID message queue

def State.requestAfter (s : State) : Action → Option (Nat × RequestState)
  | .create .. => none
  | .claim .. => none
  | .markTaskDone request id workerID =>
    some (request, readRequest s.db id workerID .done "" [])
  | .markTaskFailed request id workerID reason =>
    some (request, readRequest s.db id workerID .failed reason [])
  | .failAllRunningForWorker request workerID reason =>
    some (request, if workerID = "" then .idle
      else continueWith workerID reason ((runningOf workerID s.db).map Task.id))
  | .readNext request =>
    match s.requests request with
    | .failing workerID reason (id :: queue) =>
      some (request, readRequest s.db id workerID .failed reason queue)
    | _ => none
  | .commit request _ fails =>
    match s.requests request with
    | .finishing final queue =>
      some (request, if fails then .idle
        else continueWith final.workerID final.message queue)
    | _ => none

/-- Which actions are possible: a call starts when its number is free, and goes
on from where it is. -/
def State.possible (s : State) : Action → Bool
  | .create .. => true
  | .claim .. => true
  | .markTaskDone request _ _ => s.requests request = .idle
  | .markTaskFailed request _ _ _ => s.requests request = .idle
  | .failAllRunningForWorker request _ _ => s.requests request = .idle
  | .readNext request =>
    match s.requests request with
    | .failing .. => true
    | _ => false
  | .commit request _ _ =>
    match s.requests request with
    | .finishing .. => true
    | _ => false

def step (format : Instant → String) (s : State) (action : Action) : Option State :=
  if s.possible action then
    let next := { s with db := s.dbAfter format action }
    match s.requestAfter action with
    | some (request, state) => some (next.setRequest request state)
    | none => some next
  else none

def State.worker? (s : State) : Action → Option String
  | .claim workerID _ _ _ => some workerID
  | .commit request _ _ =>
    match s.requests request with
    | .finishing final _ => some final.workerID
    | _ => none
  | _ => none

section

variable {format : Instant → String} {s next : State} {action : Action} {workerID : String}
  {queue rest : List String} {final : FinalRequest} {db : Database}

theorem step_db (taken : step format s action = some next) : next.db = s.dbAfter format action := by
  unfold step at taken
  split_ifs at taken
  split at taken
  · cases taken
    rfl
  · cases taken
    rfl

theorem continue_not_finishing {reason : String} :
    continueWith workerID reason queue ≠ .finishing final rest := by
  cases queue <;> exact nofun

theorem read_request_finishing {id message : String} {nextStatus : TaskStatus}
    (read : readRequest db id workerID nextStatus message queue = .finishing final rest) :
    readFinal id final.workerID db = .ok final.task ∧ final.nextStatus = nextStatus := by
  unfold readRequest at read
  split at read
  next task found =>
    cases read
    exact ⟨found, rfl⟩
  · cases read
  · exact absurd read continue_not_finishing

theorem step_finishing (taken : step format s action = some next) {request : Nat}
    (finishing : next.requests request = .finishing final queue) : s.requests request =
    .finishing final queue ∨ (∃ id, readFinal id final.workerID s.db = .ok final.task) ∧
    next.db = s.db ∧ (final.nextStatus = .done ∨ final.nextStatus = .failed) := by
  have sameDb := step_db taken
  unfold step at taken
  split_ifs at taken with possible
  cases moved : s.requestAfter action with
  | none =>
    rw [moved] at taken
    cases taken
    exact .inl finishing
  | some target =>
    obtain ⟨mover, state⟩ := target
    rw [moved] at taken
    cases taken
    by_cases same : request = mover
    · subst same
      have reached : state = .finishing final queue := by
        simpa [State.setRequest] using finishing
      subst reached
      cases action with
      | create | claim => cases moved
      | markTaskDone mover id workerID =>
        have arrived := (Prod.mk.inj (some.inj moved)).2
        obtain ⟨read, sameStatus⟩ := read_request_finishing arrived
        exact .inr ⟨⟨id, read⟩, sameDb, .inl sameStatus⟩
      | markTaskFailed mover id workerID reason =>
        have arrived := (Prod.mk.inj (some.inj moved)).2
        obtain ⟨read, sameStatus⟩ := read_request_finishing arrived
        exact .inr ⟨⟨id, read⟩, sameDb, .inr sameStatus⟩
      | failAllRunningForWorker mover workerID reason =>
        have arrived := (Prod.mk.inj (some.inj moved)).2
        split_ifs at arrived
        exact absurd arrived continue_not_finishing
      | readNext mover =>
        unfold State.requestAfter at moved
        dsimp only at moved
        split at moved
        next workerID reason id rest _ =>
          have arrived := (Prod.mk.inj (some.inj moved)).2
          obtain ⟨read, sameStatus⟩ := read_request_finishing arrived
          exact .inr ⟨⟨id, read⟩, sameDb, .inr sameStatus⟩
        · cases moved
      | commit mover now fails =>
        unfold State.requestAfter at moved
        dsimp only at moved
        split at moved
        · have arrived := (Prod.mk.inj (some.inj moved)).2
          split_ifs at arrived
          exact absurd arrived continue_not_finishing
        · cases moved
    · refine .inl ?_
      simpa [State.setRequest, same] using finishing

theorem normalize_retry_policy_nonneg {maxRetriesRaw backoffRaw : Option Int}
    {maxRetries backoff : Int}
    (accepted : normalizeRetryPolicy maxRetriesRaw backoffRaw = .ok (maxRetries, backoff)) :
    0 ≤ maxRetries := by
  unfold normalizeRetryPolicy at accepted
  dsimp only at accepted
  split_ifs at accepted with outside none unusable
  · cases accepted
    exact Int.le_refl 0
  · cases accepted
    omega

theorem map_snd_eq_ok {Value : Type} {result : Except StoreError (Value × Database)}
    (done : result.map Prod.snd = .ok db) : ∃ value, result = .ok (value, db) := by
  cases result with
  | error err => cases done
  | ok pair =>
    cases done
    exact ⟨pair.1, rfl⟩

variable (format s action) in
theorem db_after_cases :
    s.dbAfter format action = s.db ∨
    (∃ taskID taskType payload runAt maxRetries backoff now task,
      createTask taskID taskType payload runAt maxRetries backoff now s.db =
        .ok (task, s.dbAfter format action) ∧
      0 ≤ maxRetries) ∨
    (∃ workerID limit now updates, s.worker? action = some workerID ∧
      claimReadyTasks format workerID limit now s.db = .ok (updates, s.dbAfter format action)) ∨
    ∃ request now final queue, s.requests request = .finishing final queue ∧
      action = .commit request now false ∧ s.worker? action = some final.workerID ∧
      finalTx final.task final.workerID final.nextStatus final.message now s.db =
        .ok (s.dbAfter format action) := by
  cases outcome : s.transaction format action with
  | none =>
    left
    unfold State.dbAfter
    rw [outcome]
  | some result =>
    cases result with
    | error err =>
      left
      unfold State.dbAfter
      rw [outcome]
    | ok db =>
      have reached : s.dbAfter format action = db := by
        unfold State.dbAfter
        rw [outcome]
      rw [reached]
      right
      cases action with
      | create taskID taskType payload runAt maxRetriesRaw backoffRaw now fails =>
        left
        unfold State.transaction at outcome
        dsimp only at outcome
        split at outcome
        · cases outcome
        next maxRetries backoff accepted =>
          split_ifs at outcome
          · cases outcome
          · obtain ⟨task, done⟩ := map_snd_eq_ok (some.inj outcome)
            exact ⟨taskID, taskType, payload, runAt, maxRetries, backoff, now, task, done,
              normalize_retry_policy_nonneg accepted⟩
      | claim workerID limit now fails =>
        right
        left
        unfold State.transaction at outcome
        dsimp only at outcome
        split_ifs at outcome
        · cases outcome
        · obtain ⟨updates, done⟩ := map_snd_eq_ok (some.inj outcome)
          exact ⟨workerID, limit, now, updates, rfl, done⟩
      | markTaskDone | markTaskFailed | failAllRunningForWorker | readNext => cases outcome
      | commit request now fails =>
        right
        right
        unfold State.transaction at outcome
        dsimp only at outcome
        split at outcome
        next final queue waiting =>
          split_ifs at outcome with failed
          · cases outcome
          rw [Bool.not_eq_true] at failed
          subst failed
          refine ⟨request, now, final, queue, waiting, rfl, ?_, some.inj outcome⟩
          simp only [State.worker?, waiting]
        · cases outcome

end

end RuneTerminal.Tasks
