import RuneTerminal.Tasks.Lifecycle
import RuneTerminal.Go.Time

/-! A claim selects and orders the tasks by the texts of their instants. It takes the tasks that are
due first as long as the texts are in the order of the instants. -/

namespace RuneTerminal.Tasks

open Go.Time List

/-- The returned tasks are due, and no task that is due and was left is due before one of
them. -/
structure RespectsDue (db : Database) (now : Instant) (updates : List Task) : Prop where
  due : ∀ task ∈ updates, ∃ row ∈ db.tasks, row.id = task.id ∧ row.status = .pending ∧
    row.dueAt ≤ now
  earliest : ∀ row ∈ db.tasks, row.status = .pending → row.dueAt ≤ now →
    row.id ∉ updates.map Task.id →
    ∀ claimed ∈ db.tasks, claimed.id ∈ updates.map Task.id → ¬row.dueAt < claimed.dueAt

def claimedTask (workerID : String) (now : Instant) (task : Task) : Task :=
  { lockRow workerID now task with nextRetryAt := none }

variable {format : Instant → String} {task : Task}

section

variable {workerID : String} {now : Instant} {limit : Nat}

theorem claimable_count {db : Database} (ids : (db.tasks.map Task.id).Nodup) (mem : task ∈ db.tasks)
    (isClaimable : claimable task.id task = true) : db.tasks.countP (claimable task.id) = 1 := by
  apply le_antisymm
  · calc db.tasks.countP (claimable task.id)
        ≤ db.tasks.countP (fun row => row.id == task.id) := by
          apply countP_mono_left
          intro row _ matched
          simp only [claimable, Bool.and_eq_true] at matched
          exact matched.1.1
      _ = (db.tasks.map Task.id).count task.id := by
          rw [count, countP_map]
          rfl
      _ ≤ 1 := nodup_iff_count_le_one.mp ids task.id
  · exact countP_pos_iff.mpr ⟨task, mem, isClaimable⟩

def lockRows (workerID : String) (now : Instant) (candidates rows : List Task) : List Task :=
  rows.map fun row =>
    if row.id ∈ candidates.map Task.id then lockRow workerID now row else row

theorem lock_rows_cons {db : Database} (ids : (db.tasks.map Task.id).Nodup) {rest : List Task}
    (apart : task.id ∉ rest.map Task.id) (ready : task ∈ db.tasks ∧ claimable task.id task = true) :
    lockRows workerID now rest (db.update (claimable task.id) (lockRow workerID now)).2.tasks =
    lockRows workerID now (task :: rest) db.tasks := by
  unfold lockRows Database.update
  rw [map_map]
  apply map_congr_left
  intro row mem
  dsimp only [Function.comp]
  rw [map_cons]
  by_cases same : row.id = task.id
  · have isTask := inj_on_of_nodup_map ids mem ready.1 same
    have locked : (lockRow workerID now task).id ∉ rest.map Task.id := apart
    simp only [isTask, ready.2, if_true, locked, if_false, mem_cons_self]
  · have untouched : ¬claimable task.id row = true := by simp [claimable, same]
    simp only [untouched, Bool.false_eq_true, if_false, mem_cons, same, false_or]

theorem claim_loop_claims {candidates : List Task} (nodup : (candidates.map Task.id).Nodup)
    {claimed : List Task} {db : Database} (ids : (db.tasks.map Task.id).Nodup)
    (ready : ∀ task ∈ candidates, task ∈ db.tasks ∧ claimable task.id task = true) :
    ∃ next, candidates.foldlM (claimCandidate workerID now) (claimed, db) =
    .ok (claimed ++ candidates.map (claimedTask workerID now), next) ∧
    next.tasks = lockRows workerID now candidates db.tasks := by
  induction candidates generalizing claimed db with
  | nil =>
    refine ⟨db, by rw [map_nil, append_nil]; rfl, ?_⟩
    simp [lockRows]
  | cons task rest ih =>
    rw [map_cons, nodup_cons] at nodup
    rw [forall_mem_cons] at ready
    have count : (db.update (claimable task.id) (lockRow workerID now)).1 = 1 :=
      claimable_count ids ready.1.1 ready.1.2
    have step : claimCandidate workerID now (claimed, db) task =
        .ok (claimed ++ [claimedTask workerID now task],
          (db.update (claimable task.id) (lockRow workerID now)).2.logEventTx
            (claimedEvent task workerID)) := by
      unfold claimCandidate
      dsimp only
      rw [if_neg (by rw [count]; decide), if_neg (by rw [count]; decide)]
      rfl
    have keptIDs : (((db.update (claimable task.id) (lockRow workerID now)).2.logEventTx
        (claimedEvent task workerID)).tasks.map Task.id).Nodup := by
      have same : (db.update (claimable task.id) (lockRow workerID now)).2.tasks.map Task.id =
          db.tasks.map Task.id := update_ids fun _ => rfl
      exact same ▸ ids
    have stillReady : ∀ other ∈ rest,
        other ∈ ((db.update (claimable task.id) (lockRow workerID now)).2.logEventTx
          (claimedEvent task workerID)).tasks ∧ claimable other.id other = true := by
      intro other mem
      obtain ⟨known, free⟩ := ready.2 other mem
      refine ⟨mem_update.mpr ⟨other, known, ?_⟩, free⟩
      have apart : ¬claimable task.id other = true := by
        intro matched
        simp only [claimable, Bool.and_eq_true, beq_iff_eq] at matched
        exact nodup.1 (matched.1.1 ▸ mem_map_of_mem mem)
      rw [if_neg apart]
    obtain ⟨next, done, rows⟩ := ih nodup.2 keptIDs stillReady
    refine ⟨next, ?_, rows.trans (lock_rows_cons ids nodup.1 ready.1)⟩
    rw [foldlM_cons, step]
    change rest.foldlM (claimCandidate workerID now) _ = _
    rw [done, map_cons, append_assoc, singleton_append]

theorem ready_claimable {db : Database} (mem : task ∈ selectReady format now limit db) :
    task ∈ db.tasks ∧ format task.dueAt ≤ format now ∧ claimable task.id task = true := by
  have sorted := mem_of_mem_take mem
  rw [mem_mergeSort, mem_filter] at sorted
  obtain ⟨known, isReady⟩ := sorted
  simp only [Bool.and_eq_true, decide_eq_true_eq] at isReady
  refine ⟨known, isReady.1.2, ?_⟩
  simp [claimable, isReady.1.1, isReady.2]

theorem select_ready_ids {db : Database} (ids : (db.tasks.map Task.id).Nodup) :
    ((selectReady format now limit db).map Task.id).Nodup := by
  apply List.Nodup.sublist (List.Sublist.map Task.id (take_sublist _ _))
  rw [((mergeSort_perm _ _).map Task.id).nodup_iff]
  exact ids.sublist (List.Sublist.map Task.id filter_sublist)

theorem claim_ready_tasks_claims {db : Database} (ids : (db.tasks.map Task.id).Nodup)
    (limit : Int) : ∃ next, claimReadyTasks format workerID limit now db =
    .ok ((selectReady format now (min limit 100).toNat db).map (claimedTask workerID now), next) ∧
    next.tasks =
    lockRows workerID now (selectReady format now (min limit 100).toNat db) db.tasks := by
  unfold claimReadyTasks
  by_cases none : limit ≤ 0
  · have empty : (min limit 100).toNat = 0 := by omega
    rw [if_pos none, empty]
    exact ⟨db, rfl, by simp [lockRows, selectReady]⟩
  rw [if_neg none]
  apply claim_loop_claims (select_ready_ids ids) ids
  intro task mem
  obtain ⟨known, _, free⟩ := ready_claimable mem
  exact ⟨known, free⟩

/-- How many pending tasks are due before an instant in the order `before`. -/
def pendingBefore (before : Instant → Instant → Prop) [DecidableRel before] (db : Database)
    (due : Instant) : Nat :=
  db.tasks.countP fun row => row.status == .pending && decide (before row.dueAt due)

def TextBefore (format : Instant → String) (first second : Instant) : Prop :=
  format first < format second

instance (format : Instant → String) : DecidableRel (TextBefore format) :=
  fun _ _ => inferInstanceAs (Decidable (_ < _))

/-- A claim takes the tasks whose texts are before that of a ready one, and then one with
the same text. -/
theorem select_ready_split {db : Database}
    (free : ∀ row ∈ db.tasks, row.status = .pending → row.lockedBy = none) (known : task ∈ db.tasks)
    (pending : task.status = .pending) (isReady : format task.dueAt ≤ format now) :
    ∃ earlier first others,
      (∀ limit, selectReady format now limit db = (earlier ++ first :: others).take limit) ∧
      (∀ row, row ∈ earlier ↔
        row ∈ db.tasks ∧ row.status = .pending ∧ TextBefore format row.dueAt task.dueAt) ∧
      format first.dueAt = format task.dueAt ∧
      earlier.length = pendingBefore (TextBefore format) db task.dueAt := by
  let ready := db.tasks.filter fun task =>
    task.status == .pending && decide (format task.dueAt ≤ format now) && task.lockedBy.isNone
  let ordered := ready.mergeSort fun left right => decide (format left.dueAt ≤ format right.dueAt)
  have sorted : ordered.Pairwise fun first second => format first.dueAt ≤ format second.dueAt := by
    apply List.Pairwise.imp (fun {_ _} first => of_decide_eq_true first)
    apply pairwise_mergeSort
    · intro a b c first second
      rw [decide_eq_true_eq] at first second ⊢
      exact le_trans first second
    · intro a b
      rw [Bool.or_eq_true, decide_eq_true_eq, decide_eq_true_eq]
      exact le_total _ _
  have mem : task ∈ ordered.filter fun row => ¬format row.dueAt < format task.dueAt := by
    rw [mem_filter, mem_mergeSort, mem_filter]
    exact ⟨⟨known, by simp [pending, isReady, free task known pending]⟩, by simp⟩
  have readyBefore : ∀ row ∈ db.tasks, (row.status == .pending &&
        decide (format row.dueAt ≤ format now) && row.lockedBy.isNone) = true ∧
        format row.dueAt < format task.dueAt ↔
      row.status = .pending ∧ TextBefore format row.dueAt task.dueAt := by
    intro row isRow
    rw [Bool.and_eq_true, Bool.and_eq_true, beq_iff_eq, decide_eq_true_eq]
    constructor
    · rintro ⟨⟨⟨isPending, _⟩, _⟩, less⟩
      exact ⟨isPending, less⟩
    · rintro ⟨isPending, less⟩
      exact ⟨⟨⟨isPending, (le_of_lt less).trans isReady⟩, by rw [free row isRow isPending]; rfl⟩,
        less⟩
  have whole := Kit.filter_append_filter_of_sorted sorted (format task.dueAt)
  obtain ⟨first, others, rest⟩ := exists_cons_of_ne_nil (ne_nil_of_mem mem)
  rw [rest] at whole mem
  refine ⟨_, first, others, fun limit => by rw [whole]; rfl, ?_, ?_, ?_⟩
  · intro row
    rw [mem_filter, mem_mergeSort, mem_filter, and_assoc, decide_eq_true_eq]
    exact and_congr_right (readyBefore row)
  · have notBefore : ¬format first.dueAt < format task.dueAt := by
      have isRest : first ∈ ordered.filter fun row => ¬format row.dueAt < format task.dueAt :=
        rest ▸ mem_cons_self
      simpa using (mem_filter.mp isRest).2
    rcases mem_cons.mp mem with rfl | later
    · rfl
    rw [← whole, pairwise_append, pairwise_cons] at sorted
    exact le_antisymm (sorted.2.1.1 task later) (not_lt.mp notBefore)
  · rw [← countP_eq_length_filter, (mergeSort_perm _ _).countP_eq, countP_filter]
    apply countP_congr
    intro row isRow
    rw [Bool.and_eq_true, decide_eq_true_eq, and_comm, readyBefore row isRow, Bool.and_eq_true,
      beq_iff_eq, decide_eq_true_eq]

/-- Every task that a claim returns is the one that `GetTask` finds afterwards. -/
def ReportsStored (format : Instant → String) (workerID : String) (limit : Int) (now : Instant)
    (db : Database) : Prop :=
  ∀ updates next, claimReadyTasks format workerID limit now db = .ok (updates, next) →
    ∀ task ∈ updates, getTask task.id next = .ok task

theorem get_task_of_mem {db : Database} (ids : (db.tasks.map Task.id).Nodup) {row : Task}
    (mem : row ∈ db.tasks) : getTask row.id db = .ok row := by
  unfold getTask
  rw [Kit.find_by_key Task.id ids mem]

section

variable {limit : Int} {db : Database}

theorem stored_after_claim (ids : (db.tasks.map Task.id).Nodup) :
    ∃ next, claimReadyTasks format workerID limit now db =
    .ok ((selectReady format now (min limit 100).toNat db).map (claimedTask workerID now), next) ∧
    ∀ task ∈ selectReady format now (min limit 100).toNat db, getTask task.id next =
    .ok (lockRow workerID now task) := by
  obtain ⟨next, done, rows⟩ := @claim_ready_tasks_claims format workerID now db ids limit
  have keptIDs : (next.tasks.map Task.id).Nodup := by
    have same : next.tasks.map Task.id = db.tasks.map Task.id := by
      rw [rows, lockRows, map_map]
      apply map_congr_left
      intro row _
      dsimp only [Function.comp]
      split_ifs <;> rfl
    exact same ▸ ids
  refine ⟨next, done, ?_⟩
  intro task selected
  have locked : lockRow workerID now task ∈ next.tasks := by
    rw [rows]
    refine mem_map.mpr ⟨task, (ready_claimable selected).1, ?_⟩
    rw [if_pos (mem_map_of_mem selected)]
  exact get_task_of_mem keptIDs locked

theorem unscheduled_of_reports (ids : (db.tasks.map Task.id).Nodup)
    (reports : ReportsStored format workerID limit now db)
    (selected : task ∈ selectReady format now (min limit 100).toNat db) :
    task.nextRetryAt = none := by
  obtain ⟨next, done, stored⟩ := stored_after_claim ids
  have reported : getTask task.id next = .ok (claimedTask workerID now task) :=
    reports _ next done _ (mem_map_of_mem selected)
  rw [stored task selected] at reported
  exact congrArg Task.nextRetryAt (Except.ok.inj reported)

end

/-- A claim reports what is stored unless it takes a task that a retry was scheduled for. -/
theorem reports_stored_iff (format : Instant → String) (workerID : String) (limit : Int)
    (now : Instant) {db : Database} (ids : (db.tasks.map Task.id).Nodup) :
    ReportsStored format workerID limit now db ↔
    ∀ task ∈ selectReady format now (min limit 100).toNat db, task.nextRetryAt = none := by
  constructor
  · intro reports task selected
    exact unscheduled_of_reports ids reports selected
  intro unscheduled updates next done task mem
  obtain ⟨_, claims, stored⟩ := @stored_after_claim format workerID now limit db ids
  rw [claims] at done
  cases done
  obtain ⟨selected, taken, rfl⟩ := mem_map.mp mem
  have same : claimedTask workerID now selected = lockRow workerID now selected := by
    unfold claimedTask
    rw [← unscheduled selected taken]
    rfl
  exact same ▸ stored selected taken

end

/-- Every claim at `now` takes the pending tasks that are due first. -/
def ClaimsRespectDue (format : Instant → String) (db : Database) (now : Instant) : Prop :=
  ∀ workerID limit, ∃ updates next,
    claimReadyTasks format workerID limit now db = .ok (updates, next) ∧ RespectsDue db now updates

/-- A pending task that comes not behind `now` and among the first hundred in the order `before` is
due, and so is no other one before it in time but behind it in that order. -/
def FirstAreDue (before : Instant → Instant → Prop) [DecidableRel before] (db : Database)
    (now : Instant) : Prop :=
  ∀ task ∈ db.tasks, task.status = .pending → ¬before now task.dueAt →
    pendingBefore before db task.dueAt < 100 →
    task.dueAt ≤ now ∧
      ∀ row ∈ db.tasks, row.status = .pending → row.dueAt < task.dueAt →
        before row.dueAt task.dueAt

section

variable {db : Database} {now : Instant}

theorem claims_respect_due (inv : DatabaseConsistent db)
    (ordered : FirstAreDue (TextBefore format) db now) : ClaimsRespectDue format db now := by
  intro workerID limit
  have free : ∀ row ∈ db.tasks, row.status = .pending → row.lockedBy = none :=
    fun row known => (inv.owners row known).1
  obtain ⟨next, done, _⟩ :=
    @claim_ready_tasks_claims format workerID now db inv.ids limit
  have taken : ∀ task ∈ selectReady format now (min limit 100).toNat db,
      task ∈ db.tasks ∧ task.status = .pending ∧ task.dueAt ≤ now ∧
        ∀ row ∈ db.tasks, row.status = .pending → row.dueAt < task.dueAt →
          row ∈ selectReady format now (min limit 100).toNat db := by
    intro task selected
    obtain ⟨known, isReady, claims⟩ := ready_claimable selected
    simp only [claimable, Bool.and_eq_true, beq_iff_eq] at claims
    obtain ⟨earlier, first, others, takes, isEarlier, _, count⟩ :=
      select_ready_split free known claims.1.2 isReady
    rw [takes] at selected
    have short : earlier.length < (min limit 100).toNat := by
      by_contra long
      rw [take_append_of_le_length (by omega)] at selected
      exact lt_irrefl _ ((isEarlier task).mp (mem_of_mem_take selected)).2.2
    obtain ⟨isDue, before⟩ := ordered task known claims.1.2 (not_lt.mpr isReady) (by omega)
    refine ⟨known, claims.1.2, isDue, ?_⟩
    intro row isRow pending less
    rw [takes, take_append]
    have inside := (isEarlier row).mpr ⟨isRow, pending, before row isRow pending less⟩
    rw [take_of_length_le (by omega)]
    exact mem_append_left _ inside
  refine ⟨_, next, done, ?_, ?_⟩
  · intro task mem
    obtain ⟨selected, isSelected, rfl⟩ := mem_map.mp mem
    obtain ⟨known, pending, isDue, _⟩ := taken selected isSelected
    exact ⟨selected, known, rfl, pending, isDue⟩
  intro row known pending _ left claimed claimedKnown returned less
  rw [map_map] at left returned
  obtain ⟨selected, isSelected, sameID⟩ := mem_map.mp returned
  obtain ⟨selectedKnown, _, _, before⟩ := taken selected isSelected
  have same : selected = claimed :=
    inj_on_of_nodup_map inv.ids selectedKnown claimedKnown sameID
  exact left (mem_map_of_mem (f := Task.id ∘ claimedTask workerID now)
    (before row known pending (same ▸ less)))

/-- With a limit that just reaches a task, a claim takes it and those before it. -/
theorem first_are_due (inv : DatabaseConsistent db) (injective : Function.Injective format)
    (respects : ClaimsRespectDue format db now) : FirstAreDue (TextBefore format) db now := by
  intro task known pending notBehind early
  have free : ∀ row ∈ db.tasks, row.status = .pending → row.lockedBy = none :=
    fun row known => (inv.owners row known).1
  obtain ⟨earlier, first, others, takes, isEarlier, sameText, count⟩ :=
    select_ready_split free known pending (not_lt.mp notBehind)
  have sameDue := injective sameText
  obtain ⟨updates, next, done, isDue, earliest⟩ := respects "worker" (earlier.length + 1)
  obtain ⟨_, claims, _⟩ :=
    @claim_ready_tasks_claims format "worker" now db inv.ids (earlier.length + 1)
  have limit : (min (earlier.length + 1 : Int) 100).toNat = earlier.length + 1 := by omega
  have selects : selectReady format now (earlier.length + 1) db = earlier ++ [first] := by
    rw [takes, take_append, take_of_length_le (by omega), Nat.add_sub_cancel_left]
    rfl
  rw [claims, limit, selects] at done
  cases done
  have isFirst : first ∈ selectReady format now (earlier.length + 1) db := by
    rw [selects]
    exact mem_append_right _ mem_cons_self
  have firstKnown := (ready_claimable isFirst).1
  have dueNow : task.dueAt ≤ now := by
    obtain ⟨row, isRow, sameID, _, due⟩ :=
      isDue (claimedTask "worker" now first) (mem_map_of_mem (mem_append_right _ mem_cons_self))
    rw [inj_on_of_nodup_map inv.ids isRow firstKnown sameID, sameDue] at due
    exact due
  refine ⟨dueNow, ?_⟩
  intro row isRow rowPending less
  by_contra behind
  have left : row.id ∉ ((earlier ++ [first]).map (claimedTask "worker" now)).map Task.id := by
    rw [map_map]
    intro mem
    obtain ⟨selected, isSelected, sameID⟩ := mem_map.mp mem
    have selectedKnown := (ready_claimable (selects ▸ isSelected)).1
    rw [inj_on_of_nodup_map inv.ids selectedKnown isRow sameID] at isSelected
    rcases mem_append.mp isSelected with before | last
    · exact behind ((isEarlier row).mp before).2.2
    · rw [mem_singleton.mp last, sameDue] at less
      exact lt_irrefl _ less
  have returned : first.id ∈ ((earlier ++ [first]).map (claimedTask "worker" now)).map Task.id := by
    rw [map_map]
    exact mem_map_of_mem (mem_append_right _ mem_cons_self)
  exact earliest row isRow rowPending (less.le.trans dueNow) left first firstKnown returned
    (sameDue ▸ less)

end

def scheduledTask (runAt : Instant) : Task where
  id := "task_1"
  type := "sync"
  payload := ""
  status := .pending
  runAt := runAt
  createdAt := 0
  maxRetries := 0
  retryBackoffSeconds := 0

def scheduledStore (runAt : Instant) : Database where
  tasks := [scheduledTask runAt]
  events :=
    [{ taskID := "task_1", fromStatus := none, toStatus := .pending, workerID := "",
       message := "created" }]

theorem scheduled_created (runAt : Instant) :
    createTask "task_1" "sync" "" runAt 0 0 0 emptyStore.db =
      .ok (scheduledTask runAt, scheduledStore runAt) := rfl

theorem scheduled_consistent (runAt : Instant) : DatabaseConsistent (scheduledStore runAt) := by
  have empty : DatabaseConsistent emptyStore.db := (start_consistent ⟨rfl, rfl⟩).db
  obtain ⟨event, created, _, next⟩ := create_task_created empty (scheduled_created runAt)
  rw [next]
  exact created.consistent empty

theorem single_selected {now : Instant} {db : Database} (single : db.tasks = [task])
    (pending : task.status = .pending) (free : task.lockedBy = none)
    (isReady : format task.dueAt ≤ format now) : selectReady format now 1 db = [task] := by
  have kept : task.status == .pending ∧ decide (format task.dueAt ≤ format now) = true ∧
      task.lockedBy.isNone = true := by
    simp [pending, free, isReady]
  unfold selectReady
  rw [single]
  dsimp only
  rw [filter_singleton, kept.1, kept.2.1, kept.2.2, Bool.and_true, Bool.and_true, cond_true,
    mergeSort_singleton, take_succ_cons, take_zero]

theorem scheduled_selected {now due : Instant} (isReady : format due ≤ format now) :
    selectReady format now 1 (scheduledStore due) = [scheduledTask due] :=
  single_selected rfl rfl rfl isReady

theorem first_claim_reported : ReportsStored formatRFC3339Nano "worker" 1 5 (scheduledStore 5) := by
  rw [reports_stored_iff _ _ _ _ (by decide)]
  intro task selected
  have member := (ready_claimable selected).1
  rw [mem_singleton.mp member]
  rfl

def retriedTask : Task :=
  retryRow { scheduledTask 0 with maxRetries := 1, retryBackoffSeconds := 1 } "failed" 0
    { scheduledTask 0 with
      status := .running, lockedBy := some "worker", maxRetries := 1, retryBackoffSeconds := 1 }

theorem retried_claim_misreported :
    ¬ReportsStored formatRFC3339Nano "worker" 1 retriedTask.dueAt
      { tasks := [retriedTask], events := [] } := by
  intro reports
  have selected : retriedTask ∈ selectReady formatRFC3339Nano retriedTask.dueAt
      (min 1 100 : Int).toNat { tasks := [retriedTask], events := [] } := by
    rw [show (min 1 100 : Int).toNat = 1 from rfl, single_selected rfl rfl rfl le_rfl]
    exact mem_cons_self
  have unscheduled := unscheduled_of_reports (by decide) reports selected
  cases unscheduled

/-- Two instants whose texts at `time.RFC3339Nano` are in the wrong order: they lie in one
second, and the digits of the earlier fraction begin those of the later one. -/
def Misordered (early late : Instant) : Prop :=
  early / 1000000000 = late / 1000000000 ∧
    shortFraction (civil early).nanosecond <+: shortFraction (civil late).nanosecond

instance (early late : Instant) : Decidable (Misordered early late) :=
  inferInstanceAs (Decidable (_ ∧ _))

/-- The order of the texts of two instants with years of four digits. -/
def MisorderedBefore (first second : Instant) : Prop :=
  first < second ∧ ¬Misordered first second ∨ second < first ∧ Misordered second first

instance : DecidableRel MisorderedBefore :=
  fun _ _ => inferInstanceAs (Decidable (_ ∨ _))

theorem text_before_iff {first second : Instant} (fourDigits : (civil first).year < 10000)
    (fourDigitsOther : (civil second).year < 10000) :
    TextBefore formatRFC3339Nano first second ↔ MisorderedBefore first second := by
  unfold TextBefore MisorderedBefore
  rcases lt_trichotomy first second with less | rfl | greater
  · simp [format_rfc3339_nano_of_lt fourDigits fourDigitsOther less, less, not_lt.mpr less.le,
      Misordered]
  · simp
  · simp [format_rfc3339_nano_of_lt fourDigitsOther fourDigits greater, greater,
      not_lt.mpr greater.le, Misordered]

/-- All claims at an instant respect the due times exactly when the first hundred pending tasks in
the order of the texts are due, and none that is due before one of them comes behind it. -/
theorem claims_respect_due_iff {db : Database} (inv : DatabaseConsistent db) (now : Instant) :
    (ClaimsRespectDue formatRFC3339Nano db now ↔
      FirstAreDue (TextBefore formatRFC3339Nano) db now) ∧
    ((civil now).year < 10000 →
      (∀ task ∈ db.tasks, task.status = .pending → (civil task.dueAt).year < 10000) →
      (ClaimsRespectDue formatRFC3339Nano db now ↔ FirstAreDue MisorderedBefore db now)) := by
  have exactly : ClaimsRespectDue formatRFC3339Nano db now ↔
      FirstAreDue (TextBefore formatRFC3339Nano) db now :=
    ⟨first_are_due inv format_rfc3339_nano_injective, claims_respect_due inv⟩
  refine ⟨exactly, ?_⟩
  intro fourDigits pendingDigits
  rw [exactly]
  apply forall₂_congr
  intro task known
  apply forall_congr'
  intro pending
  have digits := pendingDigits task known pending
  have sameCount : pendingBefore (TextBefore formatRFC3339Nano) db task.dueAt =
      pendingBefore MisorderedBefore db task.dueAt := by
    apply countP_congr
    intro row isRow
    simp only [Bool.and_eq_true, beq_iff_eq, decide_eq_true_eq]
    exact and_congr_right fun isPending =>
      text_before_iff (pendingDigits row isRow isPending) digits
  rw [text_before_iff fourDigits digits, sameCount]
  apply forall₂_congr
  intro _ _
  apply and_congr_right
  intro _
  apply forall₂_congr
  intro row isRow
  apply forall₂_congr
  intro isPending _
  exact text_before_iff (pendingDigits row isRow isPending) digits

def wholeSecond : Instant := 63900000000 * nanosecondsPerSecond

theorem half_second_misordered :
    ¬ClaimsRespectDue formatRFC3339Nano (scheduledStore (wholeSecond + 500000000)) wholeSecond := by
  rw [(claims_respect_due_iff (scheduled_consistent _) wholeSecond).2 (by decide +kernel)]
  · intro claims
    have early := (claims (scheduledTask (wholeSecond + 500000000)) mem_cons_self rfl
      (by decide +kernel) (by decide +kernel)).1
    exact absurd early (by decide)
  · intro task mem _
    rw [mem_singleton.mp mem]
    decide +kernel

/-- A task that is due half a second later is claimed. -/
theorem task_claimed_early :
    createTask "task_1" "sync" "" (wholeSecond + 500000000) 0 0 0 emptyStore.db =
      .ok (scheduledTask (wholeSecond + 500000000), scheduledStore (wholeSecond + 500000000)) ∧
    ∃ updates next,
      claimReadyTasks formatRFC3339Nano "worker" 1 wholeSecond
        (scheduledStore (wholeSecond + 500000000)) =
        .ok (updates, next) ∧
      ¬RespectsDue (scheduledStore (wholeSecond + 500000000)) wholeSecond updates := by
  refine ⟨rfl, ?_⟩
  obtain ⟨next, done, _⟩ := @claim_ready_tasks_claims formatRFC3339Nano "worker" wholeSecond _
    (scheduled_consistent (wholeSecond + 500000000)).ids 1
  refine ⟨_, next, done, ?_⟩
  have isReady : formatRFC3339Nano (wholeSecond + 500000000) ≤ formatRFC3339Nano wholeSecond := by
    decide +kernel
  intro respects
  have isDue := respects.due
  change ∀ task ∈ (selectReady formatRFC3339Nano wholeSecond 1 _).map _, _ at isDue
  rw [scheduled_selected isReady] at isDue
  obtain ⟨row, known, _, _, early⟩ := isDue _ (mem_singleton.mpr rfl)
  rw [mem_singleton.mp known] at early
  exact absurd early (by decide)

end RuneTerminal.Tasks
