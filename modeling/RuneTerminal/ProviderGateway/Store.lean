import Mathlib.Data.Prod.Lex
import RuneTerminal.Go.Strings
import RuneTerminal.Go.Time
import RuneTerminal.Kit.NearestDouble
import RuneTerminal.Kit.Transition

/-! `core/providergateway/store.go` on the table `provider_gateway_runs`: a run is normalized and
inserted under its context, and the statistics are read back with one query. -/

namespace RuneTerminal.ProviderGateway

open Go Go.Strings Kit List

def runModeSync : String := "sync"
def runModeStream : String := "stream"
def runStatusSucceeded : String := "succeeded"
def runStatusFailed : String := "failed"
def runStatusCancelled : String := "cancelled"

/-- A run, with its times as instants or as texts. -/
structure RunColumns (Time : Type) where
  id : String := ""
  providerID : String
  providerKind : String
  providerDisplayName : String
  actorUsername : String
  actorHomeDir : String
  requestMode : String
  model : String
  conversationID : String
  status : String
  errorCode : String
  errorMessage : String
  routeReady : Bool
  routeStatusState : String
  routeStatusMessage : String
  routePrepared : Bool
  routePrepareState : String
  routePrepareMessage : String
  resolvedBinary : String
  baseURL : String
  durationMS : Int
  firstResponseLatencyMS : Int
  startedAt : Time
  completedAt : Time

/-- `RunRecord`, with instants as `Go.Time` has them: 0 is the zero time. -/
abbrev RunRecord := RunColumns Nat

/-- A row of `provider_gateway_runs`. -/
abbrev RunRow := RunColumns String

/-- What a view of a provider shows of its runs. -/
structure RunFigures where
  totalRuns : Nat := 0
  succeededRuns : Nat := 0
  failedRuns : Nat := 0
  cancelledRuns : Nat := 0
  averageDurationMS : Int := 0
  averageFirstResponseLatencyMS : Int := 0
  lastDurationMS : Int := 0
  lastFirstResponseLatencyMS : Int := 0
  lastStatus : String := ""
  lastErrorCode : String := ""
  lastErrorMessage : String := ""
  lastStartedAt : Option Nat := none
  lastCompletedAt : Option Nat := none

structure ProviderStats extends RunFigures where
  providerID : String
  providerKind : String
  providerDisplayName : String

inductive DatabaseError where
  | contextDone
  | duplicateID

inductive StoreError where
  | database (doing : String) (cause : DatabaseError)
  | parse (doing text : String)

section

variable (lib : TextLibrary)

def normalizeRequestMode (mode : String) : String :=
  if trimSpace (lib.toLower mode) = runModeSync then runModeSync else runModeStream

def normalizeRunStatus (status : String) : String :=
  if trimSpace (lib.toLower status) = runStatusCancelled then runStatusCancelled
  else if trimSpace (lib.toLower status) = runStatusFailed then runStatusFailed
  else runStatusSucceeded

/-- `normalizeRunRecord`, which may draw an id and read the clock. -/
def normalizeRunRecord (newID : String) (now : Nat) (run : RunRecord) : RunRecord :=
  let status := normalizeRunStatus lib run.status
  let startedAt := if run.startedAt = 0 then now else run.startedAt
  { id := if trimSpace run.id = "" then newID else run.id
    providerID := trimSpace run.providerID
    providerKind := trimSpace run.providerKind
    providerDisplayName := trimSpace run.providerDisplayName
    actorUsername := trimSpace run.actorUsername
    actorHomeDir := trimSpace run.actorHomeDir
    requestMode := normalizeRequestMode lib run.requestMode
    model := trimSpace run.model
    conversationID := trimSpace run.conversationID
    status := status
    errorCode := if status = runStatusSucceeded then "" else trimSpace run.errorCode
    errorMessage := if status = runStatusSucceeded then "" else trimSpace run.errorMessage
    routeReady := run.routeReady
    routeStatusState := trimSpace run.routeStatusState
    routeStatusMessage := trimSpace run.routeStatusMessage
    routePrepared := run.routePrepared
    routePrepareState := trimSpace run.routePrepareState
    routePrepareMessage := trimSpace run.routePrepareMessage
    resolvedBinary := trimSpace run.resolvedBinary
    baseURL := trimSpace run.baseURL
    durationMS := if run.durationMS < 0 then 0 else run.durationMS
    firstResponseLatencyMS :=
      if run.firstResponseLatencyMS < 0 then 0 else run.firstResponseLatencyMS
    startedAt := startedAt
    completedAt :=
      if run.completedAt = 0 ∨ run.completedAt < startedAt then startedAt else run.completedAt }

/-- The row that `RecordRun` inserts for a run. -/
def runRow (run : RunRecord) : RunRow :=
  { run with
    startedAt := Time.formatRFC3339Nano run.startedAt
    completedAt := Time.formatRFC3339Nano run.completedAt }

/-- `RecordRun` under a context that may be done. The id is the primary key. -/
def recordRun (contextDone : Bool) (newID : String) (now : Nat) (rows : List RunRow)
    (run : RunRecord) : Except StoreError (List RunRow × RunRecord) :=
  let normalized := normalizeRunRecord lib newID now run
  if contextDone then .error (.database "record provider gateway run" .contextDone)
  else if normalized.id ∈ rows.map (·.id) then
    .error (.database "record provider gateway run" .duplicateID)
  else .ok (rows ++ [runRow normalized], normalized)

end

/-- A group of `provider_rollups`. -/
structure Rollup where
  providerID : String
  providerKind : String
  totalRuns : Nat
  succeededRuns : Nat
  failedRuns : Nat
  cancelledRuns : Nat
  averageDurationMS : Int
  averageFirstResponseLatencyMS : Int

/-- `AVG`, which is a double. -/
def avg (column : List Int) : ℚ :=
  nearestDouble (nearestDouble column.sum / column.length)

/-- `CAST(x AS INTEGER)`. -/
def castInteger (x : ℚ) : Int := if 0 ≤ x then ⌊x⌋ else ⌈x⌉

def runGroup (row : RunRow) : String × String := (row.providerID, row.providerKind)

def rollupOf (rows : List RunRow) (group : String × String) : Rollup :=
  let members := rows.filter (runGroup · = group)
  { providerID := group.1
    providerKind := group.2
    totalRuns := members.length
    succeededRuns := members.countP (·.status = runStatusSucceeded)
    failedRuns := members.countP (·.status = runStatusFailed)
    cancelledRuns := members.countP (·.status = runStatusCancelled)
    averageDurationMS := castInteger (avg (members.map (·.durationMS)))
    averageFirstResponseLatencyMS := castInteger (avg (members.map (·.firstResponseLatencyMS))) }

/-- `provider_rollups`: the query leaves the order of its groups open. -/
def providerRollups (rows : List RunRow) : List Rollup :=
  (rows.map runGroup).dedup.map (rollupOf rows)

/-- `ORDER BY started_at DESC, id DESC`. -/
def startedLater (first second : RunRow) : Bool :=
  second.startedAt < first.startedAt ||
    (first.startedAt == second.startedAt && second.id ≤ first.id)

def latestRun (rows : List RunRow) (providerID : String) : Option RunRow :=
  ((rows.filter (·.providerID = providerID)).mergeSort startedLater).head?

/-- `JOIN provider_gateway_runs AS latest ON latest.id = …`. -/
def joinLatest (rows : List RunRow) : List (Rollup × RunRow) :=
  (providerRollups rows).flatMap fun rollup =>
    (rows.filter fun row => some row.id = (latestRun rows rollup.providerID).map (·.id)).map
      fun latest => (rollup, latest)

/-- `ORDER BY latest.started_at DESC, rollup.provider_id`. -/
def lastStartedFirst (first second : Rollup × RunRow) : Bool :=
  second.2.startedAt < first.2.startedAt ||
    (first.2.startedAt == second.2.startedAt && first.1.providerID ≤ second.1.providerID)

section

variable (lib : TextLibrary)

def scanTime (doing text : String) : Except StoreError (Option Nat) :=
  if trimSpace text = "" then .ok none
  else
    match Time.parseRFC3339Nano text.toList with
    | some instant => .ok (some instant)
    | none => .error (.parse doing text)

def scanProviderStats (selected : Rollup × RunRow) : Except StoreError ProviderStats := do
  let (rollup, latest) := selected
  let lastStartedAt ← scanTime "parse provider gateway stats started_at" latest.startedAt
  let lastCompletedAt ← scanTime "parse provider gateway stats completed_at" latest.completedAt
  return {
    providerID := trimSpace rollup.providerID
    providerKind := trimSpace rollup.providerKind
    providerDisplayName := trimSpace latest.providerDisplayName
    totalRuns := rollup.totalRuns
    succeededRuns := rollup.succeededRuns
    failedRuns := rollup.failedRuns
    cancelledRuns := rollup.cancelledRuns
    averageDurationMS := max rollup.averageDurationMS 0
    averageFirstResponseLatencyMS := max rollup.averageFirstResponseLatencyMS 0
    lastDurationMS := max latest.durationMS 0
    lastFirstResponseLatencyMS := max latest.firstResponseLatencyMS 0
    lastStatus := normalizeRunStatus lib latest.status
    lastErrorCode := trimSpace latest.errorCode
    lastErrorMessage := trimSpace latest.errorMessage
    lastStartedAt
    lastCompletedAt }

/-- `ListProviderStats` under a context that is not done. -/
def listProviderStats (rows : List RunRow) : Except StoreError (List ProviderStats) :=
  ((joinLatest rows).mergeSort lastStartedFirst).mapM (scanProviderStats lib)

end

theorem cast_avg {numbers : List Nat} (nonempty : numbers ≠ []) (small : numbers.sum < 2 ^ 52) :
    castInteger (avg (numbers.map Nat.cast)) = ((numbers.sum / numbers.length : Nat) : Int) := by
  have positive : 0 < numbers.length := length_pos_iff.mpr nonempty
  have total : (numbers.map (Nat.cast : Nat → Int)).sum = (numbers.sum : Int) := by
    exact (map_list_sum (Nat.castRingHom Int) numbers).symm
  have exact : nearestDouble ((numbers.sum : Int) : ℚ) = ((numbers.sum : Nat) : ℚ) := by
    have digits : |(numbers.sum : Int)| < 2 ^ 53 := by
      rw [abs_of_nonneg (Int.natCast_nonneg _)]
      omega
    rw [nearest_double_int digits, Int.cast_natCast]
  have mean : ⌊avg (numbers.map Nat.cast)⌋ = ((numbers.sum / numbers.length : Nat) : Int) := by
    rw [avg, total, exact, length_map, floor_nearest_double_div positive small]
  have nonneg : 0 ≤ avg (numbers.map Nat.cast) := by
    have floor := Int.floor_le (avg (numbers.map Nat.cast))
    rw [mean] at floor
    refine le_trans ?_ floor
    exact_mod_cast Nat.zero_le (numbers.sum / numbers.length)
  rw [castInteger, if_pos nonneg, mean]

@[simp]
theorem rollup_of_provider_id (rows : List RunRow) (row : RunRow) :
    (rollupOf rows (runGroup row)).providerID = row.providerID := rfl

variable {rows : List RunRow} {latest : RunRow}

section

variable {providerID : String}

theorem started_later_iff {first second : RunRow} :
    startedLater first second = true ↔
      toLex (second.startedAt, second.id) ≤ toLex (first.startedAt, first.id) := by
  rw [Prod.Lex.toLex_le_toLex, @eq_comm _ second.startedAt]
  simp [startedLater]

theorem started_later_trans (first second third : RunRow)
    (before : startedLater first second = true) (after : startedLater second third = true) :
    startedLater first third = true := by
  rw [started_later_iff] at before after ⊢
  exact after.trans before

theorem started_later_total (first second : RunRow) :
    (startedLater first second || startedLater second first) = true := by
  rw [Bool.or_eq_true, started_later_iff, started_later_iff]
  exact le_total _ _

theorem latest_run_spec (picked : latestRun rows providerID = some latest) :
    latest ∈ rows ∧ latest.providerID = providerID ∧ ∀ row ∈ rows, row.providerID = providerID →
    row.startedAt ≤ latest.startedAt := by
  have sorted := pairwise_mergeSort started_later_trans started_later_total
    (rows.filter (·.providerID = providerID))
  have members : ∀ row, row ∈ (rows.filter (·.providerID = providerID)).mergeSort startedLater ↔
      row ∈ rows ∧ row.providerID = providerID := by
    intro row
    simp
  obtain ⟨rest, isSorted⟩ := head?_eq_some_iff.mp picked
  rw [isSorted] at sorted members
  have member := (members latest).mp mem_cons_self
  refine ⟨member.1, member.2, ?_⟩
  intro row isRow ofProvider
  rcases mem_cons.mp ((members row).mpr ⟨isRow, ofProvider⟩) with rfl | later
  · exact le_rfl
  · exact Prod.Lex.monotone_fst _ _ (started_later_iff.mp (rel_of_pairwise_cons sorted later))

theorem latest_run_exists {row : RunRow} (mem : row ∈ rows) :
    ∃ latest, latestRun rows row.providerID = some latest := by
  rw [← Option.isSome_iff_exists, latestRun, isSome_head?, ne_eq, ← length_eq_zero_iff,
    length_mergeSort, length_eq_zero_iff, filter_eq_nil_iff]
  intro none
  exact none row mem (by simp)

end

section

section

variable (nodup : (rows.map (·.id)).Nodup)
include nodup

theorem join_latest_eq :
    joinLatest rows = (providerRollups rows).filterMap fun rollup =>
    (latestRun rows rollup.providerID).map fun latest => (rollup, latest) := by
  rw [joinLatest, filterMap_eq_flatMap_toList]
  congr 1
  funext rollup
  cases picked : latestRun rows rollup.providerID with
  | none => simp
  | some latest =>
    have only : (rows.filter fun row => row.id = latest.id) = [latest] := by
      obtain ⟨before, after, split⟩ := append_of_mem (latest_run_spec picked).1
      rw [split, map_append, map_cons, nodup_append, nodup_cons] at nodup
      have notBefore : before.filter (fun row => row.id = latest.id) = [] := by
        rw [filter_eq_nil_iff]
        intro row mem
        simpa using nodup.2.2 row.id (mem_map_of_mem mem) latest.id
          mem_cons_self
      have notAfter : after.filter (fun row => row.id = latest.id) = [] := by
        rw [filter_eq_nil_iff]
        intro row mem same
        refine nodup.2.1.1 (mem_map.mpr ⟨row, mem, ?_⟩)
        simpa using same
      rw [split, filter_append, filter_cons_of_pos (by simp), notBefore, notAfter,
        nil_append]
    simp [only]

theorem mem_join_latest {rollup : Rollup} :
    (rollup, latest) ∈ joinLatest rows ↔ (∃ row ∈ rows, rollup = rollupOf rows (runGroup row)) ∧
    latestRun rows rollup.providerID = some latest := by
  rw [join_latest_eq nodup, mem_filterMap]
  constructor
  · rintro ⟨found, isGroup, joined⟩
    obtain ⟨picked, isPicked, same⟩ := Option.map_eq_some_iff.mp joined
    cases same
    obtain ⟨group, isMember, rfl⟩ := mem_map.mp isGroup
    obtain ⟨row, isRow, rfl⟩ := mem_map.mp (mem_dedup.mp isMember)
    exact ⟨⟨row, isRow, rfl⟩, isPicked⟩
  · rintro ⟨⟨row, isRow, rfl⟩, picked⟩
    refine ⟨_, mem_map.mpr ⟨runGroup row, ?_, rfl⟩, by rw [picked]; rfl⟩
    exact mem_dedup.mpr (mem_map_of_mem isRow)

theorem join_latest_rollups :
    (joinLatest rows).map (·.1.providerID) = (rows.map runGroup).dedup.map Prod.fst := by
  have joined : ∀ groups : List (String × String),
      (∀ group ∈ groups, ∃ latest, latestRun rows group.1 = some latest) →
        ((groups.map (rollupOf rows)).filterMap fun rollup =>
          (latestRun rows rollup.providerID).map fun latest => (rollup, latest)).map
            (·.1.providerID) = groups.map Prod.fst := by
    intro groups known
    induction groups with
    | nil => rfl
    | cons group groups ih =>
      rw [forall_mem_cons] at known
      obtain ⟨latest, picked⟩ := known.1
      have ofGroup : latestRun rows (rollupOf rows group).providerID = some latest := picked
      rw [map_cons, filterMap_cons_some (by rw [ofGroup]; rfl), map_cons, ih known.2]
      rfl
  rw [join_latest_eq nodup]
  apply joined
  intro group mem
  obtain ⟨row, isRow, rfl⟩ := mem_map.mp (mem_dedup.mp mem)
  exact latest_run_exists isRow

end

end

section

variable {lib : TextLibrary}

def statsEntry (lib : TextLibrary) (selected : Rollup × RunRow) : ProviderStats where
  providerID := trimSpace selected.1.providerID
  providerKind := trimSpace selected.1.providerKind
  providerDisplayName := trimSpace selected.2.providerDisplayName
  totalRuns := selected.1.totalRuns
  succeededRuns := selected.1.succeededRuns
  failedRuns := selected.1.failedRuns
  cancelledRuns := selected.1.cancelledRuns
  averageDurationMS := max selected.1.averageDurationMS 0
  averageFirstResponseLatencyMS := max selected.1.averageFirstResponseLatencyMS 0
  lastDurationMS := max selected.2.durationMS 0
  lastFirstResponseLatencyMS := max selected.2.firstResponseLatencyMS 0
  lastStatus := normalizeRunStatus lib selected.2.status
  lastErrorCode := trimSpace selected.2.errorCode
  lastErrorMessage := trimSpace selected.2.errorMessage
  lastStartedAt := Time.parseRFC3339Nano selected.2.startedAt.toList
  lastCompletedAt := Time.parseRFC3339Nano selected.2.completedAt.toList

@[simp]
theorem stats_entry_provider_id (selected : Rollup × RunRow) :
    (statsEntry lib selected).providerID = trimSpace selected.1.providerID := rfl

theorem scan_time_format (doing : String) {instant : Nat}
    (fourDigits : (Time.civil instant).year < 10000) :
    scanTime doing (Time.formatRFC3339Nano instant) = .ok (some instant) := by
  have parsed := Time.parse_format_nano fourDigits
  have notBlank : trimSpace (Time.formatRFC3339Nano instant) ≠ "" :=
    trim_space_nonblank (by simp [Time.formatRFC3339Nano]) (show isSpace 'Z' = false by decide)
  rw [scanTime, if_neg notBlank, parsed]

def RunRow.Dated (row : RunRow) : Prop :=
  ∃ started completed, row.startedAt = Time.formatRFC3339Nano started ∧
    row.completedAt = Time.formatRFC3339Nano completed ∧
    (Time.civil started).year < 10000 ∧ (Time.civil completed).year < 10000

theorem scan_provider_stats_eq (rollup : Rollup) (dated : latest.Dated) :
    scanProviderStats lib (rollup, latest) = .ok (statsEntry lib (rollup, latest)) := by
  obtain ⟨started, completed, isStarted, isCompleted, startedYear, completedYear⟩ := dated
  rw [scanProviderStats, isStarted, isCompleted, scan_time_format _ startedYear,
    scan_time_format _ completedYear, statsEntry, isStarted, isCompleted,
    Time.parse_format_nano startedYear, Time.parse_format_nano completedYear]
  rfl

theorem list_provider_stats_eq (nodup : (rows.map (·.id)).Nodup) (dated : ∀ row ∈ rows, row.Dated) :
    listProviderStats lib rows =
    .ok (((joinLatest rows).mergeSort lastStartedFirst).map (statsEntry lib)) := by
  apply map_m_eq_ok
  rintro ⟨rollup, latest⟩ mem
  have joined := (mem_join_latest nodup).mp (mem_mergeSort.mp mem)
  exact scan_provider_stats_eq rollup (dated latest (latest_run_spec joined.2).1)

end

end RuneTerminal.ProviderGateway
