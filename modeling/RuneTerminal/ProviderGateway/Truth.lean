import RuneTerminal.ProviderGateway.Runtime
import Mathlib.Data.Set.Finite.Lemmas

/-! The statistics show what a history of submissions says of a provider exactly if no run had a
context that was done, no provider id two kinds, and no run started before the latest one, in the
same second, with a fraction whose digits begin those of the latest. -/

namespace RuneTerminal.ProviderGateway

open Agent Go Go.Strings Kit List Time

structure ShowsLast (lib : TextLibrary) (s : Submission) (figures : RunFigures) : Prop where
  duration : figures.lastDurationMS = s.durationMS
  latency : figures.lastFirstResponseLatencyMS = s.firstResponseLatencyMS
  status : figures.lastStatus = s.ended.text
  errorCode : figures.lastErrorCode = (s.failure lib).1
  errorMessage : figures.lastErrorMessage = (s.failure lib).2
  startedAt : figures.lastStartedAt = some s.startedAt
  completedAt : figures.lastCompletedAt = some s.completedAt

structure TrueFigures (lib : TextLibrary) (runs : List Submission) (figures : RunFigures) :
    Prop where
  total : figures.totalRuns = runs.length
  succeeded : figures.succeededRuns = runs.countP (·.ended = .succeeded)
  failed : figures.failedRuns = runs.countP (·.ended = .failed)
  cancelled : figures.cancelledRuns = runs.countP (·.ended = .cancelled)
  averageDuration :
    figures.averageDurationMS = ((runs.map (·.durationMS)).sum / runs.length : Nat)
  averageLatency : figures.averageFirstResponseLatencyMS =
    ((runs.map (·.firstResponseLatencyMS)).sum / runs.length : Nat)
  last : runs = [] ∧ figures = {} ∨ ∃ s ∈ runs,
    (∀ other ∈ runs, other.startedAt ≤ s.startedAt) ∧ ShowsLast lib s figures

/-- One entry for each provider that was used, with its figures. -/
structure TrueStats (lib : TextLibrary) (history : List Submission)
    (stats : List ProviderStats) : Prop where
  once : (stats.map (·.providerID)).Nodup
  used : ∀ providerID, providerID ∈ stats.map (·.providerID) ↔
    ∃ s ∈ history, s.provider.id = providerID
  figures : ∀ entry ∈ stats, TrueFigures lib (runsOf history entry.providerID) entry.toRunFigures

/-- Every provider of the catalog and every one that was used is shown, and each with
its figures. -/
structure TrueViews (lib : TextLibrary) (history : List Submission) (catalog : List ProviderView)
    (views : List ProviderGatewayProviderView) : Prop where
  inCatalog : ∀ provider ∈ catalog, provider.id ∈ views.map (·.providerID)
  used : ∀ s ∈ history, s.provider.id ∈ views.map (·.providerID)
  figures : ∀ view ∈ views, TrueFigures lib (runsOf history view.providerID) view.toRunFigures

def StatisticsTrue (lib : TextLibrary) (history : List Submission) : Prop :=
  ∃ stats, listProviderStats lib (recordAll lib history) = .ok stats ∧
    TrueStats lib history stats ∧
      ∀ now catalog probes,
        TrueViews lib history catalog (buildGatewayProviderViews now catalog stats probes)

/-- The histories whose statistics are the truth. -/
structure Countable (history : List Submission) : Prop where
  contexts : ∀ s ∈ history, s.contextDone = false
  kinds : ∀ s ∈ history, ∀ other ∈ history, s.provider.id = other.provider.id →
    s.provider.kind = other.provider.kind
  fractions : ∀ s ∈ history, ∀ other ∈ history, s.provider.id = other.provider.id →
    (∀ third ∈ runsOf history s.provider.id, third.startedAt ≤ s.startedAt) →
    other.startedAt < s.startedAt →
    ¬(other.startedAt / 1000000000 = s.startedAt / 1000000000 ∧
      Time.shortFraction (Time.civil other.startedAt).nanosecond <+:
        Time.shortFraction (Time.civil s.startedAt).nanosecond)

/-- The durations of a provider's runs together are below `2 ^ 52` milliseconds. -/
def Bounded (history : List Submission) : Prop :=
  ∀ providerID, ((runsOf history providerID).map (·.durationMS)).sum < 2 ^ 52 ∧
    ((runsOf history providerID).map (·.firstResponseLatencyMS)).sum < 2 ^ 52

variable {lib : TextLibrary} {history : List Submission} {s : Submission} {entry : ProviderStats}

section

variable {providerID : String}

theorem mem_runs_of : s ∈ runsOf history providerID ↔ s ∈ history ∧ s.provider.id = providerID := by
  simp [runsOf]

theorem recorded_ids (fresh : (history.map (·.runID)).Nodup) :
    (((recorded history).map (·.row lib)).map (·.id)).Nodup := by
  have same : ((recorded history).map (·.row lib)).map (·.id) =
      (recorded history).map (·.runID) := by
    rw [map_map]
    exact map_congr_left fun s _ => row_id s
  rw [same]
  exact fresh.sublist (filter_sublist.map _)

theorem row_dated (s : Submission) : (s.row lib).Dated :=
  ⟨s.startedAt, s.completedAt, row_started s, row_completed s, s.started.2, s.completed.2⟩

theorem stats_of_history (fresh : (history.map (·.runID)).Nodup) :
    listProviderStats lib (recordAll lib history) =
      .ok
        (((joinLatest ((recorded history).map (·.row lib))).mergeSort lastStartedFirst).map
          (statsEntry lib)) := by
  rw [record_all_rows fresh]
  apply list_provider_stats_eq (recorded_ids fresh)
  intro row mem
  obtain ⟨s, _, rfl⟩ := mem_map.mp mem
  exact row_dated s

structure EntryOf (lib : TextLibrary) (history : List Submission) (entry : ProviderStats)
    (s latest : Submission) : Prop where
  recordedRun : s ∈ recorded history
  recordedLatest : latest ∈ recorded history
  sameProvider : latest.provider.id = s.provider.id
  greatest : ∀ other ∈ recorded history, other.provider.id = s.provider.id →
    Time.formatRFC3339Nano other.startedAt ≤ Time.formatRFC3339Nano latest.startedAt
  isEntry : entry = statsEntry lib
    (rollupOf ((recorded history).map (·.row lib)) (runGroup (s.row lib)), latest.row lib)

theorem EntryOf.provider_id {latest : Submission} (entryOf : EntryOf lib history entry s latest) :
    entry.providerID = s.provider.id := by
  rw [entryOf.isEntry, stats_entry_provider_id, rollup_of_provider_id, row_provider_id]
  exact s.cleanID.1

section

variable {stats : List ProviderStats} (fresh : (history.map (·.runID)).Nodup)
  (listed : listProviderStats lib (recordAll lib history) = .ok stats)
include fresh listed

theorem entry_of_mem (mem : entry ∈ stats) : ∃ s latest, EntryOf lib history entry s latest := by
  rw [stats_of_history fresh] at listed
  rw [← Except.ok.inj listed] at mem
  obtain ⟨⟨rollup, row⟩, isJoined, isEntry⟩ := mem_map.mp mem
  obtain ⟨⟨grouped, isGrouped, rfl⟩, picked⟩ :=
    (mem_join_latest (recorded_ids fresh)).mp (mem_mergeSort.mp isJoined)
  obtain ⟨s, isRecorded, rfl⟩ := mem_map.mp isGrouped
  obtain ⟨isRow, ofProvider, greatest⟩ := latest_run_spec picked
  obtain ⟨latest, isLatest, rfl⟩ := mem_map.mp isRow
  rw [rollup_of_provider_id, row_provider_id] at ofProvider greatest
  refine ⟨s, latest, isRecorded, isLatest, by rwa [row_provider_id] at ofProvider, ?_,
    isEntry.symm⟩
  intro other isOther same
  have le := greatest (other.row lib) (mem_map_of_mem isOther) (by rwa [row_provider_id])
  rwa [row_started, row_started] at le

theorem stats_ids : (stats.map (·.providerID)).Perm ((((recorded history).map fun s =>
    (s.provider.id, s.provider.kind.text)).dedup).map Prod.fst) := by
  have groups : ((recorded history).map (·.row lib)).map runGroup =
      (recorded history).map fun s => (s.provider.id, s.provider.kind.text) := by
    rw [map_map]
    apply map_congr_left
    intro s _
    rw [Function.comp_apply, runGroup, row_provider_id, row_provider_kind]
  have trimmed : ((joinLatest ((recorded history).map (·.row lib))).map
      (statsEntry lib)).map (·.providerID) =
      (joinLatest ((recorded history).map (·.row lib))).map (·.1.providerID) := by
    rw [map_map]
    apply map_congr_left
    rintro ⟨rollup, latest⟩ mem
    obtain ⟨⟨row, isRow, rfl⟩, _⟩ := (mem_join_latest (recorded_ids fresh)).mp mem
    obtain ⟨s, _, rfl⟩ := mem_map.mp isRow
    rw [Function.comp_apply, stats_entry_provider_id, rollup_of_provider_id, row_provider_id]
    exact s.cleanID.1
  rw [stats_of_history fresh] at listed
  rw [← Except.ok.inj listed, ← groups, ← join_latest_rollups (recorded_ids fresh), ← trimmed,
    map_map, map_map]
  exact (mergeSort_perm _ _).map _

theorem mem_stats_ids :
    providerID ∈ stats.map (·.providerID) ↔ ∃ s ∈ recorded history, s.provider.id = providerID := by
  rw [(stats_ids fresh listed).mem_iff]
  simp

end

end

theorem error_code_trimmed (binding : Binding) (message : String) (callErr : Option CallError) :
    trimSpace (classifyProviderRunErrorCode lib binding message callErr) =
    classifyProviderRunErrorCode lib binding message callErr := by
  unfold classifyProviderRunErrorCode
  dsimp only
  split_ifs
  all_goals try decide
  split
  · decide
  · split_ifs <;> decide

theorem outcome_trimmed (binding : Binding) (result : SubmitResult) (callErr : Option CallError) :
    let outcome := classifyProviderRunOutcome lib binding result callErr
    trimSpace outcome.2.1 = outcome.2.1 ∧ trimSpace outcome.2.2 = outcome.2.2 ∧
      (outcome.1 = runStatusSucceeded → outcome.2 = ("", "")) := by
  have codes : trimSpace "stream_cancelled" = "stream_cancelled" ∧
      trimSpace streamCancelledText = streamCancelledText ∧
      runStatusCancelled ≠ runStatusSucceeded ∧ runStatusFailed ≠ runStatusSucceeded := by
    decide
  unfold classifyProviderRunOutcome
  cases callErr with
  | some err =>
    dsimp only
    split_ifs
    · exact ⟨codes.1, codes.2.1, fun same => absurd same codes.2.2.1⟩
    · exact ⟨error_code_trimmed _ _ _, trim_space_twice _,
        fun same => absurd same codes.2.2.2⟩
  | none =>
    dsimp only
    split_ifs
    · exact ⟨trim_space_empty, trim_space_empty, fun _ => rfl⟩
    · exact ⟨codes.1, trim_space_twice _, fun same => absurd same codes.2.2.1⟩
    · exact ⟨error_code_trimmed _ _ _, trim_space_twice _,
        fun same => absurd same codes.2.2.2⟩

theorem row_failure (lowers : LowersOnly lib) (live : s.contextDone = false) :
    trimSpace (s.row lib).errorCode = (s.failure lib).1 ∧
    trimSpace (s.row lib).errorMessage = (s.failure lib).2 := by
  obtain ⟨code, message, succeeded⟩ : _ := @outcome_trimmed lib s.binding s.result s.callErr
  have status : normalizeRunStatus lib (classifyProviderRunOutcome lib s.binding s.result
      s.callErr).1 = (classifyProviderRunOutcome lib s.binding s.result s.callErr).1 := by
    rw [outcome_status s live, normalize_ending lowers]
  rw [row_error_code, row_error_message, status]
  split_ifs with isSucceeded
  · have nothing : s.failure lib = ("", "") := succeeded isSucceeded
    rw [nothing]
    exact ⟨trim_space_empty, trim_space_empty⟩
  · rw [trim_space_twice, trim_space_twice]
    exact ⟨code, message⟩

section

variable {runs : List Submission}

theorem Countable.recorded (countable : Countable history) : recorded history = history := by
  rw [ProviderGateway.recorded, filter_eq_self]
  intro s mem
  rw [countable.contexts s mem]
  rfl

theorem Countable.group_members (countable : Countable history) {s : Submission}
    (mem : s ∈ history) : (history.map (·.row lib)).filter (runGroup · = runGroup (s.row lib)) =
    (runsOf history s.provider.id).map (·.row lib) := by
  rw [filter_map]
  congr 1
  apply filter_congr
  intro other isOther
  rw [Function.comp_apply, decide_eq_decide, runGroup, runGroup, row_provider_id,
    row_provider_id, row_provider_kind, row_provider_kind, Prod.mk.injEq]
  refine ⟨fun same => same.1, fun same => ⟨same, ?_⟩⟩
  rw [countable.kinds other isOther s mem same]

theorem count_ending (lowers : LowersOnly lib) (live : ∀ s ∈ runs, s.contextDone = false)
    (ending : Ending) :
    (runs.map (·.row lib)).countP (·.status = ending.text) = runs.countP (·.ended = ending) := by
  rw [countP_map]
  apply countP_congr
  intro s mem
  rw [Function.comp_apply, row_status s lowers (live s mem)]
  cases s.ended <;> cases ending <;> decide

theorem Countable.latest (countable : Countable history) {latest : Submission}
    (isLatest : latest ∈ history)
    (greatest : ∀ other ∈ history, other.provider.id = latest.provider.id →
      Time.formatRFC3339Nano other.startedAt ≤ Time.formatRFC3339Nano latest.startedAt) :
    ∀ other ∈ runsOf history latest.provider.id, other.startedAt ≤ latest.startedAt := by
  have inRuns : latest ∈ runsOf history latest.provider.id := mem_runs_of.mpr ⟨isLatest, rfl⟩
  obtain ⟨last, isLast, all⟩ := Set.exists_max_image
    {s | s ∈ runsOf history latest.provider.id} (·.startedAt) (finite_toSet _)
    ⟨latest, inRuns⟩
  obtain ⟨inHistory, sameProvider⟩ := mem_runs_of.mp isLast
  intro other isOther
  refine le_trans (all other isOther) ?_
  by_contra later
  rw [not_le] at later
  have inOrder := countable.fractions last inHistory latest isLatest sameProvider
    (sameProvider ▸ all) later
  have texts := (format_rfc3339_nano_of_lt latest.started.2 last.started.2 later).1.mpr
    inOrder
  exact absurd (greatest last inHistory sameProvider) (not_le.mpr texts)

theorem shows_last (lowers : LowersOnly lib) {latest : Submission}
    (live : latest.contextDone = false) (rollup : Rollup) :
    ShowsLast lib latest (statsEntry lib (rollup, latest.row lib)).toRunFigures where
  duration := by
    change max (latest.row lib).durationMS 0 = _
    rw [row_duration, max_eq_left (Int.natCast_nonneg _)]
  latency := by
    change max (latest.row lib).firstResponseLatencyMS 0 = _
    rw [row_latency, max_eq_left (Int.natCast_nonneg _)]
  status := by
    change normalizeRunStatus lib (latest.row lib).status = _
    rw [row_status latest lowers live, normalize_ending lowers]
  errorCode := (row_failure lowers live).1
  errorMessage := (row_failure lowers live).2
  startedAt := by
    change parseRFC3339Nano (latest.row lib).startedAt.toList = _
    rw [row_started, parse_format_nano latest.started.2]
  completedAt := by
    change parseRFC3339Nano (latest.row lib).completedAt.toList = _
    rw [row_completed, parse_format_nano latest.completed.2]

theorem average_column (nonempty : runs ≠ []) {column : RunRow → Int} {number : Submission → Nat}
    (isNumber : ∀ s : Submission, column (s.row lib) = number s)
    (small : (runs.map number).sum < 2 ^ 52) :
    max (castInteger (avg ((runs.map (·.row lib)).map column))) 0 =
    (((runs.map number).sum / runs.length : Nat) : Int) := by
  have numbers : (runs.map (·.row lib)).map column = (runs.map number).map Nat.cast := by
    rw [map_map, map_map]
    exact map_congr_left fun s _ => isNumber s
  have average := cast_avg (by simpa using nonempty) small
  rw [numbers, average, length_map, max_eq_left (Int.natCast_nonneg _)]

theorem Countable.figures (countable : Countable history) (lowers : LowersOnly lib)
    (bounded : Bounded history) {latest : Submission}
    (entryOf : EntryOf lib history entry s latest) :
    TrueFigures lib (runsOf history s.provider.id) entry.toRunFigures := by
  obtain ⟨isRecorded, isLatest, sameProvider, greatest, rfl⟩ := entryOf
  rw [countable.recorded] at isRecorded isLatest greatest ⊢
  have members := @Countable.group_members lib history countable s isRecorded
  have live : ∀ run ∈ runsOf history s.provider.id, run.contextDone = false := fun run mem =>
    countable.contexts run (mem_runs_of.mp mem).1
  have nonempty : runsOf history s.provider.id ≠ [] :=
    ne_nil_of_mem (mem_runs_of.mpr ⟨isRecorded, rfl⟩)
  have counts := count_ending lowers live
  have last := countable.latest isLatest (sameProvider ▸ greatest)
  rw [sameProvider] at last
  constructor
  · change ((history.map (·.row lib)).filter (runGroup · = runGroup (s.row lib))).length = _
    rw [members, length_map]
  · change ((history.map (·.row lib)).filter
      (runGroup · = runGroup (s.row lib))).countP (·.status = runStatusSucceeded) = _
    rw [members]
    exact counts .succeeded
  · change ((history.map (·.row lib)).filter
      (runGroup · = runGroup (s.row lib))).countP (·.status = runStatusFailed) = _
    rw [members]
    exact counts .failed
  · change ((history.map (·.row lib)).filter
      (runGroup · = runGroup (s.row lib))).countP (·.status = runStatusCancelled) = _
    rw [members]
    exact counts .cancelled
  · change max (castInteger (avg (((history.map (·.row lib)).filter
      (runGroup · = runGroup (s.row lib))).map (·.durationMS)))) 0 = _
    rw [members]
    exact average_column nonempty row_duration (bounded _).1
  · change max (castInteger (avg (((history.map (·.row lib)).filter
      (runGroup · = runGroup (s.row lib))).map (·.firstResponseLatencyMS)))) 0 = _
    rw [members]
    exact average_column nonempty row_latency (bounded _).2
  · exact .inr ⟨latest, mem_runs_of.mpr ⟨isLatest, sameProvider⟩, last,
      shows_last lowers (countable.contexts latest isLatest) _⟩

theorem Countable.stats (countable : Countable history) (lowers : LowersOnly lib)
    (fresh : (history.map (·.runID)).Nodup) (bounded : Bounded history)
    {stats : List ProviderStats}
    (listed : listProviderStats lib (recordAll lib history) = .ok stats) :
    TrueStats lib history stats where
  once := by
    rw [(stats_ids fresh listed).nodup_iff, countable.recorded]
    apply List.Nodup.map_on _ (nodup_dedup _)
    intro first isFirst second isSecond same
    obtain ⟨s, isRun, rfl⟩ := mem_map.mp (mem_dedup.mp isFirst)
    obtain ⟨other, isOther, rfl⟩ := mem_map.mp (mem_dedup.mp isSecond)
    dsimp only at same
    rw [same, countable.kinds s isRun other isOther same]
  used := by
    intro providerID
    rw [mem_stats_ids fresh listed, countable.recorded]
  figures := by
    intro entry mem
    obtain ⟨s, latest, entryOf⟩ := entry_of_mem fresh listed mem
    rw [entryOf.provider_id]
    exact countable.figures lowers bounded entryOf

end

section

variable {stats : List ProviderStats}

theorem true_figures_unused : TrueFigures lib [] {} where
  total := rfl
  succeeded := rfl
  failed := rfl
  cancelled := rfl
  averageDuration := rfl
  averageLatency := rfl
  last := .inl ⟨rfl, rfl⟩

theorem figures_by_provider_id (isTrue : TrueStats lib history stats) (providerID : String) :
    TrueFigures lib (runsOf history providerID)
      (((byProviderID (·.providerID) stats providerID).map (·.toRunFigures)).getD {}) := by
  have clean : ∀ entry ∈ stats, trimSpace entry.providerID = entry.providerID := by
    intro entry mem
    obtain ⟨s, _, same⟩ := (isTrue.used _).mp (mem_map_of_mem mem)
    rw [← same]
    exact s.cleanID.1
  cases found : byProviderID (·.providerID) stats providerID with
  | some entry =>
    have mem : entry ∈ stats := mem_reverse.mp (mem_of_find?_eq_some found)
    have key : trimSpace entry.providerID = providerID := by
      simpa using find?_some found
    rw [clean entry mem] at key
    rw [← key]
    exact isTrue.figures entry mem
  | none =>
    have unused : runsOf history providerID = [] := by
      rw [runsOf, filter_eq_nil_iff]
      intro s mem same
      have used := (isTrue.used providerID).mpr ⟨s, mem, by simpa using same⟩
      obtain ⟨entry, isEntry, key⟩ := mem_map.mp used
      have differs := find?_eq_none.mp found entry (mem_reverse.mpr isEntry)
      rw [clean entry isEntry, key] at differs
      simp at differs
    rw [unused]
    exact true_figures_unused

theorem TrueStats.views (isTrue : TrueStats lib history stats) (now : Nat)
    (catalog : List ProviderView) (probes : List ProbeRecord) :
    TrueViews lib history catalog (buildGatewayProviderViews now catalog stats probes) := by
  have catalogViews : ∀ provider ∈ catalog,
      catalogProviderView now stats probes provider ∈
        buildGatewayProviderViews now catalog stats probes := fun provider mem =>
    mem_append_left _ (mem_map_of_mem mem)
  have inCatalog : ∀ provider ∈ catalog, provider.id ∈
      (buildGatewayProviderViews now catalog stats probes).map (·.providerID) := by
    intro provider mem
    refine mem_map.mpr ⟨_, catalogViews provider mem, ?_⟩
    exact (catalog_view_figures provider).1
  refine ⟨inCatalog, ?_, ?_⟩
  · intro s mem
    by_cases known : s.provider.id ∈ catalog.map (·.id)
    · obtain ⟨provider, isProvider, same⟩ := mem_map.mp known
      rw [← same]
      exact inCatalog provider isProvider
    obtain ⟨entry, isEntry, same⟩ :=
      mem_map.mp ((isTrue.used s.provider.id).mpr ⟨s, mem, rfl⟩)
    refine mem_map.mpr ⟨formerProviderView now probes entry, ?_, ?_⟩
    · refine mem_append_right _ (mem_map_of_mem (mem_filter.mpr ⟨isEntry, ?_⟩))
      rw [same]
      simpa using known
    · rw [(former_view_figures entry).1, same]
  · intro view mem
    rcases mem_append.mp mem with isCatalog | isFormer
    · obtain ⟨provider, _, rfl⟩ := mem_map.mp isCatalog
      rw [(catalog_view_figures provider).1, (catalog_view_figures provider).2]
      exact figures_by_provider_id isTrue provider.id
    · obtain ⟨entry, isEntry, rfl⟩ := mem_map.mp isFormer
      rw [(former_view_figures entry).1, (former_view_figures entry).2]
      exact isTrue.figures entry (mem_of_mem_filter isEntry)

end

section

variable {stats : List ProviderStats}

theorem kind_of_text {kind other : ProviderKind} (supported : isSupportedProviderKind kind = true)
    (supportedOther : isSupportedProviderKind other = true) (same : kind.text = other.text) :
    kind = other := by
  have each : ∀ kind, isSupportedProviderKind kind = true →
      kind = .codex ∨ kind = .claude ∨ kind = .openAICompatible := by
    intro kind supported
    simpa [isSupportedProviderKind, supportedProviderKinds] using supported
  rcases each kind supported with rfl | rfl | rfl <;>
    rcases each other supportedOther with rfl | rfl | rfl <;>
      first
      | rfl
      | exact absurd same (by decide)

section

variable (isTrue : TrueStats lib history stats) (fresh : (history.map (·.runID)).Nodup)
  (listed : listProviderStats lib (recordAll lib history) = .ok stats)
include isTrue fresh listed

/-- A run under a context that is done is missing from the total of its provider. -/
theorem TrueStats.contexts : ∀ s ∈ history, s.contextDone = false := by
  intro lost mem
  by_contra done
  obtain ⟨entry, isEntry, same⟩ :=
    mem_map.mp ((isTrue.used lost.provider.id).mpr ⟨lost, mem, rfl⟩)
  have total := (isTrue.figures entry isEntry).total
  obtain ⟨s, latest, entryOf⟩ := entry_of_mem fresh listed isEntry
  have ofProvider := entryOf.provider_id
  rw [same] at ofProvider total
  have counted : entry.totalRuns ≤ (runsOf (recorded history) lost.provider.id).length := by
    have members : entry.totalRuns = (((recorded history).map (·.row lib)).filter
        (runGroup · = runGroup (s.row lib))).length := by
      rw [entryOf.isEntry]
      rfl
    rw [members, filter_map, length_map, runsOf, ← countP_eq_length_filter,
      ← countP_eq_length_filter]
    apply countP_mono_left
    intro other _ inGroup
    rw [Function.comp_apply, decide_eq_true_iff, runGroup, runGroup, row_provider_id,
      row_provider_id, Prod.mk.injEq] at inGroup
    rw [decide_eq_true_iff, inGroup.1, ofProvider]
  have fewer : (runsOf (recorded history) lost.provider.id).length <
      (runsOf history lost.provider.id).length := by
    have swapped : runsOf (recorded history) lost.provider.id =
        (runsOf history lost.provider.id).filter fun s => !s.contextDone := by
      rw [runsOf, runsOf, recorded, filter_filter, filter_filter]
      apply filter_congr
      intro s _
      rw [Bool.and_comm]
    rw [swapped, length_filter_lt_length_iff_exists]
    exact ⟨lost, mem_runs_of.mpr ⟨mem, rfl⟩, by simp [done]⟩
  omega

theorem TrueStats.kinds (all : recorded history = history) : ∀ s ∈ history, ∀ other ∈ history,
    s.provider.id = other.provider.id → s.provider.kind = other.provider.kind := by
  intro s mem other isOther same
  have once := isTrue.once
  rw [(stats_ids fresh listed).nodup_iff, all] at once
  have isGroup : ∀ run ∈ history, (run.provider.id, run.provider.kind.text) ∈
      (history.map fun s => (s.provider.id, s.provider.kind.text)).dedup := fun run isRun =>
    mem_dedup.mpr (mem_map.mpr ⟨run, isRun, rfl⟩)
  have groups := inj_on_of_nodup_map once (isGroup s mem) (isGroup other isOther) same
  exact kind_of_text s.supported other.supported (Prod.mk.inj groups).2

theorem TrueStats.fractions (all : recorded history = history) {other : Submission}
    (mem : s ∈ history) (isOther : other ∈ history) (same : s.provider.id = other.provider.id)
    (isLast : ∀ third ∈ runsOf history s.provider.id, third.startedAt ≤ s.startedAt)
    (earlier : other.startedAt < s.startedAt) :
    ¬(other.startedAt / 1000000000 = s.startedAt / 1000000000 ∧
      Time.shortFraction (Time.civil other.startedAt).nanosecond <+:
        Time.shortFraction (Time.civil s.startedAt).nanosecond) := by
  intro misordered
  obtain ⟨entry, isEntry, ofEntry⟩ :=
    mem_map.mp ((isTrue.used s.provider.id).mpr ⟨s, mem, rfl⟩)
  obtain ⟨grouped, latest, entryOf⟩ := entry_of_mem fresh listed isEntry
  have ofProvider := entryOf.provider_id
  rw [ofEntry] at ofProvider
  have greatest := entryOf.greatest other (all.symm ▸ isOther) (same.symm.trans ofProvider)
  have shown : entry.lastStartedAt = some latest.startedAt := by
    rw [entryOf.isEntry]
    change parseRFC3339Nano (latest.row lib).startedAt.toList = _
    rw [row_started, parse_format_nano latest.started.2]
  have last := (isTrue.figures entry isEntry).last
  rw [ofEntry] at last
  rcases last with ⟨nothing, _⟩ | ⟨run, isRun, atLeast, shows⟩
  · exact ne_nil_of_mem (mem_runs_of.mpr ⟨mem, rfl⟩) nothing
  have started : run.startedAt = latest.startedAt :=
    Option.some.inj (shows.startedAt.symm.trans shown)
  have equal : latest.startedAt = s.startedAt := by
    rw [← started]
    exact le_antisymm (isLast run isRun) (atLeast s (mem_runs_of.mpr ⟨mem, rfl⟩))
  rw [equal] at greatest
  have wrong := (format_rfc3339_nano_of_lt other.started.2 s.started.2 earlier).2.mpr
    misordered
  exact absurd wrong (not_lt.mpr greatest)

end

end

/-- The statistics and the views are the truth exactly for the countable histories. -/
theorem statistics_true_iff {lib : TextLibrary} (lowers : LowersOnly lib)
    {history : List Submission} (fresh : (history.map (·.runID)).Nodup)
    (bounded : Bounded history) : StatisticsTrue lib history ↔ Countable history := by
  constructor
  · rintro ⟨stats, listed, isTrue, _⟩
    have contexts := isTrue.contexts fresh listed
    have all : recorded history = history := by
      rw [recorded, filter_eq_self]
      intro s mem
      rw [contexts s mem]
      rfl
    exact ⟨contexts, isTrue.kinds fresh listed all,
      fun s mem other isOther => isTrue.fractions fresh listed all mem isOther⟩
  · intro countable
    have isTrue := countable.stats lowers fresh bounded (stats_of_history fresh)
    exact ⟨_, stats_of_history fresh, isTrue,
      isTrue.views⟩

def asciiLibrary : TextLibrary where
  matchRegexp _ _ := false
  toLower := String.map Char.toLower

theorem ascii_library_lowers : LowersOnly asciiLibrary :=
  fun _ => map_to_lower_small

def codexProvider : ProviderRecord where
  id := "codex-cli"
  kind := .codex
  displayName := "Codex CLI"
  enabled := true
  createdAt := 0
  updatedAt := 0

def answered : Submission where
  provider := codexProvider
  requestMode := runModeSync
  durationMS := 1200
  firstResponseLatencyMS := 300
  startedAt := 63903000000500000000
  completedAt := 63903000001700000000
  runID := "provider-run_1"
  ended := .succeeded
  contextDone := false
  cleanID := by decide
  supported := by decide
  started := by decide +kernel
  completed := by decide +kernel
  inOrder := by decide
  cancels := by decide
  succeeds := by decide
  fails := by decide

def refused : Submission where
  provider := codexProvider
  requestMode := runModeStream
  providerError := "not logged in"
  durationMS := 400
  firstResponseLatencyMS := 0
  startedAt := 63903000002000000000
  completedAt := 63903000002400000000
  runID := "provider-run_2"
  ended := .failed
  contextDone := false
  cleanID := by decide
  supported := by decide
  started := by decide +kernel
  completed := by decide +kernel
  inOrder := by decide
  cancels := by decide
  succeeds := by decide
  fails := by decide

theorem answered_and_refused_counted : StatisticsTrue asciiLibrary [answered, refused] := by
  refine (statistics_true_iff ascii_library_lowers (by decide) ?_).mpr ⟨?_, ?_, ?_⟩
  · intro providerID
    by_cases isCodex : "codex-cli" = providerID
    · subst isCodex
      decide
    have none : runsOf [answered, refused] providerID = [] := by
      simp [runsOf, answered, refused, codexProvider, isCodex]
    rw [none]
    decide
  · simp [answered, refused]
  · simp [answered, refused]
  · simp [answered, refused]

def cancelledStream : Submission where
  provider := codexProvider
  requestMode := runModeStream
  providerError := streamCancelledText
  durationMS := 900
  firstResponseLatencyMS := 300
  startedAt := 63903000000000000000
  completedAt := 63903000000900000000
  runID := "provider-run_1"
  ended := .cancelled
  contextDone := true
  cleanID := by decide
  supported := by decide
  started := by decide +kernel
  completed := by decide +kernel
  inOrder := by decide
  cancels := by decide
  succeeds := by decide
  fails := by decide

/-- A cancelled run is not counted at all. -/
theorem cancelled_run_not_counted : ¬∀ lib history, LowersOnly lib →
    (history.map Submission.runID).Nodup → Bounded history → StatisticsTrue lib history := by
  intro all
  have bounded : Bounded [cancelledStream] := by
    intro providerID
    by_cases isCodex : "codex-cli" = providerID
    · subst isCodex
      decide
    have none : runsOf [cancelledStream] providerID = [] := by
      simp [runsOf, cancelledStream, codexProvider, isCodex]
    rw [none]
    decide
  obtain ⟨stats, listed, isTrue, _⟩ :=
    all asciiLibrary [cancelledStream] ascii_library_lowers (by decide) bounded
  have empty : recordAll asciiLibrary [cancelledStream] = [] := rfl
  have noEntry : listProviderStats asciiLibrary [] = .ok [] := by
    simp [listProviderStats, joinLatest, providerRollups]
    rfl
  rw [empty, noEntry] at listed
  have nothing : stats = [] := (Except.ok.inj listed).symm
  have used := (isTrue.used "codex-cli").mpr ⟨cancelledStream, List.mem_singleton_self _, rfl⟩
  rw [nothing] at used
  cases used

end RuneTerminal.ProviderGateway
