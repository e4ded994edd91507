import RuneTerminal.Workspace.Traced

/-! Every step in order keeps the invariant of the changes, so when all requests have returned the
memory has the changes of those that succeeded. -/

namespace RuneTerminal.Workspace

open Kit (guarded guarded_eq_some runActions runs_to_of_run run_actions_of_guarded)
open List Call Option

variable {s : Shared}

section

variable {next : Shared} {call other : Nat} {state moved : Call} {saved : Saved}
  {workspace returned : Snapshot} {applied seen stored : Log}

theorem take_workspace_traced (traced : Traced s) (action : Action) (idle : s.calls call = .idle) :
    Traced (s.setCall call (.tookWorkspace action s.memory.workspace s.applied)) := by
  have early : (s.calls call).isEarly = true := by rw [idle]; rfl
  refine traced.set_call idle rfl nofun nofun rfl ?_
  exact ⟨traced.normal.workspace, traced.workspace, traced.early_not_applied early⟩

variable {action : Action}

theorem take_catalog_traced (traced : Traced s)
    (took : s.calls call = .tookWorkspace action workspace applied) :
    Traced (s.setCall call (.took action
      { workspace := workspace
        catalog := s.memory.catalog
        applied := applied
        stored := s.stored
        writers := s.writers })) := by
  have early : (s.calls call).isEarly = true := by rw [took]; rfl
  have fits := traced.calls call
  rw [took] at fits
  refine traced.set_call took rfl nofun nofun rfl ?_
  exact ⟨⟨fits.1, fits.2.1, traced.normal.catalog, traced.activeID, traced.entry, fits.2.2,
    traced.early_not_stored early, Nat.le_refl _⟩, fun _ => rfl⟩

theorem reread_traced (traced : Traced s)
    (mutated : s.calls call = .mutated action saved returned seen) :
    Traced (s.setCall call (.mutated action saved s.memory.workspace s.applied)) := by
  have fits := traced.calls call
  rw [mutated] at fits
  have applied : (call, action) ∈ s.applied := by
    rw [traced.changes, mutated]
    rfl
  refine traced.set_call mutated rfl id id rfl ?_
  exact ⟨fits.1, fits.2.1, traced.normal.workspace, traced.workspace,
    mem_map.mpr ⟨_, applied, rfl⟩⟩

/-- A save that fails in order: only the request's own change and its own write
came after its rollback copies. -/
theorem save_fails_traced (traced : Traced s) (saving : s.calls call = .saving action saved)
    (ownChange : s.applied = saved.applied ++ [(call, action)])
    (ownWrite : s.writers = saved.writers ++ [call]) :
    Traced (s.setCall call (.failing action saved)) := by
  have fits := traced.calls call
  rw [saving] at fits
  have behind := fits.2 ownWrite
  rw [ownChange, filter_own fits.1.notApplied] at behind
  exact traced.set_call saving rfl nofun id rfl ⟨fits.1, ownChange, ownWrite, behind⟩

theorem CallFits.change_applied (fits : CallFits s other state) {change : Action}
    (workspace : Snapshot) (notFailing : state.isFailing = false) (apart : other ≠ call)
    (waits : moved.isMutated = true) :
    CallFits ((s.setWorkspace workspace (s.applied ++ [(call, change)])).setCall call moved) other
      state := by
  have waitsAfter : (((s.setWorkspace workspace (s.applied ++ [(call, change)])).setCall call
      moved).calls (call, change).1).isMutated = true := by
    rw [set_call_same]
    exact waits
  refine fits.carry rfl (Nat.le_refl _) ?unwritten ?saves ?rolls
  case unwritten => exact fun _ same => ⟨same, rfl⟩
  case saves =>
    rintro action saved rfl own
    have filtered : (s.applied ++ [(call, change)]).filter (·.1 ≠ other) =
        s.applied.filter (·.1 ≠ other) ++ [(call, change)] := by
      simp [Ne.symm apart]
    show Behind _ saved.stored ((s.applied ++ [(call, change)]).filter (·.1 ≠ other))
    rw [filtered]
    exact ((fits.2 own).of_mutated (keeps_mutated fun _ => waits)).extend waitsAfter
  case rolls =>
    intro rolls
    cases state with
    | failing action saved => cases notFailing
    | restoring saved =>
      obtain ⟨savedFits, writers, behind⟩ := fits
      exact ⟨savedFits.later rfl (Nat.le_refl _), writers,
        (behind.of_mutated (keeps_mutated fun _ => waits)).extend waitsAfter⟩
    | _ => cases rolls

theorem Traced.none_fails (traced : Traced s) (inOrder : s.lastWriter.isFailing = false)
    (one : Nat) : (s.calls one).isFailing = false := by
  cases phase : s.calls one with
  | failing action saved =>
    have rolls : (s.calls one).rollsBack = true := by rw [phase]; rfl
    rw [traced.last_writer rolls, phase] at inOrder
    cases inOrder
  | _ => rfl

section

variable (traced : Traced s) (took : s.calls call = .took action saved)
include traced took

theorem mutate_applied_traced (admissible : Admissible s.memory.workspace action)
    (inOrder : s.lastWriter.isFailing = false)
    (made : (action.perform s.memory.workspace).2 = workspace) :
    Traced
      ((s.setWorkspace workspace (s.applied ++ [(call, action)])).setCall call
        (.mutated action saved workspace (s.applied ++ [(call, action)]))) := by
  have early : (s.calls call).isEarly = true := by rw [took]; rfl
  have absent := traced.early_not_applied early
  have fits := traced.calls call
  rw [took] at fits
  have normal : NormalSnapshot workspace :=
    made ▸ Action.perform_normal traced.normal.workspace admissible
  have replayed : workspace = replay s.start (s.applied ++ [(call, action)]) := by
    rw [replay, foldl_append, foldl_cons, foldl_nil, ← replay, ← traced.workspace, made]
  constructor
  case normal => exact ⟨normal, traced.normal.catalog⟩
  case activeID => exact traced.activeID
  case workspace => exact replayed
  case entry => exact traced.entry
  case changes =>
    intro one change
    show (one, change) ∈ s.applied ++ [(call, action)] ↔ _
    rw [mem_append, mem_singleton, Prod.mk.injEq]
    by_cases same : one = call
    · subst same
      have notMember : (one, change) ∉ s.applied :=
        fun mem => absent (mem_map.mpr ⟨_, mem, rfl⟩)
      simp [notMember, Call.change?, eq_comm]
    · rw [set_call_other _ _ same]
      simp only [same, false_and, or_false]
      exact traced.changes one change
  case unique =>
    show ((s.applied ++ [(call, action)]).map Prod.fst).Nodup
    rw [map_append, nodup_append_comm]
    exact nodup_cons.mpr ⟨absent, traced.unique⟩
  case storedLate =>
    intro entry mem
    by_cases same : entry.1 = call
    · rw [same, set_call_same]
      rfl
    · rw [set_call_other _ _ same]
      exact traced.storedLate entry mem
  case calls =>
    intro one
    by_cases same : one = call
    · subst same
      rw [set_call_same]
      refine ⟨fits.1.later rfl (Nat.le_refl _), fits.2, normal, replayed, ?_⟩
      simp
    · rw [set_call_other _ _ same]
      exact (traced.calls one).change_applied workspace (traced.none_fails inOrder one) same rfl
  case behind =>
    intro noneRestores
    have notRolling : (s.calls call).rollsBack = false := by rw [took]; rfl
    have noneBefore := none_restores_before notRolling noneRestores
    refine ((traced.behind noneBefore).of_mutated (keeps_mutated fun _ => rfl)).extend ?_
    rw [set_call_same]
    rfl

theorem mutate_refused_traced {err : WorkspaceError}
    (refused : (action.perform s.memory.workspace).1 = some err) :
    Traced
      ((s.setWorkspace (action.perform s.memory.workspace).2 s.applied).setCall call .refused) := by
  rw [Action.perform_error refused]
  exact traced.set_call took rfl nofun (fun _ => rfl) rfl trivial

theorem mutate_traced (admissible : Admissible s.memory.workspace action)
    (inOrder : s.lastWriter.isFailing = false) : Traced (s.mutate call action saved) := by
  unfold Shared.mutate
  split
  case h_1 err workspace performed =>
    have refused : (action.perform s.memory.workspace).1 = some err := by rw [performed]
    have refusedTraced := mutate_refused_traced traced took refused
    rw [performed] at refusedTraced
    exact refusedTraced
  case h_2 workspace performed =>
    exact mutate_applied_traced traced took admissible inOrder (by rw [performed])

end

theorem SavedFits.written_since (fits : SavedFits s call saved) (writer : Nat) :
    s.writers ++ [writer] ≠ saved.writers := by
  intro same
  have lengths := congrArg length same
  rw [length_append, length_singleton] at lengths
  have earlier := fits.earlier
  omega

theorem CallFits.catalog_written (fits : CallFits s other state) (catalog : Catalog) (stored : Log)
    (notRolling : state.rollsBack = false) (apart : other ≠ call) :
    CallFits ((s.setCatalog call catalog stored).setCall call moved) other state := by
  have longer : s.writers.length ≤ (s.writers ++ [call]).length := by simp
  refine fits.carry rfl longer ?unwritten ?saves ?rolls
  case unwritten => exact fun savedFits same => absurd same (savedFits.written_since call)
  case saves =>
    intro action saved _ own
    have last : [call] = [other] := append_inj_right' own rfl
    exact absurd (singleton_inj.mp last).symm apart
  case rolls =>
    intro rolls
    rw [notRolling] at rolls
    cases rolls

theorem Traced.none_rolls_back (traced : Traced s) (inOrder : s.lastWriter.rollsBack = false)
    (one : Nat) : (s.calls one).rollsBack = false := by
  cases rolls : (s.calls one).rollsBack with
  | false => rfl
  | true => rw [traced.last_writer rolls, rolls] at inOrder; cases inOrder

theorem Call.late_of_change (changed : state.change? = some action) : state.isEarly = false := by
  cases early : state.isEarly with
  | false => rfl
  | true => rw [change_of_early early] at changed; cases changed

theorem Behind.leave_out {calls : Nat → Call} (behind : Behind calls stored applied)
    (absent : call ∉ stored.map Prod.fst) : Behind calls stored (applied.filter (·.1 ≠ call)) := by
  obtain ⟨pending, rfl, waiting⟩ := behind
  refine ⟨pending.filter (·.1 ≠ call), ?_, ?_⟩
  · rw [filter_append, filter_absent absent]
  · intro entry mem
    exact waiting entry (mem_filter.mp mem).1

theorem Behind.catch_up {calls : Nat → Call} (behind : Behind calls stored applied)
    (newer : stored <+: seen) (current : seen <+: applied) : Behind calls seen applied := by
  obtain ⟨pending, whole, waiting⟩ := behind
  obtain ⟨between, rfl⟩ := newer
  obtain ⟨later, rfl⟩ := current
  rw [append_assoc] at whole
  have split := append_cancel_left whole
  refine ⟨later, rfl, ?_⟩
  intro entry mem
  apply waiting
  rw [← split]
  exact mem_append_right between mem

theorem Behind.set_call (behind : Behind s.calls stored applied)
    (settled : ∀ pending, applied = stored ++ pending → call ∉ pending.map Prod.fst) :
    Behind (s.setCall call moved).calls stored applied := by
  obtain ⟨pending, whole, waiting⟩ := behind
  refine ⟨pending, whole, ?_⟩
  intro entry mem
  have apart : entry.1 ≠ call := by
    rintro rfl
    exact settled pending whole (mem_map.mpr ⟨entry, mem, rfl⟩)
  rw [set_call_other s moved apart]
  exact waiting entry mem

theorem Traced.seen_settled (traced : Traced s) {pending : Log} (own : call ∈ seen.map Prod.fst)
    (whole : s.applied = seen ++ pending) : call ∉ pending.map Prod.fst := by
  have unique := traced.unique
  rw [whole, map_append, nodup_append] at unique
  intro mem
  exact unique.2.2 call own call mem rfl

section

variable (traced : Traced s) (mutated : s.calls call = .mutated action saved returned seen)
include traced mutated

theorem store_own_fits (behind : Behind s.calls s.stored s.applied) :
    CallFits
      ((s.setCatalog call (s.memory.catalog.setActiveSnapshot returned) seen).setCall call
        (.saving action saved)) call (.saving action saved) := by
  have fits := traced.calls call
  rw [mutated] at fits
  obtain ⟨savedFits, sameStored, -⟩ := fits
  refine ⟨savedFits.later rfl (by simp [Shared.setCall, Shared.setCatalog]), ?_⟩
  intro ownWrite
  -- Nobody wrote the catalog since the copy was read, so the entry is the copy's.
  have sameWriters : s.writers = saved.writers := append_cancel_right ownWrite
  rw [sameStored sameWriters] at behind
  refine Behind.set_call (behind.leave_out savedFits.notStored) ?_
  intro pending whole mem
  obtain ⟨entry, entryMember, same⟩ := mem_map.mp mem
  have filtered : entry ∈ s.applied.filter (·.1 ≠ call) :=
    whole ▸ mem_append_right saved.stored entryMember
  simp [same] at filtered

theorem store_traced (newer : s.stored <+: seen) (current : seen <+: s.applied)
    (inOrder : s.lastWriter.rollsBack = false) :
    Traced
      ((s.setCatalog call (s.memory.catalog.setActiveSnapshot returned) seen).setCall call
        (.saving action saved)) := by
  have fits := traced.calls call
  rw [mutated] at fits
  obtain ⟨-, -, returnedNormal, returnedMade, ownSeen⟩ := fits
  have noneRollsBack := traced.none_rolls_back inOrder
  -- No rollback is between its two halves, so the entry is a part of the workspace.
  have behind : Behind s.calls s.stored s.applied := by
    apply traced.behind
    intro one saved restoring
    have rolls := noneRollsBack one
    rw [restoring] at rolls
    cases rolls
  have stored := set_active_snapshot_eq traced.normal.catalog returnedNormal
  have returnedActive : returned.id = s.memory.catalog.activeWorkspaceID := by
    rw [returnedMade, replay_id, traced.activeID]
  have changes : ∀ one change, (one, change) ∈ s.applied ↔
      (((s.setCatalog call (s.memory.catalog.setActiveSnapshot returned) seen).setCall call
        (.saving action saved)).calls one).change? = some change :=
    set_call_changes traced.changes (by show _ = (s.calls call).change?; rw [mutated]; rfl)
  constructor
  case normal =>
    refine ⟨traced.normal.workspace, ?_⟩
    rw [stored]
    exact traced.normal.catalog.put returnedNormal
  case activeID =>
    rw [stored]
    exact traced.activeID
  case workspace => exact traced.workspace
  case entry =>
    show (s.memory.catalog.setActiveSnapshot returned).activeSnapshot = replay s.start seen
    rw [set_active_snapshot_entry traced.normal.catalog returnedNormal returnedActive]
    exact returnedMade
  case changes => exact changes
  case unique => exact traced.unique
  case storedLate =>
    intro entry mem
    exact late_of_change ((changes entry.1 entry.2).mp (current.subset mem))
  case calls =>
    intro one
    by_cases same : one = call
    · subst same
      rw [set_call_same]
      exact store_own_fits traced mutated behind
    · rw [set_call_other _ _ same]
      exact (traced.calls one).catalog_written _ seen (noneRollsBack one) same
  case behind =>
    intro _
    exact Behind.set_call (behind.catch_up newer current)
      fun pending whole => traced.seen_settled ownSeen whole

end

theorem CallFits.change_taken_back (fits : CallFits s other state) (workspace : Snapshot)
    (applied : Log) (last : s.writers.getLast? = some call) (notRolling : state.rollsBack = false)
    (apart : other ≠ call) :
    CallFits ((s.setWorkspace workspace applied).setCall call moved) other state := by
  refine fits.carry rfl (Nat.le_refl _) ?unwritten ?saves ?rolls
  case unwritten => exact fun _ same => ⟨same, rfl⟩
  case saves =>
    intro action saved _ own
    have ownWrite : s.writers = saved.writers ++ [other] := own
    rw [ownWrite, getLast?_append] at last
    exact absurd (some.inj last) apart
  case rolls =>
    intro rolls
    rw [notRolling] at rolls
    cases rolls

section

variable (traced : Traced s)
include traced

theorem Traced.others_do_not_roll_back (rolls : (s.calls call).rollsBack = true)
    (apart : other ≠ call) : (s.calls other).rollsBack = false := by
  cases otherRolls : (s.calls other).rollsBack with
  | false => rfl
  | true => exact absurd (traced.rolls_back_unique rolls otherRolls) apart

theorem restore_workspace_traced (failing : s.calls call = .failing action saved) :
    Traced
      ((s.setWorkspace (replaceSnapshot saved.workspace) (s.applied.filter (·.1 ≠ call))).setCall
        call (.restoring saved)) := by
  have rolls : (s.calls call).rollsBack = true := by rw [failing]; rfl
  have fits := traced.calls call
  rw [failing] at fits
  obtain ⟨savedFits, applied, writers, behind⟩ := fits
  -- The save failed in order: the copy has all changes but the request's own.
  have takenBack : s.applied.filter (·.1 ≠ call) = saved.applied := by
    rw [applied, filter_own savedFits.notApplied]
  have same : replaceSnapshot saved.workspace = saved.workspace :=
    normalize_snapshot_identity savedFits.workspaceNormal _
  rw [takenBack, same]
  constructor
  case normal => exact ⟨savedFits.workspaceNormal, traced.normal.catalog⟩
  case activeID => exact traced.activeID
  case workspace => exact savedFits.workspace
  case entry => exact traced.entry
  case changes =>
    intro one change
    show (one, change) ∈ saved.applied ↔ _
    by_cases same : one = call
    · subst same
      have absent : (one, change) ∉ saved.applied :=
        fun mem => savedFits.notApplied (mem_map.mpr ⟨_, mem, rfl⟩)
      simp [absent, Call.change?]
    rw [set_call_other _ _ same]
    have before := traced.changes one change
    rw [applied, mem_append, mem_singleton, Prod.mk.injEq] at before
    simp only [same, false_and, or_false] at before
    exact before
  case unique =>
    have unique := traced.unique
    rw [applied, map_append] at unique
    exact unique.of_append_left
  case storedLate =>
    intro entry mem
    by_cases same : entry.1 = call
    · rw [same, set_call_same]
      rfl
    · rw [set_call_other _ _ same]
      exact traced.storedLate entry mem
  case calls =>
    intro one
    by_cases same : one = call
    · subst same
      rw [set_call_same]
      refine ⟨savedFits.later rfl (Nat.le_refl _), writers, ?_⟩
      exact behind.of_mutated (keeps_mutated (failing ▸ nofun))
    · rw [set_call_other _ _ same]
      exact (traced.calls one).change_taken_back _ _ (traced.rolls_back_last rolls)
        (traced.others_do_not_roll_back rolls same) same
  case behind =>
    intro noneRestores
    exact absurd (set_call_same _ call _) (noneRestores call saved)

theorem restore_catalog_traced (restoring : s.calls call = .restoring saved) :
    Traced ((s.setCatalog call saved.catalog.replace saved.stored).setCall call .failed) := by
  have rolls : (s.calls call).rollsBack = true := by rw [restoring]; rfl
  have fits := traced.calls call
  rw [restoring] at fits
  obtain ⟨savedFits, writers, behind⟩ := fits
  have same : saved.catalog.replace = saved.catalog :=
    normalize_catalog_identity savedFits.catalogNormal _
  rw [same]
  have changes : ∀ one change, (one, change) ∈ s.applied ↔
      (((s.setCatalog call saved.catalog saved.stored).setCall call .failed).calls one).change? =
        some change :=
    set_call_changes traced.changes (by show _ = (s.calls call).change?; rw [restoring]; rfl)
  constructor
  case normal => exact ⟨traced.normal.workspace, savedFits.catalogNormal⟩
  case activeID => exact savedFits.activeID
  case workspace => exact traced.workspace
  case entry => exact savedFits.entry
  case changes => exact changes
  case unique => exact traced.unique
  case storedLate =>
    intro entry mem
    obtain ⟨pending, whole, -⟩ := behind
    have applied : (entry.1, entry.2) ∈ s.applied := whole ▸ mem_append_left pending mem
    exact late_of_change ((changes entry.1 entry.2).mp applied)
  case calls =>
    intro one
    by_cases same : one = call
    · subst same
      rw [set_call_same]
      trivial
    · rw [set_call_other _ _ same]
      exact (traced.calls one).catalog_written _ _ (traced.others_do_not_roll_back rolls same) same
  case behind =>
    intro _
    exact behind.of_mutated (keeps_mutated (restoring ▸ nofun))

theorem step_traced {action : CallStep} (inOrder : orderly s action = true)
    (taken : concurrentStep s action = some next) : Traced next := by
  cases action with
  | takeWorkspace call action =>
    simp only [concurrentStep] at taken
    split at taken
    case h_1 idle => cases taken; exact take_workspace_traced traced action idle
    case h_2 => cases taken
  | takeCatalog call =>
    simp only [concurrentStep] at taken
    split at taken
    case h_1 action workspace applied took => cases taken; exact take_catalog_traced traced took
    case h_2 => cases taken
  | mutate call =>
    simp only [concurrentStep] at taken
    simp only [orderly, Bool.not_eq_true'] at inOrder
    split at taken
    case h_1 action saved took =>
      split at taken
      case isTrue admissible => cases taken; exact mutate_traced traced took admissible inOrder
      case isFalse => cases taken
    case h_2 => cases taken
  | reread call =>
    simp only [concurrentStep] at taken
    split at taken
    case h_1 action saved returned seen mutated =>
      split at taken
      case isTrue => cases taken; exact reread_traced traced mutated
      case isFalse => cases taken
    case h_2 => cases taken
  | store call =>
    simp only [concurrentStep] at taken
    split at taken
    case h_1 action saved returned seen mutated =>
      simp only [orderly, mutated, Bool.and_eq_true, Bool.not_eq_true',
        isPrefixOf_iff_prefix] at inOrder
      cases taken
      exact store_traced traced mutated inOrder.1.1 inOrder.1.2 inOrder.2
    case h_2 => cases taken
  | save call succeeds =>
    simp only [concurrentStep] at taken
    split at taken
    case h_1 action saved saving =>
      cases succeeds with
      | true =>
        cases taken
        exact traced.set_call saving rfl nofun id rfl trivial
      | false =>
        simp only [orderly, saving, Bool.and_eq_true, beq_iff_eq] at inOrder
        cases taken
        exact save_fails_traced traced saving inOrder.1 inOrder.2
    case h_2 => cases taken
  | restoreWorkspace call =>
    simp only [concurrentStep] at taken
    split at taken
    case h_1 action saved failing => cases taken; exact restore_workspace_traced traced failing
    case h_2 => cases taken
  | restoreCatalog call =>
    simp only [concurrentStep] at taken
    split at taken
    case h_1 saved restoring => cases taken; exact restore_catalog_traced traced restoring
    case h_2 => cases taken

end

theorem initial_traced (initial : s.Initial) : Traced s := by
  obtain ⟨normal, entry, idle, start, applied, stored, writers⟩ := initial
  have activeID : s.memory.catalog.activeWorkspaceID = s.start.id := by
    rw [start, ← entry, active_snapshot_id normal.catalog]
  constructor
  case normal => exact normal
  case activeID => exact activeID
  case workspace => rw [applied, start]; rfl
  case entry => rw [stored, start, entry]; rfl
  case changes =>
    intro call action
    rw [applied, idle]
    simp [Call.change?]
  case unique => rw [applied]; exact nodup_nil
  case storedLate =>
    intro entry mem
    rw [stored] at mem
    cases mem
  case calls =>
    intro call
    rw [idle]
    trivial
  case behind =>
    intro _
    rw [applied, stored]
    exact ⟨[], rfl, fun entry mem => by cases mem⟩

theorem reachable_traced
    (reachable : Kit.Reachable Shared.Initial (guarded orderly concurrentStep) s) : Traced s := by
  refine reachable.invariant initial_traced ?_
  intro s action next traced taken
  obtain ⟨inOrder, stepped⟩ := guarded_eq_some.mp taken
  exact step_traced traced inOrder stepped

theorem Call.change_of_finished (finished : state.finished = true) :
    state.change? = some action ↔ state = .succeeded action := by
  cases state with
  | succeeded | idle | refused | failed => simp [Call.change?]
  | _ => cases finished

/-- When every request has returned and all steps were in order, the active entry of the catalog is
the workspace, with exactly the changes that succeeded. -/
theorem orderly_requests_lose_nothing
    (reachable : Kit.Reachable Shared.Initial (guarded orderly concurrentStep) s)
    (finished : AllFinished s) : NothingLost s := by
  have traced := reachable_traced reachable
  have noneRestores : ∀ call saved, s.calls call ≠ .restoring saved := by
    intro call saved restoring
    have done := finished call
    rw [restoring] at done
    cases done
  obtain ⟨pending, whole, waiting⟩ := traced.behind noneRestores
  -- A change that the entry has not seen would belong to a request under way.
  have nonePending : pending = [] := by
    cases pending with
    | nil => rfl
    | cons entry rest =>
      have mutated := waiting entry mem_cons_self
      have done := finished entry.1
      cases phase : s.calls entry.1 with
      | mutated action saved returned seen => rw [phase] at done; cases done
      | _ => rw [phase] at mutated; cases mutated
  rw [nonePending, append_nil] at whole
  constructor
  case entry => rw [traced.entry, ← whole, traced.workspace]
  case workspace => exact traced.workspace
  case changes =>
    intro call action
    rw [traced.changes, change_of_finished (finished call)]

end

def CallStep.call : CallStep → Nat
  | .takeWorkspace call _ => call
  | .takeCatalog call => call
  | .mutate call => call
  | .reread call => call
  | .store call => call
  | .save call _ => call
  | .restoreWorkspace call => call
  | .restoreCatalog call => call

theorem step_other_call {next : Shared} {action : CallStep} {other : Nat}
    (taken : concurrentStep s action = some next) (apart : other ≠ action.call) :
    next.calls other = s.calls other := by
  cases action with
  | mutate call =>
    simp only [concurrentStep, Shared.mutate] at taken
    repeat' split at taken
    all_goals cases taken
    all_goals exact set_call_other _ _ apart
  | _ =>
    simp only [concurrentStep] at taken
    repeat' split at taken
    all_goals cases taken
    all_goals exact set_call_other _ _ apart

theorem all_finished_of_run {first : Shared} {actions : List CallStep} (count : Nat)
    (ran : runActions concurrentStep first actions = some s)
    (idle : ∀ call, count ≤ call → first.calls call = .idle)
    (few : ∀ action ∈ actions, action.call < count)
    (finished : (List.range count).all (fun call => (s.calls call).finished) = true) :
    AllFinished s := by
  induction actions generalizing first with
  | nil =>
    cases ran
    intro call
    by_cases isFew : call < count
    · exact all_eq_true.mp finished call (mem_range.mpr isFew)
    · rw [idle call (Nat.le_of_not_lt isFew)]
      rfl
  | cons action rest ih =>
    obtain ⟨next, taken, further⟩ := bind_eq_some_iff.mp ran
    refine ih further ?_ fun later mem => few later (mem_cons_of_mem _ mem)
    intro call isLater
    have apart : call ≠ action.call := by
      have isFew := few action mem_cons_self
      omega
    rw [step_other_call taken apart]
    exact idle call isLater

def Shared.began (m : Memory) : Shared where
  memory := m
  calls := fun _ => .idle
  start := m.workspace
  applied := []
  stored := []
  writers := []

variable {paths : Paths} {writes : Writes} {m : Memory}

theorem new_runtime_memory {disk : Disk}
    (running : (newRuntime paths writes disk).memory = some m) :
    m =
      { loadMemory disk with
        catalog := (loadMemory disk).catalog.setActiveSnapshot (loadMemory disk).workspace } := by
  unfold newRuntime at running
  dsimp only at running
  rcases persist_snapshot_cases paths writes (loadMemory disk).workspace
    (loadMemory disk) disk with
    ⟨message, result⟩ | ⟨_, _, ⟨message, _, result⟩ | ⟨_, _, result⟩⟩
  · rw [result] at running
    cases running
  · rw [result] at running
    cases running
  · rw [result] at running
    exact (some.inj running).symm

theorem started_initial {s next : System} (reachable : Kit.Reachable System.Initial (step paths) s)
    (taken : step paths s (.start writes) = some next) (running : next.memory = some m) :
    (Shared.began m).Initial := by
  have normal : NormalMemory m := (reachable_normal (reachable.next taken)).memory m running
  have loaded := load_memory_normal (reachable_normal reachable).disk
  have entry : m.catalog.activeSnapshot = m.workspace := by
    cases up : s.memory with
    | some _ =>
      simp only [step, up] at taken
      cases taken
    | none =>
      simp only [step, up, some.injEq] at taken
      rw [← taken] at running
      rw [new_runtime_memory running]
      exact set_active_snapshot_entry loaded.catalog loaded.workspace
        (active_snapshot_id loaded.catalog)
  exact ⟨normal, entry, rfl, rfl, rfl, rfl, rfl⟩

def bootstrapShared : Shared := Shared.began bootstrapMemory

theorem bootstrap_shared_initial : bootstrapShared.Initial :=
  started_initial (Kit.Reachable.start rfl) fresh_start rfl

def orderlyRun : List CallStep :=
  [ .takeWorkspace 0 (.renameTab "tab-main" "Build"),
    .takeCatalog 0,
    .takeWorkspace 1 (.renameTab "tab-ops" "Logs"),
    .takeCatalog 1,
    .mutate 0,
    .reread 0,
    .mutate 1,
    .store 0,
    .reread 1,
    .store 1,
    .save 0 true,
    .save 1 true,
    .takeWorkspace 2 (.setTabPinned "tab-ops" true),
    .takeCatalog 2,
    .mutate 2,
    .reread 2,
    .store 2,
    .save 2 false,
    .restoreWorkspace 2,
    .restoreCatalog 2 ]

theorem orderly_run_loses_nothing :
    (runActions (guarded orderly concurrentStep) bootstrapShared orderlyRun).map
      (fun s => s.memory.workspace.tabs.map Tab.title) =
      some ["Build", "Logs"] ∧
    ∀ s, runActions (guarded orderly concurrentStep) bootstrapShared orderlyRun = some s →
      AllFinished s ∧ NothingLost s := by
  refine ⟨by decide +kernel, ?_⟩
  intro s ran
  have returned : (runActions (guarded orderly concurrentStep) bootstrapShared orderlyRun).all
      (fun s => (range 3).all fun call => (s.calls call).finished) = true := by
    decide +kernel
  rw [ran] at returned
  have finished : AllFinished s :=
    all_finished_of_run 3 (run_actions_of_guarded ran) (fun _ _ => rfl) (by decide) returned
  exact ⟨finished, orderly_requests_lose_nothing
    ⟨bootstrapShared, bootstrap_shared_initial, runs_to_of_run ran⟩ finished⟩

def lostUpdateRun : List CallStep :=
  [ .takeWorkspace 0 (.renameTab "tab-main" "Build"),
    .takeCatalog 0,
    .takeWorkspace 1 (.renameTab "tab-ops" "Logs"),
    .takeCatalog 1,
    .mutate 1,
    .reread 1,
    .store 1,
    .save 1 true,
    .mutate 0,
    .reread 0,
    .store 0,
    .save 0 false,
    .restoreWorkspace 0,
    .restoreCatalog 0 ]

theorem failed_save_loses_other_rename :
    ∃ s, Kit.Reachable Shared.Initial concurrentStep s ∧ AllFinished s ∧
      s.calls 1 = .succeeded (.renameTab "tab-ops" "Logs") ∧
      s.memory.workspace.tabs.map Tab.title = ["Main Shell", "Ops Shell"] ∧ ¬NothingLost s := by
  have lost : (runActions concurrentStep bootstrapShared lostUpdateRun).any (fun s =>
      ((range 2).all fun call => (s.calls call).finished) &&
        decide ((s.calls 1).change? = some (.renameTab "tab-ops" "Logs") ∧
          s.memory.workspace.tabs.map Tab.title = ["Main Shell", "Ops Shell"] ∧
          s.memory.workspace ≠ replay s.start s.applied)) = true := by
    decide +kernel
  cases ran : runActions concurrentStep bootstrapShared lostUpdateRun with
  | none =>
    rw [ran] at lost
    cases lost
  | some s =>
    rw [ran, any_some, Bool.and_eq_true, decide_eq_true_eq] at lost
    obtain ⟨returned, changed, titles, differs⟩ := lost
    have finished : AllFinished s :=
      all_finished_of_run 2 ran (fun _ _ => rfl) (by decide) returned
    have reachable : Kit.Reachable Shared.Initial concurrentStep s :=
      ⟨bootstrapShared, bootstrap_shared_initial, runs_to_of_run ran⟩
    refine ⟨s, reachable, finished, ?_, titles, ?_⟩
    · exact (change_of_finished (finished 1)).mp changed
    · intro nothingLost
      exact differs nothingLost.workspace

end RuneTerminal.Workspace
