import RuneTerminal.Workspace.Rollback

/-! A request reads the workspace and the catalog for its rollback, changes the workspace, stores
the snapshot it got, saves, and puts back both when a save fails. Steps of requests mix in any
order. The state records the changes that no rollback has taken back. -/

namespace RuneTerminal.Workspace

open Go.Strings List

abbrev Log := List (Nat × Action)

def replay (start : Snapshot) (log : Log) : Snapshot :=
  log.foldl (fun s entry => (entry.2.perform s).2) start

/-- What a request holds for its rollback, and what was recorded when it read it. -/
structure Saved where
  workspace : Snapshot
  catalog : Catalog
  applied : Log
  stored : Log
  writers : List Nat

/-- `returned` is the snapshot that the request will store, and `seen` the
changes in it. -/
inductive Call where
  | idle
  | tookWorkspace (action : Action) (workspace : Snapshot) (applied : Log)
  | took (action : Action) (saved : Saved)
  | mutated (action : Action) (saved : Saved) (returned : Snapshot) (seen : Log)
  | saving (action : Action) (saved : Saved)
  | failing (action : Action) (saved : Saved)
  | restoring (saved : Saved)
  | refused
  | succeeded (action : Action)
  | failed

structure Shared where
  memory : Memory
  calls : Nat → Call
  start : Snapshot
  applied : Log
  stored : Log
  writers : List Nat

inductive CallStep where
  | takeWorkspace (call : Nat) (action : Action)
  | takeCatalog (call : Nat)
  | mutate (call : Nat)
  | reread (call : Nat)
  | store (call : Nat)
  | save (call : Nat) (succeeds : Bool)
  | restoreWorkspace (call : Nat)
  | restoreCatalog (call : Nat)

instance (s : Snapshot) (action : Action) : Decidable (Admissible s action) :=
  match action with
  | .addTerminalTab tab widget =>
    inferInstanceAs (Decidable (CleanID tab.id ∧ tab.id ∉ s.tabs.map Tab.id ∧
      CleanID widget.id ∧ widget.id ∉ s.widgets.map Widget.id ∧
      tab.widgetIDs = [widget.id] ∧ tab.windowLayout = .nil))
  | .splitTabWithWidget _ _ widget _ =>
    inferInstanceAs (Decidable (CleanID widget.id ∧ widget.id ∉ s.widgets.map Widget.id))
  | .focusWidget _ | .focusTab _ | .moveWidgetBySplit .. | .closeTab _ | .closeWidget _
  | .renameTab .. | .setTabPinned .. | .moveTab .. | .updateLayout _ | .saveLayout _
  | .switchLayout _ => .isTrue trivial

/-- `FocusWidget`, `FocusTab`, `RenameTab` and `SetTabPinned` of the runtime read the snapshot they
store in a step of its own; the other methods return it. -/
def Action.rereads : Action → Bool
  | .focusWidget _ => true
  | .focusTab _ => true
  | .renameTab _ _ => true
  | .setTabPinned _ _ => true
  | _ => false

def Shared.setCall (s : Shared) (call : Nat) (state : Call) : Shared :=
  { s with calls := fun other => if other = call then state else s.calls other }

def Shared.setWorkspace (s : Shared) (workspace : Snapshot) (applied : Log) : Shared :=
  { s with memory := { s.memory with workspace := workspace }, applied := applied }

def Shared.setCatalog (s : Shared) (call : Nat) (catalog : Catalog) (stored : Log) : Shared :=
  { s with
    memory := { s.memory with catalog := catalog }
    stored := stored
    writers := s.writers ++ [call] }

def Shared.mutate (s : Shared) (call : Nat) (action : Action) (saved : Saved) : Shared :=
  match action.perform s.memory.workspace with
  | (some _, next) => (s.setWorkspace next s.applied).setCall call .refused
  | (none, next) =>
    let applied := s.applied ++ [(call, action)]
    (s.setWorkspace next applied).setCall call (.mutated action saved next applied)

def concurrentStep (s : Shared) : CallStep → Option Shared
  | .takeWorkspace call action =>
    match s.calls call with
    | .idle => some (s.setCall call (.tookWorkspace action s.memory.workspace s.applied))
    | _ => none
  | .takeCatalog call =>
    match s.calls call with
    | .tookWorkspace action workspace applied =>
      some (s.setCall call (.took action
        { workspace := workspace
          catalog := s.memory.catalog
          applied := applied
          stored := s.stored
          writers := s.writers }))
    | _ => none
  | .mutate call =>
    match s.calls call with
    | .took action saved =>
      if Admissible s.memory.workspace action then some (s.mutate call action saved) else none
    | _ => none
  | .reread call =>
    match s.calls call with
    | .mutated action saved _ _ =>
      if action.rereads then
        some (s.setCall call (.mutated action saved s.memory.workspace s.applied))
      else none
    | _ => none
  | .store call =>
    match s.calls call with
    | .mutated action saved returned seen =>
      some ((s.setCatalog call (s.memory.catalog.setActiveSnapshot returned) seen).setCall call
        (.saving action saved))
    | _ => none
  | .save call succeeds =>
    match s.calls call with
    | .saving action saved =>
      some (s.setCall call (if succeeds then .succeeded action else .failing action saved))
    | _ => none
  | .restoreWorkspace call =>
    match s.calls call with
    | .failing _ saved =>
      let applied := s.applied.filter (·.1 ≠ call)
      some ((s.setWorkspace (replaceSnapshot saved.workspace) applied).setCall call
        (.restoring saved))
    | _ => none
  | .restoreCatalog call =>
    match s.calls call with
    | .restoring saved =>
      some ((s.setCatalog call saved.catalog.replace saved.stored).setCall call .failed)
    | _ => none

def Shared.Initial (s : Shared) : Prop :=
  NormalMemory s.memory ∧ s.memory.catalog.activeSnapshot = s.memory.workspace ∧
    (s.calls = fun _ => .idle) ∧ s.start = s.memory.workspace ∧ s.applied = [] ∧ s.stored = [] ∧
    s.writers = []

def Call.finished : Call → Bool
  | .idle => true
  | .refused => true
  | .succeeded _ => true
  | .failed => true
  | _ => false

def AllFinished (s : Shared) : Prop := ∀ call, (s.calls call).finished = true

/-- The active entry of the catalog is the workspace, and the workspace is made of
the changes of the requests that succeeded. -/
structure NothingLost (s : Shared) : Prop where
  entry : s.memory.catalog.activeSnapshot = s.memory.workspace
  workspace : s.memory.workspace = replay s.start s.applied
  changes : ∀ call action, (call, action) ∈ s.applied ↔ s.calls call = .succeeded action

def Shared.lastWriter (s : Shared) : Call :=
  match s.writers.getLast? with
  | some call => s.calls call
  | none => .idle

def Call.isFailing : Call → Bool
  | .failing _ _ => true
  | _ => false

def Call.rollsBack : Call → Bool
  | .failing _ _ => true
  | .restoring _ => true
  | _ => false

/-- The condition under which a step loses nothing. A snapshot that is stored has every change that
the catalog has seen and none that was taken back; a save fails only when no other request has
changed anything since the rollback copies were read; and until a rollback has put a part of the
memory back, no other request changes this part. -/
def orderly (s : Shared) : CallStep → Bool
  | .mutate _ => !s.lastWriter.isFailing
  | .store call =>
    match s.calls call with
    | .mutated _ _ _ seen =>
      s.stored.isPrefixOf seen && seen.isPrefixOf s.applied && !s.lastWriter.rollsBack
    | _ => true
  | .save call false =>
    match s.calls call with
    | .saving action saved =>
      s.applied == saved.applied ++ [(call, action)] && s.writers == saved.writers ++ [call]
    | _ => true
  | _ => true

theorem replay_id (start : Snapshot) (log : Log) : (replay start log).id = start.id := by
  unfold replay
  induction log generalizing start with
  | nil => rfl
  | cons entry rest ih =>
    rw [foldl_cons, ih]
    exact congrArg Prod.fst (Action.perform_header entry.2 start)

section

variable {catalog : Catalog} {snapshot : Snapshot}

section

variable (normal : NormalCatalog catalog)
include normal

theorem active_snapshot_of_mem (mem : snapshot ∈ catalog.workspaces)
    (isActive : snapshot.id = catalog.activeWorkspaceID) : catalog.activeSnapshot = snapshot := by
  unfold Catalog.activeSnapshot
  rw [← isActive, find_workspace_of_mem normal.distinctIDs mem
    (normal.normal snapshot mem).cleanID]
  rfl

theorem active_snapshot_id : catalog.activeSnapshot.id = catalog.activeWorkspaceID := by
  obtain ⟨active, mem, sameID⟩ := normal.active
  rw [active_snapshot_of_mem normal mem sameID, sameID]

theorem set_active_snapshot_eq (isNormal : NormalSnapshot snapshot) :
    catalog.setActiveSnapshot snapshot =
      { catalog with workspaces := putWorkspace catalog.workspaces snapshot } := by
  unfold Catalog.setActiveSnapshot
  rw [normalize_snapshot_identity isNormal]
  exact upsert_catalog_snapshot_eq normal isNormal

theorem set_active_snapshot_entry (isNormal : NormalSnapshot snapshot)
    (isActive : snapshot.id = catalog.activeWorkspaceID) :
    (catalog.setActiveSnapshot snapshot).activeSnapshot = snapshot := by
  rw [set_active_snapshot_eq normal isNormal]
  exact active_snapshot_of_mem (normal.put isNormal) (mem_put_workspace _ _) isActive

end

end

def Call.change? : Call → Option Action
  | .mutated action _ _ _ => some action
  | .saving action _ => some action
  | .failing action _ => some action
  | .succeeded action => some action
  | _ => none

def Call.isMutated : Call → Bool
  | .mutated .. => true
  | _ => false

def Call.isEarly : Call → Bool
  | .idle => true
  | .tookWorkspace .. => true
  | .took .. => true
  | _ => false

/-- The requests of the changes that are not in `stored` are still to store. -/
def Behind (calls : Nat → Call) (stored applied : Log) : Prop :=
  ∃ pending, applied = stored ++ pending ∧ ∀ entry ∈ pending, (calls entry.1).isMutated = true

/-- The rollback copies are made of the changes that were recorded with them. -/
structure SavedFits (s : Shared) (call : Nat) (saved : Saved) : Prop where
  workspaceNormal : NormalSnapshot saved.workspace
  workspace : saved.workspace = replay s.start saved.applied
  catalogNormal : NormalCatalog saved.catalog
  activeID : saved.catalog.activeWorkspaceID = s.start.id
  entry : saved.catalog.activeSnapshot = replay s.start saved.stored
  notApplied : call ∉ saved.applied.map Prod.fst
  notStored : call ∉ saved.stored.map Prod.fst
  earlier : saved.writers.length ≤ s.writers.length

def CallFits (s : Shared) (call : Nat) : Call → Prop
  | .tookWorkspace _ workspace applied =>
    NormalSnapshot workspace ∧ workspace = replay s.start applied ∧ call ∉ applied.map Prod.fst
  | .took _ saved =>
    SavedFits s call saved ∧ (s.writers = saved.writers → s.stored = saved.stored)
  | .mutated _ saved returned seen =>
    SavedFits s call saved ∧ (s.writers = saved.writers → s.stored = saved.stored) ∧
      NormalSnapshot returned ∧ returned = replay s.start seen ∧ call ∈ seen.map Prod.fst
  | .saving _ saved =>
    SavedFits s call saved ∧ (s.writers = saved.writers ++ [call] →
      Behind s.calls saved.stored (s.applied.filter (·.1 ≠ call)))
  | .failing action saved =>
    SavedFits s call saved ∧ s.applied = saved.applied ++ [(call, action)] ∧
      s.writers = saved.writers ++ [call] ∧ Behind s.calls saved.stored saved.applied
  | .restoring saved =>
    SavedFits s call saved ∧ s.writers = saved.writers ++ [call] ∧
      Behind s.calls saved.stored s.applied
  | _ => True

structure Traced (s : Shared) : Prop where
  normal : NormalMemory s.memory
  activeID : s.memory.catalog.activeWorkspaceID = s.start.id
  workspace : s.memory.workspace = replay s.start s.applied
  entry : s.memory.catalog.activeSnapshot = replay s.start s.stored
  changes : ∀ call action, (call, action) ∈ s.applied ↔ (s.calls call).change? = some action
  unique : (s.applied.map Prod.fst).Nodup
  storedLate : ∀ entry ∈ s.stored, (s.calls entry.1).isEarly = false
  calls : ∀ call, CallFits s call (s.calls call)
  behind : (∀ call saved, s.calls call ≠ .restoring saved) → Behind s.calls s.stored s.applied

section

variable {s next : Shared} {call other : Nat} {state : Call} {saved : Saved} {log applied : Log}

@[simp]
theorem set_call_same (s : Shared) (call : Nat) (state : Call) :
    (s.setCall call state).calls call = state := by
  simp [Shared.setCall]

@[simp]
theorem set_call_other (s : Shared) {call other : Nat} (state : Call) (apart : other ≠ call) :
    (s.setCall call state).calls other = s.calls other := by
  simp [Shared.setCall, apart]

variable {moved : Call}

theorem keeps_mutated (kept : (s.calls call).isMutated = true → moved.isMutated = true)
    (one : Nat) (waiting : (s.calls one).isMutated = true) :
    ((s.setCall call moved).calls one).isMutated = true := by
  by_cases same : one = call
  · subst same
    rw [set_call_same]
    exact kept waiting
  · rw [set_call_other s moved same]
    exact waiting

theorem set_call_changes
    (changes : ∀ one action, (one, action) ∈ log ↔ (s.calls one).change? = some action)
    (sameChange : moved.change? = (s.calls call).change?) (one : Nat) (action : Action) :
    (one, action) ∈ log ↔ ((s.setCall call moved).calls one).change? = some action := by
  by_cases same : one = call
  · subst same
    rw [set_call_same, sameChange]
    exact changes one action
  · rw [set_call_other s moved same]
    exact changes one action

theorem none_restores_before (notRolling : (s.calls call).rollsBack = false)
    (noneRestores : ∀ one saved, (s.setCall call moved).calls one ≠ .restoring saved) (one : Nat)
    (saved : Saved) : s.calls one ≠ .restoring saved := by
  by_cases same : one = call
  · intro restoring
    rw [← same, restoring] at notRolling
    cases notRolling
  · rw [← set_call_other s moved same]
    exact noneRestores one saved

theorem Behind.of_mutated {calls after : Nat → Call} {stored : Log}
    (behind : Behind calls stored applied)
    (kept : ∀ call, (calls call).isMutated = true → (after call).isMutated = true) :
    Behind after stored applied := by
  obtain ⟨pending, whole, waiting⟩ := behind
  exact ⟨pending, whole, fun entry mem => kept entry.1 (waiting entry mem)⟩

theorem Behind.extend {calls : Nat → Call} {stored : Log} (behind : Behind calls stored applied)
    {entry : Nat × Action} (waits : (calls entry.1).isMutated = true) :
    Behind calls stored (applied ++ [entry]) := by
  obtain ⟨pending, rfl, waiting⟩ := behind
  refine ⟨pending ++ [entry], append_assoc _ _ _, ?_⟩
  intro one mem
  rw [mem_append, mem_singleton] at mem
  rcases mem with mem | rfl
  · exact waiting one mem
  · exact waits

theorem SavedFits.later (fits : SavedFits s call saved) (sameStart : next.start = s.start)
    (grows : s.writers.length ≤ next.writers.length) : SavedFits next call saved where
  workspaceNormal := fits.workspaceNormal
  workspace := by rw [sameStart]; exact fits.workspace
  catalogNormal := fits.catalogNormal
  activeID := by rw [sameStart]; exact fits.activeID
  entry := by rw [sameStart]; exact fits.entry
  notApplied := fits.notApplied
  notStored := fits.notStored
  earlier := Nat.le_trans fits.earlier grows

/-- What a step has to keep of a request that does not take it: a catalog that was not written since
the copies were read, and who may roll back. -/
theorem CallFits.carry (fits : CallFits s other state) (sameStart : next.start = s.start)
    (grows : s.writers.length ≤ next.writers.length)
    (unwritten : ∀ {saved}, SavedFits s other saved → next.writers = saved.writers →
      s.writers = saved.writers ∧ next.stored = s.stored)
    (saves : ∀ {action saved}, state = .saving action saved →
      next.writers = saved.writers ++ [other] →
      Behind next.calls saved.stored (next.applied.filter (·.1 ≠ other)))
    (rolls : state.rollsBack = true → CallFits next other state) : CallFits next other state := by
  have kept : ∀ {saved}, SavedFits s other saved →
      (s.writers = saved.writers → s.stored = saved.stored) →
        next.writers = saved.writers → next.stored = saved.stored := by
    intro saved savedFits before same
    obtain ⟨sameWriters, sameStored⟩ := unwritten savedFits same
    rw [sameStored, before sameWriters]
  cases state with
  | tookWorkspace action workspace applied =>
    unfold CallFits
    rw [sameStart]
    exact fits
  | took action saved => exact ⟨fits.1.later sameStart grows, kept fits.1 fits.2⟩
  | mutated action saved returned seen =>
    obtain ⟨savedFits, before, made⟩ := fits
    refine ⟨savedFits.later sameStart grows, kept savedFits before, ?_⟩
    rw [sameStart]
    exact made
  | saving action saved => exact ⟨fits.1.later sameStart grows, saves rfl⟩
  | failing | restoring => exact rolls rfl
  | idle | refused | succeeded | failed => trivial

theorem CallFits.set_call (fits : CallFits s other state)
    (kept : (s.calls call).isMutated = true → moved.isMutated = true) :
    CallFits (s.setCall call moved) other state := by
  have keptAll := keeps_mutated kept
  refine fits.carry rfl (Nat.le_refl _) ?unwritten ?saves ?rolls
  case unwritten => exact fun _ same => ⟨same, rfl⟩
  case saves =>
    rintro action saved rfl own
    exact (fits.2 own).of_mutated keptAll
  case rolls =>
    intro rolls
    cases state with
    | failing action saved =>
      obtain ⟨savedFits, applied, writers, behind⟩ := fits
      exact ⟨savedFits.later rfl (Nat.le_refl _), applied, writers, behind.of_mutated keptAll⟩
    | restoring saved =>
      obtain ⟨savedFits, writers, behind⟩ := fits
      exact ⟨savedFits.later rfl (Nat.le_refl _), writers, behind.of_mutated keptAll⟩
    | _ => cases rolls

theorem Traced.set_call (traced : Traced s) {old : Call} (before : s.calls call = old)
    (change : moved.change? = old.change?) (mutated : old.isMutated = true → moved.isMutated = true)
    (late : old.isEarly = false → moved.isEarly = false) (notRolling : old.rollsBack = false)
    (fits : CallFits s call moved) : Traced (s.setCall call moved) where
  normal := traced.normal
  activeID := traced.activeID
  workspace := traced.workspace
  entry := traced.entry
  changes := set_call_changes traced.changes (by rw [before, change])
  unique := traced.unique
  storedLate := by
    intro entry mem
    have wasLate := traced.storedLate entry mem
    by_cases same : entry.1 = call
    · rw [same, before] at wasLate
      rw [same, set_call_same]
      exact late wasLate
    · rw [set_call_other s moved same]
      exact wasLate
  calls := by
    intro one
    by_cases same : one = call
    · subst same
      rw [set_call_same]
      exact fits.set_call (before ▸ mutated)
    · rw [set_call_other s moved same]
      exact (traced.calls one).set_call (before ▸ mutated)
  behind := by
    intro noneRestores
    have noneBefore := none_restores_before (before ▸ notRolling) noneRestores
    exact (traced.behind noneBefore).of_mutated (keeps_mutated (before ▸ mutated))

theorem Call.change_of_early (early : state.isEarly = true) : state.change? = none := by
  cases state with
  | idle | tookWorkspace | took => rfl
  | _ => cases early

section

variable (traced : Traced s)
include traced

theorem Traced.early_not_applied (early : (s.calls call).isEarly = true) :
    call ∉ s.applied.map Prod.fst := by
  intro mem
  obtain ⟨⟨one, action⟩, entryMember, same⟩ := mem_map.mp mem
  have changed := (traced.changes one action).mp entryMember
  dsimp only at same
  rw [same, Call.change_of_early early] at changed
  cases changed

theorem Traced.early_not_stored (early : (s.calls call).isEarly = true) :
    call ∉ s.stored.map Prod.fst := by
  intro mem
  obtain ⟨entry, entryMember, same⟩ := mem_map.mp mem
  have late := traced.storedLate entry entryMember
  rw [same, early] at late
  cases late

section

variable (rolls : (s.calls call).rollsBack = true)
include rolls

theorem Traced.rolls_back_last : s.writers.getLast? = some call := by
  have fits := traced.calls call
  cases phase : s.calls call with
  | failing action saved =>
    rw [phase] at fits
    simp [fits.2.2.1]
  | restoring saved =>
    rw [phase] at fits
    simp [fits.2.1]
  | _ =>
    rw [phase] at rolls
    cases rolls

theorem Traced.last_writer : s.lastWriter = s.calls call := by
  unfold Shared.lastWriter
  rw [traced.rolls_back_last rolls]

theorem Traced.rolls_back_unique
    (otherRolls : (s.calls other).rollsBack = true) : other = call := by
  have last := traced.rolls_back_last rolls
  rw [traced.rolls_back_last otherRolls] at last
  exact Option.some.inj last

end

end

theorem filter_absent (absent : call ∉ log.map Prod.fst) : log.filter (·.1 ≠ call) = log := by
  rw [filter_eq_self]
  intro entry mem
  rw [decide_eq_true_eq]
  rintro rfl
  exact absent (mem_map.mpr ⟨entry, mem, rfl⟩)

theorem filter_own (absent : call ∉ log.map Prod.fst) (action : Action) :
    (log ++ [(call, action)]).filter (·.1 ≠ call) = log := by
  rw [filter_append, filter_absent absent]
  simp

end

end RuneTerminal.Workspace
