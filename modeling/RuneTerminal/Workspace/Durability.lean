import RuneTerminal.Workspace.Rollback

/-! A restart reads the catalog from its file. An action that writes the file and then fails at the
snapshot file puts the memory back, but not the file. -/

namespace RuneTerminal.Workspace

open Go.Strings
open Kit (guarded guarded_eq_some runActions runs_to_of_run reachable_of_run)

/-- Loading the catalog file gives the catalog in memory, whatever it falls back to. -/
def CatalogDurable (s : System) : Prop :=
  ∀ m, s.memory = some m → ∀ fallback, loadCatalog s.disk.catalogFile fallback = m.catalog

/-- The catalog file is written, and the write of the snapshot file fails. -/
def halfSaved (paths : Paths) (writes : Writes) : Bool :=
  trimSpace paths.workspaceCatalogFile ≠ "" && trimSpace paths.workspaceFile ≠ "" &&
    writes.catalogError.isNone && writes.workspaceError.isSome

def savesWhole (paths : Paths) (s : System) : SystemAction → Bool
  | .request request writes =>
    match s.memory with
    | some m => !((request.prepare m).1.isOk && halfSaved paths writes)
    | none => true
  | _ => true

variable {catalog : Catalog} {snapshot : Snapshot}

theorem switch_active_found (normal : NormalCatalog catalog) (mem : snapshot ∈ catalog.workspaces) :
    ∃ next, catalog.switchActive snapshot.id = (.ok snapshot, next) := by
  have clean := (normal.normal snapshot mem).cleanID
  unfold Catalog.switchActive
  dsimp only
  rw [clean.1, find_workspace_of_mem normal.distinctIDs mem clean]
  exact ⟨_, rfl⟩

variable {s : Snapshot}

theorem Savable.replaced_id (savable : Savable s) : (replaceSnapshot s).id = s.id := by
  unfold replaceSnapshot
  rw [normalize_snapshot_well_formed savable.wellFormed]
  simp only [trimHeader, savable.cleanID.1, savable.cleanID.2, if_false]

theorem upsert_switch_active (normal : NormalCatalog catalog) (savable : Savable s) :
    ∃ next, (catalog.upsert s).switchActive s.id = (.ok (replaceSnapshot s), next) := by
  have upserted : NormalCatalog (catalog.upsert s) := savable.set_active_normal normal
  have mem : replaceSnapshot s ∈ (catalog.upsert s).workspaces := by
    change replaceSnapshot s ∈ (upsertCatalogSnapshot catalog (replaceSnapshot s)).workspaces
    rw [upsert_catalog_snapshot_eq normal savable.replaced_normal]
    exact mem_put_workspace _ _
  rw [← savable.replaced_id]
  exact switch_active_found upserted mem

theorem active_snapshot_from_catalog_found (normal : NormalCatalog catalog) :
    ∃ active, activeSnapshotFromCatalog catalog = some active := by
  obtain ⟨active, mem, sameID⟩ := normal.active
  rw [← Option.isSome_iff_exists]
  unfold activeSnapshotFromCatalog
  rw [List.find?_isSome]
  exact ⟨active, mem, by simp [sameID]⟩

theorem ServiceRequest.prepare_catalog (request : ServiceRequest) (m : Memory) :
    (request.prepare m).2.catalog = m.catalog := by
  unfold ServiceRequest.prepare
  split
  · rfl
  · split
    · rfl
    · rfl

variable {m : Memory}

theorem Request.prepare_refused {next : Memory} (normal : NormalMemory m) {request : Request}
    (minted : request.minted m.workspace = true) {err : RuntimeError}
    (refused : request.prepare m = (.error err, next)) : next.catalog = m.catalog := by
  cases request with
  | service request =>
    have same := request.prepare_catalog m
    rwa [show request.prepare m = _ from refused] at same
  | catalog request =>
    cases request with
    | switchWorkspace workspaceID =>
      simp only [Request.prepare, CatalogRequest.prepare] at refused
      split at refused
      next outcome =>
        cases refused
        exact switch_active_error outcome
      · cases refused
    | createWorkspace conn newWorkspaceID newTabID newWidgetID =>
      simp only [Request.minted, decide_eq_true_eq] at minted
      obtain ⟨cleanWorkspace, cleanTab, cleanWidget⟩ := minted
      simp only [Request.prepare, CatalogRequest.prepare] at refused
      split at refused
      · cases refused
        rfl
      next connectionID =>
        have savable :=
          new_workspace_savable connectionID cleanWorkspace cleanTab cleanWidget
        obtain ⟨switched, found⟩ := upsert_switch_active normal.catalog savable
        rw [found] at refused
        cases refused
    | updateWorkspaceMetadata workspaceID name icon color applyDefaults =>
      simp only [Request.prepare, CatalogRequest.prepare] at refused
      split at refused
      · cases refused
        rfl
      split at refused
      · cases refused
        rfl
      · cases refused
    | deleteWorkspace workspaceID =>
      simp only [Request.prepare, CatalogRequest.prepare] at refused
      split at refused
      · cases refused
        rfl
      split at refused
      next outcome =>
        cases refused
        exact delete_error outcome
      next deleted catalog outcome =>
        -- A deletion leaves a catalog with an active workspace.
        have isNormal := delete_normal normal.catalog workspaceID
        rw [outcome] at isNormal
        have same := delete_ok outcome
        subst same
        obtain ⟨active, found⟩ := active_snapshot_from_catalog_found isNormal
        rw [found] at refused
        cases refused

section

variable {paths : Paths} (configured : trimSpace paths.workspaceCatalogFile ≠ "") {writes : Writes}
  {disk : Disk}

include configured

theorem write_catalog_ok {file written : Option Catalog}
    (done : writeFile paths.workspaceCatalogFile writes.catalogError catalog file = .ok written) :
    written = some catalog ∧ writes.catalogError.isNone = true := by
  unfold writeFile at done
  rw [if_neg configured] at done
  cases outcome : writes.catalogError with
  | some message =>
    rw [outcome] at done
    cases done
  | none =>
    rw [outcome] at done
    cases done
    exact ⟨rfl, rfl⟩

theorem write_snapshot_failed {file : Option Snapshot} {message : String}
    (catalogWritten : writes.catalogError.isNone = true)
    (failed : writeFile paths.workspaceFile writes.workspaceError snapshot file = .error message) :
    halfSaved paths writes = true := by
  unfold writeFile at failed
  split at failed
  · cases failed
  next hasPath =>
    cases outcome : writes.workspaceError with
    | none =>
      rw [outcome] at failed
      cases failed
    | some _ => simp [halfSaved, configured, hasPath, catalogWritten, outcome]

theorem persist_file {stored : Memory} {disk' : Disk} {outcome : Except String Unit}
    (saved : persistWorkspaceSnapshot paths writes snapshot m disk = (outcome, stored, disk')) :
    (outcome = .ok () → disk'.catalogFile = some stored.catalog) ∧
    (∀ message, outcome = .error message → halfSaved paths writes = false →
      disk'.catalogFile = disk.catalogFile) := by
  rcases persist_snapshot_cases paths writes snapshot m disk with
    ⟨message, result⟩ | ⟨catalogFile, catalogWrite, ⟨message, workspaceWrite, result⟩ |
      ⟨workspaceFile, _, result⟩⟩
  · cases result.symm.trans saved
    refine ⟨?_, fun _ _ _ => rfl⟩
    intro impossible
    cases impossible
  · cases result.symm.trans saved
    refine ⟨?_, ?_⟩
    · intro impossible
      cases impossible
    intro _ _ whole
    have half := write_snapshot_failed configured (write_catalog_ok configured catalogWrite).2
      workspaceWrite
    rw [whole] at half
    cases half
  · cases result.symm.trans saved
    refine ⟨fun _ => (write_catalog_ok configured catalogWrite).1, ?_⟩
    intro message impossible
    cases impossible

def FileFollows (s : System) : Prop :=
  ∀ m, s.memory = some m → s.disk.catalogFile = some m.catalog

theorem perform_file_follows (normal : NormalMemory m) (follows : disk.catalogFile = some m.catalog)
    {request : Request} (minted : request.minted m.workspace = true)
    (whole : ((request.prepare m).1.isOk && halfSaved paths writes) = false) :
    (request.perform paths writes m disk).2.2.catalogFile =
    some (request.perform paths writes m disk).2.1.catalog := by
  rcases request.perform_cases paths writes m disk with ⟨err, next, isRefused, ended⟩ |
    ⟨prepared, next, isPrepared, ⟨message, stored, disk', saved, ended⟩ |
      ⟨stored, disk', saved, ended⟩⟩
  · rw [ended, Request.prepare_refused normal minted isRefused]
    exact follows
  · have wholeSave : halfSaved paths writes = false := by
      rw [isPrepared] at whole
      simpa only [Except.toBool, Bool.true_and] using whole
    rw [ended, restore_workspace_memory_identity normal]
    exact ((persist_file configured saved).2 message rfl wholeSave).trans follows
  · rw [ended]
    exact (persist_file configured saved).1 rfl

theorem step_file_follows {s next : System} {action : SystemAction} (normal : NormalSystem s)
    (follows : FileFollows s) (whole : savesWhole paths s action = true)
    (taken : step paths s action = some next) : FileFollows next := by
  unfold step at taken
  split at taken
  next writes _ =>
    cases taken
    unfold newRuntime
    dsimp only
    rcases saved : persistWorkspaceSnapshot paths writes (loadMemory s.disk).workspace
      (loadMemory s.disk) s.disk with ⟨outcome, stored, disk'⟩
    have written := (persist_file configured saved).1
    cases outcome with
    | error message =>
      intro m running
      cases running
    | ok _ =>
      intro m running
      cases running
      exact written rfl
  · cases taken
    intro m running
    cases running
  next m request writes running =>
    split at taken
    next minted =>
      have isWhole : ((request.prepare m).1.isOk && halfSaved paths writes) = false := by
        simpa only [savesWhole, running, Bool.not_eq_true'] using whole
      have after := perform_file_follows configured (normal.memory m running)
        (follows m running) minted isWhole
      cases taken
      intro m' same
      cases same
      exact after
    · cases taken
  next m tabID running =>
    cases taken
    intro m' same
    cases same
    exact follows m running
  next m id running =>
    cases taken
    intro m' same
    cases same
    exact follows m running
  · cases taken

/-- In every run without half-saved actions, the catalog file gives the catalog in
memory. -/
theorem whole_saves_keep_catalog_durable {s : System}
    (reachable : Kit.Reachable System.Initial (guarded (savesWhole paths) (step paths)) s) :
    CatalogDurable s := by
  have both : NormalSystem s ∧ FileFollows s := by
    apply reachable.invariant
    · intro s isStart
      refine ⟨start_normal isStart, ?_⟩
      intro m running
      rw [isStart] at running
      cases running
    · intro s action next before taken
      obtain ⟨whole, taken⟩ := guarded_eq_some.mp taken
      exact ⟨step_normal before.1 taken,
        step_file_follows configured before.1 before.2 whole taken⟩
  intro m running fallback
  rw [both.2 m running]
  exact normalize_catalog_identity (both.1.memory m running).catalog fallback

end

def wholeRun : List SystemAction :=
  [ .start {},
    .request (.service (.renameTab "tab-main" "Build")) {},
    .request (.service (.closeTab "tab-ops")) { catalogError := some "no space left" } ]

theorem whole_run_durable :
    (runActions (guarded (savesWhole statePaths) (step statePaths)) emptySystem wholeRun).map
      (fun s => s.memory.map fun m => m.workspace.tabs.map Tab.title) =
      some (some ["Build", "Ops Shell"]) ∧
    ∀ s,
      runActions (guarded (savesWhole statePaths) (step statePaths)) emptySystem wholeRun = some s →
      CatalogDurable s := by
  refine ⟨by decide +kernel, ?_⟩
  intro s ran
  have configured : trimSpace statePaths.workspaceCatalogFile ≠ "" := by decide
  exact whole_saves_keep_catalog_durable configured
    ⟨emptySystem, rfl, runs_to_of_run ran⟩

def halfSavedRun : List SystemAction :=
  [ .start {},
    .request (.service (.renameTab "tab-main" "Build"))
      { workspaceError := some "no space left" } ]

theorem half_saved_rename_survives_restart :
    ¬∀ s, Kit.Reachable System.Initial (step statePaths) s → CatalogDurable s := by
  intro durable
  have isStart : System.Initial emptySystem := rfl
  obtain ⟨s, reachable, differs⟩ := reachable_of_run isStart
    (show (runActions (step statePaths) emptySystem halfSavedRun).map
      (fun s => s.memory.any fun m =>
        loadCatalog s.disk.catalogFile bootstrapDefault ≠ m.catalog) = some true by decide +kernel)
  cases running : s.memory with
  | none =>
    rw [running] at differs
    cases differs
  | some m =>
    rw [running] at differs
    exact of_decide_eq_true differs (durable s reachable m running bootstrapDefault)

end RuneTerminal.Workspace
