import RuneTerminal.Workspace.Runtime
import RuneTerminal.Kit.Transition

/-! Sequential runs of the runtime over its two files. What a run holds in memory is always normal,
so the normalization on the way back from a failed save changes nothing. -/

namespace RuneTerminal.Workspace

open Go.Strings List CatalogRequest

def freshTab (s : Snapshot) (tabID : String) : Bool :=
  decide (CleanID tabID ∧ tabID ∉ s.tabs.map Tab.id)

def freshWidget (s : Snapshot) (widgetID : String) : Bool :=
  decide (CleanID widgetID ∧ widgetID ∉ s.widgets.map Widget.id)

/-- `ids.New` gives a clean id that is not in use. -/
def ServiceRequest.minted (s : Snapshot) : ServiceRequest → Bool
  | .createTerminalTabWithConnection _ _ _ newTabID newWidgetID =>
    freshTab s newTabID && freshWidget s newWidgetID
  | .createRemoteTerminalTabWithProfile _ _ _ newTabID newWidgetID =>
    freshTab s newTabID && freshWidget s newWidgetID
  | .createSplitTerminalWidget _ _ _ _ _ _ newWidgetID => freshWidget s newWidgetID
  | .openDirectoryInNewBlock _ _ _ newWidgetID => freshWidget s newWidgetID
  | .openPreviewInNewBlock _ _ _ _ newWidgetID => freshWidget s newWidgetID
  | _ => true

def Request.minted (s : Snapshot) : Request → Bool
  | .service request => request.minted s
  | .catalog (.createWorkspace _ newWorkspaceID newTabID newWidgetID) =>
    decide (CleanID newWorkspaceID ∧ CleanID newTabID ∧ CleanID newWidgetID)
  | .catalog _ => true

def loadSnapshot (file : Option Snapshot) (fallback : Snapshot) : Snapshot :=
  match file with
  | none => fallback
  | some snapshot => normalizeSnapshot snapshot fallback

def loadCatalog (file : Option Catalog) (fallback : Snapshot) : Catalog :=
  match file with
  | none => bootstrapCatalog fallback
  | some catalog => normalizeCatalog catalog fallback

/-- The memory that `NewRuntime` builds from the files. -/
def loadMemory (disk : Disk) : Memory :=
  let workspaceSnapshot := loadSnapshot disk.workspaceFile bootstrapDefault
  let catalog := (loadCatalog disk.catalogFile workspaceSnapshot).newCatalogStore
  { workspace := catalog.activeSnapshot, catalog := catalog }

/-- `memory` is `none` while no runtime is up. -/
structure System where
  memory : Option Memory
  disk : Disk
  deriving DecidableEq

def System.Initial (s : System) : Prop :=
  s = { memory := none, disk := { catalogFile := none, workspaceFile := none } }

inductive SystemAction where
  | start (writes : Writes)
  | stop
  | request (request : Request) (writes : Writes)
  | toolFocusTab (tabID : String)
  | toolFocusWidget (widgetID : String)

/-- `NewRuntime`: a start whose save fails gives no runtime. -/
def newRuntime (paths : Paths) (writes : Writes) (disk : Disk) : System :=
  let loaded := loadMemory disk
  match persistWorkspaceSnapshot paths writes loaded.workspace loaded disk with
  | (.ok _, m, disk) => { memory := some m, disk := disk }
  | (.error _, _, disk) => { memory := none, disk := disk }

def step (paths : Paths) (s : System) (action : SystemAction) : Option System :=
  match s.memory, action with
  | none, .start writes => some (newRuntime paths writes s.disk)
  | some _, .stop => some { s with memory := none }
  | some m, .request request writes =>
    if request.minted m.workspace then
      let (_, next, disk) := request.perform paths writes m s.disk
      some { memory := some next, disk := disk }
    else none
  | some m, .toolFocusTab tabID =>
    some { s with memory := some { m with workspace := (m.workspace.focusTab tabID).2 } }
  | some m, .toolFocusWidget widgetID =>
    some { s with memory := some { m with workspace := (m.workspace.focusWidget widgetID).2 } }
  | _, _ => none

structure NormalMemory (m : Memory) : Prop where
  workspace : NormalSnapshot m.workspace
  catalog : NormalCatalog m.catalog

/-- A snapshot of which normalization changes only the texts. -/
structure Savable (s : Snapshot) : Prop where
  wellFormed : WellFormed s
  cleanID : CleanID s.id

variable {s : Snapshot} {catalog : Catalog} {tabID id connectionID newWidgetID : String}
  {paths : Paths} {writes : Writes} {disk : Disk} {action : Action} {request : ServiceRequest}

theorem NormalSnapshot.savable (normal : NormalSnapshot s) : Savable s :=
  ⟨normal.wellFormed, normal.cleanID⟩

theorem Savable.replaced_normal (savable : Savable s) : NormalSnapshot (replaceSnapshot s) :=
  normalize_snapshot_normal savable.wellFormed savable.cleanID default_normal.cleanName

theorem Savable.set_active_normal (savable : Savable s) (normal : NormalCatalog catalog) :
    NormalCatalog (catalog.setActiveSnapshot s) :=
  upsert_catalog_snapshot_normal normal savable.replaced_normal

variable {m : Memory}

theorem restore_workspace_memory_identity (normal : NormalMemory m) :
    restoreWorkspaceMemory m = m := by
  unfold restoreWorkspaceMemory replaceSnapshot Catalog.replace
  rw [normalize_snapshot_identity normal.workspace, normalize_catalog_identity normal.catalog]

theorem fresh_tab_spec (fresh : freshTab s tabID = true) :
    CleanID tabID ∧ tabID ∉ s.tabs.map Tab.id :=
  of_decide_eq_true fresh

theorem fresh_widget_spec (fresh : freshWidget s id = true) :
    CleanID id ∧ id ∉ s.widgets.map Widget.id :=
  of_decide_eq_true fresh

theorem new_tab_admissible {tab : Tab} {widget : Widget}
    (minted : (freshTab s tab.id && freshWidget s widget.id) = true)
    (single : tab.widgetIDs = [widget.id]) (noLayout : tab.windowLayout = .nil) :
    Admissible s (.addTerminalTab tab widget) := by
  rw [Bool.and_eq_true] at minted
  obtain ⟨cleanTab, newTab⟩ := fresh_tab_spec minted.1
  obtain ⟨cleanWidget, newWidget⟩ := fresh_widget_spec minted.2
  exact ⟨cleanTab, newTab, cleanWidget, newWidget, single, noLayout⟩

variable {targetWidgetID : String}

theorem plan_split_terminal_admissible {title tabID connectionID newWidgetID : String}
    {direction : WindowSplitDirection} {launch : Launch} {action : Action}
    (minted : freshWidget s newWidgetID = true)
    (planned : planSplitTerminal title tabID targetWidgetID direction connectionID launch
      newWidgetID s =
      .ok action) :
    Admissible s action := by
  unfold planSplitTerminal at planned
  dsimp only at planned
  split at planned
  · cases planned
  split at planned
  · cases planned
  obtain ⟨conn, _, planned⟩ := Kit.bind_eq_ok planned
  obtain ⟨_, _, planned⟩ := Kit.bind_eq_ok planned
  cases planned
  exact fresh_widget_spec minted

section

variable {path : String} (minted : freshWidget s newWidgetID = true)
include minted

theorem plan_directory_admissible
    (planned : planDirectory path targetWidgetID connectionID newWidgetID s = .ok action) :
    Admissible s action := by
  unfold planDirectory at planned
  split at planned
  · cases planned
  · obtain ⟨_, _, planned⟩ := Kit.bind_eq_ok planned
    cases planned
    exact fresh_widget_spec minted

theorem plan_preview_admissible {resolved : Except String String}
    (planned : planPreview path targetWidgetID connectionID resolved newWidgetID s = .ok action) :
    Admissible s action := by
  unfold planPreview at planned
  split at planned
  · cases planned
  obtain ⟨_, _, planned⟩ := Kit.bind_eq_ok planned
  obtain ⟨_, _, planned⟩ := Kit.bind_eq_ok planned
  cases planned
  exact fresh_widget_spec minted

end

theorem plan_admissible (minted : request.minted s = true) (planned : request.plan s = .ok action) :
    Admissible s action := by
  cases request with
  | createTerminalTabWithConnection title connectionID launch newTabID newWidgetID =>
    obtain ⟨conn, _, planned⟩ := Kit.bind_eq_ok planned
    obtain ⟨_, _, planned⟩ := Kit.bind_eq_ok planned
    cases planned
    exact new_tab_admissible minted rfl rfl
  | createRemoteTerminalTabWithProfile title profileID launch newTabID newWidgetID =>
    obtain ⟨_, _, planned⟩ := Kit.bind_eq_ok planned
    cases planned
    exact new_tab_admissible minted rfl rfl
  | createSplitTerminalWidget title tabID targetWidgetID direction connectionID launch id =>
    exact plan_split_terminal_admissible minted planned
  | openDirectoryInNewBlock path targetWidgetID connectionID newWidgetID =>
    exact plan_directory_admissible minted planned
  | openPreviewInNewBlock path targetWidgetID connectionID resolved newWidgetID =>
    exact plan_preview_admissible minted planned
  | closeTab | closeWidget =>
    unfold ServiceRequest.plan at planned
    dsimp only at planned
    split at planned
    · cases planned
      trivial
    · cases planned
  | _ =>
    cases planned
    trivial

structure ReadyToSave (preparation : Preparation) : Prop where
  memory : NormalMemory preparation.2
  savable : ∀ prepared, preparation.1 = .ok prepared → Savable prepared.toSave

theorem ready_of_error {err : RuntimeError} (normal : NormalMemory m) :
    ReadyToSave (.error err, m) := by
  refine ⟨normal, ?_⟩
  intro prepared same
  cases same

theorem ready_of_savable {toSave result : Snapshot} (normal : NormalMemory m)
    (savable : Savable toSave) : ReadyToSave (.ok ⟨toSave, result⟩, m) := by
  refine ⟨normal, ?_⟩
  intro prepared same
  cases same
  exact savable

theorem ServiceRequest.prepare_ready (normal : NormalMemory m)
    (minted : request.minted m.workspace = true) : ReadyToSave (request.prepare m) := by
  unfold ServiceRequest.prepare
  cases planned : request.plan m.workspace with
  | error err => exact ready_of_error normal
  | ok action =>
    have performed := Action.perform_normal normal.workspace (plan_admissible minted planned)
    dsimp only
    split
    next err next outcome =>
      rw [outcome] at performed
      exact ready_of_error ⟨performed, normal.catalog⟩
    next next outcome =>
      rw [outcome] at performed
      exact ready_of_savable ⟨performed, normal.catalog⟩ performed.savable

theorem new_workspace_savable {workspaceID : String} (connectionID : String)
    (cleanWorkspace : CleanID workspaceID) (cleanTab : CleanID tabID)
    (cleanWidget : CleanID id) :
    Savable (newWorkspaceSnapshot workspaceID tabID id connectionID) := by
  refine ⟨⟨⟨?_, nodup_singleton _, List.Perm.refl _, nodup_singleton _, ?_⟩, ?_,
    default_well_formed.layouts⟩, cleanWorkspace⟩
  · intro tab mem
    rw [mem_singleton.mp mem]
    exact cleanTab
  · intro tab mem
    rw [mem_singleton.mp mem]
    exact ⟨PaneTree.single id cleanWidget, rfl, List.Perm.refl _⟩
  · exact FocusConsistent.on_tab mem_cons_self mem_cons_self

theorem update_metadata_savable {name icon color : String} {applyDefaults : Bool}
    {snapshot next : Snapshot} (savable : Savable snapshot)
    (updated : updateMetadata name icon color applyDefaults catalog snapshot = some next) :
    Savable next := by
  obtain ⟨fallbackName, _, rfl⟩ := Option.map_eq_some_iff.mp updated
  obtain ⟨⟨tabs, focus, layouts⟩, cleanID⟩ := savable
  exact ⟨⟨tabs, focus, layouts⟩, cleanID⟩

theorem CatalogRequest.prepare_ready (normal : NormalMemory m) {request : CatalogRequest}
    (minted : (Request.catalog request).minted m.workspace = true) :
    ReadyToSave (request.prepare m) := by
  cases request with
  | switchWorkspace workspaceID =>
    have switched := switch_active_normal normal.catalog workspaceID
    unfold prepare
    dsimp only
    split
    next err catalog outcome =>
      rw [outcome] at switched
      exact ready_of_error ⟨normal.workspace, switched⟩
    next snapshot catalog outcome =>
      rw [outcome] at switched
      have isNormal := switch_active_ok normal.catalog outcome
      exact ready_of_savable ⟨isNormal.savable.replaced_normal, switched⟩ isNormal.savable
  | createWorkspace conn newWorkspaceID newTabID newWidgetID =>
    simp only [Request.minted, decide_eq_true_eq] at minted
    obtain ⟨cleanWorkspace, cleanTab, cleanWidget⟩ := minted
    unfold prepare
    cases conn with
    | error message => exact ready_of_error normal
    | ok connectionID =>
      have savable := new_workspace_savable connectionID cleanWorkspace cleanTab cleanWidget
      dsimp only
      generalize newWorkspaceSnapshot newWorkspaceID newTabID newWidgetID connectionID =
        snapshot at savable ⊢
      have upserted : NormalCatalog (m.catalog.upsert snapshot) :=
        savable.set_active_normal normal.catalog
      have switched := switch_active_normal upserted snapshot.id
      split
      next err catalog outcome =>
        rw [outcome] at switched
        exact ready_of_error ⟨normal.workspace, switched⟩
      next _ catalog outcome =>
        rw [outcome] at switched
        exact ready_of_savable ⟨savable.replaced_normal, switched⟩ savable
  | updateWorkspaceMetadata workspaceID name icon color applyDefaults =>
    unfold prepare
    dsimp only
    split
    · exact ready_of_error normal
    next current found =>
      have currentNormal := normal.catalog.normal current (find_workspace_spec found).1
      split
      · exact ready_of_error normal
      next snapshot updated =>
        have savable := update_metadata_savable currentNormal.savable updated
        have upserted : NormalCatalog (m.catalog.upsert snapshot) :=
          savable.set_active_normal normal.catalog
        have active := active_snapshot_normal upserted
        refine ready_of_savable ⟨?_, upserted⟩ active.savable
        split_ifs
        · exact savable.replaced_normal
        · exact normal.workspace
  | deleteWorkspace workspaceID =>
    have deleted := delete_normal normal.catalog workspaceID
    unfold prepare
    dsimp only
    split
    · exact ready_of_error normal
    split
    next err catalog outcome =>
      rw [outcome] at deleted
      exact ready_of_error ⟨normal.workspace, deleted⟩
    next remaining catalog outcome =>
      have same := delete_ok outcome
      rw [outcome] at deleted
      subst same
      split
      · exact ready_of_error ⟨normal.workspace, deleted⟩
      next active found =>
        have isNormal := deleted.normal active (mem_of_find?_eq_some found)
        exact ready_of_savable ⟨isNormal.savable.replaced_normal, deleted⟩
          isNormal.savable

theorem Request.prepare_ready (normal : NormalMemory m) {request : Request}
    (minted : request.minted m.workspace = true) : ReadyToSave (request.prepare m) := by
  cases request with
  | service request => exact ServiceRequest.prepare_ready normal minted
  | catalog request => exact CatalogRequest.prepare_ready normal minted

structure NormalDisk (disk : Disk) : Prop where
  catalogFile : ∀ catalog, disk.catalogFile = some catalog → NormalCatalog catalog
  workspaceFile : ∀ snapshot, disk.workspaceFile = some snapshot → Savable snapshot

theorem write_file_keeps {Content : Type} {property : Content → Prop} {path : String}
    {error : Option String} {content : Content} {file written : Option Content}
    (done : writeFile path error content file = .ok written)
    (before : ∀ old, file = some old → property old) (holds : property content) :
    ∀ new, written = some new → property new := by
  intro new same
  rcases write_file_ok done with unchanged | replaced
  · exact before new (unchanged.symm.trans same)
  · cases replaced.symm.trans same
    exact holds

theorem persist_normal {snapshot : Snapshot} {stored : Memory} {disk' : Disk}
    {outcome : Except String Unit} (normal : NormalMemory m) (savable : Savable snapshot)
    (files : NormalDisk disk)
    (saved : persistWorkspaceSnapshot paths writes snapshot m disk = (outcome, stored, disk')) :
    NormalMemory stored ∧ NormalDisk disk' := by
  have storedNormal : NormalMemory { m with catalog := m.catalog.setActiveSnapshot snapshot } :=
    ⟨normal.workspace, savable.set_active_normal normal.catalog⟩
  rcases persist_snapshot_cases paths writes snapshot m disk with
    ⟨message, result⟩ | ⟨catalogFile, catalogWrite, ⟨message, _, result⟩ |
      ⟨workspaceFile, workspaceWrite, result⟩⟩
  · cases result.symm.trans saved
    exact ⟨storedNormal, files⟩
  · cases result.symm.trans saved
    exact ⟨storedNormal,
      write_file_keeps catalogWrite files.catalogFile storedNormal.catalog, files.workspaceFile⟩
  cases result.symm.trans saved
  exact ⟨storedNormal,
    write_file_keeps catalogWrite files.catalogFile storedNormal.catalog,
    write_file_keeps workspaceWrite files.workspaceFile savable⟩

structure NormalSystem (s : System) : Prop where
  memory : ∀ m, s.memory = some m → NormalMemory m
  disk : NormalDisk s.disk

theorem perform_normal (paths : Paths) (writes : Writes) (normal : NormalMemory m)
    (files : NormalDisk disk) {request : Request} (minted : request.minted m.workspace = true) :
    NormalMemory (request.perform paths writes m disk).2.1 ∧
    NormalDisk (request.perform paths writes m disk).2.2 := by
  have ready := Request.prepare_ready normal minted
  rcases request.perform_cases paths writes m disk with ⟨err, next, isRefused, ended⟩ |
    ⟨prepared, next, isPrepared, ⟨message, stored, disk', saved, ended⟩ |
      ⟨stored, disk', saved, ended⟩⟩
  · rw [isRefused] at ready
    rw [ended]
    exact ⟨ready.memory, files⟩
  · rw [isPrepared] at ready
    rw [ended, restore_workspace_memory_identity normal]
    exact ⟨normal, (persist_normal ready.memory (ready.savable prepared rfl) files saved).2⟩
  · rw [isPrepared] at ready
    rw [ended]
    exact persist_normal ready.memory (ready.savable prepared rfl) files saved

theorem load_memory_normal (files : NormalDisk disk) : NormalMemory (loadMemory disk) := by
  have snapshot : NormalSnapshot (loadSnapshot disk.workspaceFile bootstrapDefault) := by
    unfold loadSnapshot
    split
    · exact default_normal
    · next snapshot stored => exact (files.workspaceFile snapshot stored).replaced_normal
  have catalog : NormalCatalog
      (loadCatalog disk.catalogFile (loadSnapshot disk.workspaceFile bootstrapDefault)) := by
    unfold loadCatalog
    split
    · exact bootstrap_catalog_normal snapshot
    next catalog stored =>
      have normal := files.catalogFile catalog stored
      rw [normalize_catalog_identity normal]
      exact normal
  unfold loadMemory Catalog.newCatalogStore
  dsimp only
  rw [normalize_catalog_identity catalog]
  exact ⟨active_snapshot_normal catalog, catalog⟩

theorem new_runtime_normal (files : NormalDisk disk) :
    NormalSystem (newRuntime paths writes disk) := by
  have loaded := load_memory_normal files
  unfold newRuntime
  dsimp only
  rcases saved : persistWorkspaceSnapshot paths writes (loadMemory disk).workspace
    (loadMemory disk) disk with ⟨outcome, stored, disk'⟩
  obtain ⟨storedNormal, diskNormal⟩ :=
    persist_normal loaded loaded.workspace.savable files saved
  cases outcome with
  | error message =>
    refine ⟨?_, diskNormal⟩
    intro m running
    cases running
  | ok _ =>
    refine ⟨?_, diskNormal⟩
    intro m running
    cases running
    exact storedNormal

theorem step_normal {s next : System} {action : SystemAction} (normal : NormalSystem s)
    (taken : step paths s action = some next) : NormalSystem next := by
  unfold step at taken
  split at taken
  · cases taken
    exact new_runtime_normal normal.disk
  · cases taken
    refine ⟨?_, normal.disk⟩
    intro m running
    cases running
  next m request writes running =>
    split at taken
    next minted =>
      obtain ⟨memory, disk⟩ :=
        perform_normal paths writes (normal.memory m running) normal.disk minted
      cases taken
      refine ⟨?_, disk⟩
      intro after same
      cases same
      exact memory
    · cases taken
  next m tabID running =>
    have before := normal.memory m running
    have focused := Action.perform_normal before.workspace
      (show Admissible m.workspace (.focusTab tabID) from trivial)
    cases taken
    refine ⟨?_, normal.disk⟩
    intro after same
    cases same
    exact ⟨by simpa [Action.perform] using focused, before.catalog⟩
  next m id running =>
    have before := normal.memory m running
    have focused := Action.perform_normal before.workspace
      (show Admissible m.workspace (.focusWidget id) from trivial)
    cases taken
    refine ⟨?_, normal.disk⟩
    intro after same
    cases same
    exact ⟨by simpa [Action.perform] using focused, before.catalog⟩
  · cases taken

theorem start_normal {s : System} (isStart : s.Initial) : NormalSystem s := by
  rw [isStart]
  refine ⟨?_, ?_, ?_⟩
  · intro m running
    cases running
  · intro catalog stored
    cases stored
  · intro snapshot stored
    cases stored

theorem reachable_normal {s : System} (reachable : Kit.Reachable System.Initial (step paths) s) :
    NormalSystem s :=
  reachable.invariant start_normal step_normal

/-- Whatever was done before, normalization on the way back changes nothing, and
an action whose save fails leaves the memory as it was. -/
theorem failed_save_restores_memory (paths : Paths) {s : System}
    (reachable : Kit.Reachable System.Initial (step paths) s) {m : Memory}
    (running : s.memory = some m) :
    restoreWorkspaceMemory m = m ∧
    ∀ request : Request, request.minted m.workspace = true →
      ∀ writes message, (request.perform paths writes m s.disk).1 = .error (.notSaved message) →
        (request.perform paths writes m s.disk).2.1 = m := by
  have normal := (reachable_normal reachable).memory m running
  have restored := restore_workspace_memory_identity normal
  refine ⟨restored, ?_⟩
  intro request minted writes message notSaved
  rcases request.perform_cases paths writes m s.disk with ⟨err, next, _, ended⟩ |
    ⟨prepared, next, _, ⟨_, stored, disk, _, ended⟩ | ⟨stored, disk, _, ended⟩⟩
  · rw [ended] at notSaved
    cases notSaved
  · rw [ended]
    exact restored
  · rw [ended] at notSaved
    cases notSaved

def statePaths : Paths where
  workspaceFile := "/state/workspace.json"
  workspaceCatalogFile := "/state/workspaces.json"

def emptySystem : System where
  memory := none
  disk := { catalogFile := none, workspaceFile := none }

def bootstrapMemory : Memory where
  workspace := bootstrapDefault
  catalog := { activeWorkspaceID := "ws-local", workspaces := [bootstrapDefault] }

def bootstrapDisk : Disk where
  catalogFile := some bootstrapMemory.catalog
  workspaceFile := some bootstrapDefault

theorem fresh_start :
    step statePaths emptySystem (.start {}) =
      some { memory := some bootstrapMemory, disk := bootstrapDisk } := by
  decide +kernel

/-- A tab is renamed while the snapshot file cannot be written. -/
theorem rename_restored :
    ((Request.service (.renameTab "tab-main" "Build")).perform statePaths
      { workspaceError := some "no space left" } bootstrapMemory bootstrapDisk).1 =
      .error (.notSaved "no space left") ∧
    ((Request.service (.renameTab "tab-main" "Build")).perform statePaths
      { workspaceError := some "no space left" } bootstrapMemory bootstrapDisk).2.1 =
      bootstrapMemory := by
  have notSaved : ((Request.service (.renameTab "tab-main" "Build")).perform statePaths
      { workspaceError := some "no space left" } bootstrapMemory bootstrapDisk).1 =
      .error (.notSaved "no space left") := by
    decide +kernel
  refine ⟨notSaved, ?_⟩
  have isStart : System.Initial emptySystem := rfl
  have reachable := (Kit.Reachable.start isStart).next fresh_start
  exact (failed_save_restores_memory statePaths reachable rfl).2 _ rfl _ _ notSaved

end RuneTerminal.Workspace
