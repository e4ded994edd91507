import RuneTerminal.Workspace.Identity

/-! `core/workspace/catalog.go`: the list of all workspaces and which of them is active. Everything
that is put into the catalog passes `normalizeCatalog`, which leaves a normal catalog as it is. -/

namespace RuneTerminal.Workspace

open Go.Strings Kit List

structure Catalog where
  activeWorkspaceID : String
  workspaces : List Snapshot
  deriving DecidableEq

def workspaceNotFound (workspaceID : String) : WorkspaceError :=
  ⟨.workspaceNotFound, some workspaceID⟩

def findWorkspaceSnapshot (workspaces : List Snapshot) (workspaceID : String) : Option Snapshot :=
  workspaces.find? fun candidate => candidate.id == trimSpace workspaceID

def bootstrapCatalog (fallback : Snapshot) : Catalog :=
  let normalized := normalizeSnapshot fallback bootstrapDefault
  { activeWorkspaceID := normalized.id, workspaces := [normalized] }

def workspaceExists (workspaces : List Snapshot) (workspaceID : String) : Bool :=
  workspaces.any (·.id == workspaceID)

/-- The loop of `normalizeCatalog`: the first workspace of each id. -/
def normalizeWorkspaces (fallback : Snapshot) (workspaces : List Snapshot) : List Snapshot :=
  workspaces.foldl (fun normalized snapshot =>
    let next := normalizeSnapshot snapshot fallback
    if next.id = "" then normalized
    else if workspaceExists normalized next.id then normalized
    else normalized ++ [next]) []

def normalizeCatalog (candidate : Catalog) (fallback : Snapshot) : Catalog :=
  let workspaces := normalizeWorkspaces fallback candidate.workspaces
  match workspaces with
  | [] => bootstrapCatalog fallback
  | first :: _ =>
    let requested := trimSpace candidate.activeWorkspaceID
    let activeWorkspaceID := if requested = "" then first.id else requested
    { activeWorkspaceID :=
        match findWorkspaceSnapshot workspaces activeWorkspaceID with
        | some _ => activeWorkspaceID
        | none => first.id
      workspaces := workspaces }

/-- The list loop of `upsertCatalogSnapshot`. -/
def putWorkspace (workspaces : List Snapshot) (snapshot : Snapshot) : List Snapshot :=
  match workspaces.findIdx? (·.id == snapshot.id) with
  | some index => workspaces.set index snapshot
  | none => workspaces ++ [snapshot]

def upsertCatalogSnapshot (catalog : Catalog) (snapshot : Snapshot) : Catalog :=
  normalizeCatalog
    { activeWorkspaceID :=
        if trimSpace catalog.activeWorkspaceID = "" then snapshot.id
        else catalog.activeWorkspaceID
      workspaces := putWorkspace catalog.workspaces snapshot }
    bootstrapDefault

namespace Catalog

def newCatalogStore (catalog : Catalog) : Catalog := normalizeCatalog catalog bootstrapDefault

def replace (catalog : Catalog) : Catalog := normalizeCatalog catalog bootstrapDefault

def activeSnapshot (catalog : Catalog) : Snapshot :=
  (findWorkspaceSnapshot catalog.workspaces catalog.activeWorkspaceID).getD bootstrapDefault

def setActiveSnapshot (snapshot : Snapshot) (catalog : Catalog) : Catalog :=
  upsertCatalogSnapshot catalog (normalizeSnapshot snapshot bootstrapDefault)

def switchActive (workspaceID : String) (catalog : Catalog) :
    Except WorkspaceError Snapshot × Catalog :=
  let workspaceID := trimSpace workspaceID
  match findWorkspaceSnapshot catalog.workspaces workspaceID with
  | none => (.error (workspaceNotFound workspaceID), catalog)
  | some snapshot => (.ok snapshot, { catalog with activeWorkspaceID := workspaceID })

def upsert (snapshot : Snapshot) (catalog : Catalog) : Catalog :=
  upsertCatalogSnapshot catalog (normalizeSnapshot snapshot bootstrapDefault)

def get (workspaceID : String) (catalog : Catalog) : Option Snapshot :=
  findWorkspaceSnapshot catalog.workspaces workspaceID

/-- The workspaces that `ListEntries` shows: those with a name, an icon and a colour. -/
def listEntries (catalog : Catalog) : List Snapshot :=
  catalog.workspaces.filter fun snapshot =>
    trimSpace snapshot.name ≠ "" && trimSpace snapshot.icon ≠ "" && trimSpace snapshot.color ≠ ""

def delete (workspaceID : String) (catalog : Catalog) : Except WorkspaceError Catalog × Catalog :=
  let workspaceID := trimSpace workspaceID
  if !workspaceExists catalog.workspaces workspaceID then
    (.error (workspaceNotFound workspaceID), catalog)
  else
    let next :=
      match catalog.workspaces.filter (·.id ≠ workspaceID) with
      | [] =>
        let fallback := normalizeSnapshot bootstrapDefault bootstrapDefault
        { activeWorkspaceID := fallback.id, workspaces := [fallback] }
      | first :: rest =>
        { activeWorkspaceID :=
            if catalog.activeWorkspaceID = workspaceID then first.id
            else catalog.activeWorkspaceID
          workspaces := first :: rest }
    (.ok next, next)

end Catalog

/-- A catalog that normalization has nothing to change in. -/
structure NormalCatalog (catalog : Catalog) : Prop where
  normal : ∀ snapshot ∈ catalog.workspaces, NormalSnapshot snapshot
  distinctIDs : (catalog.workspaces.map Snapshot.id).Nodup
  active : ∃ snapshot ∈ catalog.workspaces, snapshot.id = catalog.activeWorkspaceID

variable {workspaces : List Snapshot} {workspaceID : String} {catalog : Catalog}
  {snapshot : Snapshot}

theorem workspace_exists_iff :
    workspaceExists workspaces workspaceID = true ↔ workspaceID ∈ workspaces.map Snapshot.id := by
  simp [workspaceExists]

theorem normalize_workspaces_identity (normal : ∀ snapshot ∈ workspaces, NormalSnapshot snapshot)
    (nodup : (workspaces.map Snapshot.id).Nodup) (fallback : Snapshot) :
    normalizeWorkspaces fallback workspaces = workspaces := by
  apply foldl_collects_all Snapshot.id _ nodup
  intro kept snapshot mem fresh
  have isNormal := normal snapshot mem
  have notKept : ¬workspaceExists kept snapshot.id = true := by
    rwa [workspace_exists_iff]
  simp only [normalize_snapshot_identity isNormal]
  rw [if_neg isNormal.cleanID.2, if_neg notKept]

theorem find_workspace_of_mem (nodup : (workspaces.map Snapshot.id).Nodup)
    (mem : snapshot ∈ workspaces) (clean : CleanID snapshot.id) :
    findWorkspaceSnapshot workspaces snapshot.id = some snapshot := by
  unfold findWorkspaceSnapshot
  rw [clean.1]
  exact find_by_key Snapshot.id nodup mem

theorem normalize_catalog_identity (normal : NormalCatalog catalog) (fallback : Snapshot) :
    normalizeCatalog catalog fallback = catalog := by
  obtain ⟨active, mem, sameID⟩ := normal.active
  have clean : CleanID catalog.activeWorkspaceID := sameID ▸ (normal.normal active mem).cleanID
  have found :
      findWorkspaceSnapshot catalog.workspaces catalog.activeWorkspaceID = some active := by
    rw [← sameID]
    exact find_workspace_of_mem normal.distinctIDs mem (normal.normal active mem).cleanID
  unfold normalizeCatalog
  simp only [normalize_workspaces_identity normal.normal normal.distinctIDs]
  split
  next noWorkspaces =>
    rw [noWorkspaces] at mem
    cases mem
  · simp only [clean.1, clean.2, if_false, found]

theorem put_workspace_cases (workspaces : List Snapshot) (snapshot : Snapshot) :
    (∃ before old after, workspaces = before ++ old :: after ∧ old.id = snapshot.id ∧
      putWorkspace workspaces snapshot = before ++ snapshot :: after) ∨
    (snapshot.id ∉ workspaces.map Snapshot.id ∧
      putWorkspace workspaces snapshot = workspaces ++ [snapshot]) := by
  unfold putWorkspace
  cases found : workspaces.findIdx? (·.id == snapshot.id) with
  | some index =>
    obtain ⟨before, old, after, whole, size, same⟩ := split_at_find_idx found
    refine .inl ⟨before, old, after, whole, by simpa using same, ?_⟩
    dsimp only
    rw [whole, ← size, set_at_split]
  | none =>
    refine .inr ⟨?_, rfl⟩
    intro mem
    obtain ⟨old, oldMember, same⟩ := mem_map.mp mem
    rw [findIdx?_eq_none_iff] at found
    simpa [same] using found old oldMember

theorem mem_put_workspace (workspaces : List Snapshot) (snapshot : Snapshot) :
    snapshot ∈ putWorkspace workspaces snapshot := by
  rcases put_workspace_cases workspaces snapshot with ⟨_, _, _, _, _, put⟩ | ⟨_, put⟩
  · simp [put]
  · simp [put]

theorem mem_of_mem_put_workspace {other : Snapshot}
    (member : other ∈ putWorkspace workspaces snapshot) :
    other ∈ workspaces ∨ other = snapshot := by
  rcases put_workspace_cases workspaces snapshot with ⟨before, old, after, rfl, _, put⟩ | ⟨_, put⟩
  · rw [put, mem_append, mem_cons] at member
    rcases member with member | rfl | member
    · exact .inl (by simp [member])
    · exact .inr rfl
    · exact .inl (by simp [member])
  · rw [put, mem_append, mem_singleton] at member
    exact member

theorem put_workspace_distinct (nodup : (workspaces.map Snapshot.id).Nodup) :
    ((putWorkspace workspaces snapshot).map Snapshot.id).Nodup := by
  rcases put_workspace_cases workspaces snapshot with
    ⟨before, old, after, rfl, sameID, put⟩ | ⟨fresh, put⟩
  · rw [put, map_append, map_cons, ← sameID]
    rwa [map_append, map_cons] at nodup
  rw [put, map_append, map_singleton, nodup_append]
  refine ⟨nodup, by simp, ?_⟩
  rintro workspaceID mem other single rfl
  rw [mem_singleton] at single
  rw [single] at mem
  exact fresh mem

theorem put_workspace_keeps {other : Snapshot} (member : other ∈ workspaces) :
    ∃ kept ∈ putWorkspace workspaces snapshot, kept.id = other.id := by
  rcases put_workspace_cases workspaces snapshot with
    ⟨before, old, after, rfl, sameID, put⟩ | ⟨_, put⟩
  · rw [put]
    rw [mem_append, mem_cons] at member
    rcases member with member | rfl | member
    · exact ⟨other, by simp [member], rfl⟩
    · exact ⟨snapshot, by simp, sameID.symm⟩
    · exact ⟨other, by simp [member], rfl⟩
  · exact ⟨other, by simp [put, member], rfl⟩

section

variable {err : WorkspaceError} {next : Catalog}

section

variable (normal : NormalCatalog catalog)
include normal

theorem NormalCatalog.put (isNormal : NormalSnapshot snapshot) :
    NormalCatalog { catalog with workspaces := putWorkspace catalog.workspaces snapshot } where
  normal := by
    intro other mem
    rcases mem_of_mem_put_workspace mem with mem | rfl
    · exact normal.normal other mem
    · exact isNormal
  distinctIDs := put_workspace_distinct normal.distinctIDs
  active := by
    obtain ⟨active, mem, sameID⟩ := normal.active
    obtain ⟨kept, keptMember, keptID⟩ := put_workspace_keeps mem
    exact ⟨kept, keptMember, keptID.trans sameID⟩

theorem NormalCatalog.active_clean : CleanID catalog.activeWorkspaceID := by
  obtain ⟨active, mem, sameID⟩ := normal.active
  exact sameID ▸ (normal.normal active mem).cleanID

theorem upsert_catalog_snapshot_eq (isNormal : NormalSnapshot snapshot) :
    upsertCatalogSnapshot catalog snapshot =
      { catalog with workspaces := putWorkspace catalog.workspaces snapshot } := by
  have active := normal.active_clean
  unfold upsertCatalogSnapshot
  rw [if_neg (by rw [active.1]; exact active.2)]
  exact normalize_catalog_identity (normal.put isNormal) bootstrapDefault

theorem upsert_catalog_snapshot_normal (isNormal : NormalSnapshot snapshot) :
    NormalCatalog (upsertCatalogSnapshot catalog snapshot) := by
  rw [upsert_catalog_snapshot_eq normal isNormal]
  exact normal.put isNormal

end

theorem find_workspace_spec (found : findWorkspaceSnapshot workspaces workspaceID = some snapshot) :
    snapshot ∈ workspaces ∧ snapshot.id = trimSpace workspaceID := by
  refine ⟨mem_of_find?_eq_some found, ?_⟩
  simpa using find?_some found

theorem switch_active_normal (normal : NormalCatalog catalog) (workspaceID : String) :
    NormalCatalog (catalog.switchActive workspaceID).2 := by
  unfold Catalog.switchActive
  dsimp only
  split
  · exact normal
  next snapshot found =>
    obtain ⟨mem, sameID⟩ := find_workspace_spec found
    exact ⟨normal.normal, normal.distinctIDs,
      ⟨snapshot, mem, sameID.trans (trim_space_twice workspaceID)⟩⟩

theorem switch_active_ok (normal : NormalCatalog catalog)
    (switched : catalog.switchActive workspaceID = (.ok snapshot, next)) :
    NormalSnapshot snapshot := by
  unfold Catalog.switchActive at switched
  dsimp only at switched
  split at switched
  · cases switched
  next found =>
    cases switched
    exact normal.normal snapshot (find_workspace_spec found).1

theorem bootstrap_catalog_normal (isNormal : NormalSnapshot snapshot) :
    NormalCatalog (bootstrapCatalog snapshot) := by
  unfold bootstrapCatalog
  rw [normalize_snapshot_identity isNormal]
  refine ⟨?_, nodup_singleton _, ⟨snapshot, mem_singleton_self _, rfl⟩⟩
  intro other mem
  rw [mem_singleton.mp mem]
  exact isNormal

theorem delete_normal (normal : NormalCatalog catalog) (workspaceID : String) :
    NormalCatalog (catalog.delete workspaceID).2 := by
  unfold Catalog.delete
  dsimp only
  split
  · exact normal
  cases remaining : catalog.workspaces.filter (·.id ≠ trimSpace workspaceID) with
  | nil => exact bootstrap_catalog_normal default_normal
  | cons first rest =>
    have kept : ∀ other ∈ first :: rest, other ∈ catalog.workspaces := by
      intro other mem
      rw [← remaining] at mem
      exact (mem_filter.mp mem).1
    refine ⟨fun other mem => normal.normal other (kept other mem), ?_, ?_⟩
    · have distinct := normal.distinctIDs.sublist
        (filter_sublist.map Snapshot.id : ((catalog.workspaces.filter
          (·.id ≠ trimSpace workspaceID)).map Snapshot.id).Sublist _)
      rwa [remaining] at distinct
    dsimp only
    split_ifs with isActive
    · exact ⟨first, mem_cons_self, rfl⟩
    obtain ⟨active, mem, sameID⟩ := normal.active
    refine ⟨active, ?_, sameID⟩
    rw [← remaining, mem_filter]
    exact ⟨mem, by simpa [sameID] using isActive⟩

theorem delete_ok {returned : Catalog}
    (deleted : catalog.delete workspaceID = (.ok returned, next)) : returned = next := by
  unfold Catalog.delete at deleted
  dsimp only at deleted
  split at deleted
  · cases deleted
  · have both := Prod.mk.inj deleted
    exact (Except.ok.inj both.1).symm.trans both.2

theorem switch_active_error (failed : catalog.switchActive workspaceID = (.error err, next)) :
    next = catalog := by
  unfold Catalog.switchActive at failed
  dsimp only at failed
  split at failed
  · exact (Prod.mk.inj failed).2.symm
  · cases failed

theorem delete_error (failed : catalog.delete workspaceID = (.error err, next)) :
    next = catalog := by
  unfold Catalog.delete at failed
  dsimp only at failed
  split at failed
  · exact (Prod.mk.inj failed).2.symm
  · cases failed

theorem active_snapshot_normal (normal : NormalCatalog catalog) :
    NormalSnapshot catalog.activeSnapshot := by
  unfold Catalog.activeSnapshot
  cases found : findWorkspaceSnapshot catalog.workspaces catalog.activeWorkspaceID with
  | none => exact default_normal
  | some active => exact normal.normal active (find_workspace_spec found).1

end

end RuneTerminal.Workspace
