import RuneTerminal.Workspace.Catalog
import RuneTerminal.Go.Filepath

/-! The mutating actions of `core/app/workspace_actions.go` and `workspace_catalog_actions.go` with
`workspace_persistence.go`: an action changes the memory, saves both files, and puts the memory back
when a save fails. -/

namespace RuneTerminal.Workspace

open Go.Strings Go

inductive RuntimeError where
  | workspace (err : WorkspaceError)
  | external (message : String)
  | panicked
  deriving DecidableEq

/-- An action ends early, or its save fails. -/
inductive ActionError where
  | refused (err : RuntimeError)
  | notSaved (message : String)
  deriving DecidableEq

/-- What the runtime holds in memory. -/
structure Memory where
  workspace : Snapshot
  catalog : Catalog
  deriving DecidableEq

/-- Which connection is active, and whether the session of a new terminal started. -/
structure Launch where
  active : Except String String
  started : Except String Unit

/-- The actions on the active workspace. Calls that look for a connection
first, `CreateTerminalTab` and those for remote sessions, end in one of these. -/
inductive ServiceRequest where
  | focusWidget (widgetID : String)
  | focusTab (tabID : String)
  | renameTab (tabID title : String)
  | setTabPinned (tabID : String) (pinned : Bool)
  | moveTab (tabID beforeTabID : String)
  | updateLayout (layout : Layout)
  | saveLayout (layoutID : String)
  | switchLayout (layoutID : String)
  | createTerminalTabWithConnection (title connectionID : String) (launch : Launch)
      (newTabID newWidgetID : String)
  | createRemoteTerminalTabWithProfile (title profileID : String) (launch : Launch)
      (newTabID newWidgetID : String)
  | createSplitTerminalWidget (title tabID targetWidgetID : String)
      (direction : WindowSplitDirection) (connectionID : String) (launch : Launch)
      (newWidgetID : String)
  | openDirectoryInNewBlock (path targetWidgetID connectionID newWidgetID : String)
  | openPreviewInNewBlock (path targetWidgetID connectionID : String)
      (resolved : Except String String) (newWidgetID : String)
  | moveWidgetBySplit (tabID widgetID targetWidgetID : String) (direction : WindowMoveDirection)
  | closeTab (tabID : String)
  | closeWidget (widgetID : String)

def external {Value : Type} : Except String Value → Except RuntimeError Value
  | .ok value => .ok value
  | .error message => .error (.external message)

def orDefault (text fallback : String) : String :=
  if trimSpace text = "" then fallback else trimSpace text

def Launch.connection (launch : Launch) (connectionID : String) : Except RuntimeError String :=
  if connectionID = "" then external launch.active else .ok connectionID

def newTerminal (title widgetID connectionID : String) : Widget where
  id := widgetID
  kind := .terminal
  title := title
  description := title ++ " terminal session"
  terminalID := widgetID
  connectionID := connectionID

/-- The tab that a block is opened in, and the widget beside which it is. -/
def blockTarget (targetWidgetID : String) (s : Snapshot) : Except RuntimeError (Tab × String) :=
  let target := if trimSpace targetWidgetID = "" then s.activeWidgetID else trimSpace targetWidgetID
  match s.tabs.find? (·.widgetIDs.contains target) with
  | some tab => .ok (tab, target)
  | none => .error (.workspace (widgetNotFound target))

def connectionBeside (connectionID target : String) (s : Snapshot) : String :=
  if connectionID = "" then
    ((s.widgets.find? (·.id == target)).map Widget.connectionID).getD ""
  else connectionID

def planSplitTerminal (title tabID targetWidgetID : String) (direction : WindowSplitDirection)
    (connectionID : String) (launch : Launch) (newWidgetID : String) (s : Snapshot) :
    Except RuntimeError Action := do
  let title := orDefault title "New Shell"
  let tabID := if trimSpace tabID = "" then s.activeTabID else trimSpace tabID
  match s.tabs.find? (·.id == tabID) with
  | none => .error (.workspace (tabNotFound tabID))
  | some tab =>
    if tab.widgetIDs.isEmpty then
      .error (.workspace (widgetNotFound ("tab has no widgets: " ++ tabID)))
    else
      let target := s.splitTargetIn tab targetWidgetID
      let beside :=
        if connectionID = "" then
          ((s.widgets.find? fun widget =>
            widget.id == target && trimSpace widget.connectionID ≠ "").map
              Widget.connectionID).getD ""
        else connectionID
      let connectionID ← launch.connection beside
      external launch.started
      .ok (.splitTabWithWidget tabID target (newTerminal title newWidgetID connectionID)
        direction)

def planDirectory (path targetWidgetID connectionID newWidgetID : String) (s : Snapshot) :
    Except RuntimeError Action :=
  if trimSpace path = "" then
    .error (.workspace ⟨.invalidWidgetPath, some "directory path is required"⟩)
  else do
    let (tab, target) ← blockTarget targetWidgetID s
    let cleanPath := Filepath.clean (trimSpace path)
    let base := Filepath.base cleanPath
    let title := if base = "." ∨ base = "/" ∨ base = "" then cleanPath else base
    let title := if trimSpace title = "" then "Files" else title
    .ok (.splitTabWithWidget tab.id target
      { id := newWidgetID
        kind := .files
        title := title
        description := "Directory view for " ++ cleanPath
        connectionID := connectionBeside connectionID target s
        path := cleanPath }
      .right)

/-- `resolved` is the path that the file system has found, or its error. -/
def planPreview (path targetWidgetID connectionID : String) (resolved : Except String String)
    (newWidgetID : String) (s : Snapshot) : Except RuntimeError Action :=
  if trimSpace path = "" then
    .error (.workspace ⟨.invalidWidgetPath, some "preview path is required"⟩)
  else do
    let (tab, target) ← blockTarget targetWidgetID s
    let cleanPath ← external resolved
    let base := Filepath.base cleanPath
    let title := if trimSpace base = "" then "Preview" else base
    .ok (.splitTabWithWidget tab.id target
      { id := newWidgetID
        kind := .preview
        title := title
        description := "Preview for " ++ cleanPath
        connectionID := connectionBeside connectionID target s
        path := cleanPath }
      .right)

/-- What a request does before it changes the workspace: its checks, and the
service method it then calls. -/
def ServiceRequest.plan : ServiceRequest → Snapshot → Except RuntimeError Action
  | .focusWidget widgetID, _ => .ok (.focusWidget widgetID)
  | .focusTab tabID, _ => .ok (.focusTab tabID)
  | .renameTab tabID title, _ => .ok (.renameTab tabID title)
  | .setTabPinned tabID pinned, _ => .ok (.setTabPinned tabID pinned)
  | .moveTab tabID beforeTabID, _ => .ok (.moveTab tabID beforeTabID)
  | .updateLayout layout, _ => .ok (.updateLayout layout)
  | .saveLayout layoutID, _ => .ok (.saveLayout layoutID)
  | .switchLayout layoutID, _ => .ok (.switchLayout layoutID)
  | .createTerminalTabWithConnection title connectionID launch newTabID newWidgetID, _ => do
      let title := orDefault title "New Shell"
      let connectionID ← launch.connection connectionID
      external launch.started
      .ok (.addTerminalTab
        { id := newTabID, title := title, description := "Terminal tab",
          widgetIDs := [newWidgetID] }
        (newTerminal title newWidgetID connectionID))
  | .createRemoteTerminalTabWithProfile title profileID launch newTabID newWidgetID, _ => do
      let title := orDefault title "Remote Shell"
      external launch.started
      .ok (.addTerminalTab { id := newTabID, title := title, widgetIDs := [newWidgetID] }
        (newTerminal title newWidgetID (trimSpace profileID)))
  | .createSplitTerminalWidget title tabID targetWidgetID direction connectionID launch
        newWidgetID, s =>
      planSplitTerminal title tabID targetWidgetID direction connectionID launch newWidgetID s
  | .openDirectoryInNewBlock path targetWidgetID connectionID newWidgetID, s =>
    planDirectory path targetWidgetID connectionID newWidgetID s
  | .openPreviewInNewBlock path targetWidgetID connectionID resolved newWidgetID, s =>
    planPreview path targetWidgetID connectionID resolved newWidgetID s
  | .moveWidgetBySplit tabID widgetID targetWidgetID direction, s =>
    .ok (.moveWidgetBySplit (if trimSpace tabID = "" then s.activeTabID else trimSpace tabID)
      widgetID targetWidgetID direction)
  | .closeTab tabID, s =>
    match s.tabs.find? (·.id == tabID) with
    | some _ => .ok (.closeTab tabID)
    | none => .error (.workspace (tabNotFound tabID))
  | .closeWidget widgetID, s =>
    match s.widgets.find? (·.id == widgetID) with
    | some _ => .ok (.closeWidget widgetID)
    | none => .error (.workspace (widgetNotFound widgetID))

inductive CatalogRequest where
  | switchWorkspace (workspaceID : String)
  | createWorkspace (connection : Except String String)
      (newWorkspaceID newTabID newWidgetID : String)
  | updateWorkspaceMetadata (workspaceID name icon color : String) (applyDefaults : Bool)
  | deleteWorkspace (workspaceID : String)

structure Prepared where
  toSave : Snapshot
  result : Snapshot

def newWorkspaceSnapshot (workspaceID tabID widgetID connectionID : String) : Snapshot where
  id := workspaceID
  name := ""
  tabs :=
    [ { id := tabID
        title := "Main Shell"
        description := "Primary terminal tab"
        widgetIDs := [widgetID]
        windowLayout := .leafNode widgetID } ]
  activeTabID := tabID
  widgets :=
    [ { id := widgetID
        kind := .terminal
        title := "Main Shell"
        description := "Primary terminal session"
        terminalID := widgetID
        connectionID := connectionID } ]
  activeWidgetID := widgetID
  layout := defaultLayout
  layouts := [defaultLayout]
  activeLayoutID := defaultLayout.id

def workspaceColors : List String :=
  ["#58C142", "#00FFDB", "#429DFF", "#BF55EC", "#FF453A", "#FF9500", "#FFE900"]

/-- The first entry of `WorkspaceIcons`, the only one that is used. -/
def firstWorkspaceIcon : String := "terminal"

/-- `snapshot.ID[:5]`, which panics on shorter ids; the ids that are minted
consist of ASCII characters. -/
def idStart (id : String) : Option String :=
  if id.utf8ByteSize < 5 then none else some (String.ofList (id.toList.take 5))

def metadataText (given current : String) (applyDefaults : Bool) (fallback : String) : String :=
  if trimSpace given ≠ "" then trimSpace given
  else if applyDefaults && trimSpace current = "" then fallback
  else current

/-- The name for a workspace without one; the texts are built only if it is used. -/
def defaultWorkspaceName (name : String) (applyDefaults : Bool) (snapshot : Snapshot) :
    Option String :=
  if trimSpace name = "" && applyDefaults && trimSpace snapshot.name = "" then
    (idStart snapshot.id).map ("New Workspace (" ++ · ++ ")")
  else some ""

def updateMetadata (name icon color : String) (applyDefaults : Bool) (catalog : Catalog)
    (snapshot : Snapshot) : Option Snapshot :=
  (defaultWorkspaceName name applyDefaults snapshot).map fun fallbackName =>
    { snapshot with
      name := metadataText name snapshot.name applyDefaults fallbackName
      icon := metadataText icon snapshot.icon applyDefaults firstWorkspaceIcon
      color := metadataText color snapshot.color applyDefaults
        (workspaceColors.getD (catalog.listEntries.length % workspaceColors.length) "") }

def activeSnapshotFromCatalog (catalog : Catalog) : Option Snapshot :=
  catalog.workspaces.find? (·.id == catalog.activeWorkspaceID)

/-- `Service.ReplaceSnapshot` of the runtime's workspace, whose callers drop the
previous snapshot. -/
def replaceSnapshot (snapshot : Snapshot) : Snapshot :=
  normalizeSnapshot snapshot bootstrapDefault

/-- The part of an action before its save: its result, or its error, and the memory. -/
abbrev Preparation := Except RuntimeError Prepared × Memory

def CatalogRequest.prepare : CatalogRequest → Memory → Preparation
  | .switchWorkspace workspaceID, m =>
    match m.catalog.switchActive workspaceID with
    | (.error err, catalog) => (.error (.workspace err), { m with catalog := catalog })
    | (.ok snapshot, catalog) =>
      (.ok ⟨snapshot, snapshot⟩, { workspace := replaceSnapshot snapshot, catalog := catalog })
  | .createWorkspace connection newWorkspaceID newTabID newWidgetID, m =>
    match connection with
    | .error message => (.error (.external message), m)
    | .ok connectionID =>
      let snapshot := newWorkspaceSnapshot newWorkspaceID newTabID newWidgetID connectionID
      match (m.catalog.upsert snapshot).switchActive snapshot.id with
      | (.error err, catalog) => (.error (.workspace err), { m with catalog := catalog })
      | (.ok _, catalog) =>
        (.ok ⟨snapshot, snapshot⟩,
          { workspace := replaceSnapshot snapshot, catalog := catalog })
  | .updateWorkspaceMetadata workspaceID name icon color applyDefaults, m =>
    match m.catalog.get workspaceID with
    | none => (.error (.workspace (workspaceNotFound workspaceID)), m)
    | some current =>
      match updateMetadata name icon color applyDefaults m.catalog current with
      | none => (.error .panicked, m)
      | some snapshot =>
        let catalog := m.catalog.upsert snapshot
        let active := catalog.activeSnapshot
        (.ok ⟨active, snapshot⟩,
          { workspace :=
              if active.id = snapshot.id then replaceSnapshot snapshot else m.workspace
            catalog := catalog })
  | .deleteWorkspace workspaceID, m =>
    match m.catalog.get workspaceID with
    | none => (.error (.workspace (workspaceNotFound workspaceID)), m)
    | some _ =>
      match m.catalog.delete workspaceID with
      | (.error err, catalog) => (.error (.workspace err), { m with catalog := catalog })
      | (.ok deleted, catalog) =>
        match activeSnapshotFromCatalog deleted with
        | none =>
          (.error (.workspace (workspaceNotFound "no active workspace available")),
            { m with catalog := catalog })
        | some active =>
          (.ok ⟨active, active⟩,
            { workspace := replaceSnapshot active, catalog := catalog })

inductive Request where
  | service (request : ServiceRequest)
  | catalog (request : CatalogRequest)

def ServiceRequest.prepare (request : ServiceRequest) (m : Memory) : Preparation :=
  match request.plan m.workspace with
  | .error err => (.error err, m)
  | .ok action =>
    match action.perform m.workspace with
    | (some err, next) => (.error (.workspace err), { m with workspace := next })
    | (none, next) => (.ok ⟨next, next⟩, { m with workspace := next })

def Request.prepare : Request → Memory → Preparation
  | .service request, m => request.prepare m
  | .catalog request, m => request.prepare m

structure Paths where
  workspaceFile : String
  workspaceCatalogFile : String

/-- How the writes of an action end; a write that fails leaves its file alone. -/
structure Writes where
  catalogError : Option String := none
  workspaceError : Option String := none

structure Disk where
  catalogFile : Option Catalog
  workspaceFile : Option Snapshot
  deriving DecidableEq

/-- One write: its error, or the new content of the file. A blank path is not
written to. -/
def writeFile {Content : Type} (path : String) (error : Option String) (content : Content)
    (file : Option Content) : Except String (Option Content) :=
  if trimSpace path = "" then .ok file
  else
    match error with
    | some message => .error message
    | none => .ok (some content)

/-- `SetActiveSnapshot`, `SaveCatalog` and `SaveSnapshot`. -/
def persistWorkspaceSnapshot (paths : Paths) (writes : Writes) (snapshot : Snapshot) (m : Memory)
    (disk : Disk) : Except String Unit × Memory × Disk :=
  let stored := { m with catalog := m.catalog.setActiveSnapshot snapshot }
  match writeFile paths.workspaceCatalogFile writes.catalogError stored.catalog
      disk.catalogFile with
  | .error message => (.error message, stored, disk)
  | .ok catalogFile =>
    let disk := { disk with catalogFile := catalogFile }
    match writeFile paths.workspaceFile writes.workspaceError snapshot disk.workspaceFile with
    | .error message => (.error message, stored, disk)
    | .ok workspaceFile => (.ok (), stored, { disk with workspaceFile := workspaceFile })

/-- `Workspace.ReplaceSnapshot` and `WorkspaceCatalog.Replace`. -/
def restoreWorkspaceMemory (previous : Memory) : Memory where
  workspace := replaceSnapshot previous.workspace
  catalog := previous.catalog.replace

def persistWorkspaceSnapshotWithRollback (paths : Paths) (writes : Writes) (snapshot : Snapshot)
    (previous m : Memory) (disk : Disk) : Except String Unit × Memory × Disk :=
  match persistWorkspaceSnapshot paths writes snapshot m disk with
  | (.error message, _, disk) => (.error message, restoreWorkspaceMemory previous, disk)
  | (.ok _, m, disk) => (.ok (), m, disk)

def Request.perform (request : Request) (paths : Paths) (writes : Writes) (m : Memory)
    (disk : Disk) : Except ActionError Snapshot × Memory × Disk :=
  match request.prepare m with
  | (.error err, next) => (.error (.refused err), next, disk)
  | (.ok prepared, next) =>
    match persistWorkspaceSnapshotWithRollback paths writes prepared.toSave m next disk with
    | (.error message, m, disk) => (.error (.notSaved message), m, disk)
    | (.ok _, m, disk) => (.ok prepared.result, m, disk)

theorem persist_snapshot_cases (paths : Paths) (writes : Writes) (snapshot : Snapshot)
    (m : Memory) (disk : Disk) :
    let stored := { m with catalog := m.catalog.setActiveSnapshot snapshot }
    (∃ message, persistWorkspaceSnapshot paths writes snapshot m disk =
      (.error message, stored, disk)) ∨
    ∃ catalogFile, writeFile paths.workspaceCatalogFile writes.catalogError stored.catalog
        disk.catalogFile = .ok catalogFile ∧
      ((∃ message,
          writeFile paths.workspaceFile writes.workspaceError snapshot disk.workspaceFile =
            .error message ∧
          persistWorkspaceSnapshot paths writes snapshot m disk =
            (.error message, stored, { disk with catalogFile := catalogFile })) ∨
        ∃ workspaceFile,
          writeFile paths.workspaceFile writes.workspaceError snapshot disk.workspaceFile =
            .ok workspaceFile ∧
          persistWorkspaceSnapshot paths writes snapshot m disk =
            (.ok (), stored, { catalogFile := catalogFile, workspaceFile := workspaceFile })) := by
  intro stored
  unfold persistWorkspaceSnapshot
  dsimp only
  cases catalogWrite : writeFile paths.workspaceCatalogFile writes.catalogError stored.catalog
      disk.catalogFile with
  | error message => exact .inl ⟨message, rfl⟩
  | ok catalogFile =>
    refine .inr ⟨catalogFile, rfl, ?_⟩
    cases workspaceWrite : writeFile paths.workspaceFile writes.workspaceError snapshot
        disk.workspaceFile with
    | error message => exact .inl ⟨message, rfl, rfl⟩
    | ok workspaceFile => exact .inr ⟨workspaceFile, rfl, rfl⟩

theorem write_file_ok {Content : Type} {path : String} {error : Option String} {content : Content}
    {file written : Option Content} (done : writeFile path error content file = .ok written) :
    written = file ∨ written = some content := by
  unfold writeFile at done
  split at done
  · cases done
    exact .inl rfl
  split at done
  · cases done
  · cases done
    exact .inr rfl

theorem Request.perform_cases (request : Request) (paths : Paths) (writes : Writes) (m : Memory)
    (disk : Disk) :
    (∃ err next, request.prepare m = (.error err, next) ∧
      request.perform paths writes m disk = (.error (.refused err), next, disk)) ∨
    ∃ prepared next, request.prepare m = (.ok prepared, next) ∧
      ((∃ message stored disk',
          persistWorkspaceSnapshot paths writes prepared.toSave next disk =
            (.error message, stored, disk') ∧
          request.perform paths writes m disk =
            (.error (.notSaved message), restoreWorkspaceMemory m, disk')) ∨
        ∃ stored disk',
          persistWorkspaceSnapshot paths writes prepared.toSave next disk =
            (.ok (), stored, disk') ∧
          request.perform paths writes m disk = (.ok prepared.result, stored, disk')) := by
  unfold Request.perform
  rcases request.prepare m with ⟨result, next⟩
  cases result with
  | error err => exact .inl ⟨err, next, rfl, rfl⟩
  | ok prepared =>
    refine .inr ⟨prepared, next, rfl, ?_⟩
    unfold persistWorkspaceSnapshotWithRollback
    rcases saved : persistWorkspaceSnapshot paths writes prepared.toSave next disk with
      ⟨outcome, stored, disk'⟩
    cases outcome with
    | error message => exact .inl ⟨message, stored, disk', rfl, by simp only [saved]⟩
    | ok _ => exact .inr ⟨stored, disk', rfl, by simp only [saved]⟩

end RuneTerminal.Workspace
