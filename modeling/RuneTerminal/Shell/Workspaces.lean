import RuneTerminal.Commander.Transfer

/-! The tabs of the shell, each with its stored Dockview layout (`dockview-workspace.*.ts`,
`use-dockview-workspace.ts`). What is shown is stored by each action before it changes the
workspace, and by a timer. -/

namespace RuneTerminal.Shell

/-- The numbers that serve as ids. Adding one to a large number can give the number
itself, so only the first two are known to grow. -/
structure IdNumbers (Id : Type) [LinearOrder Id] where
  zero : Id
  plusOne : Id → Id
  text : Id → String
  zero_lt_one : zero < plusOne zero
  one_lt_two : plusOne zero < plusOne (plusOne zero)

/-- Serialized layouts: what `fromJSON` is given is what `toJSON` returns, and `clear`
leaves no panels. -/
structure Dockview (Layout : Type) where
  hasPanels : Layout → Bool
  cleared : Layout
  cleared_has_no_panels : hasPanels cleared = false

structure WorkspaceLayoutTab (Id Layout : Type) where
  id : Id
  title : String
  snapshot : Option Layout
  deriving DecidableEq

structure PersistedDockviewWorkspaceState (Id Layout : Type) where
  activeWorkspaceId : Id
  workspaceTabs : List (WorkspaceLayoutTab Id Layout)

/-- The refs of the hook. The layout is `none` until the Dockview is ready. -/
structure DockviewWorkspace (Id Layout : Type) where
  workspaceTabs : List (WorkspaceLayoutTab Id Layout)
  activeWorkspaceId : Id
  layout : Option Layout
  hasPersistedWorkspaceState : Bool
  deriving DecidableEq

section

variable {Id Layout : Type} [LinearOrder Id] (numbers : IdNumbers Id) (dockview : Dockview Layout)

def defaultActiveWorkspaceId : Id :=
  numbers.plusOne (numbers.plusOne numbers.zero)

def createDefaultWorkspaceTabs : List (WorkspaceLayoutTab Id Layout) :=
  [ { id := numbers.plusOne numbers.zero, title := "Workspace-1", snapshot := none },
    { id := defaultActiveWorkspaceId numbers, title := "Workspace-2", snapshot := none } ]

/-- The entries that are no tabs are `none`. -/
def normalizePersistedDockviewWorkspaceState (activeWorkspaceId : Id)
    (entries : List (Option (WorkspaceLayoutTab Id Layout))) :
    Option (PersistedDockviewWorkspaceState Id Layout) :=
  let workspaceTabs := entries.filterMap id
  if workspaceTabs.length = 0 then none
  else if !(workspaceTabs.any fun workspace => workspace.id = activeWorkspaceId) then none
  else some { activeWorkspaceId, workspaceTabs }

def captureDockviewWorkspaceSnapshot (layout : Layout) : Option Layout :=
  if dockview.hasPanels layout then some layout else none

/-- The layout after `clear` or `fromJSON`. -/
def applyDockviewWorkspaceSnapshot (snapshot : Option Layout) : Layout :=
  snapshot.getD dockview.cleared

def readDockviewWorkspaceSnapshot (workspaceTabs : List (WorkspaceLayoutTab Id Layout))
    (workspaceId : Id) : Option Layout :=
  (workspaceTabs.find? (·.id = workspaceId)).bind WorkspaceLayoutTab.snapshot

def writeDockviewWorkspaceSnapshot (workspaceTabs : List (WorkspaceLayoutTab Id Layout))
    (workspaceId : Id) (snapshot : Option Layout) : List (WorkspaceLayoutTab Id Layout) :=
  workspaceTabs.map fun workspace =>
    if workspace.id = workspaceId then { workspace with snapshot } else workspace

/-- `Math.max` over the ids and zero. -/
def maxWorkspaceId (workspaceTabs : List (WorkspaceLayoutTab Id Layout)) : Id :=
  workspaceTabs.foldl (fun maxWorkspaceId workspace => max maxWorkspaceId workspace.id)
    numbers.zero

def createDockviewWorkspaceTab (workspaceTabs : List (WorkspaceLayoutTab Id Layout)) :
    WorkspaceLayoutTab Id Layout :=
  let nextWorkspaceId := numbers.plusOne (maxWorkspaceId numbers workspaceTabs)
  { id := nextWorkspaceId
    title := "Workspace-" ++ numbers.text nextWorkspaceId
    snapshot := none }

namespace DockviewWorkspace

variable (s : DockviewWorkspace Id Layout)

def updateWorkspaceTabs
    (updater : List (WorkspaceLayoutTab Id Layout) → List (WorkspaceLayoutTab Id Layout)) :
    DockviewWorkspace Id Layout :=
  { s with workspaceTabs := updater s.workspaceTabs }

def activateWorkspace (workspaceId : Id) : DockviewWorkspace Id Layout :=
  { s with activeWorkspaceId := workspaceId }

def persistCurrentWorkspaceSnapshot : DockviewWorkspace Id Layout :=
  match s.layout with
  | none => s
  | some layout =>
    s.updateWorkspaceTabs fun tabs =>
      writeDockviewWorkspaceSnapshot tabs s.activeWorkspaceId
        (captureDockviewWorkspaceSnapshot dockview layout)

def restoreWorkspaceSnapshot (workspaceId : Id) : DockviewWorkspace Id Layout :=
  match s.layout with
  | none => s
  | some _ =>
    { s with
      layout := some (applyDockviewWorkspaceSnapshot dockview
        (readDockviewWorkspaceSnapshot s.workspaceTabs workspaceId)) }

/-- `selectDockviewWorkspace`, and whether it went through. -/
def handleSelectWorkspace (nextWorkspaceId : Id) : Bool × DockviewWorkspace Id Layout :=
  if nextWorkspaceId = s.activeWorkspaceId then (false, s)
  else
    let persisted := s.persistCurrentWorkspaceSnapshot dockview
    (true, (persisted.activateWorkspace nextWorkspaceId).restoreWorkspaceSnapshot dockview
      nextWorkspaceId)

/-- `addDockviewWorkspace` -/
def handleAddWorkspace : DockviewWorkspace Id Layout :=
  let workspaceTabs := s.workspaceTabs
  let persisted := s.persistCurrentWorkspaceSnapshot dockview
  let nextWorkspace := createDockviewWorkspaceTab numbers workspaceTabs
  let appended := persisted.updateWorkspaceTabs fun tabs => tabs ++ [nextWorkspace]
  (appended.activateWorkspace nextWorkspace.id).restoreWorkspaceSnapshot dockview nextWorkspace.id

/-- `renameDockviewWorkspace` -/
def handleRenameWorkspace (workspaceId : Id) (title : String) : DockviewWorkspace Id Layout :=
  let nextTitle := Commander.trim title
  if nextTitle = "" then s
  else
    s.updateWorkspaceTabs fun tabs => tabs.map fun workspace =>
      if workspace.id ≠ workspaceId ∨ workspace.title = nextTitle then workspace
      else { workspace with title := nextTitle }

def fallbackWorkspace (nextTabs : List (WorkspaceLayoutTab Id Layout)) (workspaceIndex : Nat) :
    Option (WorkspaceLayoutTab Id Layout) :=
  nextTabs[workspaceIndex]? <|>
    (if workspaceIndex = 0 then none else nextTabs[workspaceIndex - 1]?) <|> nextTabs[0]?

/-- `deleteDockviewWorkspace`, and whether it went through. The remaining tabs are
computed before the layout is stored. -/
def handleDeleteWorkspace (workspaceId : Id) : Bool × DockviewWorkspace Id Layout :=
  let workspaceTabs := s.workspaceTabs
  if workspaceTabs.length ≤ 1 then (false, s)
  else
    match workspaceTabs.findIdx? (·.id = workspaceId) with
    | none => (false, s)
    | some workspaceIndex =>
      let nextTabs := workspaceTabs.filter (·.id ≠ workspaceId)
      let persisted := s.persistCurrentWorkspaceSnapshot dockview
      let updated := persisted.updateWorkspaceTabs fun _ => nextTabs
      if s.activeWorkspaceId ≠ workspaceId then (true, updated)
      else
        match fallbackWorkspace nextTabs workspaceIndex with
        | none => (false, updated)
        | some fallback =>
          (true, (updated.activateWorkspace fallback.id).restoreWorkspaceSnapshot dockview
            fallback.id)

/-- The Dockview comes with a layout, which stays if it has the panel "terminal-header". Otherwise
the stored layout is restored, and without any the Dockview is cleared or gets the default layout.
-/
def handleDockviewReady (initial : Layout) (hasBootstrap : Bool) (seed : Layout) :
    DockviewWorkspace Id Layout :=
  if hasBootstrap then { s with layout := some initial }
  else
    match readDockviewWorkspaceSnapshot s.workspaceTabs s.activeWorkspaceId with
    | some snapshot => { s with layout := some snapshot }
    | none =>
      if s.hasPersistedWorkspaceState then { s with layout := some dockview.cleared }
      else
        ({ s with layout := some seed }).updateWorkspaceTabs fun tabs =>
          writeDockviewWorkspaceSnapshot tabs (defaultActiveWorkspaceId numbers) (some seed)

end DockviewWorkspace

/-- Events of the shell. A change in the Dockview only shows another layout; the timer
that it starts is an event of its own. -/
inductive ShellEvent (Id Layout : Type) where
  | ready (initial : Layout) (hasBootstrap : Bool) (seed : Layout)
  | select (workspaceId : Id)
  | add
  | rename (workspaceId : Id) (title : String)
  | delete (workspaceId : Id)
  | change (layout : Layout)
  | timer

/-- What an event leaves behind, and whether a select, an add or a delete went through. -/
def DockviewWorkspace.handle (s : DockviewWorkspace Id Layout) :
    ShellEvent Id Layout → Bool × DockviewWorkspace Id Layout
  | .ready initial hasBootstrap seed =>
    (false, s.handleDockviewReady numbers dockview initial hasBootstrap seed)
  | .select workspaceId => s.handleSelectWorkspace dockview workspaceId
  | .add => (true, s.handleAddWorkspace numbers dockview)
  | .rename workspaceId title => (false, s.handleRenameWorkspace workspaceId title)
  | .delete workspaceId => s.handleDeleteWorkspace dockview workspaceId
  | .change layout => (false, { s with layout := s.layout.map fun _ => layout })
  | .timer => (false, s.persistCurrentWorkspaceSnapshot dockview)

/-- The shell before the first event: the default state, or a persisted state that was
accepted and has distinct ids. -/
inductive StartState : DockviewWorkspace Id Layout → Prop where
  | default : StartState
      { workspaceTabs := createDefaultWorkspaceTabs numbers
        activeWorkspaceId := defaultActiveWorkspaceId numbers
        layout := none
        hasPersistedWorkspaceState := false }
  | persisted {activeWorkspaceId : Id} {entries : List (Option (WorkspaceLayoutTab Id Layout))}
      {state : PersistedDockviewWorkspaceState Id Layout}
      (accepted : normalizePersistedDockviewWorkspaceState activeWorkspaceId entries = some state)
      (distinct : (state.workspaceTabs.map WorkspaceLayoutTab.id).Nodup) : StartState
      { workspaceTabs := state.workspaceTabs
        activeWorkspaceId := state.activeWorkspaceId
        layout := none
        hasPersistedWorkspaceState := true }

end

end RuneTerminal.Shell
