import RuneTerminal.Workspace.WindowLayout

/-! The normalizers of `core/workspace/store.go` and the methods of `core/workspace/service.go`. A
method maps the snapshot to its result and the next snapshot; every error comes before the first
write. -/

namespace RuneTerminal.Workspace

open Go.Strings
open WindowLayoutNode (leafNode)

def layoutSurfaceExists (surfaces : List LayoutSurface) (surfaceID : LayoutSurfaceID) : Bool :=
  surfaces.any (·.id == surfaceID)

def preferredSurfaceRegion (layout : Layout) (surfaceID : LayoutSurfaceID)
    (fallbackRegion : LayoutRegion) : LayoutRegion :=
  match layout.surfaces.find? (·.id == surfaceID) with
  | some surface => surface.region
  | none => fallbackRegion

def LayoutMode.known : LayoutMode → Bool
  | .split | .focus | .stacked => true
  | .other _ => false

def LayoutRegion.known : LayoutRegion → Bool
  | .main | .sidebar | .utility => true
  | .other _ => false

/-- The surface loop of `normalizeLayout`: named surfaces in a known region,
the first one of each id. -/
def normalizeSurfaces (surfaces : List LayoutSurface) : List LayoutSurface :=
  surfaces.foldl (fun normalized surface =>
    if surface.id = .other "" then normalized
    else if !surface.region.known then normalized
    else if layoutSurfaceExists normalized surface.id then normalized
    else normalized ++ [surface]) []

/-- The surfaces once an empty list has been replaced by the fallback's and the
terminal surface, if missing, put in front. -/
def completeSurfaces (surfaces : List LayoutSurface) (fallback : Layout) : List LayoutSurface :=
  let surfaces := if surfaces.isEmpty then fallback.surfaces else surfaces
  if layoutSurfaceExists surfaces .terminal then surfaces
  else { id := .terminal, region := preferredSurfaceRegion fallback .terminal .main } :: surfaces

def normalizeLayout (candidate fallback : Layout) : Layout :=
  let surfaces := completeSurfaces (normalizeSurfaces candidate.surfaces) fallback
  { id := if trimSpace candidate.id = "" then fallback.id else trimSpace candidate.id
    mode := if candidate.mode.known then candidate.mode else fallback.mode
    surfaces := surfaces
    activeSurfaceID :=
      if candidate.activeSurfaceID = .other "" ∨
          !layoutSurfaceExists surfaces candidate.activeSurfaceID then
        match surfaces with
        | [] => candidate.activeSurfaceID
        | first :: _ => first.id
      else candidate.activeSurfaceID }

def layoutExists (layouts : List Layout) (layoutID : String) : Bool :=
  layouts.any (·.id == layoutID)

def findLayout (layouts : List Layout) (layoutID : String) : Option Layout :=
  layouts.find? (·.id == layoutID)

/-- The entry that the map `fallbackByID` holds: the last layout of an id. -/
def fallbackLayoutFor (fallbackLayouts : List Layout) (fallback : Layout) (layoutID : String) :
    Layout :=
  (findLayout fallbackLayouts.reverse layoutID).getD fallback

def normalizeLayouts (candidate : List Layout) (active : Layout)
    (fallbackLayouts : List Layout) (fallback : Layout) : List Layout :=
  if candidate.isEmpty then [active]
  else
    let normalized := candidate.foldl (fun normalized layout =>
      let next := normalizeLayout layout (fallbackLayoutFor fallbackLayouts fallback layout.id)
      if next.id = "" then normalized
      else if layoutExists normalized next.id then normalized
      else normalized ++ [next]) []
    if layoutExists normalized active.id then normalized else normalized ++ [active]

def tabExists (tabs : List Tab) (tabID : String) : Bool :=
  tabs.any (·.id == tabID)

def widgetExists (widgets : List Widget) (widgetID : String) : Bool :=
  widgets.any (·.id == widgetID)

def widgetInTab (tabs : List Tab) (tabID widgetID : String) : Bool :=
  tabs.any fun tab => tab.id == tabID && tab.widgetIDs.contains widgetID

def knownWidgetIDs (widgets : List Widget) : List String :=
  (widgets.map fun widget => trimSpace widget.id).filter (· ≠ "")

/-- The widget loop of one tab: trimmed ids of known widgets, each once. -/
def filterWidgetIDs (known widgetIDs : List String) : List String :=
  widgetIDs.foldl (fun filtered raw =>
    let widgetID := trimSpace raw
    if widgetID = "" then filtered
    else if widgetID ∈ filtered then filtered
    else if widgetID ∉ known then filtered
    else filtered ++ [widgetID]) []

def normalizeTab (known : List String) (tab : Tab) : Option Tab :=
  if trimSpace tab.id = "" then none
  else
    let filteredWidgetIDs := filterWidgetIDs known tab.widgetIDs
    if filteredWidgetIDs.isEmpty then none
    else some { tab with id := trimSpace tab.id, widgetIDs := filteredWidgetIDs }

def referencedWidgets (referenced : List String) (widgets : List Widget) : List Widget :=
  widgets.foldl (fun kept widget =>
    if widget.id ∉ referenced then kept
    else if widgetExists kept widget.id then kept
    else kept ++ [widget]) []

structure NormalizedLayouts where
  layout : Layout
  layouts : List Layout
  activeLayoutID : String

/-- The common tail of both branches of `normalizeSnapshot`. -/
def normalizeSnapshotLayouts (candidate fallback : Snapshot) : NormalizedLayouts :=
  let layout := normalizeLayout candidate.layout fallback.layout
  let layouts := normalizeLayouts candidate.layouts layout fallback.layouts fallback.layout
  let requested := trimSpace candidate.activeLayoutID
  let activeLayoutID :=
    if requested = "" ∨ !layoutExists layouts requested then layout.id else requested
  match findLayout layouts activeLayoutID with
  | some activeLayout => ⟨activeLayout, layouts, activeLayoutID⟩
  | none => ⟨layout, layouts, layout.id⟩

/-- The window layout of one kept tab. The widget preferred as the place for
missing panes is the active one in the active tab, and else the first. -/
def normalizeTabWindow (activeTabID candidateActiveWidgetID : String) (tab : Tab) : Tab :=
  let preferredWidgetID :=
    if tab.id = activeTabID ∧ candidateActiveWidgetID ≠ "" ∧
        candidateActiveWidgetID ∈ tab.widgetIDs then candidateActiveWidgetID
    else tab.widgetIDs.headD ""
  { tab with
    windowLayout := normalizeWindowLayout tab.windowLayout tab.widgetIDs preferredWidgetID }

/-- The active widget when the candidate's is unusable: the first leaf of the
active tab, or the first widget when there is no such tab. -/
def fallbackActiveWidgetID (tabs : List Tab) (activeTabID : String) : String :=
  match tabs.find? (fun tab => tab.id == activeTabID && !tab.widgetIDs.isEmpty) with
  | some tab =>
    let firstLeaf := firstWindowLeafID tab.windowLayout
    if firstLeaf = "" ∨ firstLeaf ∉ tab.widgetIDs then tab.widgetIDs.headD "" else firstLeaf
  | none => (tabs.head?.map fun tab => tab.widgetIDs.headD "").getD ""

def normalizeSnapshot (candidate fallback : Snapshot) : Snapshot :=
  let id := if trimSpace candidate.id = "" then fallback.id else trimSpace candidate.id
  let name := if trimSpace candidate.name = "" then fallback.name else trimSpace candidate.name
  let tabs := candidate.tabs.filterMap (normalizeTab (knownWidgetIDs candidate.widgets))
  let layouts := normalizeSnapshotLayouts candidate fallback
  match tabs with
  | [] =>
    if candidate.tabs.isEmpty then
      { id := id
        name := name
        icon := trimSpace candidate.icon
        color := trimSpace candidate.color
        tabs := []
        activeTabID := ""
        widgets := []
        activeWidgetID := ""
        layout := layouts.layout
        layouts := layouts.layouts
        activeLayoutID := layouts.activeLayoutID }
    else fallback
  | firstTab :: _ =>
    let widgets := referencedWidgets (tabs.flatMap Tab.widgetIDs) candidate.widgets
    if widgets.isEmpty then fallback
    else
      let requestedTabID := trimSpace candidate.activeTabID
      let activeTabID :=
        if requestedTabID = "" ∨ !tabExists tabs requestedTabID then firstTab.id
        else requestedTabID
      let requestedWidgetID := trimSpace candidate.activeWidgetID
      let tabs := tabs.map (normalizeTabWindow activeTabID requestedWidgetID)
      { id := id
        name := name
        icon := trimSpace candidate.icon
        color := trimSpace candidate.color
        tabs := tabs
        activeTabID := activeTabID
        widgets := widgets
        activeWidgetID :=
          if requestedWidgetID = "" ∨ !widgetExists widgets requestedWidgetID ∨
              !widgetInTab tabs activeTabID requestedWidgetID then
            fallbackActiveWidgetID tabs activeTabID
          else requestedWidgetID
        layout := layouts.layout
        layouts := layouts.layouts
        activeLayoutID := layouts.activeLayoutID }

abbrev Outcome (Value : Type) := Except WorkspaceError Value × Snapshot

def tabNotFound (tabID : String) : WorkspaceError := ⟨.tabNotFound, some tabID⟩

def widgetNotFound (widgetID : String) : WorkspaceError := ⟨.widgetNotFound, some widgetID⟩

namespace Snapshot

def findWidgetLocked (s : Snapshot) (widgetID : String) : Except WorkspaceError Widget :=
  match s.widgets.find? (·.id == widgetID) with
  | some widget => .ok widget
  | none => .error (widgetNotFound widgetID)

def findTabLocked (s : Snapshot) (tabID : String) : Except WorkspaceError Tab :=
  match s.tabs.find? (·.id == tabID) with
  | some tab => .ok tab
  | none => .error (tabNotFound tabID)

def tabIndex? (s : Snapshot) (tabID : String) : Option Nat :=
  s.tabs.findIdx? (·.id == tabID)

def focusWidget (widgetID : String) (s : Snapshot) : Outcome Widget :=
  match s.findWidgetLocked widgetID with
  | .error err => (.error err, s)
  | .ok widget =>
    let activeTabID :=
      match s.tabs.find? (·.widgetIDs.contains widgetID) with
      | some tab => tab.id
      | none => s.activeTabID
    (.ok widget, { s with activeWidgetID := widgetID, activeTabID := activeTabID })

def focusTab (tabID : String) (s : Snapshot) : Outcome Tab :=
  match s.findTabLocked tabID with
  | .error err => (.error err, s)
  | .ok tab =>
    match tab.widgetIDs with
    | [] => (.ok tab, { s with activeTabID := tabID })
    | firstWidgetID :: _ =>
      let firstLeaf := firstWindowLeafID tab.windowLayout
      let nextWidgetID :=
        if firstLeaf = "" ∨ firstLeaf ∉ tab.widgetIDs then firstWidgetID else firstLeaf
      (.ok tab, { s with activeTabID := tabID, activeWidgetID := nextWidgetID })

def addTerminalTab (tab : Tab) (widget : Widget) (s : Snapshot) : Outcome Snapshot :=
  let windowLayout :=
    if tab.windowLayout = .nil then leafNode widget.id else tab.windowLayout
  let next :=
    { s with
      tabs := s.tabs ++ [{ tab with windowLayout := windowLayout }]
      widgets := s.widgets ++ [widget]
      activeTabID := tab.id
      activeWidgetID := widget.id }
  (.ok next, next)

/-- The widget that a split is made at: the requested one if the tab shows it,
else the active one, else the last one. -/
def splitTargetIn (s : Snapshot) (tab : Tab) (requested : String) : String :=
  let requested := trimSpace requested
  if requested = "" ∨ requested ∉ tab.widgetIDs then
    if s.activeWidgetID ≠ "" ∧ s.activeWidgetID ∈ tab.widgetIDs then s.activeWidgetID
    else tab.widgetIDs.getLastD ""
  else requested

def splitTabWithWidget (tabID targetWidgetID : String) (widget : Widget)
    (direction : WindowSplitDirection) (s : Snapshot) : Outcome Snapshot :=
  match s.tabIndex? tabID with
  | none => (.error (tabNotFound tabID), s)
  | some index =>
    match s.tabs[index]? with
    | none => (.error (tabNotFound tabID), s)
    | some tab =>
      if tab.widgetIDs.isEmpty then (.error (widgetNotFound targetWidgetID), s)
      else
        let target := s.splitTargetIn tab targetWidgetID
        let layout := normalizeWindowLayout tab.windowLayout tab.widgetIDs target
        match splitWindowLayoutAtWidget layout target widget.id direction with
        | .error err => (.error err, s)
        | .ok (_, false) => (.error (widgetNotFound target), s)
        | .ok (nextLayout, true) =>
          let nextTab :=
            { tab with
              widgetIDs := tab.widgetIDs ++ [widget.id]
              windowLayout := nextLayout }
          let next :=
            { s with
              tabs := s.tabs.set index nextTab
              widgets := s.widgets ++ [widget]
              activeTabID := tabID
              activeWidgetID := widget.id }
          (.ok next, next)

def moveWidgetBySplit (tabID widgetID targetWidgetID : String)
    (direction : WindowMoveDirection) (s : Snapshot) : Outcome Snapshot :=
  match s.tabIndex? tabID with
  | none => (.error (tabNotFound tabID), s)
  | some index =>
    match s.tabs[index]? with
    | none => (.error (tabNotFound tabID), s)
    | some tab =>
      let widgetID := trimSpace widgetID
      let targetWidgetID := trimSpace targetWidgetID
      if widgetID = "" ∨ targetWidgetID = "" then
        (.error ⟨.invalidTabMove, some "widget and target widget are required"⟩, s)
      else if widgetID = targetWidgetID then (.error ⟨.invalidTabMove, none⟩, s)
      else if widgetID ∉ tab.widgetIDs then (.error (widgetNotFound widgetID), s)
      else if targetWidgetID ∉ tab.widgetIDs then
        (.error (widgetNotFound targetWidgetID), s)
      else
        let layout := normalizeWindowLayout tab.windowLayout tab.widgetIDs s.activeWidgetID
        match moveWindowLayoutByDirection layout widgetID targetWidgetID direction with
        | .error err => (.error err, s)
        | .ok (_, false) => (.error (widgetNotFound targetWidgetID), s)
        | .ok (nextLayout, true) =>
          let next :=
            { s with
              tabs := s.tabs.set index { tab with windowLayout := nextLayout }
              activeTabID := tabID
              activeWidgetID := widgetID }
          (.ok next, next)

/-- The focus after the active tab has gone: its right neighbour, or the last. -/
def activateNeighbour (remaining : List Tab) (index : Nat) (widgetOf : Tab → String)
    (s : Snapshot) : Snapshot :=
  match remaining[min index (remaining.length - 1)]? with
  | none => s
  | some nextTab => { s with activeTabID := nextTab.id, activeWidgetID := widgetOf nextTab }

def closeTab (tabID : String) (s : Snapshot) : Outcome Snapshot :=
  match s.tabIndex? tabID with
  | none => (.error (tabNotFound tabID), s)
  | some index =>
    match s.tabs[index]? with
    | none => (.error (tabNotFound tabID), s)
    | some tab =>
      let remaining := s.tabs.eraseIdx index
      let closed :=
        { s with
          tabs := remaining
          widgets :=
            if tab.widgetIDs.isEmpty then s.widgets
            else s.widgets.filter fun widget => !tab.widgetIDs.contains widget.id }
      let next :=
        if remaining.isEmpty then { closed with activeTabID := "", activeWidgetID := "" }
        else if s.activeTabID = tabID then
          activateNeighbour remaining index
            (fun nextTab => nextTab.widgetIDs.headD s.activeWidgetID) closed
        else if s.activeWidgetID ∈ tab.widgetIDs then
          match closed.findTabLocked s.activeTabID with
          | .ok activeTab =>
            { closed with
              activeWidgetID := activeTab.widgetIDs.headD s.activeWidgetID }
          | .error _ => closed
        else closed
      (.ok next, next)

def firstLeafOr (tab : Tab) (fallback : String) : String :=
  let firstLeaf := firstWindowLeafID tab.windowLayout
  if firstLeaf = "" then fallback else firstLeaf

def layoutWithout (layout : WindowLayoutNode) (widgetID firstWidgetID : String) :
    WindowLayoutNode :=
  match removeWindowLayoutWidget layout widgetID with
  | (_, false) => leafNode firstWidgetID
  | (.nil, true) => leafNode firstWidgetID
  | (rest, true) => rest

def closeWidget (widgetID : String) (s : Snapshot) : Outcome Snapshot :=
  let widgetID := trimSpace widgetID
  if widgetID = "" then (.error ⟨.widgetNotFound, some "widget id is required"⟩, s)
  else
    match s.widgets.findIdx? (·.id == widgetID) with
    | none => (.error (widgetNotFound widgetID), s)
    | some widgetIndex =>
      match s.tabs.findIdx? (·.widgetIDs.contains widgetID) with
      | none => (.error (widgetNotFound widgetID), s)
      | some tabIndex =>
        match s.tabs[tabIndex]? with
        | none => (.error (widgetNotFound widgetID), s)
        | some tab =>
          let nextWidgetIDs := tab.widgetIDs.filter (· ≠ widgetID)
          let closed := { s with widgets := s.widgets.eraseIdx widgetIndex }
          match nextWidgetIDs with
          | [] =>
            let remaining := s.tabs.eraseIdx tabIndex
            let closed := { closed with tabs := remaining }
            let next :=
              if remaining.isEmpty then
                { closed with activeTabID := "", activeWidgetID := "" }
              else if s.activeTabID = tab.id ∨ s.activeWidgetID = widgetID then
                activateNeighbour remaining tabIndex
                  (fun nextTab => firstLeafOr nextTab (nextTab.widgetIDs.headD ""))
                  closed
              else closed
            (.ok next, next)
          | firstWidgetID :: _ =>
            let layout :=
              normalizeWindowLayout tab.windowLayout tab.widgetIDs s.activeWidgetID
            let nextLayout := layoutWithout layout widgetID firstWidgetID
            let nextTab :=
              { tab with
                widgetIDs := nextWidgetIDs
                windowLayout :=
                  normalizeWindowLayout nextLayout nextWidgetIDs firstWidgetID }
            let closed := { closed with tabs := s.tabs.set tabIndex nextTab }
            let next :=
              if s.activeWidgetID = widgetID then
                { closed with
                  activeTabID := tab.id
                  activeWidgetID := firstLeafOr nextTab firstWidgetID }
              else closed
            (.ok next, next)

def updateTab (tabID : String) (change : Tab → Tab) (s : Snapshot) : Outcome Tab :=
  match s.tabIndex? tabID with
  | none => (.error (tabNotFound tabID), s)
  | some index =>
    match s.tabs[index]? with
    | none => (.error (tabNotFound tabID), s)
    | some tab => (.ok (change tab), { s with tabs := s.tabs.set index (change tab) })

def renameTab (tabID title : String) (s : Snapshot) : Outcome Tab :=
  let title := trimSpace title
  if title = "" then (.error ⟨.invalidTabName, none⟩, s)
  else s.updateTab tabID fun tab => { tab with title := title }

def setTabPinned (tabID : String) (pinned : Bool) (s : Snapshot) : Outcome Tab :=
  s.updateTab tabID fun tab => { tab with pinned := pinned }

/-- The loop of `MoveTab` keeps the last index of each id. -/
def lastTabIndex? (s : Snapshot) (tabID : String) : Option Nat :=
  (s.tabs.reverse.findIdx? (·.id == tabID)).map fun index => s.tabs.length - 1 - index

def moveTab (tabID beforeTabID : String) (s : Snapshot) : Outcome Snapshot :=
  if tabID = beforeTabID then (.ok s, s)
  else
    match s.lastTabIndex? tabID with
    | none => (.error (tabNotFound tabID), s)
    | some fromIndex =>
      match s.lastTabIndex? beforeTabID with
      | none => (.error (tabNotFound beforeTabID), s)
      | some toIndex =>
        match s.tabs[fromIndex]?, s.tabs[toIndex]? with
        | some tab, some beforeTab =>
          if tab.pinned ≠ beforeTab.pinned then (.error ⟨.invalidTabMove, none⟩, s)
          else
            let without := s.tabs.eraseIdx fromIndex
            let toIndex := if fromIndex < toIndex then toIndex - 1 else toIndex
            let next :=
              { s with tabs := without.take toIndex ++ tab :: without.drop toIndex }
            (.ok next, next)
        | _, _ => (.error (tabNotFound tabID), s)

def applyLayoutLocked (layout : Layout) (s : Snapshot) : Snapshot :=
  { s with
    layout := layout
    activeLayoutID := layout.id
    layouts :=
      match s.layouts.findIdx? (·.id == layout.id) with
      | some index => s.layouts.set index layout
      | none => s.layouts ++ [layout] }

/-- The search of `nextLayoutIDLocked`, from `index` on. One of the first
`s.layouts.length + 1` candidates is free, so the fuel is never used up. -/
def nextLayoutIDFrom (s : Snapshot) (index : Nat) : Nat → String
  | 0 => "layout-" ++ toString index
  | fuel + 1 =>
    let candidate := "layout-" ++ toString index
    if layoutExists s.layouts candidate then nextLayoutIDFrom s (index + 1) fuel else candidate

def nextLayoutIDLocked (s : Snapshot) : String :=
  nextLayoutIDFrom s 1 s.layouts.length

def updateLayout (layout : Layout) (s : Snapshot) : Outcome Snapshot :=
  let next := s.applyLayoutLocked (normalizeLayout layout s.layout)
  (.ok next, next)

def saveLayout (layoutID : String) (s : Snapshot) : Outcome Snapshot :=
  let layoutID := trimSpace layoutID
  let layoutID := if layoutID = "" then s.nextLayoutIDLocked else layoutID
  let next := s.applyLayoutLocked { s.layout with id := layoutID }
  (.ok next, next)

def switchLayout (layoutID : String) (s : Snapshot) : Outcome Snapshot :=
  let layoutID := trimSpace layoutID
  match findLayout s.layouts layoutID with
  | some layout =>
    let next := s.applyLayoutLocked { normalizeLayout layout s.layout with id := layout.id }
    (.ok next, next)
  | none => (.error ⟨.layoutNotFound, some layoutID⟩, s)

end Snapshot

end RuneTerminal.Workspace
