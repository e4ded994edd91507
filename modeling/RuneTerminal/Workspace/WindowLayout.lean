import RuneTerminal.Go.Strings

/-! The functions of `core/workspace/window_layout.go`. Go maps that are used as sets are lists. For
`(node, changed, err)` there is `Except WorkspaceError (node × changed)`: callers look at the other
two only without an error. -/

namespace RuneTerminal.Workspace

open Go.Strings

inductive ErrorKind where
  | widgetNotFound
  | workspaceNotFound
  | tabNotFound
  | invalidTabName
  | invalidTabMove
  | layoutNotFound
  | invalidWindowSplitDirection
  | invalidWidgetPath
  deriving DecidableEq

def ErrorKind.text : ErrorKind → String
  | .widgetNotFound => "widget not found"
  | .workspaceNotFound => "workspace not found"
  | .tabNotFound => "tab not found"
  | .invalidTabName => "invalid tab name"
  | .invalidTabMove => "invalid tab move"
  | .layoutNotFound => "layout not found"
  | .invalidWindowSplitDirection => "invalid window split direction"
  | .invalidWidgetPath => "invalid widget path"

/-- A sentinel error, possibly wrapped by `fmt.Errorf("%w: %s", ...)`. -/
structure WorkspaceError where
  kind : ErrorKind
  detail : Option String := none
  deriving DecidableEq

def WorkspaceError.message (err : WorkspaceError) : String :=
  match err.detail with
  | none => err.kind.text
  | some detail => err.kind.text ++ ": " ++ detail

inductive WindowNodeKind where
  | leaf
  | split
  | other (raw : String)
  deriving DecidableEq

inductive WindowSplitAxis where
  | horizontal
  | vertical
  | other (raw : String)
  deriving DecidableEq

def WindowSplitAxis.unset : WindowSplitAxis := .other ""

inductive WindowSplitDirection where
  | left
  | right
  | top
  | bottom
  | other (raw : String)
  deriving DecidableEq

def WindowSplitDirection.text : WindowSplitDirection → String
  | .left => "left"
  | .right => "right"
  | .top => "top"
  | .bottom => "bottom"
  | .other raw => raw

inductive WindowMoveDirection where
  | left
  | right
  | top
  | bottom
  | outerLeft
  | outerRight
  | outerTop
  | outerBottom
  | center
  | other (raw : String)
  deriving DecidableEq

def WindowMoveDirection.text : WindowMoveDirection → String
  | .left => "left"
  | .right => "right"
  | .top => "top"
  | .bottom => "bottom"
  | .outerLeft => "outer-left"
  | .outerRight => "outer-right"
  | .outerTop => "outer-top"
  | .outerBottom => "outer-bottom"
  | .center => "center"
  | .other raw => raw

/-- A `*WindowLayoutNode`: the nil pointer, or a node with its two children. -/
inductive WindowLayoutNode where
  | nil
  | node (kind : WindowNodeKind) (widgetID : String) (axis : WindowSplitAxis)
      (first second : WindowLayoutNode)
  deriving DecidableEq

namespace WindowLayoutNode

/-- `&WindowLayoutNode{Kind: WindowNodeLeaf, WidgetID: widgetID}` -/
def leafNode (widgetID : String) : WindowLayoutNode :=
  .node .leaf widgetID .unset .nil .nil

/-- `&WindowLayoutNode{Kind: WindowNodeSplit, Axis: axis, First: first, Second: second}` -/
def splitNode (axis : WindowSplitAxis) (first second : WindowLayoutNode) : WindowLayoutNode :=
  .node .split "" axis first second

end WindowLayoutNode

inductive WidgetKind where
  | terminal
  | files
  | commander
  | preview
  | editor
  | web
  | other (raw : String)
  deriving DecidableEq

structure Widget where
  id : String
  kind : WidgetKind
  title : String
  description : String := ""
  terminalID : String := ""
  connectionID : String := ""
  path : String := ""
  deriving DecidableEq

structure Tab where
  id : String
  title : String
  description : String := ""
  pinned : Bool := false
  widgetIDs : List String
  windowLayout : WindowLayoutNode := .nil
  deriving DecidableEq

inductive LayoutMode where
  | split
  | focus
  | stacked
  | other (raw : String)
  deriving DecidableEq

inductive LayoutRegion where
  | main
  | sidebar
  | utility
  | other (raw : String)
  deriving DecidableEq

inductive LayoutSurfaceID where
  | terminal
  | ai
  | tools
  | audit
  | mcp
  | other (raw : String)
  deriving DecidableEq

structure LayoutSurface where
  id : LayoutSurfaceID
  region : LayoutRegion
  deriving DecidableEq

structure Layout where
  id : String
  mode : LayoutMode
  surfaces : List LayoutSurface
  activeSurfaceID : LayoutSurfaceID
  deriving DecidableEq

def defaultLayout : Layout where
  id := "layout-default"
  mode := .split
  surfaces :=
    [ { id := .terminal, region := .main },
      { id := .ai, region := .sidebar },
      { id := .tools, region := .utility },
      { id := .audit, region := .utility },
      { id := .mcp, region := .utility } ]
  activeSurfaceID := .terminal

structure Snapshot where
  id : String
  name : String
  icon : String := ""
  color : String := ""
  tabs : List Tab
  activeTabID : String
  widgets : List Widget
  activeWidgetID : String
  layout : Layout
  layouts : List Layout
  activeLayoutID : String
  deriving DecidableEq

def bootstrapDefault : Snapshot where
  id := "ws-local"
  name := "Local Workspace"
  tabs :=
    [ { id := "tab-main"
        title := "Main Shell"
        description := "Primary terminal tab"
        widgetIDs := ["term-main"]
        windowLayout := .leafNode "term-main" },
      { id := "tab-ops"
        title := "Ops Shell"
        description := "Secondary terminal tab"
        widgetIDs := ["term-side"]
        windowLayout := .leafNode "term-side" } ]
  activeTabID := "tab-main"
  widgets :=
    [ { id := "term-main"
        kind := .terminal
        title := "Main Shell"
        description := "Primary terminal session"
        terminalID := "term-main"
        connectionID := "local" },
      { id := "term-side"
        kind := .terminal
        title := "Ops Shell"
        description := "Secondary terminal session"
        terminalID := "term-side"
        connectionID := "local" } ]
  activeWidgetID := "term-main"
  layout := defaultLayout
  layouts := [defaultLayout]
  activeLayoutID := defaultLayout.id

open WindowLayoutNode (leafNode splitNode)

def splitSpecFromDirection (direction : WindowSplitDirection) :
    Except WorkspaceError (WindowSplitAxis × Bool) :=
  match direction with
  | .left => .ok (.horizontal, true)
  | .right => .ok (.horizontal, false)
  | .top => .ok (.vertical, true)
  | .bottom => .ok (.vertical, false)
  | .other raw => .error ⟨.invalidWindowSplitDirection, some raw⟩

def splitSpecFromMoveDirection (direction : WindowMoveDirection) :
    Except WorkspaceError (WindowSplitAxis × Bool) :=
  match direction with
  | .left | .outerLeft => .ok (.horizontal, true)
  | .right | .outerRight => .ok (.horizontal, false)
  | .top | .outerTop => .ok (.vertical, true)
  | .bottom | .outerBottom => .ok (.vertical, false)
  | direction => .error ⟨.invalidWindowSplitDirection, some direction.text⟩

def moveDirectionIsOuter : WindowMoveDirection → Bool
  | .outerLeft | .outerRight | .outerTop | .outerBottom => true
  | _ => false

def firstWindowLeafID : WindowLayoutNode → String
  | .nil => ""
  | .node .leaf widgetID _ _ _ => widgetID
  | .node _ _ _ first second =>
    if firstWindowLeafID first ≠ "" then firstWindowLeafID first
    else firstWindowLeafID second

def lastWindowLeafID : WindowLayoutNode → String
  | .nil => ""
  | .node .leaf widgetID _ _ _ => widgetID
  | .node _ _ _ first second =>
    if lastWindowLeafID second ≠ "" then lastWindowLeafID second
    else lastWindowLeafID first

/-- The split that stands in for `target` once the new leaf is beside it. -/
def besideNode (axis : WindowSplitAxis) (insertBefore : Bool) (newWidgetID : String)
    (target : WindowLayoutNode) : WindowLayoutNode :=
  if insertBefore then splitNode axis (leafNode newWidgetID) target
  else splitNode axis target (leafNode newWidgetID)

/-- The closure `splitRec` of `splitWindowLayoutAtWidget`. -/
def splitAtWidgetRec (targetWidgetID newWidgetID : String) (axis : WindowSplitAxis)
    (insertBefore : Bool) : WindowLayoutNode → WindowLayoutNode × Bool
  | .nil => (.nil, false)
  | .node .leaf widgetID nodeAxis first second =>
    if widgetID ≠ targetWidgetID then (.node .leaf widgetID nodeAxis first second, false)
    else
      (besideNode axis insertBefore newWidgetID
        (.node .leaf widgetID nodeAxis first second), true)
  | .node kind widgetID nodeAxis first second =>
    let inFirst := splitAtWidgetRec targetWidgetID newWidgetID axis insertBefore first
    if inFirst.2 then (splitNode nodeAxis inFirst.1 second, true)
    else
      let inSecond := splitAtWidgetRec targetWidgetID newWidgetID axis insertBefore second
      if inSecond.2 then (splitNode nodeAxis first inSecond.1, true)
      else (.node kind widgetID nodeAxis first second, false)

def splitWindowLayoutAtWidget (layout : WindowLayoutNode)
    (targetWidgetID newWidgetID : String) (direction : WindowSplitDirection) :
    Except WorkspaceError (WindowLayoutNode × Bool) :=
  let targetWidgetID := trimSpace targetWidgetID
  let newWidgetID := trimSpace newWidgetID
  if targetWidgetID = "" ∨ newWidgetID = "" then .ok (layout, false)
  else do
    let (axis, insertBefore) ← splitSpecFromDirection direction
    .ok (splitAtWidgetRec targetWidgetID newWidgetID axis insertBefore layout)

/-- The leaf case of `sanitizeWindowLayout`, with the set of ids seen so far. -/
def sanitizeLeaf (validWidgetIDs : List String) (rawWidgetID : String) (seen : List String) :
    WindowLayoutNode × List String :=
  let widgetID := trimSpace rawWidgetID
  if widgetID = "" then (.nil, seen)
  else if widgetID ∉ validWidgetIDs then (.nil, seen)
  else if widgetID ∈ seen then (.nil, seen)
  else (leafNode widgetID, widgetID :: seen)

/-- The join of the split case: a missing side leaves the other one, and an
axis that is none of the two becomes horizontal. -/
def joinSanitized (axis : WindowSplitAxis) :
    WindowLayoutNode → WindowLayoutNode → WindowLayoutNode
  | .nil, .nil => .nil
  | .nil, second => second
  | first, .nil => first
  | first, second =>
    splitNode (if axis ≠ .horizontal ∧ axis ≠ .vertical then .horizontal else axis)
      first second

/-- A node of unknown kind is read as a leaf when it names a widget and as a
split when it has a child. -/
def sanitizeWindowLayout (validWidgetIDs : List String) :
    WindowLayoutNode → List String → WindowLayoutNode × List String
  | .nil, seen => (.nil, seen)
  | .node .leaf widgetID _ _ _, seen => sanitizeLeaf validWidgetIDs widgetID seen
  | .node .split _ axis first second, seen =>
    let inFirst := sanitizeWindowLayout validWidgetIDs first seen
    let inSecond := sanitizeWindowLayout validWidgetIDs second inFirst.2
    (joinSanitized axis inFirst.1 inSecond.1, inSecond.2)
  | .node (.other _) widgetID axis first second, seen =>
    if trimSpace widgetID ≠ "" then sanitizeLeaf validWidgetIDs widgetID seen
    else if first ≠ .nil ∨ second ≠ .nil then
      let inFirst := sanitizeWindowLayout validWidgetIDs first seen
      let inSecond := sanitizeWindowLayout validWidgetIDs second inFirst.2
      (joinSanitized axis inFirst.1 inSecond.1, inSecond.2)
    else (.nil, seen)

/-- The first loop of `normalizeWindowLayout`: trimmed ids, without blanks and
repetitions, in order. -/
def normalizeWidgetIDs (widgetIDs : List String) : List String :=
  widgetIDs.foldl (fun normalized raw =>
    let widgetID := trimSpace raw
    if widgetID = "" then normalized
    else if widgetID ∈ normalized then normalized
    else normalized ++ [widgetID]) []

/-- State of the loop that adds the widgets the layout does not show yet. -/
structure InsertCursor where
  sanitized : WindowLayoutNode
  insertTarget : String
  seen : List String

def splitOrAppend (sanitized : WindowLayoutNode) (insertTarget widgetID : String) :
    WindowLayoutNode :=
  match splitWindowLayoutAtWidget sanitized insertTarget widgetID .right with
  | .ok (next, true) => next
  | _ =>
    match splitWindowLayoutAtWidget sanitized (lastWindowLeafID sanitized) widgetID .right with
    | .ok (next, true) => next
    | _ => splitNode .horizontal sanitized (leafNode widgetID)

def insertMissingWidget (cursor : InsertCursor) (widgetID : String) : InsertCursor :=
  if widgetID ∈ cursor.seen then cursor
  else
    { sanitized := splitOrAppend cursor.sanitized cursor.insertTarget widgetID
      insertTarget := widgetID
      seen := widgetID :: cursor.seen }

def normalizeWindowLayout (layout : WindowLayoutNode) (widgetIDs : List String)
    (preferredWidgetID : String) : WindowLayoutNode :=
  match normalizeWidgetIDs widgetIDs with
  | [] => .nil
  | firstWidgetID :: others =>
    let normalizedWidgetIDs := firstWidgetID :: others
    let start :=
      match sanitizeWindowLayout normalizedWidgetIDs layout [] with
      | (.nil, seen) => (leafNode firstWidgetID, firstWidgetID :: seen)
      | sanitized => sanitized
    let preferredWidgetID := trimSpace preferredWidgetID
    let insertTarget :=
      if preferredWidgetID ≠ "" ∧ preferredWidgetID ∈ start.2 then preferredWidgetID
      else lastWindowLeafID start.1
    (normalizedWidgetIDs.foldl insertMissingWidget
      { sanitized := start.1, insertTarget := insertTarget, seen := start.2 }).sanitized

def removeWindowLayoutWidget : WindowLayoutNode → String → WindowLayoutNode × Bool
  | .nil, _ => (.nil, false)
  | .node .leaf nodeWidgetID axis first second, rawWidgetID =>
    let widgetID := trimSpace rawWidgetID
    if widgetID = "" then (.node .leaf nodeWidgetID axis first second, false)
    else if nodeWidgetID = widgetID then (.nil, true)
    else (.node .leaf nodeWidgetID axis first second, false)
  | .node kind nodeWidgetID axis first second, rawWidgetID =>
    let widgetID := trimSpace rawWidgetID
    if widgetID = "" then (.node kind nodeWidgetID axis first second, false)
    else
      let inFirst := removeWindowLayoutWidget first widgetID
      let inSecond := removeWindowLayoutWidget second widgetID
      if !inFirst.2 && !inSecond.2 then (.node kind nodeWidgetID axis first second, false)
      else
        match inFirst.1, inSecond.1 with
        | .nil, .nil => (.nil, true)
        | .nil, second => (second, true)
        | first, .nil => (first, true)
        | first, second => (splitNode axis first second, true)

/-- The closure `splitRec` of `splitWindowLayoutAtPath`, on the path still to go. -/
def splitAtPathRec (newWidgetID : String) (axis : WindowSplitAxis) (insertBefore : Bool) :
    List Bool → WindowLayoutNode → WindowLayoutNode × Bool
  | _, .nil => (.nil, false)
  | [], node => (besideNode axis insertBefore newWidgetID node, true)
  | step :: path, .node .split widgetID nodeAxis first second =>
    if !step then
      let inFirst := splitAtPathRec newWidgetID axis insertBefore path first
      if !inFirst.2 then (.node .split widgetID nodeAxis first second, false)
      else (splitNode nodeAxis inFirst.1 second, true)
    else
      let inSecond := splitAtPathRec newWidgetID axis insertBefore path second
      if !inSecond.2 then (.node .split widgetID nodeAxis first second, false)
      else (splitNode nodeAxis first inSecond.1, true)
  | _ :: _, node => (node, false)

def splitWindowLayoutAtPath (layout : WindowLayoutNode) (targetPath : List Bool)
    (newWidgetID : String) (axis : WindowSplitAxis) (insertBefore : Bool) :
    WindowLayoutNode × Bool :=
  let newWidgetID := trimSpace newWidgetID
  if newWidgetID = "" then (layout, false)
  else splitAtPathRec newWidgetID axis insertBefore targetPath layout

/-- The closure `findRec` of `findWindowLeafPath`, returning the part of the
path below the node. -/
def findLeafRec (widgetID : String) : WindowLayoutNode → Option (List Bool)
  | .nil => none
  | .node .leaf nodeWidgetID _ _ _ => if nodeWidgetID ≠ widgetID then none else some []
  | .node _ _ _ first second =>
    match findLeafRec widgetID first with
    | some path => some (false :: path)
    | none => (findLeafRec widgetID second).map (true :: ·)

def findWindowLeafPath (layout : WindowLayoutNode) (widgetID : String) : Option (List Bool) :=
  let widgetID := trimSpace widgetID
  if widgetID = "" ∨ layout = .nil then none else findLeafRec widgetID layout

def nodeAtWindowPath : WindowLayoutNode → List Bool → WindowLayoutNode
  | current, [] => current
  | .node .split _ _ first second, step :: path =>
    nodeAtWindowPath (if step then second else first) path
  | _, _ :: _ => .nil

def isSplitAlong (axis : WindowSplitAxis) : WindowLayoutNode → Bool
  | .node .split _ nodeAxis _ _ => nodeAxis == axis
  | _ => false

/-- The loop of `outerInsertPathForTarget` from `depth` down to one. -/
def outerInsertPathFrom (layout : WindowLayoutNode) (axis : WindowSplitAxis)
    (leafPath : List Bool) : Nat → Option (List Bool)
  | 0 => none
  | depth + 1 =>
    let candidatePath := leafPath.take (depth + 1)
    if isSplitAlong axis (nodeAtWindowPath layout candidatePath) then some candidatePath
    else outerInsertPathFrom layout axis leafPath depth

def outerInsertPathForTarget (layout : WindowLayoutNode) (targetWidgetID : String)
    (axis : WindowSplitAxis) : Option (List Bool) := do
  let leafPath ← findWindowLeafPath layout targetWidgetID
  outerInsertPathFrom layout axis leafPath (leafPath.length - 1)

/-- The closure `swapRec` of `swapWindowLayoutWidgets`; the two flags it sets
tell which of the widgets were met. -/
def swapRec (widgetA widgetB : String) : WindowLayoutNode → WindowLayoutNode
  | .nil => .nil
  | .node .leaf widgetID _ _ _ =>
    leafNode (if widgetID = widgetA then widgetB
      else if widgetID = widgetB then widgetA else widgetID)
  | .node _ _ axis first second =>
    splitNode axis (swapRec widgetA widgetB first) (swapRec widgetA widgetB second)

def foundByTraversal (widgetID : String) : WindowLayoutNode → Bool
  | .nil => false
  | .node .leaf nodeWidgetID _ _ _ => nodeWidgetID == widgetID
  | .node _ _ _ first second =>
    foundByTraversal widgetID first || foundByTraversal widgetID second

def swapWindowLayoutWidgets (layout : WindowLayoutNode) (widgetA widgetB : String) :
    WindowLayoutNode × Bool :=
  let widgetA := trimSpace widgetA
  let widgetB := trimSpace widgetB
  if layout = .nil ∨ widgetA = "" ∨ widgetB = "" ∨ widgetA = widgetB then (layout, false)
  else if !foundByTraversal widgetA layout || !foundByTraversal widgetB layout then
    (layout, false)
  else (swapRec widgetA widgetB layout, true)

def fallbackSplitDirection (direction : WindowMoveDirection) :
    Except WorkspaceError WindowSplitDirection :=
  match direction with
  | .left | .outerLeft => .ok .left
  | .right | .outerRight => .ok .right
  | .top | .outerTop => .ok .top
  | .bottom | .outerBottom => .ok .bottom
  | direction => .error ⟨.invalidWindowSplitDirection, some direction.text⟩

/-- The outer attempt: the layout with the widget around the matching split, if
there is one and the insertion changed the layout. -/
def outerMove (layoutWithoutWidget : WindowLayoutNode) (widgetID targetWidgetID : String)
    (axis : WindowSplitAxis) (insertBefore : Bool) : Option WindowLayoutNode := do
  let insertPath ← outerInsertPathForTarget layoutWithoutWidget targetWidgetID axis
  let (next, changed) :=
    splitWindowLayoutAtPath layoutWithoutWidget insertPath widgetID axis insertBefore
  if changed then some next else none

def moveWindowLayoutByDirection (layout : WindowLayoutNode)
    (widgetID targetWidgetID : String) (direction : WindowMoveDirection) :
    Except WorkspaceError (WindowLayoutNode × Bool) :=
  if direction = .center then .ok (swapWindowLayoutWidgets layout widgetID targetWidgetID)
  else do
    let (axis, insertBefore) ← splitSpecFromMoveDirection direction
    let (layoutWithoutWidget, removed) := removeWindowLayoutWidget layout widgetID
    if !removed then .ok (layout, false)
    else if layoutWithoutWidget = .nil then .ok (layout, false)
    else
      let outer :=
        if moveDirectionIsOuter direction then
          outerMove layoutWithoutWidget widgetID targetWidgetID axis insertBefore
        else none
      match outer with
      | some next => .ok (next, true)
      | none => do
          let splitDirection ← fallbackSplitDirection direction
          splitWindowLayoutAtWidget layoutWithoutWidget targetWidgetID widgetID splitDirection

end RuneTerminal.Workspace
