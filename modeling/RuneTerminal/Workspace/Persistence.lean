import RuneTerminal.Go.Json
import RuneTerminal.Workspace.CatalogRuns

/-! The JSON forms of `core/workspace` and the readers `LoadSnapshot` and `LoadCatalog`. Each reader
decodes the wrapped form, and only after an error the older ones; an older form decodes as the
wrapped one without an error, and leaves a zero value. -/

namespace RuneTerminal.Workspace

open Go Go.Strings List Json

def WidgetKind.text : WidgetKind → String
  | .terminal => "terminal"
  | .files => "files"
  | .commander => "commander"
  | .preview => "preview"
  | .editor => "editor"
  | .web => "web"
  | .other raw => raw

def WidgetKind.ofText : String → WidgetKind
  | "terminal" => .terminal
  | "files" => .files
  | "commander" => .commander
  | "preview" => .preview
  | "editor" => .editor
  | "web" => .web
  | raw => .other raw

def WindowNodeKind.text : WindowNodeKind → String
  | .leaf => "leaf"
  | .split => "split"
  | .other raw => raw

def WindowNodeKind.ofText : String → WindowNodeKind
  | "leaf" => .leaf
  | "split" => .split
  | raw => .other raw

def WindowSplitAxis.text : WindowSplitAxis → String
  | .horizontal => "horizontal"
  | .vertical => "vertical"
  | .other raw => raw

def WindowSplitAxis.ofText : String → WindowSplitAxis
  | "horizontal" => .horizontal
  | "vertical" => .vertical
  | raw => .other raw

def LayoutMode.text : LayoutMode → String
  | .split => "split"
  | .focus => "focus"
  | .stacked => "stacked"
  | .other raw => raw

def LayoutMode.ofText : String → LayoutMode
  | "split" => .split
  | "focus" => .focus
  | "stacked" => .stacked
  | raw => .other raw

def LayoutRegion.text : LayoutRegion → String
  | .main => "main"
  | .sidebar => "sidebar"
  | .utility => "utility"
  | .other raw => raw

def LayoutRegion.ofText : String → LayoutRegion
  | "main" => .main
  | "sidebar" => .sidebar
  | "utility" => .utility
  | raw => .other raw

def LayoutSurfaceID.text : LayoutSurfaceID → String
  | .terminal => "terminal"
  | .ai => "ai"
  | .tools => "tools"
  | .audit => "audit"
  | .mcp => "mcp"
  | .other raw => raw

def LayoutSurfaceID.ofText : String → LayoutSurfaceID
  | "terminal" => .terminal
  | "ai" => .ai
  | "tools" => .tools
  | "audit" => .audit
  | "mcp" => .mcp
  | raw => .other raw

namespace Persistence

def encodeTexts (texts : List String) : Json.Value :=
  .arr (texts.map .str)

def encodeWidget (widget : Widget) : Json.Value :=
  .obj ([("id", .str widget.id), ("kind", .str widget.kind.text), ("title", .str widget.title)] ++
    Json.omitEmpty "description" widget.description ++
    Json.omitEmpty "terminal_id" widget.terminalID ++
    Json.omitEmpty "connection_id" widget.connectionID ++
    Json.omitEmpty "path" widget.path)

def encodeWindowNode (name : String) : WindowLayoutNode → List (String × Json.Value)
  | .nil => []
  | .node kind widgetID axis first second =>
    [(name, .obj ([("kind", .str kind.text)] ++
      Json.omitEmpty "widget_id" widgetID ++
      Json.omitEmpty "axis" axis.text ++
      encodeWindowNode "first" first ++
      encodeWindowNode "second" second))]

def encodeTab (tab : Tab) : Json.Value :=
  .obj ([("id", .str tab.id), ("title", .str tab.title)] ++
    Json.omitEmpty "description" tab.description ++
    [("pinned", .bool tab.pinned), ("widget_ids", encodeTexts tab.widgetIDs)] ++
    encodeWindowNode "window_layout" tab.windowLayout)

def encodeSurface (surface : LayoutSurface) : Json.Value :=
  .obj [("id", .str surface.id.text), ("region", .str surface.region.text)]

def encodeLayout (layout : Layout) : Json.Value :=
  .obj [("id", .str layout.id), ("mode", .str layout.mode.text),
    ("surfaces", .arr (layout.surfaces.map encodeSurface)),
    ("active_surface_id", .str layout.activeSurfaceID.text)]

def snapshotMembers (s : Snapshot) : List (String × Json.Value) :=
  [("id", .str s.id), ("name", .str s.name)] ++
    Json.omitEmpty "icon" s.icon ++
    Json.omitEmpty "color" s.color ++
    [("tabs", .arr (s.tabs.map encodeTab)), ("active_tab_id", .str s.activeTabID),
      ("widgets", .arr (s.widgets.map encodeWidget)), ("active_widget_id", .str s.activeWidgetID),
      ("layout", encodeLayout s.layout), ("layouts", .arr (s.layouts.map encodeLayout)),
      ("active_layout_id", .str s.activeLayoutID)]

def encodeSnapshot (s : Snapshot) : Json.Value := .obj (snapshotMembers s)

def snapshotSchemaVersion : Int := 2

structure PersistedSnapshot where
  version : Int
  workspace : Snapshot

structure PersistedCatalog where
  version : Int
  catalog : Catalog

def encodePersistedSnapshot (persisted : PersistedSnapshot) : Json.Value :=
  .obj [("version", .int persisted.version), ("workspace", encodeSnapshot persisted.workspace)]

def textField {Record : Type} (name : String) (read : Record → String)
    (write : Record → String → Record) : Json.Field Record where
  name := name
  decode value current := (Json.decodeString value (read current)).map (write current)

def zeroWidget : Widget := { id := "", kind := .other "", title := "" }

def widgetFields : List (Json.Field Widget) :=
  [ textField "id" (·.id) fun widget text => { widget with id := text },
    textField "kind" (·.kind.text) fun widget text => { widget with kind := .ofText text },
    textField "title" (·.title) fun widget text => { widget with title := text },
    textField "description" (·.description) fun widget text => { widget with description := text },
    textField "terminal_id" (·.terminalID) fun widget text => { widget with terminalID := text },
    textField "connection_id" (·.connectionID) fun widget text =>
      { widget with connectionID := text },
    textField "path" (·.path) fun widget text => { widget with path := text } ]

def windowNodeNames : List String := ["kind", "widget_id", "axis", "first", "second"]

/-- What a non-nil pointer points to; a nil one is given a zero node first. -/
structure WindowNodeRecord where
  kind : WindowNodeKind := .other ""
  widgetID : String := ""
  axis : WindowSplitAxis := .unset
  first : WindowLayoutNode := .nil
  second : WindowLayoutNode := .nil

def nodeRecord : WindowLayoutNode → WindowNodeRecord
  | .nil => {}
  | .node kind widgetID axis first second => ⟨kind, widgetID, axis, first, second⟩

mutual

def decodeWindowNode : Json.Value → WindowLayoutNode → Option WindowLayoutNode
  | .null, _ => some .nil
  | .obj members, current =>
    (decodeWindowMembers members (nodeRecord current)).map fun node =>
      .node node.kind node.widgetID node.axis node.first node.second
  | _, _ => none

def decodeWindowMembers : List (String × Json.Value) → WindowNodeRecord → Option WindowNodeRecord
  | [], node => some node
  | (key, value) :: rest, node =>
    match Json.resolveName windowNodeNames key with
    | some "kind" =>
      (Json.decodeString value node.kind.text).bind fun text =>
        decodeWindowMembers rest { node with kind := .ofText text }
    | some "widget_id" =>
      (Json.decodeString value node.widgetID).bind fun text =>
        decodeWindowMembers rest { node with widgetID := text }
    | some "axis" =>
      (Json.decodeString value node.axis.text).bind fun text =>
        decodeWindowMembers rest { node with axis := .ofText text }
    | some "first" =>
      (decodeWindowNode value node.first).bind fun child =>
        decodeWindowMembers rest { node with first := child }
    | some "second" =>
      (decodeWindowNode value node.second).bind fun child =>
        decodeWindowMembers rest { node with second := child }
    | _ => decodeWindowMembers rest node

end

def zeroTab : Tab := { id := "", title := "", widgetIDs := [] }

def tabFields : List (Json.Field Tab) :=
  [ textField "id" (·.id) fun tab text => { tab with id := text },
    textField "title" (·.title) fun tab text => { tab with title := text },
    textField "description" (·.description) fun tab text => { tab with description := text },
    { name := "pinned"
      decode := fun value tab =>
        (Json.decodeBool value tab.pinned).map fun pinned => { tab with pinned := pinned } },
    { name := "widget_ids"
      decode := fun value tab =>
        (Json.decodeList Json.decodeString "" value tab.widgetIDs).map fun widgetIDs =>
          { tab with widgetIDs := widgetIDs } },
    { name := "window_layout"
      decode := fun value tab =>
        (decodeWindowNode value tab.windowLayout).map fun node =>
          { tab with windowLayout := node } } ]

def zeroSurface : LayoutSurface := { id := .other "", region := .other "" }

def surfaceFields : List (Json.Field LayoutSurface) :=
  [ textField "id" (·.id.text) fun surface text => { surface with id := .ofText text },
    textField "region" (·.region.text) fun surface text =>
      { surface with region := .ofText text } ]

def zeroLayout : Layout :=
  { id := "", mode := .other "", surfaces := [], activeSurfaceID := .other "" }

def layoutFields : List (Json.Field Layout) :=
  [ textField "id" (·.id) fun layout text => { layout with id := text },
    textField "mode" (·.mode.text) fun layout text => { layout with mode := .ofText text },
    { name := "surfaces"
      decode := fun value layout =>
        (Json.decodeList (Json.decodeStruct surfaceFields) zeroSurface value layout.surfaces).map
          fun surfaces => { layout with surfaces := surfaces } },
    textField "active_surface_id" (·.activeSurfaceID.text) fun layout text =>
      { layout with activeSurfaceID := .ofText text } ]

def zeroSnapshot : Snapshot where
  id := ""
  name := ""
  tabs := []
  activeTabID := ""
  widgets := []
  activeWidgetID := ""
  layout := zeroLayout
  layouts := []
  activeLayoutID := ""

def snapshotFields : List (Json.Field Snapshot) :=
  [ textField "id" (·.id) fun s text => { s with id := text },
    textField "name" (·.name) fun s text => { s with name := text },
    textField "icon" (·.icon) fun s text => { s with icon := text },
    textField "color" (·.color) fun s text => { s with color := text },
    { name := "tabs"
      decode := fun value s =>
        (Json.decodeList (Json.decodeStruct tabFields) zeroTab value s.tabs).map fun tabs =>
          { s with tabs := tabs } },
    textField "active_tab_id" (·.activeTabID) fun s text => { s with activeTabID := text },
    { name := "widgets"
      decode := fun value s =>
        (Json.decodeList (Json.decodeStruct widgetFields) zeroWidget value s.widgets).map
          fun widgets => { s with widgets := widgets } },
    textField "active_widget_id" (·.activeWidgetID) fun s text =>
      { s with activeWidgetID := text },
    { name := "layout"
      decode := fun value s =>
        (Json.decodeStruct layoutFields value s.layout).map fun layout =>
          { s with layout := layout } },
    { name := "layouts"
      decode := fun value s =>
        (Json.decodeList (Json.decodeStruct layoutFields) zeroLayout value s.layouts).map
          fun layouts => { s with layouts := layouts } },
    textField "active_layout_id" (·.activeLayoutID) fun s text =>
      { s with activeLayoutID := text } ]

def zeroPersistedSnapshot : PersistedSnapshot := ⟨0, zeroSnapshot⟩

def persistedSnapshotFields : List (Json.Field PersistedSnapshot) :=
  [ { name := "version"
      decode := fun value persisted =>
        (Json.decodeInt value persisted.version).map fun version =>
          { persisted with version := version } },
    { name := "workspace"
      decode := fun value persisted =>
        (Json.decodeStruct snapshotFields value persisted.workspace).map fun workspace =>
          { persisted with workspace := workspace } } ]

def zeroCatalog : Catalog := { activeWorkspaceID := "", workspaces := [] }

def catalogFields : List (Json.Field Catalog) :=
  [ textField "active_workspace_id" (·.activeWorkspaceID) fun catalog text =>
      { catalog with activeWorkspaceID := text },
    { name := "workspaces"
      decode := fun value catalog =>
        (Json.decodeList (Json.decodeStruct snapshotFields) zeroSnapshot value
          catalog.workspaces).map fun workspaces => { catalog with workspaces := workspaces } } ]

def zeroPersistedCatalog : PersistedCatalog := ⟨0, zeroCatalog⟩

def persistedCatalogFields : List (Json.Field PersistedCatalog) :=
  [ { name := "version"
      decode := fun value persisted =>
        (Json.decodeInt value persisted.version).map fun version =>
          { persisted with version := version } },
    { name := "catalog"
      decode := fun value persisted =>
        (Json.decodeStruct catalogFields value persisted.catalog).map fun catalog =>
          { persisted with catalog := catalog } } ]

/-- What `os.ReadFile` finds at a path. -/
inductive SavedFile where
  | missing
  | unreadable
  | empty
  | invalid
  | holds (value : Json.Value)

inductive LoadError where
  | read
  | decode
  | invalidCatalogPayload

def loadSnapshot (file : SavedFile) (fallback : Snapshot) : Except LoadError Snapshot :=
  match file with
  | .missing => .ok fallback
  | .unreadable => .error .read
  | .empty => .ok fallback
  | .invalid => .error .decode
  | .holds value =>
    match Json.unmarshal (Json.decodeStruct persistedSnapshotFields) zeroPersistedSnapshot
      value with
    | some persisted => .ok (normalizeSnapshot persisted.workspace fallback)
    | none =>
      match Json.unmarshal (Json.decodeStruct snapshotFields) zeroSnapshot value with
      | some raw => .ok (normalizeSnapshot raw fallback)
      | none => .error .decode

def loadCatalog (file : SavedFile) (fallback : Snapshot) : Except LoadError Catalog :=
  match file with
  | .missing => .ok (bootstrapCatalog fallback)
  | .unreadable => .error .read
  | .empty => .ok (bootstrapCatalog fallback)
  | .invalid => .error .invalidCatalogPayload
  | .holds value =>
    match Json.unmarshal (Json.decodeStruct persistedCatalogFields) zeroPersistedCatalog
      value with
    | some persisted => .ok (normalizeCatalog persisted.catalog fallback)
    | none =>
      match Json.unmarshal (Json.decodeStruct persistedSnapshotFields) zeroPersistedSnapshot
        value with
      | some single => .ok (bootstrapCatalog single.workspace)
      | none =>
        match Json.unmarshal (Json.decodeStruct snapshotFields) zeroSnapshot value with
        | some raw => .ok (bootstrapCatalog raw)
        | none => .error .invalidCatalogPayload

def saveSnapshot (s : Snapshot) : SavedFile :=
  .holds (encodePersistedSnapshot ⟨snapshotSchemaVersion, s⟩)

def snapshotKeys : List String :=
  ["id", "name", "icon", "color", "tabs", "active_tab_id", "widgets", "active_widget_id",
    "layout", "layouts", "active_layout_id"]

variable {s : Snapshot}

theorem snapshot_members_keys {entry : String × Json.Value} (mem : entry ∈ snapshotMembers s) :
    entry.1 ∈ snapshotKeys := by
  simp only [snapshotMembers, mem_append, mem_cons, not_mem_nil, or_false] at mem
  rcases mem with (((rfl | rfl) | icon) | color) | rfl | rfl | rfl | rfl | rfl | rfl | rfl
  case inl.inl.inr => simp [mem_omit_empty icon, snapshotKeys]
  case inl.inr => simp [mem_omit_empty color, snapshotKeys]
  all_goals simp [snapshotKeys]

theorem decode_plain_unknown {Record : Type} {fields : List (Json.Field Record)}
    (unknown : ∀ key ∈ snapshotKeys, Json.resolveName (fields.map Json.Field.name) key = none)
    (s : Snapshot) (zero : Record) :
    Json.decodeStruct fields (encodeSnapshot s) zero = some zero := by
  apply decode_members_unknown
  intro entry mem
  exact find_field_unknown (unknown entry.1 (snapshot_members_keys mem))

theorem unmarshal_persisted_snapshot_plain (s : Snapshot) :
    Json.unmarshal (Json.decodeStruct persistedSnapshotFields) zeroPersistedSnapshot
      (encodeSnapshot s) =
      if Json.depth (encodeSnapshot s) ≤ Json.maxNestingDepth then some zeroPersistedSnapshot
      else none := by
  rw [unmarshal, decode_plain_unknown]
  decide

theorem unmarshal_persisted_catalog_plain (s : Snapshot) :
    Json.unmarshal (Json.decodeStruct persistedCatalogFields) zeroPersistedCatalog
      (encodeSnapshot s) =
      if Json.depth (encodeSnapshot s) ≤ Json.maxNestingDepth then some zeroPersistedCatalog
      else none := by
  rw [unmarshal, decode_plain_unknown]
  decide

theorem unmarshal_persisted_catalog_wrapped (s : Snapshot) :
    Json.unmarshal (Json.decodeStruct persistedCatalogFields) zeroPersistedCatalog
      (encodePersistedSnapshot ⟨snapshotSchemaVersion, s⟩) =
      if Json.depth (encodePersistedSnapshot ⟨snapshotSchemaVersion, s⟩) ≤ Json.maxNestingDepth then
        some ⟨snapshotSchemaVersion, zeroCatalog⟩
      else none := by
  have decoded : decodeStruct persistedCatalogFields
      (encodePersistedSnapshot ⟨snapshotSchemaVersion, s⟩) zeroPersistedCatalog =
        some ⟨snapshotSchemaVersion, zeroCatalog⟩ := rfl
  rw [unmarshal, decoded]

def emptiedFallback (fallback : Snapshot) : Snapshot :=
  let layout := normalizeLayout zeroLayout fallback.layout
  { id := fallback.id
    name := fallback.name
    tabs := []
    activeTabID := ""
    widgets := []
    activeWidgetID := ""
    layout := layout
    layouts := [layout]
    activeLayoutID := layout.id }

theorem normalize_zero_snapshot (fallback : Snapshot) :
    normalizeSnapshot zeroSnapshot fallback = emptiedFallback fallback := by
  have layouts : normalizeSnapshotLayouts zeroSnapshot fallback =
      ⟨normalizeLayout zeroLayout fallback.layout, [normalizeLayout zeroLayout fallback.layout],
        (normalizeLayout zeroLayout fallback.layout).id⟩ := by
    simp [normalizeSnapshotLayouts, zeroSnapshot, normalizeLayouts, findLayout]
  unfold normalizeSnapshot
  rw [layouts]
  rfl

variable {fallback : Snapshot}

theorem load_plain_snapshot {loaded : Snapshot} :
    loadSnapshot (.holds (encodeSnapshot s)) fallback = .ok loaded ↔
    Json.depth (encodeSnapshot s) ≤ Json.maxNestingDepth ∧ loaded = emptiedFallback fallback := by
  unfold loadSnapshot
  dsimp only
  rw [unmarshal_persisted_snapshot_plain]
  by_cases nesting : depth (encodeSnapshot s) ≤ maxNestingDepth
  · simp only [nesting, if_true, true_and, zeroPersistedSnapshot, normalize_zero_snapshot,
      Except.ok.injEq]
    exact eq_comm
  · simp [nesting, unmarshal]

theorem load_catalog_zero {value : Json.Value} {loaded : Catalog} {version : Int}
    (decoded : Json.unmarshal (Json.decodeStruct persistedCatalogFields) zeroPersistedCatalog
      value =
      if Json.depth value ≤ Json.maxNestingDepth then some ⟨version, zeroCatalog⟩ else none) :
    loadCatalog (.holds value) fallback = .ok loaded ↔
    Json.depth value ≤ Json.maxNestingDepth ∧ loaded = bootstrapCatalog fallback := by
  unfold loadCatalog
  dsimp only
  rw [decoded]
  by_cases nesting : depth value ≤ maxNestingDepth
  · simp only [nesting, if_true, true_and, Except.ok.injEq]
    exact eq_comm
  · simp [nesting, unmarshal]

/-- A workspace with nothing in it: no tabs, no icon, no colour, and a single
layout that focuses its first surface. -/
structure BlankWorkspace (s : Snapshot) : Prop where
  tabs : s.tabs = []
  icon : s.icon = ""
  color : s.color = ""
  layouts : s.layouts = [s.layout]
  focus : s.layout.surfaces.head?.map LayoutSurface.id = some s.layout.activeSurfaceID

/-- The fallback is the workspace itself: it has its id, its name and its layout,
and normalization makes it the workspace. -/
structure StandsFor (fallback s : Snapshot) : Prop where
  id : fallback.id = s.id
  name : fallback.name = s.name
  layoutID : fallback.layout.id = s.layout.id
  mode : fallback.layout.mode = s.layout.mode
  surfaces : completeSurfaces [] fallback.layout = s.layout.surfaces
  normalized : normalizeSnapshot fallback bootstrapDefault = s

theorem complete_surfaces_ne_nil (surfaces : List LayoutSurface) (fallback : Layout) :
    completeSurfaces surfaces fallback ≠ [] := by
  unfold completeSurfaces
  dsimp only
  generalize (if surfaces.isEmpty then fallback.surfaces else surfaces) = given
  split_ifs with shown
  · rintro rfl
    cases shown
  · exact cons_ne_nil _ _

theorem normalize_zero_layout {layout fallback : Layout} :
    layout = normalizeLayout zeroLayout fallback ↔ fallback.id = layout.id ∧
    fallback.mode = layout.mode ∧ completeSurfaces [] fallback = layout.surfaces ∧
    layout.surfaces.head?.map LayoutSurface.id = some layout.activeSurfaceID := by
  obtain ⟨first, rest, shown⟩ := exists_cons_of_ne_nil (complete_surfaces_ne_nil [] fallback)
  have normalized : normalizeLayout zeroLayout fallback =
      { id := fallback.id, mode := fallback.mode, surfaces := first :: rest,
        activeSurfaceID := first.id } := by
    simp [normalizeLayout, zeroLayout, normalizeSurfaces, LayoutMode.known, shown]
  rw [normalized, shown]
  obtain ⟨id, mode, surfaces, activeSurfaceID⟩ := layout
  simp only [Layout.mk.injEq]
  constructor
  · rintro ⟨rfl, rfl, rfl, rfl⟩
    exact ⟨rfl, rfl, rfl, rfl⟩
  · rintro ⟨rfl, rfl, rfl, focus⟩
    exact ⟨rfl, rfl, rfl, (Option.some.inj focus).symm⟩

theorem emptied_fallback_iff (formed : WellFormed s) :
    s = emptiedFallback fallback ↔ BlankWorkspace s ∧ fallback.id = s.id ∧ fallback.name = s.name ∧
    fallback.layout.id = s.layout.id ∧ fallback.layout.mode = s.layout.mode ∧
    completeSurfaces [] fallback.layout = s.layout.surfaces := by
  constructor
  · intro same
    have layout : s.layout = normalizeLayout zeroLayout fallback.layout := by rw [same]; rfl
    obtain ⟨layoutID, mode, surfaces, focus⟩ := normalize_zero_layout.mp layout
    refine ⟨⟨?_, ?_, ?_, ?_, focus⟩, ?_, ?_, layoutID, mode, surfaces⟩
    all_goals rw [same]; rfl
  rintro ⟨blank, id, name, layoutID, mode, surfaces⟩
  have layout := normalize_zero_layout.mpr ⟨layoutID, mode, surfaces, blank.focus⟩
  have noWidgets := formed.no_widgets blank.tabs
  rcases formed.focus with ⟨_, noTab, noWidget⟩ | ⟨tab, mem, _⟩
  · have icon := blank.icon
    have color := blank.color
    have layouts := blank.layouts
    have active := formed.layouts.active
    unfold emptiedFallback
    cases s
    simp_all only
  · rw [blank.tabs] at mem
    cases mem

theorem surface_depth (surface : LayoutSurface) : Json.depth (encodeSurface surface) ≤ 1 := by
  simp [encodeSurface, depth, membersDepth]

theorem layout_depth (layout : Layout) : Json.depth (encodeLayout layout) ≤ 3 := by
  have surfaces : itemsDepth (layout.surfaces.map encodeSurface) ≤ 1 := by
    apply items_depth_le
    intro item mem
    obtain ⟨surface, _, rfl⟩ := mem_map.mp mem
    exact surface_depth surface
  simp only [encodeLayout, depth, membersDepth]
  omega

theorem blank_depth (formed : WellFormed s) (noTabs : s.tabs = []) :
    Json.depth (encodeSnapshot s) ≤ 5 := by
  have layouts : itemsDepth (s.layouts.map encodeLayout) ≤ 3 := by
    apply items_depth_le
    intro item mem
    obtain ⟨layout, _, rfl⟩ := mem_map.mp mem
    exact layout_depth layout
  have members : membersDepth (snapshotMembers s) ≤ 4 := by
    apply members_depth_le
    intro entry mem
    have layout := layout_depth s.layout
    simp only [snapshotMembers, mem_append, mem_cons, not_mem_nil, or_false]
      at mem
    rcases mem with (((rfl | rfl) | icon) | color) | rfl | rfl | rfl | rfl | rfl | rfl | rfl
    case inl.inl.inr => simp [mem_omit_empty icon, depth]
    case inl.inr => simp [mem_omit_empty color, depth]
    all_goals simp only [depth, noTabs, formed.no_widgets noTabs, map_nil,
      itemsDepth]
    all_goals omega
  simp only [encodeSnapshot, depth]
  omega

def LegacyFilesLoad (s fallback : Snapshot) : Prop :=
  loadSnapshot (.holds (encodeSnapshot s)) fallback = .ok s ∧
    loadCatalog (saveSnapshot s) fallback =
      .ok { activeWorkspaceID := s.id, workspaces := [s] } ∧
    loadCatalog (.holds (encodeSnapshot s)) fallback =
      .ok { activeWorkspaceID := s.id, workspaces := [s] }

theorem single_catalog_iff :
    ({ activeWorkspaceID := s.id, workspaces := [s] } : Catalog) = bootstrapCatalog fallback ↔
      normalizeSnapshot fallback bootstrapDefault = s := by
  unfold bootstrapCatalog
  constructor
  · intro same
    have workspaces := congrArg Catalog.workspaces same
    exact (singleton_inj.mp workspaces).symm
  · intro same
    rw [same]

/-- An older file loads as its workspace only where it does not matter: when the
workspace is blank and the fallback is that same workspace. -/
theorem legacy_files_load_iff {s : Snapshot} (normal : NormalSnapshot s) (fallback : Snapshot) :
    LegacyFilesLoad s fallback ↔ BlankWorkspace s ∧ StandsFor fallback s := by
  unfold LegacyFilesLoad saveSnapshot
  rw [load_plain_snapshot, load_catalog_zero (unmarshal_persisted_catalog_wrapped s),
    load_catalog_zero (unmarshal_persisted_catalog_plain s), single_catalog_iff,
    emptied_fallback_iff normal.wellFormed]
  constructor
  · rintro ⟨⟨_, blank, id, name, layoutID, mode, surfaces⟩, ⟨_, normalized⟩, _⟩
    exact ⟨blank, id, name, layoutID, mode, surfaces, normalized⟩
  rintro ⟨blank, standsFor⟩
  have plainDepth := blank_depth normal.wellFormed blank.tabs
  have plain : depth (encodeSnapshot s) ≤ maxNestingDepth :=
    plainDepth.trans (by decide)
  have wrapped : depth (encodePersistedSnapshot ⟨snapshotSchemaVersion, s⟩) ≤
      maxNestingDepth := by
    simp only [encodePersistedSnapshot, depth, membersDepth, maxNestingDepth]
    omega
  exact ⟨⟨plain, blank, standsFor.id, standsFor.name, standsFor.layoutID, standsFor.mode,
    standsFor.surfaces⟩, ⟨wrapped, standsFor.normalized⟩, plain, standsFor.normalized⟩

def legacyWorkspace : Snapshot := { bootstrapDefault with id := "ws-mine", name := "Mine" }

theorem legacy_workspace_normal : NormalSnapshot legacyWorkspace := by
  have wellFormed := default_well_formed
  exact ⟨⟨wellFormed.tabs, wellFormed.focus, wellFormed.layouts⟩, by decide, by decide,
    by decide, by decide⟩

/-- The file of a workspace in an older form loads as the fallback. -/
theorem legacy_workspace_lost :
    NormalSnapshot legacyWorkspace ∧
    loadSnapshot (.holds (encodeSnapshot legacyWorkspace)) bootstrapDefault =
      .ok (emptiedFallback bootstrapDefault) ∧
    loadCatalog (saveSnapshot legacyWorkspace) bootstrapDefault =
      .ok (bootstrapCatalog bootstrapDefault) ∧
    loadCatalog (.holds (encodeSnapshot legacyWorkspace)) bootstrapDefault =
      .ok (bootstrapCatalog bootstrapDefault) ∧
    ¬LegacyFilesLoad legacyWorkspace bootstrapDefault := by
  have plain : depth (encodeSnapshot legacyWorkspace) ≤ maxNestingDepth := by decide
  have wrapped : depth (encodePersistedSnapshot ⟨snapshotSchemaVersion, legacyWorkspace⟩) ≤
      maxNestingDepth := by decide
  refine ⟨legacy_workspace_normal, load_plain_snapshot.mpr ⟨plain, rfl⟩,
    (load_catalog_zero (unmarshal_persisted_catalog_wrapped _)).mpr ⟨wrapped, rfl⟩,
    (load_catalog_zero (unmarshal_persisted_catalog_plain _)).mpr ⟨plain, rfl⟩, ?_⟩
  rintro ⟨loaded, _⟩
  have same := congrArg Snapshot.id (load_plain_snapshot.mp loaded).2
  exact absurd same (by decide)

def blankWorkspace : Snapshot :=
  { bootstrapDefault with tabs := [], activeTabID := "", widgets := [], activeWidgetID := "" }

theorem blank_workspace_normal : NormalSnapshot blankWorkspace := by
  refine ⟨⟨⟨by decide, by decide, List.Perm.refl _, by decide, ?_⟩, .inl ⟨rfl, rfl, rfl⟩,
    default_well_formed.layouts⟩, by decide, by decide, by decide, by decide⟩
  intro tab mem
  cases mem

theorem legacy_files_load_blank : LegacyFilesLoad blankWorkspace blankWorkspace :=
  (legacy_files_load_iff blank_workspace_normal blankWorkspace).mpr
    ⟨⟨rfl, rfl, rfl, rfl, rfl⟩, ⟨rfl, rfl, rfl, rfl, rfl,
      normalize_snapshot_identity blank_workspace_normal bootstrapDefault⟩⟩

end Persistence

end RuneTerminal.Workspace
