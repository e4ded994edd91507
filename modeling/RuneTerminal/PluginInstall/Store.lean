import Mathlib.Data.List.Sort
import RuneTerminal.ToolRuntime.Executor

/-! The store of `core/app/plugin_catalog_store.go`. A change makes a new list, writes it to the
file and only then takes it over. -/

namespace RuneTerminal.PluginInstall

open Go.Strings (trimSpace)
open Kit List
open Policy (ApprovalTier)
open ToolRuntime (TargetKind)
open List

/-- What an operation asks of the file system and of the network. Those that follow on a
failure, and those whose failure is ignored, have `compensates`. -/
inductive Step where
  | makeInstallRoot
  | makeStage
  | fetchSource
  | readManifest
  | checkProcess
  | makeStagingRoot
  | copyDirectory
  | removeStagingRoot
  | removeFinalRoot
  | promote
  | statRoot
  | makeCandidate
  | removeCandidate
  | moveAway
  | save
  | cleanup
  | moveBack
  | removeNext
  | removeBackup
  deriving DecidableEq, Repr

def Step.compensates : Step → Bool
  | .removeStagingRoot | .cleanup | .moveBack | .removeNext | .removeBackup => true
  | _ => false

inductive PluginError where
  | notConfigured
  | notFound (id : String)
  | alreadyInstalled (id : String)
  | invalidSpec (reason : String)
  | toolNameRequired
  | toolRegistered
  | restoreTargetExists
  | failed (step : Step)

def PluginError.text : PluginError → String
  | .notConfigured => "plugin catalog is not configured"
  | .notFound id => "plugin is not installed: " ++ id
  | .alreadyInstalled id => "plugin is already installed: " ++ id
  | .invalidSpec reason => "invalid plugin specification: " ++ reason
  | .toolNameRequired => "tool name is required"
  | .toolRegistered => "tool already registered"
  | .restoreTargetExists =>
    "failed to spawn plugin process: install root already exists during restore"
  | .failed step => reprStr step

def nonblank (text : String) : Option String :=
  if trimSpace text = "" then none else some (trimSpace text)

def normalizeCapabilities (capabilities : List String) : List String :=
  capabilities.foldl (collectClean nonblank) []

theorem capabilities_idempotent (capabilities : List String) :
    normalizeCapabilities (normalizeCapabilities capabilities) =
      normalizeCapabilities capabilities := by
  apply foldl_collect_self
  · intro capability mem
    rcases mem_foldl_collect.mp mem with absurdMember | ⟨raw, _, cleaned⟩
    · cases absurdMember
    unfold nonblank at cleaned ⊢
    split_ifs at cleaned with blank
    cases cleaned
    rw [Go.Strings.trim_space_twice, if_neg blank]
  · exact nodup_foldl_collect nonblank capabilities nodup_nil

structure InstalledPluginTool where
  name : String
  description : String
  inputSchema : String
  outputSchema : String
  capabilities : List String
  approvalTier : ApprovalTier
  mutating : Bool
  targetKind : TargetKind
  deriving DecidableEq

/-- The tools of a plugin have different names, which are not blank, and their texts
carry no outer blanks. -/
structure ProperTools (tools : List InstalledPluginTool) : Prop where
  distinct : (tools.map InstalledPluginTool.name).Nodup
  named : ∀ tool ∈ tools, tool.name ≠ ""
  trimmed : ∀ tool ∈ tools,
    trimSpace tool.name = tool.name ∧ trimSpace tool.description = tool.description

inductive RuntimeStatus where
  | disabled
  | ready
  | validationError

structure InstallSource where
  kind : String
  url : String
  ref : String := ""

/-- `installRoot` is the entry of the plugin install root that holds the plugin. -/
structure InstalledPluginRecord where
  id : String
  named : id ≠ ""
  clean : trimSpace id = id
  displayName : String
  description : String
  pluginVersion : String
  protocolVersion : String
  capabilities : List String
  normal : normalizeCapabilities capabilities = capabilities
  tools : List InstalledPluginTool
  proper : ProperTools tools
  source : InstallSource
  enabled : Bool
  runtimeStatus : RuntimeStatus
  runtimeError : String := ""
  installRoot : Option String := none
  createdAt : Nat := 0
  updatedAt : Nat := 0

structure ManifestTool where
  name : String
  description : String := ""
  inputSchema : String := ""
  outputSchema : String := ""
  capabilities : List String := []
  approvalTier : String := ""
  mutating : Bool := false
  targetKind : String := ""

structure Manifest where
  pluginID : String
  displayName : String := ""
  description : String := ""
  pluginVersion : String
  protocolVersion : String
  capabilities : List String := []
  command : String
  tools : List ManifestTool

def anyObjectSchema : String :=
  "\x7b\"type\":\"object\",\"additionalProperties\":true\x7d"

def schemaOrAny (schema : String) : String :=
  if trimSpace schema = "" then anyObjectSchema else schema

def toTargetKind (raw : String) : Option TargetKind :=
  let text := trimSpace raw
  if text = "" then some .workspace
  else if text = "workspace" then some .workspace
  else if text = "widget" then some .widget
  else if text = "policy" then some .policy
  else none

def toApprovalTier (raw : String) : Option ApprovalTier :=
  let text := trimSpace raw
  if text = "" then some .safe
  else if text = "safe" then some .safe
  else if text = "moderate" then some .moderate
  else if text = "dangerous" then some .dangerous
  else if text = "destructive" then some .destructive
  else none

def readTool (jsonValid : String → Bool) (capabilities : List String) (name : String)
    (raw : ManifestTool) : Except PluginError InstalledPluginTool :=
  let inputSchema := schemaOrAny raw.inputSchema
  let outputSchema := schemaOrAny raw.outputSchema
  let toolCapabilities := normalizeCapabilities raw.capabilities
  if !jsonValid inputSchema || !jsonValid outputSchema then
    .error (.invalidSpec "tool schemas must be valid JSON")
  else
    match toTargetKind raw.targetKind, toApprovalTier raw.approvalTier with
    | none, _ => .error (.invalidSpec "unsupported tool target kind")
    | _, none => .error (.invalidSpec "unsupported approval tier")
    | some targetKind, some approvalTier =>
      match toolCapabilities.find? fun capability =>
          !capabilities.isEmpty && !capabilities.contains capability with
      | some capability =>
        .error (.invalidSpec
          ("tool capability " ++ capability ++ " is outside plugin capability allow-list"))
      | none =>
        .ok
          { name := name
            description := trimSpace raw.description
            inputSchema := inputSchema
            outputSchema := outputSchema
            capabilities := toolCapabilities
            approvalTier := approvalTier
            mutating := raw.mutating
            targetKind := targetKind }

def readTools (jsonValid : String → Bool) (capabilities : List String) :
    List String → List ManifestTool → Except PluginError (List InstalledPluginTool)
  | _, [] => .ok []
  | seen, raw :: rest =>
    let name := trimSpace raw.name
    if name = "" then .error (.invalidSpec "tool.name is required")
    else if name ∈ seen then .error (.invalidSpec ("duplicate tool name " ++ name))
    else
      match readTool jsonValid capabilities name raw with
      | .error err => .error err
      | .ok tool => (readTools jsonValid capabilities (name :: seen) rest).map (tool :: ·)

variable {jsonValid : String → Bool} {capabilities : List String}

theorem read_tool_spec {name : String} {raw : ManifestTool} {tool : InstalledPluginTool}
    (read : readTool jsonValid capabilities name raw = .ok tool) :
    tool.name = name ∧ tool.description = trimSpace raw.description := by
  unfold readTool at read
  dsimp only at read
  split at read
  · cases read
  split at read
  · cases read
  · cases read
  split at read
  · cases read
  · cases read
    exact ⟨rfl, rfl⟩

variable {tools : List InstalledPluginTool}

theorem read_tools_proper {seen : List String} {raws : List ManifestTool}
    (read : readTools jsonValid capabilities seen raws = .ok tools) :
    ProperTools tools ∧ ∀ tool ∈ tools, tool.name ∉ seen := by
  induction raws generalizing seen tools with
  | nil =>
    cases read
    exact ⟨⟨nodup_nil, nofun, nofun⟩, nofun⟩
  | cons raw rest ih =>
    rw [readTools] at read
    split at read
    · cases read
    next named =>
      split at read
      · cases read
      next fresh =>
        split at read
        · cases read
        next tool isTool =>
          rcases read_tool_spec isTool with ⟨isName, isDescription⟩
          cases others : readTools jsonValid capabilities (trimSpace raw.name :: seen) rest with
          | error err =>
            rw [others] at read
            cases read
          | ok later =>
            rw [others] at read
            cases read
            rcases ih others with ⟨proper, unseen⟩
            refine ⟨⟨?_, ?_, ?_⟩, ?_⟩
            · rw [map_cons, nodup_cons]
              refine ⟨?_, proper.distinct⟩
              intro repeated
              rcases mem_map.mp repeated with ⟨other, mem, same⟩
              apply unseen other mem
              rw [same, isName]
              exact mem_cons_self
            · intro other mem
              rcases mem_cons.mp mem with rfl | isLater
              · rw [isName]
                exact named
              · exact proper.named other isLater
            · intro other mem
              rcases mem_cons.mp mem with rfl | isLater
              · rw [isName, isDescription]
                exact ⟨Go.Strings.trim_space_twice _,
                  Go.Strings.trim_space_twice _⟩
              · exact proper.trimmed other isLater
            · intro other mem
              rcases mem_cons.mp mem with rfl | isLater
              · rw [isName]
                exact fresh
              · intro wasSeen
                exact unseen other isLater (mem_cons_of_mem _ wasSeen)

def firstNonEmpty (first second : String) : String :=
  if trimSpace first ≠ "" then first else if trimSpace second ≠ "" then second else ""

def protocolVersionV1 : String := "rterm.plugin.v1"

def manifestToInstalledPluginRecord (jsonValid : String → Bool) (manifest : Manifest)
    (source : InstallSource) : Except PluginError InstalledPluginRecord :=
  let id := trimSpace manifest.pluginID
  let capabilities := normalizeCapabilities manifest.capabilities
  if unnamed : id = "" then .error (.invalidSpec "plugin_id is required")
  else if id ≠ Go.Filepath.base id || id = "." || id = ".." then
    .error (.invalidSpec "plugin_id must not contain path separators")
  else if trimSpace manifest.pluginVersion = "" then
    .error (.invalidSpec "plugin_version is required")
  else if trimSpace manifest.protocolVersion ≠ protocolVersionV1 then
    .error (.invalidSpec "unsupported protocol_version")
  else if trimSpace manifest.command = "" then
    .error (.invalidSpec "process.command is required")
  else if manifest.tools = [] then .error (.invalidSpec "at least one tool is required")
  else
    match read : readTools jsonValid capabilities [] manifest.tools with
    | .error err => .error err
    | .ok tools =>
      .ok
        { id := id
          named := unnamed
          clean := Go.Strings.trim_space_twice _
          displayName := trimSpace (firstNonEmpty manifest.displayName id)
          description := trimSpace manifest.description
          pluginVersion := trimSpace manifest.pluginVersion
          protocolVersion := protocolVersionV1
          capabilities := capabilities
          normal := capabilities_idempotent _
          tools := tools
          proper := (read_tools_proper read).1
          source :=
            { kind := source.kind, url := trimSpace source.url, ref := trimSpace source.ref }
          enabled := true
          runtimeStatus := .ready }

/-- The plugins of a catalog have different identifiers. -/
structure PluginCatalog where
  plugins : List InstalledPluginRecord
  distinct : (plugins.map InstalledPluginRecord.id).Nodup

def PluginCatalog.empty : PluginCatalog := ⟨[], List.nodup_nil⟩

def cloneInstalledPluginTools (tools : List InstalledPluginTool) : List InstalledPluginTool :=
  tools.map fun tool =>
    { tool with name := trimSpace tool.name, description := trimSpace tool.description }

theorem clone_plugin_tools (proper : ProperTools tools) :
    cloneInstalledPluginTools tools = tools := by
  have same : ∀ tool ∈ tools,
      { tool with name := trimSpace tool.name, description := trimSpace tool.description } =
        id tool := by
    intro tool mem
    rw [(proper.trimmed tool mem).1, (proper.trimmed tool mem).2]
    rfl
  rw [cloneInstalledPluginTools, map_congr_left same, map_id]

def InstalledPluginRecord.clone (record : InstalledPluginRecord) : InstalledPluginRecord :=
  { record with
    tools := cloneInstalledPluginTools record.tools
    proper := (clone_plugin_tools record.proper).symm ▸ record.proper }

@[simp]
theorem clone_record (record : InstalledPluginRecord) : record.clone = record := by
  have same := clone_plugin_tools record.proper
  unfold InstalledPluginRecord.clone
  cases record
  congr

def InstalledPluginRecord.stored (record : InstalledPluginRecord) (createdAt updatedAt : Nat) :
    InstalledPluginRecord :=
  { record.clone with
    capabilities := normalizeCapabilities record.capabilities
    normal := capabilities_idempotent _
    runtimeError := trimSpace record.runtimeError
    createdAt := createdAt
    updatedAt := updatedAt }

section

variable (record : InstalledPluginRecord) (createdAt updatedAt : Nat)

@[simp]
theorem stored_id : (record.stored createdAt updatedAt).id = record.id := rfl

@[simp]
theorem stored_tools : (record.stored createdAt updatedAt).tools = record.tools :=
  clone_plugin_tools record.proper

@[simp]
theorem stored_capabilities :
    (record.stored createdAt updatedAt).capabilities = record.capabilities := record.normal

end

def shownName (record : InstalledPluginRecord) : String :=
  let name := trimSpace record.displayName
  if name = "" then record.id else name

/-- `compareInstalledPluginRecords` finds the first not after the second. -/
def NotAfter (left right : InstalledPluginRecord) : Prop :=
  shownName left < shownName right ∨ shownName left = shownName right ∧ left.id ≤ right.id

instance : DecidableRel NotAfter := fun left right =>
  inferInstanceAs (Decidable (shownName left < shownName right ∨
    shownName left = shownName right ∧ left.id ≤ right.id))

def sortPlugins (plugins : List InstalledPluginRecord) : List InstalledPluginRecord :=
  plugins.insertionSort NotAfter

variable {plugins : List InstalledPluginRecord}

theorem mem_sort_plugins {record : InstalledPluginRecord} :
    record ∈ sortPlugins plugins ↔ record ∈ plugins :=
  mem_insertionSort NotAfter

theorem distinct_sort_plugins (nodup : (plugins.map InstalledPluginRecord.id).Nodup) :
    ((sortPlugins plugins).map InstalledPluginRecord.id).Nodup :=
  ((perm_insertionSort NotAfter plugins).map _).nodup_iff.mpr nodup

namespace PluginCatalog

def pluginByID (catalog : PluginCatalog) (id : String) : Option InstalledPluginRecord :=
  catalog.plugins.find? fun record => record.id == trimSpace id

def pluginIndexByID (catalog : PluginCatalog) (id : String) : Option Nat :=
  catalog.plugins.findIdx? fun record => record.id == trimSpace id

def get (catalog : PluginCatalog) (id : String) : Except PluginError InstalledPluginRecord :=
  match catalog.pluginByID id with
  | none => .error (.notFound (trimSpace id))
  | some record => .ok record.clone

variable {catalog : PluginCatalog} {id : String}

theorem distinct_append {record : InstalledPluginRecord} (absent : catalog.pluginByID id = none)
    (same : record.id = id) :
    ((catalog.plugins ++ [record]).map InstalledPluginRecord.id).Nodup := by
  rw [map_append, nodup_append]
  refine ⟨catalog.distinct, nodup_singleton _, ?_⟩
  intro first mem second isNew equal
  rcases mem_map.mp mem with ⟨found, isPlugin, rfl⟩
  rw [map_singleton, mem_singleton] at isNew
  have unequal := find?_eq_none.mp absent found isPlugin
  rw [← same, record.clean] at unequal
  exact unequal (beq_iff_eq.mpr (equal.trans isNew))

section

variable {index : Nat} (found : catalog.pluginIndexByID id = some index)
include found

theorem split_at_index : ∃ before existing after, catalog.plugins = before ++ existing :: after ∧
    before.length = index ∧ existing.id = trimSpace id := by
  rcases split_at_find_idx found with ⟨before, existing, after, whole, size, same⟩
  exact ⟨before, existing, after, whole, size, beq_iff_eq.mp same⟩

theorem distinct_set {record : InstalledPluginRecord} (same : record.id = id) :
    ((catalog.plugins.set index record).map InstalledPluginRecord.id).Nodup := by
  rcases split_at_index found with ⟨before, existing, after, whole, rfl, isID⟩
  have distinct := catalog.distinct
  rw [whole] at distinct ⊢
  rw [set_at_split]
  rw [← same, record.clean] at isID
  rw [map_append, map_cons] at distinct ⊢
  rw [← isID]
  exact distinct

end

theorem distinct_erase (catalog : PluginCatalog) (index : Nat) :
    ((catalog.plugins.eraseIdx index).map InstalledPluginRecord.id).Nodup :=
  catalog.distinct.sublist ((eraseIdx_sublist _ _).map _)

/-- `saveFails` is whether the file can not be written. -/
def create (catalog : PluginCatalog) (record : InstalledPluginRecord) (now : Nat)
    (saveFails : Bool) : Except PluginError (InstalledPluginRecord × PluginCatalog) :=
  let created := record.stored now now
  if absent : catalog.pluginByID record.id = none then
    if saveFails then .error (.failed .save)
    else
      .ok (created, ⟨sortPlugins (catalog.plugins ++ [created]),
        distinct_sort_plugins (distinct_append absent (stored_id record now now))⟩)
  else .error (.alreadyInstalled record.id)

def replace (catalog : PluginCatalog) (record : InstalledPluginRecord) (now : Nat)
    (saveFails : Bool) : Except PluginError (InstalledPluginRecord × PluginCatalog) :=
  match found : catalog.pluginIndexByID record.id with
  | none => .error (.notFound (trimSpace record.id))
  | some index =>
    let createdAt := (catalog.plugins[index]?.map InstalledPluginRecord.createdAt).getD 0
    let updated := record.stored createdAt now
    if saveFails then .error (.failed .save)
    else
      .ok (updated, ⟨sortPlugins (catalog.plugins.set index updated),
        distinct_sort_plugins (distinct_set found (stored_id record createdAt now))⟩)

def delete (catalog : PluginCatalog) (id : String) (saveFails : Bool) :
    Except PluginError (InstalledPluginRecord × PluginCatalog) :=
  match catalog.pluginIndexByID id with
  | none => .error (.notFound (trimSpace id))
  | some index =>
    match catalog.plugins[index]? with
    | none => .error (.notFound (trimSpace id))
    | some removed =>
      if saveFails then .error (.failed .save)
      else .ok (removed.clone, ⟨catalog.plugins.eraseIdx index, catalog.distinct_erase index⟩)

section

variable {next : PluginCatalog} {record result : InstalledPluginRecord} {now : Nat}
  {saveFails : Bool}

theorem plugin_by_id_eq_some_iff :
    catalog.pluginByID id = some record ↔ record ∈ catalog.plugins ∧ record.id = trimSpace id :=
  find_key_eq_some_iff InstalledPluginRecord.id catalog.distinct

theorem get_eq_ok_iff :
    catalog.get id = .ok record ↔ record ∈ catalog.plugins ∧ record.id = trimSpace id := by
  rw [← plugin_by_id_eq_some_iff, get]
  cases catalog.pluginByID id with
  | none => exact ⟨nofun, nofun⟩
  | some found =>
    dsimp only
    rw [clone_record]
    exact ⟨fun same => congrArg some (Except.ok.inj same),
      fun same => congrArg Except.ok (Option.some.inj same)⟩

theorem eq_of_id (mem : record ∈ catalog.plugins) (other : result ∈ catalog.plugins)
    (same : record.id = result.id) : record = result :=
  inj_on_of_nodup_map catalog.distinct mem other same

theorem create_eq_ok (created : catalog.create record now saveFails = .ok (result, next)) :
    result = record.stored now now ∧ (∀ other ∈ catalog.plugins, other.id ≠ record.id) ∧
    ∀ other, other ∈ next.plugins ↔ other = result ∨ other ∈ catalog.plugins := by
  unfold create at created
  dsimp only at created
  split_ifs at created with absent fails
  cases created
  refine ⟨rfl, ?_, ?_⟩
  · intro other mem same
    have unequal := find?_eq_none.mp absent other mem
    rw [record.clean] at unequal
    exact unequal (beq_iff_eq.mpr same)
  · intro other
    rw [mem_sort_plugins, mem_append, mem_singleton, or_comm]

theorem replace_eq_ok (replaced : catalog.replace record now saveFails = .ok (result, next)) :
    (∃ createdAt, result = record.stored createdAt now) ∧ ∀ other, other ∈ next.plugins ↔
    other = result ∨ other ∈ catalog.plugins ∧ other.id ≠ record.id := by
  unfold replace at replaced
  split at replaced
  · cases replaced
  next index found =>
    dsimp only at replaced
    split_ifs at replaced with fails
    cases replaced
    refine ⟨⟨_, rfl⟩, ?_⟩
    intro other
    rcases split_at_index found with ⟨before, existing, after, whole, rfl, same⟩
    have distinct := catalog.distinct
    rw [whole] at distinct
    rw [record.clean] at same
    have others := @mem_others_iff _ _ InstalledPluginRecord.id _ _ _ other distinct
    rw [same] at others
    rw [mem_sort_plugins, whole, set_at_split, ← others, mem_append, mem_cons,
      mem_append, or_left_comm]

theorem delete_eq_ok (deleted : catalog.delete id saveFails = .ok (result, next)) :
    (result ∈ catalog.plugins ∧ result.id = trimSpace id) ∧ ∀ other, other ∈ next.plugins ↔
    other ∈ catalog.plugins ∧ other.id ≠ result.id := by
  unfold delete at deleted
  split at deleted
  · cases deleted
  next index found =>
    split at deleted
    · cases deleted
    next removed isRemoved =>
      split_ifs at deleted with fails
      cases deleted
      rcases split_at_index found with ⟨before, existing, after, whole, rfl, same⟩
      have isExisting : existing = removed := by
        rw [whole, get_at_split] at isRemoved
        exact Option.some.inj isRemoved
      subst isExisting
      have distinct := catalog.distinct
      rw [whole] at distinct
      rw [clone_record]
      refine ⟨⟨whole ▸ mem_append_right before mem_cons_self, same⟩, ?_⟩
      intro other
      change other ∈ catalog.plugins.eraseIdx before.length ↔ _
      rw [whole, ← mem_others_iff InstalledPluginRecord.id distinct, erase_idx_at_split]

end

end PluginCatalog

end RuneTerminal.PluginInstall
