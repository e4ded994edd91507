import RuneTerminal.PluginInstall.Store

/-! `core/app/plugin_catalog_runtime.go`, with every step that can fail. Three stores change one
after the other: the tool registry, the catalog and the plugin install root, whose entries are
directories. -/

namespace RuneTerminal.PluginInstall

open Go.Strings (trimSpace)
open Kit

structure PluginDefinition where
  tool : InstalledPluginTool
  pluginID : String
  protocolVersion : String
  capabilities : List String
  deriving DecidableEq

/-- What is registered under a name: a tool of the program, or one of a plugin. -/
inductive Registered where
  | builtin
  | plugin (definition : PluginDefinition)
  deriving DecidableEq

abbrev Registry := Table String Registered

def Registry.register (registry : Registry) (definition : PluginDefinition) :
    Except PluginError Registry :=
  if definition.tool.name = "" then .error .toolNameRequired
  else if (registry definition.tool.name).isSome then .error .toolRegistered
  else .ok (Table.insert registry definition.tool.name (.plugin definition))

def installedPluginDefinitions (record : InstalledPluginRecord) : List PluginDefinition :=
  record.tools.map fun tool =>
    { tool := tool
      pluginID := record.id
      protocolVersion := record.protocolVersion
      capabilities := record.capabilities }

def registerAll : Registry → List PluginDefinition → Registry × Option PluginError
  | registry, [] => (registry, none)
  | registry, definition :: rest =>
    match registry.register definition with
    | .error err => (registry, some err)
    | .ok registry => registerAll registry rest

def registerInstalledPlugin (registry : Registry) (record : InstalledPluginRecord) :
    Registry × Option PluginError :=
  let definitions := installedPluginDefinitions record
  match definitions.find? fun definition => (registry definition.tool.name).isSome with
  | some definition =>
    (registry, some (.invalidSpec
      ("tool " ++ definition.tool.name ++ " is already registered")))
  | none => registerAll registry definitions

def unregisterInstalledPlugin (registry : Registry) (record : InstalledPluginRecord) : Registry :=
  record.tools.foldl (fun registry tool => Table.erase registry tool.name) registry

abbrev Directory := List (String × String)

abbrev Roots := Table String Directory

structure World where
  catalog : PluginCatalog
  registry : Registry
  roots : Roots

/-- What an operation meets outside: the steps that fail, what the source holds, the random parts of
names, and what is there after a copy or a removal has failed. -/
structure Attempt where
  fails : Step → Bool := fun _ => false
  manifest : Manifest
  files : Directory := []
  random : String := ""
  copied : Directory := []
  remains : Directory := []
  now : Nat := 0

def removeAll (roots : Roots) (entry : String) (attempt : Attempt) (step : Step) : Roots :=
  if attempt.fails step then
    if (roots entry).isSome then Table.insert roots entry attempt.remains else roots
  else Table.erase roots entry

def rename (roots : Roots) (source target : String) : Option Roots :=
  match roots source, roots target with
  | some directory, none => some (Table.insert (Table.erase roots source) target directory)
  | _, _ => none

def renameStep (roots : Roots) (source target : String) (attempt : Attempt) (step : Step) :
    Except PluginError Roots :=
  if attempt.fails step then .error (.failed step)
  else
    match rename roots source target with
    | none => .error (.failed step)
    | some roots => .ok roots

def renameBack (roots : Roots) (source target : String) (attempt : Attempt) : Roots :=
  (renameStep roots source target attempt .moveBack).toOption.getD roots

def stagingName (id : String) (attempt : Attempt) : String := id ++ ".staging-" ++ attempt.random

def backupName (id : String) (attempt : Attempt) : String := id ++ ".backup-" ++ attempt.random

def deleteName (entry : String) (attempt : Attempt) : String :=
  entry ++ ".delete-" ++ attempt.random

/-- `MkdirTemp` fails when all names that it tries are taken. -/
def cannotMake (roots : Roots) (entry : String) (attempt : Attempt) (step : Step) : Bool :=
  attempt.fails step || (roots entry).isSome

/-- An entry is moved to a name of its own: a directory is made to find the name, and
removed again. -/
def moveAside (roots : Roots) (entry candidate : String) (attempt : Attempt) :
    Roots × Option PluginError :=
  if cannotMake roots candidate attempt .makeCandidate then
    (roots, some (.failed .makeCandidate))
  else if attempt.fails .removeCandidate then
    (Table.insert roots candidate [], some (.failed .removeCandidate))
  else
    match renameStep roots entry candidate attempt .moveAway with
    | .error err => (roots, some err)
    | .ok roots => (roots, none)

structure Environment where
  jsonValid : String → Bool
  configured : Bool := true

def firstFailure (attempt : Attempt) (steps : List Step) : Option Step :=
  steps.find? attempt.fails

/-- The record names the staging directory. An installation has no `existingID`. -/
def prepareInstalledPlugin (env : Environment) (w : World) (source : InstallSource)
    (attempt : Attempt) (existingID : String) : Roots × Except PluginError InstalledPluginRecord :=
  let fail (err : PluginError) : Roots × Except PluginError InstalledPluginRecord :=
    (w.roots, .error err)
  if !env.configured then fail .notConfigured
  else
    match firstFailure attempt [.makeInstallRoot, .makeStage, .fetchSource, .readManifest] with
    | some step => fail (.failed step)
    | none =>
      match manifestToInstalledPluginRecord env.jsonValid attempt.manifest source with
      | .error err => fail err
      | .ok record =>
        let staging := stagingName record.id attempt
        if attempt.fails .checkProcess then fail (.failed .checkProcess)
        else if existingID ≠ "" ∧ record.id ≠ trimSpace existingID then
          fail (.invalidSpec "plugin id changed during update")
        else if existingID = "" ∧ (w.catalog.get record.id).toOption.isSome then
          fail (.alreadyInstalled record.id)
        else if '/' ∈ record.id.toList ∨ cannotMake w.roots staging attempt .makeStagingRoot then
          fail (.failed .makeStagingRoot)
        else if attempt.fails .copyDirectory then
          (removeAll (Table.insert w.roots staging attempt.copied) staging attempt
            .removeStagingRoot, .error (.failed .copyDirectory))
        else
          (Table.insert w.roots staging attempt.files,
            .ok { record with installRoot := some staging })

/-- The staging directory takes the place of what is there under the plugin's name. -/
def promoteInstalledPlugin (roots : Roots) (record : InstalledPluginRecord) (attempt : Attempt) :
    Roots × Except PluginError InstalledPluginRecord :=
  let finalRoot := record.id
  if attempt.fails .removeFinalRoot then
    (removeAll roots finalRoot attempt .removeFinalRoot, .error (.failed .removeFinalRoot))
  else
    let roots := Table.erase roots finalRoot
    match renameStep roots (record.installRoot.getD "") finalRoot attempt .promote with
    | .error err => (roots, .error err)
    | .ok roots => (roots, .ok { record with installRoot := some finalRoot })

/-- The root of the plugin is moved aside, if there is one, and the staging directory takes
its place. -/
def swapInstalledPluginRoot (roots : Roots) (next : InstalledPluginRecord) (attempt : Attempt) :
    Roots × Except PluginError (Option String × InstalledPluginRecord) :=
  let finalRoot := next.id
  let staging := next.installRoot.getD ""
  let relocated := { next with installRoot := some finalRoot }
  if attempt.fails .statRoot then (roots, .error (.failed .statRoot))
  else if (roots finalRoot).isNone then
    match renameStep roots staging finalRoot attempt .promote with
    | .error err => (roots, .error err)
    | .ok roots => (roots, .ok (none, relocated))
  else
    let backup := backupName finalRoot attempt
    match moveAside roots finalRoot backup attempt with
    | (roots, some err) => (roots, .error err)
    | (roots, none) =>
      match renameStep roots staging finalRoot attempt .promote with
      | .error err => (renameBack roots backup finalRoot attempt, .error err)
      | .ok roots => (roots, .ok (some backup, relocated))

def restoreInstalledPluginRoot (roots : Roots) (existing next : InstalledPluginRecord)
    (backup : Option String) (attempt : Attempt) : Roots :=
  let nextRoot := next.installRoot.getD ""
  let removed := removeAll roots nextRoot attempt .removeNext
  if attempt.fails .removeNext then removed
  else
    match backup with
    | none => removed
    | some backup => renameBack removed backup existing.id attempt

def stageInstalledPluginRootRemoval (roots : Roots) (record : InstalledPluginRecord)
    (attempt : Attempt) : Roots × Except PluginError (Option String) :=
  match record.installRoot with
  | none => (roots, .ok none)
  | some entry =>
    if attempt.fails .statRoot then (roots, .error (.failed .statRoot))
    else if (roots entry).isNone then (roots, .ok none)
    else
      let candidate := deleteName entry attempt
      match moveAside roots entry candidate attempt with
      | (roots, some err) => (roots, .error err)
      | (roots, none) => (roots, .ok (some candidate))

def restoreStagedInstalledPluginRoot (roots : Roots) (installRoot removalRoot : Option String)
    (attempt : Attempt) : Roots :=
  match installRoot, removalRoot with
  | some entry, some candidate =>
    if (roots entry).isSome then roots else renameBack roots candidate entry attempt
  | _, _ => roots

abbrev Outcome := World × Except PluginError InstalledPluginRecord

/-- After a failed promotion the clean-up removes nothing: the variable that it reads has
been overwritten with the empty path. -/
def installPlugin (env : Environment) (w : World) (source : InstallSource) (attempt : Attempt) :
    Outcome :=
  match prepareInstalledPlugin env w source attempt "" with
  | (roots, .error err) => ({ w with roots := roots }, .error err)
  | (roots, .ok staged) =>
    match promoteInstalledPlugin roots staged attempt with
    | (roots, .error err) => ({ w with roots := roots }, .error err)
    | (roots, .ok record) =>
      let cleaned := removeAll roots record.id attempt .cleanup
      match registerInstalledPlugin w.registry record with
      | (registry, some err) => ({ w with registry := registry, roots := cleaned }, .error err)
      | (registry, none) =>
        let ready := { record with enabled := true, runtimeStatus := .ready, runtimeError := "" }
        match w.catalog.create ready attempt.now (attempt.fails .save) with
        | .error err =>
          ({ w with
              registry := unregisterInstalledPlugin registry record
              roots := cleaned }, .error err)
        | .ok (created, catalog) =>
          ({ catalog := catalog, registry := registry, roots := roots }, .ok created)

def setPluginEnabled (w : World) (id : String) (enabled : Bool) (attempt : Attempt) : Outcome :=
  match w.catalog.get id with
  | .error err => (w, .error err)
  | .ok record =>
    if enabled then
      match registerInstalledPlugin w.registry record with
      | (registry, some err) => ({ w with registry := registry }, .error err)
      | (registry, none) =>
        let ready := { record with enabled := true, runtimeStatus := .ready, runtimeError := "" }
        match w.catalog.replace ready attempt.now (attempt.fails .save) with
        | .error err =>
          ({ w with registry := unregisterInstalledPlugin registry record }, .error err)
        | .ok (updated, catalog) =>
          ({ w with catalog := catalog, registry := registry }, .ok updated)
    else
      let registry := unregisterInstalledPlugin w.registry record
      let disabled :=
        { record with enabled := false, runtimeStatus := .disabled, runtimeError := "" }
      match w.catalog.replace disabled attempt.now (attempt.fails .save) with
      | .error err =>
        if record.enabled then
          ({ w with registry := (registerInstalledPlugin registry record).1 }, .error err)
        else ({ w with registry := registry }, .error err)
      | .ok (updated, catalog) => ({ w with catalog := catalog, registry := registry }, .ok updated)

/-- The last part of an update, which takes everything back when the catalog can not be
saved. -/
def commitUpdate (w : World) (existing next : InstalledPluginRecord) (backup : Option String)
    (attempt : Attempt) : Outcome :=
  match w.catalog.replace next attempt.now (attempt.fails .save) with
  | .error err =>
    let roots := restoreInstalledPluginRoot w.roots existing next backup attempt
    if next.enabled then
      let registry := unregisterInstalledPlugin w.registry next
      ({ w with
          registry := (registerInstalledPlugin registry existing).1
          roots := roots }, .error err)
    else ({ w with roots := roots }, .error err)
  | .ok (updated, catalog) =>
    ({ w with
        catalog := catalog
        roots := backup.elim w.roots fun entry =>
          removeAll w.roots entry attempt .removeBackup }, .ok updated)

def cleanOnFailure (staging : String) (attempt : Attempt) (outcome : Outcome) : Outcome :=
  match outcome with
  | (w, .error err) =>
    ({ w with roots := removeAll w.roots staging attempt .cleanup }, .error err)
  | (w, .ok record) => (w, .ok record)

def updateTools (w : World) (existing next : InstalledPluginRecord) (backup : Option String)
    (attempt : Attempt) : Outcome :=
  if existing.enabled then
    match registerInstalledPlugin (unregisterInstalledPlugin w.registry existing) next with
    | (registry, some err) =>
      ({ w with
          registry := (registerInstalledPlugin registry existing).1
          roots := restoreInstalledPluginRoot w.roots existing next backup attempt }, .error err)
    | (registry, none) =>
      let ready := { next with enabled := true, runtimeStatus := .ready, runtimeError := "" }
      commitUpdate { w with registry := registry } existing ready backup attempt
  else
    let disabled :=
      { next with enabled := false, runtimeStatus := .disabled, runtimeError := "" }
    commitUpdate w existing disabled backup attempt

def updateInstalledPlugin (env : Environment) (w : World) (id : String) (attempt : Attempt) :
    Outcome :=
  match w.catalog.get id with
  | .error err => (w, .error err)
  | .ok existing =>
    match prepareInstalledPlugin env w existing.source attempt existing.id with
    | (roots, .error err) => ({ w with roots := roots }, .error err)
    | (roots, .ok staged) =>
      cleanOnFailure (staged.installRoot.getD "") attempt
        (match swapInstalledPluginRoot roots staged attempt with
          | (roots, .error err) => ({ w with roots := roots }, .error err)
          | (roots, .ok (backup, next)) =>
            updateTools { w with roots := roots } existing next backup attempt)

def registeredAgain (registry : Registry) (record : InstalledPluginRecord) : Registry :=
  if record.enabled then (registerInstalledPlugin registry record).1 else registry

def deleteInstalledPlugin (w : World) (id : String) (attempt : Attempt) : Outcome :=
  match w.catalog.get id with
  | .error err => (w, .error err)
  | .ok record =>
    let registry := unregisterInstalledPlugin w.registry record
    match stageInstalledPluginRootRemoval w.roots record attempt with
    | (roots, .error err) =>
      ({ w with registry := registeredAgain registry record, roots := roots }, .error err)
    | (roots, .ok removalRoot) =>
      match w.catalog.delete id (attempt.fails .save) with
      | .error err =>
        ({ w with
            registry := registeredAgain registry record
            roots := restoreStagedInstalledPluginRoot roots record.installRoot removalRoot
              attempt }, .error err)
      | .ok (removed, catalog) =>
        ({ catalog := catalog
           registry := registry
           roots := removalRoot.elim roots fun entry =>
             removeAll roots entry attempt .removeBackup }, .ok removed)

/-- The start of the program: the enabled plugins are registered one after the other, and one that
can not be is disabled. `saveFails` is whether the catalog can not be written then. -/
def syncPlugins (saveFails : String → Bool) (now : Nat) :
    PluginCatalog × Registry → List InstalledPluginRecord →
      Except PluginError (PluginCatalog × Registry)
  | state, [] => .ok state
  | (catalog, registry), record :: rest =>
    if !record.enabled then syncPlugins saveFails now (catalog, registry) rest
    else
      match registerInstalledPlugin registry record with
      | (registry, some err) =>
        let refused :=
          { record with
            runtimeStatus := .validationError, runtimeError := err.text, enabled := false }
        match catalog.replace refused now (saveFails record.id) with
        | .error err => .error err
        | .ok (_, catalog) => syncPlugins saveFails now (catalog, registry) rest
      | (registry, none) =>
        let ready := { record with runtimeStatus := .ready, runtimeError := "" }
        match catalog.replace ready now (saveFails record.id) with
        | .error err => .error err
        | .ok (_, catalog) => syncPlugins saveFails now (catalog, registry) rest

def syncInstalledPlugins (catalog : PluginCatalog) (registry : Registry)
    (saveFails : String → Bool) (now : Nat) : Except PluginError (PluginCatalog × Registry) :=
  syncPlugins saveFails now (catalog, registry) (catalog.plugins.map InstalledPluginRecord.clone)

inductive Operation where
  | installPlugin (source : InstallSource)
  | setPluginEnabled (id : String) (enabled : Bool)
  | updateInstalledPlugin (id : String)
  | deleteInstalledPlugin (id : String)

def perform (env : Environment) (w : World) (attempt : Attempt) : Operation → Outcome
  | .installPlugin source => installPlugin env w source attempt
  | .setPluginEnabled id enabled => setPluginEnabled w id enabled attempt
  | .updateInstalledPlugin id => updateInstalledPlugin env w id attempt
  | .deleteInstalledPlugin id => deleteInstalledPlugin w id attempt

end RuneTerminal.PluginInstall
