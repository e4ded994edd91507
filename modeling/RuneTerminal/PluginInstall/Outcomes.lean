import RuneTerminal.PluginInstall.Operations

/-! What each operation has done to the catalog, the registry and the install root when it returns,
with the points at which it can have failed. -/

namespace RuneTerminal.PluginInstall

open Go.Strings (trimSpace)
open Kit List Table

section

variable {registry next : Registry} {record : InstalledPluginRecord} {name : String}

def Declares (record : InstalledPluginRecord) (name : String) (definition : PluginDefinition) :
    Prop :=
  definition ∈ installedPluginDefinitions record ∧ definition.tool.name = name

def ToolNames (record : InstalledPluginRecord) (name : String) : Prop :=
  ∃ tool ∈ record.tools, tool.name = name

theorem declares_iff {definition : PluginDefinition} :
    Declares record name definition ↔ definition.tool ∈ record.tools ∧ definition.tool.name = name ∧
    definition.pluginID = record.id ∧ definition.protocolVersion = record.protocolVersion ∧
    definition.capabilities = record.capabilities := by
  unfold Declares installedPluginDefinitions
  rw [mem_map]
  constructor
  · rintro ⟨⟨tool, mem, rfl⟩, same⟩
    exact ⟨mem, same, rfl, rfl, rfl⟩
  · rintro ⟨mem, same, isID, isVersion, isCapabilities⟩
    refine ⟨⟨definition.tool, mem, ?_⟩, same⟩
    rw [← isID, ← isVersion, ← isCapabilities]

theorem tool_names_iff : ToolNames record name ↔ ∃ definition, Declares record name definition := by
  constructor
  · rintro ⟨tool, mem, same⟩
    exact ⟨_, mem_map_of_mem mem, same⟩
  · rintro ⟨definition, declares⟩
    have parts := declares_iff.mp declares
    exact ⟨definition.tool, parts.1, parts.2.1⟩

theorem declares_unique {first second : PluginDefinition} (isFirst : Declares record name first)
    (isSecond : Declares record name second) : first = second := by
  have one := declares_iff.mp isFirst
  have other := declares_iff.mp isSecond
  have sameTool : first.tool = second.tool :=
    inj_on_of_nodup_map record.proper.distinct one.1 other.1 (one.2.1.trans other.2.1.symm)
  cases first
  cases second
  simp_all

theorem foldl_erase (tools : List InstalledPluginTool) (registry : Registry) (name : String) :
    tools.foldl (fun registry tool => Table.erase registry tool.name) registry name = if ∃ tool ∈
    tools, tool.name = name then none else registry name := by
  induction tools generalizing registry with
  | nil => simp
  | cons tool rest ih =>
    rw [foldl_cons, ih]
    by_cases same : name = tool.name
    · subst same
      simp
    · have ne : tool.name ≠ name := Ne.symm same
      simp [erase_of_ne same, ne]

theorem unregister_of_name (isName : ToolNames record name) :
    unregisterInstalledPlugin registry record name = none := by
  rw [unregisterInstalledPlugin, foldl_erase]
  exact if_pos isName

theorem unregister_of_other (other : ¬ ToolNames record name) :
    unregisterInstalledPlugin registry record name = registry name := by
  rw [unregisterInstalledPlugin, foldl_erase]
  exact if_neg other

structure Registers (record : InstalledPluginRecord) (registry next : Registry) : Prop where
  free : ∀ name, ToolNames record name → registry name = none
  declared : ∀ name definition, Declares record name definition →
    next name = some (.plugin definition)
  others : ∀ name, ¬ ToolNames record name → next name = registry name

theorem register_all_free {definitions : List PluginDefinition}
    (nodup : (definitions.map fun definition => definition.tool.name).Nodup)
    (named : ∀ definition ∈ definitions, definition.tool.name ≠ "")
    (free : ∀ definition ∈ definitions, registry definition.tool.name = none) :
    ∃ next, registerAll registry definitions = (next, none) ∧
      (∀ definition ∈ definitions, next definition.tool.name = some (.plugin definition)) ∧
      ∀ name, (∀ definition ∈ definitions, definition.tool.name ≠ name) →
        next name = registry name := by
  induction definitions generalizing registry with
  | nil => exact ⟨registry, rfl, nofun, fun _ _ => rfl⟩
  | cons definition rest ih =>
    rw [map_cons, nodup_cons] at nodup
    have unequal : ∀ other ∈ rest, other.tool.name ≠ definition.tool.name := by
      intro other mem same
      exact nodup.1 (same ▸ mem_map_of_mem mem)
    have registered : registry.register definition =
        .ok (insert registry definition.tool.name (.plugin definition)) := by
      unfold Registry.register
      rw [if_neg (named definition mem_cons_self), free definition mem_cons_self]
      rfl
    have freeAfter : ∀ other ∈ rest,
        insert registry definition.tool.name (.plugin definition) other.tool.name =
          none := by
      intro other mem
      rw [insert_of_ne (unequal other mem)]
      exact free other (mem_cons_of_mem _ mem)
    rcases ih nodup.2 (fun other mem => named other (mem_cons_of_mem _ mem))
      freeAfter with ⟨next, done, declared, others⟩
    refine ⟨next, ?_, ?_, ?_⟩
    · rw [registerAll, registered]
      exact done
    · intro other mem
      rcases mem_cons.mp mem with rfl | isLater
      · rw [others _ unequal]
        exact insert_self _ _ _
      · exact declared other isLater
    · intro name ne
      rw [others name fun other mem => ne other (mem_cons_of_mem _ mem)]
      exact insert_of_ne (Ne.symm (ne definition mem_cons_self)) _

theorem register_cases (registry : Registry) (record : InstalledPluginRecord) :
    (∃ err, registerInstalledPlugin registry record = (registry, some err) ∧
      ∃ name, ToolNames record name ∧ (registry name).isSome = true) ∨
    ∃ next, registerInstalledPlugin registry record = (next, none) ∧
      Registers record registry next := by
  unfold registerInstalledPlugin
  dsimp only
  split
  next definition found =>
    left
    have member := mem_of_find?_eq_some found
    have isTaken := find?_some found
    exact ⟨_, rfl, definition.tool.name, tool_names_iff.mpr ⟨definition, member, rfl⟩, isTaken⟩
  next found =>
    right
    have free : ∀ definition ∈ installedPluginDefinitions record,
        registry definition.tool.name = none := by
      intro definition member
      have notTaken := find?_eq_none.mp found definition member
      exact Option.not_isSome_iff_eq_none.mp notTaken
    have names : (installedPluginDefinitions record).map (fun definition =>
        definition.tool.name) = record.tools.map InstalledPluginTool.name := by
      rw [installedPluginDefinitions, map_map]
      rfl
    have named : ∀ definition ∈ installedPluginDefinitions record, definition.tool.name ≠ "" := by
      intro definition member
      rcases mem_map.mp member with ⟨tool, isTool, rfl⟩
      exact record.proper.named tool isTool
    rcases register_all_free (names ▸ record.proper.distinct) named free with
      ⟨next, done, declared, others⟩
    refine ⟨next, done, ?_, ?_, ?_⟩
    · intro name isName
      rcases tool_names_iff.mp isName with ⟨definition, member, rfl⟩
      exact free definition member
    · rintro name definition ⟨member, rfl⟩
      exact declared definition member
    intro name other
    apply others
    intro definition member same
    exact other (tool_names_iff.mpr ⟨definition, member, same⟩)

theorem register_of_free (free : ∀ name, ToolNames record name → registry name = none) : ∃ next,
    registerInstalledPlugin registry record = (next, none) ∧ Registers record registry next := by
  rcases register_cases registry record with ⟨_, _, name, isName, isTaken⟩ | registered
  · rw [free name isName] at isTaken
    cases isTaken
  · exact registered

theorem Registers.unregister (registers : Registers record registry next) :
    unregisterInstalledPlugin next record = registry := by
  funext name
  by_cases isName : ToolNames record name
  · rw [unregister_of_name isName, registers.free name isName]
  · rw [unregister_of_other isName, registers.others name isName]

theorem register_again (registry : Registry) (record : InstalledPluginRecord) : ∃ next,
    registerInstalledPlugin (unregisterInstalledPlugin registry record) record = (next, none) ∧
    (∀ name definition, Declares record name definition → next name = some (.plugin definition)) ∧
    ∀ name, ¬ ToolNames record name → next name = registry name := by
  rcases @register_of_free (unregisterInstalledPlugin registry record) record
    (fun name isName => unregister_of_name isName) with ⟨next, done, registers⟩
  refine ⟨next, done, registers.declared, ?_⟩
  intro name other
  rw [registers.others name other, unregister_of_other other]

theorem register_back
    (declared : ∀ name definition, Declares record name definition →
      registry name = some (.plugin definition)) :
    (registerInstalledPlugin (unregisterInstalledPlugin registry record) record).1 = registry := by
  rcases register_again registry record with ⟨next, isSuccess, isDeclared, others⟩
  rw [isSuccess]
  funext name
  by_cases isName : ToolNames record name
  · rcases tool_names_iff.mp isName with ⟨definition, declares⟩
    exact (isDeclared name definition declares).trans (declared name definition declares).symm
  · exact others name isName

end

section

variable (env : Environment) (w : World) (attempt : Attempt)

def InstalledPluginRecord.turnedOn (record : InstalledPluginRecord) : InstalledPluginRecord :=
  { record with enabled := true, runtimeStatus := .ready, runtimeError := "" }

def InstalledPluginRecord.turnedOff (record : InstalledPluginRecord) : InstalledPluginRecord :=
  { record with enabled := false, runtimeStatus := .disabled, runtimeError := "" }

inductive InstallOutcome (source : InstallSource) : Outcome → Prop
  | unprepared {roots : Roots} {err : PluginError}
      (failed : prepareInstalledPlugin env w source attempt "" = (roots, .error err)) :
      InstallOutcome source ({ w with roots := roots }, .error err)
  | unpromoted {staging promoted : Roots} {staged : InstalledPluginRecord} {err : PluginError}
      (prepared : prepareInstalledPlugin env w source attempt "" = (staging, .ok staged))
      (failed : promoteInstalledPlugin staging staged attempt = (promoted, .error err)) :
      InstallOutcome source ({ w with roots := promoted }, .error err)
  | undone {staging promoted : Roots} {staged record : InstalledPluginRecord} {err : PluginError}
      (prepared : prepareInstalledPlugin env w source attempt "" = (staging, .ok staged))
      (isPromoted : promoteInstalledPlugin staging staged attempt = (promoted, .ok record)) :
      InstallOutcome source
        ({ w with roots := removeAll promoted record.id attempt .cleanup }, .error err)
  | installed {staging promoted : Roots} {staged record created : InstalledPluginRecord}
      {registry : Registry} {catalog : PluginCatalog}
      (prepared : prepareInstalledPlugin env w source attempt "" = (staging, .ok staged))
      (isPromoted : promoteInstalledPlugin staging staged attempt = (promoted, .ok record))
      (registers : Registers record w.registry registry)
      (isCreated : w.catalog.create record.turnedOn attempt.now (attempt.fails .save) =
        .ok (created, catalog)) :
      InstallOutcome source
        ({ catalog := catalog, registry := registry, roots := promoted }, .ok created)

inductive EnableOutcome (id : String) : Outcome → Prop
  | failed {err : PluginError} : EnableOutcome id (w, .error err)
  | enabled {record updated : InstalledPluginRecord} {registry : Registry}
      {catalog : PluginCatalog} (found : w.catalog.get id = .ok record)
      (registers : Registers record w.registry registry)
      (replaced : w.catalog.replace record.turnedOn attempt.now (attempt.fails .save) =
        .ok (updated, catalog)) :
      EnableOutcome id ({ w with catalog := catalog, registry := registry }, .ok updated)

inductive DisableOutcome (id : String) : Outcome → Prop
  | missing {err : PluginError} (absent : w.catalog.get id = .error err) :
      DisableOutcome id (w, .error err)
  | undone {record : InstalledPluginRecord} {err : PluginError}
      (found : w.catalog.get id = .ok record) :
      DisableOutcome id
        ({ w with
            registry := registeredAgain (unregisterInstalledPlugin w.registry record) record },
          .error err)
  | disabled {record updated : InstalledPluginRecord} {catalog : PluginCatalog}
      (found : w.catalog.get id = .ok record)
      (replaced : w.catalog.replace record.turnedOff attempt.now (attempt.fails .save) =
        .ok (updated, catalog)) :
      DisableOutcome id
        ({ w with
            catalog := catalog
            registry := unregisterInstalledPlugin w.registry record }, .ok updated)

def RegistersUpdate (existing next : InstalledPluginRecord) (registry : Registry) : Prop :=
  if existing.enabled then
    Registers next (unregisterInstalledPlugin w.registry existing) registry
  else registry = w.registry

def updatedRecord (existing next : InstalledPluginRecord) : InstalledPluginRecord :=
  if existing.enabled then next.turnedOn else next.turnedOff

def registryAfterUndo (registry : Registry) (existing : InstalledPluginRecord) : Registry :=
  if existing.enabled then
    (registerInstalledPlugin (unregisterInstalledPlugin registry existing) existing).1
  else registry

inductive UpdateOutcome (id : String) : Outcome → Prop
  | missing {err : PluginError} (absent : w.catalog.get id = .error err) :
      UpdateOutcome id (w, .error err)
  | unprepared {existing : InstalledPluginRecord} {roots : Roots} {err : PluginError}
      (found : w.catalog.get id = .ok existing)
      (failed : prepareInstalledPlugin env w existing.source attempt existing.id =
        (roots, .error err)) :
      UpdateOutcome id ({ w with roots := roots }, .error err)
  | unswapped {existing staged : InstalledPluginRecord} {staging swapped : Roots}
      {err : PluginError} (found : w.catalog.get id = .ok existing)
      (prepared : prepareInstalledPlugin env w existing.source attempt existing.id =
        (staging, .ok staged))
      (failed : swapInstalledPluginRoot staging staged attempt = (swapped, .error err)) :
      UpdateOutcome id
        ({ w with
            roots := removeAll swapped (staged.installRoot.getD "") attempt .cleanup },
          .error err)
  | undone {existing staged next : InstalledPluginRecord} {staging swapped : Roots}
      {backup : Option String} {err : PluginError} (found : w.catalog.get id = .ok existing)
      (prepared : prepareInstalledPlugin env w existing.source attempt existing.id =
        (staging, .ok staged))
      (isSwapped : swapInstalledPluginRoot staging staged attempt =
        (swapped, .ok (backup, next))) :
      UpdateOutcome id
        ({ w with
            registry := registryAfterUndo w.registry existing
            roots := removeAll (restoreInstalledPluginRoot swapped existing next backup attempt)
              (staged.installRoot.getD "") attempt .cleanup }, .error err)
  | updated {existing staged next updated : InstalledPluginRecord} {staging swapped : Roots}
      {backup : Option String} {registry : Registry} {catalog : PluginCatalog}
      (found : w.catalog.get id = .ok existing)
      (prepared : prepareInstalledPlugin env w existing.source attempt existing.id =
        (staging, .ok staged))
      (isSwapped : swapInstalledPluginRoot staging staged attempt =
        (swapped, .ok (backup, next)))
      (registers : RegistersUpdate w existing next registry)
      (replaced : w.catalog.replace (updatedRecord existing next) attempt.now
        (attempt.fails .save) = .ok (updated, catalog)) :
      UpdateOutcome id
        ({ catalog := catalog
           registry := registry
           roots := backup.elim swapped fun entry =>
             removeAll swapped entry attempt .removeBackup }, .ok updated)

inductive DeleteOutcome (id : String) : Outcome → Prop
  | missing {err : PluginError} (absent : w.catalog.get id = .error err) :
      DeleteOutcome id (w, .error err)
  | unstaged {record : InstalledPluginRecord} {roots : Roots} {err : PluginError}
      (found : w.catalog.get id = .ok record)
      (failed : stageInstalledPluginRootRemoval w.roots record attempt = (roots, .error err)) :
      DeleteOutcome id
        ({ w with
            registry := registeredAgain (unregisterInstalledPlugin w.registry record) record
            roots := roots }, .error err)
  | undone {record : InstalledPluginRecord} {roots : Roots} {removalRoot : Option String}
      {err : PluginError} (found : w.catalog.get id = .ok record)
      (staged : stageInstalledPluginRootRemoval w.roots record attempt =
        (roots, .ok removalRoot)) :
      DeleteOutcome id
        ({ w with
            registry := registeredAgain (unregisterInstalledPlugin w.registry record) record
            roots := restoreStagedInstalledPluginRoot roots record.installRoot removalRoot
              attempt }, .error err)
  | deleted {record removed : InstalledPluginRecord} {roots : Roots}
      {removalRoot : Option String} {catalog : PluginCatalog}
      (found : w.catalog.get id = .ok record)
      (staged : stageInstalledPluginRootRemoval w.roots record attempt =
        (roots, .ok removalRoot))
      (isDeleted : w.catalog.delete id (attempt.fails .save) = .ok (removed, catalog)) :
      DeleteOutcome id
        ({ catalog := catalog
           registry := unregisterInstalledPlugin w.registry record
           roots := removalRoot.elim roots fun entry =>
             removeAll roots entry attempt .removeBackup }, .ok removed)

end

inductive Preparation (w : World) (attempt : Attempt) (existingID : String) :
    Roots × Except PluginError InstalledPluginRecord → Prop
  | refused {err : PluginError} : Preparation w attempt existingID (w.roots, .error err)
  | uncopied {entry : String} {err : PluginError} (fresh : w.roots entry = none) :
      Preparation w attempt existingID
        (removeAll (Table.insert w.roots entry attempt.copied) entry attempt .removeStagingRoot,
          .error err)
  | staged {record : InstalledPluginRecord} {entry : String}
      (isEntry : entry = stagingName record.id attempt)
      (isRoot : record.installRoot = some entry) (fresh : w.roots entry = none)
      (sameID : existingID ≠ "" → record.id = trimSpace existingID)
      (slashless : '/' ∉ record.id.toList) :
      Preparation w attempt existingID (Table.insert w.roots entry attempt.files, .ok record)

variable (env : Environment) (w : World) (attempt : Attempt)

theorem prepare_preparation (source : InstallSource) (existingID : String) :
    Preparation w attempt existingID (prepareInstalledPlugin env w source attempt existingID) := by
  unfold prepareInstalledPlugin
  dsimp only
  split
  · exact .refused
  split
  · exact .refused
  split
  · exact .refused
  next record made =>
    split_ifs with unchecked changed taken unusable uncopied
    · exact .refused
    · exact .refused
    · exact .refused
    · exact .refused
    · rw [not_or, Bool.not_eq_true] at unusable
      have fresh := (Bool.or_eq_false_iff.mp unusable.2).2
      exact .uncopied (Option.isSome_eq_false_iff.mp fresh |> Option.isNone_iff_eq_none.mp)
    rw [not_or, Bool.not_eq_true] at unusable
    have fresh := (Bool.or_eq_false_iff.mp unusable.2).2
    refine .staged rfl rfl
      (Option.isSome_eq_false_iff.mp fresh |> Option.isNone_iff_eq_none.mp) ?_ unusable.1
    intro isUpdate
    by_contra ne
    exact changed ⟨isUpdate, ne⟩

theorem update_keeps_id {env : Environment} {w : World} {attempt : Attempt} {source : InstallSource}
    {existing staged : InstalledPluginRecord} {staging : Roots}
    (prepared : prepareInstalledPlugin env w source attempt existing.id = (staging, .ok staged)) :
    staged.id = existing.id := by
  have preparation := prepare_preparation env w attempt source existing.id
  rw [prepared] at preparation
  cases preparation with
  | staged isEntry isRoot fresh sameID slashless =>
    exact (sameID existing.named).trans existing.clean

section

variable {roots swapped : Roots} {attempt : Attempt} {staged next : InstalledPluginRecord}
  {backup : Option String}
  (isSwapped : swapInstalledPluginRoot roots staged attempt = (swapped, .ok (backup, next)))
include isSwapped

theorem swap_eq_ok : next = { staged with installRoot := some staged.id } := by
  unfold swapInstalledPluginRoot at isSwapped
  dsimp only at isSwapped
  split_ifs at isSwapped
  · cases isSwapped
  · split at isSwapped
    · cases isSwapped
    · cases isSwapped
      rfl
  split at isSwapped
  · cases isSwapped
  split at isSwapped
  · cases isSwapped
  · cases isSwapped
    rfl

theorem swap_keeps_id : next.id = staged.id := by
  rw [swap_eq_ok isSwapped]

end

theorem install_plugin_outcome (source : InstallSource) :
    InstallOutcome env w attempt source (installPlugin env w source attempt) := by
  unfold installPlugin
  split
  next roots err failed => exact .unprepared failed
  next staging staged prepared =>
    split
    next promoted err failed => exact .unpromoted prepared failed
    next promoted record isPromoted =>
      rcases register_cases w.registry record with
        ⟨err, isFailure, _⟩ | ⟨registry, isSuccess, registers⟩
      · rw [isFailure]
        exact .undone prepared isPromoted
      rw [isSuccess]
      dsimp only
      split
      next err notCreated =>
        rw [registers.unregister]
        exact .undone prepared isPromoted
      next created catalog isCreated => exact .installed prepared isPromoted registers isCreated

theorem enable_plugin_outcome (id : String) :
    EnableOutcome w attempt id (setPluginEnabled w id true attempt) := by
  unfold setPluginEnabled
  split
  next err absent => exact .failed
  next record found =>
    rw [if_pos rfl]
    rcases register_cases w.registry record with
      ⟨err, isFailure, _⟩ | ⟨registry, isSuccess, registers⟩
    · rw [isFailure]
      exact .failed
    rw [isSuccess]
    dsimp only
    split
    next err notReplaced =>
      rw [registers.unregister]
      exact .failed
    next updated catalog replaced => exact .enabled found registers replaced

theorem disable_plugin_outcome (id : String) :
    DisableOutcome w attempt id (setPluginEnabled w id false attempt) := by
  unfold setPluginEnabled
  split
  next err absent => exact .missing absent
  next record found =>
    rw [if_neg Bool.false_ne_true]
    dsimp only
    split
    next err notReplaced =>
      have again := @DisableOutcome.undone w attempt id record err found
      unfold registeredAgain at again
      split_ifs at again ⊢
      · exact again
      · exact again
    next updated catalog replaced => exact .disabled found replaced

theorem update_plugin_outcome (id : String) :
    UpdateOutcome env w attempt id (updateInstalledPlugin env w id attempt) := by
  unfold updateInstalledPlugin
  split
  next err absent => exact .missing absent
  next existing found =>
    split
    next roots err failed => exact .unprepared found failed
    next staging staged prepared =>
      split
      next swapped err failed => exact .unswapped found prepared failed
      next swapped backup next isSwapped =>
        have undone := fun err => @UpdateOutcome.undone env w attempt id existing staged next
          staging swapped backup err found prepared isSwapped
        have updated := fun result registry catalog =>
          @UpdateOutcome.updated env w attempt id existing staged next result staging swapped
            backup registry catalog found prepared isSwapped
        unfold updateTools
        unfold registryAfterUndo at undone
        unfold RegistersUpdate updatedRecord at updated
        split_ifs at undone updated ⊢ with isEnabled
        · rcases register_cases (unregisterInstalledPlugin w.registry existing) next with
            ⟨err, isFailure, _⟩ | ⟨registry, isSuccess, registers⟩
          · rw [isFailure]
            exact undone err
          rw [isSuccess]
          dsimp only [commitUpdate]
          split
          next err notReplaced =>
            have removed := registers.unregister
            unfold unregisterInstalledPlugin at removed ⊢
            rw [removed]
            exact undone err
          next result catalog replaced => exact updated result registry catalog registers replaced
        · dsimp only [commitUpdate]
          split
          next err notReplaced =>
            exact undone err
          next result catalog replaced => exact updated result w.registry catalog rfl replaced

theorem delete_plugin_outcome (id : String) :
    DeleteOutcome w attempt id (deleteInstalledPlugin w id attempt) := by
  unfold deleteInstalledPlugin
  split
  next err absent => exact .missing absent
  next record found =>
    split
    next roots err failed => exact .unstaged found failed
    next roots removalRoot staged =>
      split
      next err notDeleted => exact .undone found staged
      next removed catalog isDeleted => exact .deleted found staged isDeleted

end RuneTerminal.PluginInstall
