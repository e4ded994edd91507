import RuneTerminal.Kit.Transition
import RuneTerminal.PluginInstall.Outcomes

/-! The plugin tools of the registry should be those of the enabled plugins of the catalog.
Disabling and deleting remove tools by their names also for a plugin that is disabled already. -/

namespace RuneTerminal.PluginInstall

open Go.Strings (trimSpace)
open Kit List PluginCatalog

variable {builtins : String → Bool} {registry : Registry} {name id : String} {now : Nat}
  {catalog : PluginCatalog} {record : InstalledPluginRecord}

section

variable {declared others : String → PluginDefinition → Prop} {next : Registry}
  {definition : PluginDefinition}

structure Matches (builtins : String → Bool) (declared : String → PluginDefinition → Prop)
    (registry : Registry) : Prop where
  builtin : ∀ name, registry name = some .builtin ↔ builtins name = true
  plugin : ∀ name definition, registry name = some (.plugin definition) ↔ declared name definition

theorem Matches.congr (same : ∀ name definition, declared name definition ↔ others name definition)
    (isMatch : Matches builtins declared registry) : Matches builtins others registry :=
  ⟨isMatch.builtin, fun name definition => (isMatch.plugin name definition).trans (same _ _)⟩

theorem Matches.add (isMatch : Matches builtins others registry)
    (registers : Registers record registry next) :
    Matches builtins
      (fun name definition => Declares record name definition ∨ others name definition) next := by
  have taken : ∀ name, ToolNames record name → ∃ definition,
      Declares record name definition ∧ next name = some (.plugin definition) := by
    intro name isName
    rcases tool_names_iff.mp isName with ⟨definition, declares⟩
    exact ⟨definition, declares, registers.declared name definition declares⟩
  constructor
  · intro name
    by_cases isName : ToolNames record name
    · rcases taken name isName with ⟨definition, _, isNext⟩
      have free := registers.free name isName
      have notBuiltin : ¬ builtins name = true := by
        rw [← isMatch.builtin name, free]
        nofun
      rw [isNext]
      exact ⟨nofun, fun isBuiltin => absurd isBuiltin notBuiltin⟩
    · rw [registers.others name isName]
      exact isMatch.builtin name
  intro name definition
  by_cases isName : ToolNames record name
  · rcases taken name isName with ⟨own, declares, isNext⟩
    have free := registers.free name isName
    rw [isNext]
    constructor
    · intro same
      obtain rfl := Registered.plugin.inj (Option.some.inj same)
      exact .inl declares
    rintro (isDeclared | isOther)
    · rw [declares_unique isDeclared declares]
    · rw [← isMatch.plugin name, free] at isOther
      cases isOther
  · rw [registers.others name isName, isMatch.plugin name]
    constructor
    · exact .inr
    · rintro (isDeclared | isOther)
      · exact absurd (tool_names_iff.mpr ⟨definition, isDeclared⟩) isName
      · exact isOther

theorem Matches.remove
    (isMatch : Matches builtins
      (fun name definition => Declares record name definition ∨ others name definition) registry)
    (apart : ∀ name definition, ToolNames record name → ¬ others name definition) :
    Matches builtins others (unregisterInstalledPlugin registry record) := by
  constructor
  · intro name
    by_cases isName : ToolNames record name
    · rcases tool_names_iff.mp isName with ⟨definition, declares⟩
      have isPlugin := (isMatch.plugin name definition).mpr (.inl declares)
      rw [unregister_of_name isName, ← isMatch.builtin name, isPlugin]
      exact ⟨nofun, nofun⟩
    · rw [unregister_of_other isName]
      exact isMatch.builtin name
  intro name definition
  by_cases isName : ToolNames record name
  · rw [unregister_of_name isName]
    exact ⟨nofun, fun isOther => absurd isOther (apart name definition isName)⟩
  rw [unregister_of_other isName, isMatch.plugin name]
  constructor
  · rintro (isDeclared | isOther)
    · exact absurd (tool_names_iff.mpr ⟨definition, isDeclared⟩) isName
    · exact isOther
  · exact .inr

theorem Matches.remove_iff (isMatch : Matches builtins declared registry) :
    Matches builtins declared (unregisterInstalledPlugin registry record) ↔
    ∀ name, ToolNames record name → registry name = none := by
  constructor
  · intro still name isName
    have isGone := @unregister_of_name registry record name isName
    cases isThere : registry name with
    | none => rfl
    | some found =>
      cases found with
      | builtin =>
        have isBuiltin := (still.builtin name).mpr ((isMatch.builtin name).mp isThere)
        rw [isGone] at isBuiltin
        cases isBuiltin
      | plugin definition =>
        have isPlugin := (still.plugin name definition).mpr
          ((isMatch.plugin name definition).mp isThere)
        rw [isGone] at isPlugin
        cases isPlugin
  · intro free
    have same : unregisterInstalledPlugin registry record = registry := by
      funext name
      by_cases isName : ToolNames record name
      · rw [unregister_of_name isName, free name isName]
      · exact unregister_of_other isName
    rw [same]
    exact isMatch

def EnabledOutside (catalog : PluginCatalog) (ids : List String) (name : String)
    (definition : PluginDefinition) : Prop :=
  ∃ record ∈ catalog.plugins,
    record.id ∉ ids ∧ record.enabled = true ∧ Declares record name definition

section

variable {changed : PluginCatalog} {result : InstalledPluginRecord} {ids : List String}
  {saveFails : Bool}

theorem enabled_outside_split (mem : record ∈ catalog.plugins) :
    EnabledOutside catalog ids name definition ↔
    (record.id ∉ ids ∧ record.enabled = true ∧ Declares record name definition) ∨
      EnabledOutside catalog (record.id :: ids) name definition := by
  constructor
  · rintro ⟨other, isOther, outside, isEnabled, declares⟩
    by_cases same : other.id = record.id
    · obtain rfl := eq_of_id isOther mem same
      exact .inl ⟨outside, isEnabled, declares⟩
    refine .inr ⟨other, isOther, ?_, isEnabled, declares⟩
    intro listed
    rcases mem_cons.mp listed with isSame | isListed
    · exact same isSame
    · exact outside isListed
  · rintro (⟨outside, isEnabled, declares⟩ | ⟨other, isOther, outside, isEnabled, declares⟩)
    · exact ⟨record, mem, outside, isEnabled, declares⟩
    · exact ⟨other, isOther, fun listed => outside (mem_cons_of_mem _ listed), isEnabled,
        declares⟩

theorem declares_stored {createdAt updatedAt : Nat} :
    Declares (record.stored createdAt updatedAt) name definition ↔
    Declares record name definition := by
  rw [declares_iff, declares_iff, stored_tools, stored_capabilities]
  rfl

theorem enabled_after_create
    (created : catalog.create record now saveFails = .ok (result, changed)) :
    EnabledOutside changed [] name definition ↔
    (record.enabled = true ∧ Declares record name definition) ∨
      EnabledOutside catalog [] name definition := by
  rcases create_eq_ok created with ⟨rfl, _, members⟩
  constructor
  · rintro ⟨other, isOther, outside, isEnabled, declares⟩
    rcases (members other).mp isOther with rfl | isOld
    · exact .inl ⟨isEnabled, declares_stored.mp declares⟩
    · exact .inr ⟨other, isOld, outside, isEnabled, declares⟩
  · rintro (⟨isEnabled, declares⟩ | ⟨other, isOld, outside, isEnabled, declares⟩)
    · exact ⟨_, (members _).mpr (.inl rfl), not_mem_nil, isEnabled,
        declares_stored.mpr declares⟩
    · exact ⟨other, (members other).mpr (.inr isOld), outside, isEnabled, declares⟩

theorem enabled_after_replace
    (replaced : catalog.replace record now saveFails = .ok (result, changed)) :
    EnabledOutside changed ids name definition ↔
    (record.id ∉ ids ∧ record.enabled = true ∧ Declares record name definition) ∨
      EnabledOutside catalog (record.id :: ids) name definition := by
  rcases replace_eq_ok replaced with ⟨⟨createdAt, rfl⟩, members⟩
  constructor
  · rintro ⟨other, isOther, outside, isEnabled, declares⟩
    rcases (members other).mp isOther with rfl | ⟨isOld, ne⟩
    · exact .inl ⟨outside, isEnabled, declares_stored.mp declares⟩
    refine .inr ⟨other, isOld, ?_, isEnabled, declares⟩
    intro listed
    rcases mem_cons.mp listed with isSame | isListed
    · exact ne isSame
    · exact outside isListed
  · rintro (⟨outside, isEnabled, declares⟩ | ⟨other, isOld, outside, isEnabled, declares⟩)
    · exact ⟨_, (members _).mpr (.inl rfl), outside, isEnabled, declares_stored.mpr declares⟩
    · rw [mem_cons, not_or] at outside
      exact ⟨other, (members other).mpr (.inr ⟨isOld, outside.1⟩), outside.2, isEnabled,
        declares⟩

theorem enabled_after_delete (deleted : catalog.delete id saveFails = .ok (result, changed)) :
    EnabledOutside changed [] name definition ↔
    EnabledOutside catalog [result.id] name definition := by
  rcases delete_eq_ok deleted with ⟨_, members⟩
  constructor
  · rintro ⟨other, isOther, _, isEnabled, declares⟩
    rcases (members other).mp isOther with ⟨isOld, ne⟩
    exact ⟨other, isOld, fun listed => ne (mem_singleton.mp listed), isEnabled,
      declares⟩
  · rintro ⟨other, isOld, outside, isEnabled, declares⟩
    have ne : other.id ≠ result.id := fun same => outside (mem_singleton.mpr same)
    exact ⟨other, (members other).mpr ⟨isOld, ne⟩, not_mem_nil, isEnabled, declares⟩

end

end

variable {w : World} {env : Environment}

/-- The plugin tools of the registry are exactly those of the enabled plugins, and the
tools of the program are registered. -/
def Synced (builtins : String → Bool) (w : World) : Prop :=
  Matches builtins (EnabledOutside w.catalog []) w.registry

def builtinRegistry (builtins : String → Bool) : Registry := fun name =>
  if builtins name then some .builtin else none

theorem matches_builtin_registry :
    Matches builtins (fun _ _ => False) (builtinRegistry builtins) := by
  constructor
  · intro name
    unfold builtinRegistry
    split_ifs with isBuiltin
    · exact ⟨fun _ => isBuiltin, fun _ => rfl⟩
    · exact ⟨nofun, fun absurdBuiltin => absurd absurdBuiltin isBuiltin⟩
  · intro name definition
    unfold builtinRegistry
    split_ifs
    · exact ⟨nofun, nofun⟩
    · exact ⟨nofun, nofun⟩

theorem sync_plugins_matches {saveFails : String → Bool} {now : Nat} {catalog final : PluginCatalog}
    {registry registered : Registry} {rest : List InstalledPluginRecord}
    (isMatch : Matches builtins (EnabledOutside catalog (rest.map InstalledPluginRecord.id))
      registry)
    (waiting : ∀ record ∈ rest, record ∈ catalog.plugins)
    (nodup : (rest.map InstalledPluginRecord.id).Nodup)
    (synced : syncPlugins saveFails now (catalog, registry) rest = .ok (final, registered)) :
    Matches builtins (EnabledOutside final []) registered := by
  induction rest generalizing catalog registry with
  | nil =>
    cases synced
    exact isMatch
  | cons record rest ih =>
    have member := waiting record mem_cons_self
    have fresh := (nodup_cons.mp nodup).1
    -- A replaced record leaves the waiting ones in place.
    have stillWaiting : ∀ {changed : PluginCatalog} {result given : InstalledPluginRecord}
        {saves : Bool}, catalog.replace given now saves = .ok (result, changed) →
        given.id = record.id → ∀ other ∈ rest, other ∈ changed.plugins := by
      intro changed result given saves replaced same other isLater
      rw [(replace_eq_ok replaced).2]
      refine .inr ⟨waiting other (mem_cons_of_mem _ isLater), ?_⟩
      intro isSame
      exact fresh (same ▸ isSame ▸ mem_map_of_mem isLater)
    rw [syncPlugins] at synced
    split_ifs at synced with isOff
    · refine ih (isMatch.congr ?_) (fun other isLater =>
        waiting other (mem_cons_of_mem _ isLater)) (nodup_cons.mp nodup).2 synced
      intro name definition
      apply Iff.symm
      rw [enabled_outside_split member]
      constructor
      · rintro (⟨_, isEnabled, _⟩ | isOther)
        · rw [isEnabled] at isOff
          cases isOff
        · exact isOther
      · exact .inr
    have isEnabled : record.enabled = true := by simpa using isOff
    rcases register_cases registry record with
      ⟨err, isFailure, _⟩ | ⟨next, isSuccess, registers⟩
    · rw [isFailure] at synced
      dsimp only at synced
      split at synced
      · cases synced
      next result changed replaced =>
        refine ih (isMatch.congr ?_) (stillWaiting replaced rfl)
          (nodup_cons.mp nodup).2 synced
        intro name definition
        rw [enabled_after_replace replaced]
        constructor
        · exact .inr
        · rintro (⟨_, absurdEnabled, _⟩ | isOther)
          · cases absurdEnabled
          · exact isOther
    rw [isSuccess] at synced
    dsimp only at synced
    split at synced
    · cases synced
    next result changed replaced =>
      refine ih ((isMatch.add registers).congr ?_) (stillWaiting replaced rfl)
        (nodup_cons.mp nodup).2 synced
      intro name definition
      rw [enabled_after_replace replaced]
      constructor
      · rintro (declares | isOther)
        · exact .inl ⟨fresh, isEnabled, declares⟩
        · exact .inr isOther
      · rintro (⟨_, _, declares⟩ | isOther)
        · exact .inl declares
        · exact .inr isOther

def Started (builtins : String → Bool) (w : World) : Prop :=
  ∃ catalog saveFails now, syncInstalledPlugins catalog (builtinRegistry builtins) saveFails now =
    .ok (w.catalog, w.registry)

theorem synced_at_start (started : Started builtins w) : Synced builtins w := by
  rcases started with ⟨catalog, saveFails, now, synced⟩
  unfold syncInstalledPlugins at synced
  have isCopy : catalog.plugins.map InstalledPluginRecord.clone = catalog.plugins := by
    rw [map_congr_left fun record _ => clone_record record, map_id']
  rw [isCopy] at synced
  refine sync_plugins_matches (matches_builtin_registry.congr ?_) (fun _ mem => mem)
    catalog.distinct synced
  intro name definition
  constructor
  · exact False.elim
  · rintro ⟨record, mem, outside, _⟩
    exact outside (mem_map_of_mem mem)

section

section

variable (synced : Synced builtins w) (mem : record ∈ w.catalog.plugins)
  (isEnabled : record.enabled = true)
include synced mem isEnabled

theorem names_apart (name : String) (definition : PluginDefinition)
    (isName : ToolNames record name) : ¬ EnabledOutside w.catalog [record.id] name definition := by
  rintro ⟨other, isOther, outside, isOn, declares⟩
  rcases tool_names_iff.mp isName with ⟨own, isOwn⟩
  have first := (synced.plugin name own).mpr
    ⟨record, mem, not_mem_nil, isEnabled, isOwn⟩
  have second := (synced.plugin name definition).mpr
    ⟨other, isOther, not_mem_nil, isOn, declares⟩
  have same := Registered.plugin.inj (Option.some.inj (first.symm.trans second))
  have sameID : record.id = other.id := by
    rw [← (declares_iff.mp isOwn).2.2.1, same, (declares_iff.mp declares).2.2.1]
  exact outside (mem_singleton.mpr sameID.symm)

theorem matches_without :
    Matches builtins (EnabledOutside w.catalog [record.id])
      (unregisterInstalledPlugin w.registry record) := by
  refine Matches.remove (synced.congr ?_) (names_apart synced mem isEnabled)
  intro name definition
  rw [enabled_outside_split mem]
  constructor
  · rintro (⟨_, _, declares⟩ | isOther)
    · exact .inl declares
    · exact .inr isOther
  · rintro (declares | isOther)
    · exact .inl ⟨not_mem_nil, isEnabled, declares⟩
    · exact .inr isOther

end

theorem enabled_outside_off (mem : record ∈ w.catalog.plugins) (isOff : ¬ record.enabled = true)
    (definition : PluginDefinition) : EnabledOutside w.catalog [] name definition ↔
    EnabledOutside w.catalog [record.id] name definition := by
  rw [enabled_outside_split mem]
  constructor
  · rintro (⟨_, isEnabled, _⟩ | isOther)
    · exact absurd isEnabled isOff
    · exact isOther
  · exact .inr

theorem enabled_declared (synced : Synced builtins w) (mem : record ∈ w.catalog.plugins)
    (isEnabled : record.enabled = true) (definition : PluginDefinition)
    (declares : Declares record name definition) : w.registry name = some (.plugin definition) :=
  (synced.plugin name definition).mpr ⟨record, mem, not_mem_nil, isEnabled, declares⟩

end

section

variable {attempt : Attempt}

theorem install_keeps_synced (source : InstallSource) (synced : Synced builtins w) :
    Synced builtins (installPlugin env w source attempt).1 := by
  have ends := install_plugin_outcome env w attempt source
  generalize installPlugin env w source attempt = outcome at ends ⊢
  cases ends with
  | unprepared | unpromoted | undone => exact synced
  | installed prepared isPromoted registers isCreated =>
    refine (Matches.add synced registers).congr ?_
    intro name definition
    rw [enabled_after_create isCreated]
    exact ⟨Or.imp_left fun declares => ⟨rfl, declares⟩, Or.imp_left And.right⟩

theorem enable_keeps_synced (synced : Synced builtins w) :
    Synced builtins (setPluginEnabled w id true attempt).1 := by
  have ends := enable_plugin_outcome w attempt id
  generalize setPluginEnabled w id true attempt = outcome at ends ⊢
  cases ends with
  | failed => exact synced
  | @enabled record updated registry catalog found registers replaced =>
    have member := (get_eq_ok_iff.mp found).1
    refine (Matches.add synced registers).congr ?_
    intro name definition
    rw [enabled_after_replace replaced, enabled_outside_split member]
    -- The plugin declares the same tools before and after.
    constructor
    · rintro (declares | ⟨_, _, declares⟩ | isOther)
      · exact .inl ⟨not_mem_nil, rfl, declares⟩
      · exact .inl ⟨not_mem_nil, rfl, declares⟩
      · exact .inr isOther
    · rintro (⟨_, _, declares⟩ | isOther)
      · exact .inl declares
      · exact .inr (.inr isOther)

theorem registry_after_undo {existing : InstalledPluginRecord} (synced : Synced builtins w)
    (mem : existing ∈ w.catalog.plugins) : registryAfterUndo w.registry existing = w.registry := by
  unfold registryAfterUndo
  split_ifs with isEnabled
  · exact register_back fun name definition => enabled_declared synced mem isEnabled definition
  · rfl

theorem update_keeps_synced (synced : Synced builtins w) :
    Synced builtins (updateInstalledPlugin env w id attempt).1 := by
  have ends := update_plugin_outcome env w attempt id
  generalize updateInstalledPlugin env w id attempt = outcome at ends ⊢
  cases ends with
  | missing | unprepared | unswapped => exact synced
  | undone found prepared isSwapped =>
    have member := (get_eq_ok_iff.mp found).1
    have same := registry_after_undo synced member
    rw [same]
    exact synced
  | @updated existing staged next updated staging swapped backup registry catalog found prepared
      isSwapped registers replaced =>
      have member := (get_eq_ok_iff.mp found).1
      have sameID : next.id = existing.id := by
        rw [swap_keeps_id isSwapped]
        exact update_keeps_id prepared
      unfold RegistersUpdate at registers
      unfold updatedRecord at replaced
      split_ifs at registers replaced with isEnabled
      · refine ((matches_without synced member isEnabled).add registers).congr ?_
        intro name definition
        rw [enabled_after_replace replaced]
        change _ ↔ _ ∨ EnabledOutside w.catalog [next.id] name definition
        rw [sameID]
        exact ⟨Or.imp_left fun declares => ⟨not_mem_nil, rfl, declares⟩,
          Or.imp_left fun own => own.2.2⟩
      rw [registers]
      refine synced.congr ?_
      intro name definition
      rw [enabled_after_replace replaced, enabled_outside_off member isEnabled]
      change _ ↔ _ ∨ EnabledOutside w.catalog [next.id] name definition
      rw [sameID]
      constructor
      · exact .inr
      · rintro (⟨_, absurdEnabled, _⟩ | isOther)
        · cases absurdEnabled
        · exact isOther

def namesFree (registry : Registry) (record : InstalledPluginRecord) : Bool :=
  record.tools.all fun tool => (registry tool.name).isNone

theorem names_free_iff :
    namesFree registry record = true ↔ ∀ name, ToolNames record name → registry name = none := by
  unfold namesFree
  rw [all_eq_true]
  constructor
  · rintro free name ⟨tool, mem, rfl⟩
    exact Option.isNone_iff_eq_none.mp (free tool mem)
  · intro free tool mem
    exact Option.isNone_iff_eq_none.mpr (free tool.name ⟨tool, mem, rfl⟩)

/-- The plugin that loses its tools is enabled, or nobody has its names. -/
def spares (w : World) (id : String) : Bool :=
  match w.catalog.get id with
  | .error _ => true
  | .ok record => record.enabled || namesFree w.registry record

section

theorem spares_iff (found : w.catalog.get id = .ok record) :
    spares w id = true ↔ record.enabled = true ∨ namesFree w.registry record = true := by
  unfold spares
  rw [found, Bool.or_eq_true]

section

variable (synced : Synced builtins w) (found : w.catalog.get id = .ok record)
include synced found

theorem matches_removed_iff :
    Matches builtins (EnabledOutside w.catalog [record.id])
      (unregisterInstalledPlugin w.registry record) ↔
    spares w id = true := by
  have member := (get_eq_ok_iff.mp found).1
  rw [spares_iff found, names_free_iff]
  by_cases isEnabled : record.enabled = true
  · exact ⟨fun _ => .inl isEnabled, fun _ => matches_without synced member isEnabled⟩
  have stillSynced : Matches builtins (EnabledOutside w.catalog [record.id]) w.registry :=
    synced.congr fun name definition => enabled_outside_off member isEnabled definition
  rw [stillSynced.remove_iff]
  exact ⟨.inr, fun either => either.resolve_left isEnabled⟩

theorem matches_again_iff :
    Matches builtins (EnabledOutside w.catalog [])
      (registeredAgain (unregisterInstalledPlugin w.registry record) record) ↔
    spares w id = true := by
  have member := (get_eq_ok_iff.mp found).1
  rw [spares_iff found, names_free_iff]
  unfold registeredAgain
  split_ifs with isEnabled
  · rw [register_back fun name definition => enabled_declared synced member isEnabled definition]
    exact ⟨fun _ => .inl isEnabled, fun _ => synced⟩
  · rw [Matches.remove_iff synced]
    exact ⟨.inr, fun either => either.resolve_left isEnabled⟩

end

end

theorem spares_missing {err : PluginError} (absent : w.catalog.get id = .error err) :
    spares w id = true := by
  unfold spares
  rw [absent]

theorem disable_keeps_synced_iff (synced : Synced builtins w) :
    Synced builtins (setPluginEnabled w id false attempt).1 ↔ spares w id = true := by
  have ends := disable_plugin_outcome w attempt id
  generalize setPluginEnabled w id false attempt = outcome at ends ⊢
  cases ends with
  | missing absent => exact ⟨fun _ => spares_missing absent, fun _ => synced⟩
  | undone found => exact matches_again_iff synced found
  | @disabled record updated catalog found replaced =>
    rw [← matches_removed_iff synced found]
    have same : ∀ name definition, EnabledOutside catalog [] name definition ↔
        EnabledOutside w.catalog [record.id] name definition := by
      intro name definition
      rw [enabled_after_replace replaced]
      constructor
      · rintro (⟨_, absurdEnabled, _⟩ | isOther)
        · cases absurdEnabled
        · exact isOther
      · exact .inr
    exact ⟨Matches.congr same, Matches.congr fun name definition => (same name definition).symm⟩

theorem delete_keeps_synced_iff (synced : Synced builtins w) :
    Synced builtins (deleteInstalledPlugin w id attempt).1 ↔ spares w id = true := by
  have ends := delete_plugin_outcome w attempt id
  generalize deleteInstalledPlugin w id attempt = outcome at ends ⊢
  cases ends with
  | missing absent => exact ⟨fun _ => spares_missing absent, fun _ => synced⟩
  | unstaged found | undone found => exact matches_again_iff synced found
  | @deleted record removed roots removalRoot catalog found staged isDeleted =>
    rw [← matches_removed_iff synced found]
    have isFound := get_eq_ok_iff.mp found
    have isRemoved := (delete_eq_ok isDeleted).1
    obtain rfl := eq_of_id isRemoved.1 isFound.1
      (isRemoved.2.trans isFound.2.symm)
    have same : ∀ name definition, EnabledOutside catalog [] name definition ↔
        EnabledOutside w.catalog [removed.id] name definition := fun name definition =>
      enabled_after_delete isDeleted
    exact ⟨Matches.congr same, Matches.congr fun name definition => (same name definition).symm⟩

end

def sparesOthers (w : World) (action : Operation × Attempt) : Bool :=
  match action.1 with
  | .setPluginEnabled id false => spares w id
  | .deleteInstalledPlugin id => spares w id
  | .setPluginEnabled _ true => true
  | .installPlugin _ => true
  | .updateInstalledPlugin _ => true

def runStep (env : Environment) (w : World) (action : Operation × Attempt) : Option World :=
  some (perform env w action.2 action.1).1

theorem perform_keeps_synced_iff (synced : Synced builtins w) (action : Operation × Attempt) :
    Synced builtins (perform env w action.2 action.1).1 ↔ sparesOthers w action = true := by
  obtain ⟨operation, attempt⟩ := action
  cases operation with
  | installPlugin source => exact ⟨fun _ => rfl, fun _ => install_keeps_synced source synced⟩
  | updateInstalledPlugin id => exact ⟨fun _ => rfl, fun _ => update_keeps_synced synced⟩
  | deleteInstalledPlugin id => exact delete_keeps_synced_iff synced
  | setPluginEnabled id enabled =>
    cases enabled with
    | true => exact ⟨fun _ => rfl, fun _ => enable_keeps_synced synced⟩
    | false => exact disable_keeps_synced_iff synced

/-- As long as no operation removes the tools of others, the registered plugin tools are those
of the enabled plugins, and an operation that does remove them breaks that at once. -/
theorem plugin_tools_are_those_enabled (env : Environment) (builtins : String → Bool) (w : World)
    (reachable : Reachable (Started builtins) (guarded sparesOthers (runStep env)) w) :
    Synced builtins w ∧ ∀ action next, runStep env w action = some next →
    (Synced builtins next ↔ sparesOthers w action = true) := by
  have synced : Synced builtins w := by
    refine reachable.invariant synced_at_start ?_
    intro s action next isSynced taken
    rcases guarded_eq_some.mp taken with ⟨isSpared, stepped⟩
    cases stepped
    exact (perform_keeps_synced_iff isSynced action).mpr isSpared
  refine ⟨synced, ?_⟩
  intro action next stepped
  cases stepped
  exact perform_keeps_synced_iff synced action

def anyEnvironment : Environment := { jsonValid := fun _ => true }

def freshWorld (builtins : String → Bool) : World :=
  { catalog := .empty, registry := builtinRegistry builtins, roots := Table.empty }

theorem fresh_world_started (builtins : String → Bool) : Started builtins (freshWorld builtins) :=
  ⟨.empty, fun _ => false, 0, rfl⟩

def toolManifest (id name : String) : Manifest :=
  { pluginID := id
    pluginVersion := "1"
    protocolVersion := "rterm.plugin.v1"
    command := "run"
    tools := [{ name := name }] }

def gitSource : InstallSource := { kind := "git", url := "u" }

def sharedNameRun : List (Operation × Attempt) :=
  [(.installPlugin gitSource, { manifest := toolManifest "a" "t" }),
    (.setPluginEnabled "a" false, { manifest := toolManifest "a" "t" }),
    (.installPlugin gitSource, { manifest := toolManifest "b" "t" }),
    (.deleteInstalledPlugin "a", { manifest := toolManifest "a" "t" })]

def lacksTool (w : World) : Bool :=
  w.catalog.plugins.any fun record =>
    record.enabled && record.tools.any fun tool => (w.registry tool.name).isNone

theorem not_synced_of_lacks_tool (lacks : lacksTool w = true) : ¬ Synced builtins w := by
  intro synced
  rcases any_eq_true.mp lacks with ⟨record, mem, found⟩
  rcases Bool.and_eq_true_iff.mp found with ⟨isEnabled, absent⟩
  rcases any_eq_true.mp absent with ⟨tool, isTool, isNone⟩
  rcases tool_names_iff.mp ⟨tool, isTool, rfl⟩ with ⟨definition, declares⟩
  have isThere := enabled_declared synced mem isEnabled definition declares
  rw [isThere] at isNone
  cases isNone

theorem enabled_tool_is_removed : ¬ ∀ (env : Environment) (builtins : String → Bool) (w : World),
    Reachable (Started builtins) (runStep env) w → Synced builtins w := by
  intro claimed
  have tested : (runActions (runStep anyEnvironment) (freshWorld fun _ => false)
      sharedNameRun).map lacksTool = some true := by decide +kernel
  rcases reachable_of_run (fresh_world_started _) tested with ⟨w, reachable, lacks⟩
  exact not_synced_of_lacks_tool lacks (claimed anyEnvironment _ w reachable)

def orderlyRun : List (Operation × Attempt) :=
  [(.installPlugin gitSource, { manifest := toolManifest "a" "t" }),
    (.deleteInstalledPlugin "a", { manifest := toolManifest "a" "t" }),
    (.installPlugin gitSource, { manifest := toolManifest "b" "t" })]

theorem plugin_tools_are_those_enabled_in_turn :
    ∃ w,
      Reachable (Started fun name => name == "read") (guarded sparesOthers (runStep anyEnvironment))
        w ∧
      (w.registry "t").isSome = true ∧ Synced (fun name => name == "read") w := by
  have tested : (runActions (guarded sparesOthers (runStep anyEnvironment))
      (freshWorld fun name => name == "read") orderlyRun).map
        (fun w => (w.registry "t").isSome) = some true := by decide +kernel
  rcases reachable_of_run (fresh_world_started _) tested with ⟨w, reachable, isThere⟩
  exact ⟨w, reachable, isThere,
    (plugin_tools_are_those_enabled anyEnvironment _ w reachable).1⟩

end RuneTerminal.PluginInstall
