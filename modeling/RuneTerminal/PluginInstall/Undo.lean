import RuneTerminal.PluginInstall.Outcomes

/-! A promotion that fails keeps its staging directory, a directory made only for its name may stay,
and a registry without a plugin's tools does not get them back. Else an operation that returns an
error leaves everything as it was. -/

namespace RuneTerminal.PluginInstall

open Kit String Bool Option Table

variable {roots : Roots} {entry : String} {directory : Directory} {step : Step}
  {record staged : InstalledPluginRecord}

section

variable {other : String}

section

variable {attempt : Attempt} (succeeds : attempt.fails step = false)
include succeeds

theorem remove_all_done : removeAll roots entry attempt step = Table.erase roots entry := by
  unfold removeAll
  rw [succeeds]
  rfl

theorem rename_step_done (isThere : roots entry = some directory) (free : roots other = none) :
    renameStep roots entry other attempt step =
      .ok (Table.insert (Table.erase roots entry) other directory) := by
  unfold renameStep rename
  rw [succeeds, isThere, free]
  rfl

end

theorem rename_back_done {attempt : Attempt} (succeeds : attempt.fails .moveBack = false)
    (isThere : roots entry = some directory) (free : roots other = none) :
    renameBack roots entry other attempt =
      Table.insert (Table.erase roots entry) other directory := by
  unfold renameBack
  rw [rename_step_done succeeds isThere free]
  rfl

theorem rename_step_fails {attempt : Attempt} (fails : attempt.fails step = true) :
    renameStep roots entry other attempt step = .error (.failed step) := by
  unfold renameStep
  rw [fails]
  rfl

end

section

variable (id : String) (attempt : Attempt)

theorem staging_name_ne : stagingName id attempt ≠ id := by
  intro same
  have sizes := congrArg length same
  unfold stagingName at sizes
  rw [length_append, length_append] at sizes
  have isNine : ".staging-".length = 9 := rfl
  omega

theorem backup_name_ne : backupName id attempt ≠ id := by
  intro same
  have sizes := congrArg length same
  unfold backupName at sizes
  rw [length_append, length_append] at sizes
  have isEight : ".backup-".length = 8 := rfl
  omega

theorem delete_name_ne : deleteName id attempt ≠ id := by
  intro same
  have sizes := congrArg length same
  unfold deleteName at sizes
  rw [length_append, length_append] at sizes
  have isEight : ".delete-".length = 8 := rfl
  omega

theorem staging_name_ne_backup_name : stagingName id attempt ≠ backupName id attempt := by
  intro same
  have sizes := congrArg length same
  unfold stagingName backupName at sizes
  rw [length_append, length_append, length_append,
    length_append] at sizes
  have isNine : ".staging-".length = 9 := rfl
  have isEight : ".backup-".length = 8 := rfl
  omega

end

def strandsCandidate (roots : Roots) (candidate : String) (attempt : Attempt) : Bool :=
  !cannotMake roots candidate attempt .makeCandidate && attempt.fails .removeCandidate

variable {candidate : String}

section

variable {attempt : Attempt}

theorem cannot_make_eq_false : cannotMake roots entry attempt step = false ↔
    attempt.fails step = false ∧ roots entry = none := by
  unfold cannotMake
  rw [or_eq_false_iff, isSome_eq_false_iff, isNone_iff_eq_none]

inductive MovesAside (roots : Roots) (entry candidate : String) (directory : Directory)
    (attempt : Attempt) : Roots × Option PluginError → Prop
  | unmoved {err : PluginError} (clear : strandsCandidate roots candidate attempt = false)
      (fails : (cannotMake roots candidate attempt .makeCandidate ||
        attempt.fails .removeCandidate || attempt.fails .moveAway) = true) :
      MovesAside roots entry candidate directory attempt (roots, some err)
  | stranded {err : PluginError} (strands : strandsCandidate roots candidate attempt = true)
      (free : roots candidate = none) :
      MovesAside roots entry candidate directory attempt
        (Table.insert roots candidate [], some err)
  | moved (free : roots candidate = none)
      (succeeds : (cannotMake roots candidate attempt .makeCandidate ||
        attempt.fails .removeCandidate || attempt.fails .moveAway) = false) :
      MovesAside roots entry candidate directory attempt
        (Table.insert (Table.erase roots entry) candidate directory, none)

theorem move_aside_moves (candidate : String) (attempt : Attempt)
    (isThere : roots entry = some directory) :
    MovesAside roots entry candidate directory attempt
      (moveAside roots entry candidate attempt) := by
  unfold moveAside
  cases cannot : cannotMake roots candidate attempt .makeCandidate with
  | true =>
    refine .unmoved ?_ ?_
    · unfold strandsCandidate
      rw [cannot]
      rfl
    · rw [cannot]
      rfl
  | false =>
    have free := (cannot_make_eq_false.mp cannot).2
    cases stuck : attempt.fails .removeCandidate with
    | true =>
      refine .stranded ?_ free
      unfold strandsCandidate
      rw [cannot, stuck]
      rfl
    | false =>
      cases blocked : attempt.fails .moveAway with
      | true =>
        rw [rename_step_fails blocked]
        refine .unmoved ?_ ?_
        · unfold strandsCandidate
          rw [stuck, Bool.and_false]
        · rw [blocked, Bool.or_true]
      | false =>
        rw [rename_step_done blocked isThere free]
        refine .moved free ?_
        rw [cannot, stuck, blocked]
        rfl

end

/-- What a plugin's tools have to be before they are removed, so that they can come back: all
registered for an enabled plugin, and none for a disabled one. -/
def restorable (registry : Registry) (record : InstalledPluginRecord) : Bool :=
  if record.enabled then
    (installedPluginDefinitions record).all fun definition =>
      registry definition.tool.name == some (.plugin definition)
  else record.tools.all fun tool => (registry tool.name).isNone

variable {registry : Registry}

theorem declared_iff : ((installedPluginDefinitions record).all fun definition =>
    registry definition.tool.name == some (.plugin definition)) = true ↔ ∀ name definition,
    Declares record name definition → registry name = some (.plugin definition) := by
  rw [List.all_eq_true]
  constructor
  · rintro declared name definition ⟨mem, rfl⟩
    exact beq_iff_eq.mp (declared definition mem)
  · intro declared definition mem
    exact beq_iff_eq.mpr (declared _ definition ⟨mem, rfl⟩)

theorem register_back_iff :
    (registerInstalledPlugin (unregisterInstalledPlugin registry record) record).1 = registry ↔
    ∀ name definition, Declares record name definition →
    registry name = some (.plugin definition) := by
  constructor
  · intro same name definition declares
    rcases register_again registry record with ⟨next, isSuccess, isDeclared, _⟩
    rw [isSuccess] at same
    rw [← same]
    exact isDeclared name definition declares
  · exact register_back

theorem registered_again_iff : registeredAgain (unregisterInstalledPlugin registry record) record =
    registry ↔ restorable registry record = true := by
  unfold registeredAgain restorable
  split_ifs with isEnabled
  · rw [declared_iff]
    exact register_back_iff
  rw [List.all_eq_true]
  constructor
  · intro same tool mem
    rw [← same, unregister_of_name ⟨tool, mem, rfl⟩]
    rfl
  intro free
  funext name
  by_cases isName : ToolNames record name
  · rw [unregister_of_name isName]
    rcases isName with ⟨tool, mem, rfl⟩
    exact (isNone_iff_eq_none.mp (free tool mem)).symm
  · exact unregister_of_other isName

theorem registry_after_undo_iff : registryAfterUndo registry record = registry ↔
    (!record.enabled || restorable registry record) = true := by
  unfold registryAfterUndo restorable
  split_ifs with isEnabled
  · rw [isEnabled, Bool.not_true, Bool.false_or, declared_iff]
    exact register_back_iff
  · rw [not_eq_true] at isEnabled
    rw [isEnabled]
    exact ⟨fun _ => rfl, fun _ => rfl⟩

variable {w : World}

theorem world_eq_iff :
    ({ catalog := w.catalog, registry := registry, roots := roots } : World) = w ↔
      registry = w.registry ∧ roots = w.roots := by
  rw [World.mk.injEq]
  exact ⟨And.right, fun same => ⟨rfl, same⟩⟩

variable {env : Environment} {err : PluginError} {files : Directory}

section

variable {attempt : Attempt} {source : InstallSource}

theorem failed_preparation {existingID : String}
    (succeeds : attempt.fails .removeStagingRoot = false)
    (failed : prepareInstalledPlugin env w source attempt existingID = (roots, .error err)) :
    roots = w.roots := by
  have preparation := prepare_preparation env w attempt source existingID
  rw [failed] at preparation
  cases preparation with
  | refused => rfl
  | uncopied fresh =>
    rw [remove_all_done succeeds]
    exact erase_insert fresh

/-- What was prepared is in a new entry of the roots. -/
theorem prepared_entry {staging : Roots} {existingID : String}
    (prepared : prepareInstalledPlugin env w source attempt existingID = (staging, .ok staged)) :
    ∃ entry, staged.installRoot = some entry ∧ w.roots entry = none ∧
      staging = Table.insert w.roots entry attempt.files ∧ entry ≠ staged.id ∧
      entry ≠ backupName staged.id attempt := by
  have preparation := prepare_preparation env w attempt source existingID
  rw [prepared] at preparation
  cases preparation with
  | staged isEntry isRoot fresh =>
    exact ⟨_, isRoot, fresh, rfl, isEntry ▸ staging_name_ne _ _,
      isEntry ▸ staging_name_ne_backup_name _ _⟩

inductive Promotes (roots : Roots) (record : InstalledPluginRecord) (entry : String)
    (files : Directory) (attempt : Attempt) :
    Roots × Except PluginError InstalledPluginRecord → Prop
  | unpromoted {promoted : Roots} {err : PluginError}
      (fails : (attempt.fails .removeFinalRoot || attempt.fails .promote) = true)
      (remains : promoted entry = some files) :
      Promotes roots record entry files attempt (promoted, .error err)
  | promoted (succeeds : (attempt.fails .removeFinalRoot || attempt.fails .promote) = false) :
      Promotes roots record entry files attempt
        (Table.insert (Table.erase (Table.erase roots record.id) entry) record.id files,
          .ok { record with installRoot := some record.id })

theorem promote_promotes (attempt : Attempt) (isRoot : record.installRoot = some entry)
    (isThere : roots entry = some files) (apart : entry ≠ record.id) :
    Promotes roots record entry files attempt (promoteInstalledPlugin roots record attempt) := by
  unfold promoteInstalledPlugin
  dsimp only
  rw [isRoot, getD_some]
  cases unremoved : attempt.fails .removeFinalRoot with
  | true =>
    refine .unpromoted (by rw [unremoved]; rfl) ?_
    unfold removeAll
    split_ifs
    · rw [insert_of_ne apart]
      exact isThere
    · exact isThere
  | false =>
    have stillThere : erase roots record.id entry = some files := by
      rw [erase_of_ne apart]
      exact isThere
    cases unrenamed : attempt.fails .promote with
    | true =>
      rw [rename_step_fails unrenamed]
      exact .unpromoted (by rw [unrenamed, Bool.or_true]) stillThere
    | false =>
      rw [rename_step_done unrenamed stillThere (erase_self _ _)]
      exact .promoted (by rw [unremoved, unrenamed]; rfl)

/-- The promotion is not reached, or it does not fail and replaces nothing. -/
def installUndoes (env : Environment) (w : World) (source : InstallSource) (attempt : Attempt) :
    Bool :=
  match prepareInstalledPlugin env w source attempt "" with
  | (_, .error _) => true
  | (_, .ok staged) =>
    !(attempt.fails .removeFinalRoot || attempt.fails .promote) && (w.roots staged.id).isNone

theorem failed_install_iff
    (compensated : ∀ step, step.compensates = true → attempt.fails step = false)
    (failed : (installPlugin env w source attempt).2 = .error err) :
    (installPlugin env w source attempt).1 = w ↔ installUndoes env w source attempt = true := by
  have ends := install_plugin_outcome env w attempt source
  unfold installUndoes
  generalize installPlugin env w source attempt = outcome at ends failed ⊢
  cases ends with
  | unprepared notPrepared =>
    rw [notPrepared, failed_preparation (compensated _ rfl) notPrepared]
    exact ⟨fun _ => rfl, fun _ => rfl⟩
  | @unpromoted staging promoted staged err prepared notPromoted =>
    rw [prepared]
    obtain ⟨entry, isRoot, fresh, rfl, apart, _⟩ := prepared_entry prepared
    have promotes := promote_promotes attempt isRoot
      (insert_self w.roots entry attempt.files) apart
    rw [notPromoted] at promotes
    cases promotes with
    | unpromoted fails remains =>
      rw [world_eq_iff, fails]
      constructor
      · rintro ⟨_, same⟩
        rw [same, fresh] at remains
        cases remains
      · nofun
  | @undone staging promoted staged record err prepared isPromoted =>
    rw [prepared]
    obtain ⟨entry, isRoot, fresh, rfl, apart, _⟩ := prepared_entry prepared
    have promotes := promote_promotes attempt isRoot
      (insert_self w.roots entry attempt.files) apart
    rw [isPromoted] at promotes
    cases promotes with
    | promoted succeeds =>
      have cleaned : erase (insert (erase (erase (insert
          w.roots entry attempt.files) staged.id) entry) staged.id attempt.files)
            staged.id = erase w.roots staged.id := by
        rw [erase_comm, erase_insert fresh]
        exact erase_insert (erase_self _ _)
      rw [remove_all_done (compensated _ rfl), world_eq_iff, succeeds]
      dsimp only
      rw [Bool.not_false, Bool.true_and, Option.isNone_iff_eq_none,
        ← erase_eq_self_iff, cleaned]
      exact ⟨And.right, fun same => ⟨rfl, same⟩⟩
  | installed prepared isPromoted registers isCreated => cases failed

end

section

variable {attempt : Attempt} {id : String}

def disableUndoes (w : World) (id : String) : Bool :=
  match w.catalog.get id with
  | .error _ => true
  | .ok record => restorable w.registry record

theorem failed_enable (failed : (setPluginEnabled w id true attempt).2 = .error err) :
    (setPluginEnabled w id true attempt).1 = w := by
  have ends := enable_plugin_outcome w attempt id
  generalize setPluginEnabled w id true attempt = outcome at ends failed ⊢
  cases ends with
  | failed => rfl
  | enabled found registers replaced => cases failed

theorem failed_disable_iff (failed : (setPluginEnabled w id false attempt).2 = .error err) :
    (setPluginEnabled w id false attempt).1 = w ↔ disableUndoes w id = true := by
  have ends := disable_plugin_outcome w attempt id
  unfold disableUndoes
  generalize setPluginEnabled w id false attempt = outcome at ends failed ⊢
  cases ends with
  | missing absent =>
    rw [absent]
    exact ⟨fun _ => rfl, fun _ => rfl⟩
  | undone found =>
    rw [world_eq_iff, found]
    rw [← registered_again_iff]
    exact ⟨And.left, fun same => ⟨same, rfl⟩⟩
  | disabled found replaced => cases failed

def deleteStrands (roots : Roots) (record : InstalledPluginRecord) (attempt : Attempt) : Bool :=
  match record.installRoot with
  | none => false
  | some entry =>
    !attempt.fails .statRoot && (roots entry).isSome &&
      strandsCandidate roots (deleteName entry attempt) attempt

theorem strands_candidate_of_moved {roots : Roots} {candidate : String}
    (succeeds : (cannotMake roots candidate attempt .makeCandidate ||
      attempt.fails .removeCandidate || attempt.fails .moveAway) =
      false) :
    strandsCandidate roots candidate attempt = false := by
  rw [or_eq_false_iff, or_eq_false_iff] at succeeds
  unfold strandsCandidate
  rw [succeeds.1.2, Bool.and_false]

theorem delete_strands_of_root {roots : Roots} {record : InstalledPluginRecord} {entry : String}
    (isRoot : record.installRoot = some entry) :
    deleteStrands roots record attempt =
      (!attempt.fails .statRoot && (roots entry).isSome &&
        strandsCandidate roots (deleteName entry attempt) attempt) := by
  unfold deleteStrands
  rw [isRoot]

inductive Stages (roots : Roots) (record : InstalledPluginRecord) (attempt : Attempt) :
    Roots × Except PluginError (Option String) → Prop
  | unstaged {err : PluginError} (clear : deleteStrands roots record attempt = false) :
      Stages roots record attempt (roots, .error err)
  | stranded {candidate : String} {err : PluginError}
      (strands : deleteStrands roots record attempt = true) (free : roots candidate = none) :
      Stages roots record attempt (Table.insert roots candidate [], .error err)
  | nothing (clear : deleteStrands roots record attempt = false) :
      Stages roots record attempt (roots, .ok none)
  | moved {entry : String} {directory : Directory} (isRoot : record.installRoot = some entry)
      (isThere : roots entry = some directory) (free : roots (deleteName entry attempt) = none)
      (clear : deleteStrands roots record attempt = false) :
      Stages roots record attempt
        (Table.insert (Table.erase roots entry) (deleteName entry attempt) directory,
          .ok (some (deleteName entry attempt)))

theorem stage_stages (roots : Roots) (record : InstalledPluginRecord) (attempt : Attempt) :
    Stages roots record attempt (stageInstalledPluginRootRemoval roots record attempt) := by
  unfold stageInstalledPluginRootRemoval
  cases isRoot : record.installRoot with
  | none => exact .nothing (by unfold deleteStrands; rw [isRoot])
  | some entry =>
    have strands := @delete_strands_of_root attempt roots record entry isRoot
    dsimp only
    cases unread : attempt.fails .statRoot with
    | true =>
      rw [unread] at strands
      exact .unstaged strands
    | false =>
      rw [unread] at strands
      cases isThere : roots entry with
      | none => exact .nothing (by rw [strands, isThere, isSome_none]; rfl)
      | some directory =>
        rw [isThere] at strands
        have moves := move_aside_moves (deleteName entry attempt) attempt isThere
        generalize moveAside roots entry (deleteName entry attempt) attempt = result
          at moves ⊢
        cases moves with
        | unmoved clear fails => exact .unstaged (strands.trans clear)
        | stranded stuck free => exact .stranded (strands.trans stuck) free
        | moved free succeeds =>
          exact .moved isRoot isThere free
            (strands.trans (strands_candidate_of_moved succeeds))

def deleteUndoes (w : World) (id : String) (attempt : Attempt) : Bool :=
  match w.catalog.get id with
  | .error _ => true
  | .ok record => restorable w.registry record && !deleteStrands w.roots record attempt

theorem failed_delete_iff
    (compensated : ∀ step, step.compensates = true → attempt.fails step = false)
    (failed : (deleteInstalledPlugin w id attempt).2 = .error err) :
    (deleteInstalledPlugin w id attempt).1 = w ↔ deleteUndoes w id attempt = true := by
  have ends := delete_plugin_outcome w attempt id
  unfold deleteUndoes
  generalize deleteInstalledPlugin w id attempt = outcome at ends failed ⊢
  cases ends with
  | missing absent =>
    rw [absent]
    exact ⟨fun _ => rfl, fun _ => rfl⟩
  | @unstaged record roots err found notStaged =>
    have stages := stage_stages w.roots record attempt
    rw [world_eq_iff, registered_again_iff, found]
    dsimp only
    rw [notStaged] at stages
    cases stages with
    | unstaged clear =>
      rw [clear, Bool.not_false, Bool.and_true]
      exact ⟨And.left, fun isRestorable => ⟨isRestorable, rfl⟩⟩
    | @stranded candidate err strands free =>
      rw [strands, Bool.not_true, Bool.and_false]
      constructor
      · rintro ⟨_, same⟩
        rw [← same, insert_self] at free
        cases free
      · nofun
  | @undone record roots removalRoot err found staged =>
    have stages := stage_stages w.roots record attempt
    rw [world_eq_iff, registered_again_iff, found]
    dsimp only
    rw [staged] at stages
    cases stages with
    | nothing clear =>
      rw [clear, Bool.not_false, Bool.and_true]
      refine ⟨And.left, fun isRestorable => ⟨isRestorable, ?_⟩⟩
      unfold restoreStagedInstalledPluginRoot
      split
      · split_ifs
        · rfl
        · contradiction
      · rfl
    | @moved entry directory isRoot isThere free clear =>
      rw [clear, Bool.not_false, Bool.and_true]
      refine ⟨And.left, fun isRestorable => ⟨isRestorable, ?_⟩⟩
      have apart : entry ≠ deleteName entry attempt := Ne.symm (delete_name_ne _ _)
      have absent : insert (erase w.roots entry) (deleteName entry attempt)
          directory entry = none := by
        rw [insert_of_ne apart]
        exact erase_self _ _
      unfold restoreStagedInstalledPluginRoot
      rw [isRoot]
      dsimp only
      rw [if_neg (by rw [absent]; nofun), rename_back_done (compensated _ rfl) (insert_self _
        _ _) absent, erase_insert, insert_erase isThere]
      rw [erase_of_ne (Ne.symm apart)]
      exact free
  | deleted found staged isDeleted => cases failed

end

variable {attempt : Attempt} {id : String}

def swapFails (roots : Roots) (id : String) (attempt : Attempt) : Bool :=
  attempt.fails .statRoot ||
    (roots id).isSome && (cannotMake roots (backupName id attempt) attempt .makeCandidate ||
      attempt.fails .removeCandidate || attempt.fails .moveAway) ||
    attempt.fails .promote

def swapStrands (roots : Roots) (id : String) (attempt : Attempt) : Bool :=
  !attempt.fails .statRoot && (roots id).isSome &&
    strandsCandidate roots (backupName id attempt) attempt

inductive Swaps (roots : Roots) (staged : InstalledPluginRecord) (entry : String)
    (files : Directory) (attempt : Attempt) :
    Roots × Except PluginError (Option String × InstalledPluginRecord) → Prop
  | kept {err : PluginError} (fails : swapFails roots staged.id attempt = true)
      (clear : swapStrands roots staged.id attempt = false) :
      Swaps roots staged entry files attempt (roots, .error err)
  | stranded {err : PluginError} (fails : swapFails roots staged.id attempt = true)
      (strands : swapStrands roots staged.id attempt = true)
      (free : roots (backupName staged.id attempt) = none) :
      Swaps roots staged entry files attempt
        (Table.insert roots (backupName staged.id attempt) [], .error err)
  | fresh (succeeds : swapFails roots staged.id attempt = false)
      (free : roots staged.id = none) :
      Swaps roots staged entry files attempt
        (Table.insert (Table.erase roots entry) staged.id files,
          .ok (none, { staged with installRoot := some staged.id }))
  | replaced {directory : Directory} (succeeds : swapFails roots staged.id attempt = false)
      (isThere : roots staged.id = some directory)
      (free : roots (backupName staged.id attempt) = none) :
      Swaps roots staged entry files attempt
        (Table.insert (Table.erase (Table.insert (Table.erase roots staged.id)
            (backupName staged.id attempt) directory) entry) staged.id files,
          .ok (some (backupName staged.id attempt),
            { staged with installRoot := some staged.id }))

theorem swap_swaps (attempt : Attempt) (compensated : attempt.fails .moveBack = false)
    (isRoot : staged.installRoot = some entry) (isStaged : roots entry = some files)
    (apart : entry ≠ staged.id) (unlike : entry ≠ backupName staged.id attempt) :
    Swaps roots staged entry files attempt (swapInstalledPluginRoot roots staged attempt) := by
  have fails : swapFails roots staged.id attempt = (attempt.fails .statRoot ||
      (roots staged.id).isSome &&
        (cannotMake roots (backupName staged.id attempt) attempt .makeCandidate ||
          attempt.fails .removeCandidate || attempt.fails .moveAway) ||
      attempt.fails .promote) := rfl
  have strands : swapStrands roots staged.id attempt = (!attempt.fails .statRoot &&
      (roots staged.id).isSome &&
      strandsCandidate roots (backupName staged.id attempt) attempt) := rfl
  unfold swapInstalledPluginRoot
  dsimp only
  rw [isRoot, getD_some]
  cases unread : attempt.fails .statRoot with
  | true =>
    rw [unread] at fails strands
    exact .kept fails strands
  | false =>
    rw [unread] at fails
    rw [unread] at strands
    rw [if_neg Bool.false_ne_true]
    cases isThere : roots staged.id with
    | none =>
      rw [isThere] at fails
      rw [isThere] at strands
      cases unrenamed : attempt.fails .promote with
      | true =>
        rw [rename_step_fails unrenamed]
        exact .kept (fails.trans unrenamed) strands
      | false =>
        rw [rename_step_done unrenamed isStaged isThere]
        exact .fresh (fails.trans unrenamed) isThere
    | some directory =>
      rw [isThere] at fails strands
      rw [if_neg (by nofun)]
      have moves := move_aside_moves (backupName staged.id attempt) attempt isThere
      generalize moveAside roots staged.id (backupName staged.id attempt) attempt = result
        at moves ⊢
      cases moves with
      | unmoved clear isFailure =>
        rw [isFailure] at fails
        exact .kept fails (strands.trans clear)
      | stranded stuck free =>
        have isFailure : attempt.fails .removeCandidate = true :=
          (and_eq_true_iff.mp stuck).2
        rw [isFailure, Bool.or_true] at fails
        exact .stranded fails (strands.trans stuck) free
      | moved free succeeds =>
        rw [succeeds] at fails
        have clear := strands.trans (strands_candidate_of_moved succeeds)
        have isBackup : insert (erase roots staged.id)
            (backupName staged.id attempt) directory (backupName staged.id attempt) =
              some directory := insert_self _ _ _
        have isFree : insert (erase roots staged.id)
            (backupName staged.id attempt) directory staged.id = none := by
          rw [insert_of_ne (Ne.symm (backup_name_ne _ _))]
          exact erase_self _ _
        have stillStaged : insert (erase roots staged.id)
            (backupName staged.id attempt) directory entry = some files := by
          rw [insert_of_ne unlike, erase_of_ne apart]
          exact isStaged
        dsimp only
        cases unrenamed : attempt.fails .promote with
        | true =>
          rw [rename_step_fails unrenamed]
          rw [rename_back_done compensated isBackup isFree, erase_insert,
            insert_erase isThere]
          · exact .kept (fails.trans unrenamed) clear
          · rw [erase_of_ne (backup_name_ne _ _)]
            exact free
        | false =>
          rw [rename_step_done unrenamed stillStaged isFree]
          exact .replaced (fails.trans unrenamed) isThere free

theorem restore_swapped {swapped : Roots} {existing next : InstalledPluginRecord}
    {backup : Option String}
    (compensated : ∀ step, step.compensates = true → attempt.fails step = false)
    (apart : entry ≠ staged.id) (unlike : entry ≠ backupName staged.id attempt)
    (sameID : staged.id = existing.id)
    (swaps : Swaps roots staged entry files attempt (swapped, .ok (backup, next))) :
    Table.erase (restoreInstalledPluginRoot swapped existing next backup attempt) entry =
    Table.erase roots entry := by
  have twice : ∀ table : Roots, erase (erase table entry) entry =
      erase table entry := fun table => erase_absent (erase_self _ _)
  unfold restoreInstalledPluginRoot
  rw [compensated .removeNext rfl, if_neg Bool.false_ne_true,
    remove_all_done (compensated .removeNext rfl)]
  cases swaps with
  | fresh succeeds free =>
    dsimp only [getD_some]
    rw [erase_insert, twice]
    rw [erase_of_ne (Ne.symm apart)]
    exact free
  | @replaced directory succeeds isThere free =>
    dsimp only [getD_some]
    have different := backup_name_ne staged.id attempt
    have isFree : erase (insert (erase roots staged.id)
        (backupName staged.id attempt) directory) entry staged.id = none := by
      rw [erase_of_ne (Ne.symm apart), insert_of_ne (Ne.symm different)]
      exact erase_self _ _
    have isBackup : erase (insert (erase roots staged.id)
        (backupName staged.id attempt) directory) entry (backupName staged.id attempt) =
          some directory := by
      rw [erase_of_ne (Ne.symm unlike)]
      exact insert_self _ _ _
    rw [erase_insert isFree, ← sameID, rename_back_done (compensated .moveBack rfl) isBackup
      isFree, erase_comm, erase_insert]
    · rw [erase_comm, insert_erase]
      · exact twice _
      · rw [erase_of_ne (Ne.symm apart)]
        exact isThere
    · rw [erase_of_ne different]
      exact free

/-- The swap is not reached, or it fails and leaves no directory behind, or the tools of the
plugin, if it is enabled, are registered. -/
def updateUndoes (env : Environment) (w : World) (id : String) (attempt : Attempt) : Bool :=
  match w.catalog.get id with
  | .error _ => true
  | .ok existing =>
    match prepareInstalledPlugin env w existing.source attempt existing.id with
    | (_, .error _) => true
    | (_, .ok _) =>
      if swapFails w.roots existing.id attempt then !swapStrands w.roots existing.id attempt
      else !existing.enabled || restorable w.registry existing

theorem swap_conditions {entry : String} {files : Directory} (apart : entry ≠ id)
    (unlike : entry ≠ backupName id attempt) :
    swapFails (Table.insert w.roots entry files) id attempt = swapFails w.roots id attempt ∧
    swapStrands (Table.insert w.roots entry files) id attempt = swapStrands w.roots id attempt := by
  have sameID : insert w.roots entry files id = w.roots id :=
    insert_of_ne (Ne.symm apart) files
  have sameBackup : insert w.roots entry files (backupName id attempt) =
      w.roots (backupName id attempt) := insert_of_ne (Ne.symm unlike) files
  unfold swapFails swapStrands strandsCandidate cannotMake
  rw [sameID, sameBackup]
  exact ⟨rfl, rfl⟩

theorem failed_update_iff
    (compensated : ∀ step, step.compensates = true → attempt.fails step = false)
    (failed : (updateInstalledPlugin env w id attempt).2 = .error err) :
    (updateInstalledPlugin env w id attempt).1 = w ↔ updateUndoes env w id attempt = true := by
  have ends := update_plugin_outcome env w attempt id
  unfold updateUndoes
  generalize updateInstalledPlugin env w id attempt = outcome at ends failed ⊢
  cases ends with
  | missing absent =>
    rw [absent]
    exact ⟨fun _ => rfl, fun _ => rfl⟩
  | unprepared found notPrepared =>
    rw [found, failed_preparation (compensated _ rfl) notPrepared]
    dsimp only
    rw [notPrepared]
    exact ⟨fun _ => rfl, fun _ => rfl⟩
  | @unswapped existing staged staging swapped err found prepared notSwapped =>
    have sameID := update_keeps_id prepared
    rw [found]
    dsimp only
    rw [prepared]
    obtain ⟨entry, isRoot, fresh, rfl, apart, unlike⟩ := prepared_entry prepared
    have swaps := swap_swaps attempt (compensated _ rfl) isRoot
      (insert_self w.roots entry attempt.files) apart unlike
    have conditions := @swap_conditions w attempt staged.id entry attempt.files apart unlike
    rw [notSwapped] at swaps
    rw [remove_all_done (compensated _ rfl), world_eq_iff, isRoot, getD_some, ← sameID,
      ← conditions.1, ← conditions.2]
    cases swaps with
    | kept fails clear =>
      rw [if_pos fails, clear, erase_insert fresh]
      exact ⟨fun _ => rfl, fun _ => ⟨rfl, rfl⟩⟩
    | stranded fails strands free =>
      rw [if_pos fails, strands]
      constructor
      · rintro ⟨_, same⟩
        rw [insert_of_ne (Ne.symm unlike)] at free
        rw [← same, erase_of_ne (Ne.symm unlike), insert_self] at free
        cases free
      · nofun
  | @undone existing staged next staging swapped backup err found prepared isSwapped =>
    have sameID := update_keeps_id prepared
    rw [found]
    dsimp only
    rw [prepared]
    obtain ⟨entry, isRoot, fresh, rfl, apart, unlike⟩ := prepared_entry prepared
    have swaps := swap_swaps attempt (compensated _ rfl) isRoot
      (insert_self w.roots entry attempt.files) apart unlike
    have conditions := @swap_conditions w attempt staged.id entry attempt.files apart unlike
    rw [isSwapped] at swaps
    have restored := restore_swapped compensated apart unlike sameID swaps
    have succeeds : swapFails w.roots existing.id attempt = false := by
      rw [← sameID, ← conditions.1]
      cases swaps with
      | fresh succeeds | replaced succeeds => exact succeeds
    rw [remove_all_done (compensated _ rfl), world_eq_iff, isRoot, getD_some, restored,
      erase_insert fresh, registry_after_undo_iff]
    rw [if_neg (by rw [succeeds]; exact false_ne_true)]
    exact ⟨And.left, fun isRestorable => ⟨isRestorable, rfl⟩⟩
  | updated found prepared isSwapped registers replaced => cases failed

def undoes (env : Environment) (w : World) (attempt : Attempt) : Operation → Bool
  | .installPlugin source => installUndoes env w source attempt
  | .setPluginEnabled _ true => true
  | .setPluginEnabled id false => disableUndoes w id
  | .updateInstalledPlugin id => updateUndoes env w id attempt
  | .deleteInstalledPlugin id => deleteUndoes w id attempt

theorem failed_operation_iff {operation : Operation}
    (compensated : ∀ step, step.compensates = true → attempt.fails step = false)
    (failed : (perform env w attempt operation).2 = .error err) :
    (perform env w attempt operation).1 = w ↔ undoes env w attempt operation = true := by
  cases operation with
  | installPlugin source => exact failed_install_iff compensated failed
  | updateInstalledPlugin id => exact failed_update_iff compensated failed
  | deleteInstalledPlugin id => exact failed_delete_iff compensated failed
  | setPluginEnabled id enabled =>
    cases enabled with
    | true => exact ⟨fun _ => rfl, fun _ => failed_enable failed⟩
    | false => exact failed_disable_iff failed

end RuneTerminal.PluginInstall
