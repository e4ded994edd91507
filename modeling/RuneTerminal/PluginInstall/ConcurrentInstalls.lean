import RuneTerminal.PluginInstall.ToolOwnership
import RuneTerminal.PluginInstall.Undo

/-! No lock is held over an installation: a directory that one has promoted may be removed by
another one of the same plugin. -/

namespace RuneTerminal.PluginInstall

open Kit Table

structure Downloads (id : String) where
  record : Nat → InstalledPluginRecord
  files : Nat → Directory
  sameID : ∀ install, (record install).id = id

/-- Where an installation is, at the points at which others may come between. -/
inductive Phase where
  | downloaded
  | checked
  | staged (entry : String)
  | cleared (entry : String)
  | promoted
  | registering (rest : List PluginDefinition)
  | unregistering (rest : List InstalledPluginTool) (err : PluginError)
  | cleaning (err : PluginError)
  | returned (result : Except PluginError InstalledPluginRecord)

/-- `promoter` is the installation whose directory, untouched, is under the plugin's name. -/
structure Server where
  world : World
  phases : Nat → Phase
  promoter : Option Nat

def Server.move (s : Server) (install : Nat) (phase : Phase) : Server :=
  { s with phases := Function.update s.phases install phase }

def Server.withRoots (s : Server) (roots : Roots) : Server :=
  { s with world := { s.world with roots := roots } }

def Server.withRegistry (s : Server) (registry : Registry) : Server :=
  { s with world := { s.world with registry := registry } }

section

variable {id entry : String} (downloads : Downloads id) {phase : Phase} {roots : Roots}
  {step : Step}

def stageInstall (s : Server) (install : Nat) (attempt : Attempt) : Server :=
  let entry := stagingName id attempt
  if '/' ∈ id.toList ∨ cannotMake s.world.roots entry attempt .makeStagingRoot then
    s.move install (.returned (.error (.failed .makeStagingRoot)))
  else if attempt.fails .copyDirectory then
    (s.withRoots (removeAll (Table.insert s.world.roots entry attempt.copied) entry attempt
      .removeStagingRoot)).move install (.returned (.error (.failed .copyDirectory)))
  else
    (s.withRoots (Table.insert s.world.roots entry (downloads.files install))).move install
      (.staged entry)

def removeRoot (id : String) (s : Server) (attempt : Attempt) (step : Step) : Server :=
  { s.withRoots (removeAll s.world.roots id attempt step) with promoter := none }

def advance (s : Server) (action : Nat × Attempt) : Option Server :=
  let (install, attempt) := action
  match s.phases install with
  | .downloaded =>
    some (if (s.world.catalog.get id).toOption.isSome then
      s.move install (.returned (.error (.alreadyInstalled id)))
    else s.move install .checked)
  | .checked => some (stageInstall downloads s install attempt)
  | .staged entry =>
    let removed := removeRoot id s attempt .removeFinalRoot
    some (if attempt.fails .removeFinalRoot then
      removed.move install (.returned (.error (.failed .removeFinalRoot)))
    else removed.move install (.cleared entry))
  | .cleared entry =>
    match renameStep s.world.roots entry id attempt .promote with
    | .error err => some (s.move install (.returned (.error err)))
    | .ok roots =>
      some ({ s.withRoots roots with promoter := some install }.move install .promoted)
  | .promoted =>
    let definitions := installedPluginDefinitions (downloads.record install)
    match definitions.find? fun definition =>
        (s.world.registry definition.tool.name).isSome with
    | some definition =>
      some (s.move install (.cleaning (.invalidSpec
        ("tool " ++ definition.tool.name ++ " is already registered"))))
    | none => some (s.move install (.registering definitions))
  | .registering (definition :: rest) =>
    match s.world.registry.register definition with
    | .error err => some (s.move install (.cleaning err))
    | .ok registry => some ((s.withRegistry registry).move install (.registering rest))
  | .registering [] =>
    match s.world.catalog.create (downloads.record install).turnedOn attempt.now
        (attempt.fails .save) with
    | .error err => some (s.move install (.unregistering (downloads.record install).tools err))
    | .ok (created, catalog) =>
      some ({ s with world := { s.world with catalog := catalog } }.move install
        (.returned (.ok created)))
  | .unregistering (tool :: rest) err =>
    some ((s.withRegistry (Table.erase s.world.registry tool.name)).move install
      (.unregistering rest err))
  | .unregistering [] err => some (s.move install (.cleaning err))
  | .cleaning err =>
    some ((removeRoot id s attempt .cleanup).move install (.returned (.error err)))
  | .returned _ => none

def Phase.live : Phase → Bool
  | .promoted | .registering _ | .returned (.ok _) => true
  | _ => false

def Phase.failed : Phase → Bool
  | .unregistering _ _ | .cleaning _ | .returned (.error _) => true
  | _ => false

def Phase.staging : Phase → Option String
  | .staged entry | .cleared entry => some entry
  | _ => none

/-- An installation removes what is under the plugin's name only when no other one that has
not failed has put it there. -/
def removesOwn (s : Server) (action : Nat × Attempt) : Bool :=
  match s.phases action.1 with
  | .staged _ | .cleaning _ =>
    match s.promoter with
    | none => true
    | some other => other == action.1 || (s.phases other).failed
  | _ => true

structure Kept (s : Server) : Prop where
  present : ∀ install, (s.phases install).live = true →
    s.promoter = some install ∧ s.world.roots id = some (downloads.files install)
  waiting : ∀ install entry, (s.phases install).staging = some entry →
    s.world.roots entry = some (downloads.files install) ∧ entry ≠ id
  apart : ∀ first second entry, (s.phases first).staging = some entry →
    (s.phases second).staging = some entry → first = second

structure AtDownload (s : Server) : Prop where
  phases : ∀ install, s.phases install = .downloaded
  promoter : s.promoter = none

variable {downloads} {s next : Server} {install : Nat}

theorem kept_at_download (isStart : AtDownload s) : Kept downloads s := by
  constructor
  · intro install isLive
    rw [isStart.phases install] at isLive
    cases isLive
  · intro install entry isStaged
    rw [isStart.phases install] at isStaged
    cases isStaged
  · intro first second entry isStaged
    rw [isStart.phases first] at isStaged
    cases isStaged

theorem Kept.after (kept : Kept downloads s) (phase : Phase)
    (moved : next.phases = Function.update s.phases install phase)
    (mine : phase.live = true →
      next.promoter = some install ∧ next.world.roots id = some (downloads.files install))
    (others : ∀ other, other ≠ install → (s.phases other).live = true →
      next.promoter = s.promoter ∧ next.world.roots id = s.world.roots id)
    (staged : ∀ entry, phase.staging = some entry →
      next.world.roots entry = some (downloads.files install) ∧ entry ≠ id ∧
        ∀ other, other ≠ install → (s.phases other).staging ≠ some entry)
    (stays : ∀ other entry, other ≠ install → (s.phases other).staging = some entry →
      next.world.roots entry = s.world.roots entry) :
    Kept downloads next := by
  have own : next.phases install = phase := by rw [moved, Function.update_self]
  have same : ∀ other, other ≠ install → next.phases other = s.phases other := by
    intro other ne
    rw [moved, Function.update_of_ne ne]
  constructor
  · intro other isLive
    by_cases isOwn : other = install
    · subst isOwn
      rw [own] at isLive
      exact mine isLive
    rw [same other isOwn] at isLive
    rcases others other isOwn isLive with ⟨samePromoter, sameRoot⟩
    rw [samePromoter, sameRoot]
    exact kept.present other isLive
  · intro other entry isStaged
    by_cases isOwn : other = install
    · subst isOwn
      rw [own] at isStaged
      rcases staged entry isStaged with ⟨isThere, ne, _⟩
      exact ⟨isThere, ne⟩
    · rw [same other isOwn] at isStaged
      rw [stays other entry isOwn isStaged]
      exact kept.waiting other entry isStaged
  intro first second entry isFirst isSecond
  by_cases ownFirst : first = install
  · subst ownFirst
    by_contra ne
    rw [own] at isFirst
    rw [same second (Ne.symm ne)] at isSecond
    exact (staged entry isFirst).2.2 second (Ne.symm ne) isSecond
  rw [same first ownFirst] at isFirst
  by_cases ownSecond : second = install
  · subst ownSecond
    rw [own] at isSecond
    exact absurd isFirst ((staged entry isSecond).2.2 first ownFirst)
  · rw [same second ownSecond] at isSecond
    exact kept.apart first second entry isFirst isSecond

theorem Kept.onward (kept : Kept downloads s)
    (moved : next.phases = Function.update s.phases install phase)
    (sameRoots : next.world.roots = s.world.roots) (samePromoter : next.promoter = s.promoter)
    (isLive : phase.live = true → (s.phases install).live = true)
    (unstaged : phase.staging = none) : Kept downloads next := by
  apply kept.after phase moved
  · intro nowLive
    rw [sameRoots, samePromoter]
    exact kept.present install (isLive nowLive)
  · intro other _ _
    rw [sameRoots]
    exact ⟨samePromoter, rfl⟩
  · intro entry isStaged
    rw [unstaged] at isStaged
    cases isStaged
  · intro other entry _ _
    rw [sameRoots]

theorem failed_of_live (isLive : phase.live = true) : phase.failed = false := by
  cases phase with
  | returned result =>
    cases result with
    | error err => cases isLive
    | ok record => rfl
  | unregistering | cleaning => cases isLive
  | downloaded | checked | staged | cleared | promoted | registering => rfl

variable {attempt : Attempt}

theorem no_other_live (kept : Kept downloads s) (allowed : removesOwn s (install, attempt) = true)
    (removes : (∃ entry, s.phases install = .staged entry) ∨
      ∃ err, s.phases install = .cleaning err)
    (other : Nat) (ne : other ≠ install) : ¬ (s.phases other).live = true := by
  intro isLive
  have isPromoter := (kept.present other isLive).1
  have isOwn : (other == install || (s.phases other).failed) = true := by
    unfold removesOwn at allowed
    rcases removes with ⟨entry, isPhase⟩ | ⟨err, isPhase⟩
    · rw [isPhase, isPromoter] at allowed
      exact allowed
    · rw [isPhase, isPromoter] at allowed
      exact allowed
  rcases Bool.or_eq_true_iff.mp isOwn with isSame | hasFailed
  · exact ne (beq_iff_eq.mp isSame)
  · rw [failed_of_live isLive] at hasFailed
    cases hasFailed

theorem remove_all_of_ne {other : String} (ne : other ≠ entry) :
    removeAll roots entry attempt step other = roots other := by
  unfold removeAll
  split_ifs
  · exact insert_of_ne ne _
  · rfl
  · exact erase_of_ne ne

theorem Kept.removed (kept : Kept downloads s) {phase : Phase} {step : Step}
    (allowed : removesOwn s (install, attempt) = true)
    (removes : (∃ entry, s.phases install = .staged entry) ∨
      ∃ err, s.phases install = .cleaning err)
    (notLive : phase.live = false)
    (sameStaging : ∀ entry, phase.staging = some entry → (s.phases install).staging = some entry) :
    Kept downloads ((removeRoot id s attempt step).move install phase) := by
  refine kept.after phase rfl ?_ ?_ ?_ ?_
  · intro isLive
    rw [notLive] at isLive
    cases isLive
  · intro other ne isLive
    exact absurd isLive (no_other_live kept allowed removes other ne)
  · intro entry isStaged
    have wasStaged := sameStaging entry isStaged
    rcases kept.waiting install entry wasStaged with ⟨isThere, apart⟩
    refine ⟨?_, apart, ?_⟩
    · exact (remove_all_of_ne apart).trans isThere
    · intro other ne isOther
      exact ne (kept.apart other install entry isOther wasStaged)
  · intro other entry _ isStaged
    exact remove_all_of_ne (kept.waiting other entry isStaged).2

theorem rename_step_ok {moved : Roots} {target : String}
    (done : renameStep roots entry target attempt step = .ok moved) :
    ∃ directory, roots entry = some directory ∧ roots target = none ∧
    moved = Table.insert (Table.erase roots entry) target directory := by
  unfold renameStep rename at done
  split_ifs at done
  split at done
  · cases done
  next result renamed =>
    cases done
    split at renamed
    next directory isThere free => exact ⟨directory, isThere, free, (Option.some.inj renamed).symm⟩
    · cases renamed

theorem Kept.staged (kept : Kept downloads s) (attempt : Attempt) :
    Kept downloads (stageInstall downloads s install attempt) := by
  unfold stageInstall
  dsimp only
  split_ifs with unusable uncopied
  · refine kept.onward rfl rfl rfl ?_ rfl
    intro isLive
    cases isLive
  · rw [not_or, Bool.not_eq_true] at unusable
    have fresh := (cannot_make_eq_false.mp unusable.2).2
    have stays : ∀ entry, entry ≠ stagingName id attempt →
        removeAll (insert s.world.roots (stagingName id attempt) attempt.copied)
          (stagingName id attempt) attempt .removeStagingRoot entry = s.world.roots entry := by
      intro entry ne
      rw [remove_all_of_ne ne, insert_of_ne ne]
    refine kept.after (.returned (.error (.failed .copyDirectory))) rfl ?_ ?_ ?_ ?_
    · intro isLive
      cases isLive
    · intro other _ _
      exact ⟨rfl, stays id (Ne.symm (staging_name_ne _ _))⟩
    · intro entry isStaged
      cases isStaged
    intro other entry _ isStaged
    apply stays
    rintro rfl
    rw [(kept.waiting other _ isStaged).1] at fresh
    cases fresh
  · rw [not_or, Bool.not_eq_true] at unusable
    have fresh := (cannot_make_eq_false.mp unusable.2).2
    have notStaged : ∀ other, (s.phases other).staging ≠ some (stagingName id attempt) := by
      intro other isStaged
      rw [(kept.waiting other _ isStaged).1] at fresh
      cases fresh
    refine kept.after (.staged (stagingName id attempt)) rfl ?_ ?_ ?_ ?_
    · intro isLive
      cases isLive
    · intro other _ _
      exact ⟨rfl, insert_of_ne (Ne.symm (staging_name_ne _ _)) _⟩
    · intro entry isEntry
      cases isEntry
      exact ⟨insert_self _ _ _, staging_name_ne _ _, fun other _ => notStaged other⟩
    intro other entry _ isStaged
    apply insert_of_ne
    rintro rfl
    exact notStaged other isStaged

theorem Kept.promoted (kept : Kept downloads s) (isPhase : s.phases install = .cleared entry)
    (done : renameStep s.world.roots entry id attempt .promote = .ok roots) :
    Kept downloads
      ({ s.withRoots roots with promoter := some install }.move install .promoted) := by
  rcases rename_step_ok done with ⟨directory, isThere, free, rfl⟩
  have isStaged : (s.phases install).staging = some entry := by rw [isPhase]; rfl
  rcases kept.waiting install entry isStaged with ⟨isFiles, apart⟩
  cases (isThere.symm.trans isFiles)
  refine kept.after .promoted rfl ?_ ?_ nofun ?_
  · intro _
    exact ⟨rfl, insert_self _ _ _⟩
  · intro other _ isLive
    rw [(kept.present other isLive).2] at free
    cases free
  intro other third ne isOther
  have unlike : third ≠ entry := by
    rintro rfl
    exact ne (kept.apart other install third isOther isStaged)
  exact (insert_of_ne (kept.waiting other third isOther).2 _).trans
    (erase_of_ne unlike)

theorem advance_keeps {action : Nat × Attempt} (kept : Kept downloads s)
    (allowed : removesOwn s action = true) (taken : advance downloads s action = some next) :
    Kept downloads next := by
  obtain ⟨install, attempt⟩ := action
  unfold advance at taken
  dsimp only at taken
  cases isPhase : s.phases install with
  | downloaded =>
    rw [isPhase] at taken
    cases taken
    split_ifs
    · exact kept.onward rfl rfl rfl nofun rfl
    · exact kept.onward rfl rfl rfl nofun rfl
  | checked =>
    rw [isPhase] at taken
    cases taken
    exact kept.staged attempt
  | staged entry =>
    rw [isPhase] at taken
    cases taken
    split_ifs
    · exact kept.removed allowed (.inl ⟨entry, isPhase⟩) rfl nofun
    refine kept.removed allowed (.inl ⟨entry, isPhase⟩) rfl ?_
    intro other isOther
    rw [isPhase]
    exact isOther
  | cleared entry =>
    rw [isPhase] at taken
    dsimp only at taken
    split at taken
    · cases taken
      exact kept.onward rfl rfl rfl nofun rfl
    next roots done =>
      cases taken
      exact kept.promoted isPhase done
  | promoted =>
    rw [isPhase] at taken
    dsimp only at taken
    split at taken
    · cases taken
      exact kept.onward rfl rfl rfl nofun rfl
    cases taken
    refine kept.onward rfl rfl rfl ?_ rfl
    intro _
    rw [isPhase]
    rfl
  | registering rest =>
    have isLive : (s.phases install).live = true := by rw [isPhase]; rfl
    rw [isPhase] at taken
    cases rest with
    | nil | cons =>
      dsimp only at taken
      split at taken
      · cases taken
        exact kept.onward rfl rfl rfl nofun rfl
      · cases taken
        exact kept.onward rfl rfl rfl (fun _ => isLive) rfl
  | unregistering rest err =>
    rw [isPhase] at taken
    cases rest with
    | nil | cons =>
      cases taken
      exact kept.onward rfl rfl rfl nofun rfl
  | cleaning err =>
    rw [isPhase] at taken
    cases taken
    exact kept.removed allowed (.inr ⟨err, isPhase⟩) rfl nofun
  | returned result =>
    rw [isPhase] at taken
    cases taken

end

/-- An operation that returns an error leaves everything as it was exactly under the condition
`undoes`, and an installation keeps its files as long as no other one removes them. -/
theorem plugin_operations_are_atomic (env : Environment) (w : World) (attempt : Attempt)
    (operation : Operation) (id : String) (downloads : Downloads id) :
    (∀ err, (∀ step, step.compensates = true → attempt.fails step = false) →
      (perform env w attempt operation).2 = .error err →
      ((perform env w attempt operation).1 = w ↔ undoes env w attempt operation = true)) ∧
    ∀ s, Reachable AtDownload (guarded removesOwn (advance downloads)) s →
      ∀ install record, s.phases install = .returned (.ok record) →
        s.world.roots id = some (downloads.files install) := by
  constructor
  · intro err compensated failed
    exact failed_operation_iff compensated failed
  intro s reachable install record succeeded
  have kept : Kept downloads s := by
    refine reachable.invariant kept_at_download ?_
    intro s action next isKept taken
    rcases guarded_eq_some.mp taken with ⟨allowed, stepped⟩
    exact advance_keeps isKept allowed stepped
  refine (kept.present install ?_).2
  rw [succeeded]
  rfl

def toolRecord : InstalledPluginRecord :=
  { id := "a"
    named := by decide
    clean := by decide
    displayName := "a"
    description := ""
    pluginVersion := "1"
    protocolVersion := protocolVersionV1
    capabilities := []
    normal := rfl
    tools :=
      [{ name := "t"
         description := ""
         inputSchema := anyObjectSchema
         outputSchema := anyObjectSchema
         capabilities := []
         approvalTier := .safe
         mutating := false
         targetKind := .workspace }]
    proper := ⟨by decide, by decide, by decide⟩
    source := gitSource
    enabled := true
    runtimeStatus := .ready }

def twoDownloads : Downloads "a" :=
  { record := fun _ => toolRecord
    files := fun install => [("main", toString install)]
    sameID := fun _ => rfl }

def downloaded : Server :=
  { world := freshWorld fun _ => false, phases := fun _ => .downloaded, promoter := none }

theorem downloaded_at_download : AtDownload downloaded := ⟨fun _ => rfl, rfl⟩

def act (install : Nat) : Nat × Attempt :=
  (install, { manifest := toolManifest "a" "t", random := toString install })

def mixedRun : List (Nat × Attempt) :=
  [act 0, act 1, act 0, act 0, act 0, act 0, act 0, act 0,
    act 1, act 1, act 1, act 1, act 1]

def refusedRun : List (Nat × Attempt) :=
  [act 0, act 0, act 0, act 0, act 0, act 0, act 0, act 1]

def failedSave : Attempt :=
  { manifest := toolManifest "a" "t", fails := fun step => step == .save }

def bothReturned (s : Server) : Bool :=
  match s.phases 0, s.phases 1 with
  | .returned (.ok _), .returned _ => true
  | _, _ => false

theorem plugin_operations_are_atomic_here :
    (perform anyEnvironment (freshWorld fun _ => false) failedSave (.installPlugin gitSource)).1 =
      (freshWorld fun _ => false) ∧
    ∃ s, Reachable AtDownload (guarded removesOwn (advance twoDownloads)) s ∧
      s.world.roots "a" = some [("main", "0")] := by
  have atomic := plugin_operations_are_atomic anyEnvironment (freshWorld fun _ => false) failedSave
    (.installPlugin gitSource) "a" twoDownloads
  constructor
  · exact (atomic.1 (.failed .save) (fun step => by cases step <;> decide)
      (by rfl)).mpr (by decide +kernel)
  have tested : (runActions (guarded removesOwn (advance twoDownloads)) downloaded
      refusedRun).map bothReturned = some true := by decide +kernel
  rcases reachable_of_run downloaded_at_download tested with
    ⟨s, reachable, returned⟩
  refine ⟨s, reachable, ?_⟩
  unfold bothReturned at returned
  split at returned
  next record result isFirst isSecond =>
    exact atomic.2 s reachable 0 record isFirst
  · cases returned

def filesLost (s : Server) : Bool :=
  match s.phases 0, s.phases 1 with
  | .returned (.ok _), .returned _ => (s.world.roots "a").isNone
  | _, _ => false

def failedPromotion : Attempt :=
  { manifest := toolManifest "a" "t", fails := fun step => step == .promote }

theorem failed_promotion_stays_and_files_are_lost :
    (¬ ∀ (env : Environment) (w : World) (attempt : Attempt) (operation : Operation)
      (err : PluginError), (∀ step, step.compensates = true → attempt.fails step = false) →
      (perform env w attempt operation).2 = .error err →
      (perform env w attempt operation).1 = w) ∧
    ¬ ∀ (id : String) (downloads : Downloads id) (s : Server),
      Reachable AtDownload (advance downloads) s → ∀ first second record result, first ≠ second →
      s.phases first = .returned (.ok record) → s.phases second = .returned result →
      s.world.roots id = some (downloads.files first) := by
  constructor
  · intro claimed
    have same := claimed anyEnvironment (freshWorld fun _ => false) failedPromotion
      (.installPlugin gitSource) (.failed .promote) (fun step => by cases step <;> decide)
      (by rfl)
    have stays : ((perform anyEnvironment (freshWorld fun _ => false) failedPromotion
        (.installPlugin gitSource)).1.roots "a.staging-").isSome = true := by decide +kernel
    rw [same] at stays
    cases stays
  intro claimed
  have tested : (runActions (advance twoDownloads) downloaded mixedRun).map filesLost =
      some true := by decide +kernel
  rcases reachable_of_run downloaded_at_download tested with
    ⟨s, reachable, lost⟩
  unfold filesLost at lost
  split at lost
  next record result isFirst isSecond =>
    have present := claimed "a" twoDownloads s reachable 0 1 record result (by decide)
      isFirst isSecond
    rw [present] at lost
    cases lost
  · cases lost

end RuneTerminal.PluginInstall
