import RuneTerminal.Connections.Import

/-! An import leaves the profiles of other names alone, and a second import finds every profile as
the first one left it. -/

namespace RuneTerminal.Connections

open Go.Strings Kit List SSHConfigProfileCandidate SavedSSH

-- Comparing profiles must not unfold these.
attribute [local irreducible] trimSpace normalizeIdentityFile normalizeTmuxSessionName

def SavedSSH.untimed (saved : SavedSSH) : SavedSSH :=
  { saved with runtime := { saved.runtime with lastCheckedAt := none } }

def SavedSSH.unchecked (saved : SavedSSH) : SavedSSH :=
  { saved with
    runtime :=
      { saved.runtime with checkStatus := .unchecked, checkError := "", lastCheckedAt := none } }

def FindsSame (check later : Checker) : Prop :=
  ∀ connection other, connection.kind = other.kind → connection.ssh = other.ssh →
    (check connection).status = (later other).status ∧
      (check connection).error = (later other).error

theorem imported_ssh_fields (env : Surroundings) (check : Checker)
    (candidate : SSHConfigProfileCandidate × String) (saved : SavedSSH) :
    (importedSSH env check candidate (some saved)).id = saved.id ∧
      (importedSSH env check candidate (some saved)).name = candidate.1.hostAlias ∧
      (importedSSH env check candidate (some saved)).config =
        (candidate.1.profile env saved.id).config :=
  ⟨stored_ssh_id _ _ _, stored_ssh_name _ _ _, stored_ssh_config _ _ _⟩

theorem imported_ssh_again {env : Surroundings} {check : Checker}
    {candidate : SSHConfigProfileCandidate × String} {saved : SavedSSH}
    (name : saved.name = candidate.1.hostAlias)
    (config : saved.config = (candidate.1.profile env saved.id).config) :
    importedSSH env check candidate (some saved) = saved.checkedBy check := by
  have kept : saved.keepRuntime (candidate.1.profile env saved.id) = saved := by
    have unchanged : hasMaterialSSHProfileChange saved (candidate.1.profile env saved.id) =
        false := by
      simp [hasMaterialSSHProfileChange, config]
    rw [keepRuntime, unchanged]
    rw [SSHConfig.mk.injEq] at config
    rcases config with ⟨host, user, port, identityFile, launchMode, tmuxSession⟩
    rw [SavedSSH.mk.injEq]
    exact ⟨rfl, name.symm, host.symm, user.symm, port.symm, identityFile.symm, launchMode.symm,
      tmuxSession.symm, rfl⟩
  rw [importedSSH, storedSSH, kept]

theorem checked_by_unchecked (check : Checker) (saved : SavedSSH) :
    (saved.checkedBy check).unchecked = saved.unchecked := by
  unfold checkedBy
  split <;> rfl

theorem checked_by_again {check later : Checker} (same : FindsSame check later) (saved : SavedSSH) :
    ((saved.checkedBy check).checkedBy later).untimed = (saved.checkedBy check).untimed := by
  unfold checkedBy
  by_cases isLocal : saved.id = localConnection.id
  · rw [if_pos isLocal, if_pos isLocal]
  have checkedID : (saved.withCheckResult (check saved.toConnection)).id ≠
      localConnection.id := isLocal
  rw [if_neg isLocal, if_neg checkedID]
  obtain ⟨status, error⟩ := same saved.toConnection
    (saved.withCheckResult (check saved.toConnection)).toConnection rfl rfl
  simp only [withCheckResult] at status error ⊢
  simp only [untimed, ← status, ← error]

theorem imported_ssh_checked (env : Surroundings) (check : Checker)
    (candidate : SSHConfigProfileCandidate × String) (found : Option SavedSSH) : ∃ saved :
    SavedSSH, importedSSH env check candidate found = saved.checkedBy check ∧
    saved.config = (candidate.1.profile env saved.id).config := by
  cases found with
  | none => exact ⟨candidate.1.profile env candidate.2, rfl, rfl⟩
  | some current => exact ⟨current.keepRuntime (candidate.1.profile env current.id), rfl, rfl⟩

theorem import_again {env : Surroundings} {check later : Checker}
    {candidates again : List (SSHConfigProfileCandidate × String)}
    (same : again.map Prod.fst = candidates.map Prod.fst)
    (aliases : (candidates.map fun candidate => candidate.1.hostAlias).Nodup)
    (saved : List SavedSSH) {View : Type} {view : SavedSSH → View}
    (settled : ∀ stored : SavedSSH,
      view ((stored.checkedBy check).checkedBy later) = view (stored.checkedBy check)) :
    (importedProfiles env later again (importedProfiles env check candidates saved)).map view =
      (importedProfiles env check candidates saved).map view := by
  have sameAliases : (again.map fun candidate => candidate.1.hostAlias) =
      candidates.map fun candidate => candidate.1.hostAlias := by
    have mapped := congrArg (map (·.hostAlias)) same
    rwa [map_map, map_map] at mapped
  apply map_upsert_all (imported_ssh_name env later) (by rwa [sameAliases])
  intro entry mem
  obtain ⟨candidate, isCandidate, sameCandidate⟩ : ∃ candidate ∈ candidates,
      candidate.1 = entry.1 := by
    rw [← mem_map, ← same]
    exact mem_map_of_mem mem
  have found := find_upsert_all saved (imported_ssh_name env check) aliases isCandidate
  obtain ⟨stored, isStored, config⟩ := imported_ssh_checked env check candidate
    (findFirst (·.name) candidate.1.hostAlias saved)
  have name := imported_ssh_name env check candidate
    (findFirst (·.name) candidate.1.hostAlias saved)
  rw [isStored] at found name
  rw [sameCandidate] at found name config
  refine ⟨stored.checkedBy check, found, ?_⟩
  rw [imported_ssh_again name ?_]
  · exact settled stored
  · rw [checked_by_config]
    exact config

/-- The profile keeps its identifier, its name, its launch mode and session, and what the
configuration does not define for its name. -/
structure Undisturbed (entries : List SSHConfigEntry) (before after : SavedSSH) : Prop where
  id : after.id = before.id
  name : after.name = before.name
  launchMode : after.launchMode = before.launchMode
  tmuxSession : after.tmuxSession = before.tmuxSession
  host : ¬SSHConfigDefines entries before.name "hostname" → after.host = before.host
  user : ¬SSHConfigDefines entries before.name "user" → after.user = before.user
  port : ¬SSHConfigDefines entries before.name "port" → after.port = before.port
  identityFile : ¬SSHConfigDefines entries before.name "identityfile" →
    after.identityFile = before.identityFile

/-- The profile is a plain one and has nothing that the configuration does not define. -/
structure HasDefaults (entries : List SSHConfigEntry) (saved : SavedSSH) : Prop where
  launchMode : saved.launchMode = launchModeShell
  tmuxSession : saved.tmuxSession = ""
  host : ¬SSHConfigDefines entries saved.name "hostname" → saved.host = saved.name
  user : ¬SSHConfigDefines entries saved.name "user" → saved.user = ""
  port : ¬SSHConfigDefines entries saved.name "port" → saved.port = 0
  identityFile : ¬SSHConfigDefines entries saved.name "identityfile" → saved.identityFile = ""

def importedAliases (entries : List SSHConfigEntry) : List String :=
  (collectSSHConfigCandidates entries).1.map (·.hostAlias)

def FoundByImport (entries : List SSHConfigEntry) (state : PersistedState) (saved : SavedSSH) :
    Prop :=
  saved.name ∈ importedAliases entries ∧ findSSHIDByNameInState state saved.name = saved.id

theorem Undisturbed.refl (entries : List SSHConfigEntry) (saved : SavedSSH) :
    Undisturbed entries saved saved := by
  constructor <;> intros <;> rfl

theorem undisturbed_iff_defaults {env : Surroundings} {check : Checker}
    {entries : List SSHConfigEntry} {candidate : SSHConfigProfileCandidate × String}
    (collected : candidate.1.Collected entries) {saved : SavedSSH}
    (name : saved.name = candidate.1.hostAlias) :
    Undisturbed entries saved (importedSSH env check candidate (some saved)) ↔
    HasDefaults entries saved := by
  obtain ⟨sameID, sameName, config⟩ := imported_ssh_fields env check candidate saved
  generalize importedSSH env check candidate (some saved) = after at sameID sameName config
  rw [SavedSSH.config, SavedSSH.config, SSHConfig.mk.injEq] at config
  rcases config with ⟨host, user, port, identityFile, launchMode, tmuxSession⟩
  simp only [profile] at host user port identityFile
  simp only [profile] at launchMode tmuxSession
  have noUser : ¬SSHConfigDefines entries saved.name "user" → after.user = "" := by
    intro undefined
    rw [user, collected.userDefault (name ▸ undefined)]
    exact trim_space_empty
  have noIdentity : ¬SSHConfigDefines entries saved.name "identityfile" →
      after.identityFile = "" := by
    intro undefined
    rw [identityFile, collected.identityDefault (name ▸ undefined), normalizeIdentityFile,
      trim_space_empty]
    exact if_pos rfl
  have noHost : ¬SSHConfigDefines entries saved.name "hostname" → after.host = saved.name := by
    intro undefined
    rw [host, collected.hostDefault (name ▸ undefined), name]
  have noPort : ¬SSHConfigDefines entries saved.name "port" → after.port = 0 := by
    intro undefined
    rw [port, collected.portDefault (name ▸ undefined)]
  constructor
  · intro kept
    constructor
    · rw [← kept.launchMode, launchMode]
    · rw [← kept.tmuxSession, tmuxSession]
    · intro undefined
      rw [← kept.host undefined, noHost undefined]
    · intro undefined
      rw [← kept.user undefined, noUser undefined]
    · intro undefined
      rw [← kept.port undefined, noPort undefined]
    · intro undefined
      rw [← kept.identityFile undefined, noIdentity undefined]
  intro plain
  constructor
  · exact sameID
  · rw [sameName, name]
  · rw [launchMode, plain.launchMode]
  · rw [tmuxSession, plain.tmuxSession]
  · intro undefined
    rw [noHost undefined, plain.host undefined]
  · intro undefined
    rw [noUser undefined, plain.user undefined]
  · intro undefined
    rw [noPort undefined, plain.port undefined]
  · intro undefined
    rw [noIdentity undefined, plain.identityFile undefined]

section

variable {lib : TextLibrary} {env : Surroundings} {check later : Checker}
  {entries : List SSHConfigEntry} {candidates again : List (SSHConfigProfileCandidate × String)}
  {s once twice : Stored PersistedState}

theorem import_step_spec (blank : lib.toLower "" = "")
    (collected : candidates.map Prod.fst = (collectSSHConfigCandidates entries).1)
    (registered : Registered s.data)
    (imported : connectionStep lib env s ⟨.importConfig check candidates, true⟩ = some once) :
    importsSomething (collectSSHConfigCandidates entries).1 s.data ∧
        once.data.sshConnections = importedProfiles env check candidates s.data.sshConnections ∨
      ¬importsSomething (collectSSHConfigCandidates entries).1 s.data ∧ once = s := by
  unfold connectionStep at imported
  split at imported
  next drawn =>
    cases imported
    obtain ⟨puts, nothing⟩ :=
      import_ssh_config_spec env check blank collected registered drawn
    rw [collected] at puts nothing
    by_cases something : importsSomething (collectSSHConfigCandidates entries).1 s.data
    · obtain ⟨next, edited, profiles⟩ := puts something
      refine .inl ⟨something, ?_⟩
      simp only [Stored.commit, ConnectionRequest.edit, edited]
      exact profiles
    · refine .inr ⟨something, ?_⟩
      simp only [Stored.commit, ConnectionRequest.edit, nothing something]
  · cases imported

theorem imported_aliases_distinct
    (collected : candidates.map Prod.fst = (collectSSHConfigCandidates entries).1) :
    (candidates.map fun candidate => candidate.1.hostAlias) = importedAliases entries ∧
    (candidates.map fun candidate => candidate.1.hostAlias).Nodup := by
  have aliases : (candidates.map fun candidate => candidate.1.hostAlias) =
      importedAliases entries := by
    rw [importedAliases, ← collected, map_map]
    rfl
  rw [aliases]
  exact ⟨rfl, (collected_spec entries).2⟩

theorem found_by_import_iff (registered : Registered s.data) {saved : SavedSSH}
    (mem : saved ∈ s.data.sshConnections) {name : String} (clean : CleanID name) :
    findFirst (·.name) name s.data.sshConnections = some saved ↔ saved.name = name ∧
    findSSHIDByNameInState s.data saved.name = saved.id := by
  have byName : findSSHIDByNameInState s.data name =
      ((findFirst (·.name) name s.data.sshConnections).map (·.id)).getD "" := by
    rw [findSSHIDByNameInState, clean.1, findFirst]
    cases s.data.sshConnections.find? (·.name == name) with
    | none | some => rfl
  constructor
  · intro found
    have isNamed : saved.name = name := find_first_key found
    rw [isNamed, byName, found]
    exact ⟨rfl, rfl⟩
  rintro ⟨rfl, isFound⟩
  rw [byName] at isFound
  cases found : findFirst (·.name) saved.name s.data.sshConnections with
  | none => exact absurd rfl (find_first_none found mem)
  | some current =>
    rw [found] at isFound
    have same : current = saved :=
      inj_on_of_nodup_map registered.distinct (find_first_mem found) mem isFound
    rw [same]

theorem import_undisturbed_iff (registered : Registered s.data)
    (onceRegistered : Registered once.data)
    (collected : candidates.map Prod.fst = (collectSSHConfigCandidates entries).1)
    (profiles : once.data.sshConnections =
      importedProfiles env check candidates s.data.sshConnections) :
    (∀ saved ∈ s.data.sshConnections, ∃ after ∈ once.data.sshConnections,
      Undisturbed entries saved after) ↔
    ∀ saved ∈ s.data.sshConnections, FoundByImport entries s.data saved →
      HasDefaults entries saved := by
  obtain ⟨sound, _⟩ := collected_spec entries
  obtain ⟨aliases, nodup⟩ := imported_aliases_distinct collected
  have isCollected : ∀ candidate ∈ candidates, candidate.1.Collected entries := by
    intro candidate mem
    rw [← collected] at sound
    exact sound candidate.1 (mem_map_of_mem mem)
  -- What a candidate makes of the profile that it finds is saved.
  have replaced : ∀ candidate ∈ candidates, ∀ saved,
      findFirst (·.name) candidate.1.hostAlias s.data.sshConnections = some saved →
      importedSSH env check candidate (some saved) ∈ once.data.sshConnections := by
    intro candidate mem saved found
    have put := find_upsert_all s.data.sshConnections (imported_ssh_name env check) nodup mem
    rw [found] at put
    rw [profiles]
    exact find_first_mem put
  constructor
  · intro undisturbed saved mem isFound
    obtain ⟨candidate, isCandidate, name⟩ : ∃ candidate ∈ candidates,
        candidate.1.hostAlias = saved.name := by
      rw [← mem_map, aliases]
      exact isFound.1
    have clean := (isCollected candidate isCandidate).cleanAlias
    have found := (found_by_import_iff registered mem clean).mpr ⟨name.symm, isFound.2⟩
    obtain ⟨after, isAfter, kept⟩ := undisturbed saved mem
    have put := replaced candidate isCandidate saved found
    have sameID := (imported_ssh_fields env check candidate saved).1
    have same : after = importedSSH env check candidate (some saved) :=
      inj_on_of_nodup_map onceRegistered.distinct isAfter put (kept.id.trans sameID.symm)
    rw [same] at kept
    exact (undisturbed_iff_defaults (isCollected candidate isCandidate) name.symm).mp kept
  intro plain saved mem
  by_cases isFound : ∃ candidate ∈ candidates,
      findFirst (·.name) candidate.1.hostAlias s.data.sshConnections = some saved
  · obtain ⟨candidate, isCandidate, found⟩ := isFound
    have clean := (isCollected candidate isCandidate).cleanAlias
    obtain ⟨name, byName⟩ := (found_by_import_iff registered mem clean).mp found
    have isAlias : saved.name ∈ importedAliases entries := by
      rw [← aliases, name]
      exact mem_map_of_mem (f := fun candidate => candidate.1.hostAlias) isCandidate
    refine ⟨_, replaced candidate isCandidate saved found, ?_⟩
    exact (undisturbed_iff_defaults (isCollected candidate isCandidate) name).mpr
      (plain saved mem ⟨isAlias, byName⟩)
  · refine ⟨saved, ?_, Undisturbed.refl entries saved⟩
    rw [profiles]
    apply mem_upsert_all_of_other (imported_ssh_name env check) nodup mem
    intro candidate isCandidate found
    exact isFound ⟨candidate, isCandidate, found⟩

/-- An import leaves other profiles as they are. What the configuration does not define stays
exactly if nothing is imported or every profile that is found has the defaults there. -/
theorem ssh_config_import_leaves_rest (blank : lib.toLower "" = "")
    (reached : Reachable startsFresh (connectionStep lib env) s)
    (collected : candidates.map Prod.fst = (collectSSHConfigCandidates entries).1)
    (collectedAgain : again.map Prod.fst = (collectSSHConfigCandidates entries).1)
    (imported : connectionStep lib env s ⟨.importConfig check candidates, true⟩ = some once)
    (importedAgain : connectionStep lib env once ⟨.importConfig later again, true⟩ = some twice) :
    once.data.sshConnections.filter (fun saved => saved.name ∉ importedAliases entries) =
      s.data.sshConnections.filter (fun saved => saved.name ∉ importedAliases entries) ∧
    twice.data.sshConnections.map SavedSSH.unchecked =
      once.data.sshConnections.map SavedSSH.unchecked ∧
    (FindsSame check later →
      twice.data.sshConnections.map SavedSSH.untimed =
        once.data.sshConnections.map SavedSSH.untimed) ∧
    ((∀ saved ∈ s.data.sshConnections, ∃ after ∈ once.data.sshConnections,
        Undisturbed entries saved after) ↔
      (importsSomething (collectSSHConfigCandidates entries).1 s.data →
        ∀ saved ∈ s.data.sshConnections, FoundByImport entries s.data saved →
          HasDefaults entries saved)) := by
  have registered := connections_registered reached
  have onceRegistered := registered_step registered imported
  obtain ⟨aliases, nodup⟩ := imported_aliases_distinct collected
  have first := import_step_spec blank collected registered imported
  have second := import_step_spec blank collectedAgain onceRegistered importedAgain
  rcases first with ⟨something, profiles⟩ | ⟨nothing, rfl⟩
  · have repeated : ∀ {View : Type} (view : SavedSSH → View), (∀ stored : SavedSSH,
        view ((stored.checkedBy check).checkedBy later) = view (stored.checkedBy check)) →
        twice.data.sshConnections.map view = once.data.sshConnections.map view := by
      intro View view settled
      rcases second with ⟨_, profilesAgain⟩ | ⟨_, same⟩
      · rw [profilesAgain, profiles]
        exact import_again (collectedAgain.trans collected.symm) nodup _ settled
      · rw [same]
    refine ⟨?_, ?_, ?_, ?_⟩
    · rw [profiles]
      apply filter_upsert_all (imported_ssh_name env check)
      intro saved isAlias
      rw [aliases] at isAlias
      simpa using isAlias
    · exact repeated unchecked fun stored => checked_by_unchecked later _
    · exact fun same => repeated untimed fun stored => checked_by_again same stored
    · rw [import_undisturbed_iff registered onceRegistered collected profiles]
      exact ⟨fun plain _ => plain, fun plain => plain something⟩
  · have unchanged : twice = once := by
      rcases second with ⟨something, _⟩ | ⟨_, same⟩
      · exact absurd something nothing
      · exact same
    rw [unchanged]
    refine ⟨rfl, rfl, fun _ => rfl, ?_⟩
    constructor
    · exact fun _ something => absurd something nothing
    · exact fun _ saved mem => ⟨saved, mem, Undisturbed.refl entries saved⟩

end

def caseless : TextLibrary where
  matchRegexp _ _ := false
  toLower := id

def passingAt (now : Instant) : Checker := fun _ => { status := .passed, checkedAt := now }

def prodConfig : List SSHConfigEntry :=
  [.selector (.host ["prod"]), .setting "hostname" "prod.example", .setting "user" "deploy"]

def prodCandidate : SSHConfigProfileCandidate where
  hostAlias := "prod"
  host := "prod.example"
  user := "deploy"

def resumedProd : SavedSSH where
  id := "conn_1"
  name := "prod"
  host := "prod.example"
  user := "deploy"
  launchMode := "tmux"
  tmuxSession := "work"
  runtime := { checkStatus := .passed, lastCheckedAt := some 1, launchStatus := .idle }

def storeOf (saved : SavedSSH) : Stored PersistedState :=
  Stored.saved { activeConnectionID := "local", sshConnections := [saved] }

def plainProd (now : Instant) : SavedSSH where
  id := "conn_1"
  name := "prod"
  host := "prod.example"
  user := "deploy"
  launchMode := "shell"
  runtime := { checkStatus := .passed, lastCheckedAt := some now, launchStatus := .idle }

private theorem prod_collected :
    [(prodCandidate, "conn_2")].map Prod.fst = (collectSSHConfigCandidates prodConfig).1 := by
  decide +kernel

private theorem resumed_prod_reached :
    Reachable startsFresh (connectionStep caseless {}) (storeOf resumedProd) := by
  have fresh : startsFresh (Stored.saved newService) := rfl
  have ran : connectionStep caseless {} (Stored.saved newService)
      ⟨.saveSSH (passingAt 1) "conn_1"
        { name := "prod", host := "prod.example", user := "deploy", launchMode := "tmux",
          tmuxSession := "work" }, true⟩ = some (storeOf resumedProd) := by
    decide +kernel
  exact (Reachable.start fresh).next ran

private theorem prod_imported :
    connectionStep caseless {} (storeOf resumedProd)
      ⟨.importConfig (passingAt 2) [(prodCandidate, "conn_2")], true⟩ =
      some (storeOf (plainProd 2)) := by
  decide +kernel

private theorem prod_imported_again :
    connectionStep caseless {} (storeOf (plainProd 2))
      ⟨.importConfig (passingAt 3) [(prodCandidate, "conn_2")], true⟩ =
      some (storeOf (plainProd 3)) := by
  decide +kernel

theorem ssh_config_import_leaves_rest_prod :
    (storeOf (plainProd 3)).data.sshConnections.map SavedSSH.untimed =
      (storeOf (plainProd 2)).data.sshConnections.map SavedSSH.untimed := by
  have finds : FindsSame (passingAt 2) (passingAt 3) := fun _ _ _ _ => ⟨rfl, rfl⟩
  obtain ⟨_, _, again, _⟩ := ssh_config_import_leaves_rest rfl resumed_prod_reached
    prod_collected prod_collected prod_imported prod_imported_again
  exact again finds

/-- The import of a profile that resumes a session makes it a plain one. -/
theorem ssh_config_import_drops_session : ¬∀ (lib : TextLibrary) (env : Surroundings)
    (check later : Checker) (entries : List SSHConfigEntry)
    (candidates again : List (SSHConfigProfileCandidate × String))
    (s once twice : Stored PersistedState), lib.toLower "" = "" →
    Reachable startsFresh (connectionStep lib env) s →
    candidates.map Prod.fst = (collectSSHConfigCandidates entries).1 →
    again.map Prod.fst = (collectSSHConfigCandidates entries).1 →
    connectionStep lib env s ⟨.importConfig check candidates, true⟩ = some once →
    connectionStep lib env once ⟨.importConfig later again, true⟩ = some twice →
      (FindsSame check later →
          twice.data.sshConnections.map SavedSSH.untimed =
            once.data.sshConnections.map SavedSSH.untimed) ∧
        (∀ saved ∈ s.data.sshConnections, ∃ after ∈ once.data.sshConnections,
          Undisturbed entries saved after) ∧
        once.data.sshConnections.filter (fun saved => saved.name ∉ importedAliases entries) =
          s.data.sshConnections.filter (fun saved => saved.name ∉ importedAliases entries) := by
  intro claim
  obtain ⟨_, undisturbed, _⟩ := claim caseless {} (passingAt 2) (passingAt 3) prodConfig _ _ _ _ _
    rfl resumed_prod_reached prod_collected prod_collected prod_imported prod_imported_again
  obtain ⟨after, mem, kept⟩ := undisturbed resumedProd mem_cons_self
  have plain : after = plainProd 2 := mem_singleton.mp mem
  have mode := kept.launchMode
  rw [plain] at mode
  exact absurd mode (by decide)

end RuneTerminal.Connections
