import RuneTerminal.Connections.Resolution
import RuneTerminal.Connections.SSHConfig
import RuneTerminal.Kit.Upsert

/-! An import puts a profile under the name of each alias: the first profile with the name gets the
fields of the candidate, or a new one is appended. -/

namespace RuneTerminal.Connections

open Go.Strings Kit List SSHConfigProfileCandidate SavedSSH

-- Comparing profiles must not unfold these.
attribute [local irreducible] trimSpace normalizeIdentityFile normalizeTmuxSessionName

def SavedSSH.checkedBy (check : Checker) (saved : SavedSSH) : SavedSSH :=
  if saved.id = localConnection.id then saved
  else saved.withCheckResult (check saved.toConnection)

/-- What is stored of a normalized input, given the profile with its identifier. -/
def storedSSH (check : Checker) (normalized : SavedSSH) : Option SavedSSH → SavedSSH
  | some current => (current.keepRuntime normalized).checkedBy check
  | none => normalized.checkedBy check

def SSHConfigProfileCandidate.profile (env : Surroundings) (candidate : SSHConfigProfileCandidate)
    (id : String) : SavedSSH where
  id := id
  name := candidate.hostAlias
  host := candidate.host
  user := trimSpace candidate.user
  port := candidate.port
  identityFile := normalizeIdentityFile env candidate.identityFile
  launchMode := launchModeShell
  runtime := { checkStatus := .unchecked, launchStatus := .idle }

/-- What is put under the alias of a candidate, given the first profile with that name. -/
def importedSSH (env : Surroundings) (check : Checker)
    (candidate : SSHConfigProfileCandidate × String) (found : Option SavedSSH) : SavedSSH :=
  match found with
  | some current => storedSSH check (candidate.1.profile env current.id) (some current)
  | none => storedSSH check (candidate.1.profile env candidate.2) none

section

variable (check : Checker)
include check

@[simp]
theorem checked_by_id (saved : SavedSSH) : (saved.checkedBy check).id = saved.id := by
  unfold checkedBy
  split <;> rfl

@[simp]
theorem checked_by_name (saved : SavedSSH) : (saved.checkedBy check).name = saved.name := by
  unfold checkedBy
  split <;> rfl

@[simp]
theorem checked_by_config (saved : SavedSSH) : (saved.checkedBy check).config = saved.config := by
  unfold checkedBy
  split <;> rfl

section

variable (normalized : SavedSSH) (found : Option SavedSSH)
include normalized found

@[simp]
theorem stored_ssh_id : (storedSSH check normalized found).id = normalized.id := by
  cases found <;> simp [storedSSH, keepRuntime]

@[simp]
theorem stored_ssh_name : (storedSSH check normalized found).name = normalized.name := by
  cases found <;> simp [storedSSH, keepRuntime]

@[simp]
theorem stored_ssh_config : (storedSSH check normalized found).config = normalized.config := by
  cases found with
  | none => exact checked_by_config check normalized
  | some current => exact checked_by_config check (current.keepRuntime normalized)

end

end

theorem imported_ssh_name (env : Surroundings) (check : Checker)
    (candidate : SSHConfigProfileCandidate × String) (found : Option SavedSSH) :
    (importedSSH env check candidate found).name = candidate.1.hostAlias := by
  cases found <;> simp [importedSSH, profile]

variable {lib : TextLibrary} {candidates : List (SSHConfigProfileCandidate × String)}
  {state : PersistedState} {entries : List SSHConfigEntry}

section

variable {env : Surroundings} {check : Checker} {s : ImportState} {after : List SavedSSH}

variable {before : List SavedSSH}

theorem find_idx_at_split (saved : SavedSSH) (after : List SavedSSH)
    (others : ∀ front ∈ before, front.id ≠ saved.id) :
    (before ++ saved :: after).findIdx? (·.id == saved.id) = some before.length := by
  have skipped : before.findIdx? (·.id == saved.id) = none := by
    rw [findIdx?_eq_none_iff]
    intro front mem
    simpa using others front mem
  rw [findIdx?_append, skipped, findIdx?_cons]
  simp

theorem change_saved_at_split {saved : SavedSSH} {active : String}
    (others : ∀ front ∈ before, front.id ≠ saved.id) (change : SavedSSH → SavedSSH) :
    PersistedState.changeSaved ⟨active, before ++ saved :: after⟩ saved.id change =
    ⟨active, before ++ change saved :: after⟩ := by
  rw [PersistedState.changeSaved, savedIndex, find_idx_at_split saved after others]
  simp only [modify_at_split]

theorem apply_check_at_split (saved : SavedSSH) {active : String}
    (others : ∀ front ∈ before, front.id ≠ saved.id) :
    applyCheckResultToState saved.id (check saved.toConnection) ⟨active, before ++ saved :: after⟩ =
    ⟨active, before ++ saved.checkedBy check :: after⟩ := by
  unfold applyCheckResultToState checkedBy
  split
  · rfl
  · exact change_saved_at_split others _

variable {normalized : SavedSSH}

theorem put_saved_absent (absent : ∀ saved ∈ state.sshConnections, saved.id ≠ normalized.id) :
    putSaved state normalized =
      ({ state with sshConnections := state.sshConnections ++ [normalized] }, normalized) := by
  have noIndex : state.sshConnections.findIdx? (·.id == normalized.id) = none := by
    rw [findIdx?_eq_none_iff]
    intro saved mem
    simpa using absent saved mem
  rw [putSaved, noIndex]

theorem put_saved_at_split {current : SavedSSH}
    (whole : state.sshConnections = before ++ current :: after)
    (others : ∀ front ∈ before, front.id ≠ normalized.id) (same : current.id = normalized.id) :
    putSaved state normalized =
      ({ state with sshConnections := before ++ current.keepRuntime normalized :: after },
        current.keepRuntime normalized) := by
  have index := find_idx_at_split current after fun front mem => same ▸ others front mem
  rw [same] at index
  unfold putSaved
  rw [whole, index]
  simp only [get_at_split, set_at_split]

variable (check) in
theorem save_ssh_in_state_eq {newID : String} {input : SaveSSHInput}
    (active : state.activeConnectionID ≠ "")
    (accepted : normalizeSSHInput lib env newID input = .ok normalized) :
    saveSSHInState lib env check newID input state =
      let next := { state with
        sshConnections :=
          upsertFirst (·.id) normalized.id (storedSSH check normalized) state.sshConnections }
      (resolveFromState next normalized.id).map fun conn => (conn, next) := by
  unfold saveSSHInState
  rw [accepted]
  dsimp only [bind, Except.bind]
  cases found : findFirst (·.id) normalized.id state.sshConnections with
  | none =>
    have absent : ∀ saved ∈ state.sshConnections, saved.id ≠ normalized.id :=
      fun saved mem => find_first_none found mem
    rw [put_saved_absent absent, upsert_first_absent absent]
    rw [if_neg active, apply_check_at_split normalized absent]
    dsimp only [storedSSH]
    cases resolveFromState _ normalized.id <;> rfl
  | some current =>
    have isCurrent : current.id = normalized.id := find_first_key found
    rcases find_first_split found with ⟨before, after, whole, others⟩
    have sameID : (current.keepRuntime normalized).id = normalized.id := rfl
    rw [put_saved_at_split whole others isCurrent, whole, upsert_first_split others isCurrent]
    rw [if_neg active, apply_check_at_split (current.keepRuntime normalized) others, sameID]
    dsimp only [storedSSH]
    cases resolveFromState _ normalized.id <;> rfl

variable (check) in
theorem stored_resolves (state : PersistedState) (normalized : SavedSSH) :
    let next := { state with
      sshConnections :=
        upsertFirst (·.id) normalized.id (storedSSH check normalized) state.sshConnections }
    ∃ conn, resolveFromState next normalized.id = .ok conn ∧
      (conn.ssh = none ↔ normalized.id = localConnection.id) := by
  intro next
  by_cases isLocal : normalized.id = localConnection.id
  · refine ⟨localConnection.shown next.activeConnectionID, ?_, ?_⟩
    · rw [isLocal]
      exact resolve_local next
    · simp [isLocal, Connection.shown, localConnection]
  have stored := find_first_upsert state.sshConnections (stored_ssh_id check normalized)
  rw [findFirst] at stored
  let saved := storedSSH check normalized
    (findFirst (·.id) normalized.id state.sshConnections)
  refine ⟨saved.toConnection.shown next.activeConnectionID, ?_, ?_⟩
  · rw [resolve_saved next isLocal, stored]
  · simp [isLocal, Connection.shown, toConnection]

variable {candidate : SSHConfigProfileCandidate × String}

variable (check) in
theorem import_candidate_accepted {s : ImportState} (active : s.state.activeConnectionID ≠ "")
    (accepted : normalizeSSHInput lib env candidate.2 (candidate.1.toInput s.state) =
      .ok normalized) :
    (importCandidate lib env check s candidate).state.sshConnections =
      upsertFirst (·.id) normalized.id (storedSSH check normalized) s.state.sshConnections ∧
    (0 < (importCandidate lib env check s candidate).imported.length ↔
      0 < s.imported.length ∨ normalized.id ≠ localConnection.id) := by
  obtain ⟨conn, resolved, shadowed⟩ := stored_resolves check s.state normalized
  have isSaved := save_ssh_in_state_eq check active accepted
  dsimp only at isSaved
  rw [resolved] at isSaved
  dsimp only [Except.map] at isSaved
  unfold importCandidate
  rw [isSaved]
  dsimp only
  cases ssh : conn.ssh with
  | none => exact ⟨rfl, by simp [shadowed.mp ssh]⟩
  | some config =>
    have notLocal : normalized.id ≠ localConnection.id := by
      intro isLocal
      rw [shadowed.mpr isLocal] at ssh
      cases ssh
    exact ⟨rfl, by simp [notLocal]⟩

variable (env) in
theorem normalize_profile (blank : lib.toLower "" = "") (collected : candidate.1.Collected entries)
    (registered : Registered state) :
    normalizeSSHInput lib env candidate.2 (candidate.1.toInput state) =
      .ok (candidate.1.profile env
        (match findFirst (·.name) candidate.1.hostAlias state.sshConnections with
          | some current => current.id
          | none => candidate.2)) := by
  have host : trimSpace candidate.1.host = candidate.1.host := collected.cleanHost.1
  have name : trimSpace candidate.1.hostAlias = candidate.1.hostAlias := collected.cleanAlias.1
  have inRange : ¬(candidate.1.port < 0 ∨ candidate.1.port > 65535) := by
    have range := collected.port
    omega
  have shell : normalizeRemoteLaunchPolicy lib "" "" candidate.1.hostAlias candidate.1.host
      (if trimSpace (findSSHIDByNameInState state candidate.1.hostAlias) = "" then candidate.2
        else trimSpace (findSSHIDByNameInState state candidate.1.hostAlias)) =
      .ok (launchModeShell, "") := by
    unfold normalizeRemoteLaunchPolicy
    rw [blank, trim_space_empty]
    rfl
  have id : (if trimSpace (findSSHIDByNameInState state candidate.1.hostAlias) = "" then candidate.2
      else trimSpace (findSSHIDByNameInState state candidate.1.hostAlias)) =
      match findFirst (·.name) candidate.1.hostAlias state.sshConnections with
        | some current => current.id
        | none => candidate.2 := by
    unfold findSSHIDByNameInState
    rw [name]
    cases found : findFirst (·.name) candidate.1.hostAlias state.sshConnections with
    | none =>
      rw [findFirst] at found
      rw [found]
      exact if_pos trim_space_empty
    | some current =>
      have clean := registered.clean current.id (mem_map_of_mem (find_first_mem found))
      rw [findFirst] at found
      rw [found]
      dsimp only
      rw [clean.1, if_neg clean.2]
  unfold normalizeSSHInput toInput
  dsimp only
  rw [host, name, if_neg collected.cleanHost.2, if_neg collected.cleanAlias.2, if_neg inRange,
    shell, id]
  rfl

variable (env check) in
theorem import_candidate_upserts (blank : lib.toLower "" = "")
    (collected : candidate.1.Collected entries) (notLocal : candidate.2 ≠ localConnection.id)
    (registered : Registered s.state) (fresh : candidate.2 ∉ s.state.ids) :
    (importCandidate lib env check s candidate).state.sshConnections =
      upsertFirst (·.name) candidate.1.hostAlias (importedSSH env check candidate)
        s.state.sshConnections ∧
    (0 < (importCandidate lib env check s candidate).imported.length ↔
      0 < s.imported.length ∨
        findSSHIDByNameInState s.state candidate.1.hostAlias ≠ localConnection.id) := by
  have accepted := normalize_profile env blank collected registered
  have byName : findSSHIDByNameInState s.state candidate.1.hostAlias =
      match findFirst (·.name) candidate.1.hostAlias s.state.sshConnections with
        | some current => current.id
        | none => "" := by
    rw [findSSHIDByNameInState, collected.cleanAlias.1]
    rfl
  cases found : findFirst (·.name) candidate.1.hostAlias s.state.sshConnections with
  | none =>
    have absent : ∀ saved ∈ s.state.sshConnections, saved.name ≠ candidate.1.hostAlias :=
      fun saved mem => find_first_none found mem
    have absentID : ∀ saved ∈ s.state.sshConnections,
        saved.id ≠ (candidate.1.profile env candidate.2).id := by
      intro saved mem same
      exact fresh (mem_map.mpr ⟨saved, mem, same⟩)
    rw [found] at accepted byName
    dsimp only at accepted byName
    obtain ⟨stored, counted⟩ :=
      import_candidate_accepted check registered.active_nonblank accepted
    rw [stored, counted, byName, upsert_first_absent absentID, upsert_first_absent absent]
    have unshadowed : ("" : String) ≠ localConnection.id := by decide
    exact ⟨rfl, by simp [profile, notLocal, unshadowed]⟩
  | some current =>
    have isCurrent : current.name = candidate.1.hostAlias := find_first_key found
    rw [found] at accepted byName
    dsimp only at accepted byName
    obtain ⟨stored, counted⟩ :=
      import_candidate_accepted check registered.active_nonblank accepted
    rcases find_first_split found with ⟨before, after, whole, others⟩
    have distinct := registered.distinct
    rw [PersistedState.ids, whole, map_append, map_cons, nodup_append] at distinct
    have othersID : ∀ front ∈ before, front.id ≠ (candidate.1.profile env current.id).id := by
      intro front mem
      exact distinct.2.2 _ (mem_map_of_mem mem) _ mem_cons_self
    have same : current.id = (candidate.1.profile env current.id).id := rfl
    rw [stored, counted, byName, whole, upsert_first_split othersID same,
      upsert_first_split others isCurrent]
    exact ⟨rfl, Iff.rfl⟩

def importedProfiles (env : Surroundings) (check : Checker)
    (candidates : List (SSHConfigProfileCandidate × String)) (saved : List SavedSSH) :
    List SavedSSH :=
  upsertAll (·.name) (fun candidate => candidate.1.hostAlias) (importedSSH env check) saved
    candidates

/-- Some alias is new or the name of a profile that the built-in connection does not
shadow. -/
def importsSomething (candidates : List SSHConfigProfileCandidate) (state : PersistedState) :
    Prop :=
  ∃ candidate ∈ candidates,
    findSSHIDByNameInState state candidate.hostAlias ≠ localConnection.id

theorem find_ssh_id_congr {next : PersistedState} {name : String} (clean : CleanID name)
    (same : findFirst (·.name) name next.sshConnections =
      findFirst (·.name) name state.sshConnections) :
    findSSHIDByNameInState next name = findSSHIDByNameInState state name := by
  rw [findSSHIDByNameInState, findSSHIDByNameInState, clean.1]
  unfold findFirst at same
  rw [same]

variable (env check) in
theorem import_candidates_upsert (blank : lib.toLower "" = "")
    (collected : ∀ candidate ∈ candidates, candidate.1.Collected entries)
    (aliases : (candidates.map fun candidate => candidate.1.hostAlias).Nodup)
    (drawn : (candidates.map Prod.snd).Nodup)
    (clean : ∀ newID ∈ candidates.map Prod.snd, CleanID newID ∧ newID ≠ localConnection.id)
    (registered : Registered s.state)
    (fresh : ∀ newID ∈ candidates.map Prod.snd, newID ∉ s.state.ids) :
    (candidates.foldl (importCandidate lib env check) s).state.sshConnections =
        importedProfiles env check candidates s.state.sshConnections ∧
      (0 < (candidates.foldl (importCandidate lib env check) s).imported.length ↔
        0 < s.imported.length ∨ importsSomething (candidates.map Prod.fst) s.state) := by
  induction candidates generalizing s with
  | nil => simp [importedProfiles, upsertAll, importsSomething]
  | cons candidate candidates ih =>
    rw [map_cons, nodup_cons] at aliases drawn
    rw [map_cons, forall_mem_cons] at clean fresh
    rw [forall_mem_cons] at collected
    obtain ⟨stored, counted⟩ := import_candidate_upserts env check blank
      collected.1 clean.1.2 registered fresh.1
    obtain ⟨nextRegistered, _, bounded⟩ :=
      import_candidate_spec lib env check registered clean.1.1
    have laterFresh : ∀ newID ∈ candidates.map Prod.snd,
        newID ∉ (importCandidate lib env check s candidate).state.ids := by
      intro newID mem known
      rcases mem_cons.mp (bounded known) with rfl | old
      · exact drawn.1 mem
      · exact fresh.2 newID mem old
    obtain ⟨finalStored, finalCounted⟩ :=
      ih collected.2 aliases.2 drawn.2 clean.2 nextRegistered laterFresh
    rw [foldl_cons]
    constructor
    · rw [finalStored, stored]
      rfl
    rw [finalCounted, counted, or_assoc, importsSomething, importsSomething, map_cons,
      exists_mem_cons_iff]
    have same : ∀ later ∈ candidates,
        findSSHIDByNameInState (importCandidate lib env check s candidate).state
          later.1.hostAlias = findSSHIDByNameInState s.state later.1.hostAlias := by
      intro later mem
      apply find_ssh_id_congr (collected.2 later mem).cleanAlias
      rw [stored]
      apply find_first_upsert_other (imported_ssh_name env check candidate)
      intro sameAlias
      exact aliases.1 (sameAlias ▸ mem_map_of_mem (f := fun candidate =>
        candidate.1.hostAlias) mem)
    refine or_congr Iff.rfl (or_congr Iff.rfl ?_)
    simp only [mem_map, exists_exists_and_eq_and]
    constructor
    · rintro ⟨later, mem, other⟩
      exact ⟨later, mem, same later mem ▸ other⟩
    · rintro ⟨later, mem, other⟩
      exact ⟨later, mem, (same later mem).symm ▸ other⟩

end

theorem drawn_new_ids {newIDs : List String} (drawn : drawsNewIDs state newIDs = true) :
    newIDs.Nodup ∧ ∀ newID ∈ newIDs, newID ∉ state.ids := by
  unfold drawsNewIDs at drawn
  rw [Bool.and_eq_true, decide_eq_true_eq, all_eq_true] at drawn
  refine ⟨drawn.1, ?_⟩
  intro newID mem
  have checks := drawn.2 newID mem
  simp only [Bool.and_eq_true, Bool.not_eq_true', contains_eq_mem,
    decide_eq_false_iff_not] at checks
  exact checks.2

theorem import_ssh_config_spec (env : Surroundings) (check : Checker) (blank : lib.toLower "" = "")
    (collected : candidates.map Prod.fst = (collectSSHConfigCandidates entries).1)
    (registered : Registered state) (drawn : drawsNewIDs state (candidates.map Prod.snd) = true) :
    (importsSomething (candidates.map Prod.fst) state →
        ∃ next, importSSHConfig lib env check candidates state = some next ∧
          next.sshConnections = importedProfiles env check candidates state.sshConnections) ∧
      (¬importsSomething (candidates.map Prod.fst) state →
        importSSHConfig lib env check candidates state = none) := by
  obtain ⟨sound, aliases⟩ := collected_spec entries
  rw [← collected] at sound aliases
  rw [map_map] at aliases
  obtain ⟨nodup, new⟩ := drawn_new_ids drawn
  have clean := drawn_new_id drawn
  have isCollected : ∀ candidate ∈ candidates, candidate.1.Collected entries :=
    fun candidate mem => sound candidate.1 (mem_map_of_mem mem)
  obtain ⟨stored, counted⟩ := import_candidates_upsert env check blank
    isCollected aliases nodup clean (s := { state := state }) registered new
  have empty : ({ state := state } : ImportState).imported.length = 0 := rfl
  rw [empty, lt_self_iff_false, false_or] at counted
  unfold importSSHConfig
  constructor
  · intro something
    rw [if_pos (counted.mpr something)]
    exact ⟨_, rfl, stored⟩
  · intro nothing
    rw [if_neg fun imported => nothing (counted.mp imported)]

end RuneTerminal.Connections
