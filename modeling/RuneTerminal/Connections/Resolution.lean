import RuneTerminal.Connections.Service

/-! Saved identifiers are distinct and clean, and the active one is the built-in one or a saved one.
-/

namespace RuneTerminal.Connections

open Go.Strings Kit List SavedSSH SSHConfigProfileCandidate PersistedState

variable {newID : String} {state next : PersistedState} {input : SaveSSHInput}

section

-- Comparing profiles must not unfold these.
attribute [local irreducible] trimSpace normalizeIdentityFile normalizeTmuxSessionName

def PersistedState.ids (state : PersistedState) : List String := state.sshConnections.map (·.id)

structure Registered (state : PersistedState) : Prop where
  clean : ∀ id ∈ state.ids, CleanID id
  distinct : state.ids.Nodup
  active : state.activeConnectionID = localConnection.id ∨ state.activeConnectionID ∈ state.ids

def Connection.shown (active : String) (connection : Connection) : Connection :=
  { connection with active := connection.id == active }

theorem resolve_local (state : PersistedState) : resolveFromState state localConnection.id =
    .ok (localConnection.shown state.activeConnectionID) := by
  simp [resolveFromState, snapshotFromState, Connection.shown]

theorem resolve_saved (state : PersistedState) {id : String} (notLocal : id ≠ localConnection.id) :
    resolveFromState state id =
      match state.sshConnections.find? (·.id == id) with
      | some saved => .ok (saved.toConnection.shown state.activeConnectionID)
      | none => .error (.notFound id) := by
  have skipped : (localConnection.id == id) = false := by simpa using notLocal.symm
  have shown : ((state.sshConnections.map toConnection).map
      (Connection.shown state.activeConnectionID)).find? (·.id == id) =
      (state.sshConnections.find? (·.id == id)).map
        fun saved => saved.toConnection.shown state.activeConnectionID := by
    rw [map_map, find?_map]
    rfl
  have whole : (snapshotFromState state).connections.find? (·.id == id) =
      (state.sshConnections.find? (·.id == id)).map
        fun saved => saved.toConnection.shown state.activeConnectionID := by
    rw [← shown, snapshotFromState, map_cons, find?_cons, skipped]
    rfl
  rw [resolveFromState, whole]
  cases state.sshConnections.find? (·.id == id) <;> rfl

variable {request : ConnectionRequest}

theorem resolves_iff {id : String} :
    (∃ conn, resolveFromState state id = .ok conn) ↔ id = localConnection.id ∨ id ∈ state.ids := by
  by_cases isLocal : id = localConnection.id
  · rw [isLocal, resolve_local]
    simp
  rw [resolve_saved state isLocal]
  cases found : state.sshConnections.find? (·.id == id) with
  | none =>
    have absent : id ∉ state.ids := by
      intro mem
      obtain ⟨saved, isSaved, same⟩ := mem_map.mp mem
      have other := find?_eq_none.mp found saved isSaved
      exact other (by simpa using same)
    simp [isLocal, absent]
  | some saved =>
    have mem : id ∈ state.ids := by
      have same : saved.id = id := by simpa using find?_some found
      exact mem_map.mpr ⟨saved, mem_of_find?_eq_some found, same⟩
    simp [mem]

theorem Registered.resolve (registered : Registered state) {saved : SavedSSH}
    (mem : saved ∈ state.sshConnections) (notLocal : saved.id ≠ localConnection.id) :
    resolveFromState state saved.id = .ok (saved.toConnection.shown state.activeConnectionID) := by
  have nodup : (state.sshConnections.map (·.id)).Nodup := registered.distinct
  rw [resolve_saved state notLocal, find_by_key (·.id) nodup mem]

theorem change_saved_cases (state : PersistedState) (id : String) (change : SavedSSH → SavedSSH) :
    (state.changeSaved id change = state ∧ id ∉ state.ids) ∨
      ∃ before saved after, state.sshConnections = before ++ saved :: after ∧ saved.id = id ∧
        state.changeSaved id change =
          { state with sshConnections := before ++ change saved :: after } := by
  unfold changeSaved
  cases found : savedIndex state.sshConnections id with
  | none =>
    refine .inl ⟨rfl, ?_⟩
    intro mem
    obtain ⟨saved, isSaved, same⟩ := mem_map.mp mem
    have other := findIdx?_eq_none_iff.mp found saved isSaved
    exact absurd same (by simpa using other)
  | some index =>
    obtain ⟨before, saved, after, whole, rfl, isID⟩ := split_at_find_idx found
    refine .inr ⟨before, saved, after, whole, by simpa using isID, ?_⟩
    simp only [whole, modify_at_split]

theorem change_saved_ids (state : PersistedState) (id : String) {change : SavedSSH → SavedSSH}
    (keeps : ∀ saved, (change saved).id = saved.id) :
    (state.changeSaved id change).ids = state.ids := by
  rcases change_saved_cases state id change with
    ⟨same, _⟩ | ⟨before, saved, after, whole, _, changed⟩
  · rw [same]
  · simp [changed, ids, whole, keeps]

theorem change_saved_active (state : PersistedState) (id : String) (change : SavedSSH → SavedSSH) :
    (state.changeSaved id change).activeConnectionID = state.activeConnectionID := by
  rcases change_saved_cases state id change with ⟨same, _⟩ | ⟨_, _, _, _, _, changed⟩
  · rw [same]
  · rw [changed]

theorem change_saved_mem (nodup : state.ids.Nodup) {saved : SavedSSH}
    (mem : saved ∈ state.sshConnections) (change : SavedSSH → SavedSSH) :
    change saved ∈ (state.changeSaved saved.id change).sshConnections := by
  rcases change_saved_cases state saved.id change with
    ⟨_, absent⟩ | ⟨before, other, after, whole, sameID, changed⟩
  · exact absurd (mem_map_of_mem mem) absent
  have isOther : other ∈ state.sshConnections := by simp [whole]
  have same : other = saved := inj_on_of_nodup_map nodup isOther mem sameID
  rw [changed, same]
  exact mem_append_right before mem_cons_self

theorem check_result_ids (id : String) (result : CheckResult) (state : PersistedState) :
    (applyCheckResultToState id result state).ids = state.ids ∧
    (applyCheckResultToState id result state).activeConnectionID = state.activeConnectionID := by
  unfold applyCheckResultToState
  split
  · exact ⟨rfl, rfl⟩
  · exact ⟨change_saved_ids state id (by intro saved; rfl), change_saved_active state id _⟩

theorem launch_result_ids (lib : TextLibrary) (now : Instant) (id : String)
    (launchError : Option String) (state : PersistedState) :
    (applyLaunchResultToState lib now id launchError state).ids = state.ids ∧
    (applyLaunchResultToState lib now id launchError state).activeConnectionID =
    state.activeConnectionID := by
  unfold applyLaunchResultToState
  split
  · exact ⟨rfl, rfl⟩
  · exact ⟨change_saved_ids state id (by intro saved; rfl), change_saved_active state id _⟩

theorem Registered.of_same_ids (registered : Registered state) (ids : next.ids = state.ids)
    (active : next.activeConnectionID = state.activeConnectionID) : Registered next := by
  constructor
  · rw [ids]
    exact registered.clean
  · rw [ids]
    exact registered.distinct
  · rw [ids, active]
    exact registered.active

/-- What a save makes of the state: the profile is put in the place of the one with its identifier,
or at the end, and checked. -/
structure SavedIn (normalized : SavedSSH) (state next : PersistedState) : Prop where
  stored : ∃ saved ∈ next.sshConnections, saved.id = normalized.id ∧
    saved.name = normalized.name ∧ saved.config = normalized.config
  ids : next.ids = state.ids ∨ normalized.id ∉ state.ids ∧ next.ids = state.ids ++ [normalized.id]
  active : state.activeConnectionID ≠ "" → next.activeConnectionID = state.activeConnectionID

theorem put_saved_spec (state : PersistedState) (normalized : SavedSSH) :
    (putSaved state normalized).2.id = normalized.id ∧
    (putSaved state normalized).2.name = normalized.name ∧
    (putSaved state normalized).2.config = normalized.config ∧
    (putSaved state normalized).2 ∈ (putSaved state normalized).1.sshConnections ∧
    (putSaved state normalized).1.activeConnectionID = state.activeConnectionID ∧
    ((putSaved state normalized).1.ids = state.ids ∨
      normalized.id ∉ state.ids ∧
        (putSaved state normalized).1.ids = state.ids ++ [normalized.id]) := by
  unfold putSaved
  cases found : state.sshConnections.findIdx? (·.id == normalized.id) with
  | none =>
    have absent : normalized.id ∉ state.ids := by
      intro mem
      obtain ⟨saved, isSaved, same⟩ := mem_map.mp mem
      have other := findIdx?_eq_none_iff.mp found saved isSaved
      exact absurd same (by simpa using other)
    refine ⟨rfl, rfl, rfl, by simp, rfl, .inr ⟨absent, ?_⟩⟩
    simp [ids]
  | some index =>
    obtain ⟨before, current, after, whole, rfl, isID⟩ := split_at_find_idx found
    have sameID : current.id = normalized.id := by simpa using isID
    have read : state.sshConnections[before.length]? = some current := by
      rw [whole]
      exact get_at_split before after current
    dsimp only
    rw [read]
    refine ⟨rfl, rfl, rfl, by simp [whole], rfl, .inl ?_⟩
    simp [ids, whole, sameID, keepRuntime]

theorem check_result_stored (result : CheckResult) (nodup : state.ids.Nodup) {saved : SavedSSH}
    (mem : saved ∈ state.sshConnections) :
    ∃ checked ∈ (applyCheckResultToState saved.id result state).sshConnections, checked.id =
    saved.id ∧ checked.name = saved.name ∧ checked.config = saved.config := by
  unfold applyCheckResultToState
  split
  · exact ⟨saved, mem, rfl, rfl, rfl⟩
  · exact ⟨_, change_saved_mem nodup mem (withCheckResult result), rfl, rfl, rfl⟩

section

variable {lib : TextLibrary} {env : Surroundings} {check : Checker}

variable {normalized : SavedSSH}

theorem normalize_ssh_input_id (accepted : normalizeSSHInput lib env newID input = .ok normalized) :
    normalized.id = if trimSpace input.id = "" then newID else trimSpace input.id := by
  unfold normalizeSSHInput at accepted
  dsimp only at accepted
  split at accepted
  · cases accepted
  split at accepted
  · cases accepted
  obtain ⟨policy, _, accepted⟩ := bind_eq_ok accepted
  cases accepted
  rfl

theorem save_ssh_in_state_spec {conn : Connection} (nodup : state.ids.Nodup)
    (done : saveSSHInState lib env check newID input state = .ok (conn, next)) :
    ∃ normalized, normalizeSSHInput lib env newID input = .ok normalized ∧
    resolveFromState next normalized.id = .ok conn ∧ SavedIn normalized state next := by
  obtain ⟨normalized, accepted, done⟩ := bind_eq_ok done
  refine ⟨normalized, accepted, ?_⟩
  obtain ⟨id, name, config, mem, active, ids⟩ := put_saved_spec state normalized
  have putDistinct : (putSaved state normalized).1.ids.Nodup := by
    rcases ids with same | ⟨absent, grown⟩
    · rwa [same]
    · rw [grown, ← concat_eq_append]
      exact nodup.concat absent
  generalize putSaved state normalized = put at done id name config mem active ids putDistinct
  obtain ⟨putState, saved⟩ := put
  dsimp only at done id name config mem active ids putDistinct
  obtain ⟨activated, isActivated⟩ : ∃ activated, activated =
      (if putState.activeConnectionID = "" then { putState with activeConnectionID := saved.id }
        else putState) := ⟨_, rfl⟩
  rw [← isActivated] at done
  have sameSaved : activated.sshConnections = putState.sshConnections := by
    rw [isActivated]
    split <;> rfl
  have sameIDs : activated.ids = putState.ids := by
    rw [PersistedState.ids, sameSaved]
    rfl
  obtain ⟨resolved, found, done⟩ := bind_eq_ok done
  cases done
  obtain ⟨checkedIDs, checkedActive⟩ :=
    check_result_ids saved.id (check saved.toConnection) activated
  refine ⟨by rwa [← id], ?_, ?_, ?_⟩
  · have distinctBefore : activated.ids.Nodup := by rwa [sameIDs]
    obtain ⟨checked, isChecked, checkedID, checkedName, checkedConfig⟩ :=
      check_result_stored (check saved.toConnection) distinctBefore (sameSaved ▸ mem)
    exact ⟨checked, isChecked, checkedID.trans id, checkedName.trans name,
      checkedConfig.trans config⟩
  · rw [checkedIDs, sameIDs]
    exact ids
  · intro given
    rw [checkedActive, isActivated, if_neg (by rwa [active]), active]

theorem Registered.active_nonblank (registered : Registered state) :
    state.activeConnectionID ≠ "" := by
  rcases registered.active with isLocal | member
  · rw [isLocal]
    decide
  · exact (registered.clean _ member).2

section

variable (saved : SavedIn normalized state next)
include saved

theorem SavedIn.registered
    (clean : CleanID normalized.id) (before : Registered state) : Registered next := by
  have active := saved.active before.active_nonblank
  rcases saved.ids with same | ⟨absent, grown⟩
  · exact before.of_same_ids same active
  constructor
  · rw [grown]
    intro id mem
    rcases mem_append.mp mem with known | new
    · exact before.clean id known
    · rwa [mem_singleton.mp new]
  · rw [grown, ← concat_eq_append]
    exact before.distinct.concat absent
  · rw [grown, active]
    exact before.active.imp id (mem_append_left [normalized.id])

theorem SavedIn.mem {id : String} : id ∈ next.ids ↔ id ∈ state.ids ∨ id = normalized.id := by
  constructor
  · intro mem
    rcases saved.ids with same | ⟨_, grown⟩
    · exact .inl (same ▸ mem)
    · rw [grown, mem_append, mem_singleton] at mem
      exact mem
  intro choice
  rcases choice with known | rfl
  · rcases saved.ids with same | ⟨_, grown⟩
    · rwa [same]
    · rw [grown]
      exact mem_append_left _ known
  · obtain ⟨stored, isStored, sameID, _⟩ := saved.stored
    exact mem_map.mpr ⟨stored, isStored, sameID⟩

end

theorem clean_normalized_id (clean : CleanID newID)
    (accepted : normalizeSSHInput lib env newID input = .ok normalized) :
    CleanID normalized.id := by
  rw [normalize_ssh_input_id accepted]
  split
  · exact clean
  · next nonblank => exact clean_id_trim nonblank

theorem find_ssh_id_mem (state : PersistedState) (name : String) :
    findSSHIDByNameInState state name = "" ∨ findSSHIDByNameInState state name ∈ state.ids := by
  unfold findSSHIDByNameInState
  cases found : state.sshConnections.find? (·.name == trimSpace name) with
  | none => exact .inl rfl
  | some saved => exact .inr (mem_map_of_mem (mem_of_find?_eq_some found))

variable (lib env check) in
theorem import_candidate_spec {s : ImportState} {candidate : SSHConfigProfileCandidate × String}
    (before : Registered s.state) (clean : CleanID candidate.2) :
    Registered (importCandidate lib env check s candidate).state ∧
    s.state.ids ⊆ (importCandidate lib env check s candidate).state.ids ∧
    (importCandidate lib env check s candidate).state.ids ⊆ candidate.2 :: s.state.ids := by
  unfold importCandidate
  cases saved : saveSSHInState lib env check candidate.2 (candidate.1.toInput s.state) s.state with
  | error err => exact ⟨before, List.Subset.refl _, subset_cons_self _ _⟩
  | ok result =>
    obtain ⟨conn, next⟩ := result
    obtain ⟨normalized, accepted, _, isSaved⟩ := save_ssh_in_state_spec before.distinct saved
    have spec : Registered next ∧ s.state.ids ⊆ next.ids ∧
        next.ids ⊆ candidate.2 :: s.state.ids := by
      refine ⟨isSaved.registered (clean_normalized_id clean accepted) before, ?_, ?_⟩
      · exact fun id mem => isSaved.mem.mpr (.inl mem)
      intro id mem
      rcases isSaved.mem.mp mem with known | rfl
      · exact mem_cons_of_mem _ known
      rw [normalize_ssh_input_id accepted]
      split
      · exact mem_cons_self
      next nonblank =>
        rcases find_ssh_id_mem s.state candidate.1.hostAlias with blank | known
        · rw [toInput, blank] at nonblank
          exact absurd trim_space_empty nonblank
        · have isClean := before.clean _ known
          rw [toInput, isClean.1]
          exact mem_cons_of_mem _ known
    dsimp only
    cases conn.ssh with
    | none | some => exact spec

variable (lib env check) in
theorem import_candidates_spec (candidates : List (SSHConfigProfileCandidate × String))
    {s : ImportState} (before : Registered s.state)
    (clean : ∀ newID ∈ candidates.map Prod.snd, CleanID newID) :
    Registered (candidates.foldl (importCandidate lib env check) s).state ∧
    s.state.ids ⊆ (candidates.foldl (importCandidate lib env check) s).state.ids ∧
    (candidates.foldl (importCandidate lib env check) s).state.ids ⊆
      candidates.map Prod.snd ++ s.state.ids := by
  induction candidates generalizing s with
  | nil => exact ⟨before, List.Subset.refl _, List.Subset.refl _⟩
  | cons candidate candidates ih =>
    rw [map_cons, forall_mem_cons] at clean
    obtain ⟨registered, grows, bounded⟩ :=
      import_candidate_spec lib env check before clean.1
    obtain ⟨finalRegistered, finalGrows, finalBounded⟩ := ih registered clean.2
    refine ⟨finalRegistered, fun id mem => finalGrows (grows mem), ?_⟩
    intro id mem
    rw [map_cons, cons_append, mem_cons]
    rcases mem_append.mp (finalBounded mem) with drawn | kept
    · exact .inr (mem_append_left _ drawn)
    · rcases mem_cons.mp (bounded kept) with same | known
      · exact .inl same
      · exact .inr (mem_append_right _ known)

end

section

variable (registered : Registered state)
include registered

theorem delete_remote_profile_spec {raw : String}
    (done : deleteRemoteProfile raw state = .ok next) :
    Registered next ∧ next.ids = state.ids.filter (· ≠ trimSpace raw) := by
  unfold deleteRemoteProfile at done
  dsimp only at done
  split at done
  · cases done
  cases found : savedIndex state.sshConnections (trimSpace raw) with
  | none =>
    rw [found] at done
    cases done
  | some index =>
    obtain ⟨before, saved, after, whole, rfl, isID⟩ := split_at_find_idx found
    have sameID : saved.id = trimSpace raw := by simpa using isID
    rw [found] at done
    dsimp only at done
    rw [whole, erase_idx_at_split] at done
    cases done
    have distinct := registered.distinct
    have split : state.ids = before.map (·.id) ++ saved.id :: after.map (·.id) := by
      simp [ids, whole]
    have kept : (before ++ after).map (·.id) = state.ids.filter (· ≠ trimSpace raw) := by
      rw [split] at distinct ⊢
      rw [← sameID, map_append]
      exact erased_eq_filter distinct
    refine ⟨?_, kept⟩
    constructor
    · intro id mem
      rw [ids, kept] at mem
      exact registered.clean id (mem_of_mem_filter mem)
    · rw [ids, kept]
      exact distinct.filter _
    split
    · exact .inl rfl
    next otherActive =>
      refine registered.active.imp id ?_
      intro mem
      rw [ids, kept]
      exact mem_filter.mpr ⟨mem, by simpa using otherActive⟩

theorem delete_remote_profile_accepts {id : String} (mem : id ∈ state.ids)
    (notLocal : id ≠ localConnection.id) : ∃ next, deleteRemoteProfile id state = .ok next := by
  have clean := registered.clean id mem
  unfold deleteRemoteProfile
  rw [clean.1]
  rw [if_neg (by simp [clean.2, notLocal])]
  cases found : savedIndex state.sshConnections id with
  | none =>
    obtain ⟨saved, isSaved, same⟩ := mem_map.mp mem
    have other := findIdx?_eq_none_iff.mp found saved isSaved
    exact absurd same (by simpa using other)
  | some index => exact ⟨_, rfl⟩

theorem select_connection_spec {id : String}
    (done : selectConnection id state = .ok next) : Registered next ∧ next.ids = state.ids := by
  obtain ⟨conn, found, done⟩ := bind_eq_ok done
  cases done
  have known : id = localConnection.id ∨ id ∈ state.ids := resolves_iff.mp ⟨conn, found⟩
  exact ⟨⟨registered.clean, registered.distinct, known⟩, rfl⟩

end

def ConnectionRequest.deletes (id : String) : ConnectionRequest → Bool
  | .delete raw => trimSpace raw == id
  | _ => false

def ConnectionRequest.avoidsLocal : ConnectionRequest → Bool
  | .saveSSH _ _ input => trimSpace input.id ≠ localConnection.id
  | _ => true

structure Keeps (request : ConnectionRequest) (state next : PersistedState) : Prop where
  registered : Registered next
  ids : ∀ id ∈ state.ids, request.deletes id = false → id ∈ next.ids
  noLocal : request.avoidsLocal = true → localConnection.id ∉ state.ids →
    localConnection.id ∉ next.ids

theorem Keeps.of_same_ids (registered : Registered next) (ids : next.ids = state.ids) :
    Keeps request state next := by
  constructor
  · exact registered
  · intro id mem _
    rwa [ids]
  · intro _ absent
    rwa [ids]

theorem drawn_new_id {newIDs : List String} (drawn : drawsNewIDs state newIDs = true) :
    ∀ newID ∈ newIDs, CleanID newID ∧ newID ≠ localConnection.id := by
  intro newID mem
  have checks := all_eq_true.mp (Bool.and_eq_true_iff.mp drawn).2 newID mem
  simp only [Bool.and_eq_true, decide_eq_true_eq] at checks
  exact checks.1

theorem request_keeps {lib : TextLibrary} {env : Surroundings} (registered : Registered state)
    (drawn : drawsNewIDs state request.newIDs = true)
    (done : request.edit lib env state = some next) : Keeps request state next := by
  cases request with
  | saveSSH checker newID input =>
    obtain ⟨newClean, newNotLocal⟩ := drawn_new_id drawn newID mem_cons_self
    obtain ⟨⟨conn, stored⟩, saved, done⟩ := bind_eq_ok (to_option_eq_some done)
    cases done
    obtain ⟨normalized, accepted, _, isSaved⟩ :=
      save_ssh_in_state_spec registered.distinct saved
    constructor
    · exact isSaved.registered (clean_normalized_id newClean accepted) registered
    · exact fun id mem _ => isSaved.mem.mpr (.inl mem)
    intro avoids absent isLocal
    rcases isSaved.mem.mp isLocal with known | same
    · exact absent known
    rw [normalize_ssh_input_id accepted] at same
    split at same
    · exact newNotLocal same.symm
    · exact absurd same.symm (by simpa [ConnectionRequest.avoidsLocal] using avoids)
  | delete raw =>
    obtain ⟨kept, ids⟩ := delete_remote_profile_spec registered (to_option_eq_some done)
    constructor
    · exact kept
    · intro id mem others
      rw [ids, mem_filter]
      refine ⟨mem, ?_⟩
      have other : trimSpace raw ≠ id := by simpa [ConnectionRequest.deletes] using others
      simpa using other.symm
    · intro _ absent isLocal
      rw [ids] at isLocal
      exact absent (mem_of_mem_filter isLocal)
  | select id =>
    obtain ⟨kept, ids⟩ := select_connection_spec registered (to_option_eq_some done)
    exact Keeps.of_same_ids kept ids
  | check checker id =>
    obtain ⟨conn, _, done⟩ := bind_eq_ok (to_option_eq_some done)
    cases done
    obtain ⟨ids, active⟩ := check_result_ids id (checker conn) state
    exact Keeps.of_same_ids (registered.of_same_ids ids active) ids
  | reportLaunch now id launchError =>
    obtain ⟨_, _, done⟩ := bind_eq_ok (to_option_eq_some done)
    cases done
    obtain ⟨ids, active⟩ := launch_result_ids lib now id launchError state
    exact Keeps.of_same_ids (registered.of_same_ids ids active) ids
  | importConfig checker candidates =>
    have newIDs := drawn_new_id drawn
    have spec := import_candidates_spec lib env checker candidates
      (s := { state := state }) registered fun newID mem => (newIDs newID mem).1
    obtain ⟨kept, grows, bounded⟩ := spec
    simp only [ConnectionRequest.edit, importSSHConfig] at done
    split at done
    · cases done
      constructor
      · exact kept
      · exact fun id mem _ => grows mem
      intro _ absent isLocal
      rcases mem_append.mp (bounded isLocal) with isDrawn | known
      · exact (newIDs _ isDrawn).2 rfl
      · exact absent known
    · cases done

end

variable {lib : TextLibrary} {env : Surroundings} {s : Stored PersistedState}

def startsFresh (s : Stored PersistedState) : Prop := s = Stored.saved newService

def ConnectionStep.avoidsLocal (_ : Stored PersistedState) (action : ConnectionStep) : Bool :=
  action.request.avoidsLocal

def ConnectionStep.spares (id : String) (_ : Stored PersistedState) (action : ConnectionStep) :
    Bool :=
  !action.request.deletes id

theorem new_service_registered : Registered newService := by
  constructor
  · intro id mem
    cases mem
  · exact List.nodup_nil
  · exact .inl rfl

section

variable {next : Stored PersistedState} {action : ConnectionStep} (registered : Registered s.data)
  (taken : connectionStep lib env s action = some next)
include registered taken

theorem connection_step_cases :
    next = s ∨ ∃ state, next = Stored.saved state ∧ Keeps action.request s.data state := by
  unfold connectionStep at taken
  split at taken
  next drawn =>
    cases taken
    rcases s.commit_cases (fun state => action.request.edit lib env state) action.written with
      same | ⟨state, edited, _, swapped⟩
    · exact .inl same
    · exact .inr ⟨state, swapped, request_keeps registered drawn edited⟩
  · cases taken

theorem registered_step : Registered next.data := by
  rcases connection_step_cases registered taken with rfl | ⟨state, rfl, kept⟩
  · exact registered
  · exact kept.registered

end

theorem connections_registered (reached : Reachable startsFresh (connectionStep lib env) s) :
    Registered s.data := by
  apply reached.invariant _ registered_step
  rintro _ rfl
  exact new_service_registered

theorem stays_saved {id : String} {later : Stored PersistedState} (registered : Registered s.data)
    (mem : id ∈ s.data.ids)
    (run : RunsTo (guarded (ConnectionStep.spares id) (connectionStep lib env)) s later) :
    Registered later.data ∧ id ∈ later.data.ids := by
  apply run.preserves _ ⟨registered, mem⟩
  intro s action next before taken
  obtain ⟨spares, taken⟩ := guarded_eq_some.mp taken
  have others : action.request.deletes id = false := by
    simpa [ConnectionStep.spares] using spares
  rcases connection_step_cases before.1 taken with rfl | ⟨state, rfl, kept⟩
  · exact before
  · exact ⟨kept.registered, kept.ids id before.2 others⟩

def ActiveResolves (state : PersistedState) : Prop :=
  ∃ connection, resolveFromState state state.activeConnectionID = .ok connection

def UniqueIDs (state : PersistedState) : Prop :=
  ((snapshotFromState state).connections.map (·.id)).Nodup

def ResolvesToSaved (state : PersistedState) (normalized : SavedSSH) : Prop :=
  ∃ connection, resolveFromState state normalized.id = .ok connection ∧
    connection.id = normalized.id ∧ connection.kind = .ssh ∧
    connection.name = normalized.name ∧ connection.ssh = some normalized.config

def StaysDeletable (lib : TextLibrary) (env : Surroundings) (state : PersistedState)
    (id : String) : Prop :=
  ∀ later, RunsTo (guarded (ConnectionStep.spares id) (connectionStep lib env))
    (Stored.saved state) later → ∃ after, deleteRemoteProfile id later.data = .ok after

theorem snapshot_ids (state : PersistedState) :
    (snapshotFromState state).connections.map (·.id) = localConnection.id :: state.ids := by
  simp [snapshotFromState, ids, toConnection]

theorem save_resolves {normalized : SavedSSH} (registered : Registered state)
    (newClean : CleanID newID) (newNotLocal : newID ≠ localConnection.id)
    (accepted : normalizeSSHInput lib env newID input = .ok normalized)
    (isSaved : SavedIn normalized state next) : ResolvesToSaved next normalized ∧
    StaysDeletable lib env next normalized.id ↔ trimSpace input.id ≠ localConnection.id := by
  have isRegistered := isSaved.registered (clean_normalized_id newClean accepted) registered
  have id := normalize_ssh_input_id accepted
  constructor
  · rintro ⟨⟨resolved, isResolved, _, isSSH, _⟩, _⟩ isLocal
    rw [isLocal] at id
    rw [id] at isResolved
    cases isResolved
    cases isSSH
  intro notLocal
  have savedNotLocal : normalized.id ≠ localConnection.id := by
    rw [id]
    split
    · exact newNotLocal
    · exact notLocal
  obtain ⟨saved, mem, sameID, name, config⟩ := isSaved.stored
  constructor
  · have resolved := isRegistered.resolve mem (sameID ▸ savedNotLocal)
    rw [sameID] at resolved
    exact ⟨_, resolved, sameID, rfl, name, congrArg some config⟩
  intro later run
  obtain ⟨laterRegistered, stays⟩ :=
    stays_saved isRegistered (isSaved.mem.mpr (.inr rfl)) run
  exact delete_remote_profile_accepts laterRegistered stays savedNotLocal

/-- As long as nothing was saved under the identifier of the built-in connection, a save resolves to
itself and stays deletable exactly when it is not under that identifier. -/
theorem saved_connections_resolve {s : Stored PersistedState}
    (reached : Reachable startsFresh (guarded ConnectionStep.avoidsLocal (connectionStep lib env))
      s) :
    ActiveResolves s.data ∧ UniqueIDs s.data ∧
    ∀ check newID input connection next, drawsNewIDs s.data [newID] = true →
      saveSSHInState lib env check newID input s.data = .ok (connection, next) →
      ∃ normalized, normalizeSSHInput lib env newID input = .ok normalized ∧
        resolveFromState next normalized.id = .ok connection ∧
        (ResolvesToSaved next normalized ∧ StaysDeletable lib env next normalized.id ↔
          trimSpace input.id ≠ localConnection.id) := by
  have invariant : Registered s.data ∧ localConnection.id ∉ s.data.ids := by
    apply reached.invariant
    · rintro _ rfl
      exact ⟨new_service_registered, List.not_mem_nil⟩
    intro s action next before taken
    obtain ⟨avoids, taken⟩ := guarded_eq_some.mp taken
    rcases connection_step_cases before.1 taken with rfl | ⟨state, rfl, kept⟩
    · exact before
    · exact ⟨kept.registered, kept.noLocal avoids before.2⟩
  obtain ⟨registered, noLocal⟩ := invariant
  refine ⟨resolves_iff.mpr registered.active, ?_, ?_⟩
  · rw [UniqueIDs, snapshot_ids]
    exact List.nodup_cons.mpr ⟨noLocal, registered.distinct⟩
  intro check newID input connection next drawn saved
  obtain ⟨newClean, newNotLocal⟩ := drawn_new_id drawn newID List.mem_cons_self
  obtain ⟨normalized, accepted, found, isSaved⟩ :=
    save_ssh_in_state_spec registered.distinct saved
  exact ⟨normalized, accepted, found,
    save_resolves registered newClean newNotLocal accepted isSaved⟩

def plainText : TextLibrary where
  matchRegexp _ _ := false
  toLower := id

def passing : Checker := fun _ => { status := .passed, checkedAt := 1 }

theorem saved_connections_resolve_selected : ∃ s : Stored PersistedState,
    s.data.activeConnectionID = "conn_1" ∧ ActiveResolves s.data ∧ UniqueIDs s.data := by
  have ran : (runActions (guarded ConnectionStep.avoidsLocal (connectionStep plainText {}))
      (Stored.saved newService)
      [⟨.saveSSH passing "conn_1" { host := " build.example " }, true⟩,
        ⟨.select "conn_1", true⟩]).map (fun s => decide
          (s.data.activeConnectionID = "conn_1")) = some true := by
    decide +kernel
  have fresh : startsFresh (Stored.saved newService) := rfl
  obtain ⟨s, reached, selected⟩ := reachable_of_run fresh ran
  obtain ⟨resolves, unique, _⟩ := saved_connections_resolve reached
  exact ⟨s, of_decide_eq_true selected, resolves, unique⟩

/-- A profile saved as `local` is hidden by the built-in connection. -/
theorem saved_local_is_shadowed : ¬∀ lib env s, Reachable startsFresh (connectionStep lib env) s →
    ActiveResolves s.data ∧ UniqueIDs s.data ∧ ∀ check newID input connection next,
    drawsNewIDs s.data [newID] = true → saveSSHInState lib env check newID input s.data =
    .ok (connection, next) → ∃ normalized, normalizeSSHInput lib env newID input = .ok normalized ∧
    resolveFromState next normalized.id = .ok connection ∧ ResolvesToSaved next normalized ∧
    StaysDeletable lib env next normalized.id := by
  intro claim
  have fresh : startsFresh (Stored.saved newService) := rfl
  obtain ⟨_, _, saves⟩ := claim plainText {} _ (Reachable.start fresh)
  have accepted : (saveSSHInState plainText {} passing "conn_1"
      { id := "local", host := "build.example" } newService).toOption.isSome = true := by
    decide +kernel
  obtain ⟨⟨connection, next⟩, saved⟩ := Option.isSome_iff_exists.mp accepted
  obtain ⟨normalized, isNormalized, _, ⟨resolved, isResolved, _, isSSH, _⟩, _⟩ :=
    saves passing "conn_1" _ connection next (by decide +kernel) (to_option_eq_some saved)
  have isLocal : normalized.id = localConnection.id := by
    rw [normalize_ssh_input_id isNormalized]
    decide
  rw [isLocal] at isResolved
  cases isResolved
  cases isSSH

end RuneTerminal.Connections
