import RuneTerminal.Agent.ProviderRecords

/-! In every run the active provider exists and is enabled, identifiers are distinct and records are
valid. -/

namespace RuneTerminal.Agent

open Go.Strings Kit List ProviderRequest

attribute [local irreducible] normalizeProviderActor normalizeProviderAccess
  normalizeProviderRoutePolicy normalizeProviderBaseURL normalizeProviderChatModels trimSpace

structure Written (settled : Prop) (record : ProviderRecord) : Prop where
  valid : record.Valid
  copied : cloneProviderRecord record = record
  settled : settled → record.Settled

inductive ProviderChange (settles : Prop) (state next : State) : Prop
  | added (record : ProviderRecord) (fresh : record.id ∉ state.providers.map (·.id))
      (written : Written settles record)
      (providers : next.providers = state.providers.map cloneProviderRecord ++ [record])
      (active : next.activeProviderID = state.activeProviderID)
  | replaced (before after : List ProviderRecord) (record updated : ProviderRecord)
      (whole : state.providers = before ++ record :: after) (sameID : updated.id = record.id)
      (written : Written (record.Valid ∧ record.Settled ∧ settles) updated)
      (providers : next.providers =
        before.map cloneProviderRecord ++ updated :: after.map cloneProviderRecord)
      (active : updated.id = next.activeProviderID → updated.enabled = true)
      (selected : next.activeProviderID = state.activeProviderID ∨
        next.activeProviderID = updated.id)
  | removed (before after : List ProviderRecord) (record : ProviderRecord)
      (whole : state.providers = before ++ record :: after)
      (inactive : record.id ≠ state.activeProviderID)
      (providers : next.providers =
        before.map cloneProviderRecord ++ after.map cloneProviderRecord)
      (active : next.activeProviderID = state.activeProviderID)

/-- An accepted request changes one record and leaves the version alone. -/
structure Accepted (settles : Prop) (state next : State) : Prop where
  version : next.version = state.version
  change : ProviderChange settles state next

variable {settles : Prop} {id : String} {actor : ProviderActor} {later : Instant}
  {input : UpdateProviderInput}

theorem stamp_created_written {built : ProviderRecord} (actor : ProviderActor) (valid : built.Valid)
    (settled : settles → built.Settled)
    (routePolicy : normalizeProviderRoutePolicy built.routePolicy = built.routePolicy) :
    Written settles (stampCreated actor built) := by
  constructor
  · exact valid.of_same rfl
  · have access := access_idempotent built.access (normalizeProviderActor actor)
    rw [actor_idempotent] at access
    simp only [stampCreated, cloneProviderRecord, actor_idempotent, routePolicy, access]
  · intro settles
    have before := settled settles
    exact ⟨before.codex, before.claude, before.openAICompatible⟩

variable {state next : State}

theorem create_provider_spec {now : Instant} {input : CreateProviderInput}
    (fresh : id ∉ state.providers.map (·.id))
    (done : createProvider id now later input actor state = .ok next) :
    Accepted (input.settles = true) state next := by
  obtain ⟨built, isBuilt, done⟩ := bind_eq_ok done
  cases done
  have spec := build_provider_record_spec isBuilt
  have unused : (stampCreated actor built).id ∉ state.providers.map (·.id) := by
    rw [stampCreated, spec.id]
    exact fresh
  have written := stamp_created_written actor spec.valid spec.settled spec.routePolicy
  exact ⟨rfl, ProviderChange.added _ unused written rfl rfl⟩

theorem provider_index_split {index : Nat} (found : providerIndex state id = some index) :
    ∃ before record after, state.providers =
    before ++ record :: after ∧ before.length = index ∧ record.id = id := by
  obtain ⟨before, record, after, whole, size, isID⟩ := split_at_find_idx found
  exact ⟨before, record, after, whole, size, by simpa using isID⟩

variable {record : ProviderRecord}

theorem clone_providers_split {before after : List ProviderRecord}
    (whole : state.providers = before ++ record :: after) :
    (cloneState state).providers =
      before.map cloneProviderRecord ++ cloneProviderRecord record ::
        after.map cloneProviderRecord := by
  rw [cloneState, whole, map_append, map_cons]

theorem stamp_updated_written {applied : ProviderRecord} (actor : ProviderActor)
    (updated : Updated record input applied) (accepted : settles → input.settles record = true) :
    Written (record.Valid ∧ record.Settled ∧ settles) (stampUpdated actor applied) := by
  constructor
  · exact updated.valid.of_same rfl
  · simp only [stampUpdated, cloneProviderRecord, actor_idempotent, updated.createdBy,
      updated.access, updated.routePolicy]
  · rintro ⟨valid, settled, settles⟩
    have after := updated.settled valid settled (accepted settles)
    exact ⟨after.codex, after.claude, after.openAICompatible⟩

theorem update_provider_spec {now : Instant} (nodup : (state.providers.map (·.id)).Nodup)
    (done : updateProvider id now later input actor state = .ok next) :
    Accepted ((findByID (·.id) state.providers id).all input.settles = true) state next := by
  unfold updateProvider at done
  cases found : providerIndex state id with
  | none =>
    rw [found] at done
    cases done
  | some index =>
    obtain ⟨before, record, after, whole, rfl, rfl⟩ := provider_index_split found
    have read : state.providers[before.length]? = some record := by
      rw [whole]
      exact get_at_split before after record
    rw [found] at done
    simp only [read] at done
    obtain ⟨applied, isApplied, done⟩ := bind_eq_ok done
    have spec := apply_provider_update_spec isApplied
    split at done
    · cases done
    next enabled =>
      cases done
      have mem : record ∈ state.providers := by
        rw [whole]
        exact mem_append_right before mem_cons_self
      have accepted : (findByID (·.id) state.providers record.id).all input.settles = true →
          input.settles record = true := by
        rw [findByID, find_by_key (·.id) nodup mem]
        exact id
      have written := stamp_updated_written actor spec accepted
      have copies := clone_providers_split whole
      refine ⟨rfl, ProviderChange.replaced before after record (stampUpdated actor applied) whole
        spec.id written ?_ ?_ (.inl rfl)⟩
      · rw [copies, ← length_map cloneProviderRecord, set_at_split]
      · intro isActive
        by_contra disabled
        exact enabled ⟨isActive.symm, by simpa using disabled⟩

theorem mark_activated_written (settles : Prop) (actor : ProviderActor) (now : Instant)
    (valid : record.Valid) :
    Written (record.Valid ∧ record.Settled ∧ settles)
      (markActivated actor now (cloneProviderRecord record)) := by
  constructor
  · exact valid.of_same rfl
  · simp only [markActivated, cloneProviderRecord, actor_idempotent,
      access_idempotent, route_policy_idempotent]
  · rintro ⟨_, settled, _⟩
    exact ⟨settled.codex, settled.claude, settled.openAICompatible⟩

theorem set_active_provider_spec {now : Instant} (valid : ∀ record ∈ state.providers, record.Valid)
    (done : setActiveProvider id now later actor state = .ok next) : Accepted True state next := by
  unfold setActiveProvider at done
  cases found : findByID (·.id) state.providers id with
  | none =>
    rw [found] at done
    cases done
  | some provider =>
    rw [found] at done
    dsimp only at done
    split at done
    · cases done
    next enabled =>
      -- The search for the record and the search for its index stop at the same place.
      obtain ⟨index, isIndex, isProvider⟩ : ∃ index, providerIndex state id = some index ∧
          state.providers[index]? = some provider := by
        rw [findByID, find?_eq_some_iff_getElem] at found
        obtain ⟨isID, index, bound, isProvider, notBefore⟩ := found
        refine ⟨index, ?_, by rw [getElem?_eq_getElem bound, isProvider]⟩
        rw [providerIndex, findIdx?_eq_some_iff_getElem]
        exact ⟨bound, by rwa [isProvider], fun other earlier => by
          simpa using notBefore other earlier⟩
      obtain ⟨before, record, after, whole, rfl, rfl⟩ := provider_index_split isIndex
      have same : record = provider := by
        rw [whole, get_at_split] at isProvider
        exact Option.some.inj isProvider
      subst same
      rw [isIndex] at done
      cases done
      have copies := clone_providers_split whole
      have mem : record ∈ state.providers := by
        rw [whole]
        exact mem_append_right before mem_cons_self
      have written := mark_activated_written True actor later (valid record mem)
      refine ⟨rfl, ProviderChange.replaced before after record
        (markActivated actor later (cloneProviderRecord record)) whole rfl written ?_ ?_
        (.inr rfl)⟩
      · rw [copies, ← length_map cloneProviderRecord, modify_at_split]
      · intro _
        simpa [markActivated] using enabled

theorem delete_provider_spec {now : Instant} (done : deleteProvider id now state = .ok next) :
    Accepted True state next := by
  unfold deleteProvider at done
  cases found : providerIndex state id with
  | none =>
    rw [found] at done
    cases done
  | some index =>
    obtain ⟨before, record, after, whole, rfl, rfl⟩ := provider_index_split found
    rw [found] at done
    dsimp only at done
    split at done
    · cases done
    next inactive =>
      cases done
      have copies := clone_providers_split whole
      refine ⟨rfl, ProviderChange.removed before after record whole (Ne.symm inactive) ?_ rfl⟩
      rw [copies, ← length_map cloneProviderRecord, erase_idx_at_split]

theorem request_accepted {request : ProviderRequest} (nodup : (state.providers.map (·.id)).Nodup)
    (valid : ∀ record ∈ state.providers, record.Valid) (new : request.drawsNewID state = true)
    (done : request.edit state = .ok next) :
    Accepted (request.settles state = true) state next := by
  cases request with
  | create providerID now later input actor =>
    apply create_provider_spec _ done
    simpa [drawsNewID] using new
  | update id now later input actor => exact update_provider_spec nodup done
  | setActive id now later actor =>
    simpa only [settles] using set_active_provider_spec valid done
  | delete id now => simpa only [settles] using delete_provider_spec done

/-- The active provider can be used, and every record is valid and has its own identifier. -/
structure Registered (state : State) : Prop where
  version : state.version = configVersion
  distinct : (state.providers.map (·.id)).Nodup
  valid : ∀ record ∈ state.providers, record.Valid
  active : ∃ record ∈ state.providers, record.id = state.activeProviderID ∧ record.enabled = true

theorem clone_ids (records : List ProviderRecord) :
    (records.map cloneProviderRecord).map (·.id) = records.map (·.id) := by
  rw [map_map]
  rfl

section

variable (accepted : Accepted settles state next)
include accepted

theorem Accepted.mem_cases (mem : record ∈ next.providers) :
    (∃ stored ∈ state.providers, record = cloneProviderRecord stored) ∨ Written settles record ∨
    ∃ stored ∈ state.providers, Written (stored.Valid ∧ stored.Settled ∧ settles) record := by
  have copied : ∀ {records : List ProviderRecord}, records ⊆ state.providers →
      record ∈ records.map cloneProviderRecord →
      ∃ stored ∈ state.providers, record = cloneProviderRecord stored := by
    intro records included isCopy
    obtain ⟨stored, isStored, same⟩ := mem_map.mp isCopy
    exact ⟨stored, included isStored, same.symm⟩
  cases accepted.change with
  | added added _ written providers _ =>
    rw [providers, mem_append, mem_singleton] at mem
    rcases mem with isCopy | rfl
    · exact .inl (copied (List.Subset.refl _) isCopy)
    · exact .inr (.inl written)
  | replaced front back old updated whole _ written providers _ _ =>
    rw [providers, mem_append, mem_cons] at mem
    rcases mem with isCopy | rfl | isCopy
    · exact .inl (copied (by simp [whole]) isCopy)
    · exact .inr (.inr ⟨old, by simp [whole], written⟩)
    · exact .inl (copied (by simp [whole]) isCopy)
  | removed front back old whole _ providers _ =>
    rw [providers, mem_append] at mem
    cases mem with
    | inl isCopy | inr isCopy => exact .inl (copied (by simp [whole]) isCopy)

section

variable (before : Registered state)
include before

theorem Accepted.distinct : (next.providers.map (·.id)).Nodup := by
  have distinct := before.distinct
  cases accepted.change with
  | added record fresh _ providers _ =>
    rw [providers, map_append, clone_ids, map_singleton, ← concat_eq_append]
    exact distinct.concat fresh
  | replaced front back record updated whole sameID _ providers _ _ =>
    rw [whole] at distinct
    rw [providers, map_append, map_cons, clone_ids, clone_ids, sameID]
    rwa [map_append, map_cons] at distinct
  | removed front back record whole _ providers _ =>
    rw [whole] at distinct
    rw [providers, map_append, clone_ids, clone_ids, ← map_append]
    exact distinct.sublist (((sublist_cons_self record back).append_left front).map _)

theorem Accepted.valid : ∀ record ∈ next.providers, record.Valid := by
  intro record mem
  rcases accepted.mem_cases mem with ⟨stored, isStored, rfl⟩ | written | ⟨_, _, written⟩
  · exact (before.valid stored isStored).clone
  · exact written.valid
  · exact written.valid

theorem Accepted.active :
    ∃ record ∈ next.providers, record.id = next.activeProviderID ∧ record.enabled = true := by
  obtain ⟨active, isStored, isActive, enabled⟩ := before.active
  cases accepted.change with
  | added record _ _ providers same =>
    rw [providers, same]
    exact ⟨cloneProviderRecord active,
      mem_append_left _ (mem_map_of_mem isStored), isActive, enabled⟩
  | replaced front back record updated whole sameID _ providers enables selected =>
    rw [providers]
    by_cases isUpdated : updated.id = next.activeProviderID
    · exact ⟨updated, mem_append_right _ mem_cons_self, isUpdated, enables isUpdated⟩
    have same : next.activeProviderID = state.activeProviderID := by
      cases selected with
      | inl same => exact same
      | inr chosen => exact absurd chosen.symm isUpdated
    rw [whole, mem_append, mem_cons] at isStored
    refine ⟨cloneProviderRecord active, ?_, isActive.trans same.symm, enabled⟩
    rcases isStored with inFront | rfl | inBack
    · exact mem_append_left _ (mem_map_of_mem inFront)
    · exact absurd (sameID.trans (isActive.trans same.symm)) isUpdated
    · exact mem_append_right _ (mem_cons_of_mem _ (mem_map_of_mem inBack))
  | removed front back record whole inactive providers same =>
    rw [providers, same]
    rw [whole, mem_append, mem_cons] at isStored
    refine ⟨cloneProviderRecord active, ?_, isActive, enabled⟩
    rcases isStored with inFront | rfl | inBack
    · exact mem_append_left _ (mem_map_of_mem inFront)
    · exact absurd isActive inactive
    · exact mem_append_right _ (mem_map_of_mem inBack)

theorem Accepted.registered : Registered next :=
  ⟨accepted.version.trans before.version, accepted.distinct before, accepted.valid before,
    accepted.active before⟩

theorem Accepted.settled (isSettled : settles)
    (settled : ∀ record ∈ state.providers, record.Settled) :
    ∀ record ∈ next.providers, record.Settled := by
  intro record mem
  rcases accepted.mem_cases mem with
    ⟨stored, isStored, rfl⟩ | written | ⟨stored, isStored, written⟩
  · exact (settled stored isStored).clone
  · exact written.settled isSettled
  · exact written.settled ⟨before.valid stored isStored, settled stored isStored, isSettled⟩

end

theorem Accepted.copied : cloneState next = next := by
  have same : next.providers.map cloneProviderRecord = next.providers := by
    have fixed : ∀ record ∈ next.providers, cloneProviderRecord record = id record := by
      intro record mem
      rcases accepted.mem_cases mem with ⟨stored, _, rfl⟩ | written | ⟨_, _, written⟩
      · exact clone_record_idempotent stored
      · exact written.copied
      · exact written.copied
    rw [map_congr_left fixed, map_id]
  rw [cloneState, same]

end

section

variable (env : Environment)
include env

/-- Loading a registered state of settled records copies it and reports no change. -/
theorem normalize_settled (now : Instant) (registered : Registered state)
    (settled : ∀ record ∈ state.providers, record.Settled) :
    normalizeProviderState env now state = (cloneState state, false) := by
  obtain ⟨active, isStored, isActive, _⟩ := registered.active
  have isCopy : cloneProviderRecord active ∈ (cloneState state).providers :=
    mem_map_of_mem isStored
  have version : (decide ((cloneState state).version ≠ configVersion)) = false :=
    decide_eq_false (not_not.mpr registered.version)
  have present : (decide ((cloneState state).providers.length = 0)) = false := by
    simpa using ne_nil_of_mem isCopy
  have supported : filterSupported (cloneState state).providers = (cloneState state).providers := by
    rw [filterSupported, filter_eq_self]
    intro record mem
    obtain ⟨stored, wasStored, rfl⟩ := mem_map.mp mem
    exact (registered.valid stored wasStored).supported
  have allKept : (decide ((filterSupported (cloneState state).providers).length ≠
      (cloneState state).providers.length)) = false := by
    simp [supported]
  have normal : ((cloneState state).providers.any fun record =>
      normalizeProviderRecord record ≠ record) = false := by
    rw [any_eq_false]
    intro record mem
    obtain ⟨stored, wasStored, rfl⟩ := mem_map.mp mem
    simp [(settled stored wasStored).clone.normalized]
  have nonblank : (decide (trimSpace (cloneState state).activeProviderID = "")) = false := by
    have given := (registered.valid active isStored).id
    rw [isActive] at given
    exact decide_eq_false given
  have found : (findByID (·.id) (cloneState state).providers
      (cloneState state).activeProviderID).isNone = false := by
    rw [Option.isNone_eq_false_iff, findByID, find?_isSome]
    exact ⟨cloneProviderRecord active, isCopy, by simpa using isActive⟩
  simp only [normalizeProviderState, Normalizing.changeIf, version, present, allKept, normal,
    nonblank, found, Bool.false_eq_true, if_false]

private theorem default_env_nonblank (key : String) {fallback : String}
    (nonblank : trimSpace fallback ≠ "") : trimSpace (defaultEnvString env key fallback) ≠ "" := by
  unfold defaultEnvString
  split
  · rwa [trim_space_twice]
  · exact nonblank

private theorem default_cli_settled (commandKey modelKey : String)
    {defaultCommand defaultModel : String} (command : trimSpace defaultCommand ≠ "")
    (model : trimSpace defaultModel ≠ "") :
    (defaultCLISettings env commandKey defaultCommand modelKey defaultModel).Settled := by
  have commandGiven := default_env_nonblank env commandKey command
  have models := models_list_default [] (default_env_nonblank env modelKey model)
  constructor
  · simpa only [defaultCLISettings, trim_space_twice] using commandGiven
  · simpa only [defaultCLISettings] using models

private theorem default_providers_settled (now : Instant) :
    ∀ record ∈ defaultProviders env now, record.Settled := by
  rw [defaultProviders, forall_mem_cons, forall_mem_singleton]
  have codex := default_cli_settled env "RTERM_CODEX_CLI_COMMAND" "RTERM_CODEX_CLI_MODEL"
    codex_defaults.1 codex_defaults.2
  have claude := default_cli_settled env "RTERM_CLAUDE_CODE_COMMAND" "RTERM_CLAUDE_CODE_MODEL"
    claude_defaults.1 claude_defaults.2
  exact ⟨settled_only_codex rfl rfl rfl codex, settled_only_claude rfl rfl rfl claude⟩

end

private theorem settings_validate {label : String} {settings : CLIProviderSettings}
    (settled : settings.Settled) : validateCLISettings label (some settings) true = .ok () := by
  simp [validateCLISettings, settled.command, settled.models.nonblank]

section

variable (env : Environment) (now : Instant)
include env now

private theorem default_providers_valid : ∀ record ∈ defaultProviders env now, record.Valid := by
  have settled := default_providers_settled env now
  rw [defaultProviders, forall_mem_cons, forall_mem_singleton] at settled ⊢
  obtain ⟨⟨codexID, codexName⟩, claudeID, claudeName⟩ := default_names_nonblank
  have codex : (defaultCodexProvider env now).Configured :=
    settings_validate (settled.1.codex _ rfl)
  have claude : (defaultClaudeProvider env now).Configured :=
    settings_validate (settled.2.claude _ rfl)
  exact ⟨codex.valid codexID rfl codexName, claude.valid claudeID rfl claudeName⟩

theorem default_registered : Registered (defaultState env now) := by
  have nodup : [defaultActiveProviderID, "claude-code-cli"].Nodup := by decide
  constructor
  · rfl
  · exact nodup
  · exact default_providers_valid env now
  · exact ⟨defaultCodexProvider env now, mem_cons_self, rfl, rfl⟩

theorem default_not_copied : cloneState (defaultState env now) ≠ defaultState env now := by
  intro same
  have heads := congrArg
    (fun state => (state.providers.head?).map (·.routePolicy.warmTTLSeconds)) same
  simp [cloneState, defaultState, defaultProviders, cloneProviderRecord, defaultCodexProvider,
    normalizeProviderRoutePolicy, defaultProviderWarmTTLSeconds] at heads

end

def ProviderRecord.DefaultFirst (record : ProviderRecord) : Prop :=
  match record.kind with
  | .codex => ∃ settings, record.codex = some settings ∧
      settings.chatModels.head? = some settings.model
  | .claude => ∃ settings, record.claude = some settings ∧
      settings.chatModels.head? = some settings.model
  | .openAICompatible => ∃ settings, record.openAICompatible = some settings ∧
      settings.chatModels.head? = some settings.model
  | .other _ => False

structure ProvidersSound (state : State) : Prop where
  active : ∃ record, findByID (·.id) state.providers state.activeProviderID = some record ∧
    record.enabled = true
  distinct : (state.providers.map (·.id)).Nodup
  valid : ∀ record ∈ state.providers, validateProviderRecord record = .ok ()
  defaultFirst : ∀ record ∈ state.providers, record.DefaultFirst

theorem ProviderRecord.Settled.default_first (settled : record.Settled) (valid : record.Valid) :
    record.DefaultFirst := by
  have configured := valid.configured
  unfold ProviderRecord.DefaultFirst
  cases kind : record.kind with
  | codex =>
    obtain ⟨⟨settings, isSettings, _⟩, _⟩ := configured.codex_settings kind
    exact ⟨settings, isSettings, (settled.codex settings isSettings).models.first⟩
  | claude =>
    obtain ⟨⟨settings, isSettings, _⟩, _⟩ := configured.claude_settings kind
    exact ⟨settings, isSettings, (settled.claude settings isSettings).models.first⟩
  | openAICompatible =>
    obtain ⟨⟨settings, isSettings, _⟩, _⟩ := configured.open_ai_settings kind
    exact ⟨settings, isSettings, (settled.openAICompatible settings isSettings).models.first⟩
  | other raw =>
    rw [ProviderRecord.Configured, kind] at configured
    cases configured

theorem Registered.sound (registered : Registered state)
    (settled : ∀ record ∈ state.providers, record.Settled) : ProvidersSound state := by
  constructor
  · obtain ⟨record, mem, isActive, enabled⟩ := registered.active
    refine ⟨record, ?_, enabled⟩
    rw [← isActive]
    exact find_by_key (·.id) registered.distinct mem
  · exact registered.distinct
  · exact fun record mem => (registered.valid record mem).passes
  · intro record mem
    exact (settled record mem).default_first (registered.valid record mem)

/-- The state of a store whose requests all settled the record they wrote. -/
structure SettledState (first state : State) : Prop where
  registered : Registered state
  settled : ∀ record ∈ state.providers, record.Settled
  copied : state = first ∨ cloneState state = state

theorem SettledState.step {first : State} {s next : Stored State} {action : ProviderStep}
    (before : s.data = s.file ∧ SettledState first s.file)
    (taken : guarded ProviderStep.settles providerStep s action = some next) :
    next.data = next.file ∧ SettledState first next.file := by
  obtain ⟨settles, taken⟩ := guarded_eq_some.mp taken
  unfold providerStep at taken
  split at taken
  next new =>
    cases taken
    apply Stored.commit_preserves _ before
    intro written edited
    rw [ProviderStep.settles, before.1] at settles
    rw [before.1] at edited new
    obtain ⟨registered, settled, _⟩ := before.2
    have accepted := request_accepted registered.distinct registered.valid new
      (to_option_eq_some edited)
    exact ⟨accepted.registered registered, accepted.settled registered settles settled,
      .inr accepted.copied⟩
  · cases taken

/-- Where every request settles the record it writes, the default models come first as well, and
loading the file changes nothing. -/
theorem provider_store_invariant (env : Environment) (started : Instant) {s : Stored State}
    (reached : Reachable (startsFresh env started) (guarded ProviderStep.settles providerStep) s)
    (later : Environment) (now : Instant) :
    s.data = s.file ∧ ProvidersSound s.file ∧ (normalizeProviderState later now s.file).2 = false ∧
    ((normalizeProviderState later now s.file).1 = s.file ↔ s.file ≠ defaultState env started) := by
  have invariant : s.data = s.file ∧ SettledState (defaultState env started) s.file := by
    apply reached.invariant _ SettledState.step
    rintro _ rfl
    exact ⟨rfl, default_registered env started, default_providers_settled env started, .inl rfl⟩
  obtain ⟨same, registered, settled, copied⟩ := invariant
  rw [normalize_settled later now registered settled]
  refine ⟨same, registered.sound settled, rfl, ?_⟩
  constructor
  · intro unchanged isDefault
    rw [isDefault] at unchanged
    exact default_not_copied env started unchanged
  · intro changed
    exact copied.resolve_left changed

theorem provider_store_invariant_created : ∃ s : Stored State,
    s.file.activeProviderID = "provider_1" ∧ ProvidersSound s.file ∧
      normalizeProviderState (fun _ => "") 9 s.file = (s.file, false) := by
  have ran : (runActions (guarded ProviderStep.settles providerStep)
      (Stored.saved (defaultState (fun _ => "") 0))
      [⟨.create "provider_1" 1 1
          { kind := "openai-compatible"
            openAICompatible := some { baseURL := "http://host/", model := "m" } } {}, false⟩,
        ⟨.create "provider_1" 2 2
          { kind := "openai-compatible"
            openAICompatible := some { baseURL := "http://host/", model := "m" } } {}, true⟩,
        ⟨.setActive "provider_1" 3 3 {}, true⟩]).map (fun s => decide
        (s.file.activeProviderID = "provider_1")) = some true := by
    decide +kernel
  have fresh : startsFresh (fun _ => "") 0 (Stored.saved (defaultState (fun _ => "") 0)) := rfl
  obtain ⟨s, reached, isActive⟩ := reachable_of_run fresh ran
  have active : s.file.activeProviderID = "provider_1" := of_decide_eq_true isActive
  obtain ⟨_, sound, unreported, unchanged⟩ :=
    provider_store_invariant (fun _ => "") 0 reached (fun _ => "") 9
  refine ⟨s, active, sound, Prod.ext (unchanged.mpr ?_) unreported⟩
  intro isDefault
  rw [isDefault] at active
  exact absurd active (by decide)

/-- An update with a blank model and a list of models that does not start with the default. -/
theorem provider_store_unsettled :
    ¬∀ env started s, Reachable (startsFresh env started) providerStep s → ProvidersSound s.file ∧
    ∀ later now, normalizeProviderState later now s.file = (s.file, false) := by
  intro claim
  have ran : (runActions providerStep (Stored.saved (defaultState (fun _ => "") 0))
      [⟨.update "codex-cli" 1 1
          { codex := some { model := some " ", chatModels := some ["gpt-5"] } } {}, true⟩]).map
        (fun s => s.file.providers.any fun record => decide (record.kind = .codex) &&
          record.codex.any fun settings => settings.chatModels.head? ≠ some settings.model) =
      some true := by
    decide +kernel
  have fresh : startsFresh (fun _ => "") 0 (Stored.saved (defaultState (fun _ => "") 0)) := rfl
  obtain ⟨s, reached, unlisted⟩ := reachable_of_run fresh ran
  obtain ⟨sound, _⟩ := claim _ _ s reached
  obtain ⟨record, mem, found⟩ := any_eq_true.mp unlisted
  simp only [Bool.and_eq_true, decide_eq_true_eq, Option.any_eq_true] at found
  obtain ⟨isCodex, settings, isSettings, unlisted⟩ := found
  have first := sound.defaultFirst record mem
  rw [ProviderRecord.DefaultFirst, isCodex] at first
  obtain ⟨others, isOthers, first⟩ := first
  rw [isSettings] at isOthers
  cases isOthers
  exact unlisted first

end RuneTerminal.Agent
