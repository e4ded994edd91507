import RuneTerminal.Agent.ProviderStore

/-! Normalizing twice is normalizing once. A settled record lists its default model first and has
its base URL in normal form. -/

namespace RuneTerminal.Agent

open Go.Strings Kit List Except

@[simp]
theorem actor_idempotent (actor : ProviderActor) :
    normalizeProviderActor (normalizeProviderActor actor) = normalizeProviderActor actor := by
  simp [normalizeProviderActor]

@[simp]
theorem route_policy_idempotent (policy : ProviderRoutePolicy) :
    normalizeProviderRoutePolicy (normalizeProviderRoutePolicy policy) =
    normalizeProviderRoutePolicy policy := by
  obtain ⟨prewarm, ttl⟩ := policy
  have prewarms : (normalizeProviderRoutePolicy ⟨prewarm, ttl⟩).prewarmPolicy = .manual ∨
      (normalizeProviderRoutePolicy ⟨prewarm, ttl⟩).prewarmPolicy = .onActivate ∨
      (normalizeProviderRoutePolicy ⟨prewarm, ttl⟩).prewarmPolicy = .onStartup := by
    cases prewarm <;> simp [normalizeProviderRoutePolicy]
  have positive : 0 < (normalizeProviderRoutePolicy ⟨prewarm, ttl⟩).warmTTLSeconds := by
    simp only [normalizeProviderRoutePolicy, defaultProviderWarmTTLSeconds]
    split <;> omega
  generalize normalizeProviderRoutePolicy ⟨prewarm, ttl⟩ = normal at prewarms positive ⊢
  obtain ⟨normalPrewarm, normalTTL⟩ := normal
  have kept : ¬normalTTL ≤ 0 := by
    dsimp only at positive
    omega
  rcases prewarms with rfl | rfl | rfl <;> simp [normalizeProviderRoutePolicy, kept]

theorem normalize_users_idempotent (users : List String) :
    let normal := (users.foldl (collectClean trimmedText) []).insertionSort (· ≤ ·)
    (normal.foldl (collectClean trimmedText) []).insertionSort (· ≤ ·) = normal := by
  intro normal
  have same : normal.Perm (users.foldl (collectClean trimmedText) []) :=
    perm_insertionSort _ _
  have sorted : normal.Pairwise (· ≤ ·) := pairwise_insertionSort _ _
  have nodup : normal.Nodup :=
    same.nodup_iff.mpr (nodup_foldl_collect trimmedText users nodup_nil)
  have clean : ∀ user ∈ normal, trimmedText user = some user := by
    intro user mem
    rcases mem_foldl_collect.mp (same.mem_iff.mp mem) with impossible | ⟨raw, _, trimmed⟩
    · cases impossible
    · exact (trimmed_text_clean trimmed).trimmed_text
  rw [foldl_collect_self clean nodup]
  exact sorted.insertionSort_eq

@[simp]
theorem access_idempotent (access : ProviderAccessPolicy) (owner : ProviderActor) :
    normalizeProviderAccess (normalizeProviderAccess access owner) (normalizeProviderActor owner) =
    normalizeProviderAccess access owner := by
  have users := normalize_users_idempotent access.allowedUsers
  by_cases blank : trimSpace access.ownerUsername = ""
  · simp only [normalizeProviderAccess, normalizeProviderActor, blank, if_pos,
      trim_space_twice, ite_self]
    rw [users]
  · simp only [normalizeProviderAccess, if_neg blank, trim_space_twice]
    rw [users]

theorem codex_defaults : trimSpace defaultCodexCommand ≠ "" ∧ trimSpace defaultCodexModel ≠ "" := by
  decide

theorem claude_defaults :
    trimSpace defaultClaudeCommand ≠ "" ∧ trimSpace defaultClaudeModel ≠ "" := by
  decide

theorem default_names_nonblank :
    (trimSpace defaultActiveProviderID ≠ "" ∧ trimSpace "Codex CLI" ≠ "") ∧
      trimSpace "claude-code-cli" ≠ "" ∧ trimSpace "Claude Code CLI" ≠ "" := by
  decide

-- Comparing records must not unfold these.
attribute [local irreducible] normalizeProviderActor normalizeProviderAccess
  normalizeProviderRoutePolicy normalizeProviderBaseURL

@[simp]
theorem clone_record_idempotent (record : ProviderRecord) :
    cloneProviderRecord (cloneProviderRecord record) = cloneProviderRecord record := by
  simp [cloneProviderRecord]

@[simp]
theorem clone_record_id (record : ProviderRecord) :
    (cloneProviderRecord record).id = record.id := rfl

@[simp]
theorem clone_record_enabled (record : ProviderRecord) :
    (cloneProviderRecord record).enabled = record.enabled := rfl

@[simp]
theorem clone_state_active (state : State) :
    (cloneState state).activeProviderID = state.activeProviderID := rfl

/-- A list of chat models without blanks or repetitions that starts with the default. -/
structure ListsFirst (defaultModel : String) (models : List String) : Prop where
  first : models.head? = some defaultModel
  distinct : models.Nodup
  clean : ∀ model ∈ models, CleanID model

variable {defaultModel defaultCommand : String} {models : List String}
  {settings : CLIProviderSettings} {noOthers : Bool} {now : Instant}

theorem ListsFirst.mem (lists : ListsFirst defaultModel models) : defaultModel ∈ models :=
  mem_of_head? lists.first

theorem normalized_models_list {raws : List String} {first : String}
    (isFirst : (defaultModel :: raws).findSome? trimmedText = some first) :
    ListsFirst first (normalizeProviderChatModels defaultModel raws) where
  first := by rw [normalizeProviderChatModels, head_foldl_collect, isFirst]
  distinct := nodup_foldl_collect trimmedText _ nodup_nil
  clean := by
    intro model mem
    rcases mem_foldl_collect.mp mem with impossible | ⟨raw, _, trimmed⟩
    · cases impossible
    · exact trimmed_text_clean trimmed

theorem models_list_default (raws : List String) (nonblank : trimSpace defaultModel ≠ "") :
    ListsFirst (trimSpace defaultModel) (normalizeProviderChatModels defaultModel raws) := by
  apply normalized_models_list
  rw [findSome?_cons, trimmed_text_eq_some.mpr ⟨rfl, nonblank⟩]

theorem ListsFirst.normalized (lists : ListsFirst defaultModel models) :
    normalizeProviderChatModels defaultModel models = models := by
  have cleaned : ∀ model ∈ models, trimmedText model = some model :=
    fun model mem => (lists.clean model mem).trimmed_text
  obtain ⟨rest, rfl⟩ : ∃ rest, models = defaultModel :: rest :=
    head?_eq_some_iff.mp lists.first
  have isClean := cleaned defaultModel mem_cons_self
  have once := foldl_collect_self cleaned lists.distinct
  -- The default model is met a second time as the head of the list.
  have again : (defaultModel :: rest).foldl (collectClean trimmedText) [defaultModel] =
      rest.foldl (collectClean trimmedText) [defaultModel] := by
    rw [foldl_cons, collect_clean_known isClean mem_cons_self]
  have start : collectClean trimmedText [] defaultModel = [defaultModel] :=
    collect_clean_new isClean not_mem_nil
  rw [foldl_cons, start] at once
  rw [normalizeProviderChatModels, foldl_cons, start, again, once]

attribute [local irreducible] normalizeProviderChatModels trimSpace

/-- Settings of a command line kind that loading leaves alone. -/
structure CLIProviderSettings.Settled (settings : CLIProviderSettings) : Prop where
  command : trimSpace settings.command ≠ ""
  models : ListsFirst settings.model settings.chatModels

structure OpenAICompatibleProviderSettings.Settled (settings : OpenAICompatibleProviderSettings) :
    Prop where
  baseURL : normalizeProviderBaseURL settings.baseURL = settings.baseURL
  models : ListsFirst settings.model settings.chatModels

structure ProviderRecord.Settled (record : ProviderRecord) : Prop where
  codex : ∀ settings ∈ record.codex, settings.Settled
  claude : ∀ settings ∈ record.claude, settings.Settled
  openAICompatible : ∀ settings ∈ record.openAICompatible, settings.Settled

theorem ListsFirst.nonblank (lists : ListsFirst defaultModel models) :
    trimSpace defaultModel ≠ "" := by
  obtain ⟨trimmed, nonblank⟩ := lists.clean defaultModel lists.mem
  rwa [trimmed]

theorem CLIProviderSettings.Settled.normalized (settled : settings.Settled)
    (defaultCommand defaultModel : String) :
    normalizeCLISettings defaultCommand defaultModel settings = settings := by
  have models := settled.models.normalized
  simp only [normalizeCLISettings, if_neg settled.models.nonblank, if_neg settled.command, models]

theorem OpenAICompatibleProviderSettings.Settled.normalized
    {settings : OpenAICompatibleProviderSettings} (settled : settings.Settled) :
    normalizeOpenAICompatibleSettings settings = settings := by
  have models := settled.models.normalized
  simp only [normalizeOpenAICompatibleSettings, settled.baseURL, models]

private theorem map_eq_self {Item : Type} {change : Item → Item} {optional : Option Item}
    (same : ∀ item ∈ optional, change item = item) : optional.map change = optional := by
  cases optional with
  | none => rfl
  | some item => rw [Option.map_some, same item rfl]

variable {record : ProviderRecord}

theorem ProviderRecord.Settled.normalized (settled : record.Settled) :
    normalizeProviderRecord record = cloneProviderRecord record := by
  have codex := map_eq_self fun settings isCodex =>
    (settled.codex settings isCodex).normalized defaultCodexCommand defaultCodexModel
  have claude := map_eq_self fun settings isClaude =>
    (settled.claude settings isClaude).normalized defaultClaudeCommand defaultClaudeModel
  have openAI := map_eq_self fun settings isOpenAI =>
    (settled.openAICompatible settings isOpenAI).normalized
  rw [normalizeProviderRecord, codex, claude, openAI]
  rfl

theorem ProviderRecord.Settled.clone (settled : record.Settled) :
    (cloneProviderRecord record).Settled :=
  ⟨settled.codex, settled.claude, settled.openAICompatible⟩

structure ProviderRecord.Valid (record : ProviderRecord) : Prop where
  passes : validateProviderRecord record = .ok ()
  id : trimSpace record.id ≠ ""
  supported : isSupportedProviderKind record.kind = true

private theorem validate_passed (passes : validateProviderRecord record = .ok ()) :
    trimSpace record.id ≠ "" ∧ isSupportedProviderKind record.kind = true := by
  rw [validateProviderRecord] at passes
  split at passes
  · cases passes
  next nonblank =>
    split at passes
    · cases passes
    · next supported => exact ⟨nonblank, by simpa using supported⟩

theorem valid_iff : record.Valid ↔ validateProviderRecord record = .ok () :=
  ⟨ProviderRecord.Valid.passes, fun passes =>
    ⟨passes, (validate_passed passes).1, (validate_passed passes).2⟩⟩

theorem ProviderRecord.Valid.of_same {other : ProviderRecord} (valid : record.Valid)
    (same : validateProviderRecord other = validateProviderRecord record) : other.Valid :=
  valid_iff.mpr (same.trans valid.passes)

theorem ProviderRecord.Valid.clone (valid : record.Valid) : (cloneProviderRecord record).Valid :=
  valid.of_same rfl

private theorem validated_cli {label : String} {settings : Option CLIProviderSettings}
    (passes : validateCLISettings label settings noOthers = .ok ()) :
    (∃ present, settings = some present ∧ trimSpace present.command ≠ "" ∧
      trimSpace present.model ≠ "") ∧ noOthers = true := by
  cases settings with
  | none => cases passes
  | some present =>
    simp only [validateCLISettings] at passes
    split at passes
    · cases passes
    next alone =>
      split at passes
      · cases passes
      next command =>
        split at passes
        · cases passes
        · next model => exact ⟨⟨present, rfl, command, model⟩, by simpa using alone⟩

private theorem validated_open_ai {settings : Option OpenAICompatibleProviderSettings}
    (passes : validateOpenAICompatibleSettings settings noOthers = .ok ()) :
    (∃ present, settings = some present ∧ trimSpace present.model ≠ "") ∧ noOthers = true := by
  cases settings with
  | none => cases passes
  | some present =>
    simp only [validateOpenAICompatibleSettings] at passes
    split at passes
    · cases passes
    next alone =>
      split at passes
      · cases passes
      · split at passes
        · cases passes
        · next model => exact ⟨⟨present, rfl, model⟩, by simpa using alone⟩

def ProviderRecord.Configured (record : ProviderRecord) : Prop :=
  (match record.kind with
    | .codex =>
      validateCLISettings "codex" record.codex
        (record.claude.isNone && record.openAICompatible.isNone)
    | .claude =>
      validateCLISettings "claude" record.claude
        (record.codex.isNone && record.openAICompatible.isNone)
    | .openAICompatible =>
      validateOpenAICompatibleSettings record.openAICompatible
        (record.codex.isNone && record.claude.isNone)
    | .other raw => .error (.kindUnsupported raw)) = .ok ()

theorem ProviderRecord.Valid.configured (valid : record.Valid) : record.Configured := by
  have passes := valid.passes
  rw [validateProviderRecord, if_neg valid.id, if_neg (by simp [valid.supported])] at passes
  split at passes
  · cases passes
  · exact passes

section

variable (configured : record.Configured)
include configured

theorem ProviderRecord.Configured.valid
    (id : trimSpace record.id ≠ "") (supported : isSupportedProviderKind record.kind = true)
    (name : trimSpace record.displayName ≠ "") : record.Valid := by
  rw [valid_iff, validateProviderRecord, if_neg id, if_neg (by simp [supported]), if_neg name]
  exact configured

theorem ProviderRecord.Configured.codex_settings
    (kind : record.kind = .codex) :
    (∃ settings, record.codex = some settings ∧ trimSpace settings.command ≠ "" ∧
      trimSpace settings.model ≠ "") ∧ record.claude = none ∧ record.openAICompatible = none := by
  have passes := configured
  rw [ProviderRecord.Configured, kind] at passes
  obtain ⟨present, alone⟩ := validated_cli passes
  exact ⟨present, by simpa using alone⟩

theorem ProviderRecord.Configured.claude_settings
    (kind : record.kind = .claude) :
    (∃ settings, record.claude = some settings ∧ trimSpace settings.command ≠ "" ∧
      trimSpace settings.model ≠ "") ∧ record.codex = none ∧ record.openAICompatible = none := by
  have passes := configured
  rw [ProviderRecord.Configured, kind] at passes
  obtain ⟨present, alone⟩ := validated_cli passes
  exact ⟨present, by simpa using alone⟩

theorem ProviderRecord.Configured.open_ai_settings (kind : record.kind = .openAICompatible) :
    (∃ settings, record.openAICompatible = some settings ∧ trimSpace settings.model ≠ "") ∧
    record.codex = none ∧ record.claude = none := by
  have passes := configured
  rw [ProviderRecord.Configured, kind] at passes
  obtain ⟨present, alone⟩ := validated_open_ai passes
  exact ⟨present, by simpa using alone⟩

end

private theorem first_non_empty_nonblank (raw : String) {fallback : String}
    (nonblank : trimSpace fallback ≠ "") : trimSpace (firstNonEmpty [raw, fallback]) ≠ "" := by
  unfold firstNonEmpty
  by_cases blank : trimSpace raw = "" <;> simp [blank, nonblank]

theorem built_cli_settled (command : trimSpace defaultCommand ≠ "")
    (model : trimSpace defaultModel ≠ "") (input : CreateCLIProviderInput) :
    (buildCLISettings defaultCommand defaultModel input).Settled := by
  have commandGiven := first_non_empty_nonblank input.command command
  have modelGiven := first_non_empty_nonblank input.model model
  have models := models_list_default input.chatModels modelGiven
  constructor
  · simp only [buildCLISettings, trim_space_twice]
    exact commandGiven
  · exact models

theorem built_open_ai_settled {input : CreateOpenAICompatibleProviderInput}
    (url : settledURL input.baseURL = true) (model : trimSpace input.model ≠ "") :
    (buildOpenAICompatibleSettings input).Settled := by
  have models := models_list_default input.chatModels model
  constructor
  · simp only [buildOpenAICompatibleSettings]
    simpa [settledURL] using url
  · exact models

/-- What a request for a new record gives, if it is accepted. -/
structure Built (providerID : String) (input : CreateProviderInput) (record : ProviderRecord) :
    Prop where
  id : record.id = providerID
  valid : record.Valid
  settled : input.settles = true → record.Settled
  routePolicy : normalizeProviderRoutePolicy record.routePolicy = record.routePolicy

private theorem configured_cases {configured : ProviderRecord} {input : CreateProviderInput}
    (done : configureProviderRecord record input = .ok configured) :
    (∃ settings,
      configured =
        { record with
          codex := some (buildCLISettings defaultCodexCommand defaultCodexModel settings) }) ∨
    (∃ settings,
      configured =
        { record with
          claude := some (buildCLISettings defaultClaudeCommand defaultClaudeModel settings) }) ∨
    ∃ settings, record.kind = .openAICompatible ∧ input.openAICompatible = some settings ∧
      configured =
        { record with openAICompatible := some (buildOpenAICompatibleSettings settings) } := by
  cases kind : record.kind with
  | codex =>
    simp only [configureProviderRecord, kind] at done
    split at done
    · exact .inl ⟨_, (ok.inj done).symm⟩
    · cases done
  | claude =>
    simp only [configureProviderRecord, kind] at done
    split at done
    · exact .inr (.inl ⟨_, (ok.inj done).symm⟩)
    · cases done
  | openAICompatible =>
    simp only [configureProviderRecord, kind] at done
    split at done
    next settings given _ _ =>
      exact .inr (.inr ⟨settings, rfl, given, (ok.inj done).symm⟩)
    · cases done
  | other raw =>
    simp only [configureProviderRecord, kind] at done
    cases done

theorem settled_only_codex (codex : record.codex = some settings) (claude : record.claude = none)
    (openAI : record.openAICompatible = none) (settled : settings.Settled) : record.Settled := by
  constructor
  · rw [codex]
    rintro _ ⟨⟩
    exact settled
  · rw [claude]
    rintro _ ⟨⟩
  · rw [openAI]
    rintro _ ⟨⟩

theorem settled_only_claude (claude : record.claude = some settings) (codex : record.codex = none)
    (openAI : record.openAICompatible = none) (settled : settings.Settled) : record.Settled := by
  constructor
  · rw [codex]
    rintro _ ⟨⟩
  · rw [claude]
    rintro _ ⟨⟩
    exact settled
  · rw [openAI]
    rintro _ ⟨⟩

private theorem settled_only_open_ai {settings : OpenAICompatibleProviderSettings}
    (openAI : record.openAICompatible = some settings) (codex : record.codex = none)
    (claude : record.claude = none) (settled : settings.Settled) : record.Settled := by
  constructor
  · rw [codex]
    rintro _ ⟨⟩
  · rw [claude]
    rintro _ ⟨⟩
  · rw [openAI]
    rintro _ ⟨⟩
    exact settled

theorem build_provider_record_spec {id : String} {input : CreateProviderInput}
    (built : buildProviderRecord id now input = .ok record) : Built id input record := by
  unfold buildProviderRecord at built
  dsimp only at built
  split at built
  · cases built
  obtain ⟨configured, done, built⟩ := bind_eq_ok built
  obtain ⟨_, passes, built⟩ := bind_eq_ok built
  cases built
  have valid := valid_iff.mpr passes
  have routes := route_policy_idempotent (input.routePolicy.getD {})
  rcases configured_cases done with ⟨settings, rfl⟩ | ⟨settings, rfl⟩ | ⟨settings, kind, given, rfl⟩
  · have settled := built_cli_settled codex_defaults.1 codex_defaults.2 settings
    exact ⟨rfl, valid, fun _ => settled_only_codex rfl rfl rfl settled, routes⟩
  · have settled := built_cli_settled claude_defaults.1 claude_defaults.2 settings
    exact ⟨rfl, valid, fun _ => settled_only_claude rfl rfl rfl settled, routes⟩
  refine ⟨rfl, valid, ?_, routes⟩
  intro settles
  have url : settledURL settings.baseURL = true := by
    simpa [CreateProviderInput.settles, given] using settles
  have model : trimSpace settings.model ≠ "" := by
    obtain ⟨present, same, nonblank⟩ := (valid.configured.open_ai_settings kind).1
    cases same
    simpa [buildOpenAICompatibleSettings] using nonblank
  exact settled_only_open_ai rfl rfl rfl (built_open_ai_settled url model)

theorem updated_cli_settled (command : trimSpace defaultCommand ≠ "") {stored : CLIProviderSettings}
    (settled : stored.Settled) {input : UpdateCLIProviderInput}
    (listsFirst : input.listsFirst defaultModel stored = true) :
    (updateCLISettings defaultCommand defaultModel stored input).Settled := by
  have commandKept : ∀ raw,
      trimSpace (if trimSpace raw = "" then defaultCommand else raw) ≠ "" := by
    intro raw
    split
    · exact command
    · assumption
  -- The model before the default stands in for a blank one.
  obtain ⟨given, whole⟩ : ∃ given, given = (input.model.map trimSpace).getD stored.model :=
    ⟨_, rfl⟩
  have trimmed : trimSpace given = given := by
    rw [whole]
    cases input.model with
    | none => exact (settled.models.clean _ settled.models.mem).1
    | some raw => exact trim_space_twice raw
  constructor
  · exact commandKept _
  simp only [updateCLISettings, ← whole]
  by_cases blank : trimSpace given = ""
  · rw [if_pos blank]
    apply normalized_models_list
    have noModel : given = "" := trimmed ▸ blank
    have suppliedBlank : (input.chatModels.getD stored.chatModels).findSome? trimmedText =
        some defaultModel := by
      cases supplied : input.model with
      | none =>
        rw [supplied] at whole
        exact absurd blank (whole ▸ settled.models.nonblank)
      | some raw =>
        rw [supplied] at whole
        have rawBlank : trimSpace raw = "" := by
          rw [← noModel, whole]
          rfl
        simpa [UpdateCLIProviderInput.listsFirst, supplied, rawBlank] using listsFirst
    have skipped : trimmedText given = none := by
      rw [trimmedText, if_pos blank]
    rw [findSome?_cons, skipped]
    exact suppliedBlank
  · rw [if_neg blank]
    have lists := models_list_default (input.chatModels.getD stored.chatModels) blank
    rwa [trimmed] at lists

theorem updated_open_ai_settled {stored : OpenAICompatibleProviderSettings}
    (settled : stored.Settled) {input : UpdateOpenAICompatibleProviderInput}
    (url : input.baseURL.all settledURL = true)
    (model : trimSpace (updateOpenAICompatibleSettings stored input).model ≠ "") :
    (updateOpenAICompatibleSettings stored input).Settled := by
  constructor
  · cases given : input.baseURL with
    | none =>
      simp only [updateOpenAICompatibleSettings, given]
      exact settled.baseURL
    | some raw =>
      have settledRaw : settledURL raw = true := by simpa [given] using url
      simp only [updateOpenAICompatibleSettings, given]
      simpa [settledURL] using settledRaw
  have trimmed : trimSpace (updateOpenAICompatibleSettings stored input).model =
      (updateOpenAICompatibleSettings stored input).model := by
    simp only [updateOpenAICompatibleSettings]
    cases input.model with
    | none => exact (settled.models.clean _ settled.models.mem).1
    | some raw => exact trim_space_twice raw
  have lists := models_list_default (input.chatModels.getD stored.chatModels) model
  rw [trimmed] at lists
  exact lists

variable {updated : ProviderRecord} {input : UpdateProviderInput}

private theorem updated_cases (done : updateProviderSettings record input = .ok updated) :
    updated = record ∨
    (∃ given, record.kind = .codex ∧ input.codex = some given ∧
      updated =
        { record with
          codex := some
            (updateCLISettings defaultCodexCommand defaultCodexModel (record.codex.getD {})
              given) }) ∨
    (∃ given, record.kind = .claude ∧ input.claude = some given ∧
      updated =
        { record with
          claude := some
            (updateCLISettings defaultClaudeCommand defaultClaudeModel (record.claude.getD {})
              given) }) ∨
    ∃ given, record.kind = .openAICompatible ∧ input.openAICompatible = some given ∧
      updated =
        { record with
          openAICompatible := some
            (updateOpenAICompatibleSettings (record.openAICompatible.getD {}) given) } := by
  cases kind : record.kind with
  | codex =>
    simp only [updateProviderSettings, kind] at done
    split at done
    · cases done
    cases given : input.codex with
    | none =>
      rw [given] at done
      exact .inl (ok.inj done).symm
    | some settings =>
      rw [given] at done
      exact .inr (.inl ⟨settings, rfl, rfl, (ok.inj done).symm⟩)
  | claude =>
    simp only [updateProviderSettings, kind] at done
    split at done
    · cases done
    cases given : input.claude with
    | none =>
      rw [given] at done
      exact .inl (ok.inj done).symm
    | some settings =>
      rw [given] at done
      exact .inr (.inr (.inl ⟨settings, rfl, rfl, (ok.inj done).symm⟩))
  | openAICompatible =>
    simp only [updateProviderSettings, kind] at done
    split at done
    · cases done
    cases given : input.openAICompatible with
    | none =>
      rw [given] at done
      exact .inl (ok.inj done).symm
    | some settings =>
      rw [given] at done
      exact .inr (.inr (.inr ⟨settings, rfl, rfl, (ok.inj done).symm⟩))
  | other raw =>
    simp only [updateProviderSettings, kind] at done
    cases done

structure Updated (record : ProviderRecord) (input : UpdateProviderInput)
    (updated : ProviderRecord) : Prop where
  id : updated.id = record.id
  valid : updated.Valid
  settled : record.Valid → record.Settled → input.settles record = true → updated.Settled
  createdBy : normalizeProviderActor updated.createdBy = updated.createdBy
  access : normalizeProviderAccess updated.access updated.createdBy = updated.access
  routePolicy : normalizeProviderRoutePolicy updated.routePolicy = updated.routePolicy

section

variable (done : updateProviderSettings record input = .ok updated)
include done

private theorem updated_settings_fields :
    updated.id = record.id ∧ updated.createdBy = record.createdBy := by
  rcases updated_cases done with rfl | ⟨_, _, _, rfl⟩ | ⟨_, _, _, rfl⟩ | ⟨_, _, _, rfl⟩ <;>
    exact ⟨rfl, rfl⟩

private theorem updated_settings_settled {final : ProviderRecord}
    (codex : final.codex = updated.codex) (claude : final.claude = updated.claude)
    (openAI : final.openAICompatible = updated.openAICompatible) (kind : final.kind = updated.kind)
    (finalValid : final.Valid) (configured : record.Configured) (settled : record.Settled)
    (settles : input.settles record = true) : final.Settled := by
  rcases updated_cases done with rfl | ⟨given, isCodex, present, rfl⟩ |
    ⟨given, isClaude, present, rfl⟩ | ⟨given, isOpenAI, present, rfl⟩
  · exact ⟨codex ▸ settled.codex, claude ▸ settled.claude, openAI ▸ settled.openAICompatible⟩
  · obtain ⟨⟨stored, isStored, _⟩, noClaude, noOpenAI⟩ := configured.codex_settings isCodex
    have listsFirst : given.listsFirst defaultCodexModel stored = true := by
      simpa [UpdateProviderInput.settles, isCodex, present, isStored] using settles
    rw [isStored] at codex
    exact settled_only_codex codex (claude.trans noClaude) (openAI.trans noOpenAI)
      (updated_cli_settled codex_defaults.1 (settled.codex stored isStored) listsFirst)
  · obtain ⟨⟨stored, isStored, _⟩, noCodex, noOpenAI⟩ := configured.claude_settings isClaude
    have listsFirst : given.listsFirst defaultClaudeModel stored = true := by
      simpa [UpdateProviderInput.settles, isClaude, present, isStored] using settles
    rw [isStored] at claude
    exact settled_only_claude claude (codex.trans noCodex) (openAI.trans noOpenAI)
      (updated_cli_settled claude_defaults.1 (settled.claude stored isStored) listsFirst)
  obtain ⟨⟨stored, isStored, _⟩, noCodex, noClaude⟩ := configured.open_ai_settings isOpenAI
  have url : given.baseURL.all settledURL = true := by
    simpa [UpdateProviderInput.settles, isOpenAI, present] using settles
  rw [isStored] at openAI
  obtain ⟨⟨next, isNext, model⟩, _⟩ := finalValid.configured.open_ai_settings
    (kind.trans isOpenAI)
  rw [openAI] at isNext
  cases isNext
  exact settled_only_open_ai openAI (codex.trans noCodex) (claude.trans noClaude)
    (updated_open_ai_settled (settled.openAICompatible stored isStored) url model)

end

private theorem configured_common (configured : record.Configured) (input : UpdateProviderInput) :
    (updateCommonFields (cloneProviderRecord record) input).Configured := by
  simpa only [ProviderRecord.Configured, updateCommonFields, cloneProviderRecord] using configured

theorem apply_provider_update_spec (applied : applyProviderUpdate now record input = .ok updated) :
    Updated record input updated := by
  obtain ⟨configured, done, applied⟩ := bind_eq_ok applied
  obtain ⟨_, passes, applied⟩ := bind_eq_ok applied
  cases applied
  have valid := valid_iff.mpr passes
  obtain ⟨id, createdBy⟩ := updated_settings_fields done
  have actor : normalizeProviderActor configured.createdBy = configured.createdBy := by
    rw [createdBy]
    exact actor_idempotent record.createdBy
  have access := access_idempotent configured.access configured.createdBy
  rw [actor] at access
  constructor
  · exact id
  · exact valid
  · intro stored settled settles
    -- The common fields are no part of the settings.
    have common : (updateCommonFields (cloneProviderRecord record) input).Settled :=
      ⟨settled.codex, settled.claude, settled.openAICompatible⟩
    have configuredBefore := configured_common stored.configured input
    exact updated_settings_settled done rfl rfl rfl rfl valid configuredBefore common settles
  · exact actor
  · exact access
  · exact route_policy_idempotent configured.routePolicy

end RuneTerminal.Agent
