import Mathlib.Data.List.Sort
import RuneTerminal.Agent.Overlays
import RuneTerminal.Kit.Transition

/-! The default state of `core/agent/builtins.go`, the normalization of a loaded state, and the four
requests of `core/agent/provider_store.go`, without the views that they return. -/

namespace RuneTerminal.Agent

open Go.Strings
open Kit (collectClean Stored)

abbrev Instant := Nat

inductive ProviderKind where
  | codex
  | claude
  | openAICompatible
  | other (raw : String)
  deriving DecidableEq

def ProviderKind.text : ProviderKind → String
  | .codex => "codex"
  | .claude => "claude"
  | .openAICompatible => "openai-compatible"
  | .other raw => raw

def ProviderKind.ofText (raw : String) : ProviderKind :=
  if raw = "codex" then .codex
  else if raw = "claude" then .claude
  else if raw = "openai-compatible" then .openAICompatible
  else .other raw

def supportedProviderKinds : List ProviderKind := [.codex, .claude, .openAICompatible]

def isSupportedProviderKind (kind : ProviderKind) : Bool := supportedProviderKinds.contains kind

/-- The policy of a record that sets none is `other ""`. -/
inductive ProviderPrewarmPolicy where
  | manual
  | onActivate
  | onStartup
  | other (raw : String)
  deriving DecidableEq

structure ProviderActor where
  username : String := ""
  homeDir : String := ""
  deriving DecidableEq

structure ProviderAccessPolicy where
  ownerUsername : String := ""
  visibility : String := ""
  allowedUsers : List String := []
  deriving DecidableEq

structure ProviderRoutePolicy where
  prewarmPolicy : ProviderPrewarmPolicy := .other ""
  warmTTLSeconds : Int := 0
  deriving DecidableEq

/-- `CodexProviderSettings` and `ClaudeProviderSettings`, which have the same fields. -/
structure CLIProviderSettings where
  command : String := ""
  model : String := ""
  chatModels : List String := []
  deriving DecidableEq

structure OpenAICompatibleProviderSettings where
  baseURL : String := ""
  model : String := ""
  chatModels : List String := []
  deriving DecidableEq

structure ProviderRecord where
  id : String
  kind : ProviderKind
  displayName : String
  enabled : Bool
  access : ProviderAccessPolicy := {}
  createdBy : ProviderActor := {}
  updatedBy : ProviderActor := {}
  routePolicy : ProviderRoutePolicy := {}
  codex : Option CLIProviderSettings := none
  claude : Option CLIProviderSettings := none
  openAICompatible : Option OpenAICompatibleProviderSettings := none
  createdAt : Instant
  updatedAt : Instant
  deriving DecidableEq

structure State where
  version : String
  activeProfileID : String
  activeRoleID : String
  activeModeID : String
  activeProviderID : String
  profiles : List Preset
  roles : List Preset
  modes : List Preset
  providers : List ProviderRecord
  updatedAt : Instant

/-- `CreateCodexProviderInput` and `CreateClaudeProviderInput`. -/
structure CreateCLIProviderInput where
  command : String := ""
  model : String := ""
  chatModels : List String := []

structure CreateOpenAICompatibleProviderInput where
  baseURL : String := ""
  model : String := ""
  chatModels : List String := []

structure CreateProviderInput where
  kind : String
  displayName : String := ""
  enabled : Option Bool := none
  access : ProviderAccessPolicy := {}
  routePolicy : Option ProviderRoutePolicy := none
  codex : Option CreateCLIProviderInput := none
  claude : Option CreateCLIProviderInput := none
  openAICompatible : Option CreateOpenAICompatibleProviderInput := none

/-- `UpdateCodexProviderInput` and `UpdateClaudeProviderInput`. -/
structure UpdateCLIProviderInput where
  command : Option String := none
  model : Option String := none
  chatModels : Option (List String) := none

structure UpdateOpenAICompatibleProviderInput where
  baseURL : Option String := none
  model : Option String := none
  chatModels : Option (List String) := none

structure UpdateProviderInput where
  displayName : Option String := none
  enabled : Option Bool := none
  access : Option ProviderAccessPolicy := none
  routePolicy : Option ProviderRoutePolicy := none
  codex : Option UpdateCLIProviderInput := none
  claude : Option UpdateCLIProviderInput := none
  openAICompatible : Option UpdateOpenAICompatibleProviderInput := none

/-- The errors of `errors.go`, with what each is wrapped with. -/
inductive ProviderError where
  | promptProfileNotFound (id : String)
  | rolePresetNotFound (id : String)
  | workModeNotFound (id : String)
  | notFound (id : String)
  | kindUnsupported (kind : String)
  | invalidConfig (reason : String)
  | disabled (id : String)
  | deleteActive (id : String)

def ProviderError.text : ProviderError → String
  | .promptProfileNotFound id => "prompt profile not found: " ++ id
  | .rolePresetNotFound id => "role preset not found: " ++ id
  | .workModeNotFound id => "work mode not found: " ++ id
  | .notFound id => "provider not found: " ++ id
  | .kindUnsupported kind => "provider kind unsupported: " ++ kind
  | .invalidConfig reason => "provider config invalid: " ++ reason
  | .disabled id => "provider disabled: " ++ id
  | .deleteActive id => "active provider cannot be deleted: " ++ id

def configVersion : String := "v1alpha2"
def defaultCodexModel : String := "gpt-5.4"
def defaultCodexCommand : String := "codex"
def defaultClaudeModel : String := "sonnet"
def defaultClaudeCommand : String := "claude"
def defaultProviderWarmTTLSeconds : Int := 900

def firstNonEmpty (values : List String) : String :=
  (values.find? fun value => trimSpace value ≠ "").getD ""

def normalizeProviderActor (actor : ProviderActor) : ProviderActor where
  username := trimSpace actor.username
  homeDir := trimSpace actor.homeDir

def normalizeProviderAccess (access : ProviderAccessPolicy) (owner : ProviderActor) :
    ProviderAccessPolicy where
  ownerUsername :=
    if trimSpace access.ownerUsername = "" then trimSpace owner.username
    else trimSpace access.ownerUsername
  visibility := trimSpace access.visibility
  allowedUsers := (access.allowedUsers.foldl (collectClean trimmedText) []).insertionSort (· ≤ ·)

def normalizeProviderRoutePolicy (policy : ProviderRoutePolicy) : ProviderRoutePolicy where
  prewarmPolicy :=
    match policy.prewarmPolicy with
    | .onActivate => .onActivate
    | .onStartup => .onStartup
    | _ => .manual
  warmTTLSeconds :=
    if policy.warmTTLSeconds ≤ 0 then defaultProviderWarmTTLSeconds else policy.warmTTLSeconds

def normalizeProviderBaseURL (raw : String) : String :=
  if trimSpace raw = "" then "" else trimRight (trimSpace raw) '/'

def normalizeProviderChatModels (defaultModel : String) (rawModels : List String) :
    List String :=
  (defaultModel :: rawModels).foldl (collectClean trimmedText) []

def defaultProviderDisplayName (kind : ProviderKind) (raw : String) : String :=
  if trimSpace raw ≠ "" then trimSpace raw
  else
    match kind with
    | .codex => "Codex CLI"
    | .claude => "Claude Code CLI"
    | .openAICompatible => "OpenAI-Compatible HTTP"
    | .other _ => "Provider"

def cloneProviderRecord (record : ProviderRecord) : ProviderRecord :=
  { record with
    access := normalizeProviderAccess record.access record.createdBy
    createdBy := normalizeProviderActor record.createdBy
    updatedBy := normalizeProviderActor record.updatedBy
    routePolicy := normalizeProviderRoutePolicy record.routePolicy }

def cloneState (state : State) : State :=
  { state with providers := state.providers.map cloneProviderRecord }

def validateCLISettings (label : String) (settings : Option CLIProviderSettings)
    (noOthers : Bool) : Except ProviderError Unit :=
  match settings with
  | none => .error (.invalidConfig (label ++ " settings are required"))
  | some settings =>
    if noOthers = false then .error (.invalidConfig (label ++ " settings are required"))
    else if trimSpace settings.command = "" then
      .error (.invalidConfig (label ++ " command is required"))
    else if trimSpace settings.model = "" then
      .error (.invalidConfig (label ++ " model is required"))
    else .ok ()

def validateOpenAICompatibleSettings (settings : Option OpenAICompatibleProviderSettings)
    (noOthers : Bool) : Except ProviderError Unit :=
  match settings with
  | none => .error (.invalidConfig "openai-compatible settings are required")
  | some settings =>
    if noOthers = false then .error (.invalidConfig "openai-compatible settings are required")
    else if normalizeProviderBaseURL settings.baseURL = "" then
      .error (.invalidConfig "openai-compatible base_url is required")
    else if trimSpace settings.model = "" then
      .error (.invalidConfig "openai-compatible model is required")
    else .ok ()

/-- The access and the route policy, which the source normalizes in its copy, are not checked. -/
def validateProviderRecord (record : ProviderRecord) : Except ProviderError Unit :=
  if trimSpace record.id = "" then .error (.invalidConfig "provider id is required")
  else if isSupportedProviderKind record.kind = false then
    .error (.kindUnsupported record.kind.text)
  else if trimSpace record.displayName = "" then
    .error (.invalidConfig "display name is required")
  else
    match record.kind with
    | .codex =>
      validateCLISettings "codex" record.codex
        (record.claude.isNone && record.openAICompatible.isNone)
    | .claude =>
      validateCLISettings "claude" record.claude
        (record.codex.isNone && record.openAICompatible.isNone)
    | .openAICompatible =>
      validateOpenAICompatibleSettings record.openAICompatible
        (record.codex.isNone && record.claude.isNone)
    | .other raw => .error (.kindUnsupported raw)

def buildCLISettings (defaultCommand defaultModel : String) (input : CreateCLIProviderInput) :
    CLIProviderSettings where
  command := trimSpace (firstNonEmpty [input.command, defaultCommand])
  model := trimSpace (firstNonEmpty [input.model, defaultModel])
  chatModels :=
    normalizeProviderChatModels (firstNonEmpty [input.model, defaultModel]) input.chatModels

def buildOpenAICompatibleSettings (input : CreateOpenAICompatibleProviderInput) :
    OpenAICompatibleProviderSettings where
  baseURL := normalizeProviderBaseURL input.baseURL
  model := trimSpace input.model
  chatModels := normalizeProviderChatModels input.model input.chatModels

def baseProviderRecord (providerID : String) (now : Instant) (kind : ProviderKind)
    (input : CreateProviderInput) : ProviderRecord where
  id := providerID
  kind := kind
  displayName := defaultProviderDisplayName kind input.displayName
  enabled := input.enabled.getD true
  access := normalizeProviderAccess input.access {}
  createdBy := normalizeProviderActor {}
  updatedBy := normalizeProviderActor {}
  routePolicy := normalizeProviderRoutePolicy (input.routePolicy.getD {})
  createdAt := now
  updatedAt := now

def configureProviderRecord (record : ProviderRecord) (input : CreateProviderInput) :
    Except ProviderError ProviderRecord :=
  match record.kind with
  | .codex =>
    match input.codex, input.claude, input.openAICompatible with
    | some codex, none, none =>
      .ok { record with
        codex := some (buildCLISettings defaultCodexCommand defaultCodexModel codex) }
    | _, _, _ => .error (.invalidConfig "codex config is required")
  | .claude =>
    match input.claude, input.codex, input.openAICompatible with
    | some claude, none, none =>
      .ok { record with
        claude := some (buildCLISettings defaultClaudeCommand defaultClaudeModel claude) }
    | _, _, _ => .error (.invalidConfig "claude config is required")
  | .openAICompatible =>
    match input.openAICompatible, input.codex, input.claude with
    | some settings, none, none =>
      .ok { record with openAICompatible := some (buildOpenAICompatibleSettings settings) }
    | _, _, _ => .error (.invalidConfig "openai-compatible config is required")
  | .other _ => .error (.kindUnsupported input.kind)

def buildProviderRecord (providerID : String) (now : Instant) (input : CreateProviderInput) :
    Except ProviderError ProviderRecord :=
  let kind := ProviderKind.ofText (trimSpace input.kind)
  if isSupportedProviderKind kind = false then .error (.kindUnsupported input.kind)
  else do
    let record ← configureProviderRecord (baseProviderRecord providerID now kind input) input
    validateProviderRecord record
    return record

def updateCLISettings (defaultCommand defaultModel : String) (settings : CLIProviderSettings)
    (input : UpdateCLIProviderInput) : CLIProviderSettings :=
  let command := (input.command.map trimSpace).getD settings.command
  let model := (input.model.map trimSpace).getD settings.model
  { command := if trimSpace command = "" then defaultCommand else command
    model := if trimSpace model = "" then defaultModel else model
    chatModels :=
      normalizeProviderChatModels model (input.chatModels.getD settings.chatModels) }

def updateOpenAICompatibleSettings (settings : OpenAICompatibleProviderSettings)
    (input : UpdateOpenAICompatibleProviderInput) : OpenAICompatibleProviderSettings :=
  let model := (input.model.map trimSpace).getD settings.model
  { baseURL := (input.baseURL.map normalizeProviderBaseURL).getD settings.baseURL
    model := model
    chatModels :=
      normalizeProviderChatModels model (input.chatModels.getD settings.chatModels) }

def updateCommonFields (record : ProviderRecord) (input : UpdateProviderInput) :
    ProviderRecord :=
  { record with
    displayName :=
      match input.displayName with
      | none => record.displayName
      | some raw => defaultProviderDisplayName record.kind raw
    enabled := input.enabled.getD record.enabled
    access :=
      match input.access with
      | none => record.access
      | some access => normalizeProviderAccess access record.createdBy
    routePolicy :=
      match input.routePolicy with
      | none => record.routePolicy
      | some policy => normalizeProviderRoutePolicy policy }

def updateProviderSettings (record : ProviderRecord) (input : UpdateProviderInput) :
    Except ProviderError ProviderRecord :=
  match record.kind with
  | .codex =>
    if input.claude.isSome || input.openAICompatible.isSome then
      .error (.invalidConfig "codex config does not match provider kind")
    else
      match input.codex with
      | none => .ok record
      | some codex =>
        .ok { record with
          codex := some (updateCLISettings defaultCodexCommand defaultCodexModel
            (record.codex.getD {}) codex) }
  | .claude =>
    if input.codex.isSome || input.openAICompatible.isSome then
      .error (.invalidConfig "claude config does not match provider kind")
    else
      match input.claude with
      | none => .ok record
      | some claude =>
        .ok { record with
          claude := some (updateCLISettings defaultClaudeCommand defaultClaudeModel
            (record.claude.getD {}) claude) }
  | .openAICompatible =>
    if input.codex.isSome || input.claude.isSome then
      .error (.invalidConfig "openai-compatible config does not match provider kind")
    else
      match input.openAICompatible with
      | none => .ok record
      | some settings =>
        .ok { record with
          openAICompatible := some (updateOpenAICompatibleSettings
            (record.openAICompatible.getD {}) settings) }
  | .other raw => .error (.kindUnsupported raw)

def applyProviderUpdate (now : Instant) (record : ProviderRecord) (input : UpdateProviderInput) :
    Except ProviderError ProviderRecord := do
  let configured ←
    updateProviderSettings (updateCommonFields (cloneProviderRecord record) input) input
  let updated : ProviderRecord :=
    { configured with
      updatedAt := now
      access := normalizeProviderAccess configured.access configured.createdBy
      routePolicy := normalizeProviderRoutePolicy configured.routePolicy }
  validateProviderRecord updated
  return updated

/-- `os.Getenv`; a variable that is not set is empty. -/
abbrev Environment := String → String

def defaultEnvString (env : Environment) (key fallback : String) : String :=
  if trimSpace (env key) ≠ "" then trimSpace (env key) else fallback

def defaultActiveProviderID : String := "codex-cli"

def defaultCLISettings (env : Environment) (commandKey defaultCommand modelKey : String)
    (defaultModel : String) : CLIProviderSettings where
  command := trimSpace (defaultEnvString env commandKey defaultCommand)
  model := trimSpace (defaultEnvString env modelKey defaultModel)
  chatModels := normalizeProviderChatModels (defaultEnvString env modelKey defaultModel) []

def defaultCodexProvider (env : Environment) (now : Instant) : ProviderRecord where
  id := defaultActiveProviderID
  kind := .codex
  displayName := "Codex CLI"
  enabled := true
  codex := some (defaultCLISettings env "RTERM_CODEX_CLI_COMMAND" defaultCodexCommand
    "RTERM_CODEX_CLI_MODEL" defaultCodexModel)
  createdAt := now
  updatedAt := now

def defaultClaudeProvider (env : Environment) (now : Instant) : ProviderRecord where
  id := "claude-code-cli"
  kind := .claude
  displayName := "Claude Code CLI"
  enabled := true
  claude := some (defaultCLISettings env "RTERM_CLAUDE_CODE_COMMAND" defaultClaudeCommand
    "RTERM_CLAUDE_CODE_MODEL" defaultClaudeModel)
  createdAt := now
  updatedAt := now

def defaultProviders (env : Environment) (now : Instant) : List ProviderRecord :=
  [defaultCodexProvider env now, defaultClaudeProvider env now]

def strictOverlay (removals : List String) (posture : SecurityPosture) : PolicyOverlay where
  capabilityRemovals := removals
  minimumMutationTier := .dangerous
  disableTrustedAutoApprove := true
  securityPosture := posture

def defaultPromptProfiles : List Preset :=
  [{ id := "balanced", overlay := { securityPosture := .balanced } },
    { id := "hardened", overlay := strictOverlay [] .hardened },
    { id := "ops-control", overlay := { securityPosture := .operations } },
    { id := "review-strict"
      overlay := strictOverlay ["terminal:input", "policy:write"] .restricted }]

def defaultRoles : List Preset :=
  [{ id := "developer", overlay := { securityPosture := .balanced } },
    { id := "devops", overlay := { securityPosture := .operations } },
    { id := "sre", overlay := { securityPosture := .operations } },
    { id := "secops", overlay := strictOverlay ["terminal:input"] .hardened },
    { id := "architect"
      overlay :=
        { capabilityRemovals := ["terminal:input", "policy:write"]
          securityPosture := .restricted } },
    { id := "reviewer", overlay := strictOverlay ["terminal:input", "policy:write"] .restricted },
    { id := "release-manager"
      overlay := { capabilityRemovals := ["terminal:input"], securityPosture := .release } }]

def defaultModes : List Preset :=
  [{ id := "explore"
     overlay :=
      { capabilityRemovals := ["terminal:input", "policy:write"]
        securityPosture := .restricted } },
    { id := "implement", overlay := { securityPosture := .balanced } },
    { id := "review", overlay := strictOverlay ["terminal:input", "policy:write"] .restricted },
    { id := "debug"
      overlay := { minimumMutationTier := .moderate, securityPosture := .balanced } },
    { id := "ops", overlay := { securityPosture := .operations } },
    { id := "incident"
      overlay := { minimumMutationTier := .moderate, securityPosture := .operations } },
    { id := "secure", overlay := strictOverlay ["terminal:input"] .hardened },
    { id := "release", overlay := strictOverlay ["terminal:input"] .release }]

def defaultState (env : Environment) (now : Instant) : State where
  version := configVersion
  activeProfileID := "balanced"
  activeRoleID := "developer"
  activeModeID := "implement"
  activeProviderID := defaultActiveProviderID
  profiles := defaultPromptProfiles
  roles := defaultRoles
  modes := defaultModes
  providers := defaultProviders env now
  updatedAt := now

def findByID {Item : Type} (getID : Item → String) (items : List Item) (id : String) :
    Option Item :=
  items.find? fun item => getID item == id

def selectDefaultActiveProviderID (providers : List ProviderRecord) : String :=
  match providers.find? (·.enabled) with
  | some provider => provider.id
  | none =>
    match providers.head? with
    | some provider => provider.id
    | none => defaultActiveProviderID

def normalizeCLISettings (defaultCommand defaultModel : String)
    (settings : CLIProviderSettings) : CLIProviderSettings :=
  let model := if trimSpace settings.model = "" then defaultModel else settings.model
  { command := if trimSpace settings.command = "" then defaultCommand else settings.command
    model := model
    chatModels := normalizeProviderChatModels model settings.chatModels }

def normalizeOpenAICompatibleSettings (settings : OpenAICompatibleProviderSettings) :
    OpenAICompatibleProviderSettings :=
  { settings with
    baseURL := normalizeProviderBaseURL settings.baseURL
    chatModels := normalizeProviderChatModels settings.model settings.chatModels }

def normalizeProviderRecord (record : ProviderRecord) : ProviderRecord :=
  { cloneProviderRecord record with
    codex := record.codex.map (normalizeCLISettings defaultCodexCommand defaultCodexModel)
    claude := record.claude.map (normalizeCLISettings defaultClaudeCommand defaultClaudeModel)
    openAICompatible := record.openAICompatible.map normalizeOpenAICompatibleSettings }

abbrev Normalizing := State × Bool

def Normalizing.changeIf (applies : State → Bool) (change : State → State) (s : Normalizing) :
    Normalizing :=
  if applies s.1 then (change s.1, true) else s

def useDefaultProviders (env : Environment) (now : Instant) (state : State) : State :=
  { state with
    providers := defaultProviders env now
    activeProviderID := defaultActiveProviderID }

def filterSupported (providers : List ProviderRecord) : List ProviderRecord :=
  providers.filter fun provider => isSupportedProviderKind provider.kind

def selectActiveProvider (state : State) : State :=
  { state with activeProviderID := selectDefaultActiveProviderID state.providers }

/-- The passes in the order of the source. The first copies the state, which normalizes what
`cloneProviderRecord` does and reports nothing. -/
def normalizeProviderState (env : Environment) (now : Instant) (state : State) : State × Bool :=
  let s : Normalizing := (cloneState state, false)
  let s := s.changeIf (·.version ≠ configVersion) fun state =>
    { state with version := configVersion }
  let s := s.changeIf (·.providers.length = 0) (useDefaultProviders env now)
  let s := s.changeIf
    (fun state => (filterSupported state.providers).length ≠ state.providers.length) fun state =>
    { state with providers := filterSupported state.providers }
  let s := s.changeIf (·.providers.length = 0) (useDefaultProviders env now)
  let s := s.changeIf (fun state => state.providers.any fun record =>
      normalizeProviderRecord record ≠ record) fun state =>
    { state with providers := state.providers.map normalizeProviderRecord }
  let s := s.changeIf (fun state => trimSpace state.activeProviderID = "") selectActiveProvider
  s.changeIf (fun state => (findByID (·.id) state.providers state.activeProviderID).isNone)
    selectActiveProvider

def providerIndex (state : State) (id : String) : Option Nat :=
  state.providers.findIdx? fun record => record.id == id

def stampCreated (actor : ProviderActor) (built : ProviderRecord) : ProviderRecord :=
  { built with
    createdBy := normalizeProviderActor actor
    updatedBy := normalizeProviderActor actor
    access := normalizeProviderAccess built.access (normalizeProviderActor actor) }

/-- `CreateProviderWithActor`, up to the state that is written. -/
def createProvider (providerID : String) (now later : Instant) (input : CreateProviderInput)
    (actor : ProviderActor) (state : State) : Except ProviderError State := do
  let built ← buildProviderRecord providerID now input
  let next := cloneState state
  return { next with
    providers := next.providers ++ [stampCreated actor built]
    updatedAt := later }

def stampUpdated (actor : ProviderActor) (applied : ProviderRecord) : ProviderRecord :=
  { applied with updatedBy := normalizeProviderActor actor }

def updateProvider (id : String) (now later : Instant) (input : UpdateProviderInput)
    (actor : ProviderActor) (state : State) : Except ProviderError State :=
  match providerIndex state id with
  | none => .error (.notFound id)
  | some index =>
    match state.providers[index]? with
    | none => .error (.notFound id)
    | some record => do
      let applied ← applyProviderUpdate now record input
      let updated := stampUpdated actor applied
      if state.activeProviderID = updated.id ∧ updated.enabled = false then
        .error (.disabled updated.id)
      else
        let next := cloneState state
        return { next with providers := next.providers.set index updated, updatedAt := later }

def markActivated (actor : ProviderActor) (now : Instant) (record : ProviderRecord) :
    ProviderRecord :=
  { cloneProviderRecord record with
    updatedBy := normalizeProviderActor actor
    updatedAt := now }

def setActiveProvider (id : String) (now later : Instant) (actor : ProviderActor)
    (state : State) : Except ProviderError State :=
  match findByID (·.id) state.providers id with
  | none => .error (.notFound id)
  | some provider =>
    if provider.enabled = false then .error (.disabled id)
    else
      let next := { cloneState state with activeProviderID := id, updatedAt := now }
      match providerIndex state id with
      | none => .ok next
      | some index =>
        .ok { next with providers := next.providers.modify index (markActivated actor later) }

def deleteProvider (id : String) (now : Instant) (state : State) : Except ProviderError State :=
  match providerIndex state id with
  | none => .error (.notFound id)
  | some index =>
    if state.activeProviderID = id then .error (.deleteActive id)
    else
      let next := cloneState state
      .ok { next with providers := next.providers.eraseIdx index, updatedAt := now }

inductive ProviderRequest where
  | create (providerID : String) (now later : Instant) (input : CreateProviderInput)
      (actor : ProviderActor)
  | update (id : String) (now later : Instant) (input : UpdateProviderInput)
      (actor : ProviderActor)
  | setActive (id : String) (now later : Instant) (actor : ProviderActor)
  | delete (id : String) (now : Instant)

def ProviderRequest.edit : ProviderRequest → State → Except ProviderError State
  | .create providerID now later input actor => createProvider providerID now later input actor
  | .update id now later input actor => updateProvider id now later input actor
  | .setActive id now later actor => setActiveProvider id now later actor
  | .delete id now => deleteProvider id now

/-- `ids.New` draws an identifier that no record of the store has. -/
def ProviderRequest.drawsNewID (state : State) : ProviderRequest → Bool
  | .create providerID .. => (state.providers.map (·.id)).contains providerID = false
  | _ => true

/-- A request, and whether its write succeeds. -/
structure ProviderStep where
  request : ProviderRequest
  written : Bool

def providerStep (s : Stored State) (action : ProviderStep) : Option (Stored State) :=
  if action.request.drawsNewID s.data then
    some (s.commit (fun state => (action.request.edit state).toOption) action.written)
  else none

def startsFresh (env : Environment) (now : Instant) (s : Stored State) : Prop :=
  s = Stored.saved (defaultState env now)

def settledURL (raw : String) : Bool :=
  normalizeProviderBaseURL (normalizeProviderBaseURL raw) = normalizeProviderBaseURL raw

/-- A blank model is supplied only where the listed models, of the request or stored, start with the
default model that will stand in. -/
def UpdateCLIProviderInput.listsFirst (defaultModel : String) (stored : CLIProviderSettings)
    (input : UpdateCLIProviderInput) : Bool :=
  input.model.all fun raw => trimSpace raw ≠ "" ||
    (input.chatModels.getD stored.chatModels).findSome? trimmedText = some defaultModel

def CreateProviderInput.settles (input : CreateProviderInput) : Bool :=
  input.openAICompatible.all fun settings => settledURL settings.baseURL

def UpdateProviderInput.settles (record : ProviderRecord) (input : UpdateProviderInput) : Bool :=
  match record.kind with
  | .codex => input.codex.all (·.listsFirst defaultCodexModel (record.codex.getD {}))
  | .claude => input.claude.all (·.listsFirst defaultClaudeModel (record.claude.getD {}))
  | .openAICompatible =>
    input.openAICompatible.all fun settings => settings.baseURL.all settledURL
  | .other _ => true

def ProviderRequest.settles (state : State) : ProviderRequest → Bool
  | .create _ _ _ input _ => input.settles
  | .update id _ _ input _ => (findByID (·.id) state.providers id).all input.settles
  | _ => true

def ProviderStep.settles (s : Stored State) (action : ProviderStep) : Bool :=
  action.request.settles s.data

end RuneTerminal.Agent
