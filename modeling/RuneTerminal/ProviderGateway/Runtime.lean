import RuneTerminal.Agent.ProviderStore
import RuneTerminal.ProviderGateway.Store

/-! `core/app/provider_gateway.go`: how the run of a conversation provider is classified and
recorded, and how the statistics are laid over the providers of the catalog. -/

namespace RuneTerminal.ProviderGateway

open Agent Go Go.Strings Kit List

def providerRunErrorCodeGeneric : String := "provider_error"
def providerRunErrorCodeMissingBinary : String := "missing_binary"
def providerRunErrorCodeAuthRequired : String := "auth_required"
def providerRunErrorCodeUnreachable : String := "unreachable"
def providerRunErrorCodeModelUnavailable : String := "model_unavailable"
def providerRunErrorCodeInvalidConfig : String := "invalid_config"
def providerRunErrorCodeTimeout : String := "timeout"
def providerRunErrorCodeUpstreamRejected : String := "upstream_rejected"

/-- The text of `ErrConversationStreamCancelled`. -/
def streamCancelledText : String := "conversation stream cancelled"

/-- The error of a call: its text, and whether it wraps one of the cancellation
errors or `context.DeadlineExceeded`. -/
structure CallError where
  text : String
  cancelled : Bool := false
  deadlineExceeded : Bool := false

/-- `resolvedConversationProvider`. -/
structure Binding where
  record : Option ProviderRecord
  model : String

structure SubmitResult where
  snapshotID : String := ""
  providerError : String := ""
  firstResponseLatencyMS : Int := 0

/-- The three digits that `openAICompatibleStatusCodePattern` finds. -/
def failureStatusDigits (message : List Char) : Option (List Char) :=
  let start := "openai-compatible request failed (".toList
  message.tails.findSome? fun rest =>
    let digits := (rest.drop start.length).take 3
    if start.isPrefixOf rest ∧ digits.length = 3 ∧ digits.all isDigit ∧
        (rest.drop (start.length + 3)).head? = some ')' then some digits
    else none

def parseOpenAICompatibleFailureStatusCode (message : String) : Option Nat :=
  match (failureStatusDigits message.toList).map String.ofList with
  | some "400" => some 400
  | some "401" => some 401
  | some "403" => some 403
  | some "404" => some 404
  | some "429" => some 429
  | some "500" => some 500
  | some "502" => some 502
  | some "503" => some 503
  | some "504" => some 504
  | _ => none

section

variable (lib : TextLibrary)

def classifyProviderRunErrorCode (binding : Binding) (errorMessage : String)
    (callErr : Option CallError) : String :=
  let message := lib.toLower (trimSpace errorMessage)
  let mentions := fun parts : List String => parts.any (contains message ·)
  if callErr.any (·.deadlineExceeded) ∨ mentions ["deadline exceeded", "timeout"] then
    providerRunErrorCodeTimeout
  else if mentions ["command is required", "command is not available on path",
      "executable file not found"] then providerRunErrorCodeMissingBinary
  else if mentions ["not logged in", "login required", "authentication required"] then
    providerRunErrorCodeAuthRequired
  else if mentions ["base_url is required", "model is required", "settings are required",
      "invalid config"] then providerRunErrorCodeInvalidConfig
  else if mentions ["configured model", "model unavailable", "model not found",
      "does not exist"] then providerRunErrorCodeModelUnavailable
  else if mentions ["connection refused", "no such host", "network is unreachable", "dial tcp",
      "connection reset by peer"] then providerRunErrorCodeUnreachable
  else
    match parseOpenAICompatibleFailureStatusCode message with
    | none => providerRunErrorCodeGeneric
    | some statusCode =>
      if statusCode = 404 ∧ binding.record.any (·.kind = .openAICompatible) then
        providerRunErrorCodeModelUnavailable
      else if statusCode ∈ [400, 401, 403, 429] ∨ 400 ≤ statusCode then
        providerRunErrorCodeUpstreamRejected
      else providerRunErrorCodeGeneric

/-- `classifyProviderRunOutcome`: the status, the error code and the message. -/
def classifyProviderRunOutcome (binding : Binding) (result : SubmitResult)
    (callErr : Option CallError) : String × String × String :=
  match callErr with
  | some err =>
    if err.cancelled then (runStatusCancelled, "stream_cancelled", streamCancelledText)
    else
      (runStatusFailed, classifyProviderRunErrorCode lib binding (trimSpace err.text) (some err),
        trimSpace err.text)
  | none =>
    let providerError := trimSpace result.providerError
    if providerError = "" then (runStatusSucceeded, "", "")
    else if providerError = streamCancelledText then
      (runStatusCancelled, "stream_cancelled", providerError)
    else
      (runStatusFailed, classifyProviderRunErrorCode lib binding providerError none,
        providerError)

end

structure ProbeRecord where
  providerID : String := ""
  providerKind : String := ""
  displayName : String := ""
  ready : Bool := false
  statusState : String := ""
  statusMessage : String := ""
  resolvedBinary : String := ""
  baseURL : String := ""
  model : String := ""
  probeLatencyMS : Int := 0
  checkedAt : Nat := 0
  prepared : Bool := false
  prepareState : String := ""
  prepareMessage : String := ""
  prepareLatencyMS : Int := 0
  preparedAt : Option Nat := none

def providerRecordCommand (record : ProviderRecord) : String :=
  match record.kind with
  | .codex => record.codex.elim "" (trimSpace ·.command)
  | .claude => record.claude.elim "" (trimSpace ·.command)
  | _ => ""

def providerRecordBaseURL (record : ProviderRecord) : String :=
  if record.kind = .openAICompatible then record.openAICompatible.elim "" (trimSpace ·.baseURL)
  else ""

/-- The call of a provider that has ended, with what the recording draws and reads:
the latest probe, the user, an id and the clock. -/
structure ProviderCall where
  binding : Binding
  requestMode : String
  result : SubmitResult
  callErr : Option CallError
  startedAt : Nat
  now : Nat
  elapsedMS : Int
  contextDone : Bool
  latestProbe : Option ProbeRecord
  actor : ProviderActor
  newID : String

section

variable (lib : TextLibrary)

def conversationRun (call : ProviderCall) (record : ProviderRecord) : RunRecord :=
  let outcome := classifyProviderRunOutcome lib call.binding call.result call.callErr
  let lastProbe := if call.contextDone then {} else call.latestProbe.getD {}
  { providerID := record.id
    providerKind := record.kind.text
    providerDisplayName := record.displayName
    actorUsername := call.actor.username
    actorHomeDir := call.actor.homeDir
    requestMode := call.requestMode
    model := trimSpace call.binding.model
    conversationID := trimSpace call.result.snapshotID
    status := outcome.1
    errorCode := outcome.2.1
    errorMessage := outcome.2.2
    routeReady := lastProbe.ready
    routeStatusState := lastProbe.statusState
    routeStatusMessage := lastProbe.statusMessage
    routePrepared := lastProbe.prepared
    routePrepareState := lastProbe.prepareState
    routePrepareMessage := lastProbe.prepareMessage
    resolvedBinary := firstNonEmpty [lastProbe.resolvedBinary, providerRecordCommand record]
    baseURL := firstNonEmpty [lastProbe.baseURL, providerRecordBaseURL record]
    durationMS := call.elapsedMS
    firstResponseLatencyMS := call.result.firstResponseLatencyMS
    startedAt := call.startedAt
    completedAt := call.now }

/-- `recordConversationProviderRun`, which drops the error of the store. -/
def recordConversationProviderRun (rows : List RunRow) (call : ProviderCall) : List RunRow :=
  match call.binding.record with
  | none => rows
  | some record =>
    match recordRun lib call.contextDone call.newID call.now rows
        (conversationRun lib call record) with
    | .ok (next, _) => next
    | .error _ => rows

end

/-- The part of `agent.ProviderView` that the gateway shows. -/
structure ProviderView where
  id : String
  kind : ProviderKind
  displayName : String
  enabled : Bool
  active : Bool
  routePolicy : ProviderRoutePolicy := {}
  codex : Option CLIProviderSettings := none
  claude : Option CLIProviderSettings := none
  openAICompatible : Option OpenAICompatibleProviderSettings := none

def prewarmPolicyText : ProviderPrewarmPolicy → String
  | .manual => "manual"
  | .onActivate => "on_activate"
  | .onStartup => "on_startup"
  | .other raw => raw

structure ProviderGatewayProviderView extends RunFigures where
  providerID : String
  providerKind : String
  displayName : String
  enabled : Bool := false
  active : Bool := false
  routeReady : Bool := false
  routeStatusState : String := "unchecked"
  routeStatusMessage : String := ""
  resolvedBinary : String := ""
  baseURL : String := ""
  model : String := ""
  routeCheckedAt : Option Nat := none
  routeLatencyMS : Int := 0
  routePrepared : Bool := false
  routePrepareState : String := ""
  routePrepareMessage : String := ""
  routePreparedAt : Option Nat := none
  routePrepareLatencyMS : Int := 0
  routePrepareExpiresAt : Option Int := none
  routePrepareStale : Bool := false
  routePrewarmPolicy : String := ""
  routeWarmTTLSeconds : Int := 0

def providerConfigModel (provider : ProviderView) : String :=
  match provider.kind with
  | .codex => provider.codex.elim "" (trimSpace ·.model)
  | .claude => provider.claude.elim "" (trimSpace ·.model)
  | .openAICompatible => provider.openAICompatible.elim "" (trimSpace ·.model)
  | .other _ => ""

def providerConfigBaseURL (provider : ProviderView) : String :=
  if provider.kind = .openAICompatible then
    provider.openAICompatible.elim "" (trimSpace ·.baseURL)
  else ""

def applyProviderGatewayStats (view : ProviderGatewayProviderView) (stats : ProviderStats) :
    ProviderGatewayProviderView :=
  { view with toRunFigures := stats.toRunFigures }

def applyProviderGatewayRoutePolicy (now : Nat) (view : ProviderGatewayProviderView) :
    ProviderGatewayProviderView :=
  let defaults := normalizeProviderRoutePolicy {}
  let ttl := if view.routeWarmTTLSeconds ≤ 0 then defaults.warmTTLSeconds
    else view.routeWarmTTLSeconds
  let prewarm := if trimSpace view.routePrewarmPolicy = "" then prewarmPolicyText .manual
    else view.routePrewarmPolicy
  match view.routePreparedAt with
  | none =>
    { view with
      routeWarmTTLSeconds := ttl
      routePrewarmPolicy := prewarm
      routePrepareExpiresAt := none
      routePrepareStale := false }
  | some preparedAt =>
    let expiresAt : Int := preparedAt + ttl * 1000000000
    let stale : Bool := expiresAt < now
    { view with
      routeWarmTTLSeconds := ttl
      routePrewarmPolicy := prewarm
      routePrepareExpiresAt := some expiresAt
      routePrepareStale := stale
      routePrepareState := if stale ∧ view.routePrepared then "stale" else view.routePrepareState
      routePrepareMessage :=
        if stale ∧ view.routePrepared ∧ trimSpace view.routePrepareMessage = "" then
          "Prepared route exceeded its warm TTL and should be refreshed."
        else view.routePrepareMessage }

def applyProviderGatewayProbe (now : Nat) (view : ProviderGatewayProviderView)
    (probe : ProbeRecord) : ProviderGatewayProviderView :=
  applyProviderGatewayRoutePolicy now
    { view with
      routeReady := probe.ready
      routeStatusState := probe.statusState
      routeStatusMessage := probe.statusMessage
      resolvedBinary := probe.resolvedBinary
      baseURL := if trimSpace probe.baseURL ≠ "" then probe.baseURL else view.baseURL
      model := if trimSpace probe.model ≠ "" then probe.model else view.model
      routeLatencyMS := probe.probeLatencyMS
      routeCheckedAt := some probe.checkedAt
      routePrepared := probe.prepared
      routePrepareState := probe.prepareState
      routePrepareMessage := probe.prepareMessage
      routePrepareLatencyMS := probe.prepareLatencyMS
      routePreparedAt := probe.preparedAt.orElse fun _ => view.routePreparedAt }

def byProviderID {Item : Type} (providerID : Item → String) (items : List Item) (id : String) :
    Option Item :=
  items.reverse.find? fun item => trimSpace (providerID item) = id

def nameUnlessEmpty (name : String) (view : ProviderGatewayProviderView) :
    ProviderGatewayProviderView :=
  if view.displayName = "" then { view with displayName := name } else view

def catalogProviderView (now : Nat) (stats : List ProviderStats) (probes : List ProbeRecord)
    (provider : ProviderView) : ProviderGatewayProviderView :=
  let policy := normalizeProviderRoutePolicy provider.routePolicy
  let view : ProviderGatewayProviderView :=
    { providerID := provider.id
      providerKind := provider.kind.text
      displayName := trimSpace provider.displayName
      enabled := provider.enabled
      active := provider.active
      model := providerConfigModel provider
      baseURL := providerConfigBaseURL provider
      routePrewarmPolicy := prewarmPolicyText policy.prewarmPolicy
      routeWarmTTLSeconds := policy.warmTTLSeconds }
  let counted :=
    match byProviderID (·.providerID) stats provider.id with
    | some entry =>
      nameUnlessEmpty entry.providerDisplayName (applyProviderGatewayStats view entry)
    | none => view
  let probed :=
    match byProviderID (·.providerID) probes provider.id with
    | some probe =>
      nameUnlessEmpty probe.displayName (applyProviderGatewayProbe now counted probe)
    | none => counted
  applyProviderGatewayRoutePolicy now (nameUnlessEmpty provider.id probed)

def formerProviderView (now : Nat) (probes : List ProbeRecord) (entry : ProviderStats) :
    ProviderGatewayProviderView :=
  let view : ProviderGatewayProviderView :=
    { providerID := entry.providerID
      providerKind := entry.providerKind
      displayName := entry.providerDisplayName
      routePrewarmPolicy := prewarmPolicyText .manual
      routeWarmTTLSeconds := (normalizeProviderRoutePolicy {}).warmTTLSeconds }
  let counted := applyProviderGatewayStats view entry
  let probed :=
    match byProviderID (·.providerID) probes entry.providerID with
    | some probe => applyProviderGatewayProbe now counted probe
    | none => counted
  applyProviderGatewayRoutePolicy now (nameUnlessEmpty entry.providerID probed)

def buildGatewayProviderViews (now : Nat) (catalog : List ProviderView)
    (stats : List ProviderStats) (probes : List ProbeRecord) : List ProviderGatewayProviderView :=
  catalog.map (catalogProviderView now stats probes) ++
    (stats.filter fun entry => entry.providerID ∉ catalog.map (·.id)).map
      (formerProviderView now probes)

section

variable {now : Nat} {stats : List ProviderStats} {probes : List ProbeRecord}
  (view : ProviderGatewayProviderView)

@[simp]
theorem route_policy_keeps (now : Nat) :
    (applyProviderGatewayRoutePolicy now view).toRunFigures = view.toRunFigures ∧
    (applyProviderGatewayRoutePolicy now view).providerID = view.providerID := by
  unfold applyProviderGatewayRoutePolicy
  cases view.routePreparedAt <;> exact ⟨rfl, rfl⟩

@[simp]
theorem probe_keeps (now : Nat) (probe : ProbeRecord) :
    (applyProviderGatewayProbe now view probe).toRunFigures = view.toRunFigures ∧
    (applyProviderGatewayProbe now view probe).providerID = view.providerID := by
  exact route_policy_keeps _ now

@[simp]
theorem name_keeps (name : String) : (nameUnlessEmpty name view).toRunFigures = view.toRunFigures ∧
    (nameUnlessEmpty name view).providerID = view.providerID := by
  unfold nameUnlessEmpty
  split_ifs <;> exact ⟨rfl, rfl⟩

theorem catalog_view_figures (provider : ProviderView) :
    (catalogProviderView now stats probes provider).providerID = provider.id ∧
    (catalogProviderView now stats probes provider).toRunFigures =
    ((byProviderID (·.providerID) stats provider.id).map (·.toRunFigures)).getD {} := by
  unfold catalogProviderView
  cases byProviderID (·.providerID) stats provider.id <;>
    cases byProviderID (·.providerID) probes provider.id <;>
    simp [applyProviderGatewayStats]

theorem former_view_figures (entry : ProviderStats) :
    (formerProviderView now probes entry).providerID = entry.providerID ∧
    (formerProviderView now probes entry).toRunFigures = entry.toRunFigures := by
  unfold formerProviderView
  cases byProviderID (·.providerID) probes entry.providerID <;>
    simp [applyProviderGatewayStats]

end

inductive Ending where
  | succeeded
  | failed
  | cancelled
  deriving DecidableEq

def Ending.text : Ending → String
  | .succeeded => runStatusSucceeded
  | .failed => runStatusFailed
  | .cancelled => runStatusCancelled

def Dated (instant : Nat) : Prop := 0 < instant ∧ (Time.civil instant).year < 10000

instance (instant : Nat) : Decidable (Dated instant) := inferInstanceAs (Decidable (_ ∧ _))

/-- What the conversation service hands back for a submission that failed: an error of
the call, or the error of the provider beside the answer. -/
def ReportsFailure (result : SubmitResult) (callErr : Option CallError) : Prop :=
  match callErr with
  | some err => err.cancelled = false
  | none => trimSpace result.providerError ≠ "" ∧
      trimSpace result.providerError ≠ streamCancelledText

instance (result : SubmitResult) (callErr : Option CallError) :
    Decidable (ReportsFailure result callErr) := by
  unfold ReportsFailure
  cases callErr <;> infer_instance

/-- A submission to a provider that the agent's store has validated. -/
structure Submission where
  provider : ProviderRecord
  model : String := ""
  actor : ProviderActor := {}
  requestMode : String
  snapshotID : String := ""
  providerError : String := ""
  callErr : Option CallError := none
  durationMS : Nat
  firstResponseLatencyMS : Nat
  startedAt : Nat
  completedAt : Nat
  latestProbe : Option ProbeRecord := none
  runID : String
  ended : Ending
  contextDone : Bool
  cleanID : CleanID provider.id
  supported : isSupportedProviderKind provider.kind = true
  started : Dated startedAt
  completed : Dated completedAt
  inOrder : startedAt ≤ completedAt
  cancels : ended = .cancelled → contextDone = true
  succeeds : ended = .succeeded → callErr = none ∧ trimSpace providerError = ""
  fails : ended = .failed → ReportsFailure { providerError } callErr

namespace Submission

def result (s : Submission) : SubmitResult where
  snapshotID := s.snapshotID
  providerError := s.providerError
  firstResponseLatencyMS := s.firstResponseLatencyMS

def binding (s : Submission) : Binding where
  record := some s.provider
  model := s.model

def call (s : Submission) : ProviderCall where
  binding := s.binding
  requestMode := s.requestMode
  result := s.result
  callErr := s.callErr
  startedAt := s.startedAt
  now := s.completedAt
  elapsedMS := s.durationMS
  contextDone := s.contextDone
  latestProbe := s.latestProbe
  actor := s.actor
  newID := s.runID

end Submission

section

variable (lib : TextLibrary)

def Submission.failure (s : Submission) : String × String :=
  (classifyProviderRunOutcome lib s.binding s.result s.callErr).2

def Submission.row (s : Submission) : RunRow :=
  runRow (normalizeRunRecord lib s.runID s.completedAt (conversationRun lib s.call s.provider))

def recordAll (history : List Submission) : List RunRow :=
  history.foldl (fun rows s => recordConversationProviderRun lib rows s.call) []

/-- `strings.ToLower` leaves a text of small letters as it is. -/
def LowersOnly : Prop :=
  ∀ text : String, text.toList.all Char.isLower = true → lib.toLower text = text

end

def recorded (history : List Submission) : List Submission :=
  history.filter fun s => !s.contextDone

def runsOf (history : List Submission) (providerID : String) : List Submission :=
  history.filter (·.provider.id = providerID)

section

variable {lib : TextLibrary} (s : Submission)

@[simp]
theorem row_id : (s.row lib).id = s.runID := by
  simp [Submission.row, runRow, normalizeRunRecord, conversationRun]

@[simp]
theorem row_provider_id : (s.row lib).providerID = s.provider.id := s.cleanID.1

@[simp]
theorem row_provider_kind : (s.row lib).providerKind = s.provider.kind.text := by
  have supported := s.supported
  change trimSpace s.provider.kind.text = s.provider.kind.text
  generalize s.provider.kind = kind at supported
  cases kind with
  | codex | claude | openAICompatible => decide
  | other raw => simp [isSupportedProviderKind, supportedProviderKinds] at supported

@[simp]
theorem row_duration : (s.row lib).durationMS = s.durationMS := by
  change (if (s.durationMS : Int) < 0 then 0 else (s.durationMS : Int)) = s.durationMS
  rw [if_neg (by omega)]

@[simp]
theorem row_latency : (s.row lib).firstResponseLatencyMS = s.firstResponseLatencyMS := by
  change (if (s.firstResponseLatencyMS : Int) < 0 then 0 else (s.firstResponseLatencyMS : Int)) =
    s.firstResponseLatencyMS
  rw [if_neg (by omega)]

@[simp]
theorem row_started : (s.row lib).startedAt = Time.formatRFC3339Nano s.startedAt := by
  have started : s.startedAt ≠ 0 := s.started.1.ne'
  change Time.formatRFC3339Nano (if s.startedAt = 0 then s.completedAt else s.startedAt) = _
  rw [if_neg started]

@[simp]
theorem row_completed : (s.row lib).completedAt = Time.formatRFC3339Nano s.completedAt := by
  have started : s.startedAt ≠ 0 := s.started.1.ne'
  have completed : ¬(s.completedAt = 0 ∨ s.completedAt < s.startedAt) := by
    have inOrder := s.inOrder
    omega
  change Time.formatRFC3339Nano (if s.completedAt = 0 ∨
    s.completedAt < (if s.startedAt = 0 then s.completedAt else s.startedAt) then
    (if s.startedAt = 0 then s.completedAt else s.startedAt) else s.completedAt) = _
  rw [if_neg started, if_neg completed]

theorem row_error_code : (s.row lib).errorCode =
    if normalizeRunStatus lib (classifyProviderRunOutcome lib s.binding s.result s.callErr).1 =
      runStatusSucceeded then "" else trimSpace (s.failure lib).1 := by
  rfl

theorem row_error_message : (s.row lib).errorMessage =
    if normalizeRunStatus lib (classifyProviderRunOutcome lib s.binding s.result s.callErr).1 =
      runStatusSucceeded then "" else trimSpace (s.failure lib).2 := by
  rfl

theorem outcome_status (live : s.contextDone = false) :
    (classifyProviderRunOutcome lib s.binding s.result s.callErr).1 = s.ended.text := by
  unfold classifyProviderRunOutcome
  cases ended : s.ended with
  | succeeded =>
    obtain ⟨noError, blank⟩ := s.succeeds ended
    simp [noError, Submission.result, blank, Ending.text]
  | failed =>
    have reports := s.fails ended
    unfold ReportsFailure at reports
    cases err : s.callErr with
    | some err => simp_all [Ending.text]
    | none => simp_all [Ending.text, Submission.result]
  | cancelled =>
    rw [s.cancels ended] at live
    cases live

theorem normalize_ending (lowers : LowersOnly lib) (ending : Ending) :
    normalizeRunStatus lib ending.text = ending.text := by
  have lower := lowers ending.text (by cases ending <;> decide)
  rw [normalizeRunStatus, lower]
  cases ending <;> decide

theorem row_status (lowers : LowersOnly lib) (live : s.contextDone = false) :
    (s.row lib).status = s.ended.text := by
  change normalizeRunStatus lib
    (classifyProviderRunOutcome lib s.binding s.result s.callErr).1 = _
  rw [outcome_status s live, normalize_ending lowers]

end

section

variable {lib : TextLibrary} {history : List Submission}

theorem record_submission {rows : List RunRow} {s : Submission}
    (fresh : s.runID ∉ rows.map (·.id)) : recordConversationProviderRun lib rows s.call =
    if s.contextDone then rows else rows ++ [s.row lib] := by
  have id : (normalizeRunRecord lib s.runID s.completedAt
      (conversationRun lib s.call s.provider)).id = s.runID := by
    simp [normalizeRunRecord, conversationRun]
  change (match recordRun lib s.contextDone s.runID s.completedAt rows
    (conversationRun lib s.call s.provider) with
    | .ok (next, _) => next
    | .error _ => rows) = _
  rw [recordRun, id]
  cases s.contextDone with
  | true => rfl
  | false =>
    simp only [if_neg fresh]
    rfl

theorem record_all_rows (fresh : (history.map (·.runID)).Nodup) :
    recordAll lib history = (recorded history).map (·.row lib) := by
  induction history using reverseRecOn with
  | nil => rfl
  | append_singleton history s ih =>
    rw [map_append, map_singleton, ← concat_eq_append, nodup_concat] at fresh
    have before := ih fresh.2
    have unused : s.runID ∉ (recordAll lib history).map (·.id) := by
      rw [before, map_map]
      intro mem
      obtain ⟨other, isRecorded, same⟩ := mem_map.mp mem
      refine fresh.1 (mem_map.mpr ⟨other, mem_of_mem_filter isRecorded, ?_⟩)
      rw [← same]
      exact (row_id other).symm
    have step : recordAll lib (history ++ [s]) =
        recordConversationProviderRun lib (recordAll lib history) s.call := by
      rw [recordAll, foldl_append]
      rfl
    rw [step, record_submission unused, before, recorded, recorded]
    cases done : s.contextDone <;> simp [done]

end

end RuneTerminal.ProviderGateway
