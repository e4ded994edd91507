import RuneTerminal.Kit.Table
import RuneTerminal.Policy.Evaluate

/-! `core/toolruntime/approval.go`: each method runs under one lock; clock readings and minted ids
are arguments. `Executor.Execute` and `Executor.Confirm` are steps that any number of calls take in
any order. -/

namespace RuneTerminal.ToolRuntime

open Go.Strings (trimSpace TextLibrary)
open Kit
open Policy (ApprovalTier EvaluationProfile Config Decision)
open Table

abbrev Instant := Nat

inductive TargetKind where
  | workspace
  | widget
  | policy
  | other (raw : String)
  deriving DecidableEq

structure Metadata where
  capabilities : List String
  approvalTier : ApprovalTier
  mutating : Bool
  targetKind : TargetKind

structure ExecutionContext where
  workspaceID : String := ""
  repoRoot : String := ""
  activeWidgetID : String := ""
  actionSource : String := ""
  targetSession : String := ""
  targetConnectionID : String := ""
  roleID : String := ""
  modeID : String := ""

structure Operation where
  summary : String
  affectedPaths : List String := []
  affectedWidgets : List String := []
  requiredCapabilities : List String := []
  approvalTier : ApprovalTier := .other ""

structure OperationPlan extends Operation where
  requiresAllowedRoots : Bool := false
  checksIgnoreRules : Bool := false

/-- A registered tool. What `Execute` returns depends on the world and is an
input of the step that runs it; of a plugin binding only its presence counts. -/
structure Definition (Input : Type) where
  name : String
  description : String
  inputSchema : String
  outputSchema : String
  metadata : Metadata
  pluginBacked : Bool := false
  decode : String → Except String Input
  plan : Input → ExecutionContext → Except String OperationPlan

structure ToolInfo where
  name : String
  description : String
  inputSchema : String
  outputSchema : String
  metadata : Metadata

structure ExecuteRequest where
  toolName : String
  input : String := ""
  context : ExecutionContext := {}
  approvalToken : String := ""

inductive ErrorCode where
  | none
  | invalidInput
  | notFound
  | policyDenied
  | approvalRequired
  | approvalMismatch
  | pluginFailure
  | internalError
  deriving DecidableEq

structure PendingApproval where
  id : String
  toolName : String
  summary : String
  approvalTier : ApprovalTier
  createdAt : Instant
  expiresAt : Instant

structure ApprovalGrant where
  approvalID : String
  token : String
  expiresAt : Instant

inductive Status where
  | ok
  | error
  | requiresConfirmation

structure ExecuteResponse (Output : Type) where
  status : Status
  output : Option Output := none
  error : String := ""
  errorCode : ErrorCode := .none
  tool : Option ToolInfo := none
  operation : Option Operation := none
  pendingApproval : Option PendingApproval := none

structure ExecutionEnvelopeContext where
  workspaceID : String
  widgetID : String
  repoRoot : String
  actionSource : String
  targetSession : String
  targetConnectionID : String
  role : String
  mode : String

structure ExecutionEnvelope where
  toolName : String
  input : String
  context : ExecutionEnvelopeContext

def executionEnvelopeFromRequest (request : ExecuteRequest) (profile : EvaluationProfile) :
    ExecutionEnvelope where
  toolName := request.toolName
  input := request.input
  context :=
    { workspaceID := request.context.workspaceID
      widgetID := request.context.activeWidgetID
      repoRoot := request.context.repoRoot
      actionSource := request.context.actionSource
      targetSession := request.context.targetSession
      targetConnectionID := request.context.targetConnectionID
      role := profile.roleID
      mode := profile.modeID }

def ExecutionEnvelope.executionContext (e : ExecutionEnvelope) : ExecutionContext where
  workspaceID := e.context.workspaceID
  repoRoot := e.context.repoRoot
  activeWidgetID := e.context.widgetID
  actionSource := e.context.actionSource
  targetSession := e.context.targetSession
  targetConnectionID := e.context.targetConnectionID
  roleID := e.context.role
  modeID := e.context.mode

/-- What an approval is given for; the intent key is the hash of its JSON text. -/
structure ExecutionIntent (Input : Type) where
  toolName : String
  input : Input
  context : ExecutionEnvelopeContext

/-- An error that a tool returns: its text, and the code and message of the
coded error in its chain, if there is one. -/
structure ToolError where
  coded : Option (ErrorCode × String) := none
  text : String

def errorCodeOf (err : ToolError) : ErrorCode :=
  match err.coded with
  | some (code, _) => code
  | none => .internalError

def errorMessageOf (err : ToolError) : String :=
  match err.coded with
  | some (_, message) => if message ≠ "" then message else err.text
  | none => err.text

def toolInfo {Input : Type} (definition : Definition Input) : ToolInfo where
  name := definition.name
  description := definition.description
  inputSchema := definition.inputSchema
  outputSchema := definition.outputSchema
  metadata := definition.metadata

inductive ApprovalVerificationResult where
  | missing
  | granted
  | mismatch
  deriving DecidableEq

structure PendingApprovalRecord where
  approval : PendingApproval
  intentKey : String

structure ApprovalGrantRecord where
  grant : ApprovalGrant
  intentKey : String

inductive ApprovalError where
  | pendingApprovalNotFound (id : String)
  | pendingApprovalExpired (id : String)

structure ApprovalStore where
  pending : Table String PendingApprovalRecord
  grants : Table String ApprovalGrantRecord

def newApprovalStore : ApprovalStore where
  pending := Table.empty
  grants := Table.empty

def approvalLifetime : Nat := 10 * 60 * 1000000000

namespace ApprovalStore

def cleanupExpiredLocked (now : Instant) (s : ApprovalStore) : ApprovalStore where
  pending := s.pending.retain fun record => now ≤ record.approval.expiresAt
  grants := s.grants.retain fun record => now ≤ record.grant.expiresAt

def create (toolName summary : String) (tier : ApprovalTier) (intentKey : String) (now : Instant)
    (newID : String) (s : ApprovalStore) : PendingApproval × ApprovalStore :=
  let s := s.cleanupExpiredLocked now
  let approval : PendingApproval :=
    { id := newID
      toolName := toolName
      summary := summary
      approvalTier := tier
      createdAt := now
      expiresAt := now + approvalLifetime }
  (approval,
    { s with pending := s.pending.insert newID { approval := approval, intentKey := intentKey } })

/-- `Confirm` reads the clock for the clean-up, for the check and for the grant. -/
def confirm (id : String) (cleanupAt checkAt mintAt : Instant) (newToken : String)
    (s : ApprovalStore) : Except ApprovalError ApprovalGrant × ApprovalStore :=
  let s := s.cleanupExpiredLocked cleanupAt
  match s.pending id with
  | none => (.error (.pendingApprovalNotFound id), s)
  | some record =>
    if record.approval.expiresAt < checkAt then
      (.error (.pendingApprovalExpired id), { s with pending := s.pending.erase id })
    else
      let grant : ApprovalGrant :=
        { approvalID := record.approval.id
          token := newToken
          expiresAt := mintAt + approvalLifetime }
      (.ok grant,
        { pending := s.pending.erase id
          grants := s.grants.insert newToken
            { grant := grant, intentKey := record.intentKey } })

/-- `Verify` reads the clock for the clean-up and for the check. -/
def verify (token intentKey : String) (cleanupAt checkAt : Instant) (s : ApprovalStore) :
    ApprovalVerificationResult × ApprovalStore :=
  let s := s.cleanupExpiredLocked cleanupAt
  if token = "" then (.missing, s)
  else
    match s.grants token with
    | none => (.missing, s)
    | some record =>
      if record.grant.expiresAt < checkAt then
        (.missing, { s with grants := s.grants.erase token })
      else if record.intentKey ≠ intentKey then (.mismatch, s)
      else (.granted, { s with grants := s.grants.erase token })

variable {s next : ApprovalStore} {now cleanupAt checkAt : Instant} {id token intentKey : String}
  {record : ApprovalGrantRecord}

theorem pending_of_cleanup {record : PendingApprovalRecord}
    (found : (s.cleanupExpiredLocked now).pending id = some record) :
    s.pending id = some record ∧ now ≤ record.approval.expiresAt := by
  obtain ⟨before, fresh⟩ := retain_eq_some_iff.mp found
  exact ⟨before, of_decide_eq_true fresh⟩

theorem grants_of_cleanup (found : (s.cleanupExpiredLocked now).grants token = some record) :
    s.grants token = some record ∧ now ≤ record.grant.expiresAt := by
  obtain ⟨before, fresh⟩ := retain_eq_some_iff.mp found
  exact ⟨before, of_decide_eq_true fresh⟩

theorem confirm_cases {mintAt : Instant} {newToken : String}
    {answer : Except ApprovalError ApprovalGrant}
    (done : s.confirm id cleanupAt checkAt mintAt newToken = (answer, next)) :
    (∃ err, answer = .error err ∧
      (∀ other found, next.pending other = some found → s.pending other = some found) ∧
      ∀ token found, next.grants token = some found → s.grants token = some found) ∨
    ∃ record grant, answer = .ok grant ∧ s.pending id = some record ∧
      checkAt ≤ record.approval.expiresAt ∧ grant.approvalID = record.approval.id ∧
      grant.token = newToken ∧
      (∀ other found, next.pending other = some found → other ≠ id ∧ s.pending other = some found) ∧
      ∀ token found, next.grants token = some found →
        (token = newToken ∧ found = { grant := grant, intentKey := record.intentKey }) ∨
          (token ≠ newToken ∧ s.grants token = some found) := by
  unfold confirm at done
  dsimp only at done
  cases lookup : (s.cleanupExpiredLocked cleanupAt).pending id with
  | none =>
    rw [lookup] at done
    cases done
    exact .inl ⟨_, rfl, fun _ _ found => (pending_of_cleanup found).1,
      fun _ _ found => (grants_of_cleanup found).1⟩
  | some record =>
    rw [lookup] at done
    dsimp only at done
    split_ifs at done with expired
    · cases done
      exact .inl ⟨_, rfl,
        fun _ _ kept => (pending_of_cleanup (erase_eq_some kept).2).1,
        fun _ _ kept => (grants_of_cleanup kept).1⟩
    cases done
    refine .inr ⟨record, _, rfl, (pending_of_cleanup lookup).1, Nat.le_of_not_lt expired,
      rfl, rfl, ?_, ?_⟩
    · intro other found kept
      obtain ⟨ne, before⟩ := erase_eq_some kept
      exact ⟨ne, (pending_of_cleanup before).1⟩
    intro token found kept
    rcases insert_eq_some kept with minted | ⟨ne, before⟩
    · exact .inl minted
    · exact .inr ⟨ne, (grants_of_cleanup before).1⟩

theorem verify_cases {answer : ApprovalVerificationResult}
    (done : s.verify token intentKey cleanupAt checkAt = (answer, next)) :
    (∀ id found, next.pending id = some found → s.pending id = some found) ∧
    ((∃ record, answer = .granted ∧ s.grants token = some record ∧
        record.intentKey = intentKey ∧ checkAt ≤ record.grant.expiresAt ∧
        ∀ other found, next.grants other = some found →
          other ≠ token ∧ s.grants other = some found) ∨
      (answer ≠ .granted ∧
        ∀ other found, next.grants other = some found → s.grants other = some found)) := by
  unfold verify at done
  dsimp only at done
  split_ifs at done with blank
  · cases done
    exact ⟨fun _ _ found => (pending_of_cleanup found).1,
      .inr ⟨nofun, fun _ _ kept => (grants_of_cleanup kept).1⟩⟩
  cases lookup : (s.cleanupExpiredLocked cleanupAt).grants token with
  | none =>
    rw [lookup] at done
    cases done
    exact ⟨fun _ _ found => (pending_of_cleanup found).1,
      .inr ⟨nofun, fun _ _ kept => (grants_of_cleanup kept).1⟩⟩
  | some record =>
    rw [lookup] at done
    dsimp only at done
    split_ifs at done with expired ne
    · cases done
      exact ⟨fun _ _ found => (pending_of_cleanup found).1, .inr ⟨nofun,
        fun _ _ kept => (grants_of_cleanup (erase_eq_some kept).2).1⟩⟩
    · cases done
      exact ⟨fun _ _ found => (pending_of_cleanup found).1,
        .inr ⟨nofun, fun _ _ kept => (grants_of_cleanup kept).1⟩⟩
    cases done
    refine ⟨fun _ _ found => (pending_of_cleanup found).1, .inl ⟨record, rfl,
      (grants_of_cleanup lookup).1, not_not.mp ne, Nat.le_of_not_lt expired, ?_⟩⟩
    intro other found kept
    obtain ⟨nodup, before⟩ := erase_eq_some kept
    exact ⟨nodup, (grants_of_cleanup before).1⟩

theorem create_cases {toolName summary newID : String} {tier : ApprovalTier}
    {approval : PendingApproval}
    (done : s.create toolName summary tier intentKey now newID = (approval, next)) :
    approval.id = newID ∧
      (∀ id found, next.pending id = some found →
        (id = newID ∧ found = { approval := approval, intentKey := intentKey }) ∨
          (id ≠ newID ∧ s.pending id = some found)) ∧
      ∀ token found, next.grants token = some found → s.grants token = some found := by
  cases done
  refine ⟨rfl, ?_, fun _ _ kept => (grants_of_cleanup kept).1⟩
  intro id found kept
  rcases insert_eq_some kept with created | ⟨ne, before⟩
  · exact .inl created
  · exact .inr ⟨ne, (pending_of_cleanup before).1⟩

theorem verify_foreign_token (nonblank : token ≠ "") (alive : s.grants token = some record)
    (unexpired : checkAt ≤ record.grant.expiresAt) (ordered : cleanupAt ≤ checkAt)
    (foreign : record.intentKey ≠ intentKey) :
    (s.verify token intentKey cleanupAt checkAt).1 = .mismatch ∧
      (s.verify token intentKey cleanupAt checkAt).2.grants token = some record := by
  have lookup : (s.cleanupExpiredLocked cleanupAt).grants token = some record :=
    retain_eq_some_iff.mpr ⟨alive, decide_eq_true (ordered.trans unexpired)⟩
  have current : ¬record.grant.expiresAt < checkAt := Nat.not_lt.mpr unexpired
  unfold verify
  simp only [if_neg nonblank, lookup, if_neg current, if_pos foreign]
  exact ⟨trivial, trivial⟩

end ApprovalStore

section

variable {Input Output : Type}

/-- What `prepare` knows before it asks the approval store. -/
structure PlannedExecution (Input : Type) where
  envelope : ExecutionEnvelope
  execContext : ExecutionContext
  profile : EvaluationProfile
  definition : Definition Input
  input : Input
  plan : OperationPlan
  intentKey : String
  approvalToken : String

/-- `executionIntent`, as `executionIntentHash` builds it. -/
def PlannedExecution.intent (planned : PlannedExecution Input) : ExecutionIntent Input where
  toolName := planned.envelope.toolName
  input := planned.input
  context := planned.envelope.context

structure PreparedExecution (Input : Type) extends PlannedExecution Input where
  decision : Decision
  hasApproval : Bool
  approvalVerification : ApprovalVerificationResult

def validateDefinitionContext (definition : Definition Input) (execContext : ExecutionContext) :
    Except String Unit :=
  if !definition.pluginBacked then .ok ()
  else if trimSpace execContext.workspaceID = "" then
    .error "context.workspace_id is required for plugin tools"
  else if trimSpace execContext.targetSession ≠ "" ∨
      trimSpace execContext.targetConnectionID ≠ "" then
    .error "terminal target context is not allowed for plugin tools"
  else .ok ()

def uniqueStrings (values : List String) : List String := Policy.addUnseen [] values

def completePlan (definition : Definition Input) (plan : OperationPlan) : OperationPlan :=
  { plan with
    requiredCapabilities :=
      uniqueStrings (plan.requiredCapabilities ++ definition.metadata.capabilities)
    approvalTier :=
      if plan.approvalTier = .other "" then definition.metadata.approvalTier
      else plan.approvalTier }

def invalidInput (definition : Definition Input) (text : String) : ExecuteResponse Output where
  status := .error
  error := text
  errorCode := .invalidInput
  tool := some (toolInfo definition)

/-- The part of `prepare` before the approval store; `found` is what the registry
answers and `intentHash` is `executionIntentHash`. -/
def planExecution (intentHash : ExecutionIntent Input → Except String String)
    (found : Option (Definition Input)) (request : ExecuteRequest)
    (profile : EvaluationProfile) : Except (ExecuteResponse Output) (PlannedExecution Input) :=
  let envelope := executionEnvelopeFromRequest request profile
  let execContext := envelope.executionContext
  match found with
  | none => .error { status := .error, error := "tool not found", errorCode := .notFound }
  | some definition =>
    match validateDefinitionContext definition execContext with
    | .error text => .error (invalidInput definition text)
    | .ok () =>
      match definition.decode envelope.input with
      | .error text => .error (invalidInput definition text)
      | .ok input =>
        match definition.plan input execContext with
        | .error text => .error (invalidInput definition text)
        | .ok plan =>
          match intentHash
              { toolName := envelope.toolName, input := input,
                context := envelope.context } with
          | .error _ =>
            .error
              { status := .error
                error := "failed to normalize execution intent"
                errorCode := .internalError
                tool := some (toolInfo definition) }
          | .ok intentKey =>
            .ok
              { envelope := envelope
                execContext := execContext
                profile := profile
                definition := definition
                input := input
                plan := completePlan definition plan
                intentKey := intentKey
                approvalToken := request.approvalToken }

def PlannedExecution.policyContext (planned : PlannedExecution Input) (hasApproval : Bool) :
    Policy.Context where
  toolName := planned.definition.name
  summary := planned.plan.summary
  workspaceID := planned.envelope.context.workspaceID
  repoRoot := planned.envelope.context.repoRoot
  affectedPaths := planned.plan.affectedPaths
  affectedWidgets := planned.plan.affectedWidgets
  requiredCapabilities := planned.plan.requiredCapabilities
  approvalTier := planned.plan.approvalTier
  mutating := planned.definition.metadata.mutating
  requiresAllowedRoots := planned.plan.requiresAllowedRoots
  checksIgnoreRules := planned.plan.checksIgnoreRules
  hasApproval := hasApproval
  evaluationProfile := planned.profile

/-- The rest of `prepare`, behind the answer of the approval store. -/
def PlannedExecution.prepare (lib : TextLibrary) (planned : PlannedExecution Input)
    (approvalVerification : ApprovalVerificationResult) (config : Config) :
    PreparedExecution Input :=
  let hasApproval := approvalVerification == .granted
  let decision := Policy.evaluate lib config (planned.policyContext hasApproval)
  { planned with
    plan := { planned.plan with approvalTier := decision.effectiveApprovalTier }
    decision := decision
    hasApproval := hasApproval
    approvalVerification := approvalVerification }

inductive Branch where
  | mismatch
  | confirm
  | deny
  | run
  deriving DecidableEq

def PreparedExecution.branch (prepared : PreparedExecution Input) : Branch :=
  if prepared.approvalVerification = .mismatch then .mismatch
  else if prepared.decision.requiresConfirmation then .confirm
  else if !prepared.decision.allowed then .deny
  else .run

def mismatchText : String := "approval token does not match the requested execution intent"

def PreparedExecution.errorResponse (prepared : PreparedExecution Input) (code : ErrorCode)
    (text : String) : ExecuteResponse Output where
  status := .error
  error := text
  errorCode := code
  tool := some (toolInfo prepared.definition)
  operation := some prepared.plan.toOperation

def PreparedExecution.confirmationResponse (prepared : PreparedExecution Input)
    (pending : PendingApproval) : ExecuteResponse Output where
  status := .requiresConfirmation
  errorCode := .approvalRequired
  tool := some (toolInfo prepared.definition)
  operation := some prepared.plan.toOperation
  pendingApproval := some pending

def PreparedExecution.outcomeResponse (prepared : PreparedExecution Input) :
    Except ToolError Output → ExecuteResponse Output
  | .ok output =>
    { status := .ok
      output := some output
      tool := some (toolInfo prepared.definition)
      operation := some prepared.plan.toOperation }
  | .error err => prepared.errorResponse (errorCodeOf err) (errorMessageOf err)

def outcomeAuditText : Except ToolError Output → String
  | .ok _ => ""
  | .error err =>
    if errorCodeOf err = .pluginFailure then "plugin_failure: " ++ errorMessageOf err
    else err.text

structure AuditEvent where
  toolName : String
  summary : String
  workspaceID : String
  promptProfileID : String
  roleID : String
  modeID : String
  securityPosture : String
  approvalTier : ApprovalTier
  effectiveApprovalTier : ApprovalTier
  trustedRuleID : String
  ignoreRuleID : String
  ignoreMode : Policy.IgnoreMode
  success : Bool
  error : String
  approvalUsed : Bool
  actionSource : String
  targetSession : String
  targetConnectionID : String
  affectedPaths : List String
  affectedWidgets : List String

/-- The event that `appendAudit` hands to the log. -/
def PreparedExecution.auditEvent (prepared : PreparedExecution Input) (success : Bool)
    (errorText : String) : AuditEvent where
  toolName := prepared.definition.name
  summary := prepared.plan.summary
  workspaceID := prepared.envelope.context.workspaceID
  promptProfileID := prepared.profile.promptProfileID
  roleID := prepared.envelope.context.role
  modeID := prepared.envelope.context.mode
  securityPosture := prepared.profile.securityPosture
  approvalTier := prepared.plan.approvalTier
  effectiveApprovalTier := prepared.decision.effectiveApprovalTier
  trustedRuleID := prepared.decision.matchedTrustedRuleID
  ignoreRuleID := prepared.decision.matchedIgnoreRuleID
  ignoreMode := prepared.decision.ignoreMode
  success := success
  error := errorText
  approvalUsed := prepared.hasApproval
  actionSource := prepared.envelope.context.actionSource
  targetSession := prepared.envelope.context.targetSession
  targetConnectionID := prepared.envelope.context.targetConnectionID
  affectedPaths := prepared.plan.affectedPaths
  affectedWidgets := prepared.plan.affectedWidgets

/-- How far a call of `Execute` has come. -/
inductive CallState (Input Output : Type) where
  | idle
  | planned (planned : PlannedExecution Input)
  | verified (planned : PlannedExecution Input) (result : ApprovalVerificationResult)
  | prepared (prepared : PreparedExecution Input)
  | answered (prepared : PreparedExecution Input) (success : Bool) (errorText : String)
      (response : ExecuteResponse Output)
  | finished (response : ExecuteResponse Output)

/-- What has happened, kept for the statements about a run. -/
inductive Event (Input : Type) where
  | verified (call : Nat) (planned : PlannedExecution Input) (result : ApprovalVerificationResult)
      (checkAt : Instant)
  | prepared (call : Nat) (config : Config) (prepared : PreparedExecution Input)
  | created (call : Nat) (prepared : PreparedExecution Input) (approval : PendingApproval)
  | confirmed (approvalID : String) (grant : ApprovalGrant) (checkAt : Instant)
  | ran (call : Nat) (prepared : PreparedExecution Input)
  | audited (call : Nat) (event : AuditEvent) (stored : Bool)

structure System (Input Output : Type) where
  approvals : ApprovalStore
  clock : Instant
  calls : Nat → CallState Input Output
  history : List (Event Input)

def System.Initial (s : System Input Output) : Prop :=
  s.approvals = newApprovalStore ∧ s.calls = (fun _ => .idle) ∧ s.history = []

def System.setCall (s : System Input Output) (call : Nat) (state : CallState Input Output) :
    System Input Output :=
  { s with calls := fun other => if other = call then state else s.calls other }

def System.record (s : System Input Output) (event : Event Input) : System Input Output :=
  { s with history := event :: s.history }

def Event.createdID? : Event Input → Option String
  | .created _ _ approval => some approval.id
  | _ => none

def Event.mintedToken? : Event Input → Option String
  | .confirmed _ grant _ => some grant.token
  | _ => none

inductive Action (Input Output : Type) where
  | begin (call : Nat) (request : ExecuteRequest) (profile : EvaluationProfile)
      (found : Option (Definition Input))
  | verify (call : Nat) (cleanupAt checkAt : Instant)
  | evaluate (call : Nat) (config : Config)
  | refuse (call : Nat)
  | create (call : Nat) (now : Instant) (newID : String)
  | run (call : Nat) (outcome : Except ToolError Output)
  | audit (call : Nat) (stored : Bool)
  | confirm (id : String) (cleanupAt checkAt mintAt : Instant) (newToken : String)

/-- One step. Clock readings never go back, and minted ids and tokens are new. -/
def step (lib : TextLibrary) (intentHash : ExecutionIntent Input → Except String String)
    (s : System Input Output) : Action Input Output → Option (System Input Output)
  | .begin call request profile found =>
    match s.calls call with
    | .idle =>
      match planExecution intentHash found request profile with
      | .error response => some (s.setCall call (.finished response))
      | .ok planned => some (s.setCall call (.planned planned))
    | _ => none
  | .verify call cleanupAt checkAt =>
    match s.calls call with
    | .planned planned =>
      if s.clock ≤ cleanupAt ∧ cleanupAt ≤ checkAt then
        match s.approvals.verify planned.approvalToken planned.intentKey cleanupAt checkAt with
        | (result, approvals) =>
          some (({ s with approvals := approvals, clock := checkAt }.setCall call
            (.verified planned result)).record (.verified call planned result checkAt))
      else none
    | _ => none
  | .evaluate call config =>
    match s.calls call with
    | .verified planned result =>
      let prepared := planned.prepare lib result config
      some ((s.setCall call (.prepared prepared)).record (.prepared call config prepared))
    | _ => none
  | .refuse call =>
    match s.calls call with
    | .prepared prepared =>
      match prepared.branch with
      | .mismatch =>
        some (s.setCall call (.answered prepared false mismatchText
          (prepared.errorResponse .approvalMismatch mismatchText)))
      | .deny =>
        some (s.setCall call (.answered prepared false prepared.decision.reason.text
          (prepared.errorResponse .policyDenied prepared.decision.reason.text)))
      | _ => none
    | _ => none
  | .create call now newID =>
    match s.calls call with
    | .prepared prepared =>
      if prepared.branch = .confirm ∧ s.clock ≤ now ∧
          newID ∉ s.history.filterMap Event.createdID? then
        match s.approvals.create prepared.definition.name prepared.plan.summary
            prepared.decision.effectiveApprovalTier prepared.intentKey now newID with
        | (approval, approvals) =>
          some (({ s with approvals := approvals, clock := now }.setCall call
            (.answered prepared false prepared.decision.reason.text
              (prepared.confirmationResponse approval))).record
                (.created call prepared approval))
      else none
    | _ => none
  | .run call outcome =>
    match s.calls call with
    | .prepared prepared =>
      if prepared.branch = .run then
        some ((s.setCall call (.answered prepared outcome.isOk (outcomeAuditText outcome)
          (prepared.outcomeResponse outcome))).record (.ran call prepared))
      else none
    | _ => none
  | .audit call stored =>
    match s.calls call with
    | .answered prepared success errorText response =>
      some ((s.setCall call (.finished response)).record
        (.audited call (prepared.auditEvent success errorText) stored))
    | _ => none
  | .confirm id cleanupAt checkAt mintAt newToken =>
    if s.clock ≤ cleanupAt ∧ cleanupAt ≤ checkAt ∧ checkAt ≤ mintAt ∧ newToken ≠ "" ∧
        newToken ∉ s.history.filterMap Event.mintedToken? then
      match s.approvals.confirm id cleanupAt checkAt mintAt newToken with
      | (.ok grant, approvals) =>
        some ({ s with approvals := approvals, clock := mintAt }.record
          (.confirmed id grant checkAt))
      | (.error _, approvals) => some { s with approvals := approvals, clock := mintAt }
    else none

end

end RuneTerminal.ToolRuntime
