import Mathlib.Data.List.Destutter
import RuneTerminal.Go.Filepath

/-! The data of `core/policy/types.go`, and the matchers and the five stages of `core/policy`.
String types become enumerations with a case for every other string; times and notes of rules are
left out. -/

namespace RuneTerminal.Policy

open Go
open Go.Strings (hasPrefix contains TextLibrary)

inductive Scope where
  | global
  | workspace
  | repo
  | other (raw : String)
  deriving DecidableEq

inductive MatcherType where
  | exact
  | glob
  | regex
  | structured
  | other (raw : String)
  deriving DecidableEq

/-- The unset tier of an overlay is `other ""`. -/
inductive ApprovalTier where
  | safe
  | moderate
  | dangerous
  | destructive
  | other (raw : String)
  deriving DecidableEq

/-- The mode of a decision without a matching rule is `other ""`. -/
inductive IgnoreMode where
  | deny
  | metadataOnly
  | redact
  | other (raw : String)
  deriving DecidableEq

inductive SubjectType where
  | tool
  | command
  | path
  | other (raw : String)
  deriving DecidableEq

structure StructuredMatcher where
  toolNames : List String := []
  widgetIDs : List String := []
  summaryContains : List String := []
  deriving DecidableEq

structure CapabilityOverlay where
  additions : List String := []
  removals : List String := []

structure ApprovalOverlay where
  escalateBy : Int := 0
  minimumMutationTier : ApprovalTier := .other ""

structure EvaluationProfile where
  promptProfileID : String := ""
  roleID : String := ""
  modeID : String := ""
  securityPosture : String := ""
  capabilityOverlay : CapabilityOverlay := {}
  approvalOverlay : ApprovalOverlay := {}
  disableTrustedAutoApprove : Bool := false

structure TrustedRule where
  id : String
  scope : Scope
  scopeRef : String := ""
  subjectType : SubjectType
  matcherType : MatcherType
  matcher : String := ""
  structured : Option StructuredMatcher := none
  enabled : Bool
  deriving DecidableEq

structure IgnoreRule where
  id : String
  scope : Scope
  scopeRef : String := ""
  matcherType : MatcherType
  pattern : String
  mode : IgnoreMode
  enabled : Bool
  deriving DecidableEq

structure Config where
  version : String := "v1alpha1"
  allowedRoots : List String := []
  defaultCapabilities : List String := []
  trustedRules : List TrustedRule := []
  ignoreRules : List IgnoreRule := []
  deriving DecidableEq

structure Context where
  toolName : String := ""
  summary : String := ""
  workspaceID : String := ""
  repoRoot : String := ""
  affectedPaths : List String := []
  affectedWidgets : List String := []
  requiredCapabilities : List String := []
  approvalTier : ApprovalTier
  mutating : Bool := false
  requiresAllowedRoots : Bool := false
  checksIgnoreRules : Bool := false
  hasApproval : Bool := false
  evaluationProfile : EvaluationProfile := {}

/-- The reasons that the stages give; `none` is the empty string. -/
inductive Reason where
  | none
  | capabilityDenied
  | allowedRootConfirmationRequired
  | ignoreRuleConfirmationRequired
  | approvalRequired
  deriving DecidableEq

def Reason.text : Reason → String
  | .none => ""
  | .capabilityDenied => "capability_denied"
  | .allowedRootConfirmationRequired => "allowed_root_confirmation_required"
  | .ignoreRuleConfirmationRequired => "ignore_rule_confirmation_required"
  | .approvalRequired => "approval_required"

structure Decision where
  allowed : Bool := false
  requiresConfirmation : Bool := false
  autoApproved : Bool := false
  reason : Reason := .none
  missingCapabilities : List String := []
  effectiveCapabilities : List String := []
  effectiveApprovalTier : ApprovalTier := .other ""
  promptProfileID : String := ""
  roleID : String := ""
  modeID : String := ""
  securityPosture : String := ""
  matchedTrustedRuleID : String := ""
  matchedIgnoreRuleID : String := ""
  ignoreMode : IgnoreMode := .other ""
  allowedRoots : List String := []

def defaultIgnoreSpecs : List (String × IgnoreMode) :=
  [ (".env", .metadataOnly),
    (".env.*", .metadataOnly),
    ("secrets.*", .metadataOnly),
    ("*.pem", .deny),
    ("*.key", .deny),
    ("*.p12", .deny),
    ("id_rsa", .deny),
    ("id_ed25519", .deny) ]

/-- `defaultIgnoreRules`, with the ids that `ids.New` mints as an argument. -/
def defaultIgnoreRules (newIDs : List String) : List IgnoreRule :=
  List.zipWith (fun id (pattern, mode) =>
    { id := id, scope := .global, matcherType := .glob, pattern := pattern, mode := mode,
      enabled := true }) newIDs defaultIgnoreSpecs

/-- The configuration that `NewStore` starts with, given the ids of its ignore rules. -/
def defaultConfig (repoRoot : String) (newIDs : List String) : Config where
  allowedRoots := [Filepath.clean repoRoot]
  defaultCapabilities :=
    [ "connections:read",
      "connections:write",
      "workspace:read",
      "widget:focus",
      "terminal:read",
      "terminal:input",
      "policy:read",
      "policy:write",
      "audit:read" ]
  ignoreRules := defaultIgnoreRules newIDs

def scopeMatches (scope : Scope) (scopeRef : String) (ctx : Context) : Bool :=
  match scope with
  | .global => true
  | .workspace => scopeRef ≠ "" && scopeRef == ctx.workspaceID
  | .repo => scopeRef ≠ "" && Filepath.clean scopeRef == Filepath.clean ctx.repoRoot
  | .other _ => false

def matchStructured (lib : TextLibrary) (matcher : Option StructuredMatcher) (ctx : Context) :
    Bool :=
  match matcher with
  | none => false
  | some matcher =>
    if !matcher.toolNames.isEmpty && !matcher.toolNames.contains ctx.toolName then false
    else if !matcher.widgetIDs.isEmpty &&
        !ctx.affectedWidgets.any matcher.widgetIDs.contains then false
    else matcher.summaryContains.all fun token =>
      contains (lib.toLower ctx.summary) (lib.toLower token)

def matchString (lib : TextLibrary) (matcherType : MatcherType) (matcher value : String) : Bool :=
  match matcherType with
  | .exact => matcher == value
  | .glob => Filepath.matchName matcher value
  | .regex => lib.matchRegexp matcher value
  | .structured => false
  | .other _ => false

def ignoreRuleApplies (lib : TextLibrary) (rule : IgnoreRule) (ctx : Context) : Bool :=
  if !rule.enabled || !scopeMatches rule.scope rule.scopeRef ctx then false
  else ctx.affectedPaths.any fun path =>
    matchString lib rule.matcherType rule.pattern (Filepath.base path) ||
      matchString lib rule.matcherType rule.pattern path

def trustedRuleApplies (lib : TextLibrary) (rule : TrustedRule) (ctx : Context) : Bool :=
  if !rule.enabled || !scopeMatches rule.scope rule.scopeRef ctx then false
  else if rule.matcherType = .structured then matchStructured lib rule.structured ctx
  else
    match rule.subjectType with
    | .tool => matchString lib rule.matcherType rule.matcher ctx.toolName
    | .command => matchString lib rule.matcherType rule.matcher ctx.summary
    | .path => ctx.affectedPaths.any (matchString lib rule.matcherType rule.matcher)
    | .other _ => false

def normalizeRoots (roots : List String) : List String :=
  ((roots.map Filepath.clean).filter fun root => root ≠ "." && root ≠ "").destutter (· ≠ ·)

def pathAllowed (path : String) (roots : List String) : Bool :=
  roots.any fun root =>
    Filepath.clean path == Filepath.clean root ||
      hasPrefix (Filepath.clean path) (Filepath.clean root ++ "/")

/-- The loop with the map `seen`: the capabilities in order, each once. -/
def addUnseen (seen capabilities : List String) : List String :=
  capabilities.foldl (fun kept capability =>
    if kept.contains capability then kept else kept ++ [capability]) seen

def effectiveCapabilities (base : List String) (overlay : CapabilityOverlay) : List String :=
  let capabilities := addUnseen (addUnseen [] base) overlay.additions
  if overlay.removals.isEmpty then capabilities
  else capabilities.filter fun capability => !overlay.removals.contains capability

def approvalTierRank : ApprovalTier → Nat
  | .moderate => 1
  | .dangerous => 2
  | .destructive => 3
  | _ => 0

def maxTier (current next : ApprovalTier) : ApprovalTier :=
  if approvalTierRank next > approvalTierRank current then next else current

def escalateTier : ApprovalTier → ApprovalTier
  | .safe => .moderate
  | .moderate => .dangerous
  | .dangerous => .destructive
  | _ => .destructive

def effectiveApprovalTier (base : ApprovalTier) (overlay : ApprovalOverlay) (mutating : Bool) :
    ApprovalTier :=
  let tier :=
    if mutating && overlay.minimumMutationTier ≠ .other "" then
      maxTier base overlay.minimumMutationTier
    else base
  escalateTier^[overlay.escalateBy.toNat] tier

structure EvaluationPipeline where
  cfg : Config
  ctx : Context
  decision : Decision

abbrev StageFn := EvaluationPipeline → Bool × EvaluationPipeline

def newPipeline (cfg : Config) (ctx : Context) : EvaluationPipeline where
  cfg := cfg
  ctx := ctx
  decision :=
    { allowed := true
      allowedRoots := normalizeRoots cfg.allowedRoots
      promptProfileID := ctx.evaluationProfile.promptProfileID
      roleID := ctx.evaluationProfile.roleID
      modeID := ctx.evaluationProfile.modeID
      securityPosture := ctx.evaluationProfile.securityPosture
      effectiveCapabilities :=
        effectiveCapabilities cfg.defaultCapabilities ctx.evaluationProfile.capabilityOverlay
      effectiveApprovalTier :=
        effectiveApprovalTier ctx.approvalTier ctx.evaluationProfile.approvalOverlay
          ctx.mutating }

def EvaluationPipeline.confirm (p : EvaluationPipeline) (reason : Reason) : EvaluationPipeline :=
  { p with
    decision :=
      { p.decision with allowed := false, requiresConfirmation := true, reason := reason } }

def capabilityStage : StageFn := fun p =>
  let missing := p.decision.missingCapabilities ++ p.ctx.requiredCapabilities.filter
    fun capability => !p.decision.effectiveCapabilities.contains capability
  let decision := { p.decision with missingCapabilities := missing }
  if missing.isEmpty then (false, { p with decision := decision })
  else
    (true, { p with
      decision := { decision with allowed := false, reason := .capabilityDenied } })

def allowedRootsStage : StageFn := fun p =>
  if !p.ctx.requiresAllowedRoots || p.ctx.affectedPaths.isEmpty then (false, p)
  else if p.ctx.affectedPaths.all fun target =>
      pathAllowed target p.decision.allowedRoots || p.ctx.hasApproval then (false, p)
  else (true, p.confirm .allowedRootConfirmationRequired)

def ignoreRulesStage (lib : TextLibrary) : StageFn := fun p =>
  if !p.ctx.checksIgnoreRules then (false, p)
  else
    match p.cfg.ignoreRules.find? (ignoreRuleApplies lib · p.ctx) with
    | none => (false, p)
    | some rule =>
      let matched :=
        { p with
          decision :=
            { p.decision with matchedIgnoreRuleID := rule.id, ignoreMode := rule.mode } }
      if rule.mode = .deny ∧ p.ctx.hasApproval = false then
        (true, matched.confirm .ignoreRuleConfirmationRequired)
      else (false, matched)

def trustedRulesStage (lib : TextLibrary) : StageFn := fun p =>
  match p.cfg.trustedRules.find? (trustedRuleApplies lib · p.ctx) with
  | none => (false, p)
  | some rule =>
    let autoApproves := !p.ctx.evaluationProfile.disableTrustedAutoApprove &&
      p.decision.effectiveApprovalTier ≠ .destructive
    (false, { p with
      decision :=
        { p.decision with
          matchedTrustedRuleID := rule.id
          autoApproved := if autoApproves then true else p.decision.autoApproved } })

def approvalStage : StageFn := fun p =>
  match p.decision.effectiveApprovalTier with
  | .dangerous | .destructive =>
    if p.ctx.hasApproval || p.decision.autoApproved then (false, p)
    else (true, p.confirm .approvalRequired)
  | _ => (false, p)

def stages (lib : TextLibrary) : List StageFn :=
  [capabilityStage, allowedRootsStage, ignoreRulesStage lib, trustedRulesStage lib, approvalStage]

/-- The loop of `run`: the stages in order until one stops. -/
def runStages : List StageFn → EvaluationPipeline → EvaluationPipeline
  | [], p => p
  | stage :: rest, p =>
    match stage p with
    | (true, next) => next
    | (false, next) => runStages rest next

def evaluate (lib : TextLibrary) (cfg : Config) (ctx : Context) : Decision :=
  (runStages (stages lib) (newPipeline cfg ctx)).decision

end RuneTerminal.Policy
