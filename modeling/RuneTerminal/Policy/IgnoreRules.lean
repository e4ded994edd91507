import RuneTerminal.Policy.Soundness

/-! `ignoreRulesStage` takes the first ignore rule that applies, whatever its mode is, so a deny
rule further down may not be looked at. -/

namespace RuneTerminal.Policy

open Go
open Go.Strings (TextLibrary)
open List

section

variable (lib : TextLibrary) (cfg : Config) (ctx : Context)

/-- An enabled deny rule in scope matches one of the affected paths, by its last
component or as a whole. -/
def DenyRuleMatches : Prop :=
  ∃ rule ∈ cfg.ignoreRules, rule.enabled = true ∧
    scopeMatches rule.scope rule.scopeRef ctx = true ∧ rule.mode = .deny ∧
    ∃ path ∈ ctx.affectedPaths,
      matchString lib rule.matcherType rule.pattern (Filepath.base path) = true ∨
        matchString lib rule.matcherType rule.pattern path = true

def DenyRulesHold : Prop :=
  DenyRuleMatches lib cfg ctx → (evaluate lib cfg ctx).allowed = false

/-- The first rule that applies has another mode, and a deny rule that applies
stands behind it. -/
def DenyRuleShadowed : Prop :=
  ∃ first, cfg.ignoreRules.find? (ignoreRuleApplies lib · ctx) = some first ∧
    first.mode ≠ .deny ∧ DenyRuleMatches lib cfg ctx

def RefusedElsewhere : Prop :=
  MissesCapability cfg ctx ∨ OutsideRoots cfg ctx ∨ AwaitsApproval lib cfg ctx

theorem ignore_rule_applies_iff {rule : IgnoreRule} : ignoreRuleApplies lib rule ctx = true ↔
    rule.enabled = true ∧ scopeMatches rule.scope rule.scopeRef ctx = true ∧
    ∃ path ∈ ctx.affectedPaths, matchString lib rule.matcherType rule.pattern (Filepath.base path) =
    true ∨ matchString lib rule.matcherType rule.pattern path = true := by
  unfold ignoreRuleApplies
  split_ifs with unusable
  · refine ⟨nofun, ?_⟩
    rintro ⟨enabled, inScope, _⟩
    simp [enabled, inScope] at unusable
  rw [Bool.or_eq_true, not_or] at unusable
  have enabled : rule.enabled = true := by simpa using unusable.1
  have inScope : scopeMatches rule.scope rule.scopeRef ctx = true := by simpa using unusable.2
  simp only [any_eq_true, Bool.or_eq_true, enabled, inScope, true_and]

variable {lib cfg ctx}

theorem denied_first_or_shadowed (matched : DenyRuleMatches lib cfg ctx) :
    DeniedFirst lib cfg ctx ∨ DenyRuleShadowed lib cfg ctx := by
  obtain ⟨rule, mem, enabled, inScope, _, path, affected, hit⟩ := id matched
  have applies : ignoreRuleApplies lib rule ctx = true :=
    (ignore_rule_applies_iff lib ctx).mpr ⟨enabled, inScope, path, affected, hit⟩
  cases found : cfg.ignoreRules.find? (ignoreRuleApplies lib · ctx) with
  | none =>
    rw [find?_eq_none] at found
    exact absurd applies (found rule mem)
  | some first =>
    by_cases deny : first.mode = .deny
    · exact .inl ⟨first, found, deny⟩
    · exact .inr ⟨first, found, deny, matched⟩

theorem not_denied_first_of_shadowed (shadowed : DenyRuleShadowed lib cfg ctx) :
    ¬DeniedFirst lib cfg ctx := by
  obtain ⟨first, found, notDeny, _⟩ := shadowed
  rintro ⟨other, sameFound, deny⟩
  rw [found] at sameFound
  cases sameFound
  exact notDeny deny

section

variable (lib cfg ctx)

theorem capability_stage_keeps (p : EvaluationPipeline) :
    (capabilityStage p).2.decision.ignoreMode = p.decision.ignoreMode ∧
      (capabilityStage p).2.decision.autoApproved = p.decision.autoApproved := by
  unfold capabilityStage
  dsimp only
  split <;> exact ⟨rfl, rfl⟩

theorem allowed_roots_stage_keeps (p : EvaluationPipeline) :
    (allowedRootsStage p).2.decision.ignoreMode = p.decision.ignoreMode ∧
      (allowedRootsStage p).2.decision.autoApproved = p.decision.autoApproved := by
  unfold allowedRootsStage
  split
  · exact ⟨rfl, rfl⟩
  · split <;> exact ⟨rfl, rfl⟩

theorem ignore_rules_stage_ignore_mode {p : EvaluationPipeline}
    (checks : p.ctx.checksIgnoreRules = true) :
    (ignoreRulesStage lib p).2.decision.ignoreMode =
      ((p.cfg.ignoreRules.find? (ignoreRuleApplies lib · p.ctx)).map IgnoreRule.mode).getD
        p.decision.ignoreMode := by
  unfold ignoreRulesStage
  simp only [checks, Bool.not_true, Bool.false_eq_true, if_false]
  cases p.cfg.ignoreRules.find? (ignoreRuleApplies lib · p.ctx) with
  | none => rfl
  | some rule =>
    dsimp only
    split <;> rfl

theorem trusted_rules_stage_ignore_mode (p : EvaluationPipeline) :
    (trustedRulesStage lib p).2.decision.ignoreMode = p.decision.ignoreMode := by
  unfold trustedRulesStage
  split <;> rfl

theorem approval_run_keeps (p : EvaluationPipeline) :
    (runStages [approvalStage] p).decision.ignoreMode = p.decision.ignoreMode ∧
      (runStages [approvalStage] p).decision.autoApproved = p.decision.autoApproved := by
  have stage : (approvalStage p).2.decision.ignoreMode = p.decision.ignoreMode ∧
      (approvalStage p).2.decision.autoApproved = p.decision.autoApproved := by
    unfold approvalStage
    split
    · split <;> exact ⟨rfl, rfl⟩
    · split <;> exact ⟨rfl, rfl⟩
    · exact ⟨rfl, rfl⟩
  cases stops : (approvalStage p).1 with
  | true => rwa [stage_stops stops]
  | false => rwa [stage_continues stops]

theorem evaluate_ignore_mode (checks : ctx.checksIgnoreRules = true)
    (allowed : (evaluate lib cfg ctx).allowed = true) :
    (evaluate lib cfg ctx).ignoreMode =
      ((cfg.ignoreRules.find? (ignoreRuleApplies lib · ctx)).map IgnoreRule.mode).getD
        (.other "") := by
  have unset : (newPipeline cfg ctx).decision.ignoreMode = .other "" := rfl
  unfold evaluate stages at allowed ⊢
  rcases capability_stage_spec (new_pipeline_undecided cfg ctx) with
    ⟨_, stops, denied, _⟩ | ⟨_, continues, undecided⟩
  · rw [stage_stops stops, denied] at allowed
    cases allowed
  rw [stage_continues continues] at allowed ⊢
  rcases allowed_roots_stage_spec undecided with
    ⟨_, stops, denied, _⟩ | ⟨_, continues, undecided⟩
  · rw [stage_stops stops, denied] at allowed
    cases allowed
  rw [stage_continues continues] at allowed ⊢
  have before := undecided
  rcases ignore_rules_stage_spec lib undecided with
    ⟨_, stops, denied, _⟩ | ⟨_, continues, undecided⟩
  · rw [stage_stops stops, denied] at allowed
    cases allowed
  rw [stage_continues continues] at allowed ⊢
  rw [stage_continues (trusted_rules_stage_spec lib undecided).1]
  rw [(approval_run_keeps _).1, trusted_rules_stage_ignore_mode, ignore_rules_stage_ignore_mode,
    before.ctxEq, before.cfgEq, (allowed_roots_stage_keeps _).1, (capability_stage_keeps _).1,
      unset]
  rw [before.ctxEq]
  exact checks

end

end

/-- Deny rules do their work exactly when none is shadowed, apart from
operations that are refused anyway. -/
theorem deny_rules_hold_iff (lib : TextLibrary) (cfg : Config) (ctx : Context)
    (checks : ctx.checksIgnoreRules = true) (noApproval : ctx.hasApproval = false) :
    DenyRulesHold lib cfg ctx ↔ ¬DenyRuleShadowed lib cfg ctx ∨ RefusedElsewhere lib cfg ctx := by
  have refused : (evaluate lib cfg ctx).allowed = false ↔
      DeniedFirst lib cfg ctx ∨ RefusedElsewhere lib cfg ctx := by
    rw [← Bool.not_eq_true, evaluate_allowed_iff]
    unfold AsksConfirmation RefusedElsewhere
    tauto
  constructor
  · intro holds
    by_cases shadowed : DenyRuleShadowed lib cfg ctx
    · obtain ⟨_, _, _, matched⟩ := id shadowed
      rcases refused.mp (holds matched) with first | elsewhere
      · exact absurd first (not_denied_first_of_shadowed shadowed)
      · exact .inr elsewhere
    · exact .inl shadowed
  · rintro (notShadowed | elsewhere) matched
    · rcases denied_first_or_shadowed matched with first | shadowed
      · exact refused.mpr (.inl first)
      · exact absurd shadowed notShadowed
    · exact refused.mpr (.inr elsewhere)

def freshConfig : Config :=
  defaultConfig "/workspace/repo"
    [ "ignore-1", "ignore-2", "ignore-3", "ignore-4", "ignore-5", "ignore-6", "ignore-7",
      "ignore-8" ]

def readFiles (paths : List String) : Context where
  toolName := "files.read"
  repoRoot := "/workspace/repo"
  affectedPaths := paths
  requiredCapabilities := ["workspace:read"]
  approvalTier := .safe
  checksIgnoreRules := true

/-- On a private key alone no rule is shadowed, and the read is refused. -/
theorem deny_rules_hold_for_private_key :
    DenyRulesHold plainText freshConfig (readFiles ["/workspace/repo/keys/server.pem"]) := by
  apply (deny_rules_hold_iff plainText freshConfig
    (readFiles ["/workspace/repo/keys/server.pem"]) rfl rfl).mpr
  left
  rintro ⟨first, found, notDeny, _⟩
  cases found
  exact notDeny rfl

/-- Listed together with an environment file, the private key is read. -/
theorem private_key_beside_env_file_allowed : ¬∀ (lib : TextLibrary) (cfg : Config) (ctx : Context),
    ctx.checksIgnoreRules = true → ctx.hasApproval = false → DenyRulesHold lib cfg ctx := by
  intro complete
  have refused := complete plainText freshConfig
    (readFiles ["/workspace/repo/.env", "/workspace/repo/keys/server.pem"]) rfl rfl
    ⟨{ id := "ignore-4", scope := .global, matcherType := .glob, pattern := "*.pem",
       mode := .deny, enabled := true }, by decide, rfl, rfl, rfl,
      "/workspace/repo/keys/server.pem", by decide, .inl (by decide)⟩
  cases refused

section

variable (lib : TextLibrary) (cfg : Config) (ctx : Context)

def ReachesTrustedRules : Prop :=
  ¬MissesCapability cfg ctx ∧ ¬OutsideRoots cfg ctx ∧
    ¬(ctx.checksIgnoreRules = true ∧ ctx.hasApproval = false ∧ DeniedFirst lib cfg ctx)

theorem ignore_rules_stage_auto_approved (p : EvaluationPipeline) :
    (ignoreRulesStage lib p).2.decision.autoApproved = p.decision.autoApproved := by
  unfold ignoreRulesStage
  split
  · rfl
  · split
    · rfl
    · split <;> rfl

theorem evaluate_auto_approved_iff :
    (evaluate lib cfg ctx).autoApproved = true ↔ ReachesTrustedRules lib cfg ctx ∧
    TrustedAutomatically lib cfg ctx ∧ tierOf ctx ≠ .destructive := by
  have notYet : (newPipeline cfg ctx).decision.autoApproved = false := rfl
  unfold evaluate stages ReachesTrustedRules
  rcases capability_stage_spec (new_pipeline_undecided cfg ctx) with
    ⟨misses, stops, _⟩ | ⟨noneMissing, continues, undecided⟩
  · rw [stage_stops stops, (capability_stage_keeps _).2, notYet]
    simp [misses]
  rw [stage_continues continues]
  rcases allowed_roots_stage_spec undecided with
    ⟨outside, stops, _⟩ | ⟨inside, continues, undecided⟩
  · rw [stage_stops stops, (allowed_roots_stage_keeps _).2, (capability_stage_keeps _).2, notYet]
    simp [outside]
  rw [stage_continues continues]
  rcases ignore_rules_stage_spec lib undecided with
    ⟨denied, stops, _⟩ | ⟨notDenied, continues, undecided⟩
  · rw [stage_stops stops, ignore_rules_stage_auto_approved, (allowed_roots_stage_keeps _).2,
      (capability_stage_keeps _).2, notYet]
    simp [denied]
  rw [stage_continues continues]
  obtain ⟨continues, undecided⟩ := trusted_rules_stage_spec lib undecided
  rw [stage_continues continues]
  rw [(approval_run_keeps _).2, undecided.autoApproved]
  simp only [noneMissing, inside, notDenied, not_false_eq_true, true_and]

end

section

variable (lib : TextLibrary) (cfg : Config) (ctx : Context)

def StopsAtPathRule (rule : TrustedRule) : Prop :=
  cfg.trustedRules.find? (trustedRuleApplies lib · ctx) = some rule ∧
    rule.subjectType = .path ∧ rule.matcherType ≠ .structured

def PathTrusted (path : String) : Prop :=
  ∃ rule ∈ cfg.trustedRules, rule.enabled = true ∧
    scopeMatches rule.scope rule.scopeRef ctx = true ∧ rule.subjectType = .path ∧
    matchString lib rule.matcherType rule.matcher path = true

/-- What is approved because of a rule about paths touches trusted paths only. -/
def PathTrustConfined : Prop :=
  (evaluate lib cfg ctx).autoApproved = true → (∃ rule, StopsAtPathRule lib cfg ctx rule) →
    ∀ path ∈ ctx.affectedPaths, PathTrusted lib cfg ctx path

/-- Nothing stops the operation before a rule about paths approves it, and it
touches a path that no such rule matches. -/
def PathTrustSpreads : Prop :=
  ReachesTrustedRules lib cfg ctx ∧ ctx.evaluationProfile.disableTrustedAutoApprove = false ∧
    tierOf ctx ≠ .destructive ∧ (∃ rule, StopsAtPathRule lib cfg ctx rule) ∧
    ∃ path ∈ ctx.affectedPaths, ¬PathTrusted lib cfg ctx path

variable {lib cfg ctx}

theorem StopsAtPathRule.applies {rule : TrustedRule} (stops : StopsAtPathRule lib cfg ctx rule) :
    rule ∈ cfg.trustedRules ∧ trustedRuleApplies lib rule ctx = true :=
  ⟨mem_of_find?_eq_some stops.1, by simpa using find?_some stops.1⟩

end

/-- Trust in paths is confined exactly to where it does not spread. -/
theorem path_trust_confined_iff (lib : TextLibrary) (cfg : Config) (ctx : Context) :
    PathTrustConfined lib cfg ctx ↔ ¬PathTrustSpreads lib cfg ctx := by
  unfold PathTrustConfined PathTrustSpreads
  rw [evaluate_auto_approved_iff]
  constructor
  · rintro confined ⟨reaches, enabled, notDestructive, ⟨rule, stops⟩, path, mem, untrusted⟩
    have trusted : TrustedAutomatically lib cfg ctx := ⟨⟨rule, stops.applies⟩, enabled⟩
    exact untrusted (confined ⟨reaches, trusted, notDestructive⟩ ⟨rule, stops⟩ path mem)
  · rintro notSpreads ⟨reaches, trusted, notDestructive⟩ stops path mem
    by_contra untrusted
    exact notSpreads ⟨reaches, trusted.2, notDestructive, stops, path, mem, untrusted⟩

def trustedNotes : Config :=
  { defaultConfig "/workspace/repo" [] with
    trustedRules :=
      [ { id := "trusted-notes", scope := .repo, scopeRef := "/workspace/repo",
          subjectType := .path, matcherType := .glob, matcher := "/workspace/repo/notes/*",
          enabled := true } ] }

def writeFiles (paths : List String) : Context where
  toolName := "files.write"
  repoRoot := "/workspace/repo"
  affectedPaths := paths
  requiredCapabilities := ["terminal:input"]
  approvalTier := .dangerous
  mutating := true
  requiresAllowedRoots := true

/-- Listed beside a trusted file, a file of another directory is written without approval. -/
theorem trusted_notes_approve_deploy_script : ¬∀ (lib : TextLibrary) (cfg : Config) (ctx : Context),
    tierOf ctx = .dangerous → ctx.hasApproval = false → PathTrustConfined lib cfg ctx := by
  intro confined
  have stops : StopsAtPathRule plainText trustedNotes
      (writeFiles ["/workspace/repo/notes/a.md", "/workspace/repo/deploy.sh"])
      { id := "trusted-notes", scope := .repo, scopeRef := "/workspace/repo",
        subjectType := .path, matcherType := .glob, matcher := "/workspace/repo/notes/*",
        enabled := true } := ⟨by decide, rfl, by decide⟩
  have trusted := confined plainText trustedNotes
    (writeFiles ["/workspace/repo/notes/a.md", "/workspace/repo/deploy.sh"]) (by decide) rfl
    (by decide) ⟨_, stops⟩ "/workspace/repo/deploy.sh" (by decide)
  obtain ⟨rule, mem, _, _, _, matched⟩ := trusted
  obtain rfl := mem_singleton.mp mem
  revert matched
  decide

end RuneTerminal.Policy
