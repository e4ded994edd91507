import RuneTerminal.Policy.Evaluate

/-! Each stage is described once: when it stops the evaluation, and what it leaves to the next stage
otherwise. The verdict of the whole pipeline is read off these descriptions. -/

namespace RuneTerminal.Policy

open Go
open Go.Filepath (cleanComponents isRooted)
open Go.Strings (hasPrefix contains TextLibrary)
open List Filepath String

def Granted (cfg : Config) (ctx : Context) (capability : String) : Prop :=
  (capability ∈ cfg.defaultCapabilities ∨
      capability ∈ ctx.evaluationProfile.capabilityOverlay.additions) ∧
    capability ∉ ctx.evaluationProfile.capabilityOverlay.removals

def LiesUnder (path root : String) : Prop :=
  Filepath.clean path = Filepath.clean root ∨
    ∃ below, Filepath.clean path = Filepath.clean root ++ "/" ++ below

def tierOf (ctx : Context) : ApprovalTier :=
  effectiveApprovalTier ctx.approvalTier ctx.evaluationProfile.approvalOverlay ctx.mutating

def MissesCapability (cfg : Config) (ctx : Context) : Prop :=
  ∃ capability ∈ ctx.requiredCapabilities, ¬Granted cfg ctx capability

def OutsideRoots (cfg : Config) (ctx : Context) : Prop :=
  ctx.requiresAllowedRoots = true ∧ ctx.hasApproval = false ∧
    ∃ path ∈ ctx.affectedPaths, pathAllowed path (normalizeRoots cfg.allowedRoots) = false

def DeniedFirst (lib : TextLibrary) (cfg : Config) (ctx : Context) : Prop :=
  ∃ rule, cfg.ignoreRules.find? (ignoreRuleApplies lib · ctx) = some rule ∧ rule.mode = .deny

def TrustedAutomatically (lib : TextLibrary) (cfg : Config) (ctx : Context) : Prop :=
  (∃ rule ∈ cfg.trustedRules, trustedRuleApplies lib rule ctx = true) ∧
    ctx.evaluationProfile.disableTrustedAutoApprove = false

def AwaitsApproval (lib : TextLibrary) (cfg : Config) (ctx : Context) : Prop :=
  ctx.hasApproval = false ∧
    (tierOf ctx = .destructive ∨ tierOf ctx = .dangerous ∧ ¬TrustedAutomatically lib cfg ctx)

variable {capability path : String}

theorem mem_add_unseen {seen capabilities : List String} :
    capability ∈ addUnseen seen capabilities ↔ capability ∈ seen ∨ capability ∈ capabilities := by
  unfold addUnseen
  induction capabilities generalizing seen with
  | nil => simp
  | cons first rest ih =>
    rw [foldl_cons, ih, mem_cons]
    split_ifs with known
    · rw [contains_iff_mem] at known
      constructor
      · rintro (old | later)
        · exact .inl old
        · exact .inr (.inr later)
      rintro (old | rfl | later)
      · exact .inl old
      · exact .inl known
      · exact .inr later
    · rw [mem_append, mem_singleton, or_assoc]

theorem mem_effective_capabilities {cfg : Config} {ctx : Context} :
    capability ∈
      effectiveCapabilities cfg.defaultCapabilities ctx.evaluationProfile.capabilityOverlay ↔
    Granted cfg ctx capability := by
  unfold effectiveCapabilities Granted
  split_ifs with noRemovals
  · rw [List.isEmpty_iff] at noRemovals
    simp [mem_add_unseen, noRemovals]
  · simp [mem_add_unseen]

variable {roots : List String}

theorem path_allowed_iff : pathAllowed path roots = true ↔ ∃ root ∈ roots, LiesUnder path root := by
  have prefixed : ∀ root : String, hasPrefix (clean path) root = true ↔
      ∃ below, clean path = root ++ below := by
    intro root
    unfold hasPrefix
    apply isPrefixOf_iff_prefix.trans
    constructor
    · rintro ⟨below, whole⟩
      refine ⟨ofList below, ?_⟩
      apply toList_inj.mp
      rw [← whole, toList_append, toList_ofList]
    · rintro ⟨below, whole⟩
      refine ⟨below.toList, ?_⟩
      rw [whole, toList_append]
  unfold pathAllowed LiesUnder
  simp only [any_eq_true, Bool.or_eq_true, beq_iff_eq, prefixed]

variable {root : String}

theorem lies_under_clean : LiesUnder path (Filepath.clean root) ↔ LiesUnder path root := by
  unfold LiesUnder
  rw [clean_idempotent]

theorem mem_normalize_roots (mem : root ∈ normalizeRoots roots) :
    ∃ configured ∈ roots, root = Filepath.clean configured := by
  have kept := (destutter_sublist _ _).subset mem
  obtain ⟨cleaned, _⟩ := mem_filter.mp kept
  obtain ⟨configured, configuredMember, same⟩ := mem_map.mp cleaned
  exact ⟨configured, configuredMember, same.symm⟩

variable {p : EvaluationPipeline}

section

variable (lib : TextLibrary) {cfg : Config} {ctx : Context}

/-- The pipeline while no stage has stopped; `approved` is the automatic
approval so far. -/
structure Undecided (cfg : Config) (ctx : Context) (approved : Prop) (p : EvaluationPipeline) :
    Prop where
  cfgEq : p.cfg = cfg
  ctxEq : p.ctx = ctx
  allowed : p.decision.allowed = true
  noConfirmation : p.decision.requiresConfirmation = false
  noneMissing : p.decision.missingCapabilities = []
  roots : p.decision.allowedRoots = normalizeRoots cfg.allowedRoots
  capabilities : p.decision.effectiveCapabilities =
    effectiveCapabilities cfg.defaultCapabilities ctx.evaluationProfile.capabilityOverlay
  tier : p.decision.effectiveApprovalTier = tierOf ctx
  autoApproved : p.decision.autoApproved = true ↔ approved

def Confirms (result : Bool × EvaluationPipeline) : Prop :=
  result.1 = true ∧ result.2.decision.allowed = false ∧
    result.2.decision.requiresConfirmation = true

def Continues (cfg : Config) (ctx : Context) (approved : Prop)
    (result : Bool × EvaluationPipeline) : Prop :=
  result.1 = false ∧ Undecided cfg ctx approved result.2

theorem new_pipeline_undecided (cfg : Config) (ctx : Context) :
    Undecided cfg ctx False (newPipeline cfg ctx) :=
  ⟨rfl, rfl, rfl, rfl, rfl, rfl, rfl, rfl, by simp [newPipeline]⟩

section

variable (undecided : Undecided cfg ctx False p)
include undecided

theorem capability_stage_spec : (MissesCapability cfg ctx ∧ (capabilityStage p).1 = true ∧
    (capabilityStage p).2.decision.allowed = false ∧
    (capabilityStage p).2.decision.requiresConfirmation = false) ∨
    (¬MissesCapability cfg ctx ∧ Continues cfg ctx False (capabilityStage p)) := by
  have missing : (p.decision.missingCapabilities ++ p.ctx.requiredCapabilities.filter
      fun capability => !p.decision.effectiveCapabilities.contains capability) = [] ↔
        ¬MissesCapability cfg ctx := by
    rw [undecided.noneMissing, nil_append, filter_eq_nil_iff, undecided.ctxEq,
      undecided.capabilities]
    unfold MissesCapability
    rw [not_exists]
    simp only [Bool.not_eq_true', Bool.not_eq_false, contains_iff_mem,
      mem_effective_capabilities, not_and, not_not]
  by_cases misses : MissesCapability cfg ctx
  · refine .inl ⟨misses, ?_⟩
    have nonempty := mt missing.mp (not_not.mpr misses)
    unfold capabilityStage
    rw [← List.isEmpty_iff] at nonempty
    rw [if_neg nonempty]
    exact ⟨rfl, rfl, undecided.noConfirmation⟩
  · refine .inr ⟨misses, ?_⟩
    have none := missing.mpr misses
    unfold capabilityStage
    rw [if_pos (isEmpty_iff.mpr none)]
    exact ⟨rfl, { undecided with noneMissing := none }⟩

theorem allowed_roots_stage_spec : (OutsideRoots cfg ctx ∧ Confirms (allowedRootsStage p)) ∨
    (¬OutsideRoots cfg ctx ∧ Continues cfg ctx False (allowedRootsStage p)) := by
  unfold allowedRootsStage
  rw [undecided.ctxEq, undecided.roots]
  split_ifs with unchecked accepted
  · refine .inr ⟨?_, rfl, undecided⟩
    rintro ⟨required, _, path, mem, _⟩
    rw [Bool.or_eq_true, List.isEmpty_iff] at unchecked
    rcases unchecked with notRequired | none
    · simp [required] at notRequired
    · rw [none] at mem
      cases mem
  · refine .inr ⟨?_, rfl, undecided⟩
    rintro ⟨_, noApproval, path, mem, outside⟩
    rw [all_eq_true] at accepted
    have inside := accepted path mem
    simp [outside, noApproval] at inside
  refine .inl ⟨?_, rfl, rfl, rfl⟩
  rw [Bool.or_eq_true, not_or] at unchecked
  rw [all_eq_true] at accepted
  obtain ⟨path, rejected⟩ := not_forall.mp accepted
  rw [Classical.not_imp] at rejected
  obtain ⟨mem, rejected⟩ := rejected
  have both : pathAllowed path (normalizeRoots cfg.allowedRoots) = false ∧
      ctx.hasApproval = false := by simpa using rejected
  exact ⟨by simpa using unchecked.1, both.2, path, mem, both.1⟩

theorem ignore_rules_stage_spec :
    ((ctx.checksIgnoreRules = true ∧ ctx.hasApproval = false ∧ DeniedFirst lib cfg ctx) ∧
      Confirms (ignoreRulesStage lib p)) ∨
    (¬(ctx.checksIgnoreRules = true ∧ ctx.hasApproval = false ∧ DeniedFirst lib cfg ctx) ∧
      Continues cfg ctx False (ignoreRulesStage lib p)) := by
  unfold ignoreRulesStage DeniedFirst
  rw [undecided.ctxEq, undecided.cfgEq]
  by_cases checks : ctx.checksIgnoreRules = true
  · simp only [checks, true_and]
    cases first : cfg.ignoreRules.find? (ignoreRuleApplies lib · ctx) with
    | none => exact .inr ⟨by simp, rfl, undecided⟩
    | some rule =>
      dsimp only
      by_cases denied : rule.mode = .deny ∧ ctx.hasApproval = false
      · rw [if_pos denied]
        exact .inl ⟨⟨denied.2, rule, rfl, denied.1⟩, rfl, rfl, rfl⟩
      rw [if_neg denied]
      refine .inr ⟨?_, rfl, ?_⟩
      · rintro ⟨noApproval, other, same, deny⟩
        cases same
        exact denied ⟨deny, noApproval⟩
      · exact ⟨rfl, rfl, undecided.allowed,
          undecided.noConfirmation, undecided.noneMissing, undecided.roots,
          undecided.capabilities, undecided.tier, undecided.autoApproved⟩
  · simp only [checks]
    exact .inr ⟨by simp, rfl, undecided⟩

theorem trusted_rules_stage_spec : Continues cfg ctx (TrustedAutomatically lib cfg ctx ∧
    tierOf ctx ≠ .destructive) (trustedRulesStage lib p) := by
  unfold trustedRulesStage TrustedAutomatically
  rw [undecided.ctxEq, undecided.cfgEq, undecided.tier]
  have notYet : p.decision.autoApproved = false := by simpa using undecided.autoApproved
  cases first : cfg.trustedRules.find? (trustedRuleApplies lib · ctx) with
  | none =>
    refine ⟨rfl, { undecided with autoApproved := ?_ }⟩
    rw [find?_eq_none] at first
    refine ⟨fun approved => absurd approved (by simp [notYet]), ?_⟩
    rintro ⟨⟨⟨rule, mem, applies⟩, _⟩, _⟩
    exact absurd applies (first rule mem)
  | some rule =>
    refine ⟨rfl, rfl, rfl, undecided.allowed,
      undecided.noConfirmation, undecided.noneMissing, undecided.roots,
      undecided.capabilities, undecided.tier, ?_⟩
    have applies : ∃ rule ∈ cfg.trustedRules, trustedRuleApplies lib rule ctx = true :=
      ⟨rule, mem_of_find?_eq_some first, by simpa using find?_some first⟩
    simp [notYet, applies]

end

theorem approval_stage_spec
    (undecided : Undecided cfg ctx (TrustedAutomatically lib cfg ctx ∧ tierOf ctx ≠ .destructive)
      p) :
    (AwaitsApproval lib cfg ctx ∧ Confirms (approvalStage p)) ∨
    (¬AwaitsApproval lib cfg ctx ∧ (approvalStage p).1 = false ∧
      (approvalStage p).2.decision.allowed = true ∧
      (approvalStage p).2.decision.requiresConfirmation = false) := by
  have passes := And.intro undecided.allowed undecided.noConfirmation
  unfold approvalStage AwaitsApproval
  rw [undecided.tier, undecided.ctxEq]
  cases tier : tierOf ctx with
  | safe | moderate | other => exact .inr ⟨by simp, rfl, passes⟩
  | dangerous =>
    have approved : p.decision.autoApproved = true ↔ TrustedAutomatically lib cfg ctx := by
      simpa [tier] using undecided.autoApproved
    split_ifs with cleared
    · rw [Bool.or_eq_true, approved] at cleared
      refine .inr ⟨?_, rfl, passes⟩
      rintro ⟨noApproval, destructive | ⟨_, untrusted⟩⟩
      · cases destructive
      · rcases cleared with hasApproval | trusted
        · simp [noApproval] at hasApproval
        · exact untrusted trusted
    · rw [Bool.or_eq_true, not_or, approved] at cleared
      exact .inl ⟨⟨by simpa using cleared.1, .inr ⟨rfl, cleared.2⟩⟩, rfl, rfl, rfl⟩
  | destructive =>
    have notApproved : p.decision.autoApproved = false := by
      simpa [tier] using undecided.autoApproved
    split_ifs with cleared
    · refine .inr ⟨?_, rfl, passes⟩
      rintro ⟨noApproval, _⟩
      simp [noApproval, notApproved] at cleared
    · refine .inl ⟨⟨?_, .inl rfl⟩, rfl, rfl, rfl⟩
      simpa [notApproved] using cleared

end

section

variable (lib : TextLibrary) (cfg : Config) (ctx : Context) {stage : StageFn} {rest : List StageFn}

def AsksConfirmation : Prop :=
  OutsideRoots cfg ctx ∨
    (ctx.checksIgnoreRules = true ∧ ctx.hasApproval = false ∧ DeniedFirst lib cfg ctx) ∨
    AwaitsApproval lib cfg ctx

theorem stage_stops (stops : (stage p).1 = true) : runStages (stage :: rest) p = (stage p).2 := by
  rw [runStages]
  split
  · next result => rw [result]
  · next result => simp [result] at stops

theorem stage_continues (goesOn : (stage p).1 = false) :
    runStages (stage :: rest) p = runStages rest (stage p).2 := by
  rw [runStages]
  split
  · next result => simp [result] at goesOn
  · next result => rw [result]

theorem evaluate_verdict :
    (MissesCapability cfg ctx ∧
      (evaluate lib cfg ctx).allowed = false ∧
      (evaluate lib cfg ctx).requiresConfirmation = false) ∨
    (¬MissesCapability cfg ctx ∧ AsksConfirmation lib cfg ctx ∧
      (evaluate lib cfg ctx).allowed = false ∧
      (evaluate lib cfg ctx).requiresConfirmation = true) ∨
    (¬MissesCapability cfg ctx ∧ ¬AsksConfirmation lib cfg ctx ∧
      (evaluate lib cfg ctx).allowed = true ∧
      (evaluate lib cfg ctx).requiresConfirmation = false) := by
  unfold evaluate stages AsksConfirmation
  rcases capability_stage_spec (new_pipeline_undecided cfg ctx) with
    ⟨misses, stops, denied⟩ | ⟨noneMissing, continues, undecided⟩
  · rw [stage_stops stops]
    exact .inl ⟨misses, denied⟩
  refine .inr ?_
  rw [stage_continues continues]
  rcases allowed_roots_stage_spec undecided with
    ⟨outside, stops, asked⟩ | ⟨inside, continues, undecided⟩
  · rw [stage_stops stops]
    exact .inl ⟨noneMissing, .inl outside, asked⟩
  rw [stage_continues continues]
  rcases ignore_rules_stage_spec lib undecided with
    ⟨denied, stops, asked⟩ | ⟨notDenied, continues, undecided⟩
  · rw [stage_stops stops]
    exact .inl ⟨noneMissing, .inr (.inl denied), asked⟩
  rw [stage_continues continues]
  obtain ⟨continues, undecided⟩ := trusted_rules_stage_spec lib undecided
  rw [stage_continues continues]
  rcases approval_stage_spec lib undecided with
    ⟨awaits, stops, asked⟩ | ⟨cleared, continues, passed⟩
  · rw [stage_stops stops]
    exact .inl ⟨noneMissing, .inr (.inr awaits), asked⟩
  rw [stage_continues continues]
  refine .inr ⟨noneMissing, ?_, passed⟩
  rintro (outside | denied | awaits)
  · exact inside outside
  · exact notDenied denied
  · exact cleared awaits

theorem evaluate_allowed_iff : (evaluate lib cfg ctx).allowed = true ↔ ¬MissesCapability cfg ctx ∧
    ¬AsksConfirmation lib cfg ctx := by
  rcases evaluate_verdict lib cfg ctx with
    ⟨misses, denied, _⟩ | ⟨_, asks, denied, _⟩ | ⟨noneMissing, asksNot, allowed, _⟩
  · simp [misses, denied]
  · simp [asks, denied]
  · simp [noneMissing, asksNot, allowed]

end

theorem escalate_tier_rank (tier : ApprovalTier) :
    approvalTierRank tier ≤ approvalTierRank (escalateTier tier) := by
  cases tier <;> simp [approvalTierRank, escalateTier]

theorem approval_tier_rank_le_tier_of (ctx : Context) :
    approvalTierRank ctx.approvalTier ≤ approvalTierRank (tierOf ctx) := by
  have escalated : ∀ (times : Nat) (tier : ApprovalTier),
      approvalTierRank tier ≤ approvalTierRank (escalateTier^[times] tier) := by
    intro times
    induction times with
    | zero => exact fun _ => Nat.le_refl _
    | succ times ih =>
      intro tier
      exact (escalate_tier_rank tier).trans (ih (escalateTier tier))
  refine Nat.le_trans ?_ (escalated _ _)
  split_ifs
  · unfold maxTier
    split_ifs with higher
    · exact Nat.le_of_lt higher
    · exact Nat.le_refl _
  · exact Nat.le_refl _

theorem tier_of_dangerous {ctx : Context}
    (dangerous : ctx.approvalTier = .dangerous ∨ tierOf ctx = .dangerous) :
    tierOf ctx = .dangerous ∨ tierOf ctx = .destructive := by
  rcases dangerous with declared | effective
  · have rank := approval_tier_rank_le_tier_of ctx
    rw [declared] at rank
    cases tier : tierOf ctx <;> simp [tier, approvalTierRank] at rank ⊢
  · exact .inl effective

theorem tier_of_destructive {ctx : Context}
    (destructive : ctx.approvalTier = .destructive ∨ tierOf ctx = .destructive) :
    tierOf ctx = .destructive := by
  rcases destructive with declared | effective
  · have rank := approval_tier_rank_le_tier_of ctx
    rw [declared] at rank
    cases tier : tierOf ctx <;> simp [tier, approvalTierRank] at rank ⊢
  · exact effective

/-- What an operation that is allowed has shown; tiers are meant as declared
and as the overlays leave them. -/
structure Justified (lib : TextLibrary) (cfg : Config) (ctx : Context) : Prop where
  capabilities : ∀ capability ∈ ctx.requiredCapabilities, Granted cfg ctx capability
  roots : ctx.requiresAllowedRoots = true → ctx.hasApproval = false →
    ∀ path ∈ ctx.affectedPaths, ∃ root ∈ cfg.allowedRoots, LiesUnder path root
  dangerous : ctx.approvalTier = .dangerous ∨ tierOf ctx = .dangerous →
    ctx.hasApproval = true ∨
      ctx.evaluationProfile.disableTrustedAutoApprove = false ∧
        ∃ rule ∈ cfg.trustedRules, rule.enabled = true ∧
          scopeMatches rule.scope rule.scopeRef ctx = true ∧
          trustedRuleApplies lib rule ctx = true
  destructive : ctx.approvalTier = .destructive ∨ tierOf ctx = .destructive →
    ctx.hasApproval = true

theorem trusted_rule_applies_enabled {lib : TextLibrary} {rule : TrustedRule} {ctx : Context}
    (applies : trustedRuleApplies lib rule ctx = true) :
    rule.enabled = true ∧ scopeMatches rule.scope rule.scopeRef ctx = true := by
  unfold trustedRuleApplies at applies
  split_ifs at applies with unusable structured
  all_goals
    rw [Bool.or_eq_true, not_or] at unusable
    exact ⟨by simpa using unusable.1, by simpa using unusable.2⟩

/-- An allowed operation is justified, and what is denied outright lacks a
capability. -/
theorem evaluate_sound (lib : TextLibrary) (cfg : Config) (ctx : Context) :
    ((evaluate lib cfg ctx).allowed = true → Justified lib cfg ctx) ∧
    ((evaluate lib cfg ctx).allowed = false ∧
        (evaluate lib cfg ctx).requiresConfirmation = false ↔
      ∃ capability ∈ ctx.requiredCapabilities, ¬Granted cfg ctx capability) := by
  refine ⟨?_, ?_⟩
  · intro allowed
    obtain ⟨noneMissing, asksNot⟩ := (evaluate_allowed_iff lib cfg ctx).mp allowed
    unfold AsksConfirmation at asksNot
    rw [not_or, not_or] at asksNot
    obtain ⟨inside, _, cleared⟩ := asksNot
    have approvedUnless : ∀ {P : Prop}, (ctx.hasApproval = false → P) →
        ctx.hasApproval = true ∨ P := by
      intro P otherwise
      cases approval : ctx.hasApproval with
      | true => exact .inl rfl
      | false => exact .inr (otherwise approval)
    refine ⟨?_, ?_, ?_, ?_⟩
    · intro capability required
      by_contra notGranted
      exact noneMissing ⟨capability, required, notGranted⟩
    · intro required noApproval path mem
      have within : pathAllowed path (normalizeRoots cfg.allowedRoots) = true := by
        by_contra outside
        exact inside ⟨required, noApproval, path, mem, by simpa using outside⟩
      obtain ⟨root, rootMember, under⟩ := path_allowed_iff.mp within
      obtain ⟨configured, configuredMember, rfl⟩ := mem_normalize_roots rootMember
      exact ⟨configured, configuredMember, lies_under_clean.mp under⟩
    · intro dangerous
      apply approvedUnless
      intro noApproval
      have trusted : TrustedAutomatically lib cfg ctx := by
        by_contra untrusted
        rcases tier_of_dangerous dangerous with tier | tier
        · exact cleared ⟨noApproval, .inr ⟨tier, untrusted⟩⟩
        · exact cleared ⟨noApproval, .inl tier⟩
      obtain ⟨⟨rule, mem, applies⟩, enabled⟩ := trusted
      obtain ⟨active, inScope⟩ := trusted_rule_applies_enabled applies
      exact ⟨enabled, rule, mem, active, inScope, applies⟩
    · intro destructive
      by_contra noApproval
      have tier := tier_of_destructive destructive
      exact cleared ⟨by simpa using noApproval, .inl tier⟩
  · change _ ↔ MissesCapability cfg ctx
    rcases evaluate_verdict lib cfg ctx with
      ⟨misses, denied, noConfirmation⟩ | ⟨noneMissing, _, _, confirm⟩ |
        ⟨noneMissing, _, allowed, _⟩
    · simp [misses, denied, noConfirmation]
    · simp [noneMissing, confirm]
    · simp [noneMissing, allowed]

def plainText : TextLibrary where
  matchRegexp := fun pattern value => pattern == value
  toLower := id

def trustedInput : Config :=
  { defaultConfig "/workspace/repo" [] with
    trustedRules :=
      [ { id := "trusted-tool", scope := .repo, scopeRef := "/workspace/repo",
          subjectType := .tool, matcherType := .exact, matcher := "term.send_input",
          enabled := true } ] }

def sendInput : Context where
  toolName := "term.send_input"
  repoRoot := "/workspace/repo"
  affectedPaths := ["/workspace/repo/notes/../main.go"]
  requiredCapabilities := ["terminal:input"]
  approvalTier := .dangerous
  requiresAllowedRoots := true

theorem send_input_justified :
    (evaluate plainText trustedInput sendInput).allowed = true ∧
      Justified plainText trustedInput sendInput :=
  ⟨by decide, (evaluate_sound plainText trustedInput sendInput).1 (by decide)⟩

/-- The cleaned path is the cleaned root, or below it component by component. -/
def WithinRoot (path root : String) : Prop :=
  isRooted path.toList = isRooted root.toList ∧
    cleanComponents root.toList <+: cleanComponents path.toList

instance (path root : String) : Decidable (WithinRoot path root) :=
  inferInstanceAs (Decidable (_ ∧ _))

theorem mem_destutter_iff : root ∈ roots.destutter (· ≠ ·) ↔ root ∈ roots := by
  refine ⟨fun kept => (destutter_sublist _ _).subset kept, ?_⟩
  cases roots with
  | nil => exact id
  | cons first rest =>
    rw [destutter_cons']
    induction rest generalizing first with
    | nil => exact id
    | cons next rest ih =>
      intro mem
      by_cases same : first = next
      · rw [destutter'_cons_neg _ (not_not.mpr same)]
        apply ih
        simpa [same] using mem
      rw [destutter'_cons_pos _ same]
      rcases mem_cons.mp mem with rfl | later
      · exact mem_cons_self
      · exact mem_cons_of_mem _ (ih next later)

theorem mem_normalize_roots_iff :
    root ∈ normalizeRoots roots ↔
      (∃ configured ∈ roots, Filepath.clean configured = root) ∧ root ≠ "." := by
  unfold normalizeRoots
  rw [mem_destutter_iff, mem_filter, mem_map]
  constructor
  · rintro ⟨configured, kept⟩
    simp only [Bool.and_eq_true, decide_eq_true_eq] at kept
    exact ⟨configured, kept.1⟩
  · rintro ⟨⟨configured, mem, rfl⟩, notDot⟩
    refine ⟨⟨configured, mem, rfl⟩, ?_⟩
    simp [notDot, clean_ne_empty]

theorem lies_under_iff (named : cleanComponents root.toList ≠ []) :
    LiesUnder path root ↔ WithinRoot path root := by
  unfold WithinRoot
  rw [← clean_chars_below_iff named]
  unfold LiesUnder clean
  constructor
  · rintro (same | ⟨below, same⟩)
    · exact .inl (ofList_injective same)
    · refine .inr ⟨below.toList, ?_⟩
      simpa using congrArg toList same
  · rintro (same | ⟨below, same⟩)
    · exact .inl (congrArg ofList same)
    · refine .inr ⟨ofList below, toList_inj.mp ?_⟩
      simpa using same

/-- The guard drops the working directory, to which an empty root cleans too. -/
theorem path_allowed_under_roots {roots : List String}
    (noRootDir : ∀ root ∈ roots, Filepath.clean root ≠ "/") (path : String) :
    pathAllowed path (normalizeRoots roots) = true ↔
      ∃ root ∈ roots, Filepath.clean root ≠ "." ∧ WithinRoot path root := by
  have named : ∀ root ∈ roots, Filepath.clean root ≠ "." → cleanComponents root.toList ≠ [] := by
    intro root mem notDot bare
    rcases clean_of_bare bare with isRoot | isDot
    · exact noRootDir root mem isRoot
    · exact notDot isDot
  rw [path_allowed_iff]
  constructor
  · rintro ⟨root, kept, under⟩
    obtain ⟨⟨configured, mem, rfl⟩, notDot⟩ := mem_normalize_roots_iff.mp kept
    rw [lies_under_clean, lies_under_iff (named configured mem notDot)] at under
    exact ⟨configured, mem, notDot, under⟩
  · rintro ⟨root, mem, notDot, within⟩
    refine ⟨_, mem_normalize_roots_iff.mpr ⟨⟨root, mem, rfl⟩, notDot⟩, ?_⟩
    rw [lies_under_clean, lies_under_iff (named root mem notDot)]
    exact within

theorem repository_roots_allow :
    pathAllowed "/workspace/repo/a/../b" (normalizeRoots ["docs", "/workspace/repo/"]) = true ↔
      ∃ root ∈ ["docs", "/workspace/repo/"], Filepath.clean root ≠ "." ∧
        WithinRoot "/workspace/repo/a/../b" root :=
  path_allowed_under_roots (by decide) "/workspace/repo/a/../b"

/-- The working directory as a root allows nothing. -/
theorem dot_root_dropped :
    ¬∀ (roots : List String) (path : String), pathAllowed path (normalizeRoots roots) = true ↔
      ∃ root ∈ roots, Go.Strings.trimSpace root ≠ "" ∧ WithinRoot path root := by
  intro always
  have allowed := (always ["."] "notes.txt").mpr ⟨".", by decide, by decide, by decide⟩
  exact absurd allowed (by decide)

end RuneTerminal.Policy
