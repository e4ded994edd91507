import RuneTerminal.Policy.Soundness

/-! The selection of `core/agent/types.go`: profile, role and mode, each with an overlay on the
policy. An overlay that adds no capability can only move the merged profile down. -/

namespace RuneTerminal.Agent

open Policy
open Go.Strings (TextLibrary)

/-- The posture of an overlay that sets none is `other ""`. -/
inductive SecurityPosture where
  | balanced
  | restricted
  | hardened
  | operations
  | release
  | other (raw : String)
  deriving DecidableEq

def SecurityPosture.text : SecurityPosture → String
  | .balanced => "balanced"
  | .restricted => "restricted"
  | .hardened => "hardened"
  | .operations => "operations"
  | .release => "release"
  | .other raw => raw

structure PolicyOverlay where
  capabilityAdditions : List String := []
  capabilityRemovals : List String := []
  minimumMutationTier : ApprovalTier := .other ""
  escalateApprovalBy : Int := 0
  disableTrustedAutoApprove : Bool := false
  securityPosture : SecurityPosture := .other ""

structure Preset where
  id : String
  overlay : PolicyOverlay := {}

structure Selection where
  profile : Preset
  role : Preset
  mode : Preset

/-- `approvalRank` and `maxApprovalTier` are the ranks and the maximum of `core/policy`. -/
def approvalRank (tier : ApprovalTier) : Nat := approvalTierRank tier

def maxApprovalTier (current next : ApprovalTier) : ApprovalTier :=
  if approvalRank next > approvalRank current then next else current

def mergeOverlay (merged overlay : PolicyOverlay) : PolicyOverlay where
  capabilityAdditions := merged.capabilityAdditions ++ overlay.capabilityAdditions
  capabilityRemovals := merged.capabilityRemovals ++ overlay.capabilityRemovals
  minimumMutationTier :=
    if overlay.minimumMutationTier ≠ .other "" then
      maxApprovalTier merged.minimumMutationTier overlay.minimumMutationTier
    else merged.minimumMutationTier
  escalateApprovalBy :=
    if overlay.escalateApprovalBy > merged.escalateApprovalBy then overlay.escalateApprovalBy
    else merged.escalateApprovalBy
  disableTrustedAutoApprove :=
    if overlay.disableTrustedAutoApprove then true else merged.disableTrustedAutoApprove
  securityPosture :=
    if overlay.securityPosture ≠ .other "" then overlay.securityPosture
    else merged.securityPosture

def mergeOverlays (overlays : List PolicyOverlay) : PolicyOverlay :=
  let merged := overlays.foldl mergeOverlay {}
  { merged with
    securityPosture :=
      if merged.securityPosture = .other "" then .balanced else merged.securityPosture }

namespace Selection

def effectivePolicyProfile (s : Selection) : EvaluationProfile :=
  let overlay := mergeOverlays [s.profile.overlay, s.role.overlay, s.mode.overlay]
  { promptProfileID := s.profile.id
    roleID := s.role.id
    modeID := s.mode.id
    securityPosture := overlay.securityPosture.text
    capabilityOverlay :=
      { additions := overlay.capabilityAdditions, removals := overlay.capabilityRemovals }
    approvalOverlay :=
      { escalateBy := overlay.escalateApprovalBy
        minimumMutationTier := overlay.minimumMutationTier }
    disableTrustedAutoApprove := overlay.disableTrustedAutoApprove }

end Selection

/-- `loose` asks for no more than `strict`. -/
structure Relaxes (loose strict : EvaluationProfile) : Prop where
  additions : strict.capabilityOverlay.additions ⊆ loose.capabilityOverlay.additions
  removals : loose.capabilityOverlay.removals ⊆ strict.capabilityOverlay.removals
  escalation : loose.approvalOverlay.escalateBy ≤ strict.approvalOverlay.escalateBy
  minimumTier : approvalTierRank loose.approvalOverlay.minimumMutationTier ≤
    approvalTierRank strict.approvalOverlay.minimumMutationTier
  autoApproval : loose.disableTrustedAutoApprove = true → strict.disableTrustedAutoApprove = true

def KnownTier (tier : ApprovalTier) : Prop :=
  tier = .safe ∨ tier = .moderate ∨ tier = .dangerous ∨ tier = .destructive

variable {tier : ApprovalTier}

theorem escalate_known (known : KnownTier tier) :
    KnownTier (escalateTier tier) ∧
    approvalTierRank (escalateTier tier) = min 3 (approvalTierRank tier + 1) := by
  rcases known with rfl | rfl | rfl | rfl <;> simp [KnownTier, escalateTier, approvalTierRank]

theorem approval_tier_rank_le (tier : ApprovalTier) : approvalTierRank tier ≤ 3 := by
  cases tier <;> simp [approvalTierRank]

theorem escalated_rank (known : KnownTier tier) (times : Nat) :
    approvalTierRank (escalateTier^[times] tier) = min 3 (approvalTierRank tier + times) := by
  induction times generalizing tier with
  | zero =>
    have bound := approval_tier_rank_le tier
    rw [Function.iterate_zero, id_eq]
    omega
  | succ times ih =>
    obtain ⟨stillKnown, rank⟩ := escalate_known known
    rw [Function.iterate_succ_apply, ih stillKnown]
    omega

theorem rank_three_iff : approvalTierRank tier = 3 ↔ tier = .destructive := by
  cases tier <;> simp [approvalTierRank]

theorem rank_two_iff : approvalTierRank tier = 2 ↔ tier = .dangerous := by
  cases tier <;> simp [approvalTierRank]

theorem max_tier_rank (current next : ApprovalTier) : approvalTierRank (maxTier current next) =
    max (approvalTierRank current) (approvalTierRank next) := by
  unfold maxTier
  split_ifs <;> omega

theorem max_tier_known {current next : ApprovalTier} (known : KnownTier current) :
    KnownTier (maxTier current next) := by
  unfold maxTier
  split_ifs with higher
  · cases next <;> simp [KnownTier, approvalTierRank] at higher ⊢
  · exact known

theorem effective_tier_rank {base : ApprovalTier} (known : KnownTier base)
    (overlay : ApprovalOverlay) (mutating : Bool) :
    approvalTierRank (effectiveApprovalTier base overlay mutating) =
      min 3
        ((if mutating then
            max (approvalTierRank base) (approvalTierRank overlay.minimumMutationTier)
          else approvalTierRank base) +
          overlay.escalateBy.toNat) := by
  unfold effectiveApprovalTier
  by_cases isMutating : mutating = true
  · by_cases unset : overlay.minimumMutationTier = .other ""
    · have unranked : approvalTierRank (.other "") = 0 := rfl
      simp [unset, escalated_rank known, unranked]
    · simp [isMutating, unset, escalated_rank (max_tier_known known), max_tier_rank]
  · simp [isMutating, escalated_rank known]

def withProfile (ctx : Context) (profile : EvaluationProfile) : Context :=
  { ctx with evaluationProfile := profile }

variable {lib : TextLibrary} {cfg : Config} {ctx : Context}

section

variable {loose strict : EvaluationProfile}

section

variable (relaxes : Relaxes loose strict)
include relaxes

theorem granted_mono {capability : String}
    (granted : Granted cfg (withProfile ctx strict) capability) :
    Granted cfg (withProfile ctx loose) capability := by
  obtain ⟨given, kept⟩ := granted
  refine ⟨?_, fun removed => kept (relaxes.removals removed)⟩
  rcases given with byDefault | added
  · exact .inl byDefault
  · exact .inr (relaxes.additions added)

theorem tier_rank_mono (known : KnownTier ctx.approvalTier) :
    approvalTierRank (tierOf (withProfile ctx loose)) ≤
      approvalTierRank (tierOf (withProfile ctx strict)) := by
  have minimum := relaxes.minimumTier
  have escalation := Int.toNat_le_toNat relaxes.escalation
  unfold tierOf
  rw [effective_tier_rank (by exact known), effective_tier_rank (by exact known)]
  simp only [withProfile]
  by_cases mutating : ctx.mutating = true
  · simp only [mutating, if_true]
    omega
  · simp only [mutating, Bool.false_eq_true, if_false]
    omega

theorem trusted_mono (trusted : TrustedAutomatically lib cfg (withProfile ctx strict)) :
    TrustedAutomatically lib cfg (withProfile ctx loose) := by
  obtain ⟨applies, enabled⟩ := trusted
  refine ⟨applies, ?_⟩
  by_contra disabled
  have strictly := relaxes.autoApproval (by simpa [withProfile] using disabled)
  rw [show strict.disableTrustedAutoApprove = false from enabled] at strictly
  cases strictly

section

variable (known : KnownTier ctx.approvalTier)
include known

theorem awaits_approval_mono (awaits : AwaitsApproval lib cfg (withProfile ctx loose)) :
    AwaitsApproval lib cfg (withProfile ctx strict) := by
  have rank := tier_rank_mono relaxes known
  have bound := approval_tier_rank_le (tierOf (withProfile ctx strict))
  obtain ⟨noApproval, asked⟩ := awaits
  refine ⟨noApproval, ?_⟩
  rw [← rank_three_iff, ← rank_two_iff] at asked ⊢
  rcases asked with destructive | ⟨dangerous, untrusted⟩
  · exact .inl (by omega)
  · by_cases higher : approvalTierRank (tierOf (withProfile ctx strict)) = 3
    · exact .inl higher
    · exact .inr ⟨by omega, fun trusted => untrusted (trusted_mono relaxes trusted)⟩

theorem asks_confirmation_mono (asks : AsksConfirmation lib cfg (withProfile ctx loose)) :
    AsksConfirmation lib cfg (withProfile ctx strict) := by
  rcases asks with outside | denied | awaits
  · exact .inl outside
  · exact .inr (.inl denied)
  · exact .inr (.inr (awaits_approval_mono relaxes known awaits))

theorem evaluate_allowed_mono
    (allowed : (evaluate lib cfg (withProfile ctx strict)).allowed = true) :
    (evaluate lib cfg (withProfile ctx loose)).allowed = true := by
  rw [evaluate_allowed_iff] at allowed ⊢
  obtain ⟨noneMissing, asksNot⟩ := allowed
  refine ⟨?_, fun asks => asksNot (asks_confirmation_mono relaxes known asks)⟩
  rintro ⟨capability, required, notGranted⟩
  exact noneMissing ⟨capability, required, fun granted => notGranted (granted_mono relaxes granted)⟩

end

end

end

theorem evaluate_allowed_approved (allowed : (evaluate lib cfg ctx).allowed = true) :
    (evaluate lib cfg { ctx with hasApproval := true }).allowed = true := by
  rw [evaluate_allowed_iff] at allowed ⊢
  refine ⟨allowed.1, ?_⟩
  rintro (⟨_, unapproved, _⟩ | ⟨_, unapproved, _⟩ | ⟨unapproved, _⟩)
  · cases unapproved
  · cases unapproved
  · cases unapproved

inductive Layer where
  | profile
  | role
  | mode

namespace Selection

def overlay (s : Selection) : Layer → PolicyOverlay
  | .profile => s.profile.overlay
  | .role => s.role.overlay
  | .mode => s.mode.overlay

def without (s : Selection) : Layer → Selection
  | .profile => { s with profile := { s.profile with overlay := {} } }
  | .role => { s with role := { s.role with overlay := {} } }
  | .mode => { s with mode := { s.mode with overlay := {} } }

end Selection

theorem merge_overlay_tier_rank (merged overlay : PolicyOverlay) :
    approvalTierRank (mergeOverlay merged overlay).minimumMutationTier =
      max (approvalTierRank merged.minimumMutationTier)
        (approvalTierRank overlay.minimumMutationTier) := by
  unfold mergeOverlay maxApprovalTier approvalRank
  dsimp only
  split_ifs with isSet higher
  · omega
  · omega
  · rw [not_not.mp isSet]
    have unranked : approvalTierRank (.other "") = 0 := rfl
    omega

theorem merge_overlay_escalation (merged overlay : PolicyOverlay) :
    (mergeOverlay merged overlay).escalateApprovalBy =
    max merged.escalateApprovalBy overlay.escalateApprovalBy := by
  unfold mergeOverlay
  dsimp only
  split_ifs <;> omega

theorem merge_auto_approve (merged overlay : PolicyOverlay) :
    (mergeOverlay merged overlay).disableTrustedAutoApprove =
    (merged.disableTrustedAutoApprove || overlay.disableTrustedAutoApprove) := by
  unfold mergeOverlay
  dsimp only
  split_ifs with disabled
  · rw [disabled, Bool.or_true]
  · rw [Bool.not_eq_true] at disabled
    rw [disabled, Bool.or_false]

section

variable (s : Selection)

theorem effective_additions :
    s.effectivePolicyProfile.capabilityOverlay.additions =
      s.profile.overlay.capabilityAdditions ++ s.role.overlay.capabilityAdditions ++
        s.mode.overlay.capabilityAdditions :=
  rfl

theorem effective_removals :
    s.effectivePolicyProfile.capabilityOverlay.removals =
      s.profile.overlay.capabilityRemovals ++ s.role.overlay.capabilityRemovals ++
        s.mode.overlay.capabilityRemovals :=
  rfl

theorem effective_escalation :
    s.effectivePolicyProfile.approvalOverlay.escalateBy =
      max (max (max 0 s.profile.overlay.escalateApprovalBy) s.role.overlay.escalateApprovalBy)
        s.mode.overlay.escalateApprovalBy := by
  rw [← merge_overlay_escalation {} s.profile.overlay, ← merge_overlay_escalation,
    ← merge_overlay_escalation]
  rfl

theorem effective_minimum_rank :
    approvalTierRank s.effectivePolicyProfile.approvalOverlay.minimumMutationTier =
      max
        (max (approvalTierRank s.profile.overlay.minimumMutationTier)
          (approvalTierRank s.role.overlay.minimumMutationTier))
        (approvalTierRank s.mode.overlay.minimumMutationTier) := by
  have first := merge_overlay_tier_rank {} s.profile.overlay
  have second := merge_overlay_tier_rank (mergeOverlay {} s.profile.overlay) s.role.overlay
  have third := merge_overlay_tier_rank
    (mergeOverlay (mergeOverlay {} s.profile.overlay) s.role.overlay) s.mode.overlay
  rw [second, first] at third
  exact third

theorem effective_auto_approve :
    s.effectivePolicyProfile.disableTrustedAutoApprove =
      (s.profile.overlay.disableTrustedAutoApprove || s.role.overlay.disableTrustedAutoApprove ||
        s.mode.overlay.disableTrustedAutoApprove) := by
  have first := merge_auto_approve {} s.profile.overlay
  have second := merge_auto_approve (mergeOverlay {} s.profile.overlay) s.role.overlay
  have third := merge_auto_approve
    (mergeOverlay (mergeOverlay {} s.profile.overlay) s.role.overlay) s.mode.overlay
  rw [second, first] at third
  exact third

end

theorem without_relaxes {s : Selection} {layer : Layer}
    (addsNothing : (s.overlay layer).capabilityAdditions = []) :
    Relaxes (s.without layer).effectivePolicyProfile s.effectivePolicyProfile := by
  have unranked : approvalTierRank (.other "") = 0 := rfl
  constructor
  · rw [effective_additions, effective_additions]
    cases layer <;> simp_all [Selection.overlay, Selection.without]
  · rw [effective_removals, effective_removals]
    cases layer <;> simp [Selection.without]
  · rw [effective_escalation, effective_escalation]
    cases layer <;> simp only [Selection.without] <;> omega
  · rw [effective_minimum_rank, effective_minimum_rank]
    cases layer <;> simp only [Selection.without, unranked] <;> omega
  · rw [effective_auto_approve, effective_auto_approve]
    cases layer <;> simp only [Selection.without, Bool.or_eq_true] <;> tauto

/-- An overlay that adds no capability only tightens the policy, and an approval
takes nothing away. -/
theorem overlays_tighten_approval_helps (lib : TextLibrary) (cfg : Config) (s : Selection)
    (ctx : Context) (known : KnownTier ctx.approvalTier) :
    (∀ layer, (s.overlay layer).capabilityAdditions = [] →
      (evaluate lib cfg (withProfile ctx s.effectivePolicyProfile)).allowed = true →
      (evaluate lib cfg (withProfile ctx (s.without layer).effectivePolicyProfile)).allowed =
        true) ∧
    ((evaluate lib cfg { ctx with hasApproval := false }).allowed = true →
      (evaluate lib cfg { ctx with hasApproval := true }).allowed = true) := by
  constructor
  · intro layer addsNothing allowed
    exact evaluate_allowed_mono (without_relaxes addsNothing) known allowed
  · intro allowed
    have approved := evaluate_allowed_approved allowed
    exact approved

def reviewSelection : Selection where
  profile := { id := "balanced" }
  role := { id := "reviewer", overlay := { capabilityRemovals := ["policy:write"] } }
  mode := { id := "review", overlay := { minimumMutationTier := .moderate } }

theorem overlays_tighten_send_input :
    (evaluate plainText trustedInput
      (withProfile sendInput reviewSelection.effectivePolicyProfile)).allowed =
      true ∧
    (evaluate plainText trustedInput
      (withProfile sendInput (reviewSelection.without .role).effectivePolicyProfile)).allowed =
      true :=
  have allowed : (evaluate plainText trustedInput
      (withProfile sendInput reviewSelection.effectivePolicyProfile)).allowed = true := by decide
  ⟨allowed, (overlays_tighten_approval_helps plainText trustedInput reviewSelection sendInput
    (.inr (.inr (.inl rfl)))).1 .role rfl allowed⟩

end RuneTerminal.Agent
