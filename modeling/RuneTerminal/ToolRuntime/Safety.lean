import RuneTerminal.ToolRuntime.Protocol
import RuneTerminal.Policy.Soundness

/-! The guarantees that the executor gives to any number of clients, in every state of every run,
read off the invariant. -/

namespace RuneTerminal.ToolRuntime

open Go.Strings (TextLibrary)
open Policy (ApprovalTier EvaluationProfile Config Decision)
open Kit List

variable {Input Output : Type}

section

variable {lib : TextLibrary} {intentHash : ExecutionIntent Input → Except String String}

variable {s : System Input Output}

theorem transition_history {next : System Input Output}
    (transition : Transition lib intentHash s next) {event : Event Input}
    (mem : event ∈ s.history) : event ∈ next.history := by
  cases transition with
  | rejected | planned | refused | unconfirmed => exact mem
  | verified | prepared | created | ran | audited | confirmed => exact mem_cons_of_mem _ mem

theorem Consistent.mismatch_never_runs (inv : Consistent lib intentHash s) {call : Nat}
    {planned : PlannedExecution Input} {checkAt : Instant}
    (mismatched : .verified call planned .mismatch checkAt ∈ s.history)
    (prepared : PreparedExecution Input) : .ran call prepared ∉ s.history := by
  intro mem
  have progress := inv.progress call
  obtain ⟨branch, other, result, otherAt, config, rfl, verified⟩ :=
    progress.ran_allowed (mem_own_events rfl mem)
  have same := progress.verified_once (mem_own_events rfl mismatched) verified
  exact (branch_run branch).2 same.symm

structure ProtocolSafe (lib : TextLibrary) (s : System Input Output) : Prop where
  runsAllowed : ∀ call prepared, Event.ran call prepared ∈ s.history →
    prepared.decision.allowed = true ∧ prepared.approvalVerification ≠ .mismatch ∧
      ∃ planned checkAt config,
        Event.verified call planned prepared.approvalVerification checkAt ∈ s.history ∧
        prepared = planned.prepare lib prepared.approvalVerification config
  grantedMinted : ∀ newer call planned checkAt older,
    s.history = newer ++ .verified call planned .granted checkAt :: older →
      ∃ grant between confirmedAt before creator prepared approval,
        older = between ++ .confirmed approval.id grant confirmedAt :: before ∧
        Event.created creator prepared approval ∈ before ∧
        prepared.intentKey = planned.intentKey ∧ prepared.intent = planned.intent ∧
        grant.token = planned.approvalToken ∧
        confirmedAt ≤ approval.expiresAt ∧ checkAt ≤ grant.expiresAt
  oneTokenPerApproval : (s.history.filterMap Event.confirmedID?).Nodup
  oneGrantPerToken : (s.history.filterMap Event.grantedToken?).Nodup
  mismatchNeverRuns : ∀ call planned checkAt,
    Event.verified call planned .mismatch checkAt ∈ s.history →
      ∀ prepared, Event.ran call prepared ∉ s.history
  auditedOnce : ∀ call config prepared, Event.prepared call config prepared ∈ s.history →
    (∀ response, s.calls call = .finished response →
        (ownEvents call s.history).countP Progress.isAudited = 1) ∧
      ((∀ response, s.calls call ≠ .finished response) →
        (ownEvents call s.history).countP Progress.isAudited = 0)

/-- A token that is in the store and in time, shown by a call with another intent than its
approval's, stays in the store, and the call never runs its tool. -/
def ForeignTokenKept (lib : TextLibrary)
    (intentHash : ExecutionIntent Input → Except String String) (s : System Input Output) : Prop :=
  ∀ call planned cleanupAt checkAt next record creator prepared approval,
    s.calls call = .planned planned →
    s.approvals.grants planned.approvalToken = some record →
    checkAt ≤ record.grant.expiresAt →
    Event.created creator prepared approval ∈ s.history →
    approval.id = record.grant.approvalID →
    prepared.intent ≠ planned.intent →
    step lib intentHash s (.verify call cleanupAt checkAt) = some next →
      next.calls call = .verified planned .mismatch ∧
      next.approvals.grants planned.approvalToken = some record ∧
      ∀ later, RunsTo (step lib intentHash) next later →
        ∀ executed, Event.ran call executed ∉ later.history

theorem eq_of_nodup_filter_map {Item Value : Type} {f : Item → Option Value} {items : List Item}
    (nodup : (items.filterMap f).Nodup) {left right : Item} {value : Value}
    (leftMember : left ∈ items) (rightMember : right ∈ items) (leftValue : f left = some value)
    (rightValue : f right = some value) : left = right := by
  induction items with
  | nil => cases leftMember
  | cons first rest ih =>
    have restDistinct : (rest.filterMap f).Nodup := by
      refine List.Nodup.sublist ?_ nodup
      exact (sublist_cons_self first rest).filterMap f
    have firstOnly : f first = some value → value ∉ rest.filterMap f := by
      intro firstValue
      rw [filterMap_cons_some firstValue, nodup_cons] at nodup
      exact nodup.1
    rw [mem_cons] at leftMember rightMember
    rcases leftMember with rfl | leftMember
    · rcases rightMember with rfl | rightMember
      · rfl
      · exact absurd (mem_filterMap.mpr ⟨right, rightMember, rightValue⟩)
          (firstOnly leftValue)
    · rcases rightMember with rfl | rightMember
      · exact absurd (mem_filterMap.mpr ⟨left, leftMember, leftValue⟩)
          (firstOnly rightValue)
      · exact ih restDistinct leftMember rightMember

section

variable (inv : Consistent lib intentHash s)
  (hashInjective : ∀ {left right intentKey}, intentHash left = .ok intentKey →
    intentHash right = .ok intentKey → left = right)
include inv hashInjective

theorem Consistent.protocol_safe : ProtocolSafe lib s where
  runsAllowed := by
    intro call prepared mem
    obtain ⟨branch, planned, result, checkAt, config, rfl, verified⟩ :=
      (inv.progress call).ran_allowed (mem_own_events rfl mem)
    obtain ⟨allowed, matched⟩ := branch_run branch
    exact ⟨allowed, matched, planned, checkAt, config, (mem_filter.mp verified).1, rfl⟩
  grantedMinted := by
    intro newer call planned checkAt older whole
    have verified : .verified call planned .granted checkAt ∈ s.history := by
      rw [whole]
      exact mem_append_right _ mem_cons_self
    have plannedHashed :=
      (inv.progress call).verified_hashed (mem_own_events rfl verified)
    obtain ⟨grant, sameToken, inTime, minted⟩ :=
      inv.store.grantedJustified newer call planned checkAt older whole
    obtain ⟨between, confirmedAt, before, creator, prepared, approval, split, created, key, _,
      confirmedInTime⟩ := minted
    exact ⟨grant, between, confirmedAt, before, creator, prepared, approval, split, created,
      key.1, hashInjective key.2 plannedHashed, sameToken, confirmedInTime, inTime⟩
  oneTokenPerApproval := inv.store.confirmedOnce
  oneGrantPerToken := inv.store.grantedOnce
  mismatchNeverRuns := fun _ _ _ mismatched => inv.mismatch_never_runs mismatched
  auditedOnce := by
    intro call config prepared mem
    have progress := inv.progress call
    refine ⟨?_, ?_⟩
    · intro response finished
      rw [finished] at progress
      exact progress.audited_once (mem_own_events rfl mem)
    · exact progress.not_audited

theorem Consistent.foreign_token_kept : ForeignTokenKept lib intentHash s := by
  intro call planned cleanupAt checkAt next record creator prepared approval waiting alive inTime
    created sameApproval foreign taken
  have nextConsistent := (step_transition taken).consistent inv
  obtain ⟨_, nonblank, _, minted⟩ := inv.store.grantsMinted _ record alive
  have hashed : intentHash planned.intent = .ok planned.intentKey := by
    have progress := inv.progress call
    rw [waiting] at progress
    generalize ownEvents call s.history = own at progress
    cases progress with
    | planned hashed => exact hashed
  -- The approval behind the token was created once, so its creator is the given one.
  have foreignKey : record.intentKey ≠ planned.intentKey := by
    obtain ⟨newer, _, older, sourceCall, source, minter, whole, sourceCreated, key, mintedID,
      _⟩ := minted
    intro sameKey
    have sourceMember : Event.created sourceCall source minter ∈ s.history := by
      rw [whole]
      exact mem_append_right _ (mem_cons_of_mem _ sourceCreated)
    have sameEvent := eq_of_nodup_filter_map inv.store.createdOnce created sourceMember
      (by rw [Event.createdID?, sameApproval]) (by rw [Event.createdID?, mintedID])
    cases sameEvent
    rw [sameKey] at key
    exact foreign (hashInjective key.2 hashed)
  unfold step at taken
  simp only [waiting] at taken
  split_ifs at taken with ordered
  obtain ⟨mismatch, kept⟩ := ApprovalStore.verify_foreign_token nonblank alive inTime ordered.2
    foreignKey
  cases taken
  refine ⟨?_, kept, ?_⟩
  · simp [System.setCall, System.record, mismatch]
  intro later run executed
  have mismatched : Event.verified call planned .mismatch checkAt ∈ later.history := by
    refine run.preserves
      (fun mem taken => transition_history (step_transition taken) mem) ?_
    simp [System.record, mismatch]
  have laterConsistent : Consistent lib intentHash later :=
    run.preserves (fun inv taken => (step_transition taken).consistent inv)
      nextConsistent
  exact laterConsistent.mismatch_never_runs mismatched executed

end

end

/-- Every run of the executor is safe, for any number of clients in any order. -/
theorem approval_protocol_safe {Input Output : Type} (lib : TextLibrary)
    (intentHash : ExecutionIntent Input → Except String String)
    (hashInjective : ∀ {left right intentKey}, intentHash left = .ok intentKey →
      intentHash right = .ok intentKey → left = right)
    {s : System Input Output} (reachable : Reachable System.Initial (step lib intentHash) s) :
    ProtocolSafe lib s ∧ ForeignTokenKept lib intentHash s :=
  have consistent := reachable_consistent reachable
  ⟨consistent.protocol_safe hashInjective, consistent.foreign_token_kept hashInjective⟩

def fieldText (field : List Char) : List Char :=
  field.flatMap (fun c => ['_', c]) ++ ['|']

theorem field_text_inj {left right leftRest rightRest : List Char}
    (same : fieldText left ++ leftRest = fieldText right ++ rightRest) :
    left = right ∧ leftRest = rightRest := by
  induction left generalizing right with
  | nil =>
    cases right with
    | nil => simpa [fieldText] using same
    | cons c right => simp [fieldText] at same
  | cons c left ih =>
    cases right with
    | nil => simp [fieldText] at same
    | cons d right =>
      simp only [fieldText, flatMap_cons, cons_append, cons.injEq, true_and] at same
      obtain ⟨rfl, rest⟩ := same
      obtain ⟨rfl, restEq⟩ := ih rest
      exact ⟨rfl, restEq⟩

def spelledIntent (intent : ExecutionIntent String) : Except String String :=
  .ok (String.ofList
    (fieldText intent.toolName.toList ++ (fieldText intent.input.toList ++
      (fieldText intent.context.workspaceID.toList ++ (fieldText intent.context.widgetID.toList ++
        (fieldText intent.context.repoRoot.toList ++
          (fieldText intent.context.actionSource.toList ++
            (fieldText intent.context.targetSession.toList ++
              (fieldText intent.context.targetConnectionID.toList ++
                (fieldText intent.context.role.toList ++
                  (fieldText intent.context.mode.toList ++ [])))))))))))

theorem spelled_intent_injective {left right : ExecutionIntent String} {intentKey : String}
    (leftKey : spelledIntent left = .ok intentKey)
    (rightKey : spelledIntent right = .ok intentKey) : left = right := by
  have same := Except.ok.inj (leftKey.trans rightKey.symm)
  have chars := String.ofList_inj.mp same
  obtain ⟨toolName, chars⟩ := field_text_inj chars
  obtain ⟨input, chars⟩ := field_text_inj chars
  obtain ⟨workspaceID, chars⟩ := field_text_inj chars
  obtain ⟨id, chars⟩ := field_text_inj chars
  obtain ⟨repoRoot, chars⟩ := field_text_inj chars
  obtain ⟨actionSource, chars⟩ := field_text_inj chars
  obtain ⟨targetSession, chars⟩ := field_text_inj chars
  obtain ⟨targetConnectionID, chars⟩ := field_text_inj chars
  obtain ⟨role, chars⟩ := field_text_inj chars
  obtain ⟨mode, _⟩ := field_text_inj chars
  obtain ⟨_, _, leftContext⟩ := left
  obtain ⟨_, _, _, _, _, _, _, _⟩ := leftContext
  simp only [String.toList_inj] at *
  subst toolName input workspaceID id repoRoot actionSource targetSession
    targetConnectionID role mode
  rfl

def idleExecutor : System String String where
  approvals := newApprovalStore
  clock := 0
  calls := fun _ => .idle
  history := []

def addIgnoreRule : Definition String where
  name := "safety.add_ignore_rule"
  description := "Add an ignore rule"
  inputSchema := ""
  outputSchema := ""
  metadata :=
    { capabilities := ["policy:write"], approvalTier := .dangerous, mutating := true,
      targetKind := .policy }
  decode := .ok
  plan := fun _ _ => .ok { summary := "add ignore rule" }

def ignorePattern (pattern token : String) : ExecuteRequest where
  toolName := "safety.add_ignore_rule"
  input := pattern
  context := { workspaceID := "workspace-1" }
  approvalToken := token

def approvedRun : List (Action String String) :=
  let config := Policy.defaultConfig "/workspace/repo" []
  [ .begin 0 (ignorePattern "alpha" "") {} (some addIgnoreRule),
    .verify 0 1 1, .evaluate 0 config, .create 0 2 "approval_1", .audit 0 true,
    .confirm "approval_1" 3 3 3 "token",
    .begin 1 (ignorePattern "beta" "token") {} (some addIgnoreRule),
    .verify 1 4 4, .evaluate 1 config, .refuse 1, .audit 1 true,
    .begin 2 (ignorePattern "alpha" "token") {} (some addIgnoreRule),
    .verify 2 5 5, .evaluate 2 config, .run 2 (.ok "added"), .audit 2 true ]

theorem approved_run_safe :
    (runActions (step Policy.plainText spelledIntent) idleExecutor approvedRun).map
      (fun s => s.history.filterMap Event.grantedToken?) =
      some ["token"] ∧
    ∀ s, runActions (step Policy.plainText spelledIntent) idleExecutor approvedRun = some s →
      ProtocolSafe Policy.plainText s ∧ ForeignTokenKept Policy.plainText spelledIntent s := by
  refine ⟨by decide +kernel, ?_⟩
  intro s ran
  apply approval_protocol_safe Policy.plainText spelledIntent spelled_intent_injective
  exact ⟨idleExecutor, ⟨rfl, rfl, rfl⟩, runs_to_of_run ran⟩

/-- The approval was created for the very intent of the call, and confirmed in time. -/
def Confirmed (s : System Input Output) (planned : PlannedExecution Input)
    (approval : PendingApproval) : Prop :=
  ∃ grant confirmedAt creator requested, Event.confirmed approval.id grant confirmedAt ∈ s.history ∧
    Event.created creator requested approval ∈ s.history ∧ requested.intent = planned.intent ∧
    grant.token = planned.approvalToken ∧ confirmedAt ≤ approval.expiresAt

/-- What the policy would ask for without an approval runs only after the user has confirmed one for
the same intent, and each confirmation is granted to one call. -/
theorem asked_tools_run_once_confirmed (lib : TextLibrary)
    (intentHash : ExecutionIntent Input → Except String String)
    (hashInjective : ∀ {left right intentKey}, intentHash left = .ok intentKey →
      intentHash right = .ok intentKey → left = right)
    {s : System Input Output} (reachable : Reachable System.Initial (step lib intentHash) s) :
    (∀ call prepared, Event.ran call prepared ∈ s.history →
      ∃ planned result checkAt config, Event.verified call planned result checkAt ∈ s.history ∧
        prepared = planned.prepare lib result config ∧
        ¬Policy.MissesCapability config (planned.policyContext false) ∧
        (Policy.AsksConfirmation lib config (planned.policyContext false) →
          result = .granted ∧ ∃ approval, Confirmed s planned approval)) ∧
    ∀ call other planned another checkAt otherAt approval,
      Event.verified call planned .granted checkAt ∈ s.history →
      Event.verified other another .granted otherAt ∈ s.history → Confirmed s planned approval →
      Confirmed s another approval → call = other := by
  have safe := (reachable_consistent reachable).protocol_safe hashInjective
  constructor
  · intro call prepared mem
    obtain ⟨allowed, -, planned, checkAt, config, verified, isPrepared⟩ :=
      safe.runsAllowed call prepared mem
    obtain ⟨noneMissing, asksNot⟩ :=
      (Policy.evaluate_allowed_iff lib config _).mp (isPrepared ▸ allowed)
    refine ⟨planned, _, checkAt, config, verified, isPrepared, noneMissing, fun asks => ?_⟩
    cases answer : prepared.approvalVerification with
    | granted =>
      rw [answer] at verified
      obtain ⟨newer, older, whole⟩ := append_of_mem verified
      obtain ⟨grant, between, confirmedAt, before, creator, requested, approval, split, created, -,
        same, token, inTime, -⟩ := safe.grantedMinted _ _ _ _ _ whole
      have confirmed : Event.confirmed approval.id grant confirmedAt ∈ s.history := by
        simp [whole, split]
      have isCreated : Event.created creator requested approval ∈ s.history := by
        simp [whole, split, created]
      exact ⟨rfl, approval, grant, confirmedAt, creator, requested, confirmed, isCreated, same,
        token, inTime⟩
    | _ =>
      rw [answer] at asksNot
      exact absurd asks asksNot
  · rintro call other planned another checkAt otherAt approval verified otherVerified
      ⟨grant, _, _, _, confirmed, -, -, token, -⟩ ⟨_, _, _, _, otherConfirmed, -, -, otherToken, -⟩
    cases eq_of_nodup_filter_map safe.oneTokenPerApproval confirmed otherConfirmed rfl rfl
    have sameToken : another.approvalToken = planned.approvalToken := otherToken.symm.trans token
    cases eq_of_nodup_filter_map safe.oneGrantPerToken verified otherVerified rfl
      (congrArg some sameToken)
    rfl

theorem asked_tools_run_once_confirmed_approved : ∃ s : System String String,
    s.history.filterMap Event.grantedToken? = ["token"] ∧
    ∀ call prepared, Event.ran call prepared ∈ s.history → ∃ planned result config,
      prepared = planned.prepare Policy.plainText result config ∧
      (Policy.AsksConfirmation Policy.plainText config (planned.policyContext false) →
        ∃ approval, Confirmed s planned approval) := by
  obtain ⟨s, reachable, tested⟩ := @reachable_of_run _ _ System.Initial
    (step Policy.plainText spelledIntent) idleExecutor ⟨rfl, rfl, rfl⟩ approvedRun
    (fun s => s.history.filterMap Event.grantedToken? == ["token"]) (by decide +kernel)
  refine ⟨s, beq_iff_eq.mp tested, fun call prepared ran => ?_⟩
  obtain ⟨planned, result, _, config, -, same, -, confirmed⟩ :=
    (asked_tools_run_once_confirmed Policy.plainText spelledIntent spelled_intent_injective
      reachable).1 call prepared ran
  exact ⟨planned, result, config, same, fun asks => (confirmed asks).2⟩

end RuneTerminal.ToolRuntime
