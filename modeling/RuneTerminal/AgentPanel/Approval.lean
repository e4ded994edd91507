import RuneTerminal.Kit.Transition

/-! Approving and cancelling the plan of a pending interaction flow (`agent-panel-approval.ts`,
`use-agent-panel.ts`). Both waits of an approval may be overtaken by other clicks. -/

namespace RuneTerminal.AgentPanel

open Kit List Option

structure PlanTool where
  name : String
  description : String

structure PendingRunApproval where
  approvalID : String
  baselineNextSeq : Nat
  command : String
  prompt : String
  repoRoot : String
  targetConnectionID : String
  targetSession : String
  targetWidgetID : String
  deriving DecidableEq

structure PendingInteractionFlow where
  flowID : String
  prompt : String
  tools : List PlanTool
  attachments : List String := []
  runApproval : Option PendingRunApproval := none
  approvalMessageID : Option String := none
  auditMessageID : Option String := none
  auditProgressed : Bool := false

structure ApprovalMessage where
  id : String
  planId : String

inductive Invocation where
  | runApprovedTerminalPrompt (runApproval : PendingRunApproval) (approvalToken : String)
  | runApprovedExecutionPlan (prompt repoRoot : String) (model : Option String)
  | runBackendPrompt (prompt : String) (attachments : List String) (auditMessageID : String)
      (model : Option String)
  deriving DecidableEq

/-- What has become of a flow, for reference. -/
inductive FlowEvent where
  | invoked (invocation : Invocation)
  | cancelled
  deriving DecidableEq

/-- What an approved run waits for. -/
inductive Stage where
  | confirmation (runApproval : PendingRunApproval)
  | runtimeContext
  | completion
  deriving DecidableEq

structure ApprovedRun where
  handle : Nat
  flow : PendingInteractionFlow
  model : Option String
  stage : Stage

structure Panel where
  pendingFlow : Option PendingInteractionFlow
  runs : List ApprovedRun := []
  nextRun : Nat := 0
  isSubmitting : Bool := false
  widgetBlocked : Bool := false
  submitError : Option String := none
  history : List FlowEvent := []

inductive Answer where
  | ok (text : String)
  | failed (error : String)

/-- `selectedModel` may be empty. A confirmation is `ok` with an approval token, and a context with
the root of the repository. -/
inductive PanelAction where
  | approve (message : ApprovalMessage) (selectedModel : String)
  | cancel (message : ApprovalMessage)
  | confirmed (handle : Nat) (answer : Answer)
  | resolved (handle : Nat) (answer : Answer)
  | completed (handle : Nat) (error : Option String)

/-- `createAuditMessage` -/
def auditMessageID (flow : PendingInteractionFlow) : String := flow.flowID ++ "-audit"

def createApprovedAuditFlow (flow : PendingInteractionFlow) (message : ApprovalMessage) :
    PendingInteractionFlow :=
  { flow with
    approvalMessageID := some message.id
    auditMessageID := some (auditMessageID flow)
    auditProgressed := false }

def executesInTerminal (flow : PendingInteractionFlow) : Bool :=
  flow.tools.any (·.name == "execute_terminal")

namespace Panel

def activeFlow (panel : Panel) (message : ApprovalMessage) : Option PendingInteractionFlow :=
  panel.pendingFlow.filter fun flow => flow.flowID = message.planId

def begin (panel : Panel) (flow : PendingInteractionFlow) (message : ApprovalMessage)
    (model : Option String) (stage : Stage) : Panel :=
  { panel with
    pendingFlow := some (createApprovedAuditFlow flow message)
    runs := panel.runs ++
      [{ handle := panel.nextRun, flow := flow, model := model, stage := stage }]
    nextRun := panel.nextRun + 1
    isSubmitting := true
    widgetBlocked := true
    submitError := none }

/-- `approvePendingPlanForPanel`, to its first wait -/
def approve (panel : Panel) (flow : PendingInteractionFlow) (message : ApprovalMessage)
    (model : Option String) : Panel :=
  match flow.runApproval with
  | some runApproval => panel.begin flow message model (.confirmation runApproval)
  | none =>
    if executesInTerminal flow then panel.begin flow message model .runtimeContext
    else
      { panel with
        pendingFlow := none
        history := panel.history ++
          [.invoked (.runBackendPrompt flow.prompt flow.attachments (auditMessageID flow) model)] }

/-- `cancelPendingPlan` -/
def cancel (panel : Panel) : Panel :=
  { panel with pendingFlow := none, history := panel.history ++ [.cancelled] }

def continueRun (panel : Panel) (run : ApprovedRun) (invocation : Invocation) : Panel :=
  { panel with
    runs := panel.runs.map fun other =>
      if other.handle = run.handle then { run with stage := .completion } else other
    history := panel.history ++ [.invoked invocation] }

/-- The `finally` of a run: whatever flow is pending is cleared. -/
def finish (panel : Panel) (run : ApprovedRun) (error : Option String) : Panel :=
  { panel with
    pendingFlow := none
    runs := panel.runs.filter fun other => other.handle ≠ run.handle
    isSubmitting := false
    widgetBlocked := false
    submitError := error.or panel.submitError }

def findRun (panel : Panel) (handle : Nat) : Option ApprovedRun :=
  panel.runs.find? fun run => run.handle = handle

def afterWait (panel : Panel) (run : ApprovedRun) (answer : Answer)
    (invocation : String → Invocation) : Panel :=
  match answer with
  | .ok text => panel.continueRun run (invocation text)
  | .failed error => panel.finish run (some error)

def step (panel : Panel) : PanelAction → Option Panel
  | .approve message selectedModel =>
    let model := if selectedModel = "" then none else some selectedModel
    match panel.activeFlow message with
    | none => some panel
    | some flow => some (panel.approve flow message model)
  | .cancel message =>
    match panel.activeFlow message with
    | none => some panel
    | some _ => some panel.cancel
  | .confirmed handle answer =>
    (panel.findRun handle).bind fun run =>
      match run.stage with
      | .confirmation runApproval =>
        some (panel.afterWait run answer (.runApprovedTerminalPrompt runApproval))
      | _ => none
  | .resolved handle answer =>
    (panel.findRun handle).bind fun run =>
      match run.stage with
      | .runtimeContext =>
        some (panel.afterWait run answer fun repoRoot =>
          .runApprovedExecutionPlan run.flow.prompt repoRoot run.model)
      | _ => none
  | .completed handle error =>
    (panel.findRun handle).bind fun run =>
      match run.stage with
      | .completion => some (panel.finish run error)
      | _ => none

def Pending (flowID : String) (panel : Panel) : Prop :=
  (∃ flow, panel.pendingFlow = some flow ∧ flow.flowID = flowID) ∧ panel.runs = [] ∧
    panel.history = []

/-- An approval of the pending flow finds no approved run of it, and a cancellation
finds none that has still to invoke something. -/
def undisturbed (panel : Panel) : PanelAction → Bool
  | .approve message _ =>
    (panel.activeFlow message).isNone ||
      panel.runs.all fun run => run.flow.flowID ≠ message.planId
  | .cancel message =>
    (panel.activeFlow message).isNone ||
      panel.runs.all fun run => run.flow.flowID ≠ message.planId || run.stage = .completion
  | _ => true

end Panel

/-- The plan is run at most once, and not after it was cancelled. -/
structure OnceBeforeCancel (history : List FlowEvent) : Prop where
  once : (history.filter (· ≠ .cancelled)).length ≤ 1
  beforeCancel : ∀ before after, history = before ++ .cancelled :: after →
    ∀ invocation, .invoked invocation ∉ after

inductive Phase (panel : Panel) : Prop where
  | fresh (runs : panel.runs = []) (history : panel.history = [])
  | waiting (run : ApprovedRun) (runs : panel.runs = [run]) (stage : run.stage ≠ .completion)
      (history : panel.history = [])
  | invoked (run : ApprovedRun) (invocation : Invocation) (later : List FlowEvent)
      (runs : panel.runs = [run]) (stage : run.stage = .completion)
      (history : panel.history = .invoked invocation :: later)
      (cancelled : ∀ event ∈ later, event = .cancelled)
  | ended (runs : panel.runs = []) (pendingFlow : panel.pendingFlow = none)
      (history : OnceBeforeCancel panel.history)

structure About (flowID : String) (panel : Panel) : Prop where
  pendingFlow : ∀ flow, panel.pendingFlow = some flow → flow.flowID = flowID
  runs : ∀ run ∈ panel.runs, run.flow.flowID = flowID
  phase : Phase panel

theorem once_before_cancel_nil : OnceBeforeCancel [] where
  once := Nat.zero_le 1
  beforeCancel := by
    intro before after whole
    cases before <;> cases whole

theorem once_before_cancel_invoked {invocation : Invocation} {later : List FlowEvent}
    (cancelled : ∀ event ∈ later, event = .cancelled) :
    OnceBeforeCancel (.invoked invocation :: later) where
  once := by
    have none : later.filter (· ≠ .cancelled) = [] := by
      rw [filter_eq_nil_iff]
      intro event mem
      rw [cancelled event mem]
      decide
    rw [filter_cons_of_pos (by simp), none]
    exact Nat.le_refl 1
  beforeCancel := by
    intro before after whole other isAfter
    cases before with
    | nil => cases whole
    | cons first before =>
      have isLater : .invoked other ∈ later := by
        rw [(cons.inj whole).2]
        exact mem_append_right before (mem_cons_of_mem _ isAfter)
      cases cancelled _ isLater

theorem once_before_cancel_cancelled : OnceBeforeCancel [.cancelled] where
  once := Nat.zero_le 1
  beforeCancel := by
    intro before after whole invocation isAfter
    cases before with
    | nil =>
      obtain rfl := (cons.inj whole).2
      cases isAfter
    | cons first before =>
      have none := (cons.inj whole).2
      cases before <;> cases none

variable {flowID : String} {panel : Panel} {flow : PendingInteractionFlow}

section

variable {next : Panel} {message : ApprovalMessage} {run : ApprovedRun}

theorem Phase.once (phase : Phase panel) : OnceBeforeCancel panel.history := by
  cases phase with
  | fresh runs history | waiting run runs stage history =>
    rw [history]
    exact once_before_cancel_nil
  | invoked run invocation later runs stage history cancelled =>
    rw [history]
    exact once_before_cancel_invoked cancelled
  | ended runs pendingFlow history => exact history

theorem active_flow_eq_some (active : panel.activeFlow message = some flow) :
    panel.pendingFlow = some flow ∧ flow.flowID = message.planId := by
  rcases filter_eq_some_iff.mp active with ⟨pending, same⟩
  exact ⟨pending, of_decide_eq_true same⟩

theorem found_run {handle : Nat} (found : panel.findRun handle = some run) : run ∈ panel.runs :=
  List.mem_of_find?_eq_some found

theorem finish_about (about : About flowID panel) (runs : panel.runs = [run])
    (error : Option String) : About flowID (panel.finish run error) := by
  have none : (panel.finish run error).runs = [] := by
    rw [Panel.finish, runs]
    simp
  refine ⟨nofun, ?_, ?_⟩
  · intro other mem
    rw [none] at mem
    cases mem
  · exact .ended none rfl about.phase.once

theorem begin_about (isFlow : flow.flowID = flowID) (runs : panel.runs = [])
    (history : panel.history = []) (message : ApprovalMessage) (model : Option String)
    {stage : Stage} (waits : stage ≠ .completion) :
    About flowID (panel.begin flow message model stage) := by
  have alone : (panel.begin flow message model stage).runs =
      [{ handle := panel.nextRun, flow := flow, model := model, stage := stage }] := by
    rw [Panel.begin, runs]
    rfl
  refine ⟨?_, ?_, ?_⟩
  · intro pending isPending
    cases isPending
    exact isFlow
  · intro run mem
    rw [alone] at mem
    rw [mem_singleton.mp mem]
    exact isFlow
  · exact .waiting _ alone waits history

section

variable (about : About flowID panel)
include about

section

variable (active : panel.activeFlow message = some flow)
include active

theorem approve_about (alone : ∀ run ∈ panel.runs, run.flow.flowID ≠ message.planId)
    (model : Option String) : About flowID (panel.approve flow message model) := by
  rcases active_flow_eq_some active with ⟨pending, isPlan⟩
  have isFlow := about.pendingFlow flow pending
  have noRuns : panel.runs = [] := by
    apply eq_nil_iff_forall_not_mem.mpr
    intro run mem
    exact alone run mem ((about.runs run mem).trans (isFlow.symm.trans isPlan))
  have history : panel.history = [] := by
    cases about.phase with
    | fresh runs history | waiting run runs stage history => exact history
    | invoked run invocation later runs stage history cancelled =>
      rw [noRuns] at runs
      cases runs
    | ended runs pendingFlow history =>
      rw [pending] at pendingFlow
      cases pendingFlow
  rw [Panel.approve]
  split
  · exact begin_about isFlow noRuns history message model nofun
  split
  · exact begin_about isFlow noRuns history message model nofun
  refine ⟨nofun, ?_, ?_⟩
  · intro run mem
    exact about.runs run mem
  · refine .ended noRuns rfl ?_
    rw [history]
    exact once_before_cancel_invoked nofun

theorem cancel_about
    (alone : ∀ run ∈ panel.runs, run.flow.flowID ≠ message.planId ∨ run.stage = .completion) :
    About flowID panel.cancel := by
  rcases active_flow_eq_some active with ⟨pending, isPlan⟩
  have isFlow := about.pendingFlow flow pending
  refine ⟨nofun, about.runs, ?_⟩
  cases about.phase with
  | fresh runs history =>
    refine .ended runs rfl ?_
    rw [Panel.cancel, history]
    exact once_before_cancel_cancelled
  | waiting run runs stage history =>
    have mem : run ∈ panel.runs := runs ▸ mem_cons_self
    rcases alone run mem with other | completes
    · exact absurd ((about.runs run mem).trans (isFlow.symm.trans isPlan)) other
    · exact absurd completes stage
  | invoked run invocation later runs stage history cancelled =>
    refine .invoked run invocation (later ++ [.cancelled]) runs stage ?_ ?_
    · rw [Panel.cancel, history, cons_append]
    intro event mem
    rcases mem_append.mp mem with before | last
    · exact cancelled event before
    · exact mem_singleton.mp last
  | ended runs pendingFlow history =>
    rw [pending] at pendingFlow
    cases pendingFlow

end

section

variable {handle : Nat} (found : panel.findRun handle = some run)
include found

theorem after_wait_about (waits : run.stage ≠ .completion) (answer : Answer)
    (invocation : String → Invocation) : About flowID (panel.afterWait run answer invocation) := by
  have member := found_run found
  have isFlow := about.runs run member
  have alone : panel.runs = [run] ∧ panel.history = [] := by
    cases about.phase with
    | fresh runs | ended runs =>
      rw [runs] at member
      cases member
    | waiting other runs stage history =>
      rw [runs] at member
      rw [runs, mem_singleton.mp member]
      exact ⟨rfl, history⟩
    | invoked other invocation later runs stage history cancelled =>
      rw [runs] at member
      rw [mem_singleton.mp member] at waits
      exact absurd stage waits
  cases answer with
  | failed error => exact finish_about about alone.1 _
  | ok text =>
    have continued : (panel.continueRun run (invocation text)).runs =
        [{ run with stage := .completion }] := by
      rw [Panel.continueRun, alone.1]
      simp
    refine ⟨about.pendingFlow, ?_, ?_⟩
    · intro other isOther
      rw [Panel.afterWait, continued] at isOther
      rw [mem_singleton.mp isOther]
      exact isFlow
    · refine .invoked _ (invocation text) [] continued rfl ?_ nofun
      rw [Panel.afterWait, Panel.continueRun, alone.2]
      rfl

theorem complete_about (error : Option String) : About flowID (panel.finish run error) := by
  have member := found_run found
  cases about.phase with
  | fresh runs history =>
    rw [runs] at member
    cases member
  | waiting other runs | invoked other invocation later runs =>
    rw [runs] at member
    obtain rfl := mem_singleton.mp member
    exact finish_about about runs error
  | ended runs pendingFlow history =>
    rw [runs] at member
    cases member

end

theorem step_about {action : PanelAction} (allowed : panel.undisturbed action = true)
    (taken : panel.step action = some next) : About flowID next := by
  cases action with
  | approve message selectedModel =>
    rw [Panel.step] at taken
    cases active : panel.activeFlow message with
    | none =>
      rw [active] at taken
      cases taken
      exact about
    | some flow =>
      rw [active] at taken
      cases taken
      apply approve_about about active
      rw [Panel.undisturbed, active] at allowed
      intro run mem
      exact of_decide_eq_true (all_eq_true.mp allowed run mem)
  | cancel message =>
    rw [Panel.step] at taken
    cases active : panel.activeFlow message with
    | none =>
      rw [active] at taken
      cases taken
      exact about
    | some flow =>
      rw [active] at taken
      cases taken
      apply cancel_about about active
      rw [Panel.undisturbed, active] at allowed
      intro run mem
      have either := all_eq_true.mp allowed run mem
      rw [Bool.or_eq_true, decide_eq_true_iff, decide_eq_true_iff] at either
      exact either
  | confirmed handle answer =>
    rcases bind_eq_some_iff.mp taken with ⟨run, found, stepped⟩
    cases stage : run.stage with
    | confirmation runApproval =>
      rw [stage] at stepped
      cases stepped
      exact after_wait_about about found (by rw [stage]; exact nofun) answer _
    | runtimeContext | completion =>
      rw [stage] at stepped
      cases stepped
  | resolved handle answer =>
    rcases bind_eq_some_iff.mp taken with ⟨run, found, stepped⟩
    cases stage : run.stage with
    | confirmation | completion =>
      rw [stage] at stepped
      cases stepped
    | runtimeContext =>
      rw [stage] at stepped
      cases stepped
      exact after_wait_about about found (by rw [stage]; exact nofun) answer _
  | completed handle error =>
    rcases bind_eq_some_iff.mp taken with ⟨run, found, stepped⟩
    cases stage : run.stage with
    | confirmation | runtimeContext =>
      rw [stage] at stepped
      cases stepped
    | completion =>
      rw [stage] at stepped
      cases stepped
      exact complete_about about found error

end

end

theorem pending_about (pending : panel.Pending flowID) : About flowID panel := by
  rcases pending with ⟨⟨flow, isPending, isFlow⟩, runs, history⟩
  refine ⟨?_, ?_, .fresh runs history⟩
  · intro other isOther
    rw [isPending] at isOther
    rw [← some.inj isOther]
    exact isFlow
  · intro run mem
    rw [runs] at mem
    cases mem

/-- As long as no approval or cancellation of the flow disturbs an approved run of it, the plan is
run at most once, and not after it was cancelled. -/
theorem approved_at_most_once {flowID : String} {panel : Panel}
    (reachable : Reachable (Panel.Pending flowID) (guarded Panel.undisturbed Panel.step) panel) :
    OnceBeforeCancel panel.history := by
  have about : About flowID panel := by
    apply reachable.invariant
    · exact pending_about
    · intro before action after about taken
      rcases guarded_eq_some.mp taken with ⟨allowed, stepped⟩
      exact step_about about allowed stepped
  exact about.phase.once

def listFiles : PendingRunApproval where
  approvalID := "approval-1"
  baselineNextSeq := 0
  command := "ls"
  prompt := "/run ls"
  repoRoot := "/repo"
  targetConnectionID := "local"
  targetSession := "local"
  targetWidgetID := "term-main"

def listFlow : PendingInteractionFlow where
  flowID := "flow-1"
  prompt := "/run ls"
  tools := [{ name := "term.send_input", description := "Run ls" }]
  runApproval := some listFiles

def planFlow : PendingInteractionFlow where
  flowID := "flow-1"
  prompt := "list the files"
  tools := [{ name := "execute_terminal", description := "Run a command" }]

def pendingPanel (flow : PendingInteractionFlow) : Panel where
  pendingFlow := some flow

def listMessage : ApprovalMessage where
  id := "flow-1-approval"
  planId := "flow-1"

theorem pending_panel (isFlow : flow.flowID = "flow-1") : (pendingPanel flow).Pending "flow-1" :=
  ⟨⟨flow, rfl, isFlow⟩, rfl, rfl⟩

def hasHistory (history : List FlowEvent) (panel : Panel) : Bool := panel.history = history

theorem reached_history (isFlow : flow.flowID = "flow-1")
    {step : Panel → PanelAction → Option Panel} {actions : List PanelAction}
    {history : List FlowEvent}
    (ran : (runActions step (pendingPanel flow) actions).map (hasHistory history) = some true) :
    ∃ panel, Reachable (Panel.Pending "flow-1") step panel ∧ panel.history = history := by
  rcases reachable_of_run (pending_panel isFlow) ran with ⟨panel, reachable, reached⟩
  exact ⟨panel, reachable, of_decide_eq_true reached⟩

theorem single_approval_runs_once :
    ∃ panel, Reachable (Panel.Pending "flow-1") (guarded Panel.undisturbed Panel.step) panel ∧
      panel.history = [.invoked (.runApprovedTerminalPrompt listFiles "token")] ∧
      OnceBeforeCancel panel.history := by
  have ran : (runActions (guarded Panel.undisturbed Panel.step) (pendingPanel listFlow)
      [.approve listMessage "", .confirmed 0 (.ok "token"), .completed 0 none]).map
        (hasHistory [.invoked (.runApprovedTerminalPrompt listFiles "token")]) = some true := by
    decide
  rcases reached_history rfl ran with ⟨panel, reachable, history⟩
  exact ⟨panel, reachable, history, approved_at_most_once reachable⟩

/-- A second approval while the first waits, and a cancellation in that time. -/
theorem disturbed_approvals :
    (∃ panel, Reachable (Panel.Pending "flow-1") Panel.step panel ∧
      panel.history = [.invoked (.runApprovedExecutionPlan "list the files" "/repo" none),
        .invoked (.runApprovedExecutionPlan "list the files" "/repo" none)] ∧
      ¬OnceBeforeCancel panel.history) ∧
    ∃ panel, Reachable (Panel.Pending "flow-1") Panel.step panel ∧
      panel.history = [.cancelled, .invoked (.runApprovedTerminalPrompt listFiles "first")] ∧
      ¬OnceBeforeCancel panel.history := by
  constructor
  · have ran : (runActions Panel.step (pendingPanel planFlow)
        [.approve listMessage "", .approve listMessage "", .resolved 0 (.ok "/repo"),
          .resolved 1 (.ok "/repo")]).map
        (hasHistory [.invoked (.runApprovedExecutionPlan "list the files" "/repo" none),
          .invoked (.runApprovedExecutionPlan "list the files" "/repo" none)]) = some true := by
      decide
    rcases reached_history rfl ran with ⟨panel, reachable, history⟩
    refine ⟨panel, reachable, history, ?_⟩
    intro property
    have once := property.once
    rw [history] at once
    exact absurd once (by decide)
  · have ran : (runActions Panel.step (pendingPanel listFlow)
        [.approve listMessage "", .cancel listMessage, .confirmed 0 (.ok "first")]).map
        (hasHistory [.cancelled, .invoked (.runApprovedTerminalPrompt listFiles "first")]) =
          some true := by
      decide
    rcases reached_history rfl ran with ⟨panel, reachable, history⟩
    refine ⟨panel, reachable, history, ?_⟩
    intro property
    exact property.beforeCancel [] _ history _ mem_cons_self

end RuneTerminal.AgentPanel
