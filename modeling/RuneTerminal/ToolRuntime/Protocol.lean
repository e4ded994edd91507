import RuneTerminal.ToolRuntime.Executor
import RuneTerminal.Kit.Transition

/-! A call leaves its events in a fixed order, a pending approval and a grant are backed by events
of the past, and granted tokens are no longer in the store. -/

namespace RuneTerminal.ToolRuntime

open Go.Strings (TextLibrary)
open Policy (ApprovalTier EvaluationProfile Config Decision)
open Kit List ApprovalStore

section

variable {Input Output : Type} {lib : TextLibrary}
  {intentHash : ExecutionIntent Input → Except String String} {call : Nat}

/-- The steps, one constructor for each way to take one. -/
inductive Transition (lib : TextLibrary)
    (intentHash : ExecutionIntent Input → Except String String) (s : System Input Output) :
    System Input Output → Prop where
  | rejected {call : Nat} (idle : s.calls call = .idle) (response : ExecuteResponse Output) :
      Transition lib intentHash s (s.setCall call (.finished response))
  | planned {call : Nat} (idle : s.calls call = .idle) {planned : PlannedExecution Input}
      (hashed : intentHash planned.intent = .ok planned.intentKey) :
      Transition lib intentHash s (s.setCall call (.planned planned))
  | verified {call : Nat} {planned : PlannedExecution Input}
      (waiting : s.calls call = .planned planned) {cleanupAt checkAt : Instant}
      {result : ApprovalVerificationResult} {approvals : ApprovalStore}
      (done : s.approvals.verify planned.approvalToken planned.intentKey cleanupAt checkAt =
        (result, approvals)) :
      Transition lib intentHash s
        (({ s with approvals := approvals, clock := checkAt }.setCall call
          (.verified planned result)).record (.verified call planned result checkAt))
  | prepared {call : Nat} {planned : PlannedExecution Input} {result : ApprovalVerificationResult}
      (waiting : s.calls call = .verified planned result) (config : Config) :
      Transition lib intentHash s
        ((s.setCall call (.prepared (planned.prepare lib result config))).record
          (.prepared call config (planned.prepare lib result config)))
  | refused {call : Nat} {prepared : PreparedExecution Input}
      (waiting : s.calls call = .prepared prepared)
      (branch : prepared.branch = .mismatch ∨ prepared.branch = .deny) (text : String)
      (response : ExecuteResponse Output) :
      Transition lib intentHash s (s.setCall call (.answered prepared false text response))
  | created {call : Nat} {prepared : PreparedExecution Input}
      (waiting : s.calls call = .prepared prepared) (branch : prepared.branch = .confirm)
      {now : Instant} {newID : String} (fresh : newID ∉ s.history.filterMap Event.createdID?)
      {approval : PendingApproval} {approvals : ApprovalStore}
      (done : s.approvals.create prepared.definition.name prepared.plan.summary
        prepared.decision.effectiveApprovalTier prepared.intentKey now newID =
          (approval, approvals)) (text : String) (response : ExecuteResponse Output) :
      Transition lib intentHash s
        (({ s with approvals := approvals, clock := now }.setCall call
          (.answered prepared false text response)).record (.created call prepared approval))
  | ran {call : Nat} {prepared : PreparedExecution Input}
      (waiting : s.calls call = .prepared prepared) (branch : prepared.branch = .run)
      (success : Bool) (text : String) (response : ExecuteResponse Output) :
      Transition lib intentHash s
        ((s.setCall call (.answered prepared success text response)).record (.ran call prepared))
  | audited {call : Nat} {prepared : PreparedExecution Input} {success : Bool} {text : String}
      {response : ExecuteResponse Output}
      (waiting : s.calls call = .answered prepared success text response) (stored : Bool) :
      Transition lib intentHash s
        ((s.setCall call (.finished response)).record
          (.audited call (prepared.auditEvent success text) stored))
  | confirmed {id : String} {cleanupAt checkAt mintAt : Instant} {newToken : String}
      (nonblank : newToken ≠ "") (fresh : newToken ∉ s.history.filterMap Event.mintedToken?)
      {grant : ApprovalGrant} {approvals : ApprovalStore}
      (done : s.approvals.confirm id cleanupAt checkAt mintAt newToken =
        (.ok grant, approvals)) :
      Transition lib intentHash s
        ({ s with approvals := approvals, clock := mintAt }.record (.confirmed id grant checkAt))
  | unconfirmed {id : String} {cleanupAt checkAt mintAt : Instant} {newToken : String}
      {err : ApprovalError} {approvals : ApprovalStore}
      (done : s.approvals.confirm id cleanupAt checkAt mintAt newToken =
        (.error err, approvals)) :
      Transition lib intentHash s { s with approvals := approvals, clock := mintAt }

variable {planned : PlannedExecution Input} {next : System Input Output}
  {state : CallState Input Output}

theorem plan_execution_hashed {found : Option (Definition Input)} {request : ExecuteRequest}
    {profile : EvaluationProfile} {planned : PlannedExecution Input}
    (done : (planExecution intentHash found request profile : Except (ExecuteResponse Output)
      (PlannedExecution Input)) =
      .ok planned) :
    intentHash planned.intent = .ok planned.intentKey := by
  unfold planExecution at done
  dsimp only at done
  split at done
  · cases done
  split at done
  · cases done
  split at done
  · cases done
  split at done
  · cases done
  split at done
  · cases done
  next hashed =>
    cases done
    exact hashed

variable {s : System Input Output}

theorem step_transition {action : Action Input Output}
    (taken : step lib intentHash s action = some next) : Transition lib intentHash s next := by
  unfold step at taken
  cases action with
  | begin call request profile found =>
    dsimp only at taken
    split at taken
    next idle =>
      split at taken
      next response _ =>
        cases taken
        exact .rejected idle response
      next planned done =>
        cases taken
        exact .planned idle (plan_execution_hashed done)
    · cases taken
  | verify call cleanupAt checkAt =>
    dsimp only at taken
    split at taken
    next planned waiting =>
      split_ifs at taken with ordered
      cases taken
      exact .verified waiting rfl
    · cases taken
  | evaluate call config =>
    dsimp only at taken
    split at taken
    next planned result waiting =>
      cases taken
      exact .prepared waiting config
    · cases taken
  | refuse call =>
    dsimp only at taken
    split at taken
    next prepared waiting =>
      split at taken
      next branch =>
        cases taken
        exact .refused waiting (.inl branch) _ _
      next branch =>
        cases taken
        exact .refused waiting (.inr branch) _ _
      · cases taken
    · cases taken
  | create call now newID =>
    dsimp only at taken
    split at taken
    next prepared waiting =>
      split_ifs at taken with possible
      cases taken
      exact .created waiting possible.1 possible.2.2 rfl _ _
    · cases taken
  | run call outcome =>
    dsimp only at taken
    split at taken
    next prepared waiting =>
      split_ifs at taken with branch
      cases taken
      exact .ran waiting branch _ _ _
    · cases taken
  | audit call stored =>
    dsimp only at taken
    split at taken
    next prepared success text response waiting =>
      cases taken
      exact .audited waiting stored
    · cases taken
  | confirm id cleanupAt checkAt mintAt newToken =>
    dsimp only at taken
    split_ifs at taken with possible
    split at taken
    next grant approvals done =>
      cases taken
      exact .confirmed possible.2.2.2.1 possible.2.2.2.2 done
    next err approvals done =>
      cases taken
      exact .unconfirmed done

def Event.call? : Event Input → Option Nat
  | .verified call _ _ _ => some call
  | .prepared call _ _ => some call
  | .created call _ _ => some call
  | .confirmed _ _ _ => none
  | .ran call _ => some call
  | .audited call _ _ => some call

def ownEvents (call : Nat) (history : List (Event Input)) : List (Event Input) :=
  history.filter (·.call? = some call)

variable {event : Event Input}

variable {history : List (Event Input)}

theorem mem_own_events (own : event.call? = some call) (mem : event ∈ history) :
    event ∈ ownEvents call history :=
  mem_filter.mpr ⟨mem, decide_eq_true own⟩

/-- The events that a call has left by the time it is in a state, newest first. -/
inductive Progress (lib : TextLibrary)
    (intentHash : ExecutionIntent Input → Except String String) (call : Nat) :
    CallState Input Output → List (Event Input) → Prop where
  | idle : Progress lib intentHash call .idle []
  | rejected (response : ExecuteResponse Output) :
      Progress lib intentHash call (.finished response) []
  | planned {planned : PlannedExecution Input}
      (hashed : intentHash planned.intent = .ok planned.intentKey) :
      Progress lib intentHash call (.planned planned) []
  | verified {planned : PlannedExecution Input}
      (hashed : intentHash planned.intent = .ok planned.intentKey)
      (result : ApprovalVerificationResult) (checkAt : Instant) :
      Progress lib intentHash call (.verified planned result)
        [.verified call planned result checkAt]
  | prepared {planned : PlannedExecution Input}
      (hashed : intentHash planned.intent = .ok planned.intentKey)
      (result : ApprovalVerificationResult) (checkAt : Instant) (config : Config) :
      Progress lib intentHash call (.prepared (planned.prepare lib result config))
        [.prepared call config (planned.prepare lib result config),
          .verified call planned result checkAt]
  | refused {prepared : PreparedExecution Input} {own : List (Event Input)}
      (before : Progress lib intentHash call (.prepared prepared : CallState Input Output) own)
      (success : Bool) (text : String) (response : ExecuteResponse Output) :
      Progress lib intentHash call (.answered prepared success text response) own
  | created {prepared : PreparedExecution Input} {own : List (Event Input)}
      (before : Progress lib intentHash call (.prepared prepared : CallState Input Output) own)
      (approval : PendingApproval) (success : Bool) (text : String)
      (response : ExecuteResponse Output) :
      Progress lib intentHash call (.answered prepared success text response)
        (.created call prepared approval :: own)
  | ran {prepared : PreparedExecution Input} {own : List (Event Input)}
      (before : Progress lib intentHash call (.prepared prepared : CallState Input Output) own)
      (branch : prepared.branch = .run) (success : Bool) (text : String)
      (response : ExecuteResponse Output) :
      Progress lib intentHash call (.answered prepared success text response)
        (.ran call prepared :: own)
  | audited {prepared : PreparedExecution Input} {own : List (Event Input)} {success : Bool}
      {text : String} {response : ExecuteResponse Output}
      (before : Progress lib intentHash call (.answered prepared success text response) own)
      (event : AuditEvent) (stored : Bool) :
      Progress lib intentHash call (.finished response) (.audited call event stored :: own)

variable {prepared : PreparedExecution Input}

theorem branch_run (branch : prepared.branch = .run) :
    prepared.decision.allowed = true ∧ prepared.approvalVerification ≠ .mismatch := by
  unfold PreparedExecution.branch at branch
  split_ifs at branch with mismatch confirm denied
  exact ⟨by simpa using denied, mismatch⟩

namespace Progress

variable {own : List (Event Input)}

theorem of_prepared
    (progress : Progress lib intentHash call (.prepared prepared : CallState Input Output) own) :
    ∃ planned result checkAt config, intentHash planned.intent = .ok planned.intentKey ∧
    prepared = planned.prepare lib result config ∧
    own = [.prepared call config prepared, .verified call planned result checkAt] := by
  cases progress with
  | prepared hashed result checkAt config =>
    exact ⟨_, result, checkAt, config, hashed, rfl, rfl⟩

section

variable (progress : Progress lib intentHash call state own) {checkAt : Instant}
  {result : ApprovalVerificationResult}
include progress

theorem ran_allowed (member : .ran call prepared ∈ own) :
    prepared.branch = .run ∧ ∃ planned result checkAt config, prepared =
    planned.prepare lib result config ∧ Event.verified call planned result checkAt ∈ own := by
  induction progress with
  | idle | rejected | planned => cases member
  | verified | prepared => simp at member
  | refused before success text response ih => exact ih member
  | created before approval success text response ih | audited before event stored ih =>
    rw [mem_cons] at member
    rcases member with ne | member
    · cases ne
    · obtain ⟨branch, planned, result, checkAt, config, same, verified⟩ := ih member
      exact ⟨branch, planned, result, checkAt, config, same, mem_cons_of_mem _ verified⟩
  | ran before branch success text response ih =>
    rw [mem_cons] at member
    rcases member with same | member
    · cases same
      obtain ⟨planned, result, checkAt, config, _, same, rfl⟩ := before.of_prepared
      exact ⟨branch, planned, result, checkAt, config, same, by simp⟩
    · obtain ⟨branch, planned, result, checkAt, config, same, verified⟩ := ih member
      exact ⟨branch, planned, result, checkAt, config, same, mem_cons_of_mem _ verified⟩

theorem verified_once {other : PlannedExecution Input} {otherResult : ApprovalVerificationResult}
    {otherAt : Instant} (mem : .verified call planned result checkAt ∈ own)
    (otherMember : .verified call other otherResult otherAt ∈ own) : result = otherResult := by
  induction progress with
  | idle | rejected | planned => cases mem
  | verified | prepared =>
    simp at mem otherMember
    rw [mem.2.1, otherMember.2.1]
  | refused before success text response ih => exact ih mem otherMember
  | created before approval success text response ih
  | ran before branch success text response ih | audited before event stored ih =>
    exact ih (by simpa using mem) (by simpa using otherMember)

theorem verified_hashed (mem : .verified call planned result checkAt ∈ own) :
    intentHash planned.intent = .ok planned.intentKey := by
  induction progress with
  | idle | rejected | planned => cases mem
  | verified hashed | prepared hashed =>
    simp at mem
    rw [mem.1]
    exact hashed
  | refused before success text response ih => exact ih mem
  | created before approval success text response ih
  | ran before branch success text response ih | audited before event stored ih =>
    exact ih (by simpa using mem)

end

def isAudited : Event Input → Bool
  | .audited _ _ _ => true
  | _ => false

theorem not_audited (progress : Progress lib intentHash call state own)
    (unfinished : ∀ response, state ≠ .finished response) : own.countP isAudited = 0 := by
  induction progress with
  | idle | planned | verified | prepared => rfl
  | rejected response => exact absurd rfl (unfinished response)
  | refused before success text response ih | created before approval success text response ih
  | ran before branch success text response ih => exact ih (by intro _ same; cases same)
  | @audited _ _ _ _ response before event stored ih => exact absurd rfl (unfinished response)

theorem audited_once {response : ExecuteResponse Output}
    (progress : Progress lib intentHash call (.finished response) own) {config : Config}
    (mem : .prepared call config prepared ∈ own) : own.countP isAudited = 1 := by
  cases progress with
  | rejected => cases mem
  | audited before event stored =>
    rw [countP_cons_of_pos rfl, before.not_audited (by intro _ same; cases same)]

end Progress

def Event.confirmedID? : Event Input → Option String
  | .confirmed id _ _ => some id
  | _ => none

def Event.grantedToken? : Event Input → Option String
  | .verified _ planned .granted _ => some planned.approvalToken
  | _ => none

/-- The intent key of a call, and that it is the hash of the call's intent. -/
def HasIntentKey (intentHash : ExecutionIntent Input → Except String String)
    (prepared : PreparedExecution Input) (intentKey : String) : Prop :=
  prepared.intentKey = intentKey ∧ intentHash prepared.intent = .ok intentKey

/-- The grant was minted by a `Confirm`, in time, of an approval that an earlier
`Execute` created for the intent with this key. -/
def Minted (intentHash : ExecutionIntent Input → Except String String)
    (history : List (Event Input)) (grant : ApprovalGrant) (intentKey : String) : Prop :=
  ∃ newer checkAt older creator prepared approval,
    history = newer ++ .confirmed approval.id grant checkAt :: older ∧
      Event.created creator prepared approval ∈ older ∧
      HasIntentKey intentHash prepared intentKey ∧
      grant.approvalID = approval.id ∧ checkAt ≤ approval.expiresAt

theorem Minted.cons {history : List (Event Input)} {grant : ApprovalGrant} {intentKey : String}
    (minted : Minted intentHash history grant intentKey) (event : Event Input) :
    Minted intentHash (event :: history) grant intentKey := by
  obtain ⟨newer, checkAt, older, creator, prepared, approval, rfl, created⟩ := minted
  exact ⟨event :: newer, checkAt, older, creator, prepared, approval, rfl, created⟩

theorem mem_filter_map_cons {Value : Type} {f : Event Input → Option Value} {value : Value}
    (mem : value ∈ history.filterMap f) : value ∈ (event :: history).filterMap f := by
  obtain ⟨source, sourceMember, same⟩ := mem_filterMap.mp mem
  exact mem_filterMap.mpr ⟨source, mem_cons_of_mem _ sourceMember, same⟩

/-- The store against the history. -/
structure StoreConsistent (intentHash : ExecutionIntent Input → Except String String)
    (approvals : ApprovalStore) (history : List (Event Input)) : Prop where
  pendingCreated : ∀ id record, approvals.pending id = some record →
    record.approval.id = id ∧ id ∉ history.filterMap Event.confirmedID? ∧
      ∃ creator prepared, Event.created creator prepared record.approval ∈ history ∧
        HasIntentKey intentHash prepared record.intentKey
  grantsMinted : ∀ token record, approvals.grants token = some record →
    record.grant.token = token ∧ token ≠ "" ∧
      token ∉ history.filterMap Event.grantedToken? ∧
      Minted intentHash history record.grant record.intentKey
  createdOnce : (history.filterMap Event.createdID?).Nodup
  confirmedOnce : (history.filterMap Event.confirmedID?).Nodup
  confirmedCreated : ∀ id ∈ history.filterMap Event.confirmedID?,
    id ∈ history.filterMap Event.createdID?
  grantedOnce : (history.filterMap Event.grantedToken?).Nodup
  grantedMinted : ∀ token ∈ history.filterMap Event.grantedToken?,
    token ∈ history.filterMap Event.mintedToken?
  grantedJustified : ∀ newer call planned checkAt older,
    history = newer ++ .verified call planned .granted checkAt :: older →
      ∃ grant, grant.token = planned.approvalToken ∧ checkAt ≤ grant.expiresAt ∧
        Minted intentHash older grant planned.intentKey

theorem Minted.token_minted {grant : ApprovalGrant} {intentKey : String}
    (minted : Minted intentHash history grant intentKey) :
    grant.token ∈ history.filterMap Event.mintedToken? := by
  obtain ⟨newer, checkAt, older, _, _, approval, rfl, _⟩ := minted
  exact mem_filterMap.mpr ⟨.confirmed approval.id grant checkAt, by simp, rfl⟩

namespace StoreConsistent

variable {approvals next : ApprovalStore}

theorem initial : StoreConsistent intentHash newApprovalStore ([] : List (Event Input)) where
  pendingCreated := nofun
  grantsMinted := nofun
  createdOnce := nodup_nil
  confirmedOnce := nodup_nil
  confirmedCreated := nofun
  grantedOnce := nodup_nil
  grantedMinted := nofun
  grantedJustified := by
    intro newer call planned checkAt older empty
    simp at empty

section

variable (inv : StoreConsistent intentHash approvals history)
include inv

theorem shrink
    (pending : ∀ id record, next.pending id = some record → approvals.pending id = some record)
    (grants : ∀ token record, next.grants token = some record →
      approvals.grants token = some record) :
    StoreConsistent intentHash next history :=
  { inv with
    pendingCreated := fun id record found => inv.pendingCreated id record
      (pending id record found)
    grantsMinted := fun token record found => inv.grantsMinted token record
      (grants token record found) }

theorem quiet (createdOnce : ((event :: history).filterMap Event.createdID?).Nodup)
    (noConfirm : event.confirmedID? = none) (noGrant : event.grantedToken? = none) :
    StoreConsistent intentHash approvals (event :: history) where
  pendingCreated := by
    intro id record found
    obtain ⟨sameID, unconfirmed, creator, prepared, created, hashed⟩ :=
      inv.pendingCreated id record found
    rw [filterMap_cons_none noConfirm]
    exact ⟨sameID, unconfirmed, creator, prepared, mem_cons_of_mem _ created, hashed⟩
  grantsMinted := by
    intro token record found
    obtain ⟨sameToken, nonblank, unused, minted⟩ := inv.grantsMinted token record found
    rw [filterMap_cons_none noGrant]
    exact ⟨sameToken, nonblank, unused, minted.cons event⟩
  createdOnce := createdOnce
  confirmedOnce := by
    rw [filterMap_cons_none noConfirm]
    exact inv.confirmedOnce
  confirmedCreated := by
    intro id mem
    rw [filterMap_cons_none noConfirm] at mem
    exact mem_filter_map_cons (inv.confirmedCreated id mem)
  grantedOnce := by
    rw [filterMap_cons_none noGrant]
    exact inv.grantedOnce
  grantedMinted := by
    intro token mem
    rw [filterMap_cons_none noGrant] at mem
    exact mem_filter_map_cons (inv.grantedMinted token mem)
  grantedJustified := by
    intro newer call planned checkAt older whole
    cases newer with
    | nil =>
      cases whole
      cases noGrant
    | cons first newer =>
      cases whole
      exact inv.grantedJustified newer call planned checkAt older rfl

theorem created {call : Nat} {prepared : PreparedExecution Input}
    (hashed : intentHash prepared.intent = .ok prepared.intentKey) {toolName summary : String}
    {tier : ApprovalTier} {now : Instant} {newID : String}
    (fresh : newID ∉ history.filterMap Event.createdID?) {approval : PendingApproval}
    (done : approvals.create toolName summary tier prepared.intentKey now newID =
      (approval, next)) :
    StoreConsistent intentHash next (.created call prepared approval :: history) := by
  obtain ⟨sameID, pending, grants⟩ := create_cases done
  have createdOnce : ((Event.created call prepared approval :: history).filterMap
      Event.createdID?).Nodup := by
    rw [filterMap_cons_some (f := Event.createdID?) rfl, nodup_cons, sameID]
    exact ⟨fresh, inv.createdOnce⟩
  have old : StoreConsistent intentHash approvals (.created call prepared approval :: history) :=
    inv.quiet createdOnce rfl rfl
  refine { old with pendingCreated := ?_, grantsMinted := ?_ }
  · intro id record found
    rcases pending id record found with ⟨rfl, rfl⟩ | ⟨_, before⟩
    · refine ⟨sameID, ?_, call, prepared, mem_cons_self, rfl, hashed⟩
      intro confirmed
      exact fresh (inv.confirmedCreated _ confirmed)
    · exact old.pendingCreated id record before
  · intro token record found
    exact old.grantsMinted token record (grants token record found)

theorem confirmed {id : String}
    {cleanupAt checkAt mintAt : Instant} {newToken : String} (nonblank : newToken ≠ "")
    (fresh : newToken ∉ history.filterMap Event.mintedToken?) {grant : ApprovalGrant}
    (done : approvals.confirm id cleanupAt checkAt mintAt newToken = (.ok grant, next)) :
    StoreConsistent intentHash next (.confirmed id grant checkAt :: history) := by
  rcases confirm_cases done with ⟨err, failed, _⟩ |
    ⟨record, minted, sameGrant, found, inTime, sameApproval, sameToken, pending, grants⟩
  · cases failed
  cases sameGrant
  obtain ⟨sameID, unconfirmed, creator, prepared, created, hashed⟩ :=
    inv.pendingCreated id record found
  have createdID : id ∈ history.filterMap Event.createdID? :=
    mem_filterMap.mpr ⟨_, created, by rw [Event.createdID?, sameID]⟩
  have ids : (Event.confirmed id grant checkAt :: history).filterMap Event.confirmedID? =
      id :: history.filterMap Event.confirmedID? :=
    filterMap_cons_some rfl
  refine ⟨?_, ?_, inv.createdOnce, ?_, ?_, ?_, ?_, ?_⟩
  · intro other entry entryFound
    obtain ⟨ne, before⟩ := pending other entry entryFound
    obtain ⟨entryID, entryUnconfirmed, entryCreator, entryPrepared, entryCreated, entryHashed⟩ :=
      inv.pendingCreated other entry before
    refine ⟨entryID, ?_, entryCreator, entryPrepared, mem_cons_of_mem _ entryCreated,
      entryHashed⟩
    rw [ids, mem_cons, not_or]
    exact ⟨ne, entryUnconfirmed⟩
  · intro token entry entryFound
    rcases grants token entry entryFound with ⟨rfl, rfl⟩ | ⟨_, before⟩
    · refine ⟨sameToken, nonblank, ?_, [], checkAt, history, creator, prepared, record.approval,
        by rw [sameID]; rfl, created, hashed, sameApproval, inTime⟩
      intro granted
      exact fresh (inv.grantedMinted _ granted)
    · obtain ⟨entryToken, entryNonblank, unused, entryMinted⟩ :=
        inv.grantsMinted token entry before
      exact ⟨entryToken, entryNonblank, unused, entryMinted.cons _⟩
  · rw [ids, nodup_cons]
    exact ⟨unconfirmed, inv.confirmedOnce⟩
  · intro other member
    rw [ids, mem_cons] at member
    rcases member with rfl | member
    · exact mem_filter_map_cons createdID
    · exact mem_filter_map_cons (inv.confirmedCreated other member)
  · exact inv.grantedOnce
  · intro token member
    exact mem_filter_map_cons (inv.grantedMinted token member)
  intro newer call planned at_ older whole
  cases newer with
  | nil => cases whole
  | cons first newer =>
    cases whole
    exact inv.grantedJustified newer call planned at_ older rfl

theorem verified {call : Nat} {planned : PlannedExecution Input} {cleanupAt checkAt : Instant}
    {result : ApprovalVerificationResult}
    (done : approvals.verify planned.approvalToken planned.intentKey cleanupAt checkAt =
      (result, next)) :
    StoreConsistent intentHash next (.verified call planned result checkAt :: history) := by
  obtain ⟨pending, granted | ⟨notGranted, grants⟩⟩ := verify_cases done
  · obtain ⟨record, rfl, found, sameKey, inTime, grants⟩ := granted
    obtain ⟨sameToken, nonblank, unused, minted⟩ :=
      inv.grantsMinted planned.approvalToken record found
    rw [sameKey] at minted
    have tokens : (Event.verified call planned .granted checkAt :: history).filterMap
        Event.grantedToken? = planned.approvalToken :: history.filterMap Event.grantedToken? :=
      filterMap_cons_some rfl
    refine ⟨?_, ?_, inv.createdOnce, ?_, ?_, ?_, ?_, ?_⟩
    · intro id entry entryFound
      obtain ⟨entryID, unconfirmed, creator, prepared, created, hashed⟩ :=
        inv.pendingCreated id entry (pending id entry entryFound)
      exact ⟨entryID, unconfirmed, creator, prepared, mem_cons_of_mem _ created, hashed⟩
    · intro token entry entryFound
      obtain ⟨ne, before⟩ := grants token entry entryFound
      obtain ⟨entryToken, entryNonblank, entryUnused, entryMinted⟩ :=
        inv.grantsMinted token entry before
      refine ⟨entryToken, entryNonblank, ?_, entryMinted.cons _⟩
      rw [tokens, mem_cons, not_or]
      exact ⟨ne, entryUnused⟩
    · exact inv.confirmedOnce
    · intro id member
      exact mem_filter_map_cons (inv.confirmedCreated id member)
    · rw [tokens, nodup_cons]
      exact ⟨unused, inv.grantedOnce⟩
    · intro token member
      rw [tokens, mem_cons] at member
      rcases member with rfl | member
      · rw [← sameToken]
        exact mem_filter_map_cons minted.token_minted
      · exact mem_filter_map_cons (inv.grantedMinted token member)
    intro newer other otherPlanned at_ older whole
    cases newer with
    | nil =>
      cases whole
      exact ⟨record.grant, sameToken, inTime, minted⟩
    | cons first newer =>
      cases whole
      exact inv.grantedJustified newer other otherPlanned at_ older rfl
  · have noGrant : (Event.verified call planned result checkAt).grantedToken? = none := by
      cases result with
      | granted => exact absurd rfl notGranted
      | missing | mismatch => rfl
    exact (inv.shrink pending grants).quiet inv.createdOnce rfl noGrant

end

end StoreConsistent

structure Consistent (lib : TextLibrary)
    (intentHash : ExecutionIntent Input → Except String String) (s : System Input Output) :
    Prop where
  progress : ∀ call, Progress lib intentHash call (s.calls call) (ownEvents call s.history)
  store : StoreConsistent intentHash s.approvals s.history

section

section

variable (progress : ∀ call, Progress lib intentHash call (s.calls call) (ownEvents call s.history))
include progress

theorem progress_silent (moved : Progress lib intentHash call state (ownEvents call s.history))
    (other : Nat) :
    Progress lib intentHash other ((s.setCall call state).calls other)
      (ownEvents other s.history) := by
  by_cases same : other = call
  · subst same
    simpa [System.setCall] using moved
  · simpa [System.setCall, same] using progress other

theorem progress_event (own : event.call? = some call)
    (moved : Progress lib intentHash call state (event :: ownEvents call s.history)) (other : Nat) :
    Progress lib intentHash other ((s.setCall call state).calls other)
      (ownEvents other (event :: s.history)) := by
  by_cases same : other = call
  · subst same
    simpa [System.setCall, ownEvents, own] using moved
  have foreign : event.call? ≠ some other := by
    rw [own]
    exact fun sameCall => same (Option.some.inj sameCall).symm
  simpa [System.setCall, same, ownEvents, foreign] using progress other

end

theorem Transition.consistent (inv : Consistent lib intentHash s)
    (transition : Transition lib intentHash s next) : Consistent lib intentHash next := by
  obtain ⟨progress, store⟩ := inv
  cases transition with
  | @rejected call idle response =>
    have before := progress call
    rw [idle] at before
    refine ⟨progress_silent progress ?_, store⟩
    cases own : ownEvents call s.history with
    | nil => exact .rejected response
    | cons event rest =>
      rw [own] at before
      cases before
  | @planned call idle planned hashed =>
    have before := progress call
    rw [idle] at before
    refine ⟨progress_silent progress ?_, store⟩
    cases own : ownEvents call s.history with
    | nil => exact .planned hashed
    | cons event rest =>
      rw [own] at before
      cases before
  | @verified call planned waiting cleanupAt checkAt result approvals done =>
    have before := progress call
    rw [waiting] at before
    refine ⟨progress_event progress rfl ?_, store.verified done⟩
    cases own : ownEvents call s.history with
    | nil =>
      rw [own] at before
      cases before with
      | planned hashed => exact .verified hashed result checkAt
    | cons event rest =>
      rw [own] at before
      cases before
  | @prepared call planned result waiting config =>
    have before := progress call
    rw [waiting] at before
    refine ⟨progress_event progress rfl ?_, store.quiet store.createdOnce rfl rfl⟩
    generalize ownEvents call s.history = own at before
    cases before with
    | verified hashed result checkAt => exact .prepared hashed result checkAt config
  | @refused call prepared waiting branch text response =>
    have before := progress call
    rw [waiting] at before
    exact ⟨progress_silent progress (.refused before false text response), store⟩
  | @created call prepared waiting branch now newID fresh approval approvals done text response =>
    have before := progress call
    rw [waiting] at before
    obtain ⟨planned, result, checkAt, config, hashed, rfl, _⟩ := before.of_prepared
    exact ⟨progress_event progress rfl (.created before approval false text response),
      store.created hashed fresh done⟩
  | @ran call prepared waiting branch success text response =>
    have before := progress call
    rw [waiting] at before
    exact ⟨progress_event progress rfl (.ran before branch success text response),
      store.quiet store.createdOnce rfl rfl⟩
  | @audited call prepared success text response waiting stored =>
    have before := progress call
    rw [waiting] at before
    exact ⟨progress_event progress rfl (.audited before _ stored),
      store.quiet store.createdOnce rfl rfl⟩
  | @confirmed id cleanupAt checkAt mintAt newToken nonblank fresh grant approvals done =>
    refine ⟨?_, store.confirmed nonblank fresh done⟩
    intro call
    exact progress call
  | unconfirmed done =>
    refine ⟨progress, ?_⟩
    rcases confirm_cases done with ⟨_, _, pending, grants⟩ | ⟨_, _, succeeded, _⟩
    · exact store.shrink pending grants
    · cases succeeded

end

theorem reachable_consistent (reachable : Reachable System.Initial (step lib intentHash) s) :
    Consistent lib intentHash s := by
  apply reachable.invariant
  · intro s initial
    obtain ⟨noApprovals, noCalls, noEvents⟩ := initial
    refine ⟨?_, ?_⟩
    · intro call
      rw [noCalls, noEvents]
      exact .idle
    · rw [noApprovals, noEvents]
      exact .initial
  · intro s action next inv taken
    exact (step_transition taken).consistent inv

end

end RuneTerminal.ToolRuntime
