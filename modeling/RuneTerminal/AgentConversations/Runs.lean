import RuneTerminal.AgentConversations.Ordering

/-! The panel shows the active conversation of the service, or a change that brings it is under way.
Four kinds of steps part them; `staysInView` excludes these. -/

namespace RuneTerminal.AgentConversations

open Go.Strings (trimSpace)
open Conversation (ApiAnswer Environment Snapshot movesActive)
open Kit Option Ordered Panel

def System.active (s : System) : String := s.backend.store.active.id

def Panel.displayed (panel : Panel) : Option String :=
  panel.activeConversationSummary.map AgentConversationSummary.id

def System.Quiet (s : System) : Prop := ∀ call < s.started, s.calls call = none

instance (s : System) : Decidable s.Quiet :=
  Nat.decidableBallLT s.started fun call _ => s.calls call = none

/-- The steps that keep the panel with the service. No cancellation comes while the panel waits for
a snapshot; only the active conversation is renamed or restored; a mutation that moves the active
conversation is of the one that the panel took for active, and the list after it does not fail. -/
def staysInView (env : Environment) (s : System) : Action → Bool
  | .cancelActiveSubmission _ =>
    match s.panel.activeStream.bind s.calls with
    | some (.finishing _ _ _ _) => false
    | _ => true
  | .serve call _ _ _ fault =>
    match s.calls call, fault with
    | some (.retitling conversationID title _), none =>
      decide (env.summarize title ≠ "" →
        trimSpace conversationID ∈ s.backend.store.db.conversationIDs →
          trimSpace conversationID = s.active)
    | some (.mutating .restore activeConversationID conversationID _ _), none =>
      decide (activeConversationID = conversationID →
        trimSpace conversationID ∈ s.backend.store.db.conversationIDs →
          trimSpace conversationID = s.active)
    | some (.mutating mutation activeConversationID conversationID _ _), none =>
      decide (movesActive s.backend.store (mutation.request conversationID) = true →
        activeConversationID = conversationID)
    | some (.mutated _ _ _ _ _), some _ => decide (s.panel.displayed = some s.active)
    | _, _ => true
  | _ => true

section

variable {env : Environment} {s next : System} {nonce : Nat}

def System.Ordered (s : System) : Prop :=
  AgentConversations.Ordered s.panel.control s.kinds s.started

theorem kinds_insert (calls : Table Nat Call) (call : Nat) (state : Call) :
    (fun other => (calls.insert call state other).map Call.kind) =
    Table.insert (fun other => (calls other).map Call.kind) call state.kind := by
  funext other
  unfold Table.insert
  split_ifs
  · rfl
  · rfl

theorem kinds_erase (calls : Table Nat Call) (call : Nat) :
    (fun other => (calls.erase call other).map Call.kind) =
    Table.erase (fun other => (calls other).map Call.kind) call := by
  funext other
  unfold Table.erase
  split_ifs
  · rfl
  · rfl

theorem kinds_start (panel : Panel) (call : Call) :
    (s.start panel call).kinds = s.kinds.insert s.started call.kind :=
  kinds_insert s.calls s.started call

theorem kinds_wait (panel : Panel) (call : Nat) (state : Call) :
    (s.wait panel call state).kinds = s.kinds.insert call state.kind :=
  kinds_insert s.calls call state

theorem kinds_finish (panel : Panel) (call : Nat) :
    (s.finish panel call).kinds = s.kinds.erase call :=
  kinds_erase s.calls call

variable {call : Nat} {state : Call}

theorem kinds_some (isCall : s.calls call = some state) : s.kinds call = some state.kind :=
  congrArg (Option.map Call.kind) isCall

theorem kinds_insert_same {after : Call} (isCall : s.calls call = some state)
    (same : after.kind = state.kind) : s.kinds.insert call after.kind = s.kinds := by
  funext other
  by_cases isOther : other = call
  · subst isOther
    rw [Table.insert_self, kinds_some isCall, same]
  · exact Table.insert_of_ne isOther _

theorem with_wait_kind (second : Bool) (wait : Wait) (state : Call) :
    (state.withWait second wait).kind = state.kind := by
  cases state with
  | finishing nonce listNonce fetch list => cases second <;> rfl
  | _ => rfl

theorem take_list_control (panel : Panel) (nonce : Nat) (answer : ApiAnswer) :
    (panel.takeList nonce answer).control = panel.control := by
  unfold takeList
  split
  · split
    · rfl
    · rfl
  · rfl

variable {panel : Panel}

theorem System.Ordered.started_operation {call : Call} (ordered : s.Ordered) (free : s.panel.Free)
    (isOperation : call.kind = .operation) (newer : s.panel.submissionNonce ≤ panel.submissionNonce)
    (pending : panel.isConversationPending = true ∧ panel.isSubmitting = false) :
    (s.start panel call).Ordered := by
  rw [System.Ordered, kinds_start, isOperation]
  exact start_operation ordered free.1 free.2 newer pending

section

variable (ordered : s.Ordered) (isCall : s.calls call = some state)
include ordered isCall

theorem System.Ordered.waits {after : Call} (same : after.kind = state.kind)
    (control : panel.control = s.panel.control) : (s.wait panel call after).Ordered := by
  rw [System.Ordered, kinds_wait, kinds_insert_same isCall same]
  change AgentConversations.Ordered panel.control s.kinds s.started
  rw [control]
  exact ordered

theorem System.Ordered.finish_operation (isOperation : state.kind = .operation)
    (control : panel.control = s.panel.endTransition.control) : (s.finish panel call).Ordered := by
  rw [System.Ordered, kinds_finish]
  change AgentConversations.Ordered panel.control _ s.started
  rw [control]
  exact Ordered.finish ordered (kinds_some isCall) remains_erase rfl (.inr isOperation)
    (.inl ⟨rfl, rfl, rfl⟩)

theorem System.Ordered.finish_listing (control : panel.control = s.panel.control) :
    (s.finish panel call).Ordered := by
  rw [System.Ordered, kinds_finish]
  change AgentConversations.Ordered panel.control _ s.started
  rw [control]
  exact Ordered.finish ordered (kinds_some isCall) remains_erase rfl (.inl rfl)
    (.inl ⟨rfl, rfl, rfl⟩)

end

theorem Ordered.end_submission {kinds after : Table Nat Kind} {started : Nat} {kind : Kind}
    {next : Panel} (ordered : AgentConversations.Ordered panel.control kinds started)
    (isCall : kinds call = some kind) (isNonce : kind.nonce = some nonce)
    (remains : Remains kinds after call) (connected : Bool)
    (control : next.control = (panel.endSubmission nonce connected).control) :
    AgentConversations.Ordered next.control after started := by
  rw [control]
  unfold endSubmission
  by_cases isLive : panel.submissionNonce = nonce
  · rw [if_pos isLive]
    rw [← isLive] at isNonce
    exact finish ordered isCall remains rfl (.inl rfl) (.inr ⟨rfl, isNonce⟩)
  · rw [if_neg isLive]
    exact finish ordered isCall remains rfl (.inl rfl) (.inl ⟨rfl, rfl, rfl⟩)

theorem end_submission_control {other : Panel} (same : other.control = panel.control) (nonce : Nat)
    (connected : Bool) : (other.endSubmission nonce connected).control =
    (panel.endSubmission nonce connected).control := by
  have sameNonce : other.submissionNonce = panel.submissionNonce :=
    congrArg Control.submissionNonce same
  have sameStream : other.activeStream = panel.activeStream := congrArg Control.activeStream same
  unfold endSubmission
  by_cases isLive : panel.submissionNonce = nonce
  · rw [if_pos isLive, if_pos (sameNonce.trans isLive)]
    unfold Panel.control
    rw [sameStream, sameNonce, show other.isConversationPending = panel.isConversationPending from
      congrArg Control.isConversationPending same]
  · rw [if_neg isLive, if_neg (sameNonce ▸ isLive)]
    exact same

theorem fail_submission_control (panel : Panel) (nonce : Nat) (connected : Bool)
    (message : String) : (panel.failSubmission nonce connected message).control =
    (panel.endSubmission nonce connected).control := by
  unfold failSubmission
  by_cases isLive : panel.submissionNonce = nonce
  · rw [if_pos isLive]
    refine end_submission_control ?_ nonce connected
    rfl
  · rw [if_neg isLive, endSubmission, if_neg isLive]

variable {answer : ApiAnswer}

section

variable (ordered : s.Ordered) (isCall : s.calls call = some state)
  (isOperation : state.kind = .operation) {epoch : Nat} {id activeConversationID : String}
include ordered isCall isOperation

theorem after_transition_ordered : (afterTransition s call epoch answer).Ordered := by
  unfold afterTransition
  split
  · split_ifs
    · exact ordered.finish_operation isCall isOperation rfl
    · exact ordered.waits isCall isOperation.symm rfl
  · exact ordered.finish_operation isCall isOperation rfl

theorem after_rename_ordered : (afterRename s call answer).Ordered := by
  unfold afterRename
  split
  · rw [System.Ordered, kinds_wait]
    exact finish ordered (kinds_some isCall) (remains_listing (kinds_some isCall)) rfl
      (.inr isOperation) (.inl ⟨rfl, rfl, rfl⟩)
  · exact ordered.finish_operation isCall isOperation rfl

theorem after_mutation_ordered :
    (afterMutation s call activeConversationID id epoch answer).Ordered := by
  unfold afterMutation
  split
  · exact ordered.waits isCall isOperation.symm rfl
  · exact ordered.finish_operation isCall isOperation rfl

theorem after_mutation_list_ordered {snapshot : Snapshot} :
    (afterMutationList s call activeConversationID id epoch snapshot answer).Ordered := by
  unfold afterMutationList
  split
  · split
    · exact ordered.finish_operation isCall isOperation rfl
    apply ordered.finish_operation isCall isOperation
    split_ifs
    · rfl
    · rfl
  · exact ordered.finish_operation isCall isOperation rfl

end

section

variable (ordered : s.Ordered) {second : Bool}
include ordered

theorem System.Ordered.finish_submission {before next : Panel} (isCall : s.calls call = some state)
    (isNonce : state.kind.nonce = some nonce) (same : before.control = s.panel.control)
    (connected : Bool) (control : next.control = (before.endSubmission nonce connected).control) :
    (s.finish next call).Ordered := by
  rw [System.Ordered, kinds_finish]
  apply end_submission ordered (kinds_some isCall) isNonce remains_erase connected
  exact control.trans (end_submission_control same nonce connected)

theorem after_finish_ordered {listNonce : Nat} {fetch list : Wait}
    (isCall : s.calls call = some (.finishing nonce listNonce fetch list)) :
    (afterFinish s call second nonce listNonce fetch list answer).Ordered := by
  have listed := take_list_control s.panel listNonce answer
  unfold afterFinish
  split
  · split
    · refine ordered.finish_submission isCall rfl ?_ true rfl
      exact listed
    · exact ordered.waits isCall rfl listed
    · exact ordered.finish_submission isCall rfl listed true (fail_submission_control _ _ _ _)
    · exact ordered.finish_submission isCall rfl listed true (fail_submission_control _ _ _ _)
  split
  · refine ordered.finish_submission isCall rfl ?_ true rfl
    rfl
  · exact ordered.waits isCall rfl rfl
  · exact ordered.finish_submission isCall rfl rfl true (fail_submission_control _ _ _ _)
  · exact ordered.finish_submission isCall rfl rfl true (fail_submission_control _ _ _ _)
  · rw [System.Ordered, kinds_wait]
    exact end_submission ordered (kinds_some isCall) rfl
      (remains_listing (kinds_some isCall)) true (fail_submission_control _ _ _ _)

theorem resume_ordered (isCall : s.calls call = some state) :
    (resume s call second answer state).Ordered := by
  cases state with
  | switching | creating => exact after_transition_ordered ordered isCall rfl
  | refreshing nonce wait =>
    apply ordered.finish_operation isCall rfl
    have listed := take_list_control s.panel nonce answer
    unfold Panel.control at listed ⊢
    unfold endTransition
    injection listed with isSubmitting _ stream abort submissionNonce
    rw [isSubmitting, stream, abort, submissionNonce]
  | retitling id title wait => exact after_rename_ordered ordered isCall rfl
  | mutating mutation activeConversationID id epoch wait =>
    exact after_mutation_ordered ordered isCall rfl
  | mutated activeConversationID id epoch snapshot wait =>
    exact after_mutation_list_ordered ordered isCall rfl
  | listing nonce wait =>
    exact ordered.finish_listing isCall (take_list_control s.panel nonce answer)
  | connecting | streaming => exact ordered
  | finishing nonce listNonce fetch list => exact after_finish_ordered ordered isCall

theorem none_finishing_of_cancel {now : Nat}
    (stays : staysInView env s (.cancelActiveSubmission now) = true) (call nonce : Nat) :
    s.kinds call ≠ some (.finishing nonce) := by
  intro isCall
  obtain ⟨state, isState, isKind⟩ := map_eq_some_iff.mp isCall
  have latest := ordered.latest isCall
  have stream := ordered.connected (.inr (latest ▸ isCall))
  cases state with
  | finishing nonce listNonce fetch list =>
    have active : s.panel.activeStream.bind s.calls = s.calls call := by
      rw [show s.panel.activeStream = some call from stream]
      rfl
    simp [staysInView, active, isState] at stays
  | _ => cases isKind

theorem step_ordered {action : Action} (stays : staysInView env s action = true)
    (taken : step env s action = some next) : next.Ordered := by
  cases action with
  | switchConversation id =>
    obtain ⟨⟨_, _, free⟩, isNext⟩ := ite_none_right_eq_some.mp taken
    cases isNext
    exact ordered.started_operation free rfl (Nat.le_succ _) ⟨rfl, free.1⟩
  | createConversation =>
    obtain ⟨free, isNext⟩ := ite_none_right_eq_some.mp taken
    cases isNext
    exact ordered.started_operation free rfl (Nat.le_succ _) ⟨rfl, free.1⟩
  | renameConversation id title =>
    obtain ⟨⟨_, free⟩, isNext⟩ := ite_none_right_eq_some.mp taken
    cases isNext
    exact ordered.started_operation free rfl (Nat.le_refl _) ⟨rfl, free.1⟩
  | mutateConversation mutation id =>
    obtain ⟨⟨_, free⟩, isNext⟩ := ite_none_right_eq_some.mp taken
    cases isNext
    exact ordered.started_operation free rfl (Nat.le_succ _) ⟨rfl, free.1⟩
  | refreshConversationList =>
    cases taken
    rw [System.Ordered, kinds_start]
    exact start_listing ordered
  | submitDraft draft attachments now =>
    obtain ⟨⟨_, free⟩, isNext⟩ := ite_none_right_eq_some.mp taken
    cases isNext
    rw [System.Ordered, kinds_start]
    exact start_submission ordered free.1 free.2 rfl rfl rfl
  | cancelActiveSubmission now =>
    obtain ⟨_, isNext⟩ := ite_none_right_eq_some.mp taken
    cases isNext
    have noneFinishing := none_finishing_of_cancel ordered stays
    exact cancel ordered noneFinishing rfl rfl rfl
  | serve call second newID now fault =>
    simp only [step] at taken
    split at taken
    · cases taken
    next state isCall =>
      split at taken
      · obtain ⟨⟨backend, answer⟩, _, rfl⟩ := map_eq_some_iff.mp taken
        exact ordered.waits isCall (with_wait_kind second _ state) rfl
      · cases taken
  | deliver call second =>
    simp only [step] at taken
    split at taken
    · cases taken
    next state isCall =>
      split at taken
      · cases taken
        exact resume_ordered ordered isCall
      · cases taken
  | connected call =>
    simp only [step] at taken
    split at taken
    next nonce isCall =>
      split at taken
      next stale =>
        cases taken
        exact ordered.finish_listing isCall rfl
      next live =>
        cases taken
        rw [System.Ordered, kinds_wait]
        refine go_on ordered (kinds_some isCall) ?_ rfl rfl rfl
        exact congrArg some (not_not.mp live).symm
    · cases taken
  | event call event =>
    simp only [step] at taken
    split at taken
    next nonce streamErrored isCall =>
      split at taken
      · cases taken
      · cases taken
        exact ordered.waits isCall rfl rfl
    · cases taken
  | done call =>
    simp only [step] at taken
    split at taken
    next nonce streamErrored isCall =>
      split at taken
      next isLive =>
        cases taken
        have live : (Call.streaming nonce streamErrored).kind.nonce =
            some s.panel.control.submissionNonce := congrArg some isLive.1.symm
        rw [System.Ordered, kinds_wait]
        refine go_on ordered (kinds_some isCall) live rfl ?_ rfl
        apply ordered.connected
        left
        rw [kinds_some isCall]
        exact congrArg (fun nonce => some (Kind.streaming nonce)) isLive.1.symm
      · cases taken
        exact ordered.finish_submission isCall rfl rfl true rfl
    · cases taken
  | failed call errorMessage =>
    simp only [step] at taken
    split at taken
    next nonce isCall =>
      cases taken
      exact ordered.finish_submission isCall rfl rfl false (fail_submission_control _ _ _ _)
    next nonce streamErrored isCall =>
      cases taken
      exact ordered.finish_submission isCall rfl rfl true (fail_submission_control _ _ _ _)
    · cases taken
  | backend attempt =>
    obtain ⟨_, isNext⟩ := ite_none_right_eq_some.mp taken
    obtain ⟨backend, _, rfl⟩ := map_eq_some_iff.mp isNext
    exact ordered

end

end

end RuneTerminal.AgentConversations
