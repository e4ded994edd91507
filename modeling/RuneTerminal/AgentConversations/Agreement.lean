import RuneTerminal.AgentConversations.Runs

/-! Every call keeps what the panel needs to show the active conversation when it ends. Only a
change of the conversations moves the active one. -/

namespace RuneTerminal.AgentConversations

open Go.Strings (trimSpace)
open Conversation (ApiAnswer ApiRequest Environment Message Snapshot movesActive)
open Kit Table Option Conversation Call

def Wait.Brings (displayed : Option String) (active : String) : Wait → Prop
  | .answered (.snapshot snapshot) => snapshot.id = active
  | _ => displayed = some active

def Wait.Describes (active : String) : Wait → Prop
  | .answered (.snapshot snapshot) => snapshot.id = active
  | .resolved (.snapshot snapshot) => snapshot.id = active
  | _ => True

def Wait.Lists : Wait → Prop
  | .sent => True
  | .answered (.list _) => True
  | _ => False

def Call.Agrees (displayed : Option String) (epoch : Nat) (active : String) : Call → Prop
  | .switching _ started wait => started = epoch ∧ wait.Brings displayed active
  | .creating started wait => started = epoch ∧ wait.Brings displayed active
  | .refreshing _ _ => displayed = some active
  | .retitling _ _ wait => displayed = some active ∧ wait.Describes active
  | .mutating _ activeConversationID conversationID started wait =>
    started = epoch ∧ (activeConversationID = conversationID → wait.Brings displayed active) ∧
      (activeConversationID ≠ conversationID → displayed = some active)
  | .mutated activeConversationID conversationID started snapshot wait =>
    started = epoch ∧ (activeConversationID = conversationID → snapshot.id = active) ∧
      (displayed = some active ∨ activeConversationID = conversationID ∧ wait.Lists)
  | .listing _ _ => True
  | .connecting _ => True
  | .streaming _ _ => True
  | .finishing _ _ fetch _ => fetch.Describes active

/-- Every call agrees with the panel and the service, and when no change of the conversations is
under way the panel shows the active one. -/
structure Agreement (s : System) : Prop where
  calls : ∀ {call state}, s.calls call = some state →
    state.Agrees s.panel.displayed s.panel.panelStateEpoch s.active
  settled : (∀ call, s.kinds call ≠ some .operation) → s.panel.displayed = some s.active

variable {s : System} {panel : Panel} {epoch : Nat} {displayed : Option String} {state after : Call}
  {request : ApiRequest} {activeConversationID : String}

section

variable {next : System} {call : Nat}

theorem agrees_of_idle {active : String} (notOperation : state.kind ≠ .operation)
    (notFinishing : ∀ nonce, state.kind ≠ .finishing nonce) :
    state.Agrees displayed epoch active := by
  cases state with
  | listing | connecting | streaming => trivial
  | finishing nonce listNonce fetch list => exact absurd rfl (notFinishing nonce)
  | _ => exact absurd rfl notOperation

theorem agrees_of_not_operation {other : Option String} {otherEpoch : Nat} {active : String}
    (notOperation : state.kind ≠ .operation) (agrees : state.Agrees displayed epoch active) :
    state.Agrees other otherEpoch active := by
  cases state with
  | listing | connecting | streaming => trivial
  | finishing nonce listNonce fetch list => exact agrees
  | _ => exact absurd rfl notOperation

theorem kind_ne {kind : Kind} (isCall : s.calls call = some state) (ne : s.kinds call ≠ some kind) :
    state.kind ≠ kind := by
  intro same
  exact ne (same ▸ kinds_some isCall)

variable (call) in
theorem Agreement.beside (agreement : Agreement s) (notOperation : s.kinds call ≠ some .operation)
    (displayed : next.panel.displayed = s.panel.displayed)
    (epoch : next.panel.panelStateEpoch = s.panel.panelStateEpoch) (active : next.active = s.active)
    (others : ∀ other, other ≠ call → next.calls other = s.calls other)
    (mine : ∀ state, next.calls call = some state →
      state.Agrees s.panel.displayed s.panel.panelStateEpoch s.active) :
    Agreement next := by
  constructor
  · intro other state isOther
    rw [displayed, epoch, active]
    by_cases same : other = call
    · subst same
      exact mine state isOther
    · rw [others other same] at isOther
      exact agreement.calls isOther
  intro none
  rw [displayed, active]
  apply agreement.settled
  intro other
  by_cases same : other = call
  · subst same
    exact notOperation
  have here := none other
  unfold System.kinds at here ⊢
  rw [others other same] at here
  exact here

theorem Agreement.same (agreement : Agreement s)
    (displayed : next.panel.displayed = s.panel.displayed)
    (epoch : next.panel.panelStateEpoch = s.panel.panelStateEpoch) (active : next.active = s.active)
    (calls : next.calls = s.calls) : Agreement next := by
  constructor
  · intro call state isCall
    rw [calls] at isCall
    rw [displayed, epoch, active]
    exact agreement.calls isCall
  intro none
  rw [displayed, active]
  apply agreement.settled
  unfold System.kinds at none ⊢
  rw [calls] at none
  exact none

theorem Agreement.operation (ordered : s.Ordered) (isOperation : s.kinds call = some .operation)
    (others : ∀ other, other ≠ call → next.calls other = s.calls other)
    (mine : ∀ state, next.calls call = some state →
      state.Agrees next.panel.displayed next.panel.panelStateEpoch next.active)
    (shows : next.kinds call ≠ some .operation → next.panel.displayed = some next.active) :
    Agreement next := by
  constructor
  · intro other state isOther
    by_cases same : other = call
    · subst same
      exact mine state isOther
    rw [others other same] at isOther
    obtain ⟨notOperation, notFinishing⟩ := ordered.beside_operation isOperation same
    exact agrees_of_idle (kind_ne isOther notOperation)
      (fun nonce => kind_ne isOther (notFinishing nonce))
  · intro none
    exact shows (none call)

theorem Agreement.start_operation (ordered : s.Ordered) (agreement : Agreement s)
    (free : s.panel.Free) (isOperation : state.kind = .operation)
    (displayed : panel.displayed = s.panel.displayed)
    (agrees : state.Agrees (some s.active) panel.panelStateEpoch s.active) :
    Agreement (s.start panel state) := by
  have none : ∀ call, s.kinds call ≠ some .operation := ordered.no_operation free.2
  have shown := agreement.settled none
  constructor
  · intro call found isCall
    rcases insert_eq_some isCall with ⟨_, rfl⟩ | ⟨_, isCall⟩
    · change Call.Agrees panel.displayed _ _ _
      rw [displayed, shown]
      exact agrees
    · exact agrees_of_not_operation (kind_ne isCall (none call)) (agreement.calls isCall)
  · intro noneAfter
    have started := noneAfter s.started
    rw [kinds_start, insert_self, isOperation] at started
    exact absurd rfl started

theorem Agreement.shows (ordered : s.Ordered) (agreement : Agreement s) {nonce : Nat}
    (isFinishing : s.kinds call = some (.finishing nonce))
    (displayed : panel.displayed = some s.active) : Agreement (s.finish panel call) := by
  have none : ∀ other, s.kinds other ≠ some .operation := by
    intro other isOperation
    exact ordered.none_finishing (ordered.pending isOperation).2 call nonce isFinishing
  constructor
  · intro other state isOther
    obtain ⟨_, isOther⟩ := erase_eq_some isOther
    exact agrees_of_not_operation (kind_ne isOther (none other)) (agreement.calls isOther)
  · intro _
    exact displayed

end

variable {env : Environment} {second : Bool} {id : String}

section

variable {call : Nat} {newID : String} {now : Nat} {fault : Option Conversation.Fault}
  {backend : Conversation.System} {answer : ApiAnswer}

def System.served (s : System) (backend : Conversation.System) (call : Nat) (state : Call) :
    System :=
  { s with backend := backend, calls := s.calls.insert call state }

theorem serve_operation_agrees (ordered : s.Ordered) (isCall : s.calls call = some state)
    (isOperation : state.kind = .operation) (same : after.kind = state.kind)
    (agrees : after.Agrees s.panel.displayed s.panel.panelStateEpoch backend.store.active.id) :
    Agreement (s.served backend call after) := by
  apply @Agreement.operation s _ call ordered
  · rw [kinds_some isCall, isOperation]
  · intro other ne
    exact insert_of_ne ne _
  · intro found isFound
    cases ((insert_self s.calls call after).symm.trans isFound)
    exact agrees
  intro notOperation
  have here : (s.served backend call after).kinds call = some after.kind :=
    kinds_some (insert_self s.calls call after)
  rw [here, same, isOperation] at notOperation
  exact absurd rfl notOperation

theorem serve_beside_agrees (agreement : Agreement s) (isCall : s.calls call = some state)
    (notOperation : state.kind ≠ .operation) (sameBackend : backend = s.backend)
    (agrees : after.Agrees s.panel.displayed s.panel.panelStateEpoch s.active) :
    Agreement (s.served backend call after) := by
  apply @Agreement.beside s _ call agreement
  · rw [kinds_some isCall]
    exact fun isOperation => notOperation (some.inj isOperation)
  · rfl
  · rfl
  · rw [sameBackend]
    rfl
  · intro other ne
    exact insert_of_ne ne _
  · intro found isFound
    cases ((insert_self s.calls call after).symm.trans isFound)
    exact agrees

theorem served_brings (returns : request.returnsActive = true) (shown : displayed = some s.active)
    (served : Conversation.serve env s.backend newID now fault request = some (backend, answer)) :
    (Wait.answered answer).Brings displayed backend.store.active.id := by
  rcases served_active returns served with
    ⟨snapshot, rfl, isActive⟩ | ⟨⟨text, rfl⟩, same⟩
  · exact isActive
  · rw [shown, same]
    rfl

theorem serve_retitling_agrees {title : String} (shown : s.panel.displayed = some s.active)
    (isCall : s.calls call = some (.retitling id title .sent))
    (stays : staysInView env s (.serve call second newID now fault) = true)
    (served : Conversation.serve env s.backend newID now fault (.renameConversation id title) =
      some (backend, answer)) :
    s.panel.displayed = some backend.store.active.id ∧
    (Wait.answered answer).Describes backend.store.active.id := by
  obtain ⟨same, described⟩ := served_rename served
  refine ⟨by rw [shown, same]; rfl, ?_⟩
  cases answer with
  | snapshot snapshot =>
    obtain ⟨sameID, rfl, titled, known⟩ := described snapshot rfl
    simp only [staysInView, isCall, decide_eq_true_eq] at stays
    change snapshot.id = backend.store.active.id
    rw [sameID, stays titled known, same]
    rfl
  | list | failed => trivial

theorem serve_mutation_agrees {mutation : Mutation} {activeConversationID : String} {epoch : Nat}
    (shown : s.panel.displayed = some s.active)
    (isCall : s.calls call = some (.mutating mutation activeConversationID id epoch .sent))
    (stays : staysInView env s (.serve call second newID now fault) = true)
    (served : Conversation.serve env s.backend newID now fault (mutation.request id) =
      some (backend, answer)) :
    (activeConversationID = id →
      (Wait.answered answer).Brings s.panel.displayed backend.store.active.id) ∧
    (activeConversationID ≠ id → s.panel.displayed = some backend.store.active.id) := by
  have unmoved (isMutation : mutation.request id = .deleteConversation id ∨
      mutation.request id = .archiveConversation id)
      (notTaken : activeConversationID ≠ id)
      (guarded : fault = none →
        movesActive s.backend.store (mutation.request id) = true →
          activeConversationID = id) :
      s.panel.displayed = some backend.store.active.id := by
    have same : backend.store.active.id = s.backend.store.active.id := by
      cases fault with
      | some fault => exact congrArg _ (serve_fault served).2
      | none =>
        refine served_unmoved ?_ isMutation served
        rw [Bool.eq_false_iff]
        exact fun moves => notTaken (guarded rfl moves)
    rw [shown, same]
    rfl
  cases mutation with
  | restore =>
    obtain ⟨same, described⟩ := served_restore served
    refine ⟨?_, fun _ => by rw [shown, same]; rfl⟩
    intro taken
    cases answer with
    | snapshot snapshot =>
      obtain ⟨sameID, rfl, known⟩ := described snapshot rfl
      simp only [staysInView, isCall, decide_eq_true_eq] at stays
      change snapshot.id = backend.store.active.id
      rw [sameID, stays taken known, same]
      rfl
    | list | failed =>
      rw [shown, same]
      rfl
  | delete =>
    refine ⟨fun _ => served_brings rfl shown served, fun notTaken => ?_⟩
    apply unmoved (.inl rfl) notTaken
    rintro rfl
    simp only [staysInView, isCall, decide_eq_true_eq] at stays
    exact stays
  | archive =>
    refine ⟨fun _ => served_brings rfl shown served, fun notTaken => ?_⟩
    apply unmoved (.inr rfl) notTaken
    rintro rfl
    simp only [staysInView, isCall, decide_eq_true_eq] at stays
    exact stays

theorem serve_mutated_agrees {activeConversationID : String} {epoch : Nat} {snapshot : Snapshot}
    (agrees : (Call.mutated activeConversationID id epoch snapshot .sent).Agrees s.panel.displayed
      s.panel.panelStateEpoch s.active)
    (isCall : s.calls call = some (.mutated activeConversationID id epoch snapshot .sent))
    (stays : staysInView env s (.serve call second newID now fault) = true)
    (served : Conversation.serve env s.backend newID now fault .conversationList =
      some (backend, answer)) :
    (Call.mutated activeConversationID id epoch snapshot (.answered answer)).Agrees
      s.panel.displayed s.panel.panelStateEpoch backend.store.active.id := by
  obtain ⟨same, outcome⟩ := served_list served
  obtain ⟨started, describes, shows⟩ := agrees
  rw [same]
  refine ⟨started, describes, ?_⟩
  rcases outcome with ⟨active, rfl⟩ | ⟨_, reason, rfl⟩
  · exact shows.imp_right fun taken => ⟨taken.1, trivial⟩
  · simp only [staysInView, isCall, decide_eq_true_eq] at stays
    exact .inl stays

theorem serve_agrees (ordered : s.Ordered) (agreement : Agreement s)
    (isCall : s.calls call = some state) (isRequest : state.request second = some (request, .sent))
    (stays : staysInView env s (.serve call second newID now fault) = true)
    (served : Conversation.serve env s.backend newID now fault request = some (backend, answer)) :
    Agreement (s.served backend call (state.withWait second (.answered answer))) := by
  have agrees := agreement.calls isCall
  cases state with
  | switching | creating =>
    cases isRequest
    apply serve_operation_agrees ordered isCall rfl (with_wait_kind second _ _)
    exact ⟨agrees.1, served_brings rfl agrees.2 served⟩
  | refreshing nonce wait =>
    cases isRequest
    apply serve_operation_agrees ordered isCall rfl (with_wait_kind second _ _)
    rw [serve_read rfl served]
    exact agrees
  | retitling id title wait =>
    cases isRequest
    apply serve_operation_agrees ordered isCall rfl (with_wait_kind second _ _)
    exact serve_retitling_agrees agrees.1 isCall stays served
  | mutating mutation activeConversationID id epoch wait =>
    cases isRequest
    obtain ⟨started, taken, notTaken⟩ := agrees
    have shown : s.panel.displayed = some s.active := by
      by_cases same : activeConversationID = id
      · exact taken same
      · exact notTaken same
    apply serve_operation_agrees ordered isCall rfl (with_wait_kind second _ _)
    exact ⟨started, serve_mutation_agrees shown isCall stays served⟩
  | mutated activeConversationID id epoch snapshot wait =>
    cases isRequest
    apply serve_operation_agrees ordered isCall rfl (with_wait_kind second _ _)
    exact serve_mutated_agrees agrees isCall stays served
  | listing nonce wait =>
    cases isRequest
    refine serve_beside_agrees agreement isCall ?_ (serve_read rfl served) trivial
    simp [kind]
  | connecting | streaming => cases isRequest
  | finishing nonce listNonce fetch list =>
    have notOperation : (finishing nonce listNonce fetch list).kind ≠ .operation := by
      simp [kind]
    cases second with
    | true =>
      cases isRequest
      exact serve_beside_agrees agreement isCall notOperation
        (serve_read rfl served) agrees
    | false =>
      cases isRequest
      obtain ⟨same, described⟩ := served_snapshot served
      apply serve_beside_agrees agreement isCall notOperation same
      cases answer with
      | snapshot snapshot => exact described snapshot rfl
      | list | failed => trivial

end

section

variable {call : Nat} {answer : ApiAnswer}

theorem take_list_displayed (panel : Panel) (nonce : Nat) (answer : ApiAnswer) :
    (panel.takeList nonce answer).displayed = panel.displayed ∧
    (panel.takeList nonce answer).panelStateEpoch = panel.panelStateEpoch := by
  unfold Panel.takeList
  split
  · split
    · exact ⟨rfl, rfl⟩
    · exact ⟨rfl, rfl⟩
  · exact ⟨rfl, rfl⟩

theorem end_submission_displayed (panel : Panel) (nonce : Nat) (connected : Bool) :
    (panel.endSubmission nonce connected).displayed = panel.displayed ∧
    (panel.endSubmission nonce connected).panelStateEpoch = panel.panelStateEpoch := by
  unfold Panel.endSubmission
  split_ifs
  · exact ⟨rfl, rfl⟩
  · exact ⟨rfl, rfl⟩
  · exact ⟨rfl, rfl⟩

theorem fail_submission_displayed (panel : Panel) (nonce : Nat) (connected : Bool)
    (message : String) :
    (panel.failSubmission nonce connected message).displayed = panel.displayed ∧
    (panel.failSubmission nonce connected message).panelStateEpoch = panel.panelStateEpoch := by
  unfold Panel.failSubmission
  by_cases isLive : panel.submissionNonce = nonce
  · rw [if_pos isLive]
    exact end_submission_displayed _ nonce connected
  · rw [if_neg isLive]
    exact ⟨rfl, rfl⟩

section

variable (ordered : s.Ordered) (isCall : s.calls call = some state)
  (isOperation : state.kind = .operation)
include ordered isCall isOperation

theorem finish_operation_agrees (shown : panel.displayed = some s.active) :
    Agreement (s.finish panel call) := by
  apply @Agreement.operation s _ call ordered
  · rw [kinds_some isCall, isOperation]
  · intro other ne
    exact erase_of_ne ne
  · intro found isFound
    change s.calls.erase call call = some found at isFound
    rw [erase_self] at isFound
    cases isFound
  · intro _
    exact shown

theorem wait_operation_agrees (agrees : after.Agrees panel.displayed panel.panelStateEpoch s.active)
    (shown : after.kind ≠ .operation → panel.displayed = some s.active) :
    Agreement (s.wait panel call after) := by
  apply @Agreement.operation s _ call ordered
  · rw [kinds_some isCall, isOperation]
  · intro other ne
    exact insert_of_ne ne _
  · intro found isFound
    cases ((insert_self s.calls call after).symm.trans isFound)
    exact agrees
  intro notOperation
  apply shown
  intro same
  apply notOperation
  rw [kinds_wait, insert_self, same]

end

theorem finish_beside_agrees {panel : Panel} {state : Call} (agreement : Agreement s)
    (isCall : s.calls call = some state) (notOperation : state.kind ≠ .operation)
    (displayed : panel.displayed = s.panel.displayed)
    (epoch : panel.panelStateEpoch = s.panel.panelStateEpoch) :
    Agreement (s.finish panel call) := by
  refine agreement.beside call ?_ displayed epoch rfl ?_ ?_
  · rw [kinds_some isCall]
    exact fun isOperation => notOperation (some.inj isOperation)
  · intro other ne
    exact erase_of_ne ne
  intro found isFound
  change s.calls.erase call call = some found at isFound
  rw [erase_self] at isFound
  cases isFound

theorem wait_beside_agrees {panel : Panel} {state after : Call} (agreement : Agreement s)
    (isCall : s.calls call = some state) (notOperation : state.kind ≠ .operation)
    (displayed : panel.displayed = s.panel.displayed)
    (epoch : panel.panelStateEpoch = s.panel.panelStateEpoch)
    (agrees : after.Agrees s.panel.displayed s.panel.panelStateEpoch s.active) :
    Agreement (s.wait panel call after) := by
  refine agreement.beside call ?_ displayed epoch rfl ?_ ?_
  · rw [kinds_some isCall]
    exact fun isOperation => notOperation (some.inj isOperation)
  · intro other ne
    exact insert_of_ne ne _
  · intro found isFound
    cases ((insert_self s.calls call after).symm.trans isFound)
    exact agrees

section

variable (ordered : s.Ordered) (isCall : s.calls call = some state)
  (isOperation : state.kind = .operation)
include ordered isCall isOperation

theorem after_transition_agrees (started : epoch = s.panel.panelStateEpoch)
    (brings : (Wait.answered answer).Brings s.panel.displayed s.active) :
    Agreement (afterTransition s call epoch answer) := by
  unfold afterTransition
  split
  next snapshot =>
    rw [if_neg (not_not.mpr started.symm)]
    have shown : some snapshot.id = some s.active := congrArg some brings
    apply wait_operation_agrees ordered isCall isOperation
    · exact shown
    · intro _
      exact shown
  next other =>
    apply finish_operation_agrees ordered isCall isOperation
    cases answer with
    | snapshot snapshot => exact absurd rfl (other snapshot)
    | list | failed => exact brings

theorem after_rename_agrees (shown : s.panel.displayed = some s.active)
    (describes : (Wait.answered answer).Describes s.active) :
    Agreement (afterRename s call answer) := by
  unfold afterRename
  split
  next snapshot =>
    apply wait_operation_agrees ordered isCall isOperation
    · trivial
    · intro _
      exact congrArg some describes
  · exact finish_operation_agrees ordered isCall isOperation shown

theorem after_mutation_agrees (started : epoch = s.panel.panelStateEpoch)
    (taken : activeConversationID = id → (Wait.answered answer).Brings s.panel.displayed s.active)
    (notTaken : activeConversationID ≠ id → s.panel.displayed = some s.active) :
    Agreement (afterMutation s call activeConversationID id epoch answer) := by
  unfold afterMutation
  split
  next snapshot =>
    apply wait_operation_agrees ordered isCall isOperation
    · refine ⟨started, taken, ?_⟩
      by_cases same : activeConversationID = id
      · exact .inr ⟨same, trivial⟩
      · exact .inl (notTaken same)
    · intro notOperation
      exact absurd rfl notOperation
  next other =>
    apply finish_operation_agrees ordered isCall isOperation
    by_cases same : activeConversationID = id
    · have brings := taken same
      cases answer with
      | snapshot snapshot => exact absurd rfl (other snapshot)
      | list | failed => exact brings
    · exact notTaken same

theorem after_mutation_list_agrees {activeConversationID id : String} {epoch : Nat}
    {snapshot : Snapshot} (started : epoch = s.panel.panelStateEpoch)
    (describes : activeConversationID = id → snapshot.id = s.active)
    (shows : s.panel.displayed = some s.active ∨
      activeConversationID = id ∧ (Wait.answered answer).Lists) :
    Agreement (afterMutationList s call activeConversationID id epoch snapshot answer) := by
  unfold afterMutationList
  split
  next active =>
    rw [if_neg (not_not.mpr started.symm)]
    apply finish_operation_agrees ordered isCall isOperation
    by_cases same : activeConversationID = id
    · rw [if_pos same]
      exact congrArg some (describes same)
    · rw [if_neg same]
      exact shows.resolve_right fun taken => same taken.1
  next other =>
    apply finish_operation_agrees ordered isCall isOperation
    apply shows.resolve_right
    rintro ⟨_, lists⟩
    cases answer with
    | list active => exact other active rfl
    | snapshot | failed => exact lists

end

theorem after_finish_agrees {nonce listNonce : Nat} {fetch list : Wait} (ordered : s.Ordered)
    (agreement : Agreement s) (isCall : s.calls call = some (.finishing nonce listNonce fetch list))
    (answered : second = false → fetch = .answered answer) :
    Agreement (afterFinish s call second nonce listNonce fetch list answer) := by
  have describes : fetch.Describes s.active := agreement.calls isCall
  have isFinishing : s.kinds call = some (.finishing nonce) := kinds_some isCall
  have listed := take_list_displayed s.panel listNonce answer
  have failed (panel : Panel) (message : String) :=
    fail_submission_displayed panel nonce true message
  have notOperation : (finishing nonce listNonce fetch list).kind ≠ .operation := by
    simp [kind]
  have ends {panel : Panel} := @finish_beside_agrees s call panel _ agreement isCall notOperation
  have waits {panel : Panel} {after : Call} :=
    @wait_beside_agrees s call panel _ after agreement isCall notOperation
  unfold afterFinish
  split
  · split
    next snapshot =>
      apply Agreement.shows ordered agreement isFinishing
      rw [(end_submission_displayed _ nonce true).1]
      exact congrArg some describes
    · exact waits listed.1 listed.2 describes
    · exact ends ((failed _ _).1.trans listed.1) ((failed _ _).2.trans listed.2)
    · exact ends ((failed _ _).1.trans listed.1) ((failed _ _).2.trans listed.2)
  next isFetch =>
    rw [answered (Bool.eq_false_iff.mpr isFetch)] at describes
    split
    · apply Agreement.shows ordered agreement isFinishing
      rw [(end_submission_displayed _ nonce true).1]
      exact congrArg some describes
    · exact waits rfl rfl describes
    · exact ends (failed _ _).1 (failed _ _).2
    · exact ends (failed _ _).1 (failed _ _).2
    · exact waits (failed _ _).1 (failed _ _).2 trivial

theorem resume_agrees (ordered : s.Ordered) (agreement : Agreement s)
    (isCall : s.calls call = some state)
    (isRequest : state.request second = some (request, .answered answer)) :
    Agreement (resume s call second answer state) := by
  have agrees := agreement.calls isCall
  cases state with
  | switching | creating =>
    cases isRequest
    exact after_transition_agrees ordered isCall rfl agrees.1 agrees.2
  | refreshing nonce wait =>
    apply finish_operation_agrees ordered isCall rfl
    exact (take_list_displayed s.panel nonce answer).1.trans agrees
  | retitling id title wait =>
    cases isRequest
    exact after_rename_agrees ordered isCall rfl agrees.1 agrees.2
  | mutating mutation activeConversationID id epoch wait =>
    cases isRequest
    exact after_mutation_agrees ordered isCall rfl agrees.1 agrees.2.1 agrees.2.2
  | mutated activeConversationID id epoch snapshot wait =>
    cases isRequest
    exact after_mutation_list_agrees ordered isCall rfl agrees.1 agrees.2.1 agrees.2.2
  | listing nonce wait =>
    obtain ⟨displayed, epoch⟩ := take_list_displayed s.panel nonce answer
    apply finish_beside_agrees agreement isCall _ displayed epoch
    simp [kind]
  | connecting | streaming => cases isRequest
  | finishing nonce listNonce fetch list =>
    apply after_finish_agrees ordered agreement isCall
    rintro rfl
    exact (Prod.mk.inj (some.inj isRequest)).2

end

section

variable {next : System}

theorem start_beside_agrees (ordered : s.Ordered) (agreement : Agreement s)
    (displayed : panel.displayed = s.panel.displayed)
    (epoch : panel.panelStateEpoch = s.panel.panelStateEpoch)
    (agrees : state.Agrees s.panel.displayed s.panel.panelStateEpoch s.active) :
    Agreement (s.start panel state) := by
  have absent : s.kinds s.started ≠ some .operation := by
    intro isCall
    exact absurd (ordered.started isCall) (Nat.lt_irrefl _)
  refine agreement.beside s.started absent displayed epoch rfl ?_ ?_
  · intro other ne
    exact insert_of_ne ne _
  intro found isFound
  have here : (s.start panel state).calls s.started = some state := insert_self _ _ _
  cases (here.symm.trans isFound)
  exact agrees

theorem step_agreement {action : Action} (ordered : s.Ordered) (agreement : Agreement s)
    (stays : staysInView env s action = true) (taken : step env s action = some next) :
    Agreement next := by
  cases action with
  | switchConversation id =>
    obtain ⟨⟨_, _, free⟩, isNext⟩ := ite_none_right_eq_some.mp taken
    cases isNext
    exact agreement.start_operation ordered free rfl rfl ⟨rfl, rfl⟩
  | createConversation =>
    obtain ⟨free, isNext⟩ := ite_none_right_eq_some.mp taken
    cases isNext
    exact agreement.start_operation ordered free rfl rfl ⟨rfl, rfl⟩
  | renameConversation id title =>
    obtain ⟨⟨_, free⟩, isNext⟩ := ite_none_right_eq_some.mp taken
    cases isNext
    exact agreement.start_operation ordered free rfl rfl ⟨rfl, trivial⟩
  | mutateConversation mutation id =>
    obtain ⟨⟨_, free⟩, isNext⟩ := ite_none_right_eq_some.mp taken
    cases isNext
    exact agreement.start_operation ordered free rfl rfl ⟨rfl, fun _ => rfl, fun _ => rfl⟩
  | refreshConversationList =>
    cases taken
    exact start_beside_agrees ordered agreement rfl rfl trivial
  | submitDraft draft attachments now =>
    obtain ⟨_, isNext⟩ := ite_none_right_eq_some.mp taken
    cases isNext
    exact start_beside_agrees ordered agreement rfl rfl trivial
  | cancelActiveSubmission now =>
    obtain ⟨_, isNext⟩ := ite_none_right_eq_some.mp taken
    cases isNext
    exact agreement.same rfl rfl rfl rfl
  | serve call second newID now fault =>
    simp only [step] at taken
    split at taken
    · cases taken
    next state isCall =>
      split at taken
      next request isRequest =>
        obtain ⟨⟨backend, answer⟩, served, rfl⟩ := map_eq_some_iff.mp taken
        exact serve_agrees ordered agreement isCall isRequest stays served
      · cases taken
  | deliver call second =>
    simp only [step] at taken
    split at taken
    · cases taken
    next state isCall =>
      split at taken
      next request answer isRequest =>
        cases taken
        exact resume_agrees ordered agreement isCall isRequest
      · cases taken
  | connected call =>
    simp only [step] at taken
    split at taken
    next nonce isCall =>
      have notOperation : (connecting nonce).kind ≠ .operation := by simp [kind]
      split at taken
      · cases taken
        exact finish_beside_agrees agreement isCall notOperation rfl rfl
      · cases taken
        exact wait_beside_agrees agreement isCall notOperation rfl rfl trivial
    · cases taken
  | event call event =>
    simp only [step] at taken
    split at taken
    next nonce streamErrored isCall =>
      split at taken
      · cases taken
      cases taken
      refine wait_beside_agrees agreement isCall ?_ rfl rfl ?_
      · simp [kind]
      · trivial
    · cases taken
  | done call =>
    simp only [step] at taken
    split at taken
    next nonce streamErrored isCall =>
      have notOperation : (streaming nonce streamErrored).kind ≠ .operation := by
        simp [kind]
      split at taken
      · cases taken
        exact wait_beside_agrees agreement isCall notOperation rfl rfl trivial
      · cases taken
        obtain ⟨displayed, epoch⟩ := end_submission_displayed s.panel nonce true
        exact finish_beside_agrees agreement isCall notOperation displayed epoch
    · cases taken
  | failed call errorMessage =>
    simp only [step] at taken
    split at taken
    next nonce isCall =>
      cases taken
      obtain ⟨displayed, epoch⟩ := fail_submission_displayed s.panel nonce false errorMessage
      apply finish_beside_agrees agreement isCall _ displayed epoch
      simp [kind]
    next nonce streamErrored isCall =>
      cases taken
      obtain ⟨displayed, epoch⟩ := fail_submission_displayed s.panel nonce true errorMessage
      apply finish_beside_agrees agreement isCall _ displayed epoch
      simp [kind]
    · cases taken
  | backend attempt =>
    obtain ⟨isSubmission, isNext⟩ := ite_none_right_eq_some.mp taken
    obtain ⟨backend, ran, rfl⟩ := map_eq_some_iff.mp isNext
    exact agreement.same rfl rfl (submission_keeps_active isSubmission ran) rfl

end

theorem System.Initial.ordered (isStart : s.Initial env) : s.Ordered := by
  obtain ⟨_, noCalls, hostId, panel⟩ := isStart
  have noKinds : ∀ call, s.kinds call = none := by
    intro call
    unfold System.kinds
    rw [noCalls]
    rfl
  constructor <;> simp [noKinds]

theorem System.Initial.agreement (isStart : s.Initial env) : Agreement s := by
  obtain ⟨_, noCalls, hostId, panel⟩ := isStart
  constructor
  · intro call state isCall
    rw [noCalls] at isCall
    cases isCall
  · intro _
    rw [panel]
    rfl

/-- When no change of the conversations is under way the panel shows the active one. -/
theorem panel_shows_active_conversation {env : Environment} {s : System}
    (reachable : Reachable (System.Initial env) (guarded (staysInView env) (step env)) s) :
    (s.Quiet → s.panel.displayed = some s.active) ∧
    ∀ call nonce listNonce fetch list, s.calls call = some (.finishing nonce listNonce fetch list) →
      nonce = s.panel.submissionNonce := by
  have both : s.Ordered ∧ Agreement s := by
    apply reachable.invariant (fun isStart => ⟨isStart.ordered, isStart.agreement⟩)
    rintro before action after ⟨ordered, agreement⟩ taken
    obtain ⟨stays, taken⟩ := guarded_eq_some.mp taken
    exact ⟨step_ordered ordered stays taken, step_agreement ordered agreement stays taken⟩
  obtain ⟨ordered, agreement⟩ := both
  constructor
  · intro quiet
    apply agreement.settled
    intro call isOperation
    have absent : s.calls call = none := quiet call (ordered.started isOperation)
    unfold System.kinds at isOperation
    rw [absent] at isOperation
    cases isOperation
  · intro call nonce listNonce fetch list isCall
    exact ordered.latest (kinds_some isCall)

def System.fresh : System where
  panel := ({ hostId := "host" } : Panel).applyConversationSnapshot
    (Conversation.System.bootstrapped "conv_a" 0).store.snapshotLocked
  backend := Conversation.System.bootstrapped "conv_a" 0

theorem fresh_initial : System.fresh.Initial ⟨true, trimSpace⟩ :=
  ⟨⟨⟨[], [], ""⟩, .ok {}, "conv_a", 0, by decide, by decide +kernel, fun _ => rfl⟩, rfl, "host",
    rfl⟩

theorem panel_shows_active_conversation_archived :
    ∃ s,
      Reachable (System.Initial ⟨true, trimSpace⟩)
        (guarded (staysInView ⟨true, trimSpace⟩) (step ⟨true, trimSpace⟩)) s ∧
      (s.Quiet ∧ s.active = "conv_a" ∧ s.panel.submissionNonce = 3) ∧
      (s.Quiet → s.panel.displayed = some s.active) ∧
      ∀ call nonce listNonce fetch list,
        s.calls call = some (.finishing nonce listNonce fetch list) →
        nonce = s.panel.submissionNonce := by
  have ran : (runActions (guarded (staysInView ⟨true, trimSpace⟩) (step ⟨true, trimSpace⟩))
      System.fresh
      [.createConversation, .serve 0 false "conv_b" 1 none, .deliver 0 false,
        .serve 0 false "" 2 none, .deliver 0 false,
        .renameConversation "conv_b" "plan", .serve 1 false "" 3 none, .deliver 1 false,
        .refreshConversationList, .serve 1 false "" 4 none, .serve 2 false "" 5 none,
        .deliver 2 false, .mutateConversation .archive "conv_b", .deliver 1 false,
        .serve 3 false "conv_c" 6 none, .deliver 3 false, .serve 3 false "" 7 none,
        .deliver 3 false,
        .submitDraft "hello" [] 8, .connected 4, .done 4, .serve 4 true "" 9 none,
        .serve 4 false "" 10 none, .deliver 4 false, .deliver 4 true]).map (fun s =>
      decide (s.Quiet ∧ s.active = "conv_a" ∧ s.panel.submissionNonce = 3)) = some true := by
    decide +kernel
  obtain ⟨s, reachable, tested⟩ := reachable_of_run fresh_initial ran
  exact ⟨s, reachable, of_decide_eq_true tested, panel_shows_active_conversation reachable⟩

/-- A renamed conversation that is not the active one is shown, and a late snapshot replaces the
message of the next submission. -/
theorem renamed_conversation_is_shown :
    (∃ s, Reachable (System.Initial ⟨true, trimSpace⟩) (step ⟨true, trimSpace⟩) s ∧
      s.Quiet ∧ s.panel.displayed = some "conv_a" ∧ s.active = "conv_b") ∧
    ∃ s, Reachable (System.Initial ⟨true, trimSpace⟩) (step ⟨true, trimSpace⟩) s ∧
      s.calls 0 = some (.finishing 1 1
        (.answered (.snapshot s.backend.store.snapshotLocked)) (.resolved (.list "conv_a"))) ∧
      s.panel.submissionNonce = 3 ∧
      (s.panel.messages.map fun messages => messages.map Message.content) =
        some ["first", "Response cancelled by operator.", "second"] ∧
      ((step ⟨true, trimSpace⟩ s (.deliver 0 false)).map fun next =>
        next.panel.messages.map fun messages => messages.map Message.content) =
          some (some ["first"]) := by
  have ran : (runActions (step ⟨true, trimSpace⟩) System.fresh
      [.createConversation, .serve 0 false "conv_b" 1 none, .deliver 0 false,
        .serve 0 false "" 2 none, .deliver 0 false,
        .renameConversation "conv_a" "other", .serve 1 false "" 3 none, .deliver 1 false,
        .serve 1 false "" 4 none, .deliver 1 false]).map (fun s =>
      decide (s.Quiet ∧ s.panel.displayed = some "conv_a" ∧ s.active = "conv_b")) = some true := by
    decide +kernel
  have stale : (runActions (step ⟨true, trimSpace⟩) System.fresh
      [.submitDraft "first" [] 1,
        .backend ⟨.begin 0 (.submit "first" "help" []) ["msg_1"] [1], none⟩,
        .backend ⟨.append 0, none⟩, .connected 0, .done 0, .serve 0 true "" 2 none,
        .serve 0 false "" 3 none, .deliver 0 true, .cancelActiveSubmission 4,
        .submitDraft "second" [] 5]).map (fun s =>
      decide (s.calls 0 = some (.finishing 1 1
          (.answered (.snapshot s.backend.store.snapshotLocked)) (.resolved (.list "conv_a"))) ∧
        s.panel.submissionNonce = 3 ∧
        (s.panel.messages.map fun messages => messages.map Message.content) =
          some ["first", "Response cancelled by operator.", "second"] ∧
        ((step ⟨true, trimSpace⟩ s (.deliver 0 false)).map fun next =>
          next.panel.messages.map fun messages => messages.map Message.content) =
            some (some ["first"]))) = some true := by
    decide +kernel
  obtain ⟨s, reachable, shown⟩ := reachable_of_run fresh_initial ran
  obtain ⟨t, reachableStale, applied⟩ := reachable_of_run fresh_initial stale
  exact ⟨⟨s, reachable, of_decide_eq_true shown⟩, t, reachableStale, of_decide_eq_true applied⟩

end RuneTerminal.AgentConversations
