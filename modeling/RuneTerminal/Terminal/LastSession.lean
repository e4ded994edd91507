import RuneTerminal.Terminal.Groups
import RuneTerminal.Terminal.OutputOrder

/-! `CloseTerminalSession` of `core/app/terminal_session_actions.go` counts the sessions and removes
its own in another section: the widget keeps a session exactly as long as no more sessions go in
between than the count leaves. -/

namespace RuneTerminal.Terminal

open Kit

inductive CloseError where
  | cannotCloseLastSession
  | terminal (err : TerminalError)

def CloseError.text : CloseError → String
  | .cannotCloseLastSession => "terminal cannot close the last session in a widget"
  | .terminal err => err.text

def Service.snapshot (s : Service) (widgetID : String) (start : Nat) :
    Except TerminalError Snapshot :=
  match s.groups widgetID with
  | none => .error (.widgetNotFound widgetID)
  | some group => snapshotFromGroup group start

/-- A widget without a group has a snapshot without sessions. `state` is its restored or
its disconnected state. -/
def terminalSnapshot (state : State) (s : Service) (widgetID : String) (start : Nat) :
    Except TerminalError Snapshot :=
  match s.snapshot widgetID start with
  | .ok snapshot => .ok snapshot
  | .error (.widgetNotFound _) =>
    .ok { state := state, chunks := [], nextSeq := 1, activeSessionID := "", sessions := [] }
  | .error err => .error err

/-- Where a request is. `seen` is the number of sessions that it counted, and `removed`
is how many other requests have removed since then. -/
inductive CloseStage where
  | checking
  | removing (seen removed : Nat)
  | closing
  | ended (result : Except CloseError Snapshot)

structure CloseRequest where
  sessionID : String
  stage : CloseStage

structure CloseRequests where
  service : Service
  requests : List CloseRequest := []

inductive CloseAction where
  | request (sessionID : String)
  | check (request : Nat)
  | remove (request : Nat)
  | finish (request : Nat) (closed : Except TerminalError Unit)

def checked (state : State) (s : Service) (widgetID : String) : CloseStage :=
  match terminalSnapshot state s widgetID 0 with
  | .error err => .ended (.error (.terminal err))
  | .ok snapshot =>
    if snapshot.sessions.length ≤ 1 then .ended (.error .cannotCloseLastSession)
    else .removing snapshot.sessions.length 0

def CloseRequest.overtake (request : CloseRequest) : CloseRequest :=
  match request.stage with
  | .removing seen removed => { request with stage := .removing seen (removed + 1) }
  | _ => request

def CloseRequest.goTo (stage : CloseStage) (request : CloseRequest) : CloseRequest :=
  { request with stage := stage }

def finished (state : State) (s : Service) (widgetID : String) :
    Except TerminalError Unit → Except CloseError Snapshot
  | .error err => .error (.terminal err)
  | .ok _ => (terminalSnapshot state s widgetID 0).mapError .terminal

def CloseRequests.update (s : CloseRequests) (id : Nat) (stage : CloseStage) : CloseRequests :=
  { s with requests := s.requests.modify id (CloseRequest.goTo stage) }

def CloseRequests.remove (s : CloseRequests) (widgetID : String) (id : Nat)
    (sessionID : String) : CloseRequests :=
  match s.service.closeWidgetSession widgetID sessionID with
  | .error err => s.update id (.ended (.error (.terminal err)))
  | .ok service =>
    { service := service, requests := s.requests.map CloseRequest.overtake : CloseRequests }.update
      id .closing

def closeStep (state : State) (widgetID : String) (s : CloseRequests) :
    CloseAction → Option CloseRequests
  | .request sessionID =>
    some { s with requests := s.requests ++ [{ sessionID := sessionID, stage := .checking }] }
  | .check id =>
    match s.requests[id]? with
    | some { sessionID := _, stage := .checking } =>
      some (s.update id (checked state s.service widgetID))
    | _ => none
  | .remove id =>
    match s.requests[id]? with
    | some { sessionID := sessionID, stage := .removing _ _ } =>
      some (s.remove widgetID id sessionID)
    | _ => none
  | .finish id closed =>
    match s.requests[id]? with
    | some { sessionID := _, stage := .closing } =>
      some (s.update id (.ended (finished state s.service widgetID closed)))
    | _ => none

def StartsWithSession (widgetID : String) (s : CloseRequests) : Prop :=
  s.requests = [] ∧ ∃ group, s.service.groups widgetID = some group ∧ group.WellFormed

def CloseRequests.HasSession (widgetID : String) (s : CloseRequests) : Prop :=
  ∃ group, s.service.groups widgetID = some group ∧ ∃ id, (group.sessions id).isSome = true

/-- Either the session of a request is gone by now, or of the sessions that the request
counted the others have left one more than its own. -/
def countHolds (widgetID : String) (s : CloseRequests) : CloseAction → Bool
  | .remove id =>
    match s.requests[id]? with
    | some { sessionID := sessionID, stage := .removing seen removed } =>
      (((s.service.groups widgetID).bind fun group => group.sessions sessionID).isNone : Bool) ||
        decide (removed + 1 < seen)
    | _ => true
  | _ => true

variable {group : Group} {s service : Service} {sessionID widgetID : String} {state : State}

theorem snapshot_session_states_length (formed : group.WellFormed) :
    (snapshotSessionStates group).length = group.sessionOrder.length := by
  unfold snapshotSessionStates
  rw [List.length_filterMap_eq_countP, List.countP_eq_length]
  intro id listed
  rw [Option.isSome_map]
  exact (formed.keys id).mp listed

section

variable {id : String} (lookup : s.groups id = some group)
include lookup

theorem terminal_snapshot_sessions {snapshot : Snapshot}
    (shown : terminalSnapshot state s id 0 = .ok snapshot) :
    snapshot.sessions = [] ∨ snapshot.sessions = snapshotSessionStates group := by
  unfold terminalSnapshot Service.snapshot at shown
  rw [lookup] at shown
  dsimp only at shown
  split at shown
  next found fromGroup =>
    cases shown
    unfold snapshotFromGroup at fromGroup
    cases active : activeGroupSession group with
    | error err =>
      rw [active] at fromGroup
      cases fromGroup
    | ok sess =>
      rw [active] at fromGroup
      cases fromGroup
      exact .inr rfl
  · cases shown
    exact .inl rfl
  · cases shown

theorem checked_eq_removing {seen removed : Nat} (formed : group.WellFormed)
    (goesOn : checked state s id = .removing seen removed) :
    seen = group.sessionOrder.length ∧ removed = 0 := by
  unfold checked at goesOn
  split at goesOn
  · cases goesOn
  next snapshot shown =>
    split at goesOn
    · cases goesOn
    next several =>
      obtain ⟨rfl, rfl⟩ := CloseStage.removing.inj goesOn
      rcases terminal_snapshot_sessions lookup shown with none | all
      · rw [none] at several
        exact absurd (Nat.zero_le 1) several
      · rw [all, snapshot_session_states_length formed]
        exact ⟨rfl, rfl⟩

end

theorem length_remove (formed : group.WellFormed)
    (present : (group.sessions sessionID).isSome = true) :
    (group.remove sessionID).sessionOrder.length + 1 = group.sessionOrder.length := by
  have listed : sessionID ∈ group.sessionOrder := (formed.keys sessionID).mpr present
  have erased : (group.remove sessionID).sessionOrder = group.sessionOrder.erase sessionID := by
    rw [formed.nodup.erase_eq_filter]
    apply List.filter_congr
    intro id _
    exact decide_not.trans (congrArg not (beq_eq_decide ..).symm)
  rw [erased, List.length_erase_of_mem listed]
  have positive := List.length_pos_of_mem listed
  omega

theorem close_widget_session_error {err : TerminalError} (lookup : s.groups widgetID = some group)
    (failed : s.closeWidgetSession widgetID sessionID = .error err) :
    group.sessions sessionID = none := by
  unfold Service.closeWidgetSession at failed
  rw [lookup] at failed
  dsimp only at failed
  split at failed
  next absent => exact absent
  · split at failed
    · cases failed
    · cases failed

theorem close_widget_session_count (lookup : s.groups widgetID = some group)
    (formed : group.WellFormed) (closed : s.closeWidgetSession widgetID sessionID = .ok service) :
    (group.sessions sessionID).isSome = true ∧
    ((group.sessionOrder.length = 1 ∧ service.groups widgetID = none) ∨
      ∃ rest, service.groups widgetID = some rest ∧ rest.WellFormed ∧
        rest.sessionOrder.length + 1 = group.sessionOrder.length) := by
  unfold Service.closeWidgetSession at closed
  rw [lookup] at closed
  dsimp only at closed
  split at closed
  · cases closed
  next sess present =>
    have isSession : (group.sessions sessionID).isSome = true := by
      rw [present]
      rfl
    have counted := length_remove formed isSession
    refine ⟨isSession, ?_⟩
    split at closed
    next others =>
      cases closed
      rw [others] at counted
      exact .inl ⟨counted.symm, Table.erase_self _ _⟩
    next others =>
      cases closed
      exact .inr ⟨_, Table.insert_self _ _ _, formed.remove others, counted⟩

namespace CloseRequests

/-- The widget has sessions, and a request that has counted them knows how many there
are if it takes off those that were removed since. -/
structure Counted (widgetID : String) (s : CloseRequests) : Prop where
  group : ∃ group, s.service.groups widgetID = some group ∧ group.WellFormed
  seen : ∀ request ∈ s.requests, ∀ seen removed, request.stage = .removing seen removed →
    ∀ group, s.service.groups widgetID = some group →
      group.sessionOrder.length + removed = seen

variable {s next : CloseRequests} {stage : CloseStage}

theorem Counted.has_session (counted : s.Counted widgetID) : s.HasSession widgetID := by
  rcases counted.group with ⟨group, lookup, formed⟩
  exact ⟨group, lookup, formed.nonempty⟩

theorem mem_modify {requests : List CloseRequest} {id : Nat} {request : CloseRequest}
    (mem : request ∈ requests.modify id (CloseRequest.goTo stage)) :
    request ∈ requests ∨ request.stage = stage := by
  rcases List.mem_iff_getElem?.mp mem with ⟨index, found⟩
  rw [List.getElem?_modify] at found
  rcases Option.map_eq_some_iff.mp found with ⟨before, isRequest, changed⟩
  split at changed
  · obtain rfl := changed
    exact .inr rfl
  · obtain rfl := changed
    exact .inl (List.mem_of_getElem? isRequest)

section

variable (counted : s.Counted widgetID)
include counted

theorem Counted.update (id : Nat) {stage : CloseStage}
    (correct : ∀ seen removed, stage = .removing seen removed →
      ∀ group, s.service.groups widgetID = some group →
        group.sessionOrder.length + removed = seen) : (s.update id stage).Counted widgetID where
  group := counted.group
  seen request mem seen removed isRemoving group lookup := by
    rcases mem_modify mem with before | changed
    · exact counted.seen request before seen removed isRemoving group lookup
    · exact correct seen removed (changed.symm.trans isRemoving) group lookup

theorem Counted.remove {group rest : Group} (lookup : s.service.groups widgetID = some group)
    (remains : service.groups widgetID = some rest) (formed : rest.WellFormed)
    (fewer : rest.sessionOrder.length + 1 = group.sessionOrder.length) :
    ({ service := service
       requests := s.requests.map CloseRequest.overtake } : CloseRequests).Counted widgetID where
  group := ⟨rest, remains, formed⟩
  seen request mem seen removed isRemoving found again := by
    cases (remains.symm.trans again)
    rcases List.mem_map.mp mem with ⟨before, wasRequest, rfl⟩
    unfold CloseRequest.overtake at isRemoving
    split at isRemoving
    next was already isStage =>
      obtain ⟨rfl, rfl⟩ := CloseStage.removing.inj isRemoving
      have sum := counted.seen before wasRequest was already isStage group lookup
      omega
    next other =>
      exact absurd isRemoving (other seen removed)

theorem Counted.step {action : CloseAction}
    (taken : closeStep state widgetID s action = some next) :
    (next.Counted widgetID ∧ countHolds widgetID s action = true) ∨
    (¬ next.HasSession widgetID ∧ countHolds widgetID s action = false) := by
  rcases counted.group with ⟨group, lookup, formed⟩
  cases action with
  | request sessionID =>
    cases taken
    refine .inl ⟨⟨counted.group, ?_⟩, rfl⟩
    intro request mem seen removed isRemoving
    rcases List.mem_append.mp mem with before | isNew
    · exact counted.seen request before seen removed isRemoving
    · rw [List.mem_singleton.mp isNew] at isRemoving
      cases isRemoving
  | check id =>
    rw [closeStep] at taken
    split at taken
    · cases taken
      refine .inl ⟨counted.update id ?_, rfl⟩
      intro seen removed goesOn found again
      cases (lookup.symm.trans again)
      rcases checked_eq_removing lookup formed goesOn with ⟨rfl, rfl⟩
      rfl
    · cases taken
  | remove id =>
    rw [closeStep] at taken
    split at taken
    next sessionID seen removed isRequest =>
      cases taken
      rw [countHolds, isRequest]
      dsimp only
      rw [lookup, Option.bind_some]
      unfold CloseRequests.remove
      split
      next err failed =>
        rw [close_widget_session_error lookup failed]
        exact .inl ⟨counted.update id nofun, rfl⟩
      next service closed =>
        have sum := counted.seen _ (List.mem_of_getElem? isRequest) seen removed rfl group lookup
        rcases close_widget_session_count lookup formed closed with ⟨present, left⟩
        rcases Option.isSome_iff_exists.mp present with ⟨sess, isSession⟩
        rw [isSession]
        rcases left with ⟨single, gone⟩ | ⟨rest, remains, restFormed, fewer⟩
        · refine .inr ⟨?_, decide_eq_false (by omega)⟩
          intro hasSession
          rcases hasSession with ⟨found, again, _⟩
          cases gone.symm.trans again
        have others : 0 < rest.sessionOrder.length := by
          rcases restFormed.nonempty with ⟨other, isOther⟩
          exact List.length_pos_of_mem ((restFormed.keys other).mpr isOther)
        refine .inl ⟨?_, decide_eq_true (by omega)⟩
        exact (counted.remove lookup remains restFormed fewer).update id nofun
    · cases taken
  | finish id closed =>
    rw [closeStep] at taken
    split at taken
    · cases taken
      exact .inl ⟨counted.update id nofun, rfl⟩
    · cases taken

end

theorem Counted.initial (starts : StartsWithSession widgetID s) : s.Counted widgetID := by
  rcases starts with ⟨noRequests, hasGroup⟩
  refine ⟨hasGroup, ?_⟩
  intro request mem
  rw [noRequests] at mem
  cases mem

end CloseRequests

/-- As long as every removal meets the condition the widget has a session in every state, and the
first removal that does not meet it takes the last one. -/
theorem widget_keeps_a_session {state : State} {widgetID : String} {s : CloseRequests}
    (reachable : Reachable (StartsWithSession widgetID)
      (guarded (countHolds widgetID) (closeStep state widgetID)) s) :
    s.HasSession widgetID ∧
    ∀ action next, closeStep state widgetID s action = some next →
      (next.HasSession widgetID ↔ countHolds widgetID s action = true) := by
  have counted : s.Counted widgetID := by
    apply reachable.invariant
    · exact CloseRequests.Counted.initial
    intro before action after isCounted taken
    rcases guarded_eq_some.mp taken with ⟨allowed, stepped⟩
    rcases isCounted.step stepped with ⟨stays, _⟩ | ⟨_, fails⟩
    · exact stays
    · rw [allowed] at fails
      cases fails
  refine ⟨counted.has_session, ?_⟩
  intro action next taken
  rcases counted.step taken with ⟨stays, holds⟩ | ⟨none, fails⟩
  · exact ⟨fun _ => holds, fun _ => stays.has_session⟩
  · rw [fails]
    exact ⟨fun hasSession => absurd hasSession none, nofun⟩

def sessionOf (handle : Nat) (id : String) : Session where
  handle := handle
  state := launchedState "sh" { widgetID := "term" } id 7 0

def groupOfTwo : Group := (Group.started "a" (sessionOf 0 "a")).add "b" (sessionOf 1 "b")

def groupOfThree : Group := groupOfTwo.add "c" (sessionOf 2 "c")

def requestsOn (group : Group) : CloseRequests where
  service := { groups := Table.empty.insert "term" group }

private theorem two_well_formed : groupOfTwo.WellFormed :=
  Group.WellFormed.started.add (by decide +kernel)

private theorem starts_with_session (formed : group.WellFormed) :
    StartsWithSession "term" (requestsOn group) :=
  ⟨rfl, group, Table.insert_self Table.empty "term" group, formed⟩

def twoRequests : List CloseAction :=
  [.request "a", .request "b", .check 0, .check 1, .remove 0, .remove 1]

theorem widget_keeps_a_session_of_three :
    ∃ s,
      Reachable (StartsWithSession "term")
        (guarded (countHolds "term") (closeStep (sessionOf 0 "a").state "term")) s ∧
      (s.service.groups "term").map Group.sessionOrder = some ["c"] ∧ s.HasSession "term" := by
  have starts := starts_with_session (two_well_formed.add
    (show groupOfTwo.sessions "c" = none by decide +kernel) : groupOfThree.WellFormed)
  have ran : (runActions (guarded (countHolds "term")
      (closeStep (sessionOf 0 "a").state "term")) (requestsOn groupOfThree) twoRequests).map
        (fun s => (s.service.groups "term").map Group.sessionOrder == some ["c"]) =
      some true := by
    decide +kernel
  rcases reachable_of_run starts ran with ⟨s, reachable, tested⟩
  exact ⟨s, reachable, beq_iff_eq.mp tested, (widget_keeps_a_session reachable).1⟩

/-- Of two sessions both requests count two, and each removes its own. -/
theorem both_sessions_are_closed :
    ¬ ∀ s, Reachable (StartsWithSession "term") (closeStep (sessionOf 0 "a").state "term") s →
      s.HasSession "term" := by
  intro always
  have ran : (runActions (closeStep (sessionOf 0 "a").state "term") (requestsOn groupOfTwo)
      twoRequests).map (fun s => (s.service.groups "term").isNone) = some true := by
    decide +kernel
  rcases reachable_of_run (starts_with_session two_well_formed) ran with
    ⟨s, reachable, tested⟩
  rcases always s reachable with ⟨group, lookup, _⟩
  rw [lookup] at tested
  cases tested

end RuneTerminal.Terminal
