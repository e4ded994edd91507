import RuneTerminal.Terminal.Service

/-! A launch that CreateSession has begun is for a session that its group does not have: whoever
could add it in the meantime would hold the same start key. -/

namespace RuneTerminal.Terminal

open Kit List Table Service

/-- The session of a launch is not in its group yet. StartSession replaces the group. -/
def Launch.Absent (launch : Launch) (groups : Table String Group) : Prop :=
  launch.caller = .createSession →
    ∀ group, groups launch.opts.widgetID = some group → group.sessions launch.sessionID = none

def AllWellFormed (groups : Table String Group) : Prop :=
  ∀ widgetID group, groups widgetID = some group → group.WellFormed

def NoNewSessions (before after : Table String Group) : Prop :=
  ∀ widgetID group, after widgetID = some group → ∃ old, before widgetID = some old ∧
    ∀ id, old.sessions id = none → group.sessions id = none

structure System.Consistent (s : System) : Prop where
  groups : AllWellFormed s.service.groups
  held : ∀ launch ∈ s.launches, launch.startKey ∈ s.service.starting
  distinct : (s.launches.map Launch.startKey).Nodup
  absent : ∀ launch ∈ s.launches, launch.Absent s.service.groups

variable {widgetID sessionID : String}

section

variable {groups : Table String Group} {group : Group} {id : String}

theorem AllWellFormed.insert (all : AllWellFormed groups) (formed : group.WellFormed) :
    AllWellFormed (groups.insert widgetID group) := by
  intro other found lookup
  rcases insert_eq_some lookup with ⟨_, rfl⟩ | ⟨_, old⟩
  · exact formed
  · exact all other found old

theorem AllWellFormed.erase (all : AllWellFormed groups) :
    AllWellFormed (groups.erase widgetID) := by
  intro other found lookup
  exact all other found (erase_eq_some lookup).2

theorem NoNewSessions.refl : NoNewSessions groups groups := by
  intro other found lookup
  exact ⟨found, lookup, fun _ none => none⟩

theorem NoNewSessions.erase : NoNewSessions groups (groups.erase widgetID) := by
  intro other found lookup
  exact ⟨found, (erase_eq_some lookup).2, fun _ none => none⟩

theorem NoNewSessions.insert {old : Group} (lookup : groups widgetID = some old)
    (fewer : ∀ id, old.sessions id = none → group.sessions id = none) :
    NoNewSessions groups (groups.insert widgetID group) := by
  intro other found lookupAfter
  rcases insert_eq_some lookupAfter with ⟨rfl, rfl⟩ | ⟨_, unchanged⟩
  · exact ⟨old, lookup, fewer⟩
  · exact ⟨found, unchanged, fun _ none => none⟩

theorem Launch.Absent.of_no_new_sessions {launch : Launch} {after : Table String Group}
    (absent : launch.Absent groups) (fewer : NoNewSessions groups after) : launch.Absent after := by
  intro creates found lookup
  rcases fewer _ found lookup with ⟨old, before, keeps⟩
  exact keeps _ (absent creates old before)

theorem sessions_remove_none (absent : group.sessions id = none) :
    (group.remove sessionID).sessions id = none := by
  by_cases same : id = sessionID
  · rw [same]
    exact erase_self _ _
  · exact (erase_of_ne same).trans absent

theorem sessions_insert_none {sess : Session} (absent : group.sessions id = none)
    (ne : id ≠ sessionID) : group.sessions.insert sessionID sess id = none :=
  (insert_of_ne ne sess).trans absent

end

structure Shrinks (before after : Service) : Prop where
  starting : after.starting = before.starting
  groups : AllWellFormed before.groups → AllWellFormed after.groups
  sessions : NoNewSessions before.groups after.groups

variable {s next : Service}

theorem Shrinks.refl : Shrinks s s := ⟨rfl, id, NoNewSessions.refl⟩

theorem close_session_shrinks (closed : s.closeSession widgetID = .ok next) : Shrinks s next := by
  unfold closeSession at closed
  split at closed
  · cases closed
  · cases closed
    exact ⟨rfl, AllWellFormed.erase, NoNewSessions.erase⟩

theorem close_widget_session_shrinks (closed : s.closeWidgetSession widgetID sessionID = .ok next) :
    Shrinks s next := by
  unfold closeWidgetSession at closed
  split at closed
  · cases closed
  next group lookup =>
    split at closed
    · cases closed
    dsimp only at closed
    split at closed
    · cases closed
      exact ⟨rfl, AllWellFormed.erase, NoNewSessions.erase⟩
    next others =>
      cases closed
      exact
        { starting := rfl
          groups := fun all => all.insert ((all _ _ lookup).remove others)
          sessions := NoNewSessions.insert lookup fun _ absent => sessions_remove_none absent }

theorem set_active_session_shrinks
    (activated : (s.setActiveSession widgetID sessionID).map Prod.fst = .ok next) :
    Shrinks s next := by
  unfold setActiveSession at activated
  split at activated
  · cases activated
  next group lookup =>
    split at activated
    · cases activated
    next sess present =>
      cases activated
      have isSession : (group.sessions sessionID).isSome = true := by
        rw [present]
        rfl
      exact
        { starting := rfl
          groups := fun all => all.insert ((all _ _ lookup).activate isSession)
          sessions := NoNewSessions.insert lookup fun _ absent => absent }

theorem update_session_shrinks (handle : Nat) (change : Session → Session) :
    Shrinks s (s.updateSession widgetID sessionID handle change) := by
  unfold updateSession
  split
  · exact Shrinks.refl
  next group lookup =>
    split
    · exact Shrinks.refl
    next current present =>
      split
      · exact Shrinks.refl
      have isSession : (group.sessions sessionID).isSome = true := by
        rw [present]
        rfl
      have fewer : ∀ id, group.sessions id = none →
          (group.update sessionID (change current)).sessions id = none := by
        intro id absent
        apply sessions_insert_none absent
        rintro rfl
        rw [present] at absent
        cases absent
      exact
        { starting := rfl
          groups := fun all => all.insert ((all _ _ lookup).update isSession)
          sessions := NoNewSessions.insert lookup fewer }

namespace System.Consistent

variable {s : System} {launch : Launch} {defaultShell : String}

section

variable (inv : s.Consistent) {service : Service}
include inv

theorem shrink (shrinks : Shrinks s.service service) :
    ({ s with service := service } : System).Consistent where
  groups := shrinks.groups inv.groups
  held other member := by
    rw [shrinks.starting]
    exact inv.held other member
  distinct := inv.distinct
  absent other member := (inv.absent other member).of_no_new_sessions shrinks.sessions

theorem replace {result : Except TerminalError Service}
    (shrinks : ∀ service, result = .ok service → Shrinks s.service service) :
    (s.replace result).Consistent := by
  cases result with
  | error err => exact inv
  | ok service => exact inv.shrink (shrinks service rfl)

theorem start_call (absent : launch.Absent s.service.groups) :
    (s.begin (s.service.startCall launch)).Consistent := by
  unfold startCall
  split
  · exact inv
  next free =>
    have unheld : ∀ other ∈ s.launches, other.startKey ≠ launch.startKey := by
      intro other mem same
      exact free (same ▸ inv.held other mem)
    exact
      { groups := inv.groups
        held := by
          intro other mem
          rcases mem_cons.mp mem with rfl | old
          · exact Finset.mem_insert_self _ _
          · exact Finset.mem_insert_of_mem (inv.held other old)
        distinct := by
          apply nodup_cons.mpr
          refine ⟨?_, inv.distinct⟩
          intro mem
          rcases mem_map.mp mem with ⟨other, isLaunch, same⟩
          exact unheld other isLaunch same
        absent := by
          intro other mem
          rcases mem_cons.mp mem with rfl | old
          · exact absent
          · exact inv.absent other old }

theorem begin_start (opts : LaunchOptions) :
    (s.begin (s.service.beginStart defaultShell opts)).Consistent := by
  unfold beginStart
  split
  · exact inv
  dsimp only
  split
  · exact inv
  · exact inv.start_call nofun

theorem begin_create (opts : LaunchOptions) :
    (s.begin (s.service.beginCreate defaultShell opts)).Consistent := by
  unfold beginCreate
  split
  · exact inv
  dsimp only
  split
  · exact inv
  next group lookup =>
    split
    · exact inv
    next absent =>
      apply inv.start_call
      intro _ found again
      cases (lookup.symm.trans again)
      exact absent

theorem key_ne (isLaunch : launch ∈ s.launches) {other : Launch}
    (mem : other ∈ s.launches.erase launch) :
    other ∈ s.launches ∧ other.startKey ≠ launch.startKey := by
  have nodup : s.launches.Nodup := List.Nodup.of_map _ inv.distinct
  rcases (nodup.mem_erase_iff).mp mem with ⟨ne, old⟩
  refine ⟨old, ?_⟩
  intro same
  exact ne (inj_on_of_nodup_map inv.distinct old isLaunch same)

theorem finish (isLaunch : launch ∈ s.launches)
    {service : Service} (starting : service.starting = s.service.starting.erase launch.startKey)
    (groups : AllWellFormed service.groups)
    (absent : ∀ other ∈ s.launches, other.startKey ≠ launch.startKey →
      other.Absent service.groups) : (s.finish launch service).Consistent where
  groups := groups
  held other member := by
    rcases inv.key_ne isLaunch member with ⟨old, ne⟩
    change other.startKey ∈ service.starting
    rw [starting]
    exact Finset.mem_erase.mpr ⟨ne, inv.held other old⟩
  distinct := inv.distinct.sublist (erase_sublist.map _)
  absent other member := by
    rcases inv.key_ne isLaunch member with ⟨old, ne⟩
    exact absent other old ne

end

theorem session_ne {other : Launch} (ne : other.startKey ≠ launch.startKey)
    (sameWidget : other.opts.widgetID = launch.opts.widgetID) :
    other.sessionID ≠ launch.sessionID := by
  intro same
  apply ne
  rw [Launch.startKey, sameWidget, same, Launch.startKey]

section

variable (inv : s.Consistent) (isLaunch : launch ∈ s.launches)
include inv isLaunch

theorem fail_launch (text : String) :
    (s.finish launch (s.service.failLaunch launch text).1).Consistent :=
  inv.finish isLaunch rfl inv.groups fun other mem _ =>
    inv.absent other mem

theorem finish_start (sess : Session) :
    (s.finish launch (s.service.finishStart launch sess).1).Consistent := by
  apply inv.finish isLaunch rfl (inv.groups.insert Group.WellFormed.started)
  intro other mem ne creates found lookup
  rcases insert_eq_some lookup with ⟨sameWidget, rfl⟩ | ⟨_, old⟩
  · exact insert_of_ne (session_ne ne sameWidget) sess
  · exact inv.absent other mem creates found old

theorem finish_create (creates : launch.caller = .createSession) (sess : Session) :
    (s.finish launch (s.service.finishCreate launch sess).1).Consistent := by
  unfold finishCreate
  split
  · exact inv.finish isLaunch rfl inv.groups fun other mem _ =>
      inv.absent other mem
  next group lookup =>
    have absent := inv.absent launch isLaunch creates group lookup
    apply inv.finish isLaunch rfl
      (inv.groups.insert ((inv.groups _ _ lookup).add absent))
    intro other mem ne otherCreates found lookupAfter
    rcases insert_eq_some lookupAfter with ⟨sameWidget, rfl⟩ | ⟨_, old⟩
    · apply sessions_insert_none _ (session_ne ne sameWidget)
      exact inv.absent other mem otherCreates group (sameWidget ▸ lookup)
    · exact inv.absent other mem otherCreates found old

end

theorem step (inv : s.Consistent) {action : Action} {next : System}
    (taken : Terminal.step defaultShell s action = some next) : next.Consistent := by
  cases action with
  | startSession opts =>
    cases taken
    exact inv.begin_start opts
  | createSession opts =>
    cases taken
    exact inv.begin_create opts
  | launched launch pid startedAt =>
    rw [Terminal.step] at taken
    split at taken
    next isLaunch =>
      cases taken
      unfold Service.finish
      split
      · exact inv.finish_start isLaunch _
      next creates => exact inv.finish_create isLaunch creates _
    · cases taken
  | launchFailed launch text =>
    rw [Terminal.step] at taken
    split at taken
    next isLaunch =>
      cases taken
      exact inv.fail_launch isLaunch text
    · cases taken
  | closeSession widgetID =>
    cases taken
    exact inv.replace fun _ closed => close_session_shrinks closed
  | closeWidgetSession widgetID sessionID =>
    cases taken
    exact inv.replace fun _ closed => close_widget_session_shrinks closed
  | setActiveSession widgetID sessionID =>
    cases taken
    exact inv.replace fun _ activated => set_active_session_shrinks activated
  | exited widgetID sessionID handle | output widgetID sessionID handle =>
    cases taken
    exact inv.shrink (update_session_shrinks handle _)

theorem initial : System.Consistent {} where
  groups := nofun
  held := nofun
  distinct := nodup_nil
  absent := nofun

end System.Consistent

/-- Whatever calls interleave, the order of a group lists the keys of its sessions once each, there
is a session, and the active one is among them. -/
theorem session_groups_well_formed {defaultShell : String} {s : System}
    (reachable : Reachable (· = {}) (step defaultShell) s) :
    ∀ widgetID group, s.service.groups widgetID = some group → group.WellFormed := by
  have inv : s.Consistent := by
    apply reachable.invariant
    · rintro first rfl
      exact System.Consistent.initial
    · intro before action after isConsistent taken
      exact isConsistent.step taken
  exact inv.groups

def launchOf (caller : Caller) (opts : LaunchOptions) : Launch :=
  let opts := normalizeLaunchOptions "sh" opts
  { caller := caller, opts := opts, sessionID := resolveSessionID opts }

def termOptions : LaunchOptions := { widgetID := "term" }

def twoOptions : LaunchOptions := { widgetID := "term", sessionID := "two" }

def twoSessions : List Action :=
  [.startSession termOptions, .launched (launchOf .startSession termOptions) 7 0,
    .createSession twoOptions, .launched (launchOf .createSession twoOptions) 8 1,
    .closeWidgetSession "term" "term"]

theorem session_groups_well_formed_two : ∃ s group,
    Reachable (· = {}) (step "sh") s ∧ s.service.groups "term" = some group ∧
      group.sessionOrder = ["two"] ∧ group.WellFormed := by
  have ran : (runActions (step "sh") {} twoSessions).map (fun s =>
      (s.service.groups "term").map Group.sessionOrder == some ["two"]) = some true := by
    decide +kernel
  rcases @reachable_of_run _ _ (· = {}) _ _ rfl _ _ ran with ⟨s, reachable, tested⟩
  rcases Option.map_eq_some_iff.mp (beq_iff_eq.mp tested) with ⟨group, lookup, order⟩
  exact ⟨s, group, reachable, lookup, order,
    session_groups_well_formed reachable "term" group lookup⟩

end RuneTerminal.Terminal
