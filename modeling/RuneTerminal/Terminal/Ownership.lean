import RuneTerminal.Terminal.Calls
import RuneTerminal.Terminal.Groups

/-! A process that the launcher has returned belongs to a session of a group, or it is closed, as
long as no launch replaces a group or a session that came up meanwhile, and no start is overtaken by
a close of the service. -/

namespace RuneTerminal.Terminal

open Kit List Table Service

def Stored (groups : Table String Group) (widgetID sessionID : String) (handle : Nat) : Prop :=
  ∃ group sess, groups widgetID = some group ∧ group.sessions sessionID = some sess ∧
    sess.handle = handle

def Calls.Closing (s : Calls) (handle : Nat) : Prop :=
  ∃ (id : Nat) (thread : Thread), s.threads[id]? = some thread ∧ handle ∈ thread.handles

instance (groups : Table String Group) (widgetID sessionID : String) (handle : Nat) :
    Decidable (Stored groups widgetID sessionID handle) :=
  decidable_of_iff
    (((groups widgetID).bind fun group => group.sessions sessionID).map Session.handle =
      some handle) (by
    constructor
    · intro found
      rcases Option.map_eq_some_iff.mp found with ⟨sess, isSession, same⟩
      rcases Option.bind_eq_some_iff.mp isSession with ⟨group, lookup, present⟩
      exact ⟨group, sess, lookup, present, same⟩
    · intro stored
      rcases stored with ⟨group, sess, lookup, present, same⟩
      rw [lookup, Option.bind_some, present, Option.map_some, same])

instance (s : Calls) (handle : Nat) : Decidable (s.Closing handle) :=
  decidable_of_iff (∃ thread ∈ s.threads, handle ∈ thread.handles) (by
    constructor
    · intro found
      rcases found with ⟨thread, member, listed⟩
      rcases List.getElem?_of_mem member with ⟨id, isThread⟩
      exact ⟨id, thread, isThread, listed⟩
    · intro closing
      rcases closing with ⟨id, thread, isThread, listed⟩
      exact ⟨thread, List.mem_of_getElem? isThread, listed⟩)

/-- No session of a group is gone, unless its process is about to be closed. -/
def Calls.Keeps (s next : Calls) : Prop :=
  ∀ widgetID sessionID handle, Stored s.service.groups widgetID sessionID handle →
    Stored next.service.groups widgetID sessionID handle ∨ next.Closing handle

/-- A step that writes a session leaves no process without an owner: nothing is there
that it replaces, and `Close` has not run since the launch began. -/
def keepsOwnership (s : Calls) : CallAction → Bool
  | .launched id _ _ =>
    match s.threads[id]? with
    | some (.launching launch overtaken _) =>
      match launch.caller, s.service.groups launch.opts.widgetID with
      | .startSession, none => !overtaken
      | .startSession, some _ => false
      | .createSession, none => true
      | .createSession, some group => (group.sessions launch.sessionID).isNone && !overtaken
    | _ => true
  | _ => true

structure Calls.Owning (s : Calls) : Prop where
  groups : AllWellFormed s.service.groups
  known : ∀ widgetID sessionID handle, Stored s.service.groups widgetID sessionID handle →
    ∃ process ∈ s.processes, process.widgetID = widgetID ∧ process.sessionID = sessionID ∧
      process.handle = handle
  fresh : ∀ process ∈ s.processes, process.handle < s.nextHandle
  owned : ∀ process ∈ s.processes,
    Stored s.service.groups process.widgetID process.sessionID process.handle ∨
      process.closed = true ∨ s.Closing process.handle
  overtaken : ∀ process ∈ s.processes, process.overtaken = true →
    ¬ Stored s.service.groups process.widgetID process.sessionID process.handle

variable {gone : List Nat} {service : Service} {change : Session → Session}

section

variable {groups after : Table String Group} {widgetID sessionID other id : String} {handle : Nat}
  {group : Group} {sess : Session} {s : Service}

structure Sheds (gone : List Nat) (groups after : Table String Group) : Prop where
  wellFormed : AllWellFormed after
  removes : ∀ widgetID sessionID handle, Stored groups widgetID sessionID handle →
    Stored after widgetID sessionID handle ∨ handle ∈ gone
  adds : ∀ widgetID sessionID handle, Stored after widgetID sessionID handle →
    Stored groups widgetID sessionID handle

theorem Sheds.refl (all : AllWellFormed groups) : Sheds [] groups groups where
  wellFormed := all
  removes _ _ _ stored := .inl stored
  adds _ _ _ stored := stored

theorem stored_insert_of_ne (ne : other ≠ widgetID) :
    Stored (groups.insert widgetID group) other id handle ↔ Stored groups other id handle := by
  unfold Stored
  rw [insert_of_ne ne]

theorem stored_insert_self : Stored (groups.insert widgetID group) widgetID id handle ↔
    ∃ sess, group.sessions id = some sess ∧ sess.handle = handle := by
  constructor
  · intro stored
    rcases stored with ⟨found, sess, lookup, present, same⟩
    rw [insert_self] at lookup
    cases lookup
    exact ⟨sess, present, same⟩
  · intro stored
    rcases stored with ⟨sess, present, same⟩
    exact ⟨group, sess, insert_self _ _ _, present, same⟩

theorem stored_of_lookup (lookup : groups widgetID = some group) :
    Stored groups widgetID id handle ↔
    ∃ sess, group.sessions id = some sess ∧ sess.handle = handle := by
  constructor
  · intro stored
    rcases stored with ⟨found, sess, again, present, same⟩
    cases (lookup.symm.trans again)
    exact ⟨sess, present, same⟩
  · intro stored
    rcases stored with ⟨sess, present, same⟩
    exact ⟨group, sess, lookup, present, same⟩

theorem not_stored_of_none (lookup : groups widgetID = none) :
    ¬ Stored groups widgetID id handle := by
  intro stored
  rcases stored with ⟨found, sess, again, _⟩
  rw [lookup] at again
  cases again

theorem mem_handles (formed : group.WellFormed) (present : group.sessions id = some sess) :
    sess.handle ∈ group.handles := by
  have listed : id ∈ group.sessionOrder := by
    rw [formed.keys, present]
    rfl
  apply mem_filterMap.mpr
  exact ⟨id, listed, by rw [present]; rfl⟩

section

variable (all : AllWellFormed groups) (lookup : groups widgetID = some group)
include all lookup

theorem Sheds.insert {changed : Group} (wellFormed : changed.WellFormed)
    (removes : ∀ id sess, group.sessions id = some sess →
      (∃ kept, changed.sessions id = some kept ∧ kept.handle = sess.handle) ∨ sess.handle ∈ gone)
    (adds : ∀ id sess, changed.sessions id = some sess →
      ∃ old, group.sessions id = some old ∧ old.handle = sess.handle) :
    Sheds gone groups (groups.insert widgetID changed) where
  wellFormed := all.insert wellFormed
  removes other id handle stored := by
    by_cases same : other = widgetID
    · subst same
      rcases (stored_of_lookup lookup).mp stored with ⟨sess, present, rfl⟩
      rcases removes id sess present with ⟨kept, stays, sameHandle⟩ | isGone
      · exact .inl (stored_insert_self.mpr ⟨kept, stays, sameHandle⟩)
      · exact .inr isGone
    · exact .inl ((stored_insert_of_ne same).mpr stored)
  adds other id handle stored := by
    by_cases same : other = widgetID
    · subst same
      rcases stored_insert_self.mp stored with ⟨sess, present, rfl⟩
      rcases adds id sess present with ⟨old, before, sameHandle⟩
      exact (stored_of_lookup lookup).mpr ⟨old, before, sameHandle⟩
    · exact (stored_insert_of_ne same).mp stored

theorem Sheds.erase
    (isGone : ∀ id sess, group.sessions id = some sess → sess.handle ∈ gone) :
    Sheds gone groups (groups.erase widgetID) where
  wellFormed := all.erase
  removes other id handle stored := by
    by_cases same : other = widgetID
    · subst same
      rcases (stored_of_lookup lookup).mp stored with ⟨sess, present, rfl⟩
      exact .inr (isGone id sess present)
    · rcases stored with ⟨found, sess, present⟩
      exact .inl ⟨found, sess, (erase_of_ne same).trans present.1, present.2⟩
  adds other id handle stored := by
    rcases stored with ⟨found, sess, present⟩
    exact ⟨found, sess, (erase_eq_some present.1).2, present.2⟩

end

section

variable (all : AllWellFormed s.groups) (lookup : s.groups widgetID = some group)
include all lookup

theorem close_session_sheds (closed : s.closeSession widgetID = .ok service) :
    Sheds group.handles s.groups service.groups := by
  rw [closeSession, lookup] at closed
  cases closed
  exact Sheds.erase all lookup fun id sess present => mem_handles (all _ _ lookup) present

theorem close_widget_session_sheds (present : group.sessions sessionID = some sess)
    (closed : s.closeWidgetSession widgetID sessionID = .ok service) :
    Sheds [sess.handle] s.groups service.groups := by
  have removes : ∀ id found, group.sessions id = some found →
      (∃ kept, (group.remove sessionID).sessions id = some kept ∧ kept.handle = found.handle) ∨
        found.handle ∈ [sess.handle] := by
    intro id found lookupID
    by_cases same : id = sessionID
    · subst same
      cases (present.symm.trans lookupID)
      exact .inr (mem_singleton_self _)
    · exact .inl ⟨found, (erase_of_ne same).trans lookupID, rfl⟩
  rw [closeWidgetSession, lookup] at closed
  dsimp only at closed
  rw [present] at closed
  dsimp only at closed
  split at closed
  next others =>
    cases closed
    apply Sheds.erase all lookup
    intro id found lookupID
    rcases removes id found lookupID with ⟨kept, stays, _⟩ | isGone
    · have listed : id ∈ (group.remove sessionID).sessionOrder := by
        rw [(all _ _ lookup).keys_remove, stays]
        rfl
      rw [others] at listed
      cases listed
    · exact isGone
  next others =>
    cases closed
    apply Sheds.insert all lookup ((all _ _ lookup).remove others) removes
    intro id found stays
    exact ⟨found, (erase_eq_some stays).2, rfl⟩

end

theorem set_active_session_sheds {state : State} (all : AllWellFormed s.groups)
    (activated : s.setActiveSession widgetID sessionID = .ok (service, state)) :
    Sheds [] s.groups service.groups := by
  unfold setActiveSession at activated
  split at activated
  · cases activated
  next group lookup =>
    split at activated
    · cases activated
    next sess present =>
      obtain rfl := congrArg Prod.fst (Except.ok.inj activated)
      have isSession : (group.sessions sessionID).isSome = true := by
        rw [present]
        rfl
      apply Sheds.insert all lookup ((all _ _ lookup).activate isSession)
      · intro id found lookupID
        exact .inl ⟨found, lookupID, rfl⟩
      · intro id found lookupID
        exact ⟨found, lookupID, rfl⟩

theorem update_session_sheds (all : AllWellFormed s.groups) (handle : Nat)
    (keeps : ∀ sess, (change sess).handle = sess.handle) :
    Sheds [] s.groups (s.updateSession widgetID sessionID handle change).groups := by
  unfold updateSession
  split
  · exact Sheds.refl all
  next group lookup =>
    split
    · exact Sheds.refl all
    next current present =>
      split
      · exact Sheds.refl all
      have isSession : (group.sessions sessionID).isSome = true := by
        rw [present]
        rfl
      apply Sheds.insert all lookup ((all _ _ lookup).update isSession)
      · intro id found lookupID
        by_cases same : id = sessionID
        · subst same
          cases (present.symm.trans lookupID)
          exact .inl ⟨change current, insert_self _ _ _, keeps current⟩
        · exact .inl ⟨found, (insert_of_ne same _).trans lookupID, rfl⟩
      · intro id found lookupID
        rcases insert_eq_some lookupID with ⟨rfl, rfl⟩ | ⟨_, unchanged⟩
        · exact ⟨current, present, (keeps current).symm⟩
        · exact ⟨found, unchanged, rfl⟩

theorem start_call_groups (s : Service) (launch : Launch) :
    (s.startCall launch).1.groups = s.groups := by
  unfold startCall
  split
  · rfl
  · rfl

theorem begin_start_groups (s : Service) (defaultShell : String) (opts : LaunchOptions) :
    (s.beginStart defaultShell opts).1.groups = s.groups := by
  unfold beginStart
  split
  · rfl
  dsimp only
  split
  · rfl
  · exact start_call_groups s _

theorem begin_create_groups (s : Service) (defaultShell : String) (opts : LaunchOptions) :
    (s.beginCreate defaultShell opts).1.groups = s.groups := by
  unfold beginCreate
  split
  · rfl
  dsimp only
  split
  · rfl
  · split
    · rfl
    · exact start_call_groups s _

theorem session_insert {sessions : Table String Session} {found : Session}
    (lookup : sessions.insert sessionID sess id = some found) :
    (id = sessionID ∧ found = sess) ∨ sessions id = some found := by
  rcases insert_eq_some lookup with isNew | ⟨_, old⟩
  · exact .inl isNew
  · exact .inr old

end

namespace Calls

variable {s next : Calls} {id handle : Nat} {env : Environment} {old thread : Thread}

theorem Closing.of_continue (isOld : s.threads[id]? = some old)
    (isThread : handle ∈ thread.handles) : (s.continueWith id thread).Closing handle := by
  rcases List.getElem?_eq_some_iff.mp isOld with ⟨bound, _⟩
  exact ⟨id, thread, getElem?_set_self bound, isThread⟩

theorem thread_of_ne {other : Nat} (ne : other ≠ id) :
    (s.continueWith id thread).threads[other]? = s.threads[other]? :=
  getElem?_set_ne (Ne.symm ne)

theorem Closing.continue_free (isOld : s.threads[id]? = some old) (free : old.handles = [])
    (closing : s.Closing handle) : (s.continueWith id thread).Closing handle := by
  rcases closing with ⟨other, found, isFound, listed⟩
  by_cases same : other = id
  · subst same
    cases (isOld.symm.trans isFound)
    rw [free] at listed
    cases listed
  · exact ⟨other, found, (thread_of_ne same).trans isFound, listed⟩

namespace Owning

theorem shed (owning : s.Owning) (sheds : Sheds gone s.service.groups next.service.groups)
    (processes : next.processes = s.processes) (nextHandle : next.nextHandle = s.nextHandle)
    (closing : ∀ handle, s.Closing handle ∨ handle ∈ gone → next.Closing handle) :
    next.Owning ∧ s.Keeps next := by
  have keeps : s.Keeps next := by
    intro id sessionID handle stored
    rcases sheds.removes _ _ _ stored with stays | isGone
    · exact .inl stays
    · exact .inr (closing handle (.inr isGone))
  refine ⟨?_, keeps⟩
  exact
    { groups := sheds.wellFormed
      known := by
        intro id sessionID handle stored
        rw [processes]
        exact owning.known _ _ _ (sheds.adds _ _ _ stored)
      fresh := by
        rw [processes, nextHandle]
        exact owning.fresh
      owned := by
        rw [processes]
        intro process mem
        rcases owning.owned process mem with stored | closed | isClosing
        · exact (keeps _ _ _ stored).imp_right .inr
        · exact .inr (.inl closed)
        · exact .inr (.inr (closing _ (.inl isClosing)))
      overtaken := by
        rw [processes]
        intro process mem wasOvertaken stored
        exact owning.overtaken process mem wasOvertaken (sheds.adds _ _ _ stored) }

section

variable (owning : s.Owning) (isOld : s.threads[id]? = some old) (free : old.handles = [])
include owning isOld free

theorem go_on (groups : service.groups = s.service.groups) :
    ({ s with service := service }.continueWith id thread).Owning ∧
      s.Keeps ({ s with service := service }.continueWith id thread) := by
  have sheds : Sheds [] s.service.groups service.groups := by
    rw [groups]
    exact Sheds.refl owning.groups
  refine owning.shed sheds rfl rfl ?_
  intro handle closing
  have isClosing : Calls.Closing { s with service := service } handle :=
    closing.resolve_right not_mem_nil
  exact isClosing.continue_free isOld free

theorem remove (sheds : Sheds gone s.service.groups service.groups)
    (next : Except TerminalError Unit → Program) :
    ({ s with service := service }.continueWith id (.closing gone next)).Owning ∧
      s.Keeps ({ s with service := service }.continueWith id (.closing gone next)) := by
  refine owning.shed sheds rfl rfl ?_
  intro handle closing
  rcases closing with already | isGone
  · have isClosing : Calls.Closing { s with service := service } handle := already
    exact isClosing.continue_free isOld free
  · exact Closing.of_continue isOld isGone

theorem launch {thread : Thread} {service : Service} {process : Process}
    (isNew : process.handle = s.nextHandle) (formed : AllWellFormed service.groups)
    (keeps : ∀ widgetID sessionID handle, Stored s.service.groups widgetID sessionID handle →
      Stored service.groups widgetID sessionID handle)
    (adds : ∀ widgetID sessionID handle, Stored service.groups widgetID sessionID handle →
      Stored s.service.groups widgetID sessionID handle ∨
        (process.widgetID = widgetID ∧ process.sessionID = sessionID ∧ process.handle = handle))
    (owner : Stored service.groups process.widgetID process.sessionID process.handle ∧
        process.overtaken = false ∨
      (¬ Stored service.groups process.widgetID process.sessionID process.handle) ∧
        process.handle ∈ thread.handles) :
    let next := { s with
      service := service
      processes := process :: s.processes
      nextHandle := s.nextHandle + 1 }.continueWith id thread
    next.Owning ∧ s.Keeps next := by
  intro next
  have closing : ∀ handle, s.Closing handle → next.Closing handle := by
    intro handle isClosing
    have before : Calls.Closing { s with
        service := service
        processes := process :: s.processes
        nextHandle := s.nextHandle + 1 } handle := isClosing
    exact before.continue_free isOld free
  refine ⟨?_, fun _ _ _ stored => .inl (keeps _ _ _ stored)⟩
  exact
    { groups := formed
      known := by
        intro widgetID sessionID handle stored
        rcases adds _ _ _ stored with before | isProcess
        · rcases owning.known _ _ _ before with ⟨found, mem, same⟩
          exact ⟨found, mem_cons_of_mem _ mem, same⟩
        · exact ⟨process, mem_cons_self, isProcess⟩
      fresh := by
        intro found mem
        change found.handle < s.nextHandle + 1
        rcases mem_cons.mp mem with rfl | before
        · omega
        · have smaller := owning.fresh found before
          omega
      owned := by
        intro found mem
        rcases mem_cons.mp mem with rfl | before
        · rcases owner with ⟨stored, _⟩ | ⟨_, isHeld⟩
          · exact .inl stored
          · exact .inr (.inr (Closing.of_continue isOld isHeld))
        rcases owning.owned found before with stored | closed | isClosing
        · exact .inl (keeps _ _ _ stored)
        · exact .inr (.inl closed)
        · exact .inr (.inr (closing _ isClosing))
      overtaken := by
        intro found mem wasOvertaken stored
        rcases mem_cons.mp mem with rfl | before
        · rcases owner with ⟨_, inTime⟩ | ⟨absent, _⟩
          · rw [wasOvertaken] at inTime
            cases inTime
          · exact absent stored
        · rcases adds _ _ _ stored with wasStored | ⟨_, _, same⟩
          · exact owning.overtaken found before wasOvertaken wasStored
          · have smaller := owning.fresh found before
            omega }

theorem start_call {begun : Service × Begun} (groups : begun.1.groups = s.service.groups)
    (next : Except TerminalError State → Program) :
    (s.begin id begun next).Owning ∧ s.Keeps (s.begin id begun next) := by
  unfold Calls.begin
  split
  · exact owning.go_on isOld free groups
  · exact owning.go_on isOld free groups
  · exact owning.go_on isOld free groups

end

variable {overtaken : Bool}

section

variable {launch : Launch} {next : Except TerminalError State → Program} (owning : s.Owning)
  (isOld : s.threads[id]? = some (.launching launch overtaken next))
include owning isOld

theorem finish_start (starts : launch.caller = .startSession)
    (free : s.service.groups launch.opts.widgetID = none) (inTime : overtaken = false) (pid : Int)
    (startedAt : Nat) : (s.launched env id launch overtaken next pid startedAt).Owning ∧
    s.Keeps (s.launched env id launch overtaken next pid startedAt) := by
  unfold Calls.launched finish
  rw [starts]
  apply owning.launch isOld rfl rfl
  · exact owning.groups.insert Group.WellFormed.started
  · intro widgetID sessionID handle stored
    have ne : widgetID ≠ launch.opts.widgetID := by
      rintro rfl
      exact not_stored_of_none free stored
    exact (stored_insert_of_ne ne).mpr stored
  · intro widgetID sessionID handle stored
    by_cases same : widgetID = launch.opts.widgetID
    · subst same
      rcases stored_insert_self.mp stored with ⟨found, present, rfl⟩
      rcases session_insert present with ⟨rfl, rfl⟩ | absent
      · exact .inr ⟨rfl, rfl, rfl⟩
      · cases absent
    · exact .inl ((stored_insert_of_ne same).mp stored)
  · exact .inl ⟨stored_insert_self.mpr ⟨_, insert_self _ _ _, rfl⟩, inTime⟩

theorem finish_create {group : Group} (creates : launch.caller = .createSession)
    (lookup : s.service.groups launch.opts.widgetID = some group)
    (free : group.sessions launch.sessionID = none) (inTime : overtaken = false) (pid : Int)
    (startedAt : Nat) : (s.launched env id launch overtaken next pid startedAt).Owning ∧
    s.Keeps (s.launched env id launch overtaken next pid startedAt) := by
  unfold Calls.launched finish
  rw [creates]
  unfold finishCreate
  rw [lookup]
  apply owning.launch isOld rfl rfl
  · exact owning.groups.insert ((owning.groups _ _ lookup).add free)
  · intro widgetID sessionID handle stored
    by_cases same : widgetID = launch.opts.widgetID
    · subst same
      rcases (stored_of_lookup lookup).mp stored with ⟨found, present, sameHandle⟩
      have ne : sessionID ≠ launch.sessionID := by
        rintro rfl
        rw [free] at present
        cases present
      exact stored_insert_self.mpr
        ⟨found, (insert_of_ne ne _).trans present, sameHandle⟩
    · exact (stored_insert_of_ne same).mpr stored
  · intro widgetID sessionID handle stored
    by_cases same : widgetID = launch.opts.widgetID
    · subst same
      rcases stored_insert_self.mp stored with ⟨found, present, rfl⟩
      rcases session_insert present with ⟨rfl, rfl⟩ | before
      · exact .inr ⟨rfl, rfl, rfl⟩
      · exact .inl ((stored_of_lookup lookup).mpr ⟨found, before, rfl⟩)
    · exact .inl ((stored_insert_of_ne same).mp stored)
  · exact .inl ⟨stored_insert_self.mpr ⟨_, insert_self _ _ _, rfl⟩, inTime⟩

theorem finish_homeless (creates : launch.caller = .createSession)
    (lookup : s.service.groups launch.opts.widgetID = none) (pid : Int) (startedAt : Nat) :
    (s.launched env id launch overtaken next pid startedAt).Owning ∧
    s.Keeps (s.launched env id launch overtaken next pid startedAt) := by
  unfold Calls.launched finish
  rw [creates]
  unfold finishCreate
  rw [lookup]
  apply owning.launch isOld rfl rfl
  · exact owning.groups
  · exact fun _ _ _ stored => stored
  · exact fun _ _ _ stored => .inl stored
  · exact .inr ⟨not_stored_of_none lookup, mem_singleton_self _⟩

end

section

variable (owning : s.Owning) (isOld : s.threads[id]? = some old) (free : old.handles = [])
include owning isOld free

theorem close_session (widgetID : String) (next : Except TerminalError Unit → Program) :
    (s.closeSession id widgetID next).Owning ∧ s.Keeps (s.closeSession id widgetID next) := by
  unfold Calls.closeSession
  split
  next group service lookup closed =>
    exact owning.remove isOld free (close_session_sheds owning.groups lookup closed) _
  · exact owning.go_on isOld free rfl
  next lookup closed =>
    rw [Service.closeSession, lookup] at closed
    cases closed

theorem close_widget_session (widgetID sessionID : String)
    (next : Except TerminalError Unit → Program) :
    (s.closeWidgetSession id widgetID sessionID next).Owning ∧
    s.Keeps (s.closeWidgetSession id widgetID sessionID next) := by
  unfold Calls.closeWidgetSession
  split
  next sess service found closed =>
    rcases Option.bind_eq_some_iff.mp found with ⟨group, lookup, present⟩
    have sheds := close_widget_session_sheds owning.groups lookup present closed
    exact owning.remove isOld free sheds next
  · exact owning.go_on isOld free rfl
  next absent closed =>
    unfold Service.closeWidgetSession at closed
    cases lookup : s.service.groups widgetID with
    | none =>
      rw [lookup] at closed
      cases closed
    | some group =>
      rw [lookup, Option.bind_some] at absent
      rw [lookup] at closed
      dsimp only at closed
      rw [absent] at closed
      cases closed

theorem set_active_session (widgetID sessionID : String)
    (next : Except TerminalError State → Program) :
    (s.setActiveSession id widgetID sessionID next).Owning ∧
    s.Keeps (s.setActiveSession id widgetID sessionID next) := by
  unfold Calls.setActiveSession
  split
  · exact owning.go_on isOld free rfl
  next service state activated =>
    have sheds := set_active_session_sheds owning.groups activated
    refine owning.shed sheds rfl rfl ?_
    intro handle closing
    have isClosing : Calls.Closing { s with service := service } handle :=
      closing.resolve_right not_mem_nil
    exact isClosing.continue_free isOld free

end

theorem overtake_handles (thread : Thread) : thread.overtake.handles = thread.handles := by
  cases thread with
  | ready | launching | waiting | closing => rfl

theorem overtaken_thread (isThread : s.threads[id]? = some thread) :
    (s.threads.map Thread.overtake)[id]? = some thread.overtake := by
  rw [getElem?_map, isThread]
  rfl

section

variable (owning : s.Owning)
include owning

theorem close (isOld : s.threads[id]? = some old) (free : old.handles = []) (next : Program) :
    (s.close id next).Owning ∧ s.Keeps (s.close id next) := by
  have sheds : Sheds s.handles s.service.groups s.service.close.groups :=
    { wellFormed := nofun
      removes := by
        intro widgetID sessionID handle stored
        rcases owning.known _ _ _ stored with ⟨process, mem, rfl, rfl, rfl⟩
        rcases stored with ⟨group, sess, lookup, present, same⟩
        have listed : process.handle ∈ group.handles :=
          same ▸ mem_handles (owning.groups _ _ lookup) present
        apply Or.inr
        apply mem_map.mpr
        refine ⟨process, mem_filter.mpr ⟨mem, ?_⟩, rfl⟩
        rw [lookup]
        exact decide_eq_true listed
      adds := by
        intro widgetID sessionID handle stored
        rcases stored with ⟨group, sess, lookup, _⟩
        cases lookup }
  refine owning.shed sheds rfl rfl ?_
  intro handle closing
  rcases closing with already | isGone
  · rcases already with ⟨other, thread, isThread, listed⟩
    have before : Calls.Closing { s with
        service := s.service.close
        threads := s.threads.map Thread.overtake } handle :=
      ⟨other, thread.overtake, overtaken_thread isThread, overtake_handles thread ▸ listed⟩
    exact before.continue_free (overtaken_thread isOld) ((overtake_handles old).trans free)
  · exact Closing.of_continue (overtaken_thread isOld) isGone

theorem process_closed {handles : List Nat} {next : Except TerminalError Unit → Program}
    (isOld : s.threads[id]? = some (.closing handles next)) (result : Except TerminalError Unit) :
    (s.processClosed id handles next result).Owning ∧
    s.Keeps (s.processClosed id handles next result) := by
  cases handles with
  | nil => exact owning.go_on isOld rfl rfl
  | cons first rest =>
    have closing : ∀ handle, s.Closing handle → handle ≠ first →
        (s.processClosed id (first :: rest) next result).Closing handle := by
      rintro handle ⟨other, old, isThread, listed⟩ ne
      by_cases same : other = id
      · subst same
        cases (isOld.symm.trans isThread)
        have remains : handle ∈ rest := (mem_cons.mp listed).resolve_left ne
        apply Closing.of_continue isOld
        rw [if_neg (ne_nil_of_mem remains)]
        exact remains
      · exact ⟨other, old, (thread_of_ne same).trans isThread, listed⟩
    refine ⟨?_, fun _ _ _ stored => .inl stored⟩
    exact
      { groups := owning.groups
        known := by
          intro widgetID sessionID handle stored
          rcases owning.known _ _ _ stored with ⟨process, mem, same⟩
          exact ⟨process.close first, mem_map_of_mem mem, same⟩
        fresh := by
          intro process mem
          rcases mem_map.mp mem with ⟨before, wasProcess, rfl⟩
          exact owning.fresh before wasProcess
        owned := by
          intro process mem
          rcases mem_map.mp mem with ⟨before, wasProcess, rfl⟩
          rcases owning.owned before wasProcess with stored | closed | isClosing
          · exact .inl stored
          · exact .inr (.inl (Bool.or_eq_true_iff.mpr (.inl closed)))
          · by_cases isFirst : before.handle = first
            · exact .inr (.inl (Bool.or_eq_true_iff.mpr (.inr (decide_eq_true isFirst))))
            · exact .inr (.inr (closing _ isClosing isFirst))
        overtaken := by
          intro process mem
          rcases mem_map.mp mem with ⟨before, wasProcess, rfl⟩
          exact owning.overtaken before wasProcess }

theorem run {program : Program} (isOld : s.threads[id]? = some (.ready program))
    (taken : s.run env id program = some next) : next.Owning ∧ s.Keeps next := by
  cases program with
  | returned | observes => cases taken
  | getState widgetID _ =>
    cases taken
    exact owning.go_on isOld rfl rfl
  | startSession opts _ =>
    cases taken
    exact owning.start_call isOld rfl (begin_start_groups _ _ _) _
  | createSession opts _ =>
    cases taken
    exact owning.start_call isOld rfl (begin_create_groups _ _ _) _
  | setActiveSession widgetID sessionID _ =>
    cases taken
    exact owning.set_active_session isOld rfl widgetID sessionID _
  | closeSession widgetID _ =>
    cases taken
    exact owning.close_session isOld rfl widgetID _
  | closeWidgetSession widgetID sessionID _ =>
    cases taken
    exact owning.close_widget_session isOld rfl widgetID sessionID _
  | close _ =>
    cases taken
    exact owning.close isOld rfl _

theorem launched {launch : Launch} {next : Except TerminalError State → Program} {pid : Int}
    {startedAt : Nat} (isOld : s.threads[id]? = some (.launching launch overtaken next))
    (allowed : keepsOwnership s (.launched id pid startedAt) = true) :
    (s.launched env id launch overtaken next pid startedAt).Owning ∧
    s.Keeps (s.launched env id launch overtaken next pid startedAt) := by
  rw [keepsOwnership, isOld] at allowed
  dsimp only at allowed
  split at allowed
  next starts free =>
    have inTime : overtaken = false := by simpa using allowed
    exact owning.finish_start isOld starts free inTime pid startedAt
  · cases allowed
  next creates lookup => exact owning.finish_homeless isOld creates lookup pid startedAt
  next group creates lookup =>
    rcases Bool.and_eq_true_iff.mp allowed with ⟨free, inTime⟩
    exact owning.finish_create isOld creates lookup (Option.isNone_iff_eq_none.mp free)
      (by simpa using inTime) pid startedAt

theorem update (id sessionID : String) (handle : Nat)
    (keeps : ∀ sess, (change sess).handle = sess.handle) :
    let next := { s with
      service := s.service.updateSession id sessionID handle change }
    Calls.Owning next ∧ s.Keeps next := by
  refine owning.shed (update_session_sheds owning.groups handle keeps) rfl rfl ?_
  intro other closing
  exact closing.resolve_right not_mem_nil

theorem step {action : CallAction}
    (taken : guarded keepsOwnership (callStep env) s action = some next) :
    next.Owning ∧ s.Keeps next := by
  rcases guarded_eq_some.mp taken with ⟨allowed, stepped⟩
  cases action with
  | call operation =>
    cases stepped
    refine owning.shed (Sheds.refl owning.groups) rfl rfl ?_
    intro handle closing
    rcases closing.resolve_right not_mem_nil with ⟨id, thread, isThread, listed⟩
    rcases List.getElem?_eq_some_iff.mp isThread with ⟨bound, _⟩
    exact ⟨id, thread, (getElem?_append_left bound).trans isThread, listed⟩
  | run id =>
    rw [callStep] at stepped
    split at stepped
    next program isOld => exact owning.run isOld stepped
    · cases stepped
  | launched id pid startedAt =>
    rw [callStep] at stepped
    split at stepped
    next launch overtaken after isOld =>
      cases stepped
      exact owning.launched isOld allowed
    · cases stepped
  | launchFailed id text =>
    rw [callStep] at stepped
    split at stepped
    next launch overtaken after isOld =>
      cases stepped
      exact owning.go_on isOld rfl rfl
    · cases stepped
  | waited | observed =>
    rw [callStep] at stepped
    split at stepped
    next after isOld =>
      cases stepped
      exact owning.go_on isOld rfl rfl
    · cases stepped
  | processClosed id result =>
    rw [callStep] at stepped
    split at stepped
    next handles after isOld =>
      cases stepped
      exact owning.process_closed isOld result
    · cases stepped
  | exited widgetID sessionID handle | output widgetID sessionID handle =>
    cases stepped
    exact owning.update widgetID sessionID handle fun _ => rfl

end

theorem initial : Calls.Owning {} where
  groups := nofun
  known := by
    rintro id sessionID handle ⟨group, sess, lookup, _⟩
    cases lookup
  fresh := nofun
  owned := nofun
  overtaken := nofun

end Owning

end Calls

/-- Where no step replaces a session, each process that the launcher has returned is that of a
session, or it is closed, or about to be; one whose launch `Close` has overtaken is not that of a
session. -/
theorem every_process_is_owned {env : Environment} {s : Calls}
    (reachable : Reachable (· = {}) (guarded keepsOwnership (callStep env)) s) :
    (∀ process ∈ s.processes,
      Stored s.service.groups process.widgetID process.sessionID process.handle ∨
      process.closed = true ∨ s.Closing process.handle) ∧
    (∀ process ∈ s.processes, process.overtaken = true →
      process.closed = true ∨ s.Closing process.handle) ∧
    ∀ action next, guarded keepsOwnership (callStep env) s action = some next → s.Keeps next := by
  have owning : s.Owning := by
    apply reachable.invariant
    · rintro first rfl
      exact Calls.Owning.initial
    · intro before action after isOwning taken
      exact (isOwning.step taken).1
  refine ⟨owning.owned, ?_, fun action next taken => (owning.step taken).2⟩
  intro process mem wasOvertaken
  exact (owning.owned process mem).resolve_left
    (owning.overtaken process mem wasOvertaken)

def plainEnvironment : Environment where
  defaultShell := "sh"
  repoRoot := "/repo"
  isAvailableLocalShell shell := shell = "sh"

def siblingActions : List CallAction :=
  [.call (.startSession { widgetID := "term" }), .run 0, .launched 0 7 0,
    .call (.createTerminalSiblingSession ⟨"term", some { kind := "local" }⟩ "sess_1"),
    .run 1, .run 1, .run 1, .launched 1 8 1,
    .call (.closeWidgetSession "term" "term"), .run 2, .processClosed 2 (.ok ())]

theorem every_process_is_owned_siblings :
    ∃ s, Reachable (· = {}) (guarded keepsOwnership (callStep plainEnvironment)) s ∧
    s.processes.map Process.closed = [false, true] ∧ ∀ process ∈ s.processes,
    Stored s.service.groups process.widgetID process.sessionID process.handle ∨ process.closed =
    true ∨ s.Closing process.handle := by
  have ran : (runActions (guarded keepsOwnership (callStep plainEnvironment)) {}
      siblingActions).map (fun s => s.processes.map Process.closed == [false, true]) =
      some true := by
    decide +kernel
  rcases @reachable_of_run _ _ (· = {}) _ _ rfl _ _ ran with ⟨s, reachable, tested⟩
  exact ⟨s, reachable, beq_iff_eq.mp tested, (every_process_is_owned reachable).1⟩

def twoStarts : List CallAction :=
  [.call (.startSession { widgetID := "term", sessionID := "a" }),
    .call (.startSession { widgetID := "term", sessionID := "b" }),
    .run 0, .run 1, .launched 0 7 0, .launched 1 8 1]

def startDuringClose : List CallAction :=
  [.call (.startSession { widgetID := "term" }), .call .close,
    .run 0, .run 1, .processClosed 1 (.ok ()), .launched 0 7 0]

/-- The second start leaves the process of the first one running, and the process of a start
outlives the close of the service. -/
theorem processes_are_leaked :
    (¬ ∀ s, Reachable (· = {}) (callStep plainEnvironment) s →
      ∀ process ∈ s.processes,
        Stored s.service.groups process.widgetID process.sessionID process.handle ∨
        process.closed = true ∨ s.Closing process.handle) ∧
    ¬ ∀ s, Reachable (· = {}) (callStep plainEnvironment) s →
      ∀ process ∈ s.processes, process.overtaken = true →
        process.closed = true ∨ s.Closing process.handle := by
  constructor
  · intro always
    have ran : (runActions (callStep plainEnvironment) {} twoStarts).map (fun s =>
        decide (∀ process ∈ s.processes,
          Stored s.service.groups process.widgetID process.sessionID process.handle ∨
            process.closed = true ∨ s.Closing process.handle) == false) = some true := by
      decide +kernel
    rcases @reachable_of_run _ _ (· = {}) _ _ rfl _ _ ran with ⟨s, reachable, tested⟩
    exact of_decide_eq_false (beq_iff_eq.mp tested) (always s reachable)
  · intro always
    have ran : (runActions (callStep plainEnvironment) {} startDuringClose).map (fun s =>
        decide (∀ process ∈ s.processes, process.overtaken = true →
          process.closed = true ∨ s.Closing process.handle) == false) = some true := by
      decide +kernel
    rcases @reachable_of_run _ _ (· = {}) _ _ rfl _ _ ran with ⟨s, reachable, tested⟩
    exact of_decide_eq_false (beq_iff_eq.mp tested) (always s reachable)

end RuneTerminal.Terminal
