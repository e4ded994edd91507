import RuneTerminal.TerminalView.LoadSteps

/-! As long as a load begins only when no other one is under way for the record, and a first load
only when the record has no open stream, one stream at most feeds the record. -/

namespace RuneTerminal.TerminalView

open Kit Option Bool SameCore

variable {s : Store} {record changed : TerminalSessionRecord} {call id : Nat} {stage : Stage}
  {load : Load}

def Feeds (s : Store) (stream : Nat) : Prop :=
  ∃ connection, s.streams stream = some connection ∧ connection.isOpen = true ∧
    connection.attached = true

/-- The terminal view shows each chunk once. A stream that the call which connected it has
not taken yet is nobody's. -/
structure ShowsOnce (s : Store) : Prop where
  single : ∀ first second, Feeds s first → Feeds s second → first = second
  closed : ∀ stream connection, s.streams stream = some connection →
    (∀ record, s.current = some record → record.streamClose ≠ some stream) →
    (∀ call id load, s.calls call ≠ some ⟨id, .connected load stream⟩) →
      connection.isOpen = false
  increasing : ∀ record snapshot, s.current = some record → record.snapshot = some snapshot →
    (snapshot.chunks.map TerminalOutputChunk.seq).Pairwise (· < ·)

theorem OneLoad.shows_once (one : OneLoad s) : ShowsOnce s := by
  constructor
  · rintro first second ⟨one₁, isFirst, firstOpen, firstAttached⟩
      ⟨two, isSecond, secondOpen, secondAttached⟩
    rcases one.attached first one₁ isFirst firstAttached firstOpen with
      ⟨record, isCurrent, isOwn, _⟩
    have isHeld := (attached_is_own one isCurrent isSecond secondAttached secondOpen).1
    exact some.inj (isOwn.symm.trans isHeld)
  · intro stream conn isStream notOwn notHanded
    by_contra isOpen
    rw [not_eq_false] at isOpen
    cases isAttached : conn.attached with
    | true =>
      rcases one.attached stream conn isStream isAttached isOpen with
        ⟨record, isCurrent, isOwn, _⟩
      exact notOwn record isCurrent isOwn
    | false =>
      rcases one.handed stream conn isStream isAttached isOpen with
        ⟨call, id, load, isCall⟩
      exact notHanded call id load isCall
  · intro record snapshot isCurrent isThere
    exact (one.ordered record snapshot isCurrent isThere).increasing

def hasOpenStream (s : Store) (record : TerminalSessionRecord) : Bool :=
  record.streamClose.any fun stream => (s.streams stream).any Stream.isOpen

/-- Nobody is loading into the record, if it is still the one of the widget. -/
def mayReload (s : Store) (id : Nat) : Bool :=
  (s.active id).all fun record => record.load.isNone

/-- Every load that begins is the only one of its record, and a first load finds no open
stream. -/
def loadsAlone (s : Store) : Action → Bool
  | .mount _ => s.current.all fun record =>
    record.loadPromise || (record.load.isNone && !hasOpenStream s record)
  | .request _ request => s.current.all fun record =>
    refuses record request || request != .recover || restartsToRecover record ||
      record.load.isNone
  | .resume call answer => (s.calls call).all fun pending =>
    match pending.stage, answer with
    | .calling _, .done => mayReload s pending.record
    | _, _ => true
  | .fire _ => s.current.all fun record =>
    !record.streamReconnectTimer || record.retainers == 0 || record.load.isNone
  | _ => true

theorem active_eq_some_iff :
    s.active id = some record ↔ s.current = some record ∧ record.id = id := by
  unfold Store.active
  rw [filter_eq_some_iff, beq_iff_eq]

theorem active_eq_none (absent : s.active id = none) (isCurrent : s.current = some record) :
    record.id ≠ id := by
  intro same
  have isActive := active_eq_some_iff.mpr ⟨isCurrent, same⟩
  rw [absent] at isActive
  cases isActive

theorem quiet_of_no_open_stream (closed : hasOpenStream s record = false) :
    Quiet s.streams record := by
  intro stream conn isOwn isStream
  unfold hasOpenStream at closed
  rw [isOwn, any_some, isStream] at closed
  exact closed

theorem released_of_none (absent : s.calls call = none) : Released s call := by
  intro id load stream conn isCall
  rw [absent] at isCall
  cases isCall

theorem released_of_stage (isCall : s.calls call = some ⟨id, stage⟩)
    (unconnected : ∀ load stream, stage ≠ .connected load stream) : Released s call := by
  intro otherID load stream conn isOther
  rw [isCall] at isOther
  exact absurd (congrArg Pending.stage (some.inj isOther)) (unconnected load stream)

theorem idle_of_load_none (one : OneLoad s) (isCurrent : s.current = some record)
    (isNone : record.load = none) : Idle s record := by
  intro call stage isCall
  by_contra loads
  rw [not_eq_false] at loads
  have isLoad := (one.alone record call stage isCurrent isCall loads).1
  rw [isNone] at isLoad
  cases isLoad

theorem may_reload_of_none (isCurrent : s.current = some record) (isNone : record.load = none) :
    mayReload s id = true := by
  unfold mayReload
  cases isActive : s.active id with
  | none => rfl
  | some other =>
    cases (isCurrent.symm.trans (active_eq_some_iff.mp isActive).1)
    rw [all_some, isNone]
    rfl

theorem OneLoad.reloads (one : OneLoad s) (released : Released s call) (known : id < s.nextRecord)
    (may : mayReload s id = true) (caller : Caller) : OneLoad (startReload s call id caller) := by
  unfold startReload
  cases isActive : s.active id with
  | none =>
    refine one.waits released known (.inr ⟨?_, ?_⟩)
    · intro load stream isStage
      cases isStage
    · intro record isCurrent
      exact active_eq_none isActive isCurrent
  | some record =>
    unfold mayReload at may
    rw [isActive, all_some, isNone_iff_eq_none] at may
    obtain ⟨isCurrent, rfl⟩ := active_eq_some_iff.mp isActive
    have stillCurrent : (s.clearConnection record).current = some record := by
      rw [clear_connection_current]
      exact isCurrent
    have idle := idle_of_load_none (one.cleared record) stillCurrent may
    have letGo := (one.cleared record).let_go stillCurrent (quiet_after_clear s record)
    have stillReleased : Released ((s.clearConnection record).withRecord
        { record with streamClose := none }) call := by
      intro otherID load stream conn isCall isStream
      change (s.clearConnection record).calls call = _ at isCall
      rw [clear_connection_calls] at isCall
      exact closed_after_clear s record (fun before isBefore =>
        released otherID load stream before isCall isBefore) isStream
    refine @OneLoad.moves ((s.clearConnection record).withRecord
      { record with streamClose := none }) { record with streamClose := none } _ call _ letGo
        rfl rfl rfl rfl ?_ ?_ stillReleased ?_ nofun nofun
    · intro stream conn isOwn
      cases isOwn
    · intro other otherStage _ isOther
      exact idle other otherStage isOther
    · intro snapshot isThere
      exact one.ordered record snapshot isCurrent isThere

theorem OneLoad.flagged (one : OneLoad s) (isCurrent : s.current = some record)
    (sameID : changed.id = record.id) (sameStream : changed.streamClose = record.streamClose)
    (sameLoad : changed.load = record.load) (sameSnapshot : changed.snapshot = record.snapshot) :
    OneLoad (s.withRecord changed) :=
  one.same_core isCurrent (of_snapshot sameID sameStream sameLoad sameSnapshot)

theorem OneLoad.ensures (one : OneLoad s) (isCurrent : s.current = some record)
    (absent : s.calls call = none)
    (alone : record.loadPromise = true ∨ record.load = none ∧ Quiet s.streams record) :
    OneLoad (startEnsure s call record) := by
  have stays := one.flagged isCurrent rfl rfl rfl rfl
  unfold startEnsure
  split_ifs with isLoading
  · exact stays
  rcases alone.resolve_left isLoading with ⟨isNone, quiet⟩
  have idle := idle_of_load_none one isCurrent isNone
  refine one.moves isCurrent rfl rfl rfl quiet ?_ (released_of_none absent) ?_ nofun nofun
  · intro other otherStage _ isOther
    exact idle other otherStage isOther
  · intro snapshot isThere
    exact one.ordered record snapshot isCurrent isThere

theorem OneLoad.takes (one : OneLoad s) {sent : SentSnapshot}
    (isCall : s.calls call = some ⟨id, .fetching load⟩) :
    OneLoad (takeSnapshot s call id load sent) := by
  have released := released_of_stage isCall nofun
  have known := one.known call _ isCall
  unfold takeSnapshot
  cases isActive : s.active id with
  | none => exact one.waits released known (.inl rfl)
  | some record =>
    obtain ⟨isCurrent, rfl⟩ := active_eq_some_iff.mp isActive
    rcases one.alone record call _ isCurrent isCall rfl with ⟨isLoad, quiet⟩
    refine one.moves isCurrent rfl rfl isLoad quiet
      (no_other_of_loads one isCurrent isCall rfl) released ?_ nofun ?_
    · intro snapshot isThere
      cases isThere
      exact sent.ordered
    · intro otherLoad number isStage
      obtain ⟨_, rfl⟩ := Stage.connecting.inj isStage
      exact ⟨sent.snapshot, rfl, Nat.le_refl _⟩

theorem same_core_scheduled (record : TerminalSessionRecord) :
    SameCore record (scheduleReconnect record) := by
  unfold scheduleReconnect
  split_ifs
  · exact of_snapshot rfl rfl rfl rfl
  · exact of_snapshot rfl rfl rfl rfl
  · exact of_snapshot rfl rfl rfl rfl

theorem same_core_failed (record : TerminalSessionRecord) (load : Load) :
    SameCore record (failedRecord record load) := by
  cases load with
  | ensure => exact of_snapshot rfl rfl rfl rfl
  | reload caller =>
    unfold failedRecord
    dsimp only
    split_ifs
    · exact same_core_scheduled record
    · exact of_snapshot rfl rfl rfl rfl

section

variable (one : OneLoad s)
include one

theorem OneLoad.fails (isCall : s.calls call = some ⟨id, stage⟩) (loads : stage.loads = true)
    (unconnected : ∀ load stream, stage ≠ .connected load stream) :
    OneLoad (failLoad s call id load) := by
  have released := released_of_stage isCall unconnected
  have known := one.known call _ isCall
  unfold failLoad
  cases isActive : s.active id with
  | none => exact one.waits released known (.inl rfl)
  | some record =>
    obtain ⟨isCurrent, rfl⟩ := active_eq_some_iff.mp isActive
    have noOther := no_other_of_loads one isCurrent isCall loads
    have waited := one.waits released known (.inl rfl : Harmless s ⟨record.id, .returning load⟩)
    have same := same_core_failed record load
    have changed := waited.same_core isCurrent same
    have idle : Idle ((s.wait call record.id (.returning load)).withRecord
        (failedRecord record load)) (failedRecord record load) := by
      intro other otherStage isOther
      rw [same.id] at isOther
      rcases Table.insert_eq_some isOther with ⟨_, isPending⟩ | ⟨ne, isOld⟩
      · obtain rfl : otherStage = .returning load := congrArg Pending.stage isPending
        rfl
      · exact noOther other otherStage ne isOld
    exact changed.unload rfl idle none

theorem OneLoad.attach_step {stream : Nat}
    (isCall : s.calls call = some ⟨id, .connected load stream⟩) :
    OneLoad (attachStream s call id load stream) := by
  have known := one.known call _ isCall
  unfold attachStream
  cases isActive : s.active id with
  | none =>
    have closed := one.closed stream false
    have released : Released (s.closeStream stream false) call := by
      intro otherID otherLoad other conn isOther isStream
      have isPending := isCall.symm.trans ((close_stream_calls s stream false ▸ isOther))
      have isStage := congrArg Pending.stage (some.inj isPending)
      obtain ⟨_, rfl⟩ := Stage.connected.inj isStage
      exact closed_after_close s stream false isStream
    have stillKnown : id < (s.closeStream stream false).nextRecord := by
      rw [close_stream_next_record]
      exact known
    exact closed.waits released stillKnown (.inl rfl)
  | some record =>
    obtain ⟨isCurrent, rfl⟩ := active_eq_some_iff.mp isActive
    cases isStream : s.streams stream with
    | none => exact one
    | some conn => exact one.attaches isCurrent isCall isStream

theorem OneLoad.after_attach (isCall : s.calls call = some ⟨id, .attached load⟩) :
    OneLoad (afterAttach s call id load) := by
  have released := released_of_stage isCall nofun
  have known := one.known call _ isCall
  unfold afterAttach
  split
  next caller record isActive =>
    obtain ⟨isCurrent, rfl⟩ := active_eq_some_iff.mp isActive
    exact (one.waits released known (.inl rfl)).flagged isCurrent rfl rfl rfl rfl
  · exact one.waits released known (.inl rfl)

theorem OneLoad.after_load (isCall : s.calls call = some ⟨id, .returning load⟩) :
    OneLoad (afterLoad s call id load) := by
  have finished := one.finished (released_of_stage isCall nofun)
  unfold afterLoad
  split
  · exact finished
  next record isActive =>
    obtain ⟨isCurrent, rfl⟩ := active_eq_some_iff.mp isActive
    split
    · exact finished.flagged isCurrent rfl rfl rfl rfl
    · exact finished.flagged isCurrent rfl rfl rfl rfl

theorem OneLoad.refused {caller : Caller} (isCall : s.calls call = some ⟨id, .calling caller⟩) :
    OneLoad (refuseRequest s call id caller) := by
  have finished := one.finished (released_of_stage isCall nofun)
  unfold refuseRequest
  split
  · exact finished
  next record isActive =>
    obtain ⟨isCurrent, rfl⟩ := active_eq_some_iff.mp isActive
    exact finished.flagged isCurrent rfl rfl rfl rfl

theorem OneLoad.interrupted (isCall : s.calls call = some ⟨id, .interrupting⟩)
    (state : Option TerminalRuntimeState) : OneLoad (afterInterrupt s call state) := by
  have finished := one.finished (released_of_stage isCall nofun)
  unfold afterInterrupt
  split
  · exact finished
  next record isCurrent =>
    refine finished.same_core isCurrent ⟨rfl, rfl, rfl, ?_, ?_⟩
    · intro snapshot isThere
      obtain ⟨before, isBefore, rfl⟩ := map_eq_some_iff.mp isThere
      exact ⟨before, isBefore, rfl, rfl⟩
    · intro isThere
      exact (isSome_map).trans isThere

theorem OneLoad.unmounted : OneLoad (unmount s) := by
  unfold unmount
  split
  · exact one
  next record isCurrent =>
    split_ifs
    · exact one.flagged isCurrent rfl rfl rfl rfl
    · refine (one.cleared record).deleted ?_ (quiet_after_clear s record)
      rw [clear_connection_current]
      exact isCurrent

theorem OneLoad.requests (isCurrent : s.current = some record) (absent : s.calls call = none)
    {request : Request}
    (alone : request ≠ .recover ∨ restartsToRecover record = true ∨ record.load = none) :
    OneLoad (startRequest s call record request) := by
  have released := released_of_none absent
  have known := one.currentKnown record isCurrent
  -- All requests but recovering wait for an answer first.
  have waits : ∀ (flags : Flags) (stage : Stage), stage.loads = false →
      OneLoad ((s.withRecord { record with flags := flags }).wait call record.id stage) :=
    fun flags stage notLoading =>
      (one.waits released known (.inl notLoading)).flagged isCurrent rfl rfl rfl rfl
  unfold startRequest
  cases request with
  | recover =>
    split_ifs with restarts
    · exact waits _ _ rfl
    have isNone := (alone.resolve_left (fun ne => ne rfl)).resolve_left restarts
    have flagged := @OneLoad.flagged s record
      { record with flags := record.flags.sent .recover } one isCurrent rfl rfl rfl rfl
    exact flagged.reloads released known (may_reload_of_none rfl isNone) .recover
  | create | focus | close | restart | switchShell | interrupt => exact waits _ _ rfl

theorem OneLoad.resumes {pending : Pending} {answer : Answer} {next : Store}
    (isCall : s.calls call = some pending)
    (may : ∀ caller, pending.stage = .calling caller → answer = .done →
      mayReload s pending.record = true)
    (taken : resume s call pending answer = some next) : OneLoad next := by
  obtain ⟨id, stage⟩ := pending
  cases stage with
  | calling caller =>
    cases answer with
    | done =>
      cases taken
      exact one.reloads (released_of_stage isCall nofun) (one.known call _ isCall)
        (may caller rfl rfl) caller
    | failed =>
      cases taken
      exact one.refused isCall
    | sent | interrupted => cases taken
  | interrupting =>
    cases answer with
    | interrupted state =>
      cases taken
      exact one.interrupted isCall (some state)
    | failed =>
      cases taken
      exact one.interrupted isCall none
    | done | sent => cases taken
  | fetching load =>
    cases answer with
    | sent snapshot =>
      cases taken
      exact one.takes isCall
    | failed =>
      cases taken
      exact one.fails isCall rfl nofun
    | done | interrupted => cases taken
  | connecting load nextSeq =>
    cases answer with
    | done =>
      cases taken
      exact one.connects isCall
    | failed =>
      cases taken
      exact one.fails isCall rfl nofun
    | sent | interrupted => cases taken
  | connected load stream =>
    cases answer with
    | done =>
      cases taken
      exact one.attach_step isCall
    | failed | sent | interrupted => cases taken
  | attached load =>
    cases answer with
    | done =>
      cases taken
      exact one.after_attach isCall
    | failed | sent | interrupted => cases taken
  | returning load =>
    cases answer with
    | done =>
      cases taken
      exact one.after_load isCall
    | failed | sent | interrupted => cases taken

theorem step_keeps_one_load {action : Action} {next : Store} (allowed : loadsAlone s action = true)
    (taken : step s action = some next) : OneLoad next := by
  have got := one.got_record
  cases action with
  | render =>
    cases taken
    exact got.1
  | mount call =>
    dsimp only [step] at taken
    split_ifs at taken with isTaken
    cases taken
    rcases got with ⟨gotOne, isCurrent, sameCalls, before⟩
    have retained := @OneLoad.flagged s.getRecord.2 s.getRecord.1
      { s.getRecord.1 with retainers := s.getRecord.1.retainers + 1 } gotOne isCurrent
      rfl rfl rfl rfl
    have absent : s.calls call = none := not_isSome_iff_eq_none.mp isTaken
    have alone : s.getRecord.1.loadPromise = true ∨
        s.getRecord.1.load = none ∧ Quiet s.getRecord.2.streams s.getRecord.1 := by
      rcases before with ⟨isOld, sameStore⟩ | ⟨_, isNone, noStream⟩
      · have isAllowed : (s.getRecord.1.loadPromise ||
            (s.getRecord.1.load.isNone && !hasOpenStream s s.getRecord.1)) = true := by
          unfold loadsAlone at allowed
          rw [isOld] at allowed
          exact allowed
        rcases or_eq_true_iff.mp isAllowed with isLoading | isIdle
        · exact .inl isLoading
        rcases and_eq_true_iff.mp isIdle with ⟨isNone, closed⟩
        rw [not_eq_true'] at closed
        rw [sameStore]
        exact .inr ⟨isNone_iff_eq_none.mp isNone, quiet_of_no_open_stream closed⟩
      · refine .inr ⟨isNone, ?_⟩
        intro stream conn isOwn
        rw [noStream] at isOwn
        cases isOwn
    exact retained.ensures rfl (sameCalls ▸ absent) alone
  | unmount =>
    cases taken
    exact one.unmounted
  | request call request =>
    dsimp only [step] at taken
    rcases got with ⟨gotOne, isCurrent, sameCalls, before⟩
    split_ifs at taken with isTaken isRefused
    · cases taken
      exact gotOne
    cases taken
    have absent : s.calls call = none := not_isSome_iff_eq_none.mp isTaken
    refine gotOne.requests isCurrent (sameCalls ▸ absent) ?_
    rcases before with ⟨isOld, _⟩ | ⟨_, isNone, _⟩
    · unfold loadsAlone at allowed
      dsimp only at allowed
      rw [isOld, all_some, or_eq_true, or_eq_true, or_eq_true,
        bne_iff_ne, isNone_iff_eq_none] at allowed
      rcases allowed with ((isRefusal | different) | restarts) | isNone
      · exact absurd isRefusal isRefused
      · exact .inl different
      · exact .inr (.inl restarts)
      · exact .inr (.inr isNone)
    · exact .inr (.inr isNone)
  | resume call answer =>
    obtain ⟨pending, isCall, resumed⟩ := bind_eq_some_iff.mp taken
    refine one.resumes isCall ?_ resumed
    rintro caller isStage rfl
    unfold loadsAlone at allowed
    dsimp only at allowed
    rw [isCall, all_some, isStage] at allowed
    exact allowed
  | output stream data =>
    obtain ⟨conn, isStream, delivered⟩ := bind_eq_some_iff.mp taken
    split_ifs at delivered with isOpen
    cases delivered
    rcases and_eq_true_iff.mp isOpen with ⟨stillOpen, isAttached⟩
    exact one.delivers isStream isAttached stillOpen
  | finish stream =>
    obtain ⟨conn, isStream, ended⟩ := bind_eq_some_iff.mp taken
    split_ifs at ended with isOpen
    cases ended
    exact one.stream_changed isStream rfl rfl nofun
  | report stream =>
    obtain ⟨conn, isStream, told⟩ := bind_eq_some_iff.mp taken
    split_ifs at told with isEnded byClient
    · cases told
      exact one.stream_changed isStream rfl rfl fun isOpen => isOpen
    cases told
    have changed := @OneLoad.stream_changed s one stream conn
      { conn with ended := false } isStream rfl rfl fun isOpen => isOpen
    cases isCurrent : s.current with
    | none =>
      rw [isCurrent] at changed
      exact changed
    | some record => exact changed.same_core isCurrent (same_core_scheduled record)
  | fire call =>
    dsimp only [step] at taken
    split_ifs at taken with isTaken
    obtain ⟨record, isCurrent, fired⟩ := bind_eq_some_iff.mp taken
    have flagged := @OneLoad.flagged s record { record with streamReconnectTimer := false } one
      isCurrent rfl rfl rfl rfl
    split_ifs at fired with isPending isReleased
    · cases fired
      exact flagged
    cases fired
    have absent : s.calls call = none := not_isSome_iff_eq_none.mp isTaken
    have isNone : record.load = none := by
      unfold loadsAlone at allowed
      dsimp only at allowed
      rw [isCurrent, Option.all_some, isPending, Bool.not_true, Bool.false_or,
        Bool.or_eq_true, beq_iff_eq, Option.isNone_iff_eq_none] at allowed
      exact allowed.resolve_left isReleased
    exact flagged.reloads (released_of_none absent) (one.currentKnown record isCurrent)
      (may_reload_of_none rfl isNone) .timer

end

def Untouched (s : Store) : Prop := s = {}

theorem untouched_at_start : Untouched {} := rfl

/-- The view shows each chunk once in every run whose loads begin alone. -/
theorem each_chunk_is_shown_once (s : Store)
    (reachable : Reachable Untouched (guarded loadsAlone step) s) : ShowsOnce s := by
  have one : OneLoad s := by
    refine reachable.invariant ?_ ?_
    · rintro s rfl
      exact one_load_at_start
    · intro s action next isOne taken
      rcases guarded_eq_some.mp taken with ⟨allowed, stepped⟩
      exact step_keeps_one_load isOne allowed stepped
  exact one.shows_once

def oneChunk : SentSnapshot :=
  { snapshot :=
      { state := { sessionID := "s" }
        chunks := [{ seq := 0, data := "$ " }]
        nextSeq := 1 }
    ordered := ⟨by decide, by decide⟩ }

def mountAndLoad (call : Nat) : List Action :=
  [.mount call, .resume call (.sent oneChunk), .resume call .done, .resume call .done,
    .resume call .done, .resume call .done]

def shownNumbers (s : Store) : List Nat :=
  ((s.current.bind TerminalSessionRecord.snapshot).elim [] TerminalSnapshot.chunks).map
    TerminalOutputChunk.seq

def doubledRun : List Action :=
  mountAndLoad 0 ++ mountAndLoad 1 ++ [.output 0 "ls", .output 1 "ls"]

theorem not_shown_once_of_numbers {numbers : List Nat} (shown : shownNumbers s = numbers)
    (repeated : ¬ numbers.Pairwise (· < ·)) : ¬ ShowsOnce s := by
  intro once
  apply repeated
  unfold shownNumbers at shown
  rw [← shown]
  cases isCurrent : s.current with
  | none => exact List.Pairwise.nil
  | some record =>
    rw [bind_some]
    cases isThere : record.snapshot with
    | none => exact List.Pairwise.nil
    | some snapshot => exact once.increasing record snapshot isCurrent isThere

theorem chunk_is_shown_twice : ¬ ∀ s : Store, Reachable Untouched step s → ShowsOnce s := by
  intro claimed
  have tested : (runActions step {} doubledRun).map
      (fun s => shownNumbers s == [0, 1, 1]) = some true := by decide +kernel
  rcases reachable_of_run untouched_at_start tested with ⟨s, reachable, shown⟩
  exact not_shown_once_of_numbers (beq_iff_eq.mp shown) (by decide) (claimed s reachable)

def restartedRun : List Action :=
  mountAndLoad 0 ++ [.output 0 "ls", .request 1 .restart, .resume 1 .done,
    .resume 1 (.sent oneChunk), .resume 1 .done, .resume 1 .done, .output 1 "ls",
    .finish 1, .mount 2, .report 1]

theorem each_chunk_is_shown_once_restarted : ∃ s, Reachable Untouched (guarded loadsAlone step) s ∧
    shownNumbers s = [0, 1] ∧ ShowsOnce s := by
  have tested : (runActions (guarded loadsAlone step) {} restartedRun).map
      (fun s => shownNumbers s == [0, 1]) = some true := by decide +kernel
  rcases reachable_of_run untouched_at_start tested with ⟨s, reachable, shown⟩
  exact ⟨s, reachable, beq_iff_eq.mp shown, each_chunk_is_shown_once s reachable⟩

end RuneTerminal.TerminalView
