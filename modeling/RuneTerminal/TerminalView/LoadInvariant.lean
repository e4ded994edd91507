import RuneTerminal.TerminalView.Loads

/-! While a widget's record is loaded by one call at most, and no stream that it has is open then,
each chunk that is added comes after those that are there. -/

namespace RuneTerminal.TerminalView

open Kit Table Store

def Stage.loads : Stage → Bool
  | .fetching _ | .connecting _ _ | .connected _ _ => true
  | .calling _ | .interrupting | .attached _ | .returning _ => false

def Ahead (record : TerminalSessionRecord) (number : Nat) : Prop :=
  ∃ snapshot, record.snapshot = some snapshot ∧ snapshot.nextSeq ≤ number

def Quiet (streams : Table Nat Stream) (record : TerminalSessionRecord) : Prop :=
  ∀ stream connection, record.streamClose = some stream →
    streams stream = some connection → connection.isOpen = false

structure OneLoad (s : Store) : Prop where
  known : ∀ call pending, s.calls call = some pending → pending.record < s.nextRecord
  currentKnown : ∀ record, s.current = some record → record.id < s.nextRecord
  numbered : ∀ stream connection, s.streams stream = some connection → stream < s.nextStream
  held : ∀ record stream, s.current = some record → record.streamClose = some stream →
    stream < s.nextStream
  alone : ∀ record call stage, s.current = some record →
    s.calls call = some ⟨record.id, stage⟩ → stage.loads = true →
      record.load = some call ∧ Quiet s.streams record
  attached : ∀ stream connection, s.streams stream = some connection →
    connection.attached = true → connection.isOpen = true →
      ∃ record, s.current = some record ∧ record.streamClose = some stream ∧
        Ahead record connection.nextSeq
  handed : ∀ stream connection, s.streams stream = some connection →
    connection.attached = false → connection.isOpen = true →
      ∃ call id load, s.calls call = some ⟨id, .connected load stream⟩
  waiting : ∀ call id load stream, s.calls call = some ⟨id, .connected load stream⟩ →
    (∃ connection, s.streams stream = some connection ∧ connection.attached = false) ∧
      ∀ other otherID otherLoad,
        s.calls other = some ⟨otherID, .connected otherLoad stream⟩ → other = call
  connecting : ∀ record call load number, s.current = some record →
    s.calls call = some ⟨record.id, .connecting load number⟩ → Ahead record number
  connected : ∀ record call load stream connection, s.current = some record →
    s.calls call = some ⟨record.id, .connected load stream⟩ →
      s.streams stream = some connection → Ahead record connection.nextSeq
  ordered : ∀ record snapshot, s.current = some record → record.snapshot = some snapshot →
    snapshot.Ordered

theorem one_load_at_start : OneLoad {} := by
  constructor
  · intro call pending isThere
    cases isThere
  · intro record isThere
    cases isThere
  · intro stream conn isThere
    cases isThere
  · intro record stream isThere
    cases isThere
  · intro record call stage isThere
    cases isThere
  · intro stream conn isThere
    cases isThere
  · intro stream conn isThere
    cases isThere
  · intro call id load stream isThere
    cases isThere
  · intro record call load number isThere
    cases isThere
  · intro record call load stream conn isThere
    cases isThere
  · intro record snapshot isThere
    cases isThere

variable {s : Store} {record changed : TerminalSessionRecord} {call id : Nat} {stage : Stage}
  {conn : Stream}

/-- What a chunk is compared with, and what is loaded into the record. -/
structure SameCore (record changed : TerminalSessionRecord) : Prop where
  id : changed.id = record.id
  streamClose : changed.streamClose = record.streamClose
  load : changed.load = record.load
  contents : ∀ snapshot, changed.snapshot = some snapshot → ∃ before,
    record.snapshot = some before ∧ snapshot.chunks = before.chunks ∧
      snapshot.nextSeq = before.nextSeq
  remains : record.snapshot.isSome = true → changed.snapshot.isSome = true

theorem SameCore.of_snapshot (sameID : changed.id = record.id)
    (sameStream : changed.streamClose = record.streamClose) (sameLoad : changed.load = record.load)
    (sameSnapshot : changed.snapshot = record.snapshot) : SameCore record changed := by
  refine ⟨sameID, sameStream, sameLoad, ?_, ?_⟩
  · intro snapshot isThere
    exact ⟨snapshot, sameSnapshot ▸ isThere, rfl, rfl⟩
  · intro isThere
    rw [sameSnapshot]
    exact isThere

theorem SameCore.ahead (same : SameCore record changed) {number : Nat}
    (ahead : Ahead record number) : Ahead changed number := by
  rcases ahead with ⟨snapshot, isThere, before⟩
  obtain ⟨after, isAfter⟩ := Option.isSome_iff_exists.mp (same.remains (by rw [isThere]; rfl))
  obtain ⟨earlier, isEarlier, _, sameNext⟩ := same.contents after isAfter
  cases (isThere.symm.trans isEarlier)
  exact ⟨after, isAfter, sameNext.trans_le before⟩

/-- A changed record that is no further and has only streams of the old one, all open ones. -/
theorem OneLoad.with_record (one : OneLoad s) (isCurrent : s.current = some record)
    (sameID : changed.id = record.id)
    (ahead : ∀ {number}, Ahead record number → Ahead changed number)
    (ordered : ∀ snapshot, changed.snapshot = some snapshot → snapshot.Ordered)
    (alone : ∀ call stage, s.calls call = some ⟨record.id, stage⟩ → stage.loads = true →
      changed.load = some call ∧ Quiet s.streams changed)
    (held : ∀ {stream}, changed.streamClose = some stream → record.streamClose = some stream)
    (kept : ∀ {stream conn}, record.streamClose = some stream → s.streams stream = some conn →
      conn.isOpen = true → changed.streamClose = some stream) :
    OneLoad (s.withRecord changed) := by
  have own : ∀ other, (s.withRecord changed).current = some other → other = changed :=
    fun other isOther => (Option.some.inj isOther).symm
  constructor
  · exact one.known
  · intro other isOther
    rw [own other isOther, sameID]
    exact one.currentKnown record isCurrent
  · exact one.numbered
  · intro other stream isOther isOwn
    obtain rfl := own other isOther
    exact one.held record stream isCurrent (held isOwn)
  · intro other call stage isOther isCall
    obtain rfl := own other isOther
    rw [sameID] at isCall
    exact alone call stage isCall
  · intro stream conn isStream isAttached isOpen
    rcases one.attached stream conn isStream isAttached isOpen with
      ⟨other, isOther, isOwn, isAhead⟩
    cases (isCurrent.symm.trans isOther)
    exact ⟨changed, rfl, kept isOwn isStream isOpen, ahead isAhead⟩
  · exact one.handed
  · exact one.waiting
  · intro other call load number isOther isCall
    obtain rfl := own other isOther
    rw [sameID] at isCall
    exact ahead (one.connecting record call load number isCurrent isCall)
  · intro other call load stream conn isOther isCall isStream
    obtain rfl := own other isOther
    rw [sameID] at isCall
    exact ahead (one.connected record call load stream conn isCurrent isCall isStream)
  · intro other snapshot isOther isThere
    obtain rfl := own other isOther
    exact ordered snapshot isThere

theorem OneLoad.same_core (one : OneLoad s) (isCurrent : s.current = some record)
    (same : SameCore record changed) : OneLoad (s.withRecord changed) := by
  refine one.with_record isCurrent same.id same.ahead ?_ ?_ same.streamClose.symm.trans
    (fun isOwn _ _ => same.streamClose.trans isOwn)
  · intro snapshot isThere
    obtain ⟨before, isBefore, sameChunks, sameNext⟩ := same.contents snapshot isThere
    have wasOrdered := one.ordered record before isCurrent isBefore
    constructor
    · rw [sameChunks]
      exact wasOrdered.increasing
    · rw [sameChunks, sameNext]
      exact wasOrdered.below
  · intro call stage isCall loads
    rcases one.alone record call stage isCurrent isCall loads with ⟨isLoad, quiet⟩
    refine ⟨same.load.trans isLoad, ?_⟩
    intro stream conn isStream
    exact quiet stream conn (same.streamClose.symm.trans isStream)

def Idle (s : Store) (record : TerminalSessionRecord) : Prop :=
  ∀ call stage, s.calls call = some ⟨record.id, stage⟩ → stage.loads = false

theorem OneLoad.unload (one : OneLoad s) (isCurrent : s.current = some record)
    (idle : Idle s record) (load : Option Nat) :
    OneLoad (s.withRecord { record with load := load }) := by
  refine one.with_record isCurrent rfl id (one.ordered record · isCurrent) ?_ id
    (fun isOwn _ _ => isOwn)
  intro call stage isCall loads
  rw [idle call stage isCall] at loads
  cases loads

theorem OneLoad.stream_changed (one : OneLoad s) {stream : Nat} {before after : Stream}
    (isThere : s.streams stream = some before) (sameAttached : after.attached = before.attached)
    (sameNext : after.nextSeq = before.nextSeq)
    (notOpened : after.isOpen = true → before.isOpen = true) :
    OneLoad { s with streams := Table.insert s.streams stream after } := by
  -- What an entry is after the change, as one before it.
  have was : ∀ {other conn},
      insert s.streams stream after other = some conn →
        ∃ earlier, s.streams other = some earlier ∧ conn.attached = earlier.attached ∧
          conn.nextSeq = earlier.nextSeq ∧
          (conn.isOpen = true → earlier.isOpen = true) := by
    intro other conn isEntry
    rcases insert_eq_some isEntry with ⟨rfl, rfl⟩ | ⟨_, isOld⟩
    · exact ⟨before, isThere, sameAttached, sameNext, notOpened⟩
    · exact ⟨conn, isOld, rfl, rfl, fun isOpen => isOpen⟩
  constructor
  · exact one.known
  · exact one.currentKnown
  · intro other conn isEntry
    obtain ⟨earlier, isEarlier, _, _, _⟩ := was isEntry
    exact one.numbered other earlier isEarlier
  · exact one.held
  · intro record call stage isCurrent isCall loads
    rcases one.alone record call stage isCurrent isCall loads with ⟨isLoad, quiet⟩
    refine ⟨isLoad, ?_⟩
    intro other conn isOwn isEntry
    obtain ⟨earlier, isEarlier, _, _, opened⟩ := was isEntry
    have isClosed := quiet other earlier isOwn isEarlier
    by_contra isOpen
    rw [Bool.not_eq_false] at isOpen
    rw [opened isOpen] at isClosed
    cases isClosed
  · intro other conn isEntry isAttached isOpen
    obtain ⟨earlier, isEarlier, same, next, opened⟩ := was isEntry
    rw [next]
    exact one.attached other earlier isEarlier (same ▸ isAttached) (opened isOpen)
  · intro other conn isEntry isAttached isOpen
    obtain ⟨earlier, isEarlier, same, next, opened⟩ := was isEntry
    exact one.handed other earlier isEarlier (same ▸ isAttached) (opened isOpen)
  · intro call id load other isCall
    rcases one.waiting call id load other isCall with ⟨⟨conn, isEntry, isAttached⟩, only⟩
    refine ⟨?_, only⟩
    by_cases isStream : other = stream
    · subst isStream
      cases (isThere.symm.trans isEntry)
      exact ⟨after, insert_self _ _ _, sameAttached.trans isAttached⟩
    · exact ⟨conn, (insert_of_ne isStream _).trans isEntry, isAttached⟩
  · exact one.connecting
  · intro record call load other conn isCurrent isCall isEntry
    obtain ⟨earlier, isEarlier, _, next, _⟩ := was isEntry
    rw [next]
    exact one.connected record call load other earlier isCurrent isCall isEarlier
  · exact one.ordered

theorem OneLoad.closed (one : OneLoad s) (stream : Nat) (byClient : Bool) :
    OneLoad (s.closeStream stream byClient) := by
  unfold closeStream
  split
  · exact one
  next conn isThere => exact one.stream_changed isThere rfl rfl nofun

@[simp]
theorem close_stream_current (s : Store) (stream : Nat) (byClient : Bool) :
    (s.closeStream stream byClient).current = s.current := by
  unfold closeStream
  split
  · rfl
  · rfl

@[simp]
theorem close_stream_calls (s : Store) (stream : Nat) (byClient : Bool) :
    (s.closeStream stream byClient).calls = s.calls := by
  unfold closeStream
  split
  · rfl
  · rfl

@[simp]
theorem close_stream_next_record (s : Store) (stream : Nat) (byClient : Bool) :
    (s.closeStream stream byClient).nextRecord = s.nextRecord := by
  unfold closeStream
  split
  · rfl
  · rfl

theorem closed_after_close (s : Store) (stream : Nat) (byClient : Bool)
    (isEntry : (s.closeStream stream byClient).streams stream = some conn) :
    conn.isOpen = false := by
  unfold closeStream at isEntry
  split at isEntry
  next absent =>
    rw [absent] at isEntry
    cases isEntry
  next before isThere =>
    cases ((insert_self s.streams stream _).symm.trans isEntry)
    rfl

theorem OneLoad.cleared (one : OneLoad s) (record : TerminalSessionRecord) :
    OneLoad (s.clearConnection record) := by
  unfold clearConnection
  split
  · exact one
  next stream _ => exact one.closed stream true

theorem quiet_after_clear (s : Store) (record : TerminalSessionRecord) :
    Quiet (s.clearConnection record).streams record := by
  intro stream conn isOwn isEntry
  unfold clearConnection at isEntry
  rw [isOwn] at isEntry
  exact closed_after_close s stream true isEntry

@[simp]
theorem clear_connection_current (s : Store) (record : TerminalSessionRecord) :
    (s.clearConnection record).current = s.current := by
  unfold clearConnection
  split
  · rfl
  · exact close_stream_current _ _ _

@[simp]
theorem clear_connection_calls (s : Store) (record : TerminalSessionRecord) :
    (s.clearConnection record).calls = s.calls := by
  unfold clearConnection
  split
  · rfl
  · exact close_stream_calls _ _ _

theorem closed_after_clear (s : Store) (record : TerminalSessionRecord) {stream : Nat}
    (closed : ∀ before, s.streams stream = some before → before.isOpen = false)
    (isEntry : (s.clearConnection record).streams stream = some conn) : conn.isOpen = false := by
  unfold clearConnection closeStream at isEntry
  split at isEntry
  · exact closed conn isEntry
  split at isEntry
  · exact closed conn isEntry
  · rcases insert_eq_some isEntry with ⟨_, rfl⟩ | ⟨_, isOld⟩
    · rfl
    · exact closed conn isOld

section

variable (one : OneLoad s) (isCurrent : s.current = some record) (quiet : Quiet s.streams record)
include one isCurrent quiet

theorem OneLoad.let_go : OneLoad (s.withRecord { record with streamClose := none }) := by
  refine one.with_record isCurrent rfl id (one.ordered record · isCurrent) ?_ nofun ?_
  · intro call stage isCall loads
    exact ⟨(one.alone record call stage isCurrent isCall loads).1, nofun⟩
  · intro stream conn isOwn isStream isOpen
    rw [quiet stream conn isOwn isStream] at isOpen
    cases isOpen

theorem OneLoad.deleted : OneLoad { s with current := none } := by
  constructor
  · exact one.known
  · intro record isThere
    cases isThere
  · exact one.numbered
  · intro record stream isThere
    cases isThere
  · intro record call stage isThere
    cases isThere
  · intro stream conn isStream isAttached isOpen
    rcases one.attached stream conn isStream isAttached isOpen with ⟨other, isOther, isOwn, _⟩
    cases (isCurrent.symm.trans isOther)
    rw [quiet stream conn isOwn isStream] at isOpen
    cases isOpen
  · exact one.handed
  · exact one.waiting
  · intro record call load number isThere
    cases isThere
  · intro record call load stream conn isThere
    cases isThere
  · intro record snapshot isThere
    cases isThere

end

theorem OneLoad.got_record (one : OneLoad s) :
    OneLoad s.getRecord.2 ∧
    s.getRecord.2.current = some s.getRecord.1 ∧
    s.getRecord.2.calls = s.calls ∧
    (s.current = some s.getRecord.1 ∧ s.getRecord.2 = s ∨
      s.current = none ∧ s.getRecord.1.load = none ∧ s.getRecord.1.streamClose = none) := by
  unfold getRecord
  split
  next record isCurrent => exact ⟨one, isCurrent, rfl, .inl ⟨isCurrent, rfl⟩⟩
  next absent =>
    refine ⟨?_, rfl, rfl, .inr ⟨absent, rfl, rfl⟩⟩
    -- No call knows the number of the new record.
    have unknown : ∀ call stage, s.calls call ≠ some ⟨s.nextRecord, stage⟩ :=
      fun call stage isCall => Nat.lt_irrefl _ (one.known call _ isCall)
    constructor
    · intro call pending isCall
      exact Nat.lt_succ_of_lt (one.known call pending isCall)
    · intro record isRecord
      cases isRecord
      exact Nat.lt_succ_self _
    · exact one.numbered
    · intro record stream isRecord isOwn
      cases isRecord
      cases isOwn
    · intro record call stage isRecord isCall
      cases isRecord
      exact absurd isCall (unknown call stage)
    · intro stream conn isStream isAttached isOpen
      rcases one.attached stream conn isStream isAttached isOpen with ⟨other, isOther, _⟩
      rw [absent] at isOther
      cases isOther
    · exact one.handed
    · exact one.waiting
    · intro record call load number isRecord isCall
      cases isRecord
      exact absurd isCall (unknown call _)
    · intro record call load stream conn isRecord isCall
      cases isRecord
      exact absurd isCall (unknown call _)
    · intro record snapshot isRecord isThere
      cases isRecord
      cases isThere

def Released (s : Store) (call : Nat) : Prop :=
  ∀ id load stream connection, s.calls call = some ⟨id, .connected load stream⟩ →
    s.streams stream = some connection → connection.isOpen = false

def Harmless (s : Store) (pending : Pending) : Prop :=
  pending.stage.loads = false ∨
    (∀ load stream, pending.stage ≠ .connected load stream) ∧
      ∀ record, s.current = some record → record.id ≠ pending.record

section

variable (one : OneLoad s) (released : Released s call)
include one released

theorem OneLoad.call_changed {calls : Table Nat Pending}
    (others : ∀ other, other ≠ call → calls other = s.calls other)
    (harmless : ∀ pending, calls call = some pending →
      pending.record < s.nextRecord ∧ Harmless s pending) :
    OneLoad { s with calls := calls } := by
  -- A call that loads into the record of the map is another one.
  have active : ∀ {record other stage}, s.current = some record →
      calls other = some ⟨record.id, stage⟩ → stage.loads = true →
        s.calls other = some ⟨record.id, stage⟩ := by
    intro record other stage isCurrent isCall loads
    refine (others other ?_).symm.trans isCall
    rintro rfl
    rcases (harmless _ isCall).2 with notLoading | ⟨_, notCurrent⟩
    · rw [loads] at notLoading
      cases notLoading
    · exact notCurrent record isCurrent rfl
  have holding : ∀ {other id load stream}, calls other = some ⟨id, .connected load stream⟩ →
      s.calls other = some ⟨id, .connected load stream⟩ := by
    intro other id load stream isCall
    refine (others other ?_).symm.trans isCall
    rintro rfl
    rcases (harmless _ isCall).2 with notLoading | ⟨unconnected, _⟩
    · cases notLoading
    · exact unconnected load stream rfl
  constructor
  · intro other pending isCall
    by_cases isOwn : other = call
    · subst isOwn
      exact (harmless pending isCall).1
    · exact one.known other pending ((others other isOwn).symm.trans isCall)
  · exact one.currentKnown
  · exact one.numbered
  · exact one.held
  · intro record other stage isCurrent isCall loads
    exact one.alone record other stage isCurrent (active isCurrent isCall loads) loads
  · exact one.attached
  · intro stream conn isStream isAttached isOpen
    rcases one.handed stream conn isStream isAttached isOpen with ⟨other, id, load, isCall⟩
    refine ⟨other, id, load, (others other ?_).trans isCall⟩
    rintro rfl
    rw [released id load stream conn isCall isStream] at isOpen
    cases isOpen
  · intro other id load stream isCall
    rcases one.waiting other id load stream (holding isCall) with ⟨isThere, only⟩
    exact ⟨isThere, fun third thirdID thirdLoad isThird =>
      only third thirdID thirdLoad (holding isThird)⟩
  · intro record other load number isCurrent isCall
    exact one.connecting record other load number isCurrent (active isCurrent isCall rfl)
  · intro record other load stream conn isCurrent isCall isStream
    exact one.connected record other load stream conn isCurrent
      (active isCurrent isCall rfl) isStream
  · exact one.ordered

theorem OneLoad.waits (known : id < s.nextRecord) (harmless : Harmless s ⟨id, stage⟩) :
    OneLoad (s.wait call id stage) := by
  refine one.call_changed released (fun other ne => insert_of_ne ne _) ?_
  intro pending isCall
  rw [insert_self] at isCall
  cases isCall
  exact ⟨known, harmless⟩

theorem OneLoad.finished : OneLoad (s.finish call) := by
  refine one.call_changed released (fun other ne => erase_of_ne ne) ?_
  intro pending isCall
  rw [erase_self] at isCall
  cases isCall

end

end RuneTerminal.TerminalView
