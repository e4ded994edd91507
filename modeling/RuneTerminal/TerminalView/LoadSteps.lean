import RuneTerminal.TerminalView.LoadInvariant

/-! A load that is alone brings the snapshot, connects its stream and attaches it; then the stream
delivers chunk by chunk. -/

namespace RuneTerminal.TerminalView

open Kit Option Table Pending

variable {s : Store} {record changed : TerminalSessionRecord} {call id stream : Nat} {stage : Stage}
  {load : Load} {conn : Stream}

theorem attached_is_own (one : OneLoad s) (isCurrent : s.current = some record)
    (isStream : s.streams stream = some conn) (isAttached : conn.attached = true)
    (isOpen : conn.isOpen = true) :
    record.streamClose = some stream ∧ Ahead record conn.nextSeq := by
  rcases one.attached stream conn isStream isAttached isOpen with
    ⟨other, isOther, isOwn, ahead⟩
  cases (isCurrent.symm.trans isOther)
  exact ⟨isOwn, ahead⟩

def NoOther (s : Store) (record : TerminalSessionRecord) (call : Nat) : Prop :=
  ∀ other stage, other ≠ call → s.calls other = some ⟨record.id, stage⟩ → stage.loads = false

section

variable (one : OneLoad s)
include one

theorem no_other_of_loads (isCurrent : s.current = some record)
    (isCall : s.calls call = some ⟨record.id, stage⟩) (loads : stage.loads = true) :
    NoOther s record call := by
  intro other otherStage ne isOther
  by_contra alsoLoads
  rw [Bool.not_eq_false] at alsoLoads
  have first := (one.alone record call stage isCurrent isCall loads).1
  have second := (one.alone record other otherStage isCurrent isOther alsoLoads).1
  exact ne (some.inj (second.symm.trans first))

theorem OneLoad.moves (isCurrent : s.current = some record) (sameID : changed.id = record.id)
    (sameStream : changed.streamClose = record.streamClose) (isLoad : changed.load = some call)
    (quiet : Quiet s.streams record) (noOther : NoOther s record call) (released : Released s call)
    (ordered : ∀ snapshot, changed.snapshot = some snapshot → snapshot.Ordered)
    (unconnected : ∀ load stream, stage ≠ .connected load stream)
    (ahead : ∀ load number, stage = .connecting load number → Ahead changed number) :
    OneLoad ((s.withRecord changed).wait call record.id stage) := by
  have own : ∀ other, ((s.withRecord changed).wait call record.id stage).current = some other →
      other = changed := fun other isOther => (some.inj isOther).symm
  have calls : ∀ {other pending},
      ((s.withRecord changed).wait call record.id stage).calls other = some pending →
        other = call ∧ pending = ⟨record.id, stage⟩ ∨
          other ≠ call ∧ s.calls other = some pending :=
    fun isCall => insert_eq_some isCall
  constructor
  · intro other pending isCall
    rcases calls isCall with ⟨_, rfl⟩ | ⟨_, isOld⟩
    · exact one.currentKnown record isCurrent
    · exact one.known other pending isOld
  · intro other isOther
    rw [own other isOther, sameID]
    exact one.currentKnown record isCurrent
  · exact one.numbered
  · intro other stream isOther isOwn
    obtain rfl := own other isOther
    exact one.held record stream isCurrent (sameStream.symm.trans isOwn)
  · intro other third otherStage isOther isCall loads
    obtain rfl := own other isOther
    rw [sameID] at isCall
    have isOwnCall : third = call := by
      rcases calls isCall with ⟨isOwn, _⟩ | ⟨ne, isOld⟩
      · exact isOwn
      · rw [noOther third otherStage ne isOld] at loads
        cases loads
    refine ⟨isOwnCall ▸ isLoad, ?_⟩
    intro stream conn isOwn
    exact quiet stream conn (sameStream.symm.trans isOwn)
  · intro stream conn isStream isAttached isOpen
    have isOwn := (attached_is_own one isCurrent isStream isAttached isOpen).1
    rw [quiet stream conn isOwn isStream] at isOpen
    cases isOpen
  · intro stream conn isStream isAttached isOpen
    rcases one.handed stream conn isStream isAttached isOpen with
      ⟨other, otherID, otherLoad, isCall⟩
    refine ⟨other, otherID, otherLoad, (insert_of_ne ?_ _).trans isCall⟩
    rintro rfl
    rw [released otherID otherLoad stream conn isCall isStream] at isOpen
    cases isOpen
  · intro other otherID otherLoad stream isCall
    have old : ∀ {third thirdID thirdLoad},
        ((s.withRecord changed).wait call record.id stage).calls third =
          some ⟨thirdID, .connected thirdLoad stream⟩ →
        s.calls third = some ⟨thirdID, .connected thirdLoad stream⟩ := by
      intro third thirdID thirdLoad isThird
      rcases calls isThird with ⟨_, isStage⟩ | ⟨_, isOld⟩
      · exact absurd (congrArg Pending.stage isStage).symm (unconnected thirdLoad stream)
      · exact isOld
    rcases one.waiting other otherID otherLoad stream (old isCall) with ⟨isThere, only⟩
    exact ⟨isThere, fun third thirdID thirdLoad isThird =>
      only third thirdID thirdLoad (old isThird)⟩
  · intro other third otherLoad number isOther isCall
    obtain rfl := own other isOther
    rw [sameID] at isCall
    rcases calls isCall with ⟨_, isStage⟩ | ⟨ne, isOld⟩
    · exact ahead otherLoad number (congrArg Pending.stage isStage).symm
    · have loads := noOther third _ ne isOld
      cases loads
  · intro other third otherLoad stream conn isOther isCall isStream
    obtain rfl := own other isOther
    rw [sameID] at isCall
    rcases calls isCall with ⟨_, isStage⟩ | ⟨ne, isOld⟩
    · exact absurd (congrArg Pending.stage isStage).symm (unconnected otherLoad stream)
    · have loads := noOther third _ ne isOld
      cases loads
  · intro other snapshot isOther isThere
    obtain rfl := own other isOther
    exact ordered snapshot isThere

theorem OneLoad.connects {number : Nat}
    (isCall : s.calls call = some ⟨id, .connecting load number⟩) :
    OneLoad (connectStream s call id load number) := by
  have fresh : ∀ connection, s.streams s.nextStream ≠ some connection :=
    fun connection isThere => Nat.lt_irrefl _ (one.numbered _ connection isThere)
  have calls : ∀ {other pending},
      (connectStream s call id load number).calls other = some pending →
        other = call ∧ pending = ⟨id, .connected load s.nextStream⟩ ∨
          other ≠ call ∧ s.calls other = some pending :=
    fun isCall => insert_eq_some isCall
  have streams : ∀ {stream connection},
      (connectStream s call id load number).streams stream = some connection →
        stream = s.nextStream ∧ connection = { nextSeq := number } ∨
          stream ≠ s.nextStream ∧ s.streams stream = some connection :=
    fun isStream => insert_eq_some isStream
  have oldCall : ∀ {other otherID otherLoad stream},
      s.calls other = some ⟨otherID, .connected otherLoad stream⟩ → stream ≠ s.nextStream := by
    rintro other otherID otherLoad stream isOther rfl
    rcases (one.waiting other otherID otherLoad _ isOther).1 with ⟨connection, isThere, _⟩
    exact fresh connection isThere
  constructor
  · intro other pending isOther
    rcases calls isOther with ⟨_, rfl⟩ | ⟨_, isOld⟩
    · have isKnown := one.known call _ isCall
      exact isKnown
    · exact one.known other pending isOld
  · exact one.currentKnown
  · intro stream connection isStream
    rcases streams isStream with ⟨rfl, _⟩ | ⟨_, isOld⟩
    · exact Nat.lt_succ_self _
    · exact Nat.lt_succ_of_lt (one.numbered stream connection isOld)
  · intro record stream isCurrent isOwn
    exact Nat.lt_succ_of_lt (one.held record stream isCurrent isOwn)
  · intro record other stage isCurrent isOther loads
    have before : record.load = some other ∧ Quiet s.streams record := by
      rcases calls isOther with ⟨rfl, isPending⟩ | ⟨_, isOld⟩
      · have sameID := congrArg Pending.record isPending
        dsimp only at sameID
        exact one.alone record other _ isCurrent (sameID ▸ isCall) rfl
      · exact one.alone record other stage isCurrent isOld loads
    refine ⟨before.1, ?_⟩
    intro stream connection isOwn isStream
    rcases streams isStream with ⟨rfl, _⟩ | ⟨_, isOld⟩
    · exact absurd (one.held record _ isCurrent isOwn) (Nat.lt_irrefl _)
    · exact before.2 stream connection isOwn isOld
  · intro stream connection isStream isAttached isOpen
    rcases streams isStream with ⟨_, rfl⟩ | ⟨_, isOld⟩
    · cases isAttached
    · exact one.attached stream connection isOld isAttached isOpen
  · intro stream connection isStream isAttached isOpen
    rcases streams isStream with ⟨rfl, _⟩ | ⟨_, isOld⟩
    · exact ⟨call, id, load, insert_self _ _ _⟩
    rcases one.handed stream connection isOld isAttached isOpen with
      ⟨other, otherID, otherLoad, isOther⟩
    refine ⟨other, otherID, otherLoad, (insert_of_ne ?_ _).trans isOther⟩
    rintro rfl
    rw [isCall] at isOther
    cases isOther
  · intro other otherID otherLoad stream isOther
    rcases calls isOther with ⟨rfl, isPending⟩ | ⟨ne, isOld⟩
    · have isStage := congrArg stage isPending
      obtain ⟨rfl, rfl⟩ := Stage.connected.inj isStage
      refine ⟨⟨_, insert_self _ _ _, rfl⟩, ?_⟩
      intro third thirdID thirdLoad isThird
      rcases calls isThird with ⟨isOwn, _⟩ | ⟨_, isOld⟩
      · exact isOwn
      · exact absurd rfl (oldCall isOld)
    rcases one.waiting other otherID otherLoad stream isOld with
      ⟨⟨connection, isThere, isAttached⟩, only⟩
    refine ⟨⟨connection, (insert_of_ne (oldCall isOld) _).trans isThere, isAttached⟩, ?_⟩
    intro third thirdID thirdLoad isThird
    rcases calls isThird with ⟨_, isPending⟩ | ⟨_, isThirdOld⟩
    · have isStage := congrArg stage isPending
      obtain ⟨_, isNew⟩ := Stage.connected.inj isStage
      exact absurd isNew (oldCall isOld)
    · exact only third thirdID thirdLoad isThirdOld
  · intro record other otherLoad otherNumber isCurrent isOther
    rcases calls isOther with ⟨_, isPending⟩ | ⟨_, isOld⟩
    · cases congrArg stage isPending
    · exact one.connecting record other otherLoad otherNumber isCurrent isOld
  · intro record other otherLoad stream connection isCurrent isOther isStream
    rcases calls isOther with ⟨rfl, isPending⟩ | ⟨_, isOld⟩
    · have sameID := congrArg Pending.record isPending
      obtain ⟨_, rfl⟩ := Stage.connected.inj (congrArg stage isPending)
      dsimp only at sameID
      rcases streams isStream with ⟨_, rfl⟩ | ⟨ne, _⟩
      · exact one.connecting record other load number isCurrent (sameID ▸ isCall)
      · exact absurd rfl ne
    · rcases streams isStream with ⟨isNew, _⟩ | ⟨_, isOldStream⟩
      · exact absurd isNew (oldCall isOld)
      · exact one.connected record other otherLoad stream connection isCurrent isOld isOldStream
  · exact one.ordered

theorem OneLoad.attaches (isCurrent : s.current = some record)
    (isCall : s.calls call = some ⟨record.id, .connected load stream⟩)
    (isStream : s.streams stream = some conn) :
    OneLoad
      (({ s with
        streams := Table.insert s.streams stream { conn with attached := true } }.withRecord
        { record with streamClose := some stream, load := none }).wait call record.id
        (.attached load)) := by
  generalize isNext : ({ s with
      streams := insert s.streams stream { conn with attached := true } }.withRecord
    { record with streamClose := some stream, load := none }).wait call record.id
      (.attached load) = next
  have sameKnown : next.nextRecord = s.nextRecord := by rw [← isNext]; rfl
  have sameNumbered : next.nextStream = s.nextStream := by rw [← isNext]; rfl
  have own : ∀ {other}, next.current = some other →
      other = { record with streamClose := some stream, load := none } := by
    rw [← isNext]
    exact fun isOther => (some.inj isOther).symm
  have calls : ∀ {other pending}, next.calls other = some pending →
      other = call ∧ pending = ⟨record.id, .attached load⟩ ∨
        other ≠ call ∧ s.calls other = some pending := by
    rw [← isNext]
    exact fun isOther => insert_eq_some isOther
  have streams : ∀ {other otherConnection}, next.streams other = some otherConnection →
      other = stream ∧ otherConnection = { conn with attached := true } ∨
        other ≠ stream ∧ s.streams other = some otherConnection := by
    rw [← isNext]
    exact fun isOther => insert_eq_some isOther
  have kept : ∀ {other}, other ≠ call → next.calls other = s.calls other := by
    rw [← isNext]
    exact fun ne => insert_of_ne ne _
  have keptStream : ∀ {other}, other ≠ stream → next.streams other = s.streams other := by
    rw [← isNext]
    exact fun ne => insert_of_ne ne _
  rcases one.alone record call _ isCurrent isCall rfl with ⟨isLoad, quiet⟩
  have noOther := no_other_of_loads one isCurrent isCall rfl
  have only := (one.waiting call record.id load stream isCall).2
  constructor
  · intro other pending isOther
    rw [sameKnown]
    rcases calls isOther with ⟨_, rfl⟩ | ⟨_, isOld⟩
    · exact one.currentKnown record isCurrent
    · exact one.known other pending isOld
  · intro other isOther
    rw [own isOther, sameKnown]
    exact one.currentKnown record isCurrent
  · intro other otherConnection isOther
    rw [sameNumbered]
    rcases streams isOther with ⟨rfl, _⟩ | ⟨_, isOld⟩
    · exact one.numbered other conn isStream
    · exact one.numbered other otherConnection isOld
  · intro other otherStream isOther isOwn
    obtain rfl := own isOther
    cases isOwn
    rw [sameNumbered]
    exact one.numbered stream conn isStream
  · intro other third stage isOther isThird loads
    obtain rfl := own isOther
    rcases calls isThird with ⟨_, isPending⟩ | ⟨ne, isOld⟩
    · obtain rfl : stage = .attached load := congrArg Pending.stage isPending
      cases loads
    · rw [noOther third stage ne isOld] at loads
      cases loads
  · intro other otherConnection isOther isAttached isOpen
    rw [← isNext]
    rcases streams isOther with ⟨rfl, rfl⟩ | ⟨ne, isOld⟩
    · exact ⟨_, rfl, rfl, one.connected record call load other conn isCurrent isCall isStream⟩
    · have isOwn := (attached_is_own one isCurrent isOld isAttached isOpen).1
      rw [quiet other otherConnection isOwn isOld] at isOpen
      cases isOpen
  · intro other otherConnection isOther isAttached isOpen
    rcases streams isOther with ⟨_, rfl⟩ | ⟨ne, isOld⟩
    · cases isAttached
    rcases one.handed other otherConnection isOld isAttached isOpen with
      ⟨third, thirdID, thirdLoad, isThird⟩
    refine ⟨third, thirdID, thirdLoad, (kept ?_).trans isThird⟩
    rintro rfl
    rw [isCall] at isThird
    have isStage := congrArg stage (some.inj isThird)
    exact ne (Stage.connected.inj isStage).2.symm
  · intro other otherID otherLoad otherStream isOther
    rcases calls isOther with ⟨_, isPending⟩ | ⟨ne, isOld⟩
    · cases congrArg stage isPending
    rcases one.waiting other otherID otherLoad otherStream isOld with
      ⟨⟨otherConnection, isThere, isAttached⟩, onlyOther⟩
    have apart : otherStream ≠ stream := by
      rintro rfl
      exact ne (only other otherID otherLoad isOld)
    refine ⟨⟨otherConnection, (keptStream apart).trans isThere, isAttached⟩, ?_⟩
    intro third thirdID thirdLoad isThird
    rcases calls isThird with ⟨_, isPending⟩ | ⟨_, isThirdOld⟩
    · cases congrArg stage isPending
    · exact onlyOther third thirdID thirdLoad isThirdOld
  · intro other third otherLoad number isOther isThird
    obtain rfl := own isOther
    rcases calls isThird with ⟨_, isPending⟩ | ⟨ne, isOld⟩
    · cases congrArg stage isPending
    · cases noOther third _ ne isOld
  · intro other third otherLoad otherStream otherConnection isOther isThird
    obtain rfl := own isOther
    rcases calls isThird with ⟨_, isPending⟩ | ⟨ne, isOld⟩
    · cases congrArg stage isPending
    · cases noOther third _ ne isOld
  · intro other snapshot isOther isThere
    obtain rfl := own isOther
    exact one.ordered record snapshot isCurrent isThere

theorem OneLoad.delivers {data : String} (isStream : s.streams stream = some conn)
    (isAttached : conn.attached = true) (isOpen : conn.isOpen = true) :
    OneLoad (deliver s stream conn data) := by
  rcases one.attached stream conn isStream isAttached isOpen with
    ⟨record, isCurrent, isOwn, snapshot, isThere, behind⟩
  -- Nobody loads into the record, as its stream is open.
  have idle : Idle s record := by
    intro call stage isCall
    by_contra loads
    rw [Bool.not_eq_false] at loads
    have isClosed := (one.alone record call stage isCurrent isCall loads).2 stream conn isOwn
      isStream
    rw [isOpen] at isClosed
    cases isClosed
  unfold deliver
  rw [isCurrent]
  dsimp only
  rw [isThere, map_some]
  generalize isChunk : ({ seq := conn.nextSeq, data := data } : TerminalOutputChunk) = chunk
  have isSeq : chunk.seq = conn.nextSeq := by rw [← isChunk]
  generalize isChanged : ({ record with
    flags := record.flags.recovered
    snapshot := some (appendTerminalChunk snapshot chunk) } : TerminalSessionRecord) = changed
  have sameID : changed.id = record.id := by rw [← isChanged]
  have sameStream : changed.streamClose = record.streamClose := by rw [← isChanged]
  have isAppended : changed.snapshot = some (appendTerminalChunk snapshot chunk) := by
    rw [← isChanged]
  have streams : ∀ {other otherConnection},
      insert s.streams stream { conn with nextSeq := conn.nextSeq + 1 } other =
          some otherConnection →
        other = stream ∧ otherConnection = { conn with nextSeq := conn.nextSeq + 1 } ∨
          other ≠ stream ∧ s.streams other = some otherConnection :=
    fun isOther => insert_eq_some isOther
  constructor
  · exact one.known
  · intro other isOther
    cases isOther
    rw [sameID]
    exact one.currentKnown record isCurrent
  · intro other otherConnection isOther
    rcases streams isOther with ⟨rfl, _⟩ | ⟨_, isOld⟩
    · exact one.numbered other conn isStream
    · exact one.numbered other otherConnection isOld
  · intro other otherStream isOther isHeld
    cases isOther
    exact one.held record otherStream isCurrent (sameStream.symm.trans isHeld)
  · intro other call stage isOther isCall loads
    cases isOther
    rw [sameID] at isCall
    rw [idle call stage isCall] at loads
    cases loads
  · intro other otherConnection isOther otherAttached otherOpen
    refine ⟨changed, rfl, ?_⟩
    rcases streams isOther with ⟨rfl, rfl⟩ | ⟨ne, isOld⟩
    · refine ⟨sameStream.trans isOwn, _, isAppended, ?_⟩
      unfold appendTerminalChunk
      dsimp only
      omega
    · have isHeld := (attached_is_own one isCurrent isOld otherAttached otherOpen).1
      exact absurd (some.inj (isHeld.symm.trans isOwn)) ne
  · intro other otherConnection isOther notAttached otherOpen
    rcases streams isOther with ⟨_, rfl⟩ | ⟨_, isOld⟩
    · rw [isAttached] at notAttached
      cases notAttached
    · exact one.handed other otherConnection isOld notAttached otherOpen
  · intro call id load other isCall
    rcases one.waiting call id load other isCall with
      ⟨⟨otherConnection, isOther, notAttached⟩, only⟩
    refine ⟨⟨otherConnection, ?_, notAttached⟩, only⟩
    refine (insert_of_ne ?_ _).trans isOther
    rintro rfl
    cases (isStream.symm.trans isOther)
    rw [isAttached] at notAttached
    cases notAttached
  · intro other call load number isOther isCall
    cases isOther
    rw [sameID] at isCall
    cases idle call _ isCall
  · intro other call load otherStream otherConnection isOther isCall
    cases isOther
    rw [sameID] at isCall
    cases idle call _ isCall
  · intro other later isOther isLater
    cases isOther
    cases (isAppended.symm.trans isLater)
    exact append_ordered (one.ordered record snapshot isCurrent isThere) (isSeq ▸ behind)

end

end RuneTerminal.TerminalView
