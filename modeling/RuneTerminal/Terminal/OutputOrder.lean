import RuneTerminal.Kit.NumberedLog
import RuneTerminal.Terminal.Service

/-! The buffer of a session is the end of its numbered log. A subscriber got what the buffer held
when it joined, and then every chunk that was delivered to it, less those that found its channel
full. -/

namespace RuneTerminal.Terminal

open Go.Strings (trimSpace)
open Kit Kit.NumberedLog List Table Option

structure Snapshot where
  state : State
  chunks : List OutputChunk
  nextSeq : Nat
  activeSessionID : String
  sessions : List State

def snapshotFromSession (sess : Session) (start : Nat) (activeSessionID : String)
    (sessions : List State) : Snapshot where
  state := sess.state
  chunks := sess.chunks.filter fun chunk => start ≤ chunk.seq
  nextSeq := nextSeq sess
  activeSessionID := activeSessionID
  sessions := sessions

def snapshotSessionStates (group : Group) : List State :=
  group.sessionOrder.filterMap fun id => (group.sessions id).map Session.state

def snapshotFromGroup (group : Group) (start : Nat) : Except TerminalError Snapshot :=
  (activeGroupSession group).map fun sess =>
    snapshotFromSession sess start group.activeSessionID (snapshotSessionStates group)

def channelCapacity : Nat := 32

/-- A subscriber's channel, and what became of the chunks that were delivered to it:
the ones its owner has received, and the numbers of those that found it full. -/
structure Subscriber where
  queue : List OutputChunk := []
  closed : Bool := false
  snapshot : Option Snapshot := none
  received : List OutputChunk := []
  missed : List Nat := []

def Subscriber.deliver (subscriber : Subscriber) (chunk : OutputChunk) : Subscriber :=
  if subscriber.closed then subscriber
  else if subscriber.queue.length < channelCapacity then
    { subscriber with queue := subscriber.queue ++ [chunk] }
  else { subscriber with missed := subscriber.missed ++ [chunk.seq] }

def Subscriber.close (subscriber : Subscriber) : Subscriber := { subscriber with closed := true }

def Subscriber.receive (subscriber : Subscriber) : Option Subscriber :=
  match subscriber.queue with
  | [] => none
  | chunk :: rest =>
    some { subscriber with queue := rest, received := subscriber.received ++ [chunk] }

/-- The goroutine of a session delivers a chunk to the subscribers that still wait for it. -/
structure Delivery where
  chunk : OutputChunk
  waiting : Finset Nat

/-- A group, the subscribers that were ever created for it, and the goroutines of its sessions.
`closing` are the subscribers whose `close` is due, and `appended` is all that was appended. -/
structure Streams where
  group : Group
  subscribers : Table Nat Subscriber := Table.empty
  closing : Finset Nat := ∅
  nextSubscriber : Nat := 0
  deliveries : Table String Delivery := Table.empty
  appended : String → List OutputChunk := fun _ => []

def Streams.waiting (s : Streams) (sessionID : String) : Finset Nat :=
  (s.deliveries sessionID).elim ∅ Delivery.waiting

inductive StreamAction where
  | output (sessionID : String) (handle : Nat) (data : String) (now : Nat)
  | deliver (sessionID : String) (subscriber : Nat)
  | subscribe
  | snapshotAndSubscribe (start : Nat)
  | unsubscribe (subscriber : Nat)
  | close (subscriber : Nat)
  | receive (subscriber : Nat)

def Streams.output (s : Streams) (sessionID : String) (sess : Session) (data : String)
    (now : Nat) : Streams :=
  let appended := appendChunk sess data now
  let waiting := if s.group.activeSessionID = sessionID then s.group.subscribers else ∅
  { s with
    group := s.group.update sessionID appended.2
    deliveries := s.deliveries.insert sessionID { chunk := appended.1, waiting := waiting }
    appended := fun other =>
      if other = sessionID then s.appended other ++ [appended.1] else s.appended other }

def Streams.deliver (s : Streams) (sessionID : String) (delivery : Delivery) (id : Nat)
    (subscriber : Subscriber) : Streams :=
  { s with
    subscribers := s.subscribers.insert id (subscriber.deliver delivery.chunk)
    deliveries := s.deliveries.insert sessionID
      { delivery with waiting := delivery.waiting.erase id } }

def Streams.register (s : Streams) (subscriber : Subscriber) : Streams :=
  { s with
    group := { s.group with subscribers := insert s.nextSubscriber s.group.subscribers }
    subscribers := s.subscribers.insert s.nextSubscriber subscriber
    nextSubscriber := s.nextSubscriber + 1 }

def Streams.snapshotAndSubscribe (s : Streams) (start : Nat) : Streams :=
  match snapshotFromGroup s.group start with
  | .ok snapshot => s.register { snapshot := some snapshot }
  | .error _ => { s.register {} with closing := insert s.nextSubscriber s.closing }

def Streams.unsubscribe (s : Streams) (id : Nat) : Streams :=
  { s with
    group := { s.group with subscribers := s.group.subscribers.erase id }
    closing := insert id s.closing }

def streamStep (s : Streams) : StreamAction → Option Streams
  | .output sessionID handle data now =>
    if s.waiting sessionID ≠ ∅ then none
    else
      match s.group.sessions sessionID with
      | none => some s
      | some sess => if sess.handle ≠ handle then some s else s.output sessionID sess data now
  | .deliver sessionID id =>
    match s.deliveries sessionID, s.subscribers id with
    | some delivery, some subscriber =>
      if id ∈ delivery.waiting then s.deliver sessionID delivery id subscriber else none
    | _, _ => none
  | .subscribe => some (s.register {})
  | .snapshotAndSubscribe start => some (s.snapshotAndSubscribe start)
  | .unsubscribe id => if (s.subscribers id).isSome then some (s.unsubscribe id) else none
  | .close id =>
    if id ∈ s.closing then
      (s.subscribers id).map fun subscriber =>
        { s with subscribers := s.subscribers.insert id subscriber.close }
    else none
  | .receive id =>
    (s.subscribers id).bind fun subscriber =>
      subscriber.receive.map fun after =>
        { s with subscribers := s.subscribers.insert id after }

theorem append_chunk_chunks (sess : Session) (data : String) (now : Nat) :
    (appendChunk sess data now).2.chunks =
    lastOf maxBufferedChunks (sess.chunks ++ [(appendChunk sess data now).1]) := by
  unfold appendChunk
  dsimp only
  split
  · rfl
  next fits =>
    rw [lastOf, Nat.sub_eq_zero_of_le (Nat.le_of_not_lt fits), drop_zero]

variable {sess : Session} {log : List OutputChunk} {subscriber after : Subscriber}

theorem next_seq_of_last (chunks : sess.chunks = lastOf maxBufferedChunks log)
    (numbered : Numbered OutputChunk.seq log) : nextSeq sess = log.length + 1 := by
  unfold nextSeq
  rw [chunks, lastOf, getLast?_drop]
  cases length : log.length with
  | zero => simp
  | succ count =>
    have keeps : ¬count + 1 ≤ count + 1 - maxBufferedChunks := by
      have positive : 0 < maxBufferedChunks := by decide
      omega
    rw [if_neg keeps, getLast?_eq_getElem?, length, Nat.add_sub_cancel]
    have bound : count < log.length := by omega
    rw [getElem?_eq_getElem bound]
    have number := numbered.seq_get (getElem?_eq_getElem bound)
    dsimp only
    rw [number]

/-- What a subscriber got of a log, up to the number `upto`. -/
structure Follows (log : List OutputChunk) (snapshot : Snapshot) (subscriber : Subscriber)
    (upto : Nat) : Prop where
  after : snapshot.nextSeq - 1 ≤ upto
  within : upto ≤ log.length
  joined : ∃ start, snapshot.chunks =
    joined OutputChunk.seq maxBufferedChunks start (snapshot.nextSeq - 1) log
  followed : subscriber.received ++ subscriber.queue =
    followed OutputChunk.seq (snapshot.nextSeq - 1) upto subscriber.missed log
  missed : ∀ number ∈ subscriber.missed, number ≤ upto

/-- Increasing numbers, with no number left out between two of them but those missed. -/
structure InOrder (numbers missed : List Nat) : Prop where
  increasing : numbers.Pairwise (· < ·)
  noGap : ∀ before number later, before ∈ numbers → later ∈ numbers → before < number →
    number < later → number ∈ numbers ∨ number ∈ missed

namespace Follows

variable {snapshot : Snapshot} {upto : Nat}

theorem append (follows : Follows log snapshot subscriber upto) (chunk : OutputChunk) :
    Follows (log ++ [chunk]) snapshot subscriber upto where
  after := follows.after
  within := by
    rw [length_append]
    exact Nat.le_add_right_of_le follows.within
  joined := by
    rcases follows.joined with ⟨start, chunks⟩
    exact ⟨start, by rw [joined_append (follows.after.trans follows.within), chunks]⟩
  followed := by rw [followed_append follows.within, follows.followed]
  missed := follows.missed

theorem start (chunks : sess.chunks = lastOf maxBufferedChunks log)
    (numbered : Numbered OutputChunk.seq log) (first : Nat) (active : String)
    (states : List State) :
    Follows log (snapshotFromSession sess first active states)
      { snapshot := some (snapshotFromSession sess first active states) } log.length := by
  have base : (snapshotFromSession sess first active states).nextSeq - 1 = log.length := by
    rw [snapshotFromSession, next_seq_of_last chunks numbered, Nat.add_sub_cancel]
  exact
    { after := base.le
      within := Nat.le_refl _
      joined := ⟨first, by
        rw [base, NumberedLog.joined, take_length, snapshotFromSession, chunks]⟩
      followed := by
        rw [base, followed_start]
        rfl
      missed := fun _ mem => absurd mem not_mem_nil }

section

variable (follows : Follows log snapshot subscriber upto)
include follows

theorem close : Follows log snapshot subscriber.close upto :=
  ⟨follows.after, follows.within, follows.joined, follows.followed, follows.missed⟩

theorem receive (received : subscriber.receive = some after) : Follows log snapshot after upto := by
  unfold Subscriber.receive at received
  split at received
  · cases received
  next chunk rest queue =>
    cases received
    refine ⟨follows.after, follows.within, follows.joined, ?_, follows.missed⟩
    rw [← follows.followed, queue, append_assoc, singleton_append]

theorem deliver (numbered : Numbered OutputChunk.seq log) {chunk : OutputChunk}
    (isNext : log[upto]? = some chunk) (isOpen : subscriber.closed = false) :
    Follows log snapshot (subscriber.deliver chunk) (upto + 1) := by
  have bound := (List.getElem?_eq_some_iff.mp isNext).1
  have number := numbered.seq_get isNext
  have later : snapshot.nextSeq - 1 ≤ upto + 1 := Nat.le_add_right_of_le follows.after
  rw [Subscriber.deliver, if_neg (Bool.eq_false_iff.mp isOpen)]
  split
  · have unmissed : chunk.seq ∉ subscriber.missed := by
      intro mem
      have earlier := follows.missed _ mem
      omega
    refine ⟨later, bound, follows.joined, ?_, ?_⟩
    · rw [followed_received isNext follows.after unmissed, ← follows.followed, append_assoc]
    · intro missed mem
      exact Nat.le_add_right_of_le (follows.missed missed mem)
  · refine ⟨later, bound, follows.joined, ?_, ?_⟩
    · rw [followed_missed isNext follows.after numbered, ← follows.followed]
    intro missed mem
    rcases mem_append.mp mem with old | isNew
    · exact Nat.le_add_right_of_le (follows.missed missed old)
    · rw [mem_singleton.mp isNew, number]

theorem in_order (numbered : Numbered OutputChunk.seq log) :
    InOrder ((snapshot.chunks ++ subscriber.received).map OutputChunk.seq) subscriber.missed := by
  rcases follows.joined with ⟨start, chunks⟩
  rw [chunks]
  constructor
  · exact received_increasing numbered follows.after follows.followed
  · intro before number later hasBefore hasLater lower upper
    exact received_gap numbered follows.after follows.within follows.followed hasBefore hasLater
      lower upper

end

end Follows

/-- An identifier that is nowhere in use. -/
structure Streams.Unused (s : Streams) (id : Nat) : Prop where
  unregistered : id ∉ s.group.subscribers
  unknown : s.subscribers id = none
  notWaiting : ∀ sessionID, id ∉ s.waiting sessionID
  notDue : id ∉ s.closing

def Streams.FreshUnused (s : Streams) : Prop := ∀ id, s.nextSubscriber ≤ id → s.Unused id

/-- A session that has become the active one of its group, before its first output. The service
finds this session under its trimmed identifier if it finds one. Earlier subscribers are left out.
-/
structure Attached (sessionID : String) (s : Streams) : Prop where
  active : s.group.activeSessionID = sessionID
  lookedUp : trimSpace sessionID = sessionID ∨ s.group.sessions (trimSpace sessionID) = none
  session : ∃ sess, s.group.sessions sessionID = some sess ∧ sess.chunks = []
  appended : s.appended sessionID = []
  idle : s.waiting sessionID = ∅
  earlier : ∀ id subscriber, s.subscribers id = some subscriber → subscriber.snapshot = none
  fresh : s.FreshUnused

/-- How far a subscriber has come: to the last chunk, or to the one before if it still
waits for the last. One that is not registered may have stopped anywhere. -/
structure Streams.ReachedUpTo (s : Streams) (sessionID : String) (id upto : Nat) : Prop where
  waiting : id ∈ s.waiting sessionID → upto + 1 = (s.appended sessionID).length
  served : id ∈ s.group.subscribers → id ∉ s.waiting sessionID →
    upto = (s.appended sessionID).length

structure Streams.Ordered (sessionID : String) (s : Streams) : Prop where
  active : s.group.activeSessionID = sessionID
  lookedUp : trimSpace sessionID = sessionID ∨ s.group.sessions (trimSpace sessionID) = none
  session : ∃ sess, s.group.sessions sessionID = some sess ∧
    sess.chunks = lastOf maxBufferedChunks (s.appended sessionID)
  numbered : Numbered OutputChunk.seq (s.appended sessionID)
  delivering : ∀ delivery, s.deliveries sessionID = some delivery → delivery.waiting ≠ ∅ →
    (s.appended sessionID).getLast? = some delivery.chunk
  elsewhere : ∀ other id subscriber, other ≠ sessionID → id ∈ s.waiting other →
    s.subscribers id = some subscriber → subscriber.snapshot = none
  fresh : s.FreshUnused
  registered : ∀ id subscriber, id ∈ s.group.subscribers → s.subscribers id = some subscriber →
    subscriber.snapshot.isSome = true → id ∉ s.closing
  closed : ∀ id subscriber, s.subscribers id = some subscriber →
    subscriber.snapshot.isSome = true → subscriber.closed = true → id ∈ s.closing
  follows : ∀ id subscriber snapshot, s.subscribers id = some subscriber →
    subscriber.snapshot = some snapshot → ∃ upto,
      Follows (s.appended sessionID) snapshot subscriber upto ∧ s.ReachedUpTo sessionID id upto

namespace Streams

variable {s next : Streams} {sessionID : String} {id : Nat}

theorem waiting_insert (s : Streams) (deliveries : Table String Delivery) (sessionID : String)
    (delivery : Delivery) (other : String) :
    waiting { s with deliveries := deliveries.insert sessionID delivery } other =
      if other = sessionID then delivery.waiting
      else waiting { s with deliveries := deliveries } other := by
  by_cases same : other = sessionID
  · simp [waiting, same]
  · simp [waiting, same, insert_of_ne same]

theorem Unused.ne_of_known {known : Nat} (unused : s.Unused id)
    (lookup : s.subscribers known = some subscriber) : id ≠ known := by
  rintro rfl
  rw [unused.unknown] at lookup
  cases lookup

namespace Ordered

theorem of_attached (attached : Attached sessionID s) : s.Ordered sessionID where
  active := attached.active
  lookedUp := attached.lookedUp
  session := by
    rcases attached.session with ⟨sess, lookup, chunks⟩
    refine ⟨sess, lookup, ?_⟩
    rw [attached.appended, chunks]
    rfl
  numbered := by
    rw [attached.appended]
    exact numbered_nil
  delivering delivery lookup someWait := by
    have idle := attached.idle
    rw [waiting, lookup] at idle
    exact absurd idle someWait
  elsewhere other id subscriber _ _ lookup := attached.earlier id subscriber lookup
  fresh := attached.fresh
  registered id subscriber _ lookup hasSnapshot := by
    rw [attached.earlier id subscriber lookup] at hasSnapshot
    cases hasSnapshot
  closed id subscriber lookup hasSnapshot := by
    rw [attached.earlier id subscriber lookup] at hasSnapshot
    cases hasSnapshot
  follows id subscriber snapshot lookup isSnapshot := by
    rw [attached.earlier id subscriber lookup] at isSnapshot
    cases isSnapshot

section

variable (ordered : s.Ordered sessionID)
include ordered

theorem change {id : Nat} {subscriber after : Subscriber}
    (lookup : s.subscribers id = some subscriber)
    (sameSnapshot : after.snapshot = subscriber.snapshot)
    (closed : subscriber.snapshot.isSome = true → after.closed = true → id ∈ s.closing)
    (follows : ∀ snapshot upto, subscriber.snapshot = some snapshot →
      Follows (s.appended sessionID) snapshot subscriber upto →
      Follows (s.appended sessionID) snapshot after upto) :
    Ordered sessionID { s with subscribers := s.subscribers.insert id after } where
  active := ordered.active
  lookedUp := ordered.lookedUp
  session := ordered.session
  numbered := ordered.numbered
  delivering := ordered.delivering
  elsewhere other other' found different isWaiting lookupAfter := by
    rcases insert_eq_some lookupAfter with ⟨rfl, rfl⟩ | ⟨_, old⟩
    · rw [sameSnapshot]
      exact ordered.elsewhere other other' subscriber different isWaiting lookup
    · exact ordered.elsewhere other other' found different isWaiting old
  fresh other isFresh := by
    have unused := ordered.fresh other isFresh
    have different := unused.ne_of_known lookup
    exact { unused with unknown := (insert_of_ne different after).trans unused.unknown }
  registered other found isRegistered lookupAfter hasSnapshot := by
    rcases insert_eq_some lookupAfter with ⟨rfl, rfl⟩ | ⟨_, old⟩
    · rw [sameSnapshot] at hasSnapshot
      exact ordered.registered other subscriber isRegistered lookup hasSnapshot
    · exact ordered.registered other found isRegistered old hasSnapshot
  closed other found lookupAfter hasSnapshot isClosed := by
    rcases insert_eq_some lookupAfter with ⟨rfl, rfl⟩ | ⟨_, old⟩
    · exact closed (sameSnapshot ▸ hasSnapshot) isClosed
    · exact ordered.closed other found old hasSnapshot isClosed
  follows other found snapshot lookupAfter isSnapshot := by
    rcases insert_eq_some lookupAfter with ⟨rfl, rfl⟩ | ⟨_, old⟩
    · rw [sameSnapshot] at isSnapshot
      rcases ordered.follows other subscriber snapshot lookup isSnapshot with ⟨upto, got, reached⟩
      exact ⟨upto, follows snapshot upto isSnapshot got, reached.waiting, reached.served⟩
    · rcases ordered.follows other found snapshot old isSnapshot with ⟨upto, got, reached⟩
      exact ⟨upto, got, reached.waiting, reached.served⟩

theorem close (lookup : s.subscribers id = some subscriber) (due : id ∈ s.closing) :
    Ordered sessionID { s with subscribers := s.subscribers.insert id subscriber.close } :=
  ordered.change lookup rfl (fun _ _ => due) fun _ _ _ follows => follows.close

theorem receive (lookup : s.subscribers id = some subscriber)
    (received : subscriber.receive = some after) :
    Ordered sessionID { s with subscribers := s.subscribers.insert id after } := by
  have same : after.snapshot = subscriber.snapshot ∧ after.closed = subscriber.closed := by
    unfold Subscriber.receive at received
    split at received
    · cases received
    · cases received
      exact ⟨rfl, rfl⟩
  apply ordered.change lookup same.1
  · intro hasSnapshot isClosed
    exact ordered.closed id subscriber lookup hasSnapshot (same.2 ▸ isClosed)
  · intro snapshot upto _ follows
    exact follows.receive received

theorem unsubscribe (lookup : s.subscribers id = some subscriber) :
    (s.unsubscribe id).Ordered sessionID where
  active := ordered.active
  lookedUp := ordered.lookedUp
  session := ordered.session
  numbered := ordered.numbered
  delivering := ordered.delivering
  elsewhere := ordered.elsewhere
  fresh other isFresh := by
    have unused := ordered.fresh other isFresh
    exact
      { unregistered := fun mem => unused.unregistered (Finset.mem_of_mem_erase mem)
        unknown := unused.unknown
        notWaiting := unused.notWaiting
        notDue := by
          intro due
          rcases Finset.mem_insert.mp due with same | wasDue
          · exact unused.ne_of_known lookup same
          · exact unused.notDue wasDue }
  registered other found isRegistered lookup hasSnapshot := by
    rcases Finset.mem_erase.mp isRegistered with ⟨ne, old⟩
    intro due
    rcases Finset.mem_insert.mp due with same | wasDue
    · exact ne same
    · exact ordered.registered other found old lookup hasSnapshot wasDue
  closed other found lookup hasSnapshot isClosed :=
    Finset.mem_insert_of_mem (ordered.closed other found lookup hasSnapshot isClosed)
  follows other found snapshot lookup isSnapshot := by
    rcases ordered.follows other found snapshot lookup isSnapshot with ⟨upto, got, reached⟩
    refine ⟨upto, got, reached.waiting, ?_⟩
    intro isRegistered
    exact reached.served (Finset.mem_of_mem_erase isRegistered)

theorem register {subscriber : Subscriber}
    (isOpen : subscriber.closed = false)
    (follows : ∀ snapshot, subscriber.snapshot = some snapshot →
      Follows (s.appended sessionID) snapshot subscriber (s.appended sessionID).length) :
    (s.register subscriber).Ordered sessionID where
  active := ordered.active
  lookedUp := ordered.lookedUp
  session := ordered.session
  numbered := ordered.numbered
  delivering := ordered.delivering
  elsewhere other id found ne isWaiting lookup := by
    rcases insert_eq_some lookup with ⟨rfl, rfl⟩ | ⟨_, old⟩
    · exact absurd isWaiting ((ordered.fresh _ (Nat.le_refl _)).notWaiting other)
    · exact ordered.elsewhere other id found ne isWaiting old
  fresh id isFresh := by
    have later : s.nextSubscriber + 1 ≤ id := isFresh
    have unused := ordered.fresh id (by omega)
    have ne : id ≠ s.nextSubscriber := by omega
    exact
      { unregistered := by
          intro mem
          rcases Finset.mem_insert.mp mem with same | old
          · exact ne same
          · exact unused.unregistered old
        unknown := (insert_of_ne ne subscriber).trans unused.unknown
        notWaiting := unused.notWaiting
        notDue := unused.notDue }
  registered id found isRegistered lookup hasSnapshot := by
    rcases insert_eq_some lookup with ⟨rfl, rfl⟩ | ⟨ne, old⟩
    · exact (ordered.fresh _ (Nat.le_refl _)).notDue
    · rcases Finset.mem_insert.mp isRegistered with same | wasRegistered
      · exact absurd same ne
      · exact ordered.registered id found wasRegistered old hasSnapshot
  closed id found lookup hasSnapshot isClosed := by
    rcases insert_eq_some lookup with ⟨rfl, rfl⟩ | ⟨_, old⟩
    · rw [isOpen] at isClosed
      cases isClosed
    · exact ordered.closed id found old hasSnapshot isClosed
  follows id found snapshot lookup isSnapshot := by
    rcases insert_eq_some lookup with ⟨rfl, rfl⟩ | ⟨ne, old⟩
    · refine ⟨_, follows snapshot isSnapshot, ?_, fun _ _ => rfl⟩
      intro isWaiting
      exact absurd isWaiting ((ordered.fresh _ (Nat.le_refl _)).notWaiting sessionID)
    rcases ordered.follows id found snapshot old isSnapshot with ⟨upto, got, reached⟩
    refine ⟨upto, got, reached.waiting, ?_⟩
    intro isRegistered
    rcases Finset.mem_insert.mp isRegistered with same | wasRegistered
    · exact absurd same ne
    · exact reached.served wasRegistered

theorem subscribe : (s.register {}).Ordered sessionID := by
  apply ordered.register rfl
  intro snapshot same
  cases same

theorem active_session (found : activeGroupSession s.group = .ok sess) :
    s.group.sessions sessionID = some sess := by
  unfold activeGroupSession at found
  dsimp only at found
  split at found
  · cases found
  split at found
  · cases found
  next current lookup =>
    cases found
    rw [ordered.active] at lookup
    rcases ordered.lookedUp with trimmed | absent
    · rwa [trimmed] at lookup
    · rw [absent] at lookup
      cases lookup

theorem snapshot_and_subscribe (start : Nat) :
    (s.snapshotAndSubscribe start).Ordered sessionID := by
  unfold Streams.snapshotAndSubscribe snapshotFromGroup
  cases found : activeGroupSession s.group with
  | ok sess =>
    rcases ordered.session with ⟨current, lookup, chunks⟩
    cases (lookup.symm.trans (ordered.active_session found))
    apply ordered.register rfl
    intro snapshot same
    cases same
    exact Follows.start chunks ordered.numbered start _ _
  | error err =>
    have registered := ordered.subscribe
    have isPlain : (s.register {}).subscribers s.nextSubscriber = some {} :=
      insert_self _ _ _
    exact
      { registered with
        fresh := by
          intro id isFresh
          have unused := registered.fresh id isFresh
          refine { unused with notDue := ?_ }
          intro due
          rcases Finset.mem_insert.mp due with same | wasDue
          · exact unused.ne_of_known isPlain same
          · exact unused.notDue wasDue
        registered := by
          intro id subscriber isRegistered lookup hasSnapshot due
          rcases Finset.mem_insert.mp due with rfl | wasDue
          · cases (isPlain.symm.trans lookup)
            cases hasSnapshot
          · exact registered.registered id subscriber isRegistered lookup hasSnapshot wasDue
        closed := by
          intro id subscriber lookup hasSnapshot isClosed
          exact Finset.mem_insert_of_mem
            (registered.closed id subscriber lookup hasSnapshot isClosed)
        follows := by
          intro id subscriber snapshot lookup isSnapshot
          rcases registered.follows id subscriber snapshot lookup isSnapshot with
            ⟨upto, got, reached⟩
          exact ⟨upto, got, reached.waiting, reached.served⟩ }

end

variable {output : String}

theorem waiting_output (sess : Session) (data : String) (now : Nat) (other : String) :
    (s.output output sess data now).waiting other =
      if other = output then if s.group.activeSessionID = output then s.group.subscribers else ∅
      else s.waiting other :=
  waiting_insert s s.deliveries output _ other

theorem sessions_output (sess : Session) (data : String) (now : Nat) {id : String}
    (ne : id ≠ output) : (s.output output sess data now).group.sessions id = s.group.sessions id :=
  insert_of_ne ne _

section

variable (ordered : s.Ordered sessionID)
include ordered

theorem looked_up_output (lookup : s.group.sessions output = some sess) (data : String)
    (now : Nat) : trimSpace sessionID = sessionID ∨
    (s.output output sess data now).group.sessions (trimSpace sessionID) = none := by
  rcases ordered.lookedUp with trimmed | absent
  · exact .inl trimmed
  right
  rw [sessions_output sess data now, absent]
  intro same
  rw [same, lookup] at absent
  cases absent

theorem fresh_output (sess : Session) (data : String) (now : Nat) :
    (s.output output sess data now).FreshUnused := by
  intro id isFresh
  have unused := ordered.fresh id isFresh
  refine ⟨unused.unregistered, unused.unknown, ?_, unused.notDue⟩
  intro other
  rw [waiting_output]
  split_ifs
  · exact unused.unregistered
  · exact Finset.notMem_empty id
  · exact unused.notWaiting other

theorem own_output (lookup : s.group.sessions sessionID = some sess)
    (idle : s.waiting sessionID = ∅) (data : String) (now : Nat) :
    (s.output sessionID sess data now).Ordered sessionID := by
  have chunks : sess.chunks = lastOf maxBufferedChunks (s.appended sessionID) := by
    rcases ordered.session with ⟨current, found, chunks⟩
    cases (lookup.symm.trans found)
    exact chunks
  have appended : (s.output sessionID sess data now).appended sessionID =
      s.appended sessionID ++ [(appendChunk sess data now).1] := if_pos rfl
  have waiting : (s.output sessionID sess data now).waiting sessionID = s.group.subscribers := by
    rw [waiting_output, if_pos rfl, if_pos ordered.active]
  exact
    { active := ordered.active
      lookedUp := ordered.looked_up_output lookup data now
      session := by
        refine ⟨_, insert_self _ _ _, ?_⟩
        rw [append_chunk_chunks, chunks, last_of_append, appended]
      numbered := by
        rw [appended]
        exact ordered.numbered.append (next_seq_of_last chunks ordered.numbered)
      delivering := by
        intro delivery isDelivery _
        have same : some { chunk := (appendChunk sess data now).1, waiting := _ } = some delivery :=
          (insert_self _ _ _).symm.trans isDelivery
        rw [appended, getLast?_concat, ← some.inj same]
      elsewhere := by
        intro other id subscriber ne isWaiting known
        rw [waiting_output, if_neg ne] at isWaiting
        exact ordered.elsewhere other id subscriber ne isWaiting known
      fresh := ordered.fresh_output sess data now
      registered := ordered.registered
      closed := ordered.closed
      follows := by
        intro id subscriber snapshot known isSnapshot
        rcases ordered.follows id subscriber snapshot known isSnapshot with ⟨upto, got, reached⟩
        refine ⟨upto, appended ▸ got.append _, ?_, ?_⟩
        · intro isWaiting
          rw [waiting] at isWaiting
          rw [reached.served isWaiting (idle ▸ Finset.notMem_empty id), appended,
            length_append, length_singleton]
        · intro isRegistered notWaiting
          rw [waiting] at notWaiting
          exact absurd isRegistered notWaiting }

theorem other_output (lookup : s.group.sessions output = some sess) (ne : output ≠ sessionID)
    (data : String) (now : Nat) : (s.output output sess data now).Ordered sessionID := by
  have appended : (s.output output sess data now).appended sessionID = s.appended sessionID :=
    if_neg ne.symm
  have waiting : (s.output output sess data now).waiting sessionID = s.waiting sessionID := by
    rw [waiting_output, if_neg ne.symm]
  exact
    { active := ordered.active
      lookedUp := ordered.looked_up_output lookup data now
      session := by
        rw [sessions_output sess data now ne.symm, appended]
        exact ordered.session
      numbered := by
        rw [appended]
        exact ordered.numbered
      delivering := by
        intro delivery isDelivery someWait
        rw [appended]
        exact ordered.delivering delivery
          ((insert_of_ne ne.symm _).symm.trans isDelivery) someWait
      elsewhere := by
        intro other id subscriber otherSession isWaiting known
        rw [waiting_output] at isWaiting
        split at isWaiting
        · rw [ordered.active, if_neg ne.symm] at isWaiting
          exact absurd isWaiting (Finset.notMem_empty id)
        · exact ordered.elsewhere other id subscriber otherSession isWaiting known
      fresh := ordered.fresh_output sess data now
      registered := ordered.registered
      closed := ordered.closed
      follows := by
        intro id subscriber snapshot known isSnapshot
        rw [appended]
        rcases ordered.follows id subscriber snapshot known isSnapshot with ⟨upto, got, reached⟩
        refine ⟨upto, got, ?_, ?_⟩
        · rw [waiting, appended]
          exact reached.waiting
        · rw [waiting, appended]
          exact reached.served }

end

section

variable {delivery : Delivery} (isDelivery : s.deliveries output = some delivery)
  (lookup : s.subscribers id = some subscriber) (isWaiting : id ∈ delivery.waiting)

theorem waiting_of_delivery (isDelivery : s.deliveries output = some delivery) :
    s.waiting output = delivery.waiting := by
  rw [waiting, isDelivery, elim_some]

theorem waiting_deliver (other : String) :
    (s.deliver output delivery id subscriber).waiting other =
      if other = output then delivery.waiting.erase id else s.waiting other :=
  waiting_insert { s with subscribers := s.subscribers.insert id _ } s.deliveries output _ other

include isDelivery in
theorem waiting_of_waiting_deliver {other : String} {number : Nat}
    (still : number ∈ (s.deliver output delivery id subscriber).waiting other) :
    number ∈ s.waiting other := by
  rw [waiting_deliver] at still
  split at still
  next same =>
    rw [same, waiting_of_delivery isDelivery]
    exact Finset.mem_of_mem_erase still
  · exact still

theorem snapshot_deliver (chunk : OutputChunk) :
    (subscriber.deliver chunk).snapshot = subscriber.snapshot := by
  unfold Subscriber.deliver
  split_ifs <;> rfl

theorem closed_deliver (chunk : OutputChunk) :
    (subscriber.deliver chunk).closed = subscriber.closed := by
  unfold Subscriber.deliver
  split_ifs <;> rfl

include isDelivery isWaiting in
theorem reached_deliver (ordered : s.Ordered output) {snapshot : Snapshot}
    (known : s.subscribers id = some subscriber)
    (isSnapshot : subscriber.snapshot = some snapshot) :
    ∃ upto, Follows (s.appended output) snapshot (subscriber.deliver delivery.chunk) upto ∧
    (s.deliver output delivery id subscriber).ReachedUpTo output id upto := by
  have hasSnapshot : subscriber.snapshot.isSome = true := by
    rw [isSnapshot]
    rfl
  have served : id ∉ (s.deliver output delivery id subscriber).waiting output := by
    rw [waiting_deliver, if_pos rfl]
    exact Finset.notMem_erase id _
  rcases ordered.follows id subscriber snapshot known isSnapshot with ⟨upto, got, reached⟩
  have last := reached.waiting (waiting_of_delivery isDelivery ▸ isWaiting)
  cases isClosed : subscriber.closed with
  | true =>
    have unchanged : subscriber.deliver delivery.chunk = subscriber := if_pos isClosed
    have due := ordered.closed id subscriber known hasSnapshot isClosed
    refine ⟨upto, unchanged.symm ▸ got, fun waits => absurd waits served, ?_⟩
    intro isRegistered
    exact absurd due (ordered.registered id subscriber isRegistered known hasSnapshot)
  | false =>
    have isNext : (s.appended output)[upto]? = some delivery.chunk := by
      have final := ordered.delivering delivery isDelivery (Finset.ne_empty_of_mem isWaiting)
      rw [getLast?_eq_getElem?, ← last, Nat.add_sub_cancel] at final
      exact final
    refine ⟨upto + 1, got.deliver ordered.numbered isNext isClosed, ?_, fun _ _ => last⟩
    intro waits
    exact absurd waits served

include isDelivery lookup isWaiting in
theorem deliver (ordered : s.Ordered sessionID) :
    (s.deliver output delivery id subscriber).Ordered sessionID where
  active := ordered.active
  lookedUp := ordered.lookedUp
  session := ordered.session
  numbered := ordered.numbered
  delivering current isCurrent someWait := by
    rcases insert_eq_some isCurrent with ⟨rfl, rfl⟩ | ⟨_, old⟩
    · exact ordered.delivering delivery isDelivery (Finset.ne_empty_of_mem isWaiting)
    · exact ordered.delivering current old someWait
  elsewhere other number found ne still known := by
    have waits := waiting_of_waiting_deliver isDelivery still
    rcases insert_eq_some known with ⟨rfl, rfl⟩ | ⟨_, old⟩
    · rw [snapshot_deliver]
      exact ordered.elsewhere other number subscriber ne waits lookup
    · exact ordered.elsewhere other number found ne waits old
  fresh number isFresh := by
    have unused := ordered.fresh number isFresh
    have unknown := (insert_of_ne (unused.ne_of_known lookup)
      (subscriber.deliver delivery.chunk)).trans unused.unknown
    refine ⟨unused.unregistered, unknown, ?_, unused.notDue⟩
    intro other still
    exact unused.notWaiting other (waiting_of_waiting_deliver isDelivery still)
  registered number found isRegistered known hasSnapshot := by
    rcases insert_eq_some known with ⟨rfl, rfl⟩ | ⟨_, old⟩
    · rw [snapshot_deliver] at hasSnapshot
      exact ordered.registered number subscriber isRegistered lookup hasSnapshot
    · exact ordered.registered number found isRegistered old hasSnapshot
  closed number found known hasSnapshot isClosed := by
    rcases insert_eq_some known with ⟨rfl, rfl⟩ | ⟨_, old⟩
    · rw [snapshot_deliver] at hasSnapshot
      rw [closed_deliver] at isClosed
      exact ordered.closed number subscriber lookup hasSnapshot isClosed
    · exact ordered.closed number found old hasSnapshot isClosed
  follows number found snapshot known isSnapshot := by
    by_cases own : output = sessionID
    · subst own
      rcases insert_eq_some known with ⟨rfl, rfl⟩ | ⟨ne, old⟩
      · rw [snapshot_deliver] at isSnapshot
        exact reached_deliver isDelivery isWaiting ordered lookup isSnapshot
      rcases ordered.follows number found snapshot old isSnapshot with ⟨upto, got, reached⟩
      refine ⟨upto, got, ?_, ?_⟩
      · intro still
        exact reached.waiting (waiting_of_waiting_deliver isDelivery still)
      intro isRegistered notWaiting
      apply reached.served isRegistered
      intro waits
      rw [waiting_of_delivery isDelivery] at waits
      rw [waiting_deliver, if_pos rfl] at notWaiting
      exact notWaiting (Finset.mem_erase.mpr ⟨ne, waits⟩)
    have sameWaiting : (s.deliver output delivery id subscriber).waiting sessionID =
        s.waiting sessionID := by
      rw [waiting_deliver, if_neg (Ne.symm own)]
    rcases insert_eq_some known with ⟨rfl, rfl⟩ | ⟨_, old⟩
    · rw [snapshot_deliver] at isSnapshot
      have plain := ordered.elsewhere output number subscriber own
        (waiting_of_delivery isDelivery ▸ isWaiting) lookup
      rw [plain] at isSnapshot
      cases isSnapshot
    rcases ordered.follows number found snapshot old isSnapshot with ⟨upto, got, reached⟩
    refine ⟨upto, got, ?_, ?_⟩
    · rw [sameWaiting]
      exact reached.waiting
    · rw [sameWaiting]
      exact reached.served

end

theorem step (ordered : s.Ordered sessionID) {action : StreamAction}
    (taken : streamStep s action = some next) : next.Ordered sessionID := by
  cases action with
  | output output handle data now =>
    rw [streamStep] at taken
    split at taken
    · cases taken
    next idle =>
      split at taken
      · cases taken
        exact ordered
      next sess lookup =>
        split at taken
        · cases taken
          exact ordered
        cases taken
        by_cases own : output = sessionID
        · subst own
          exact ordered.own_output lookup (not_not.mp idle) data now
        · exact ordered.other_output lookup own data now
  | deliver output id =>
    rw [streamStep] at taken
    split at taken
    next delivery subscriber isDelivery lookup =>
      split at taken
      next isWaiting =>
        cases taken
        exact deliver isDelivery lookup isWaiting ordered
      · cases taken
    · cases taken
  | subscribe =>
    cases taken
    exact ordered.subscribe
  | snapshotAndSubscribe start =>
    cases taken
    exact ordered.snapshot_and_subscribe start
  | unsubscribe id =>
    rw [streamStep] at taken
    split at taken
    next known =>
      cases taken
      rcases isSome_iff_exists.mp known with ⟨subscriber, lookup⟩
      exact ordered.unsubscribe lookup
    · cases taken
  | close id =>
    rw [streamStep] at taken
    split at taken
    next due =>
      rcases map_eq_some_iff.mp taken with ⟨subscriber, lookup, rfl⟩
      exact ordered.close lookup due
    · cases taken
  | receive id =>
    rcases bind_eq_some_iff.mp taken with ⟨subscriber, lookup, further⟩
    rcases map_eq_some_iff.mp further with ⟨after, received, rfl⟩
    exact ordered.receive lookup received

end Ordered

end Streams

theorem attached_started (sessionID : String) (chunks : sess.chunks = []) :
    Attached sessionID { group := Group.started sessionID sess } where
  active := rfl
  lookedUp := by
    by_cases trimmed : trimSpace sessionID = sessionID
    · exact .inl trimmed
    · right
      simp [Group.started, insert_of_ne trimmed, empty]
  session := ⟨sess, insert_self _ _ _, chunks⟩
  appended := rfl
  idle := rfl
  earlier _ _ lookup := absurd lookup (some_ne_none _).symm
  fresh id _ :=
    { unregistered := Finset.notMem_empty id
      unknown := rfl
      notWaiting := fun _ => Finset.notMem_empty id
      notDue := Finset.notMem_empty id }

/-- The buffer holds the last `min n 512` of the `n` chunks of the session, the next number is `n +
1`, and each subscriber with a snapshot got its chunks in order. -/
theorem output_delivered_once_in_order {sessionID : String} {s : Streams}
    (reachable : Reachable (Attached sessionID) streamStep s) :
    (∃ sess, s.group.sessions sessionID = some sess ∧
      sess.chunks = lastOf maxBufferedChunks (s.appended sessionID) ∧
      sess.chunks.map OutputChunk.seq =
        List.range'
          ((s.appended sessionID).length + 1 - min (s.appended sessionID).length maxBufferedChunks)
          (min (s.appended sessionID).length maxBufferedChunks) ∧
      nextSeq sess = (s.appended sessionID).length + 1) ∧
    ∀ id subscriber snapshot, s.subscribers id = some subscriber →
      subscriber.snapshot = some snapshot →
      InOrder ((snapshot.chunks ++ subscriber.received).map OutputChunk.seq) subscriber.missed := by
  have ordered : s.Ordered sessionID := by
    apply reachable.invariant
    · intro first attached
      exact Streams.Ordered.of_attached attached
    · intro before action after isOrdered taken
      exact isOrdered.step taken
  constructor
  · rcases ordered.session with ⟨sess, lookup, chunks⟩
    refine ⟨sess, lookup, chunks, ?_, next_seq_of_last chunks ordered.numbered⟩
    rw [chunks, ordered.numbered.last_of]
  · intro id subscriber snapshot lookup isSnapshot
    rcases ordered.follows id subscriber snapshot lookup isSnapshot with ⟨upto, got, _⟩
    exact got.in_order ordered.numbered

def termSession : Session where
  handle := 0
  state := launchedState "sh" { widgetID := "term" } "term" 7 0

def joinsLater : List StreamAction :=
  [.subscribe, .output "term" 0 "a" 1, .deliver "term" 0, .snapshotAndSubscribe 0,
    .output "term" 0 "b" 2, .unsubscribe 0, .deliver "term" 1, .close 0, .deliver "term" 0,
    .output "term" 0 "c" 3, .receive 1, .deliver "term" 1, .receive 1]

theorem output_delivered_once_in_order_later :
    ∃ s subscriber snapshot, Reachable (Attached "term") streamStep s ∧
      s.subscribers 1 = some subscriber ∧ subscriber.snapshot = some snapshot ∧
      (snapshot.chunks ++ subscriber.received).map OutputChunk.data = ["a", "b", "c"] ∧
      InOrder ((snapshot.chunks ++ subscriber.received).map OutputChunk.seq) subscriber.missed := by
  have ran : (runActions streamStep { group := Group.started "term" termSession } joinsLater).map
      (fun s => (s.subscribers 1).bind fun subscriber => subscriber.snapshot.map fun snapshot =>
        (snapshot.chunks ++ subscriber.received).map OutputChunk.data) =
      some (some ["a", "b", "c"]) := by
    decide +kernel
  rcases map_eq_some_iff.mp ran with ⟨s, isRun, tested⟩
  rcases bind_eq_some_iff.mp tested with ⟨subscriber, lookup, more⟩
  rcases map_eq_some_iff.mp more with ⟨snapshot, isSnapshot, data⟩
  have noChunks : termSession.chunks = [] := rfl
  have reachable : Reachable (Attached "term") streamStep s :=
    ⟨_, attached_started "term" noChunks, runs_to_of_run isRun⟩
  exact ⟨s, subscriber, snapshot, reachable, lookup, isSnapshot, data,
    (output_delivered_once_in_order reachable).2 1 subscriber snapshot lookup isSnapshot⟩

end RuneTerminal.Terminal
