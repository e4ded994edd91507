import RuneTerminal.Terminal.OutputOrder

/-! Which session feeds the subscribers of a widget changes with the active one, and a restarted
session is another object under the same identifier. The subscribers stay with the group. -/

namespace RuneTerminal.Terminal

open Kit Kit.NumberedLog List Table Service Option

/-- A section of a call, as far as it concerns the group. -/
inductive GroupChange where
  | start (sessionID : String) (sess : Session)
  | create (sessionID : String) (sess : Session)
  | setActiveSession (sessionID : String)
  | closeWidgetSession (sessionID : String)
  | closeSession

def regroup (group : Option Group) : GroupChange → Option Group
  | .start sessionID sess => some (Group.started sessionID sess)
  | .create sessionID sess => group.map fun group => group.add sessionID sess
  | .setActiveSession sessionID =>
    group.map fun group =>
      if (group.sessions sessionID).isSome then group.activate sessionID else group
  | .closeWidgetSession sessionID =>
    group.bind fun group =>
      if (group.sessions sessionID).isSome then
        if (group.remove sessionID).sessionOrder = [] then none
        else some (group.remove sessionID)
      else some group
  | .closeSession => none

section

variable (service : Service) (s : System) (launch : Launch) (sess : Session)
variable (id sessionID : String)

theorem finish_start_group :
    (service.finishStart launch sess).1.groups launch.opts.widgetID =
      regroup (service.groups launch.opts.widgetID) (.start launch.sessionID sess) :=
  insert_self _ _ _

theorem finish_create_group :
    (service.finishCreate launch sess).1.groups launch.opts.widgetID =
      regroup (service.groups launch.opts.widgetID) (.create launch.sessionID sess) := by
  unfold finishCreate
  cases found : service.groups launch.opts.widgetID with
  | none => exact found
  | some group => exact insert_self _ _ _

theorem set_active_session_group :
    (s.replace ((s.service.setActiveSession id sessionID).map Prod.fst)).service.groups id =
      regroup (s.service.groups id) (.setActiveSession sessionID) := by
  unfold setActiveSession
  cases found : s.service.groups id with
  | none => exact found
  | some group =>
    cases isSession : group.sessions sessionID with
    | none => simpa [regroup, isSession, System.replace, Except.map] using found
    | some sess => simp [regroup, isSession, System.replace, Except.map]

theorem close_widget_session_group :
    (s.replace (s.service.closeWidgetSession id sessionID)).service.groups id =
      regroup (s.service.groups id) (.closeWidgetSession sessionID) := by
  unfold closeWidgetSession
  cases found : s.service.groups id with
  | none => exact found
  | some group =>
    cases isSession : group.sessions sessionID with
    | none => simpa [regroup, isSession, System.replace] using found
    | some sess =>
      by_cases last : (group.remove sessionID).sessionOrder = []
      · simp [regroup, isSession, System.replace, last]
      · simp [regroup, isSession, System.replace, last]

theorem close_session_group :
    (s.replace (s.service.closeSession id)).service.groups id =
      regroup (s.service.groups id) .closeSession := by
  unfold closeSession
  cases found : s.service.groups id with
  | none => exact found
  | some group => simp [regroup, System.replace]

theorem consume_output_group {group : Group} (found : service.groups id = some group)
    (isSession : group.sessions sessionID = some sess) (data : String) (now : Nat) :
    (service.consumeOutput id sessionID sess.handle data now).groups id =
      some (group.update sessionID (appendChunk sess data now).2) := by
  simp [consumeOutput, updateSession, found, isSession]

end

/-- A subscriber, and the session object of its snapshot if it was created with one. -/
structure Feed where
  subscriber : Subscriber := {}
  source : Option Nat := none

def Feed.got (feed : Feed) : List OutputChunk :=
  (feed.subscriber.snapshot.elim [] Snapshot.chunks) ++
    (feed.subscriber.received ++ feed.subscriber.queue)

/-- `deliveries` and `appended` are kept for each session object. A subscriber is due to
be closed when it has unsubscribed, or when its subscription has failed. -/
structure Feeds where
  group : Option Group := none
  nextHandle : Nat := 0
  feeds : Table Nat Feed := Table.empty
  due : Finset Nat := ∅
  nextSubscriber : Nat := 0
  deliveries : Table Nat Delivery := Table.empty
  appended : Nat → List OutputChunk := fun _ => []

def Feeds.waiting (s : Feeds) (handle : Nat) : Finset Nat :=
  (s.deliveries handle).elim ∅ Delivery.waiting

def Feeds.registered (s : Feeds) : Finset Nat := s.group.elim ∅ Group.subscribers

/-- A restart is the close of a session followed by a start or a creation. -/
inductive FeedAction where
  | startSession (sessionID : String) (state : State)
  | createSession (sessionID : String) (state : State)
  | setActiveSession (sessionID : String)
  | closeWidgetSession (sessionID : String)
  | closeSession
  | output (sessionID : String) (handle : Nat) (data : String) (now : Nat)
  | deliver (handle : Nat) (subscriber : Nat)
  | subscribe
  | snapshotAndSubscribe (start : Nat)
  | unsubscribe (subscriber : Nat)
  | close (subscriber : Nat)
  | receive (subscriber : Nat)

namespace Feeds

def regroup (s : Feeds) (change : GroupChange) : Feeds :=
  { s with group := Terminal.regroup s.group change }

def launch (s : Feeds) (change : Session → GroupChange) (state : State) : Feeds :=
  { s.regroup (change { handle := s.nextHandle, state := state }) with
    nextHandle := s.nextHandle + 1 }

/-- The section of `consumeOutput`. -/
def output (s : Feeds) (group : Group) (sessionID : String) (sess : Session) (data : String)
    (now : Nat) : Feeds :=
  let appended := appendChunk sess data now
  let waiting := if group.activeSessionID = sessionID then group.subscribers else ∅
  { s with
    group := some (group.update sessionID appended.2)
    deliveries := s.deliveries.insert sess.handle { chunk := appended.1, waiting := waiting }
    appended := fun handle =>
      if handle = sess.handle then s.appended handle ++ [appended.1] else s.appended handle }

def put (s : Feeds) (id : Nat) (feed : Feed) (subscriber : Subscriber) : Feeds :=
  { s with feeds := s.feeds.insert id { feed with subscriber := subscriber } }

def deliver (s : Feeds) (handle : Nat) (delivery : Delivery) (id : Nat) (feed : Feed) : Feeds :=
  { s.put id feed (feed.subscriber.deliver delivery.chunk) with
    deliveries := s.deliveries.insert handle
      { delivery with waiting := delivery.waiting.erase id } }

def register (s : Feeds) (group : Group) (feed : Feed) : Feeds :=
  { s with
    group := some { group with subscribers := insert s.nextSubscriber group.subscribers }
    feeds := s.feeds.insert s.nextSubscriber feed
    nextSubscriber := s.nextSubscriber + 1 }

def snapshotAndSubscribe (s : Feeds) (group : Group) (start : Nat) : Feeds :=
  match snapshotFromGroup group start, activeGroupSession group with
  | .ok snapshot, .ok sess =>
    s.register group { subscriber := { snapshot := some snapshot }, source := some sess.handle }
  | _, _ => { s.register group {} with due := insert s.nextSubscriber s.due }

def unsubscribe (s : Feeds) (id : Nat) : Feeds :=
  { s with
    group := s.group.map fun group => { group with subscribers := group.subscribers.erase id }
    due := insert id s.due }

end Feeds

def feedStep (s : Feeds) : FeedAction → Option Feeds
  | .startSession sessionID state => some (s.launch (.start sessionID) state)
  | .createSession sessionID state => some (s.launch (.create sessionID) state)
  | .setActiveSession sessionID => some (s.regroup (.setActiveSession sessionID))
  | .closeWidgetSession sessionID => some (s.regroup (.closeWidgetSession sessionID))
  | .closeSession => some (s.regroup .closeSession)
  | .output sessionID handle data now =>
    if s.waiting handle ≠ ∅ then none
    else
      match s.group with
      | none => some s
      | some group =>
        match group.sessions sessionID with
        | none => some s
        | some sess =>
          if sess.handle ≠ handle then some s else s.output group sessionID sess data now
  | .deliver handle id =>
    match s.deliveries handle, s.feeds id with
    | some delivery, some feed =>
      if id ∈ delivery.waiting then s.deliver handle delivery id feed else none
    | _, _ => none
  | .subscribe => some (s.group.elim s fun group => s.register group {})
  | .snapshotAndSubscribe start =>
    some (s.group.elim s fun group => s.snapshotAndSubscribe group start)
  | .unsubscribe id => if (s.feeds id).isSome then some (s.unsubscribe id) else none
  | .close id =>
    if id ∈ s.due ∨ id ∉ s.registered then
      (s.feeds id).map fun feed => s.put id feed feed.subscriber.close
    else none
  | .receive id =>
    (s.feeds id).bind fun feed => feed.subscriber.receive.map fun after => s.put id feed after

/-- The subscribers that get the next chunk have their snapshot of the session that
gives it. -/
def sourcesAgree (s : Feeds) : FeedAction → Bool
  | .output sessionID handle _ _ =>
    match s.group with
    | none => true
    | some group =>
      decide ((group.sessions sessionID).map Session.handle ≠ some handle ∨
        group.activeSessionID ≠ sessionID ∨
        ∀ id ∈ group.subscribers,
          ((s.feeds id).bind Feed.source).all fun source => source = handle)
  | _ => true

/-- The sessions of a group are different objects, and the buffer of each is the end of
what it has put out. -/
structure Feeds.Buffered (s : Feeds) (group : Group) : Prop where
  known : ∀ id sess, group.sessions id = some sess → sess.handle < s.nextHandle
  distinct : ∀ id sess other found, group.sessions id = some sess →
    group.sessions other = some found → sess.handle = found.handle → id = other
  chunks : ∀ id sess, group.sessions id = some sess →
    sess.chunks = lastOf maxBufferedChunks (s.appended sess.handle)
  subscribers : ∀ id ∈ group.subscribers, id < s.nextSubscriber

structure Feeds.Delivering (s : Feeds) (handle : Nat) (delivery : Delivery) : Prop where
  waiting : ∀ id ∈ delivery.waiting, id < s.nextSubscriber
  own : ∀ id ∈ delivery.waiting, ∀ feed source, s.feeds id = some feed →
    feed.source = some source → source = handle
  last : delivery.waiting ≠ ∅ → ∃ before, s.appended handle = before ++ [delivery.chunk] ∧
    ∀ id ∈ delivery.waiting, ∀ feed source, s.feeds id = some feed →
      feed.source = some source → feed.got.Sublist before

structure Feeds.Faithful (s : Feeds) : Prop where
  group : ∀ group, s.group = some group → s.Buffered group
  fresh : ∀ handle, s.nextHandle ≤ handle → s.appended handle = []
  numbered : ∀ handle, Numbered OutputChunk.seq (s.appended handle)
  unknown : ∀ id feed, s.feeds id = some feed → id < s.nextSubscriber
  delivering : ∀ handle delivery, s.deliveries handle = some delivery →
    s.Delivering handle delivery
  sourced : ∀ id feed, s.feeds id = some feed → feed.subscriber.snapshot.isSome = true →
    ∃ source, feed.source = some source
  got : ∀ id feed source, s.feeds id = some feed → feed.source = some source →
    feed.got.Sublist (s.appended source)

namespace Feeds

variable {s next : Feeds} {group : Group} {sessionID : String} {id handle : Nat}

namespace Buffered

theorem start (faithful : s.Faithful) (sessionID : String) (state : State) :
    (s.launch (.start sessionID) state).Buffered
      (Group.started sessionID { handle := s.nextHandle, state := state }) where
  known id sess lookup := by
    rcases insert_eq_some lookup with ⟨_, rfl⟩ | ⟨_, absent⟩
    · exact Nat.lt_succ_self _
    · cases absent
  distinct id sess other found lookup lookupOther _ := by
    rcases insert_eq_some lookup with ⟨rfl, _⟩ | ⟨_, absent⟩
    · rcases insert_eq_some lookupOther with ⟨rfl, _⟩ | ⟨_, absent⟩
      · rfl
      · cases absent
    · cases absent
  chunks id sess lookup := by
    rcases insert_eq_some lookup with ⟨_, rfl⟩ | ⟨_, absent⟩
    · change [] = lastOf maxBufferedChunks (s.appended s.nextHandle)
      rw [faithful.fresh s.nextHandle (Nat.le_refl _)]
      rfl
    · cases absent
  subscribers id member := absurd member (Finset.notMem_empty id)

theorem create (faithful : s.Faithful) (buffered : s.Buffered group) (sessionID : String)
    (state : State) :
    (s.launch (.create sessionID) state).Buffered
      (group.add sessionID { handle := s.nextHandle, state := state }) where
  known id sess lookup := by
    rcases insert_eq_some lookup with ⟨_, rfl⟩ | ⟨_, before⟩
    · exact Nat.lt_succ_self _
    · exact Nat.lt_succ_of_lt (buffered.known id sess before)
  distinct id sess other found lookup lookupOther same := by
    rcases insert_eq_some lookup with ⟨rfl, rfl⟩ | ⟨_, before⟩
    · rcases insert_eq_some lookupOther with ⟨rfl, _⟩ | ⟨_, old⟩
      · rfl
      · have earlier := buffered.known other found old
        exact absurd same (Nat.ne_of_gt earlier)
    · rcases insert_eq_some lookupOther with ⟨rfl, rfl⟩ | ⟨_, old⟩
      · have earlier := buffered.known id sess before
        exact absurd same (Nat.ne_of_lt earlier)
      · exact buffered.distinct id sess other found before old same
  chunks id sess lookup := by
    rcases insert_eq_some lookup with ⟨_, rfl⟩ | ⟨_, before⟩
    · change [] = lastOf maxBufferedChunks (s.appended s.nextHandle)
      rw [faithful.fresh s.nextHandle (Nat.le_refl _)]
      rfl
    · exact buffered.chunks id sess before
  subscribers := buffered.subscribers

theorem subset (buffered : s.Buffered group) {rest : Group}
    (sessions : ∀ id sess, rest.sessions id = some sess → group.sessions id = some sess)
    (subscribers : rest.subscribers = group.subscribers) : s.Buffered rest where
  known id sess lookup := buffered.known id sess (sessions id sess lookup)
  distinct id sess other found lookup lookupOther :=
    buffered.distinct id sess other found (sessions id sess lookup)
      (sessions other found lookupOther)
  chunks id sess lookup := buffered.chunks id sess (sessions id sess lookup)
  subscribers := by
    rw [subscribers]
    exact buffered.subscribers

theorem same (buffered : s.Buffered group) (handles : next.nextHandle = s.nextHandle)
    (appended : next.appended = s.appended) (subscribers : s.nextSubscriber ≤ next.nextSubscriber) :
    next.Buffered group := by
  refine ⟨handles ▸ buffered.known, buffered.distinct, appended ▸ buffered.chunks, ?_⟩
  intro id mem
  exact (buffered.subscribers id mem).trans_le subscribers

theorem activate (buffered : s.Buffered group) (sessionID : String) :
    s.Buffered (if (group.sessions sessionID).isSome then group.activate sessionID else group) := by
  split
  · exact buffered.subset (fun _ _ lookup => lookup) rfl
  · exact buffered

theorem remove (buffered : s.Buffered group) (sessionID : String) :
    s.Buffered (group.remove sessionID) :=
  buffered.subset (fun _ _ lookup => (erase_eq_some lookup).2) rfl

end Buffered

/-- Of the subscribers that still wait, none has got anything. -/
theorem Delivering.still {delivery : Delivery} (before : s.Delivering handle delivery)
    {waiting : Finset Nat} (subset : waiting ⊆ delivery.waiting)
    (subscribers : s.nextSubscriber ≤ next.nextSubscriber)
    (appended : next.appended handle = s.appended handle)
    (old : ∀ id ∈ waiting, ∀ found source, next.feeds id = some found →
      found.source = some source → ∃ feed, s.feeds id = some feed ∧ feed.source = some source ∧
        found.got = feed.got) :
    next.Delivering handle { delivery with waiting := waiting } where
  waiting id mem := (before.waiting id (subset mem)).trans_le subscribers
  own id mem found source lookup isSource := by
    rcases old id mem found source lookup isSource with ⟨feed, isFeed, sameSource, _⟩
    exact before.own id (subset mem) feed source isFeed sameSource
  last someWait := by
    rcases Finset.nonempty_iff_ne_empty.mpr someWait with ⟨one, isOne⟩
    rcases before.last (Finset.ne_empty_of_mem (subset isOne)) with ⟨earlier, log, parts⟩
    refine ⟨earlier, appended.trans log, ?_⟩
    intro id mem found source lookup isSource
    rcases old id mem found source lookup isSource with ⟨feed, isFeed, sameSource, got⟩
    rw [got]
    exact parts id (subset mem) feed source isFeed sameSource

namespace Faithful

section

variable (faithful : s.Faithful)
include faithful

theorem change_group {after : Option Group} {due : Finset Nat}
    (group : ∀ group, after = some group → s.Buffered group) :
    Faithful { s with group := after, due := due } where
  group found same := (group found same).same rfl rfl (Nat.le_refl _)
  fresh := faithful.fresh
  numbered := faithful.numbered
  unknown := faithful.unknown
  delivering handle delivery isDelivery :=
    (faithful.delivering handle delivery isDelivery).still (Finset.Subset.refl _) (Nat.le_refl _)
      rfl fun _ _ found _ lookup isSource => ⟨found, lookup, isSource, rfl⟩
  sourced := faithful.sourced
  got := faithful.got

theorem launch {change : Session → GroupChange} {state : State}
    (group : ∀ group, (s.launch change state).group = some group →
      (s.launch change state).Buffered group) : (s.launch change state).Faithful where
  group := group
  fresh handle later := faithful.fresh handle (Nat.le_of_succ_le later)
  numbered := faithful.numbered
  unknown := faithful.unknown
  delivering handle delivery isDelivery :=
    (faithful.delivering handle delivery isDelivery).still (Finset.Subset.refl _) (Nat.le_refl _)
      rfl fun _ _ found _ lookup isSource => ⟨found, lookup, isSource, rfl⟩
  sourced := faithful.sourced
  got := faithful.got

theorem start_session (sessionID : String) (state : State) :
    (s.launch (.start sessionID) state).Faithful := by
  apply faithful.launch
  intro group same
  cases same
  exact Buffered.start faithful sessionID state

theorem create_session (sessionID : String) (state : State) :
    (s.launch (.create sessionID) state).Faithful := by
  apply faithful.launch
  intro group same
  rcases map_eq_some_iff.mp same with ⟨old, lookup, rfl⟩
  exact Buffered.create faithful (faithful.group old lookup) sessionID state

theorem set_active_session (sessionID : String) :
    (s.regroup (.setActiveSession sessionID)).Faithful := by
  apply faithful.change_group
  intro group same
  rcases map_eq_some_iff.mp same with ⟨old, lookup, rfl⟩
  exact (faithful.group old lookup).activate sessionID

theorem close_widget_session (sessionID : String) :
    (s.regroup (.closeWidgetSession sessionID)).Faithful := by
  apply faithful.change_group
  intro group same
  rcases bind_eq_some_iff.mp same with ⟨old, lookup, changed⟩
  have buffered := faithful.group old lookup
  split at changed
  · split at changed
    · cases changed
    · cases changed
      exact buffered.remove sessionID
  · cases changed
    exact buffered

end

variable {feed : Feed}

section

variable {sess : Session}

section

variable (data : String) (now : Nat)
include data now

theorem appended_output_self :
    (s.output group sessionID sess data now).appended sess.handle =
      s.appended sess.handle ++ [(appendChunk sess data now).1] := if_pos rfl

theorem appended_output_of_ne (ne : handle ≠ sess.handle) :
    (s.output group sessionID sess data now).appended handle = s.appended handle :=
  if_neg ne

theorem append_chunk_handle : (appendChunk sess data now).2.handle = sess.handle := rfl

theorem sublist_output {entries : List OutputChunk} (part : entries.Sublist (s.appended handle)) :
    entries.Sublist ((s.output group sessionID sess data now).appended handle) := by
  by_cases same : handle = sess.handle
  · subst same
    rw [appended_output_self]
    exact part.trans (sublist_append_left _ _)
  · rw [appended_output_of_ne data now same]
    exact part

end

theorem buffered_output (buffered : s.Buffered group)
    (lookup : group.sessions sessionID = some sess) (data : String) (now : Nat) :
    (s.output group sessionID sess data now).Buffered
      (group.update sessionID (appendChunk sess data now).2) where
  known id found lookupID := by
    rcases insert_eq_some lookupID with ⟨_, rfl⟩ | ⟨_, before⟩
    · exact buffered.known sessionID sess lookup
    · exact buffered.known id found before
  distinct id found other foundOther lookupID lookupOther same := by
    rcases insert_eq_some lookupID with ⟨rfl, rfl⟩ | ⟨_, before⟩
    · rcases insert_eq_some lookupOther with ⟨rfl, _⟩ | ⟨_, old⟩
      · rfl
      · exact buffered.distinct id sess other foundOther lookup old same
    · rcases insert_eq_some lookupOther with ⟨rfl, rfl⟩ | ⟨_, old⟩
      · exact buffered.distinct id found other sess before lookup same
      · exact buffered.distinct id found other foundOther before old same
  chunks id found lookupID := by
    rcases insert_eq_some lookupID with ⟨_, rfl⟩ | ⟨ne, before⟩
    · rw [append_chunk_chunks, buffered.chunks sessionID sess lookup, last_of_append,
        append_chunk_handle, appended_output_self]
    have otherHandle : found.handle ≠ sess.handle := by
      intro same
      exact ne (buffered.distinct id found sessionID sess before lookup same)
    rw [appended_output_of_ne data now otherHandle]
    exact buffered.chunks id found before
  subscribers := buffered.subscribers

theorem sources_agree (lookup : group.sessions sessionID = some sess)
    (isGroup : s.group = some group) {data : String} {now : Nat}
    (allowed : sourcesAgree s (.output sessionID sess.handle data now) = true)
    (isActive : group.activeSessionID = sessionID) (mem : id ∈ group.subscribers)
    (isFeed : s.feeds id = some feed) {source : Nat} (isSource : feed.source = some source) :
    source = sess.handle := by
  rw [sourcesAgree, isGroup] at allowed
  have cases := of_decide_eq_true allowed
  rw [lookup] at cases
  rcases cases with otherHandle | inactive | agree
  · exact absurd rfl otherHandle
  · exact absurd isActive inactive
  · have holds := agree id mem
    rw [isFeed, bind_some, isSource] at holds
    exact of_decide_eq_true holds

theorem output (faithful : s.Faithful) (isGroup : s.group = some group)
    (lookup : group.sessions sessionID = some sess) (data : String) (now : Nat)
    (allowed : sourcesAgree s (.output sessionID sess.handle data now) = true) :
    (s.output group sessionID sess data now).Faithful := by
  have buffered := faithful.group group isGroup
  have isKnown := buffered.known sessionID sess lookup
  have number : (appendChunk sess data now).1.seq = (s.appended sess.handle).length + 1 :=
    next_seq_of_last (buffered.chunks sessionID sess lookup) (faithful.numbered sess.handle)
  exact
    { group := by
        intro found same
        cases same
        exact buffered_output buffered lookup data now
      fresh := by
        intro handle later
        have ne : handle ≠ sess.handle := by
          have bound : s.nextHandle ≤ handle := later
          omega
        rw [appended_output_of_ne data now ne]
        exact faithful.fresh handle later
      numbered := by
        intro handle
        by_cases same : handle = sess.handle
        · subst same
          rw [appended_output_self]
          exact (faithful.numbered sess.handle).append number
        · rw [appended_output_of_ne data now same]
          exact faithful.numbered handle
      unknown := faithful.unknown
      delivering := by
        intro handle delivery isDelivery
        rcases insert_eq_some isDelivery with ⟨rfl, rfl⟩ | ⟨ne, old⟩
        · have registered : ∀ id ∈ (if group.activeSessionID = sessionID then group.subscribers
              else ∅), group.activeSessionID = sessionID ∧ id ∈ group.subscribers := by
            intro id mem
            split at mem
            next isActive => exact ⟨isActive, mem⟩
            · exact absurd mem (Finset.notMem_empty id)
          refine ⟨?_, ?_, ?_⟩
          · intro id mem
            exact buffered.subscribers id (registered id mem).2
          · intro id mem feed source isFeed isSource
            rcases registered id mem with ⟨isActive, listed⟩
            exact sources_agree lookup isGroup allowed isActive listed isFeed isSource
          intro _
          refine ⟨s.appended sess.handle, appended_output_self data now, ?_⟩
          intro id mem feed source isFeed isSource
          rcases registered id mem with ⟨isActive, listed⟩
          have agrees := sources_agree lookup isGroup allowed isActive listed isFeed isSource
          subst agrees
          exact faithful.got id feed _ isFeed isSource
        · have before := faithful.delivering handle delivery old
          refine ⟨before.waiting, before.own, ?_⟩
          rw [appended_output_of_ne data now ne]
          exact before.last
      sourced := faithful.sourced
      got := by
        intro id feed source isFeed isSource
        exact sublist_output data now (faithful.got id feed source isFeed isSource) }

end

section

variable (faithful : s.Faithful)
include faithful

theorem put {after : Subscriber} (isFeed : s.feeds id = some feed)
    (sameSnapshot : after.snapshot = feed.subscriber.snapshot)
    (sameGot : Feed.got { feed with subscriber := after } = feed.got) :
    (s.put id feed after).Faithful where
  group group isGroup := (faithful.group group isGroup).same rfl rfl (Nat.le_refl _)
  fresh := faithful.fresh
  numbered := faithful.numbered
  unknown other found lookup := by
    rcases insert_eq_some lookup with ⟨rfl, rfl⟩ | ⟨_, old⟩
    · exact faithful.unknown other feed isFeed
    · exact faithful.unknown other found old
  delivering handle delivery isDelivery := by
    have before := faithful.delivering handle delivery isDelivery
    refine before.still (Finset.Subset.refl _) (Nat.le_refl _) rfl ?_
    intro other _ found source lookup isSource
    rcases insert_eq_some lookup with ⟨rfl, rfl⟩ | ⟨_, old⟩
    · exact ⟨feed, isFeed, isSource, sameGot⟩
    · exact ⟨found, old, isSource, rfl⟩
  sourced other found lookup hasSnapshot := by
    rcases insert_eq_some lookup with ⟨rfl, rfl⟩ | ⟨_, old⟩
    · exact faithful.sourced other feed isFeed (sameSnapshot ▸ hasSnapshot)
    · exact faithful.sourced other found old hasSnapshot
  got other found source lookup isSource := by
    rcases insert_eq_some lookup with ⟨rfl, rfl⟩ | ⟨_, old⟩
    · rw [sameGot]
      exact faithful.got other feed source isFeed isSource
    · exact faithful.got other found source old isSource

theorem receive {after : Subscriber} (isFeed : s.feeds id = some feed)
    (received : feed.subscriber.receive = some after) : (s.put id feed after).Faithful := by
  unfold Subscriber.receive at received
  split at received
  · cases received
  next chunk rest queue =>
    cases received
    refine faithful.put isFeed rfl ?_
    rw [Feed.got, Feed.got, queue]
    simp only [append_assoc, singleton_append]

theorem unsubscribe (id : Nat) : (s.unsubscribe id).Faithful := by
  apply faithful.change_group
  intro group same
  rcases map_eq_some_iff.mp same with ⟨old, lookup, rfl⟩
  have buffered := faithful.group old lookup
  refine ⟨buffered.known, buffered.distinct, buffered.chunks, ?_⟩
  intro other mem
  exact buffered.subscribers other (Finset.mem_of_mem_erase mem)

theorem register (isGroup : s.group = some group) (due : Finset Nat)
    (sourced : feed.subscriber.snapshot.isSome = true → ∃ source, feed.source = some source)
    (got : ∀ source, feed.source = some source → feed.got.Sublist (s.appended source)) :
    Faithful { s.register group feed with due := due } where
  group found same := by
    cases same
    have buffered := faithful.group group isGroup
    refine ⟨buffered.known, buffered.distinct, buffered.chunks, ?_⟩
    intro id mem
    rcases Finset.mem_insert.mp mem with rfl | old
    · exact Nat.lt_succ_self _
    · exact Nat.lt_succ_of_lt (buffered.subscribers id old)
  fresh := faithful.fresh
  numbered := faithful.numbered
  unknown id found lookup := by
    rcases insert_eq_some lookup with ⟨rfl, _⟩ | ⟨_, old⟩
    · exact Nat.lt_succ_self _
    · exact Nat.lt_succ_of_lt (faithful.unknown id found old)
  delivering handle delivery isDelivery := by
    have before := faithful.delivering handle delivery isDelivery
    refine before.still (Finset.Subset.refl _) (Nat.le_succ _) rfl ?_
    intro id mem found source lookup isSource
    rcases insert_eq_some lookup with ⟨rfl, _⟩ | ⟨_, old⟩
    · exact absurd (before.waiting _ mem) (Nat.lt_irrefl _)
    · exact ⟨found, old, isSource, rfl⟩
  sourced id found lookup hasSnapshot := by
    rcases insert_eq_some lookup with ⟨rfl, rfl⟩ | ⟨_, old⟩
    · exact sourced hasSnapshot
    · exact faithful.sourced id found old hasSnapshot
  got id found source lookup isSource := by
    rcases insert_eq_some lookup with ⟨rfl, rfl⟩ | ⟨_, old⟩
    · exact got source isSource
    · exact faithful.got id found source old isSource

end

theorem active_session_lookup {sess : Session} (found : activeGroupSession group = .ok sess) :
    ∃ id, group.sessions id = some sess := by
  unfold activeGroupSession at found
  dsimp only at found
  split at found
  · cases found
  split at found
  · cases found
  next current lookup =>
    cases found
    exact ⟨_, lookup⟩

theorem snapshot_and_subscribe (faithful : s.Faithful) (isGroup : s.group = some group)
    (start : Nat) : (s.snapshotAndSubscribe group start).Faithful := by
  unfold Feeds.snapshotAndSubscribe snapshotFromGroup
  cases found : activeGroupSession group with
  | error err => exact faithful.register isGroup _ nofun nofun
  | ok sess =>
    rcases active_session_lookup found with ⟨id, lookup⟩
    refine faithful.register isGroup s.due (fun _ => ⟨sess.handle, rfl⟩) ?_
    intro source same
    cases same
    rw [Feed.got, append_nil, append_nil]
    have chunks := (faithful.group group isGroup).chunks id sess lookup
    have buffer : sess.chunks.Sublist (s.appended sess.handle) := by
      rw [chunks]
      exact drop_sublist _ _
    exact filter_sublist.trans buffer

section

variable {delivery : Delivery}

theorem got_deliver {before : List OutputChunk} (chunk : OutputChunk)
    (parts : feed.got.Sublist before) :
    (Feed.got { feed with subscriber := feed.subscriber.deliver chunk }).Sublist
      (before ++ [chunk]) := by
  have unchanged := parts.trans (sublist_append_left before [chunk])
  unfold Subscriber.deliver
  split
  · exact unchanged
  split
  · have extended := parts.append (List.Sublist.refl [chunk])
    rw [Feed.got] at extended ⊢
    simpa only [append_assoc] using extended
  · exact unchanged

theorem deliver (faithful : s.Faithful) (isDelivery : s.deliveries handle = some delivery)
    (isFeed : s.feeds id = some feed) (isWaiting : id ∈ delivery.waiting) :
    (s.deliver handle delivery id feed).Faithful := by
  have delivering := faithful.delivering handle delivery isDelivery
  rcases delivering.last (Finset.ne_empty_of_mem isWaiting) with ⟨earlier, log, parts⟩
  have snapshot : ∀ chunk, (feed.subscriber.deliver chunk).snapshot =
      feed.subscriber.snapshot := Streams.Ordered.snapshot_deliver
  exact
    { group := fun group isGroup => (faithful.group group isGroup).same rfl rfl (Nat.le_refl _)
      fresh := faithful.fresh
      numbered := faithful.numbered
      unknown := by
        intro other found lookup
        rcases insert_eq_some lookup with ⟨rfl, rfl⟩ | ⟨_, old⟩
        · exact faithful.unknown other feed isFeed
        · exact faithful.unknown other found old
      delivering := by
        intro other found isOther
        rcases insert_eq_some isOther with ⟨rfl, rfl⟩ | ⟨ne, old⟩
        · -- The subscriber does not wait any more, and the others have got nothing.
          refine delivering.still (Finset.erase_subset _ _) (Nat.le_refl _) rfl ?_
          intro waits mem found source lookup isSource
          rcases insert_eq_some lookup with ⟨rfl, _⟩ | ⟨_, same⟩
          · exact absurd mem (Finset.notMem_erase _ _)
          · exact ⟨found, same, isSource, rfl⟩
        -- A subscriber of this session waits for no other one.
        have before := faithful.delivering other found old
        refine before.still (Finset.Subset.refl _) (Nat.le_refl _) rfl ?_
        intro waits mem got source lookup isSource
        rcases insert_eq_some lookup with ⟨rfl, rfl⟩ | ⟨_, same⟩
        · have here := delivering.own waits isWaiting feed source isFeed isSource
          have there := before.own waits mem feed source isFeed isSource
          exact absurd (there.symm.trans here) ne
        · exact ⟨got, same, isSource, rfl⟩
      sourced := by
        intro other found lookup hasSnapshot
        rcases insert_eq_some lookup with ⟨rfl, rfl⟩ | ⟨_, old⟩
        · exact faithful.sourced other feed isFeed (snapshot delivery.chunk ▸ hasSnapshot)
        · exact faithful.sourced other found old hasSnapshot
      got := by
        intro other found source lookup isSource
        rcases insert_eq_some lookup with ⟨rfl, rfl⟩ | ⟨_, old⟩
        · have own := delivering.own other isWaiting feed source isFeed isSource
          subst own
          change List.Sublist _ (s.appended source)
          rw [log]
          exact got_deliver delivery.chunk (parts other isWaiting feed source isFeed isSource)
        · exact faithful.got other found source old isSource }

end

theorem step (faithful : s.Faithful) {action : FeedAction}
    (taken : guarded sourcesAgree feedStep s action = some next) : next.Faithful := by
  rcases guarded_eq_some.mp taken with ⟨allowed, stepped⟩
  cases action with
  | startSession sessionID state =>
    cases stepped
    exact faithful.start_session sessionID state
  | createSession sessionID state =>
    cases stepped
    exact faithful.create_session sessionID state
  | setActiveSession sessionID =>
    cases stepped
    exact faithful.set_active_session sessionID
  | closeWidgetSession sessionID =>
    cases stepped
    exact faithful.close_widget_session sessionID
  | closeSession =>
    cases stepped
    exact faithful.change_group nofun
  | output sessionID handle data now =>
    rw [feedStep] at stepped
    split at stepped
    · cases stepped
    split at stepped
    · cases stepped
      exact faithful
    next group isGroup =>
      split at stepped
      · cases stepped
        exact faithful
      next sess lookup =>
        split at stepped
        · cases stepped
          exact faithful
        next same =>
          cases stepped
          obtain rfl := not_not.mp same
          exact faithful.output isGroup lookup data now allowed
  | deliver handle id =>
    rw [feedStep] at stepped
    split at stepped
    next delivery feed isDelivery isFeed =>
      split at stepped
      next isWaiting =>
        cases stepped
        exact faithful.deliver isDelivery isFeed isWaiting
      · cases stepped
    · cases stepped
  | subscribe =>
    cases stepped
    cases isGroup : s.group with
    | none => exact faithful
    | some group => exact faithful.register isGroup s.due nofun nofun
  | snapshotAndSubscribe start =>
    cases stepped
    cases isGroup : s.group with
    | none => exact faithful
    | some group => exact faithful.snapshot_and_subscribe isGroup start
  | unsubscribe id =>
    rw [feedStep] at stepped
    split at stepped
    · cases stepped
      exact faithful.unsubscribe id
    · cases stepped
  | close id =>
    rw [feedStep] at stepped
    split at stepped
    · rcases map_eq_some_iff.mp stepped with ⟨feed, isFeed, rfl⟩
      exact faithful.put isFeed rfl rfl
    · cases stepped
  | receive id =>
    rcases bind_eq_some_iff.mp stepped with ⟨feed, isFeed, mapped⟩
    rcases map_eq_some_iff.mp mapped with ⟨after, received, rfl⟩
    exact faithful.receive isFeed received

theorem initial : Feeds.Faithful {} where
  group _ same := by cases same
  fresh _ _ := rfl
  numbered _ := numbered_nil
  unknown _ _ lookup := by cases lookup
  delivering _ _ isDelivery := by cases isDelivery
  sourced _ _ lookup := by cases lookup
  got _ _ _ lookup := by cases lookup

end Faithful

end Feeds

/-- In a run in which the sessions that give output are those of the snapshots, what a subscriber
with a snapshot got is part of the output of one session object, in increasing numbers. -/
theorem stream_carries_one_session {s : Feeds}
    (reachable : Reachable (· = {}) (guarded sourcesAgree feedStep) s) : ∀ id feed snapshot,
    s.feeds id = some feed → feed.subscriber.snapshot = some snapshot → ∃ source, feed.source =
    some source ∧ (snapshot.chunks ++ feed.subscriber.received).Sublist (s.appended source) ∧
    ((snapshot.chunks ++ feed.subscriber.received).map OutputChunk.seq).Pairwise (· < ·) := by
  have faithful : s.Faithful := by
    apply reachable.invariant
    · rintro first rfl
      exact Feeds.Faithful.initial
    · intro before action after isFaithful taken
      exact isFaithful.step taken
  intro id feed snapshot isFeed isSnapshot
  have hasSnapshot : feed.subscriber.snapshot.isSome = true := by
    rw [isSnapshot]
    rfl
  rcases faithful.sourced id feed isFeed hasSnapshot with ⟨source, isSource⟩
  have got := faithful.got id feed source isFeed isSource
  rw [Feed.got, isSnapshot] at got
  have received : (snapshot.chunks ++ feed.subscriber.received).Sublist (s.appended source) := by
    have front := (sublist_append_left feed.subscriber.received feed.subscriber.queue)
    exact (front.append_left snapshot.chunks).trans got
  exact ⟨source, isSource, received, (faithful.numbered source).sublist_increasing received⟩

def feedState (sessionID : String) : State :=
  launchedState "sh" { widgetID := "term" } sessionID 7 0

def oneStream : List FeedAction :=
  [.startSession "term" (feedState "term"), .output "term" 0 "a" 1, .snapshotAndSubscribe 0,
    .output "term" 0 "b" 2, .deliver 0 0, .receive 0, .unsubscribe 0,
    .createSession "two" (feedState "two"), .output "two" 1 "c" 3]

theorem stream_carries_one_session_left :
    ∃ s feed snapshot, Reachable (· = {}) (guarded sourcesAgree feedStep) s ∧
      s.feeds 0 = some feed ∧ feed.subscriber.snapshot = some snapshot ∧
      (snapshot.chunks ++ feed.subscriber.received).map OutputChunk.data = ["a", "b"] ∧
      ((snapshot.chunks ++ feed.subscriber.received).map OutputChunk.seq).Pairwise (· < ·) := by
  have ran : (runActions (guarded sourcesAgree feedStep) {} oneStream).map (fun s =>
      (s.feeds 0).bind (fun feed => feed.subscriber.snapshot.map fun snapshot =>
        (snapshot.chunks ++ feed.subscriber.received).map OutputChunk.data) ==
          some ["a", "b"]) = some true := by
    decide +kernel
  rcases @reachable_of_run _ _ (· = {}) _ _ rfl _ _ ran with ⟨s, reachable, tested⟩
  rcases bind_eq_some_iff.mp (beq_iff_eq.mp tested) with ⟨feed, isFeed, mapped⟩
  rcases map_eq_some_iff.mp mapped with ⟨snapshot, isSnapshot, data⟩
  rcases stream_carries_one_session reachable 0 feed snapshot isFeed isSnapshot with
    ⟨_, _, _, increasing⟩
  exact ⟨s, feed, snapshot, reachable, isFeed, isSnapshot, data, increasing⟩

def mixedStream : List FeedAction :=
  [.startSession "term" (feedState "term"), .output "term" 0 "a" 1, .snapshotAndSubscribe 0,
    .createSession "two" (feedState "two"), .output "two" 1 "b" 2, .deliver 1 0, .receive 0]

/-- The subscriber gets the first chunk of the new session after that of its own one. -/
theorem stream_mixes_two_sessions : ¬ ∀ s, Reachable (· = {}) feedStep s → ∀ id feed snapshot,
    s.feeds id = some feed → feed.subscriber.snapshot = some snapshot → ∃ source, feed.source =
    some source ∧ (snapshot.chunks ++ feed.subscriber.received).Sublist (s.appended source) ∧
    ((snapshot.chunks ++ feed.subscriber.received).map OutputChunk.seq).Pairwise (· < ·) := by
  intro always
  have ran : (runActions feedStep {} mixedStream).map (fun s =>
      (s.feeds 0).bind (fun feed => feed.subscriber.snapshot.map fun snapshot =>
        (snapshot.chunks ++ feed.subscriber.received).map OutputChunk.seq) ==
          some [1, 1]) = some true := by
    decide +kernel
  rcases @reachable_of_run _ _ (· = {}) _ _ rfl _ _ ran with ⟨s, reachable, tested⟩
  rcases bind_eq_some_iff.mp (beq_iff_eq.mp tested) with ⟨feed, isFeed, mapped⟩
  rcases map_eq_some_iff.mp mapped with ⟨snapshot, isSnapshot, numbers⟩
  rcases always s reachable 0 feed snapshot isFeed isSnapshot with ⟨_, _, _, increasing⟩
  rw [numbers] at increasing
  exact absurd increasing (by decide)

end RuneTerminal.Terminal
