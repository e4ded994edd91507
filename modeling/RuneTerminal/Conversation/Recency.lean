import RuneTerminal.Conversation.Timestamps
import RuneTerminal.Kit.Table

/-! Sections that change a row read the clock, or take the time of a message made before. What is
changed in between has a later time, and the list is ordered by the older one. -/

namespace RuneTerminal.Conversation

open Go.Strings Kit List ConversationRecord Database

def Action.times : Action → List Nat
  | .begin _ _ _ times => times
  | .append _ => []
  | .delta _ _ now => [now]
  | .finish _ _ _ _ => []
  | .create _ now => [now]
  | .rename _ _ now => [now]
  | .delete _ _ now => [now]
  | .archive _ _ now => [now]
  | .restore _ now => [now]
  | .updatePreferences _ _ now => [now]
  | .activate _ => []

def Action.caller : Action → Option Nat
  | .begin call _ _ _ => some call
  | .append call => some call
  | .delta call _ _ => some call
  | .finish call _ _ _ => some call
  | _ => none

def System.targets (s : System) : Action → List String
  | .append call =>
    match s.calls call with
    | .appending conversationID _ _ => [trimSpace conversationID]
    | _ => []
  | .finish call _ _ _ =>
    match s.calls call with
    | .completing conversationID _ => [conversationID]
    | .streaming conversationID _ _ => [conversationID]
    | _ => []
  | .create newID _ => [newID]
  | .rename conversationID _ _ => [trimSpace conversationID]
  | .delete _ newID _ => [newID]
  | .archive conversationID newID _ => [trimSpace conversationID, newID]
  | .restore conversationID _ => [trimSpace conversationID]
  | .updatePreferences conversationID _ _ => [trimSpace conversationID]
  | _ => []

/-- The service under a clock. `made` are the times at which completions made their messages,
`begun` the requests so far, and `changed` the number of the step that last changed a conversation,
or 0. -/
structure Clocked where
  system : System
  clock : Nat
  made : Table Nat Nat := Table.empty
  begun : List Nat := []
  changed : String → Nat := fun _ => 0
  steps : Nat := 0

inductive ClockedAction where
  | make (call now : Nat)
  | run (action : Action)

/-- An action reads the clock as it is or later, and a completion stores the message that
it has made. -/
def Clocked.timely (s : Clocked) (action : Action) : Bool :=
  decide ((s.clock :: action.times).Pairwise (· ≤ ·)) &&
    match action with
    | .finish call _ _ now =>
      match s.system.calls call with
      | .completing _ _ => decide (s.made call = some now)
      | _ => true
    | _ => true

def Clocked.advance (s : Clocked) (action : Action) (next : System) : Clocked where
  system := next
  clock := action.times.getLastD s.clock
  made := s.made
  begun :=
    match action with
    | .begin call _ _ _ => call :: s.begun
    | _ => s.begun
  changed conversationID :=
    if conversationID ∈ s.system.targets action ∧ next.store.db ≠ s.system.store.db then
      s.steps + 1
    else s.changed conversationID
  steps := s.steps + 1

def clockedStep (env : Environment) (s : Clocked) : ClockedAction → Option Clocked
  | .make call now =>
    match s.system.calls call with
    | .completing _ _ =>
      if s.made call = none ∧ s.clock ≤ now then
        some { s with clock := now, made := s.made.insert call now }
      else none
    | _ => none
  | .run action =>
    if s.timely action then (step env s.system action).map (s.advance action) else none

/-- No time of the tables is ahead of the clock. -/
structure Clocked.Initial (s : Clocked) : Prop where
  system : s.system.Initial
  past : ∀ record ∈ s.system.store.db.conversations, record.updatedAt ≤ s.clock
  made : s.made = Table.empty
  begun : s.begun = []
  changed : ∀ conversationID, s.changed conversationID = 0

def Clocked.holds (s : Clocked) (call : Nat) : Option String :=
  match s.system.calls call with
  | .appending conversationID _ _ => some (trimSpace conversationID)
  | .completing conversationID _ => (s.made call).map fun _ => conversationID
  | .streaming conversationID _ _ => some conversationID
  | _ => none

/-- A conversation is changed when no other request holds a message for it, or for any
conversation, and messages are stored when the clock has reached their times. -/
def undisturbed (everywhere : Bool) (s : Clocked) : ClockedAction → Bool
  | .make _ _ => true
  | .run action =>
    ((s.system.targets action).all fun conversationID =>
      s.begun.all fun call => action.caller = some call ||
        (s.holds call).all fun held => !(everywhere || held = conversationID)) &&
    match action with
    | .append call =>
      match s.system.calls call with
      | .appending _ messages _ => messages.all fun message => message.createdAt ≤ s.clock
      | _ => true
    | _ => true

/-- The rows of `listConversations`. -/
def Database.listConversations (db : Database) : List ConversationRecord :=
  db.conversations.mergeSort candidateOrder

theorem candidate_order_total (first second : ConversationRecord) :
    (candidateOrder first second || candidateOrder second first) = true := by
  simp only [candidateOrder]
  grind

theorem candidate_order_trans (first second third : ConversationRecord)
    (before : candidateOrder first second = true) (after : candidateOrder second third = true) :
    candidateOrder first third = true := by
  simp only [candidateOrder] at *
  grind

section

variable {env : Environment} {everywhere : Bool} {s next : Clocked} {held : String} {now : Nat}
  {db : Database}

def CallState.HoldsTime (db : Database) (made : Option Nat) (conversationID : String)
    (time : Nat) : CallState → Prop
  | .appending home messages _ =>
    conversationID = trimSpace home ∧
      ∃ last, messages.getLast? = some last ∧ last.createdAt = time
  | .completing home _ => conversationID = home ∧ made = some time
  | .streaming home messageID _ =>
    conversationID = home ∧ ∃ stored, db.HasTime stored messageID time
  | _ => False

def Clocked.Holds (s : Clocked) (call : Nat) (conversationID : String) (time : Nat) : Prop :=
  (s.system.calls call).HoldsTime s.system.store.db (s.made call) conversationID time

def Clocked.Stamped (s : Clocked) (conversationID : String) (time : Nat) : Prop :=
  ∃ record, s.system.store.db.loadConversationRecord conversationID = some record ∧
    record.updatedAt = time

def CallState.Filled : CallState → Prop
  | .appending _ messages following =>
    ∃ last, messages.getLast? = some last ∧
      ∀ messageID, following = .stream messageID → last.id = messageID
  | _ => True

def CallState.isAppending : CallState → Bool
  | .appending _ _ _ => true
  | _ => false

/-- What is stamped is past, and not ahead of a message that is held for it. -/
structure Timed (everywhere : Bool) (s : Clocked) : Prop where
  sound : Sound s.system
  remembers : Remembers s.system.store
  past : ∀ {conversationID time}, s.Stamped conversationID time → time ≤ s.clock
  begun : ∀ {call}, s.system.calls call ≠ .absent → call ∈ s.begun
  filled : ∀ call, (s.system.calls call).Filled
  made : ∀ {call}, s.made call ≠ none →
    (∃ conversationID allow, s.system.calls call = .completing conversationID allow) ∨
      ∃ err, s.system.calls call = .finished err
  held : ∀ {call held time}, s.Holds call held time → ∀ {conversationID stamp},
    s.Stamped conversationID stamp → everywhere = true ∨ held = conversationID → stamp ≤ time
  reached : ∀ {call held time}, s.Holds call held time →
    (s.system.calls call).isAppending = false → time ≤ s.clock
  counted : ∀ conversationID, s.changed conversationID ≤ s.steps
  ordered : everywhere = true → ∀ {first second early late}, s.Stamped first early →
    s.Stamped second late → s.changed first < s.changed second → early ≤ late

structure Written (everywhere : Bool) (s next : Clocked) (targets : List String)
    (stamp : Nat) (brought : List Message) : Prop where
  stamps : Stamps s.system.store next.system.store targets stamp brought
  ahead : ∀ {conversationID time}, s.Stamped conversationID time →
    conversationID ∈ targets ∨ everywhere = true ∧ targets ≠ [] → time ≤ stamp
  reached : targets ≠ [] → stamp ≤ next.clock

variable {call time : Nat}

theorem Clocked.Holds.holds (isHeld : s.Holds call held time) : s.holds call = some held := by
  unfold Clocked.Holds at isHeld
  unfold Clocked.holds
  cases isCall : s.system.calls call with
  | appending | streaming =>
    rw [isCall] at isHeld
    exact congrArg some isHeld.1.symm
  | completing home allow =>
    rw [isCall] at isHeld
    exact (congrArg (Option.map _) isHeld.2).trans (congrArg some isHeld.1.symm)
  | absent | finished =>
    rw [isCall] at isHeld
    exact isHeld.elim

theorem Clocked.Holds.begun (timed : Timed everywhere s) (isHeld : s.Holds call held time) :
    call ∈ s.begun := by
  apply timed.begun
  intro absent
  unfold Clocked.Holds at isHeld
  rw [absent] at isHeld
  exact isHeld

variable {action : Action} {conversationID : String}

theorem apart_of_undisturbed (timed : Timed everywhere s)
    (calm : undisturbed everywhere s (.run action) = true) (isHeld : s.Holds call held time)
    (other : action.caller ≠ some call) (isTarget : conversationID ∈ s.system.targets action) :
    ¬ (everywhere = true ∨ held = conversationID) := by
  simp only [undisturbed, Bool.and_eq_true, all_eq_true] at calm
  have here := calm.1 conversationID isTarget call (isHeld.begun timed)
  rw [isHeld.holds] at here
  simpa [other] using here

variable {targets : List String} {stamp : Nat} {brought : List Message}

theorem Written.records (written : Written everywhere s next targets stamp brought)
    (isStamped : next.Stamped conversationID time) : (conversationID ∈ targets ∧ time = stamp) ∨
    (conversationID ∉ targets ∧ s.Stamped conversationID time) := by
  obtain ⟨after, loaded, rfl⟩ := isStamped
  rcases written.stamps.records loaded with target | ⟨isOther, before, isBefore, same⟩
  · exact .inl target
  · exact .inr ⟨isOther, before, isBefore, same⟩

theorem Written.monotone (written : Written everywhere s next targets stamp brought)
    {before after : Nat} (isBefore : s.Stamped conversationID before)
    (isAfter : next.Stamped conversationID after) : before ≤ after := by
  rcases written.records isAfter with ⟨isTarget, rfl⟩ | ⟨_, unchanged⟩
  · exact written.ahead isBefore (.inl isTarget)
  obtain ⟨record, loaded, rfl⟩ := isBefore
  obtain ⟨again, loadedAgain, rfl⟩ := unchanged
  rw [loaded] at loadedAgain
  rw [Option.some.inj loadedAgain]

variable {after : System}

/-- A step of the service that disturbs no request. -/
structure Runs (env : Environment) (everywhere : Bool) (s : Clocked) (action : Action)
    (after : System) : Prop where
  timed : Timed everywhere s
  calm : undisturbed everywhere s (.run action) = true
  timely : s.timely action = true
  taken : step env s.system action = some after

/-- The conversations that an action is about, or none if it leaves the tables. -/
def Targets (s : Clocked) (action : Action) (after : System) (targets : List String) : Prop :=
  targets = s.system.targets action ∨ targets = [] ∧ after.store.db = s.system.store.db

theorem Runs.clock (runs : Runs env everywhere s action after) :
    s.clock ≤ action.times.getLastD s.clock ∧ ∀ time ∈ action.times, s.clock ≤ time := by
  have timely := runs.timely
  simp only [Clocked.timely, Bool.and_eq_true, decide_eq_true_eq, pairwise_cons] at timely
  refine ⟨?_, timely.1.1⟩
  rw [getLastD_eq_getLast?]
  cases isLast : action.times.getLast? with
  | none => exact Nat.le_refl _
  | some last => exact timely.1.1 last (mem_of_getLast? isLast)

theorem Runs.advance (runs : Runs env everywhere s action after)
    (isTarget : Targets s action after targets)
    (written : Written everywhere s (s.advance action after) targets stamp brought)
    (others : ∀ call, action.caller ≠ some call → after.calls call = s.system.calls call)
    (foreign : ∀ call, action.caller ≠ some call →
      ∀ message ∈ brought, message.id ∉ (s.system.calls call).ownIDs)
    (begun : ∀ call, after.calls call ≠ .absent →
      s.system.calls call ≠ .absent ∨ call ∈ (s.advance action after).begun)
    (filled : ∀ call, action.caller = some call → (after.calls call).Filled)
    (made : ∀ call, action.caller = some call → s.made call ≠ none →
      ∃ err, after.calls call = .finished err)
    (mine : ∀ {call held time}, action.caller = some call →
      (s.advance action after).Holds call held time →
      ∀ {conversationID stamp}, (s.advance action after).Stamped conversationID stamp →
        everywhere = true ∨ held = conversationID → stamp ≤ time)
    (reached : ∀ {call held time}, action.caller = some call →
      (s.advance action after).Holds call held time → (after.calls call).isAppending = false →
      time ≤ s.clock) :
    Timed everywhere (s.advance action after) := by
  have clock := runs.clock.1
  obtain ⟨timed, calm, _, taken⟩ := runs
  have unchanged (call : Nat) (isCaller : action.caller ≠ some call) :
      (s.advance action after).system.calls call = s.system.calls call := others call isCaller
  -- what another request holds is what it has held
  have before {call : Nat} {held : String} {time : Nat} (isCaller : action.caller ≠ some call)
      (isHeld : (s.advance action after).Holds call held time) : s.Holds call held time := by
    change (after.calls call).HoldsTime after.store.db (s.made call) held time at isHeld
    rw [others call isCaller] at isHeld
    unfold Clocked.Holds
    cases isCall : s.system.calls call with
    | streaming home messageID deltas =>
      rw [isCall] at isHeld
      obtain ⟨isHome, stored, hasTime⟩ := isHeld
      refine ⟨isHome, stored, ?_⟩
      rcases written.stamps.times hasTime with old | ⟨message, isBrought, rfl, _⟩
      · exact old
      · have apart := foreign call isCaller message isBrought
        rw [isCall] at apart
        exact absurd mem_cons_self apart
    | _ =>
      rw [isCall] at isHeld
      exact isHeld
  constructor
  · exact step_sound timed.sound taken
  · exact written.stamps.remembers timed.remembers
  · intro conversationID time isStamped
    rcases written.records isStamped with ⟨isTarget, rfl⟩ | ⟨_, unchanged⟩
    · exact written.reached (ne_nil_of_mem isTarget)
    · exact (timed.past unchanged).trans clock
  · intro call isCall
    rcases begun call isCall with before | now
    · have already := timed.begun before
      unfold Clocked.advance
      split
      · exact mem_cons_of_mem _ already
      · exact already
    · exact now
  · intro call
    by_cases isCaller : action.caller = some call
    · exact filled call isCaller
    · rw [unchanged call isCaller]
      exact timed.filled call
  · intro call isMade
    by_cases isCaller : action.caller = some call
    · exact .inr (made call isCaller isMade)
    · rw [unchanged call isCaller]
      exact timed.made isMade
  · intro call held time isHeld conversationID stampedTime isStamped related
    by_cases isCaller : action.caller = some call
    · exact mine isCaller isHeld isStamped related
    rcases written.records isStamped with ⟨isWritten, rfl⟩ | ⟨_, unchanged⟩
    · rcases isTarget with rfl | ⟨rfl, _⟩
      · exact absurd related (apart_of_undisturbed timed calm (before isCaller isHeld)
          isCaller isWritten)
      · cases isWritten
    · exact timed.held (before isCaller isHeld) unchanged related
  · intro call held time isHeld notAppending
    by_cases isCaller : action.caller = some call
    · exact (reached isCaller isHeld notAppending).trans clock
    · rw [unchanged call isCaller] at notAppending
      exact (timed.reached (before isCaller isHeld) notAppending).trans clock
  · intro conversationID
    unfold Clocked.advance
    dsimp only
    split_ifs
    · exact Nat.le_refl _
    · exact (timed.counted conversationID).trans (Nat.le_succ _)
  intro isEverywhere first second early late isFirst isSecond before
  have bound (conversationID : String) : s.changed conversationID < s.steps + 1 :=
    Nat.lt_succ_of_le (timed.counted conversationID)
  by_cases same : after.store.db = s.system.store.db
  · have unchanged (conversationID : String) :
        (s.advance action after).changed conversationID = s.changed conversationID :=
      if_neg fun both => both.2 same
    have stamped {conversationID : String} {time : Nat}
        (isStamped : (s.advance action after).Stamped conversationID time) :
        s.Stamped conversationID time := by
      obtain ⟨record, loaded, isTime⟩ := isStamped
      exact ⟨record, same ▸ loaded, isTime⟩
    rw [unchanged, unchanged] at before
    exact timed.ordered isEverywhere (stamped isFirst) (stamped isSecond) before
  obtain rfl := isTarget.resolve_right fun nothing => same nothing.2
  have written_now {conversationID : String}
      (mem : conversationID ∈ s.system.targets action) :
      (s.advance action after).changed conversationID = s.steps + 1 := if_pos ⟨mem, same⟩
  have kept {conversationID : String}
      (other : conversationID ∉ s.system.targets action) :
      (s.advance action after).changed conversationID = s.changed conversationID :=
    if_neg fun both => other both.1
  rcases written.records isFirst with ⟨mem, rfl⟩ | ⟨other, isFirst⟩
  · rw [written_now mem] at before
    rcases written.records isSecond with ⟨again, _⟩ | ⟨other, _⟩
    · rw [written_now again] at before
      exact absurd before (Nat.lt_irrefl _)
    · rw [kept other] at before
      exact absurd before (bound second).asymm
  · rcases written.records isSecond with ⟨mem, rfl⟩ | ⟨otherToo, isSecond⟩
    · exact written.ahead isFirst (.inr ⟨isEverywhere, ne_nil_of_mem mem⟩)
    · rw [kept other, kept otherToo] at before
      exact timed.ordered isEverywhere isFirst isSecond before

structure Follows (everywhere : Bool) (s next : Clocked) : Prop where
  timed : Timed everywhere next
  monotone : ∀ {conversationID before after}, s.Stamped conversationID before →
    next.Stamped conversationID after → before ≤ after

theorem written_nothing {after : Clocked} {stamp : Nat}
    (stamps : Stamps s.system.store after.system.store [] stamp []) :
    Written everywhere s after [] stamp [] where
  stamps := stamps
  ahead := by
    rintro id time _ (mem | ⟨_, nonempty⟩)
    · cases mem
    · exact absurd rfl nonempty
  reached nonempty := absurd rfl nonempty

theorem written_now {after : Clocked} (timed : Timed everywhere s)
    (stamps : Stamps s.system.store after.system.store targets stamp brought)
    (clock : s.clock ≤ stamp) (reached : targets ≠ [] → stamp ≤ after.clock) :
    Written everywhere s after targets stamp brought where
  stamps := stamps
  ahead isStamped _ := (timed.past isStamped).trans clock
  reached := reached

theorem same_stamps {store : Store} : Stamps store store [] stamp [] :=
  Stamps.of_same_records id id id

theorem no_call_follows (runs : Runs env everywhere s action after)
    (noCaller : action.caller = none) (calls : after.calls = s.system.calls)
    (isTarget : Targets s action after targets)
    (written : Written everywhere s (s.advance action after) targets stamp []) :
    Follows everywhere s (s.advance action after) := by
  have nobody {call : Nat} (isCaller : action.caller = some call) : False := by
    rw [noCaller] at isCaller
    cases isCaller
  refine ⟨?_, written.monotone⟩
  apply runs.advance isTarget written
  · intro call _
    rw [calls]
  · intro call _ message mem
    cases mem
  · intro call isCall
    rw [calls] at isCall
    exact .inl isCall
  · exact fun call isCaller => (nobody isCaller).elim
  · exact fun call isCaller => (nobody isCaller).elim
  · exact fun isCaller => (nobody isCaller).elim
  · exact fun isCaller => (nobody isCaller).elim

theorem quiet_follows {now : Nat} (runs : Runs env everywhere s action after)
    (noCaller : action.caller = none) (times : action.times = [now])
    (calls : after.calls = s.system.calls)
    (outcome : after.store = s.system.store ∨
      Stamps s.system.store after.store (s.system.targets action) now []) :
    Follows everywhere s (s.advance action after) := by
  have isClock : (s.advance action after).clock = now := by
    unfold Clocked.advance
    rw [times]
    rfl
  rcases outcome with same | stamps
  · apply @no_call_follows _ _ _ _ [] now _ runs noCaller calls (.inr ⟨rfl, congrArg _ same⟩)
    apply written_nothing
    change Stamps s.system.store after.store [] now []
    rw [same]
    exact same_stamps
  · apply no_call_follows runs noCaller calls (.inl rfl)
    apply written_now runs.timed stamps ?_ fun _ => isClock.ge
    exact runs.clock.2 now (by rw [times]; exact mem_cons_self)

theorem call_follows {call : Nat} {state : CallState} (runs : Runs env everywhere s action after)
    (isCaller : action.caller = some call) (isTarget : Targets s action after targets)
    (written : Written everywhere s (s.advance action after) targets stamp brought)
    (calls : after.calls = (s.system.setCall call state).calls)
    (known : s.system.calls call ≠ .absent ∨ call ∈ (s.advance action after).begun)
    (foreign : ∀ other, other ≠ call →
      ∀ message ∈ brought, message.id ∉ (s.system.calls other).ownIDs)
    (filled : state.Filled) (made : s.made call ≠ none → ∃ err, state = .finished err)
    (mine : ∀ {held time}, state.HoldsTime after.store.db (s.made call) held time →
      ∀ {conversationID stamp}, (s.advance action after).Stamped conversationID stamp →
        everywhere = true ∨ held = conversationID → stamp ≤ time)
    (reached : ∀ {held time}, state.HoldsTime after.store.db (s.made call) held time →
      state.isAppending = false → time ≤ s.clock) :
    Follows everywhere s (s.advance action after) := by
  have others {other : Nat} (notCaller : action.caller ≠ some other) : other ≠ call := by
    rintro rfl
    exact notCaller isCaller
  have here {other : Nat} (isOther : action.caller = some other) : other = call :=
    Option.some.inj (isOther.symm.trans isCaller)
  have mineState : after.calls call = state := by
    rw [calls, System.set_call_same]
  refine ⟨?_, written.monotone⟩
  apply runs.advance isTarget written
  · intro other notCaller
    rw [calls]
    exact System.set_call_other _ (others notCaller) state
  · intro other notCaller
    exact foreign other (others notCaller)
  · intro other isCall
    by_cases same : other = call
    · exact same ▸ known
    · rw [calls, System.set_call_other _ same state] at isCall
      exact .inl isCall
  · intro other isOther
    rw [here isOther, mineState]
    exact filled
  · intro other isOther isMade
    rw [here isOther] at isMade ⊢
    rw [mineState]
    exact made isMade
  · intro other held time isOther isHeld
    rw [here isOther] at isHeld
    change (after.calls call).HoldsTime after.store.db (s.made call) held time at isHeld
    rw [mineState] at isHeld
    exact mine isHeld
  · intro other held time isOther isHeld
    rw [here isOther] at isHeld ⊢
    change (after.calls call).HoldsTime after.store.db (s.made call) held time at isHeld
    rw [mineState] at isHeld ⊢
    exact reached isHeld

theorem finished_holds_nothing {err : Option ConversationError} {made : Option Nat} :
    ¬ (CallState.finished err).HoldsTime db made held time :=
  id

theorem refused_follows {call : Nat} {err : ConversationError}
    (runs : Runs env everywhere s action after) (isCaller : action.caller = some call)
    (known : s.system.calls call ≠ .absent) (store : after.store = s.system.store)
    (calls : after.calls = (s.system.setCall call (.finished (some err))).calls) :
    Follows everywhere s (s.advance action after) := by
  have stamps : Stamps s.system.store after.store [] 0 [] := by
    rw [store]
    exact same_stamps
  refine call_follows runs isCaller (.inr ⟨rfl, congrArg Store.db store⟩)
    (written_nothing stamps) calls (.inl known) ?_ trivial (fun _ => ⟨_, rfl⟩) ?_ ?_
  · intro other _ message mem
    cases mem
  · exact fun isHeld => absurd isHeld finished_holds_nothing
  · exact fun isHeld => absurd isHeld finished_holds_nothing

theorem Timed.not_made {state : CallState} (timed : Timed everywhere s)
    (isCall : s.system.calls call = state) (incomplete : ∀ id allow, state ≠ .completing id allow)
    (unfinished : ∀ err, state ≠ .finished err) : s.made call = none := by
  by_contra isMade
  rcases timed.made isMade with ⟨id, allow, other⟩ | ⟨err, other⟩
  · exact incomplete id allow (isCall.symm.trans other)
  · exact unfinished err (isCall.symm.trans other)

theorem start_messages {request : Request} {activeID : String} {newIDs : List String}
    {times : List Nat} {messages : List Message} {following : Continuation} {clock : Nat}
    (count : newIDs.length = request.idCount) (sameLength : times.length = newIDs.length)
    (late : ∀ time ∈ times, clock ≤ time)
    (starts : request.start activeID newIDs times = .appending conversationID messages following) :
    ∃ last, messages.getLast? = some last ∧ clock ≤ last.createdAt ∧
      ∀ messageID, following = .stream messageID → last.id = messageID := by
  cases request with
  | submit prompt systemPrompt attachments =>
    obtain ⟨time, rfl⟩ := length_eq_one_iff.mp (sameLength.trans count)
    simp only [Request.start] at starts
    split_ifs at starts
    cases starts
    exact ⟨_, rfl, late time mem_cons_self, by simp⟩
  | submitStream prompt systemPrompt attachments info =>
    obtain ⟨first, second, rfl⟩ := length_eq_two.mp (sameLength.trans count)
    simp only [Request.start] at starts
    split_ifs at starts
    cases starts
    refine ⟨_, rfl, late second (by simp), ?_⟩
    rintro messageID ⟨⟩
    rfl
  | appendAssistantPrompt prompt systemPrompt =>
    simp only [Request.start] at starts
    split_ifs at starts
  | appendMessages requests =>
    simp only [Request.start] at starts
    split_ifs at starts with isEmpty
    split at starts
    · cases starts
    next prepared isPrepared =>
      cases starts
      have sameIDs := prepared_ids count isPrepared
      have nonempty : messages ≠ [] := by
        rintro rfl
        have isCount : newIDs.length = requests.length := count
        rw [← sameIDs] at isCount
        exact isEmpty (isEmpty_iff.mpr (length_eq_zero_iff.mp isCount.symm))
      refine ⟨_, getLast?_eq_some_getLast nonempty, ?_, by simp⟩
      have member := getLast_mem nonempty
      unfold prepareMessages at isPrepared
      split_ifs at isPrepared
      cases isPrepared
      obtain ⟨⟨⟨prepared, newID⟩, index⟩, isZipped, made⟩ := mem_map.mp member
      rw [← made]
      have inside : index < times.length := by
        have bound := (mem_zipIdx isZipped).2.1
        rw [length_zip] at bound
        omega
      change clock ≤ times.getD index 0 + index
      rw [getD_eq_getElem?_getD, getElem?_eq_getElem inside]
      exact (late _ (getElem_mem inside)).trans (Nat.le_add_right _ _)

theorem begin_follows {request : Request} {newIDs : List String} {times : List Nat}
    (runs : Runs env everywhere s (.begin call request newIDs times) after) :
    Follows everywhere s (s.advance (.begin call request newIDs times) after) := by
  have timed := runs.timed
  have taken := runs.taken
  have late := runs.clock.2
  obtain ⟨⟨isAbsent, count, _, _, sameLength⟩, started⟩ :=
    Option.ite_none_right_eq_some.mp taken
  cases started
  have notMade := timed.not_made isAbsent (by simp) (by simp)
  apply @call_follows _ _ _ _ [] 0 [] _ call
    (request.start s.system.store.active.id newIDs times) runs rfl (.inl rfl)
    (written_nothing same_stamps) rfl
  · exact .inr mem_cons_self
  · intro other _ message mem
    cases mem
  · unfold CallState.Filled
    split
    next starts =>
      obtain ⟨last, isLast, _, streamed⟩ := start_messages count sameLength late starts
      exact ⟨last, isLast, streamed⟩
    · trivial
  · exact fun isMade => absurd notMade isMade
  · intro held time isHeld conversationID stamp isStamped _
    have past := timed.past isStamped
    unfold CallState.HoldsTime at isHeld
    split at isHeld
    next starts =>
      obtain ⟨_, last, isLast, rfl⟩ := isHeld
      obtain ⟨found, isFound, madeNow, _⟩ := start_messages count sameLength late starts
      rw [isLast] at isFound
      rw [Option.some.inj isFound]
      exact past.trans madeNow
    · rw [notMade] at isHeld
      cases isHeld.2
    · next starts => exact absurd starts start_not_streaming
    · exact isHeld.elim
  · intro held time isHeld notAppending
    unfold CallState.HoldsTime at isHeld
    split at isHeld
    next starts =>
      rw [starts] at notAppending
      cases notAppending
    · rw [notMade] at isHeld
      cases isHeld.2
    · next starts => exact absurd starts start_not_streaming
    · exact isHeld.elim

theorem stored_of_has_time {home id : String} (hasTime : db.HasTime home id time) :
    db.stored id ≠ none := by
  obtain ⟨row, mem, _, rfl, _⟩ := hasTime
  intro unstored
  exact stored_eq_none_iff.mp unstored (mem_map_of_mem mem)

/-- Where a call goes on once its messages are appended. -/
def Continuation.state (home : String) : Continuation → CallState
  | .complete => .completing home true
  | .stream messageID => .streaming home messageID []
  | .done => .finished none

theorem written_held {final : Clocked} (timed : Timed everywhere s)
    (isHeld : s.Holds call held stamp) (reached : stamp ≤ final.clock)
    (stamps : Stamps s.system.store final.system.store [held] stamp brought) :
    Written everywhere s final [held] stamp brought := by
  refine ⟨stamps, ?_, fun _ => reached⟩
  intro other time isStamped related
  refine timed.held isHeld isStamped ?_
  rcases related with mem | ⟨isEverywhere, _⟩
  · exact .inr (mem_singleton.mp mem).symm
  · exact .inl isEverywhere

theorem append_follows (runs : Runs env everywhere s (.append call) after) :
    Follows everywhere s (s.advance (.append call) after) := by
  have timed := runs.timed
  have calm := runs.calm
  have taken := runs.taken
  simp only [step] at taken
  split at taken
  next conversationID messages following isCall =>
    have isTargets : s.system.targets (.append call) = [trimSpace conversationID] := by
      simp only [System.targets, isCall]
    have known : s.system.calls call ≠ .absent := by
      rw [isCall]
      exact CallState.noConfusion
    have notMade := timed.not_made isCall (by simp) (by simp)
    cases outcome : s.system.store.appendMessagesForConversation env.summarize conversationID
      messages with
    | error err =>
      rw [outcome] at taken
      cases taken
      exact refused_follows runs rfl known rfl rfl
    | ok next =>
      rw [outcome] at taken
      cases taken
      have filled := timed.filled call
      rw [isCall] at filled
      obtain ⟨last, isLast, streamed⟩ := filled
      have held : s.Holds call (trimSpace conversationID) last.createdAt := by
        unfold Clocked.Holds
        rw [isCall]
        exact ⟨rfl, last, isLast, rfl⟩
      have stamps := append_messages_stamps isLast outcome
      have fits := timed.sound.calls call
      rw [isCall] at fits
      obtain ⟨nodup, unstored, _⟩ := fits
      have isLastMessage := mem_of_getLast? isLast
      have reached : last.createdAt ≤ s.clock := by
        simp only [undisturbed, isCall, Bool.and_eq_true, all_eq_true,
          decide_eq_true_eq] at calm
        exact calm.2 last isLastMessage
      have written (final : System) (isFinal : final.store = next) :
          Written everywhere s (s.advance (.append call) final) [trimSpace conversationID]
            last.createdAt messages := by
        refine written_held timed held reached ?_
        change Stamps s.system.store final.store _ _ _
        rw [isFinal]
        exact stamps
      -- afterwards only a stream holds a message, which was the last one
      have streams (home : String) (time : Nat)
          (isHeld : (following.state (trimSpace conversationID)).HoldsTime next.db (s.made call)
            home time) :
          home = trimSpace conversationID ∧ time = last.createdAt := by
        cases following with
        | complete =>
          rw [notMade] at isHeld
          cases isHeld.2
        | done => exact absurd isHeld finished_holds_nothing
        | stream messageID =>
          obtain ⟨isHome, stored, hasTime⟩ := isHeld
          have isID : last.id = messageID := streamed messageID rfl
          refine ⟨isHome, ?_⟩
          rcases stamps.times hasTime with old | ⟨message, mem, sameID, rfl⟩
          · exact absurd (isID ▸ (unstored last isLastMessage).2) (stored_of_has_time old)
          · rw [inj_on_of_nodup_map nodup mem isLastMessage
              (sameID.trans isID.symm)]
      refine call_follows runs rfl (.inl isTargets.symm) (written _ rfl) rfl (.inl known)
        ?_ ?_ ?_ ?_ ?_
      · intro other ne message mem isOwn
        apply timed.sound.apart call other ne.symm message.id _ isOwn
        rw [isCall]
        exact mem_map_of_mem mem
      · cases following with
        | complete | stream | done => trivial
      · exact fun isMade => absurd notMade isMade
      · intro home time isHeld other stamp isStamped related
        obtain ⟨isHome, isTime⟩ := streams home time isHeld
        rcases (written _ rfl).records isStamped with ⟨_, rfl⟩ | ⟨_, unchanged⟩
        · exact isTime.ge
        · rw [isTime]
          exact timed.held held unchanged (related.imp_right isHome.symm.trans)
      · intro home time isHeld _
        rw [(streams home time isHeld).2]
        exact reached
  · cases taken

theorem delta_follows {text : String} (runs : Runs env everywhere s (.delta call text now) after) :
    Follows everywhere s (s.advance (.delta call text now) after) := by
  have timed := runs.timed
  have taken := runs.taken
  simp only [step] at taken
  split at taken
  next conversationID messageID deltas isCall =>
    split at taken
    · cases taken
    cases taken
    have known : s.system.calls call ≠ .absent := by
      rw [isCall]
      exact CallState.noConfusion
    have stamps : Stamps s.system.store (s.system.store.after
        (s.system.store.appendAssistantDelta conversationID messageID text now)) [] 0 [] := by
      cases outcome : s.system.store.appendAssistantDelta conversationID messageID text now with
      | error err => exact same_stamps
      | ok next => exact append_delta_stamps outcome
    have written : Written everywhere s (s.advance (.delta call text now)
        ((s.system.settle (s.system.store.appendAssistantDelta conversationID messageID text
          now)).setCall call (.streaming conversationID messageID (deltas ++ [text]))))
        [] 0 [] :=
      written_nothing stamps
    have before (held : String) (time : Nat)
        (isHeld : (CallState.streaming conversationID messageID (deltas ++ [text])).HoldsTime
          (s.system.store.after (s.system.store.appendAssistantDelta conversationID messageID
            text now)).db (s.made call) held time) : s.Holds call held time := by
      obtain ⟨isHome, stored, hasTime⟩ := isHeld
      unfold Clocked.Holds
      rw [isCall]
      refine ⟨isHome, stored, ?_⟩
      rcases stamps.times hasTime with old | ⟨message, mem, _⟩
      · exact old
      · cases mem
    refine call_follows runs rfl (.inl rfl) written rfl (.inl known) ?_ ?_ ?_ ?_ ?_
    · intro other _ message mem
      cases mem
    · trivial
    · exact fun isMade => absurd (timed.not_made isCall (by simp) (by simp)) isMade
    · intro held time isHeld other stamp isStamped related
      rcases written.records isStamped with ⟨mem, _⟩ | ⟨_, unchanged⟩
      · cases mem
      · exact timed.held (before held time isHeld) unchanged related
    · intro held time isHeld _
      apply timed.reached (before held time isHeld)
      rw [isCall]
      rfl
  · cases taken

theorem ended_follows {call : Nat} {completion : Completion} {newID id : String} {now : Nat}
    {after : System} {result : Except ConversationError Store}
    (runs : Runs env everywhere s (.finish call completion newID now) after)
    (isTargets : s.system.targets (.finish call completion newID now) = [id])
    (known : s.system.calls call ≠ .absent) (store : after.store = s.system.store.after result)
    (calls : after.calls = (s.system.setCall call (.finished (failure result))).calls)
    (held : ∀ next, result = .ok next →
      ∃ stamp brought, s.Holds call id stamp ∧ stamp ≤ s.clock ∧
        Stamps s.system.store next [id] stamp brought ∧
        ∀ other, other ≠ call → ∀ message ∈ brought, message.id ∉ (s.system.calls other).ownIDs) :
    Follows everywhere s (s.advance (.finish call completion newID now) after) := by
  cases outcome : result with
  | error err =>
    rw [outcome] at store calls
    exact refused_follows runs rfl known store calls
  | ok next =>
    rw [outcome] at store calls
    obtain ⟨stamp, brought, holds, reached, stamps, foreign⟩ := held next outcome
    have written : Written everywhere s (s.advance (.finish call completion newID now) after)
        [id] stamp brought := by
      refine written_held runs.timed holds reached ?_
      change Stamps s.system.store after.store _ _ _
      rw [store]
      exact stamps
    refine call_follows runs rfl (.inl isTargets.symm) written calls (.inl known) foreign trivial
      (fun _ => ⟨_, rfl⟩) ?_ ?_
    · exact fun isHeld => absurd isHeld finished_holds_nothing
    · exact fun isHeld => absurd isHeld finished_holds_nothing

theorem finish_follows {completion : Completion} {newID : String}
    (runs : Runs env everywhere s (.finish call completion newID now) after) :
    Follows everywhere s (s.advance (.finish call completion newID now) after) := by
  have timed := runs.timed
  have timely := runs.timely
  have taken := runs.taken
  simp only [step] at taken
  split at taken
  next id allow isCall =>
    split at taken
    next isNew =>
      cases taken
      have isMade : s.made call = some now := by
        simp only [Clocked.timely, isCall, Bool.and_eq_true, decide_eq_true_eq] at timely
        exact timely.2
      have holds : s.Holds call id now := by
        unfold Clocked.Holds
        rw [isCall]
        exact ⟨rfl, isMade⟩
      have unstored (home : String) (time : Nat) :
          ¬ s.system.store.db.HasTime home newID time := by
        intro hasTime
        obtain ⟨entry, isStored⟩ := Option.ne_none_iff_exists'.mp (stored_of_has_time hasTime)
        exact isNew.2 (timed.sound.rows newID entry isStored).1
      refine @ended_follows _ _ s call completion newID id now _ _ runs ?_ ?_ rfl rfl ?_
      · simp only [System.targets, isCall]
      · rw [isCall]
        exact CallState.noConfusion
      intro next done
      refine ⟨now, [Store.assistantResult newID now completion], holds,
        timed.reached holds ?_, persist_finalization_stamps ?_ done, ?_⟩
      · rw [isCall]
        rfl
      · intro home time hasTime
        exact absurd hasTime (unstored home time)
      · intro other _ message mem isOwn
        rw [mem_singleton.mp mem] at isOwn
        exact isNew.2 ((timed.sound.calls other).own_minted isOwn)
    · cases taken
  next id messageID deltas isCall =>
    cases taken
    refine @ended_follows _ _ s call completion newID id now _ _ runs ?_ ?_ rfl rfl ?_
    · simp only [System.targets, isCall]
    · rw [isCall]
      exact CallState.noConfusion
    intro next done
    obtain ⟨assistant, home, isID, hasTime, stamps⟩ :=
      finalize_stamps timed.sound.synced.distinct timed.remembers done
    have holds : s.Holds call id assistant.createdAt := by
      unfold Clocked.Holds
      rw [isCall]
      exact ⟨rfl, home, hasTime⟩
    refine ⟨assistant.createdAt, [assistant], holds, timed.reached holds ?_, stamps, ?_⟩
    · rw [isCall]
      rfl
    intro other ne message mem
    rw [mem_singleton.mp mem, isID]
    apply timed.sound.apart call other ne.symm
    rw [isCall]
    exact mem_cons_self
  · cases taken

theorem settled_stamps {ready : System} {result : Except ConversationError Store}
    (succeeds : ∀ after, result = .ok after → Stamps ready.store after [] stamp []) :
    Stamps ready.store (ready.settle result).store [] stamp [] := by
  cases outcome : result with
  | error err => exact same_stamps
  | ok after => exact succeeds after outcome

theorem settle_follows {ready : System} {now : Nat} {result : Except ConversationError Store}
    (runs : Runs env everywhere s action (ready.settle result)) (noCaller : action.caller = none)
    (times : action.times = [now]) (store : ready.store = s.system.store)
    (calls : ready.calls = s.system.calls)
    (succeeds : ∀ after, result = .ok after →
      after = s.system.store ∨ Stamps s.system.store after (s.system.targets action) now []) :
    Follows everywhere s (s.advance action (ready.settle result)) := by
  apply quiet_follows runs noCaller times calls
  change ready.store.after result = _ ∨ Stamps _ (ready.store.after result) _ _ _
  rw [store]
  cases outcome : result with
  | error err => exact .inl rfl
  | ok after => exact succeeds after outcome

theorem make_follows (timed : Timed everywhere s)
    (taken : clockedStep env s (.make call now) = some next) : Follows everywhere s next := by
  simp only [clockedStep] at taken
  split at taken
  next id allow isCall =>
    obtain ⟨⟨notMade, later⟩, isNext⟩ := Option.ite_none_right_eq_some.mp taken
    cases isNext
    have held_before {other : Nat} {held : String} {time : Nat}
        (isHeld : (s.system.calls other).HoldsTime s.system.store.db
          (s.made.insert call now other) held time) :
        time = now ∨ s.Holds other held time := by
      by_cases same : other = call
      · subst same
        rw [isCall, Table.insert_self] at isHeld
        exact .inl (Option.some.inj isHeld.2).symm
      · rw [Table.insert_of_ne same] at isHeld
        exact .inr isHeld
    refine ⟨?_, ?_⟩
    · constructor
      · exact timed.sound
      · exact timed.remembers
      · intro other time isStamped
        exact (timed.past isStamped).trans later
      · exact timed.begun
      · exact timed.filled
      · intro other isMade
        by_cases same : other = call
        · exact .inl ⟨id, allow, same ▸ isCall⟩
        · change s.made.insert call now other ≠ none at isMade
          rw [Table.insert_of_ne same] at isMade
          exact timed.made isMade
      · intro other held time isHeld home stamp isStamped related
        rcases held_before isHeld with rfl | before
        · exact (timed.past isStamped).trans later
        · exact timed.held before isStamped related
      · intro other held time isHeld notAppending
        rcases held_before isHeld with rfl | before
        · exact Nat.le_refl _
        · exact (timed.reached before notAppending).trans later
      · exact timed.counted
      · exact timed.ordered
    · rintro home before after ⟨record, loaded, rfl⟩ ⟨again, loadedAgain, rfl⟩
      rw [loaded] at loadedAgain
      rw [Option.some.inj loadedAgain]
  · cases taken

theorem step_follows {action : ClockedAction} (timed : Timed everywhere s)
    (calm : undisturbed everywhere s action = true) (taken : clockedStep env s action = some next) :
    Follows everywhere s next := by
  cases action with
  | make call now => exact make_follows timed taken
  | run action =>
    obtain ⟨timely, ran⟩ := Option.ite_none_right_eq_some.mp taken
    obtain ⟨after, stepped, rfl⟩ := Option.map_eq_some_iff.mp ran
    have runs : Runs env everywhere s action after := ⟨timed, calm, timely, stepped⟩
    cases action with
    | begin call request newIDs times => exact begin_follows runs
    | append call => exact append_follows runs
    | delta call text now => exact delta_follows runs
    | finish call completion newID now => exact finish_follows runs
    | create newID now =>
      obtain ⟨isNew, created⟩ := Option.ite_none_right_eq_some.mp stepped
      cases created
      apply settle_follows runs rfl rfl rfl rfl
      rintro after ⟨⟩
      exact .inr (create_stamps (timed.sound.unused isNew).1)
    | rename id title now =>
      cases stepped
      apply settle_follows runs rfl rfl rfl rfl
      intro after done
      exact .inr (modified_stamps (rename_ok done).2)
    | delete id newID now =>
      obtain ⟨isNew, deleted⟩ := Option.ite_none_right_eq_some.mp stepped
      cases deleted
      apply settle_follows runs rfl rfl rfl rfl
      intro after done
      exact .inr (delete_stamps
        (fun other mem => (timed.sound.conversations other mem).2)
        (timed.sound.unused isNew).1 done)
    | archive id newID now =>
      obtain ⟨isNew, archived⟩ := Option.ite_none_right_eq_some.mp stepped
      cases archived
      apply settle_follows runs rfl rfl rfl rfl
      intro after done
      exact archive_stamps (timed.sound.unused isNew).1 done
    | restore id now =>
      cases stepped
      apply settle_follows runs rfl rfl rfl rfl
      intro after done
      exact (restore_ok done).imp And.left modified_stamps
    | updatePreferences id preferences now =>
      cases stepped
      apply settle_follows runs rfl rfl rfl rfl
      intro after done
      exact .inr (modified_stamps (update_preferences_ok done))
    | activate id =>
      cases stepped
      refine no_call_follows runs rfl rfl (.inl rfl)
        (@written_nothing _ _ _ 0 (settled_stamps ?_))
      intro after done
      exact activate_stamps done

theorem Clocked.Initial.timed (isStart : s.Initial) : Timed everywhere s := by
  have noCalls := isStart.system.noCalls
  constructor
  · exact isStart.system.sound
  · intro message mem
    obtain ⟨_, _, memory⟩ := load_state_spec isStart.system.loaded
    rw [memory] at mem
    exact has_time_of_loaded mem
  · rintro id time ⟨record, loaded, rfl⟩
    exact isStart.past record (load_record_spec loaded).2.mem
  · intro call isCall
    exact absurd (noCalls call) isCall
  · intro call
    rw [noCalls call]
    trivial
  · intro call isMade
    rw [isStart.made] at isMade
    exact absurd rfl isMade
  · intro call held time isHeld
    unfold Clocked.Holds at isHeld
    rw [noCalls call] at isHeld
    exact isHeld.elim
  · intro call held time isHeld
    unfold Clocked.Holds at isHeld
    rw [noCalls call] at isHeld
    exact isHeld.elim
  · intro id
    rw [isStart.changed id]
    exact Nat.zero_le _
  · intro _ first second early late _ _ before
    rw [isStart.changed first, isStart.changed second] at before
    exact absurd before (Nat.lt_irrefl 0)

/-- No time of a conversation goes back where it is changed only when no other request holds a
message for it. When this is so for all of them together, the list is in the order of the last
changes. -/
theorem conversation_times_never_go_back
    (reachable : Reachable Clocked.Initial (guarded (undisturbed everywhere) (clockedStep env)) s) :
    (∀ action next, guarded (undisturbed everywhere) (clockedStep env) s action = some next →
      ∀ conversationID before after, s.Stamped conversationID before →
        next.Stamped conversationID after → before ≤ after) ∧
    (everywhere = true →
      s.system.store.db.listConversations.Pairwise fun first second =>
        s.system.store.db.Holds first → s.system.store.db.Holds second →
        first.archivedAt = none → second.archivedAt = none →
        s.changed second.id ≤ s.changed first.id ∨ second.updatedAt = first.updatedAt) := by
  have timed : Timed everywhere s := by
    apply reachable.invariant Clocked.Initial.timed
    intro before action after timed taken
    obtain ⟨calm, taken⟩ := guarded_eq_some.mp taken
    exact (step_follows timed calm taken).timed
  constructor
  · intro action next taken conversationID before after isBefore isAfter
    obtain ⟨calm, taken⟩ := guarded_eq_some.mp taken
    exact (step_follows timed calm taken).monotone isBefore isAfter
  intro isEverywhere
  have sorted : s.system.store.db.listConversations.Pairwise fun first second =>
      candidateOrder first second = true :=
    pairwise_mergeSort candidate_order_trans candidate_order_total _
  refine sorted.imp ?_
  intro first second inOrder holdsFirst holdsSecond notArchived norSecond
  have later : second.updatedAt ≤ first.updatedAt := by
    simp only [candidateOrder, notArchived, norSecond] at inOrder
    simp at inOrder
    omega
  rcases Nat.lt_or_ge (s.changed first.id) (s.changed second.id) with before | after
  · right
    have earlier := timed.ordered isEverywhere ⟨first, holdsFirst, rfl⟩
      ⟨second, holdsSecond, rfl⟩ before
    exact Nat.le_antisymm later earlier
  · exact .inl after

/-- The end of a stream to a conversation that is not the active one stamps the time at
which its message was made, whatever has been stamped since. -/
theorem finish_stamps_start {system : System} {call now : Nat} {completion : Completion}
    {newID id messageID : String} {deltas : List String} {record : ConversationRecord}
    {message : Message} (isCall : system.calls call = .streaming id messageID deltas)
    (notActive : system.store.active.id ≠ id)
    (known : system.store.db.loadConversationRecord id = some record)
    (stored : system.store.db.loadMessageByID messageID = some message) :
    ∃ next, step env system (.finish call completion newID now) = some next ∧
    ∃ after, next.store.db.loadConversationRecord id = some after ∧
    after.updatedAt = message.createdAt := by
  have loaded : system.store.db.loadConversationState id =
      some (record, system.store.db.loadConversationMessages id) := by
    unfold loadConversationState
    rw [known]
    rfl
  obtain ⟨final, done⟩ : ∃ final, system.store.persistAssistantFinalization id
      (Store.finalizedMessage message completion) (nextProviderSessionState
        system.store.active.session completion.info.kind completion.session true) = .ok final := by
    unfold Store.persistAssistantFinalization
    rw [loaded]
    exact ⟨_, rfl⟩
  have finalized : system.store.finalizeAssistantStreamResult id messageID
      completion = .ok final := by
    unfold Store.finalizeAssistantStreamResult
    rw [if_neg notActive, stored]
    exact done
  obtain ⟨written, before, _, sameID, _, _, _, stamped, outcome⟩ := finalization_ok done
  have tables : ∃ db : Database, final.db = db.updateConversation written ∧
      db.conversations = system.store.db.conversations := by
    rcases outcome with ⟨_, tables, _⟩ | ⟨_, tables, _⟩
    · exact ⟨_, tables, rfl⟩
    · exact ⟨_, tables, rfl⟩
  obtain ⟨db, tables, sameRows⟩ := tables
  have row : db.loadConversationRecord id = some record := by
    unfold loadConversationRecord
    rw [sameRows]
    exact known
  simp only [step, isCall, finalized]
  refine ⟨_, rfl, { written with createdAt := record.createdAt }, ?_, stamped⟩
  change final.db.loadConversationRecord id = _
  rw [tables, load_record_update, row, Option.map_some,
    if_pos ((load_id row).trans sameID.symm)]

def Clocked.bootstrapped : Clocked where
  system := System.bootstrapped "conv_a" 0
  clock := 0

theorem clocked_initial : Clocked.bootstrapped.Initial where
  system := bootstrapped_initial (by decide) 0
  past := by
    intro record mem
    rw [mem_singleton.mp mem]
    exact Nat.le_refl 0
  made := rfl
  begun := rfl
  changed := fun _ => rfl

theorem conversation_times_never_go_back_completed :
    ∃ s, Reachable Clocked.Initial (guarded (undisturbed true) (clockedStep ⟨true, trimSpace⟩)) s ∧
      (s.Stamped "conv_a" 9 ∧ s.Stamped "conv_b" 7) ∧
      (∀ action next,
        guarded (undisturbed true) (clockedStep ⟨true, trimSpace⟩) s action = some next →
        ∀ conversationID before after, s.Stamped conversationID before →
          next.Stamped conversationID after → before ≤ after) ∧
      (true = true →
        s.system.store.db.listConversations.Pairwise fun first second =>
          s.system.store.db.Holds first → s.system.store.db.Holds second → first.archivedAt = none →
          second.archivedAt = none →
          s.changed second.id ≤ s.changed first.id ∨ second.updatedAt = first.updatedAt) := by
  have ran : (runActions (guarded (undisturbed true) (clockedStep ⟨true, trimSpace⟩))
      Clocked.bootstrapped
      [.run (.begin 0 (.submit "hi" "help" []) ["msg_1"] [1]), .run (.append 0),
        .run (.create "conv_b" 7), .make 0 9,
        .run (.finish 0 ⟨"hello", "", none, ⟨"codex", ""⟩, none⟩ "msg_2" 9)]).map (fun s =>
      decide ((s.system.store.db.loadConversationRecord "conv_a").map
          updatedAt = some 9 ∧
        (s.system.store.db.loadConversationRecord "conv_b").map
          updatedAt = some 7)) = some true := by
    decide +kernel
  obtain ⟨s, reachable, tested⟩ := reachable_of_run clocked_initial ran
  obtain ⟨first, second⟩ := of_decide_eq_true tested
  obtain ⟨record, loaded, isTime⟩ := Option.map_eq_some_iff.mp first
  obtain ⟨other, loadedOther, isOtherTime⟩ := Option.map_eq_some_iff.mp second
  exact ⟨s, reachable, ⟨⟨record, loaded, isTime⟩, other, loadedOther, isOtherTime⟩,
    conversation_times_never_go_back reachable⟩

/-- A conversation is renamed while a stream to it is under way, and the end of the stream
takes its time back. -/
theorem stream_takes_time_back :
    ∃ s next, Reachable Clocked.Initial (clockedStep ⟨true, trimSpace⟩) s ∧
      clockedStep ⟨true, trimSpace⟩ s
        (.run (.finish 0 ⟨"hello", "", none, ⟨"codex", ""⟩, none⟩ "" 9)) =
        some next ∧
      s.Stamped "conv_a" 8 ∧ next.Stamped "conv_a" 2 := by
  have ran : (runActions (clockedStep ⟨true, trimSpace⟩) Clocked.bootstrapped
      [.run (.begin 0 (.submitStream "hi" "help" [] { kind := "codex" }) ["msg_1", "msg_2"] [1, 2]),
        .run (.append 0), .run (.create "conv_b" 5),
        .run (.rename "conv_a" "plan" 8)]).map (fun s =>
      decide (s.system.calls 0 = .streaming "conv_a" "msg_2" [] ∧
        s.system.store.active.id ≠ "conv_a" ∧
        (s.system.store.db.loadConversationRecord "conv_a").map
          updatedAt = some 8 ∧
        (s.system.store.db.loadMessageByID "msg_2").map Message.createdAt = some 2)) =
      some true := by
    decide +kernel
  obtain ⟨s, reachable, tested⟩ := reachable_of_run clocked_initial ran
  obtain ⟨isCall, notActive, renamed, made⟩ := of_decide_eq_true tested
  obtain ⟨record, known, isTime⟩ := Option.map_eq_some_iff.mp renamed
  obtain ⟨message, stored, isMade⟩ := Option.map_eq_some_iff.mp made
  obtain ⟨next, taken, after, loaded, stamped⟩ := @finish_stamps_start ⟨true, trimSpace⟩ s.system 0
    9 ⟨"hello", "", none, ⟨"codex", ""⟩, none⟩ "" "conv_a" "msg_2" [] record message isCall
    notActive known stored
  have timely : s.timely (.finish 0 ⟨"hello", "", none, ⟨"codex", ""⟩, none⟩ "" 9) = true := by
    simp [Clocked.timely, Action.times, isCall]
  refine ⟨s, s.advance (.finish 0 ⟨"hello", "", none, ⟨"codex", ""⟩, none⟩ "" 9) next, reachable,
    ?_, ⟨record, known, isTime⟩, after, loaded, stamped.trans isMade⟩
  simp only [clockedStep, timely, taken]
  rfl

end

end RuneTerminal.Conversation
