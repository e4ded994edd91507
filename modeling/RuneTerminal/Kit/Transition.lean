import Mathlib.Logic.Relation

/-! A system is a start condition and a partial step function. An invariant is checked once for the
start and once for a step. A store edits a copy of its state, writes the copy and swaps it in. -/

namespace RuneTerminal.Kit

open List Option

variable {State Action : Type}

/-- The states reached from `s` by any sequence of actions. -/
def RunsTo (step : State → Action → Option State) : State → State → Prop :=
  Relation.ReflTransGen fun s next => ∃ action, step s action = some next

def Reachable (initial : State → Prop) (step : State → Action → Option State) (s : State) :
    Prop :=
  ∃ first, initial first ∧ RunsTo step first s

section

variable {initial : State → Prop} {step : State → Action → Option State}

theorem RunsTo.preserves {property : State → Prop}
    (preserved : ∀ {s action next}, property s → step s action = some next → property next)
    {s final : State} (run : RunsTo step s final) (initially : property s) : property final := by
  induction run with
  | refl => exact initially
  | tail _ taken ih =>
    obtain ⟨action, next⟩ := taken
    exact preserved ih next

theorem Reachable.invariant {invariant : State → Prop} (initially : ∀ {s}, initial s → invariant s)
    (preserved : ∀ {s action next}, invariant s → step s action = some next → invariant next)
    {s : State} (reachable : Reachable initial step s) : invariant s := by
  obtain ⟨first, isStart, run⟩ := reachable
  exact run.preserves preserved (initially isStart)

theorem Reachable.start {s : State} (isStart : initial s) : Reachable initial step s :=
  ⟨s, isStart, Relation.ReflTransGen.refl⟩

theorem Reachable.next {s next : State} {action : Action} (reachable : Reachable initial step s)
    (taken : step s action = some next) : Reachable initial step next := by
  obtain ⟨first, isStart, run⟩ := reachable
  exact ⟨first, isStart, run.tail ⟨action, taken⟩⟩

end

/-- The steps of a system whose action meets a condition in the state before it. -/
def guarded (allowed : State → Action → Bool) (step : State → Action → Option State)
    (s : State) (action : Action) : Option State :=
  if allowed s action then step s action else none

section

variable {allowed : State → Action → Bool} {step : State → Action → Option State}

theorem guarded_eq_some {s next : State} {action : Action} : guarded allowed step s action =
    some next ↔ allowed s action = true ∧ step s action = some next := by
  unfold guarded
  by_cases isAllowed : allowed s action = true
  · simp
  · simp

end

def runActions (step : State → Action → Option State) (s : State) : List Action → Option State
  | [] => some s
  | action :: rest => (step s action).bind fun next => runActions step next rest

theorem runs_to_of_run {step : State → Action → Option State} {actions : List Action}
    {s final : State} (ran : runActions step s actions = some final) : RunsTo step s final := by
  induction actions generalizing s with
  | nil =>
    cases ran
    exact Relation.ReflTransGen.refl
  | cons action rest ih =>
    obtain ⟨next, taken, further⟩ := bind_eq_some_iff.mp ran
    exact Relation.ReflTransGen.head ⟨action, taken⟩ (ih further)

theorem run_actions_of_guarded {allowed : State → Action → Bool}
    {step : State → Action → Option State} {actions : List Action} {s final : State}
    (ran : runActions (guarded allowed step) s actions = some final) :
    runActions step s actions = some final := by
  induction actions generalizing s with
  | nil => exact ran
  | cons action rest ih =>
    obtain ⟨next, taken, further⟩ := bind_eq_some_iff.mp ran
    exact bind_eq_some_iff.mpr ⟨next, (guarded_eq_some.mp taken).2, ih further⟩

theorem reachable_of_run {initial : State → Prop} {step : State → Action → Option State}
    {first : State} (isStart : initial first) {actions : List Action} {test : State → Bool}
    (tested : (runActions step first actions).map test = some true) :
    ∃ s, Reachable initial step s ∧ test s = true := by
  obtain ⟨s, ran, holds⟩ := map_eq_some_iff.mp tested
  exact ⟨s, ⟨first, isStart, runs_to_of_run ran⟩, holds⟩

variable {Error : Type}

theorem bind_eq_ok {First Second : Type} {first : Except Error First}
    {rest : First → Except Error Second} {result : Second} (done : first >>= rest = .ok result) :
    ∃ value, first = .ok value ∧ rest value = .ok result := by
  cases first with
  | error err => cases done
  | ok value => exact ⟨value, rfl, done⟩

theorem to_option_eq_some {Result : Type} {computed : Except Error Result} {result : Result}
    (kept : computed.toOption = some result) : computed = .ok result := by
  cases computed with
  | error err => cases kept
  | ok value => exact congrArg Except.ok (some.inj kept)

theorem result_of_map_m {Item Result : Type} {compute : Item → Except Error Result}
    {items : List Item} {results : List Result} (computed : items.mapM compute = .ok results)
    {index : Nat} {result : Result} (isResult : results[index]? = some result) :
    ∃ item, items[index]? = some item ∧ compute item = .ok result := by
  induction items generalizing results index with
  | nil =>
    cases computed
    cases isResult
  | cons first rest ih =>
    rw [mapM_cons] at computed
    obtain ⟨firstResult, isFirst, computed⟩ := bind_eq_ok computed
    obtain ⟨restResults, areRest, computed⟩ := bind_eq_ok computed
    cases computed
    cases index with
    | zero =>
      cases isResult
      exact ⟨first, rfl, isFirst⟩
    | succ index => exact ih areRest isResult

theorem map_m_eq_ok {Item Result : Type} {compute : Item → Except Error Result}
    (result : Item → Result) {items : List Item}
    (computed : ∀ item ∈ items, compute item = .ok (result item)) :
    items.mapM compute = .ok (items.map result) := by
  induction items with
  | nil => rfl
  | cons item rest ih =>
    rw [forall_mem_cons] at computed
    rw [mapM_cons, computed.1, ih computed.2]
    rfl

theorem ok_of_map_m {Item Result : Type} {compute : Item → Except Error Result} {items : List Item}
    {results : List Result} (computed : items.mapM compute = .ok results) {item : Item}
    (mem : item ∈ items) : ∃ result, compute item = .ok result := by
  induction items generalizing results with
  | nil => cases mem
  | cons first rest ih =>
    rw [mapM_cons] at computed
    obtain ⟨firstResult, isFirst, computed⟩ := bind_eq_ok computed
    obtain ⟨restResults, areRest, _⟩ := bind_eq_ok computed
    rcases mem_cons.mp mem with rfl | later
    · exact ⟨firstResult, isFirst⟩
    · exact ih areRest later

variable {Data : Type}

/-- The state in memory, and the state that was written last. -/
structure Stored (Data : Type) where
  data : Data
  file : Data
  deriving DecidableEq

namespace Stored

def saved (data : Data) : Stored Data := ⟨data, data⟩

/-- An edit of a copy, if there is something to write; `written` says whether the copy
could be written. -/
def commit (s : Stored Data) (edit : Data → Option Data) (written : Bool) : Stored Data :=
  match edit s.data with
  | none => s
  | some next => if written then saved next else s

theorem commit_cases (s : Stored Data) (edit : Data → Option Data) (written : Bool) :
    s.commit edit written = s ∨ ∃ next, edit s.data = some next ∧ written = true ∧
    s.commit edit written = saved next := by
  unfold commit
  cases edited : edit s.data with
  | none => exact .inl rfl
  | some next =>
    cases written with
    | false => exact .inl rfl
    | true => exact .inr ⟨next, rfl, rfl, rfl⟩

theorem commit_preserves {property : Data → Prop} {s : Stored Data} {edit : Data → Option Data}
    {written : Bool} (keeps : ∀ {next}, edit s.data = some next → property next)
    (before : s.data = s.file ∧ property s.file) : (s.commit edit written).data =
    (s.commit edit written).file ∧ property (s.commit edit written).file := by
  rcases s.commit_cases edit written with same | ⟨next, edited, _, swapped⟩
  · rw [same]
    exact before
  · rw [swapped]
    exact ⟨rfl, keeps edited⟩

end Stored

end RuneTerminal.Kit
