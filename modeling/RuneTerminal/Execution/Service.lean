import RuneTerminal.Go.Strings

/-! `core/execution/service.go`: blocks are appended, replaced by their id, and ended together. What
the service does not read of a block is a parameter. -/

namespace RuneTerminal.Execution

open Go.Strings (trimSpace)
open List Execution

inductive BlockState where
  | running
  | executed
  | failed
  | other (raw : String) (unnamed : raw ≠ "running" ∧ raw ≠ "executed" ∧ raw ≠ "failed")
  deriving DecidableEq

/-- The zero time is `none`. -/
structure Block (Details : Type) where
  id : String
  state : BlockState
  outputExcerpt : String
  createdAt : Option Nat
  updatedAt : Option Nat
  details : Details

structure PersistedState (Details : Type) where
  blocks : List (Block Details)
  updatedAt : Option Nat

inductive ServiceError where
  | blockIDRequired
  | notWritten

variable {Details : Type}

def isActiveState (state : BlockState) : Bool :=
  state ≠ .executed && state ≠ .failed

def persist {Answer : Type} (written : Bool) (answer : Answer) (next : PersistedState Details) :
    Except ServiceError (Answer × PersistedState Details) :=
  if written then .ok (answer, next) else .error .notWritten

def append (newID : String) (now : Nat) (written : Bool) (s : PersistedState Details)
    (block : Block Details) : Except ServiceError (Block Details × PersistedState Details) :=
  let block :=
    { block with
      id := if block.id = "" then newID else block.id
      createdAt := block.createdAt.or (some now)
      updatedAt := some now }
  persist written block { blocks := s.blocks ++ [block], updatedAt := some now }

/-- The answer is `none` where no block has the id. -/
def replace (now : Nat) (written : Bool) (s : PersistedState Details) (block : Block Details) :
    Except ServiceError (Option (Block Details) × PersistedState Details) :=
  if block.id = "" then .error .blockIDRequired
  else
    match s.blocks.find? (·.id == block.id) with
    | none => .ok (none, s)
    | some old =>
      let block := { block with createdAt := old.createdAt, updatedAt := some now }
      let index := s.blocks.findIdx (·.id == block.id)
      persist written (some block) { blocks := s.blocks.set index block, updatedAt := some now }

def activeCount (s : PersistedState Details) : Nat :=
  s.blocks.countP fun block => isActiveState block.state

def appendRunningFailReason (existing reason : String) : String :=
  if trimSpace reason = "" then existing
  else if trimSpace existing = "" then "failed: " ++ trimSpace reason
  else trimSpace existing ++ "\nfailed: " ++ trimSpace reason

/-- The body of the loop of `MarkActiveFailed`. -/
def failActive (failedBy : String) (now : Nat) (block : Block Details) : Block Details :=
  if isActiveState block.state then
    { block with
      state := .failed
      outputExcerpt := appendRunningFailReason block.outputExcerpt failedBy
      updatedAt := some now }
  else block

/-- `clock` is what the clock shows at each index, and `now` what it shows behind the loop. -/
def markActiveFailed (clock : Nat → Nat) (now : Nat) (written : Bool) (s : PersistedState Details)
    (reason : String) : Except ServiceError (Nat × PersistedState Details) :=
  let failedBy := if trimSpace reason = "" then "shutdown" else trimSpace reason
  if activeCount s = 0 then .ok (0, s)
  else
    persist written (activeCount s) {
      blocks := s.blocks.mapIdx fun index => failActive failedBy (clock index)
      updatedAt := some now }

inductive Operation (Details : Type) where
  | append (newID : String) (now : Nat) (written : Bool) (block : Block Details)
  | replace (now : Nat) (written : Bool) (block : Block Details)
  | markActiveFailed (clock : Nat → Nat) (now : Nat) (written : Bool) (reason : String)

def settled {Answer : Type} (s : PersistedState Details) :
    Except ServiceError (Answer × PersistedState Details) → PersistedState Details
  | .ok (_, next) => next
  | .error _ => s

namespace Operation

def perform (s : PersistedState Details) : Operation Details → PersistedState Details
  | append newID now written block => settled s (Execution.append newID now written s block)
  | replace now written block => settled s (Execution.replace now written s block)
  | markActiveFailed clock now written reason =>
    settled s (Execution.markActiveFailed clock now written s reason)

def replacedID? : Operation Details → Option String
  | replace _ _ block => some block.id
  | _ => none

end Operation

/-- Every block stays where it is with its id and its creation time, and stays as it is once it has
ended, unless a block with its id is put in its place. -/
def Keeps (replaced : String → Prop) (before after : PersistedState Details) : Prop :=
  ∀ (index : Nat) (block : Block Details), before.blocks[index]? = some block →
    ∃ later : Block Details, after.blocks[index]? = some later ∧ later.id = block.id ∧
      later.createdAt = block.createdAt ∧
      (isActiveState block.state = false → ¬replaced block.id → later = block)

section

variable {replaced : String → Prop} {s next last : PersistedState Details}

theorem Keeps.refl (s : PersistedState Details) : Keeps replaced s s :=
  fun _ block isBlock => ⟨block, isBlock, rfl, rfl, fun _ _ => rfl⟩

theorem Keeps.trans (first : Keeps replaced s next) (second : Keeps replaced next last) :
    Keeps replaced s last := by
  intro index block isBlock
  obtain ⟨later, isLater, sameID, sameTime, same⟩ := first index block isBlock
  obtain ⟨final, isFinal, finalID, finalTime, sameFinal⟩ := second index later isLater
  refine ⟨final, isFinal, finalID.trans sameID, finalTime.trans sameTime, ?_⟩
  intro ended notReplaced
  cases same ended notReplaced
  exact sameFinal ended notReplaced

theorem Keeps.persist {Answer : Type} (keeps : Keeps replaced s next) (written : Bool)
    (answer : Answer) : Keeps replaced s (settled s (persist written answer next)) := by
  cases written with
  | false => exact .refl s
  | true => exact keeps

theorem fail_active_spec (failedBy : String) (now : Nat) (block : Block Details) :
    let next := failActive failedBy now block
    next.id = block.id ∧ next.createdAt = block.createdAt ∧ isActiveState next.state = false ∧
      (isActiveState block.state = false → next = block) := by
  unfold failActive
  split_ifs with active
  · exact ⟨rfl, rfl, rfl, fun ended => by rw [ended] at active; cases active⟩
  · exact ⟨rfl, rfl, by simpa using active, fun _ => rfl⟩

theorem perform_keeps (operation : Operation Details)
    (counted : ∀ id, operation.replacedID? = some id → replaced id) :
    Keeps replaced s (operation.perform s) := by
  cases operation with
  | append newID now written given =>
    apply Keeps.persist
    intro index block isBlock
    obtain ⟨bound, _⟩ := List.getElem?_eq_some_iff.mp isBlock
    refine ⟨block, ?_, rfl, rfl, fun _ _ => rfl⟩
    rw [getElem?_append_left bound, isBlock]
  | replace now written given =>
    change Keeps replaced s (settled s (replace now written s given))
    unfold replace
    split_ifs
    · exact .refl s
    split
    · exact .refl s
    next old found =>
    apply Keeps.persist
    intro index block isBlock
    by_cases isPlace : s.blocks.findIdx (·.id == given.id) = index
    · have sameID : old.id = given.id := by simpa using find?_some found
      rw [find?_eq_getElem?_findIdx, isPlace, isBlock] at found
      cases found
      obtain ⟨bound, _⟩ := List.getElem?_eq_some_iff.mp isBlock
      refine ⟨{ given with createdAt := old.createdAt, updatedAt := some now }, ?_, sameID.symm,
        rfl, ?_⟩
      · rw [isPlace, getElem?_set_self bound]
      intro _ notReplaced
      rw [sameID] at notReplaced
      exact absurd (counted _ rfl) notReplaced
    · exact ⟨block, by rw [getElem?_set_ne isPlace, isBlock], rfl, rfl, fun _ _ => rfl⟩
  | markActiveFailed clock now written reason =>
    change Keeps replaced s (settled s (markActiveFailed clock now written s reason))
    unfold markActiveFailed
    dsimp only
    split
    · exact .refl s
    apply Keeps.persist
    intro index block isBlock
    obtain ⟨sameID, sameTime, -, same⟩ := fail_active_spec _ (clock index) block
    refine ⟨_, ?_, sameID, sameTime, fun ended _ => same ended⟩
    rw [getElem?_mapIdx, isBlock]
    rfl

/-- Blocks are neither dropped nor reordered, and what has ended changes only where it is replaced.
-/
theorem blocks_keep_their_history (s : PersistedState Details)
    (operations : List (Operation Details)) :
    let final := operations.foldl Operation.perform s
    Keeps (fun id => some id ∈ operations.map Operation.replacedID?) s final ∧
    ∀ clock now reason,
      activeCount ((Operation.markActiveFailed clock now true reason).perform final) = 0 := by
  constructor
  · refine foldlRecOn (motive := Keeps _ s) operations _ (.refl s) ?_
    intro current keeps operation mem
    apply keeps.trans
    apply perform_keeps
    intro id isReplaced
    exact mem_map.mpr ⟨operation, mem, isReplaced⟩
  · intro clock now reason
    generalize operations.foldl Operation.perform s = final
    change activeCount (settled final (markActiveFailed clock now true final reason)) = 0
    unfold markActiveFailed
    dsimp only
    split
    next noneActive => exact noneActive
    unfold activeCount
    rw [countP_eq_zero]
    intro block mem
    obtain ⟨index, bound, rfl⟩ := mem_mapIdx.mp mem
    rw [(fail_active_spec _ _ _).2.2.1]
    exact Bool.false_ne_true

end

end RuneTerminal.Execution
