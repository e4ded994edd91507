import Mathlib.Data.List.Basic

/-! A list of actions in which each may need what is held at its time: what was held before the
list, and what earlier actions of the list have granted. -/

namespace RuneTerminal.Kit

open List

variable {Action Grant : Type}

def Covered (grants : Action → List Grant) (allowed : List Grant → Action → Prop) :
    List Grant → List Action → Prop
  | _, [] => True
  | held, action :: rest =>
    allowed held action ∧ Covered grants allowed (grants action ++ held) rest

def AllowsMore (allowed : List Grant → Action → Prop) : Prop :=
  ∀ (held more : List Grant) (action : Action), held ⊆ more → allowed held action →
    allowed more action

section

variable {grants : Action → List Grant} {allowed : List Grant → Action → Prop}
  {actions : List Action} {held : List Grant}

theorem Covered.more (allowsMore : AllowsMore allowed) {more : List Grant} (isMore : held ⊆ more)
    (covered : Covered grants allowed held actions) : Covered grants allowed more actions := by
  induction actions generalizing held more with
  | nil => trivial
  | cons action rest ih =>
    refine ⟨allowsMore _ _ _ isMore covered.1, ih ?_ covered.2⟩
    exact append_subset.mpr ⟨subset_append_left _ _,
      List.Subset.trans isMore (subset_append_right _ _)⟩

theorem Covered.append {first second : List Action} {held : List Grant}
    (covered : Covered grants allowed held first)
    (coveredAfter : ∀ now : List Grant,
      (∀ grant, grant ∈ now ↔ grant ∈ first.flatMap grants ∨ grant ∈ held) →
      Covered grants allowed now second) :
    Covered grants allowed held (first ++ second) := by
  induction first generalizing held with
  | nil =>
    apply coveredAfter
    intro grant
    simp
  | cons action rest ih =>
    refine ⟨covered.1, ih covered.2 ?_⟩
    intro now isNow
    apply coveredAfter
    intro grant
    rw [isNow, mem_append, flatMap_cons, mem_append]
    tauto

theorem Covered.take (covered : Covered grants allowed held actions) (count : Nat) :
    Covered grants allowed held (actions.take count) := by
  induction actions generalizing held count with
  | nil =>
    rw [take_nil]
    trivial
  | cons action rest ih =>
    cases count with
    | zero => trivial
    | succ count => exact ⟨covered.1, ih covered.2 count⟩

end

end RuneTerminal.Kit
