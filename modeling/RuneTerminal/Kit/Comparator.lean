import Mathlib.Data.List.Sort

/-! A comparison of two items by the sign of a number, as sorting functions take it. A comparator is
consistent if it orders the items in a row. -/

namespace RuneTerminal.Kit

variable {Item Key : Type}

structure Consistent (compare : Item → Item → Int) : Prop where
  swap : ∀ first second, compare second first ≤ 0 ↔ 0 ≤ compare first second
  trans : ∀ first second third, compare first second ≤ 0 → compare second third ≤ 0 →
    compare first third ≤ 0

namespace Consistent

variable {compare other : Item → Item → Int}

theorem total (inv : Consistent compare) (first second : Item) :
    compare first second ≤ 0 ∨ compare second first ≤ 0 := by
  rcases le_total (compare first second) 0 with before | after
  · exact .inl before
  · exact .inr ((inv.swap first second).mpr after)

theorem same_place (inv : Consistent compare) {first second : Item}
    (same : compare first second = 0) : compare second first = 0 := by
  have before := (inv.swap first second).mpr (Int.le_of_eq same.symm)
  have after := (inv.swap second first).mp (Int.le_of_eq same)
  exact Int.le_antisymm before after

theorem congr (inv : Consistent compare)
    (same : ∀ first second, other first second = compare first second) : Consistent other := by
  have equal : other = compare := funext fun first => funext fun second => same first second
  rw [equal]
  exact inv

theorem nothing : Consistent fun (_ _ : Item) => 0 :=
  ⟨fun _ _ => Iff.rfl, fun _ _ _ _ _ => Int.le_refl 0⟩

theorem on (key : Item → Key) {compare : Key → Key → Int} (inv : Consistent compare) :
    Consistent fun first second => compare (key first) (key second) :=
  ⟨fun _ _ => inv.swap _ _, fun _ _ _ => inv.trans _ _ _⟩

theorem sub (number : Item → Int) :
    Consistent fun first second => number first - number second := by
  constructor
  · intro first second
    omega
  · intro first second third
    omega

theorem ofOrder [LinearOrder Item] : Consistent fun first second :
    Item => if first < second then -1 else if second < first then 1 else 0 := by
  have sign : ∀ first second : Item,
      (if first < second then -1 else if second < first then 1 else 0 : Int) ≤ 0 ↔
        first ≤ second := by
    intro first second
    rcases lt_trichotomy first second with before | same | after
    · simp [before, before.le]
    · simp [same]
    · simp [after, after.not_gt]
  constructor
  · intro first second
    rw [sign second first]
    rcases lt_trichotomy first second with before | same | after
    · simp [before]
    · simp [same]
    · simp [after, after.not_gt, after.le]
  · intro first second third
    rw [sign, sign, sign]
    exact le_trans

section

variable (inv : Consistent compare)
include inv

theorem flip : Consistent fun first second => compare second first :=
  ⟨fun first second => inv.swap second first,
    fun first second third before after => inv.trans third second first after before⟩

theorem neg : Consistent fun first second => compare first second * -1 := by
  constructor
  · intro first second
    have swapped := inv.swap second first
    omega
  intro first second third before after
  have ahead := (inv.swap first second).mpr (by omega)
  have behind := (inv.swap second third).mpr (by omega)
  have whole := (inv.swap first third).mp (inv.trans _ _ _ behind ahead)
  omega

theorem orElse (further : Consistent other) : Consistent fun first second =>
    if compare first second = 0 then other first second else compare first second := by
  constructor
  · intro first second
    by_cases same : compare first second = 0
    · rw [if_pos same, if_pos (inv.same_place same)]
      exact further.swap first second
    · have ne : compare second first ≠ 0 := fun back => same (inv.same_place back)
      rw [if_neg same, if_neg ne]
      exact inv.swap first second
  intro first second third before after
  have firstLe : compare first second ≤ 0 := by
    split_ifs at before with same
    · exact Int.le_of_eq same
    · exact before
  have secondLe : compare second third ≤ 0 := by
    split_ifs at after with same
    · exact Int.le_of_eq same
    · exact after
  have wholeLe := inv.trans _ _ _ firstLe secondLe
  by_cases ends : compare first third = 0
  · -- All three are at one place of the first comparator.
    have back : compare third first ≤ 0 := Int.le_of_eq (inv.same_place ends)
    have firstSame : compare first second = 0 :=
      Int.le_antisymm firstLe
        ((inv.swap first second).mp (inv.trans _ _ _ secondLe back))
    have secondSame : compare second third = 0 :=
      Int.le_antisymm secondLe
        ((inv.swap second third).mp (inv.trans _ _ _ back firstLe))
    rw [if_pos firstSame] at before
    rw [if_pos secondSame] at after
    rw [if_pos ends]
    exact further.trans _ _ _ before after
  · rw [if_neg ends]
    exact wholeLe

theorem pairwise_sorted (items : List Item) : (items.insertionSort fun first second =>
    compare first second ≤ 0).Pairwise fun first second => compare first second ≤ 0 := by
  have total : Std.Total fun first second => compare first second ≤ 0 := ⟨inv.total⟩
  have trans : IsTrans Item fun first second => compare first second ≤ 0 := ⟨inv.trans⟩
  exact List.pairwise_insertionSort _ items

end

end Consistent

end RuneTerminal.Kit
