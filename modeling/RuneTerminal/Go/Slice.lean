import Mathlib.Data.List.Basic

/-! A slice looks at the front of an array. What is appended to it goes into the cells behind it
where there are enough, over what other slices of the array have there. -/

namespace RuneTerminal.Go

open List

/-- A slice of `length` items and the cells of its array, from its first item on. -/
structure Slice (Item : Type) where
  cells : List Item
  length : Nat
  fits : length ≤ cells.length

namespace Slice

variable {Item : Type} (s : Slice Item)

def items : List Item := s.cells.take s.length

/-- The slice expression `s[:count]`. -/
def take (count : Nat) : Slice Item where
  cells := s.cells
  length := min count s.length
  fits := Nat.le_trans (Nat.min_le_right _ _) s.fits

/-- `append` of values that have been read. Where the array is too short for them, the new
one has no cells behind them. -/
def append (values : List Item) : Slice Item where
  cells := s.items ++ (values ++ s.cells.drop (s.length + values.length))
  length := s.length + values.length
  fits := by
    have front := length_take_of_le s.fits
    rw [items, length_append, length_append, front]
    omega

@[simp]
theorem items_take (count : Nat) : (s.take count).items = s.items.take count := by
  rw [take, items, items, take_take]

@[simp]
theorem items_append (values : List Item) : (s.append values).items = s.items ++ values := by
  have front : s.items.length = s.length := length_take_of_le s.fits
  change (s.items ++ (values ++ _)).take (s.length + values.length) = _
  rw [← front, take_length_add_append, take_left]

end Slice

end RuneTerminal.Go
