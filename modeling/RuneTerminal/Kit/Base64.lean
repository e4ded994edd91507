import Mathlib.Data.List.Basic

/-! The standard alphabet with padding. The decoder takes whole groups of four only, and nothing
behind a group that is padded. -/

namespace RuneTerminal.Kit.Base64

open List

def alphabet : List Char :=
  "ABCDEFGHIJKLMNOPQRSTUVWXYZabcdefghijklmnopqrstuvwxyz0123456789+/".toList

def digit (value : Nat) : Char := alphabet.getD value '='

def digitValue (c : Char) : Option Nat := alphabet.findIdx? (· == c)

def group (first second third : Nat) : List Char :=
  [digit (first / 4), digit (first % 4 * 16 + second / 16), digit (second % 16 * 4 + third / 64),
    digit (third % 64)]

def encode : List UInt8 → List Char
  | [] => []
  | [first] => (group first.toNat 0 0).take 2 ++ ['=', '=']
  | [first, second] => (group first.toNat second.toNat 0).take 3 ++ ['=']
  | first :: second :: third :: rest =>
    group first.toNat second.toNat third.toNat ++ encode rest

def byteOne (a b : Nat) : UInt8 := UInt8.ofNat (a * 4 + b / 16)

def byteTwo (b c : Nat) : UInt8 := UInt8.ofNat (b % 16 * 16 + c / 4)

def byteThree (c d : Nat) : UInt8 := UInt8.ofNat (c % 4 * 64 + d)

def decode : List Char → Option (List UInt8)
  | [] => some []
  | first :: second :: third :: fourth :: rest => do
      let a ← digitValue first
      let b ← digitValue second
      if third = '=' then
        if fourth = '=' ∧ rest = [] then some [byteOne a b] else none
      else
        let c ← digitValue third
        if fourth = '=' then
          if rest = [] then some [byteOne a b, byteTwo b c] else none
        else
          let d ← digitValue fourth
          let others ← decode rest
          some (byteOne a b :: byteTwo b c :: byteThree c d :: others)
  | _ => none

theorem digit_mem (value : Nat) : digit value ∈ '=' :: alphabet := by
  unfold digit
  rw [getD_eq_getElem?_getD]
  cases found : alphabet[value]? with
  | none => exact mem_cons_self
  | some c => exact mem_cons_of_mem _ (mem_of_getElem? found)

variable {c : Char}

theorem group_mem {first second third : Nat} (mem : c ∈ group first second third) :
    c ∈ '=' :: alphabet := by
  simp only [group, mem_cons, not_mem_nil, or_false] at mem
  rcases mem with rfl | rfl | rfl | rfl <;> exact digit_mem _

theorem encode_mem {bytes : List UInt8} (mem : c ∈ encode bytes) : c ∈ '=' :: alphabet := by
  have padding : ∀ c, c = '=' → c ∈ '=' :: alphabet := by
    rintro c rfl
    exact mem_cons_self
  induction bytes using encode.induct with
  | case1 => cases mem
  | case2 | case3 =>
    rcases mem_append.mp mem with digits | pad
    · exact group_mem (mem_of_mem_take digits)
    · exact padding c (by simpa using pad)
  | case4 first second third rest ih =>
    rcases mem_append.mp mem with digits | others
    · exact group_mem digits
    · exact ih others

section

theorem digit_spec : ∀ value < 64, digitValue (digit value) = some value ∧ digit value ≠ '=' := by
  decide +kernel

variable {value : Nat}

theorem digit_value_digit (small : value < 64) : digitValue (digit value) = some value :=
  (digit_spec value small).1

theorem digit_ne_pad (small : value < 64) : digit value ≠ '=' :=
  (digit_spec value small).2

variable (first second third : UInt8)

theorem byte_one_group :
    byteOne (first.toNat / 4) (first.toNat % 4 * 16 + second.toNat / 16) = first := by
  have small := second.toNat_lt
  have value : first.toNat / 4 * 4 + (first.toNat % 4 * 16 + second.toNat / 16) / 16 =
      first.toNat := by
    omega
  rw [byteOne, value, UInt8.ofNat_toNat]

theorem byte_two_group :
    byteTwo (first.toNat % 4 * 16 + second.toNat / 16) (second.toNat % 16 * 4 + third.toNat / 64) =
      second := by
  have small := second.toNat_lt
  have smallThird := third.toNat_lt
  have value : (first.toNat % 4 * 16 + second.toNat / 16) % 16 * 16 +
      (second.toNat % 16 * 4 + third.toNat / 64) / 4 = second.toNat := by
    omega
  rw [byteTwo, value, UInt8.ofNat_toNat]

theorem byte_three_group :
    byteThree (second.toNat % 16 * 4 + third.toNat / 64) (third.toNat % 64) = third := by
  have smallThird := third.toNat_lt
  have value : (second.toNat % 16 * 4 + third.toNat / 64) % 4 * 64 + third.toNat % 64 =
      third.toNat := by
    omega
  rw [byteThree, value, UInt8.ofNat_toNat]

end

theorem decode_encode (bytes : List UInt8) : decode (encode bytes) = some bytes := by
  induction bytes using encode.induct with
  | case1 => rfl
  | case2 first =>
    have small := first.toNat_lt
    have one := byte_one_group first 0
    rw [encode, group, take_succ_cons, take_succ_cons, take_zero,
      cons_append, cons_append, nil_append, decode,
      digit_value_digit (by omega), digit_value_digit (by omega)]
    simpa using one
  | case3 first second =>
    have small := first.toNat_lt
    have smallSecond := second.toNat_lt
    have one := byte_one_group first second
    have two := byte_two_group first second 0
    rw [encode, group, take_succ_cons, take_succ_cons, take_succ_cons,
      take_zero, cons_append, cons_append, cons_append, nil_append,
      decode, digit_value_digit (by omega), digit_value_digit (by omega)]
    have notPad : digit (second.toNat % 16 * 4 + 0 / 64) ≠ '=' := digit_ne_pad (by omega)
    simp only [if_neg notPad]
    rw [digit_value_digit (by omega)]
    simpa using ⟨one, two⟩
  | case4 first second third rest ih =>
    have small := first.toNat_lt
    have smallSecond := second.toNat_lt
    have smallThird := third.toNat_lt
    have notPad : digit (second.toNat % 16 * 4 + third.toNat / 64) ≠ '=' :=
      digit_ne_pad (by omega)
    have notPadLast : digit (third.toNat % 64) ≠ '=' := digit_ne_pad (by omega)
    rw [encode, group, cons_append, cons_append, cons_append, cons_append,
      nil_append, decode, digit_value_digit (by omega), digit_value_digit (by omega)]
    simp only [Option.bind_eq_bind, if_neg notPad, if_neg notPadLast]
    rw [digit_value_digit (by omega), digit_value_digit (by omega), ih]
    simp only [Option.bind_some, byte_one_group, byte_two_group, byte_three_group]

end RuneTerminal.Kit.Base64
