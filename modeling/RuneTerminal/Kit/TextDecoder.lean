import RuneTerminal.Kit.Utf8

/-! The UTF-8 decoder of the Encoding Standard: it takes one byte at a time and keeps what it knows
of an unfinished character. -/

namespace RuneTerminal.Kit.TextDecoder

open Kit.Utf8 List

/-- A character of which some bytes are missing, and the bounds of the next one. -/
structure Pending where
  codePoint : Nat
  needed : Nat
  lower : Nat
  upper : Nat

def idle : Pending := { codePoint := 0, needed := 0, lower := 0x80, upper := 0xbf }

def start (byte : Nat) : Pending × List Char :=
  if byte ≤ 0x7f then (idle, [Char.ofNat byte])
  else if 0xc2 ≤ byte ∧ byte ≤ 0xdf then
    ({ idle with codePoint := byte % 0x20, needed := 1 }, [])
  else if 0xe0 ≤ byte ∧ byte ≤ 0xef then
    ({ codePoint := byte % 0x10
       needed := 2
       lower := if byte = 0xe0 then 0xa0 else 0x80
       upper := if byte = 0xed then 0x9f else 0xbf }, [])
  else if 0xf0 ≤ byte ∧ byte ≤ 0xf4 then
    ({ codePoint := byte % 0x8
       needed := 3
       lower := if byte = 0xf0 then 0x90 else 0x80
       upper := if byte = 0xf4 then 0x8f else 0xbf }, [])
  else (idle, [replacementChar])

/-- A byte that cannot continue a character is looked at again behind its replacement. -/
def step (pending : Pending) (byte : UInt8) : Pending × List Char :=
  let byte := byte.toNat
  if pending.needed = 0 then start byte
  else if byte < pending.lower ∨ pending.upper < byte then
    ((start byte).1, replacementChar :: (start byte).2)
  else if pending.needed = 1 then
    (idle, [Char.ofNat (pending.codePoint * 0x40 + byte % 0x40)])
  else
    ({ idle with codePoint := pending.codePoint * 0x40 + byte % 0x40
                 needed := pending.needed - 1 }, [])

def run (pending : Pending) : List UInt8 → Pending × List Char
  | [] => (pending, [])
  | byte :: rest =>
    ((run (step pending byte).1 rest).1,
      (step pending byte).2 ++ (run (step pending byte).1 rest).2)

def finish (pending : Pending) : List Char :=
  if pending.needed = 0 then [] else [replacementChar]

theorem run_append (pending : Pending) (front back : List UInt8) :
    run pending (front ++ back) =
      ((run (run pending front).1 back).1,
        (run pending front).2 ++ (run (run pending front).1 back).2) := by
  induction front generalizing pending with
  | nil => rfl
  | cons byte front ih =>
    rw [cons_append, run, run, ih]
    simp only [append_assoc]

variable {pending : Pending}

section

variable {byte : Nat}

theorem to_nat_byte (small : byte < 256) : (UInt8.ofNat byte).toNat = byte :=
  UInt8.toNat_ofNat_of_lt small

theorem step_idle (small : byte < 256) : step idle (UInt8.ofNat byte) = start byte := by
  rw [step, to_nat_byte small]
  rfl

section

variable (small : byte < 256) (lower : pending.lower ≤ byte) (upper : byte ≤ pending.upper)
include small lower upper

theorem step_next (more : 1 < pending.needed) :
    step pending (UInt8.ofNat byte) =
      ({ idle with codePoint := pending.codePoint * 0x40 + byte % 0x40
                   needed := pending.needed - 1 }, []) := by
  rw [step, to_nat_byte small]
  rw [if_neg (by omega), if_neg (by omega), if_neg (by omega)]

theorem step_last (last : pending.needed = 1) : step pending (UInt8.ofNat byte) =
    (idle, [Char.ofNat (pending.codePoint * 0x40 + byte % 0x40)]) := by
  rw [step, to_nat_byte small]
  rw [if_neg (by omega), if_neg (by omega), if_pos last]

end

end

theorem run_cons (pending : Pending) (byte : UInt8) (rest : List UInt8) :
    run pending (byte :: rest) =
      ((run (step pending byte).1 rest).1,
        (step pending byte).2 ++ (run (step pending byte).1 rest).2) := rfl

section

variable {code : Nat}

theorem run_two (lower : 0x80 ≤ code) (upper : code ≤ 0x7ff) :
    run idle [UInt8.ofNat (code / 64 % 32 + 192), UInt8.ofNat (code % 64 + 128)] =
    (idle, [Char.ofNat code]) := by
  have first : start (code / 64 % 32 + 192) =
      ({ idle with codePoint := code / 64, needed := 1 }, []) := by
    have value : (code / 64 % 32 + 192) % 0x20 = code / 64 := by omega
    rw [start, if_neg (by omega), if_pos (by omega), value]
  have whole : code / 64 * 0x40 + (code % 64 + 128) % 0x40 = code := by omega
  rw [run_cons, step_idle (by omega), first, run_cons,
    step_last (by omega) (by dsimp only [idle]; omega) (by dsimp only [idle]; omega) rfl, whole]
  rfl

theorem run_three (lower : 0x800 ≤ code) (upper : code ≤ 0xffff)
    (scalar : code < 0xd800 ∨ 0xdfff < code) :
    run idle
      [UInt8.ofNat (code / 4096 % 16 + 224), UInt8.ofNat (code / 64 % 64 + 128),
        UInt8.ofNat (code % 64 + 128)] =
      (idle, [Char.ofNat code]) := by
  have first : start (code / 4096 % 16 + 224) =
      ({ codePoint := code / 4096, needed := 2
         lower := if code / 4096 % 16 + 224 = 0xe0 then 0xa0 else 0x80
         upper := if code / 4096 % 16 + 224 = 0xed then 0x9f else 0xbf }, []) := by
    have value : (code / 4096 % 16 + 224) % 0x10 = code / 4096 := by omega
    rw [start, if_neg (by omega), if_neg (by omega), if_pos (by omega), value]
  have bounds : (if code / 4096 % 16 + 224 = 0xe0 then 0xa0 else 0x80) ≤ code / 64 % 64 + 128 ∧
      code / 64 % 64 + 128 ≤ if code / 4096 % 16 + 224 = 0xed then 0x9f else 0xbf := by
    split_ifs <;> omega
  have front : code / 4096 * 0x40 + (code / 64 % 64 + 128) % 0x40 = code / 64 := by omega
  have whole : code / 64 * 0x40 + (code % 64 + 128) % 0x40 = code := by omega
  rw [run_cons, step_idle (by omega), first, run_cons,
    step_next (by omega) bounds.1 bounds.2 (by dsimp only; omega), front, run_cons,
    step_last (by omega) (by dsimp only [idle]; omega) (by dsimp only [idle]; omega) rfl, whole]
  rfl

theorem run_four (lower : 0x10000 ≤ code) (upper : code < 0x110000) :
    run idle
        [UInt8.ofNat (code / 262144 % 8 + 240), UInt8.ofNat (code / 4096 % 64 + 128),
          UInt8.ofNat (code / 64 % 64 + 128), UInt8.ofNat (code % 64 + 128)] =
      (idle, [Char.ofNat code]) := by
  have first : start (code / 262144 % 8 + 240) =
      ({ codePoint := code / 262144, needed := 3
         lower := if code / 262144 % 8 + 240 = 0xf0 then 0x90 else 0x80
         upper := if code / 262144 % 8 + 240 = 0xf4 then 0x8f else 0xbf }, []) := by
    have value : (code / 262144 % 8 + 240) % 0x8 = code / 262144 := by omega
    rw [start, if_neg (by omega), if_neg (by omega), if_neg (by omega), if_pos (by omega), value]
  have bounds :
      (if code / 262144 % 8 + 240 = 0xf0 then 0x90 else 0x80) ≤ code / 4096 % 64 + 128 ∧
        code / 4096 % 64 + 128 ≤ if code / 262144 % 8 + 240 = 0xf4 then 0x8f else 0xbf := by
    split_ifs <;> omega
  have two : code / 262144 * 0x40 + (code / 4096 % 64 + 128) % 0x40 = code / 4096 := by omega
  have three : code / 4096 * 0x40 + (code / 64 % 64 + 128) % 0x40 = code / 64 := by omega
  have whole : code / 64 * 0x40 + (code % 64 + 128) % 0x40 = code := by omega
  rw [run_cons, step_idle (by omega), first, run_cons,
    step_next (by omega) bounds.1 bounds.2 (by dsimp only; omega), two, run_cons,
    step_next (by omega) (by dsimp only [idle]; omega) (by dsimp only [idle]; omega)
      (by dsimp only; omega),
    three, run_cons,
    step_last (by omega) (by dsimp only [idle]; omega) (by dsimp only [idle]; omega) rfl, whole]
  rfl

end

theorem run_char (c : Char) : run idle (String.utf8EncodeChar c) = (idle, [c]) := by
  have scalar : c.val.toNat < 0xd800 ∨ 0xdfff < c.val.toNat ∧ c.val.toNat < 0x110000 := c.valid
  have value : Char.ofNat c.val.toNat = c := Char.ofNat_toNat c
  unfold String.utf8EncodeChar
  dsimp only
  generalize c.val.toNat = code at scalar value
  rw [← value]
  split_ifs with one two three
  · rw [run_cons, step_idle (by omega), start, if_pos one]
    rfl
  · exact run_two (by omega) two
  · exact run_three (by omega) three (scalar.imp_right And.left)
  · exact run_four (by omega) (by omega)

theorem run_encode_append (text : List Char) (bytes : List UInt8) :
    run idle (encode text ++ bytes) = ((run idle bytes).1, text ++ (run idle bytes).2) := by
  induction text with
  | nil => rfl
  | cons c text ih =>
    rw [encode_cons, append_assoc, run_append, run_char, ih]
    rfl

theorem run_encode (text : List Char) : run idle (encode text) = (idle, text) := by
  have whole := run_encode_append text []
  rwa [append_nil, run, append_nil] at whole

theorem start_needed (byte : Nat) (done : (start byte).1.needed = 0) : (start byte).2 ≠ [] := by
  unfold start at done ⊢
  split_ifs at done ⊢ <;> simp_all

theorem step_needed {byte : UInt8} (done : (step pending byte).1.needed = 0) :
    (step pending byte).2 ≠ [] := by
  unfold step at done ⊢
  dsimp only at done ⊢
  split_ifs at done ⊢ with between broken last
  · exact start_needed _ done
  · exact cons_ne_nil _ _
  · exact cons_ne_nil _ _
  · change pending.needed - 1 = 0 at done
    omega

theorem run_needed {bytes : List UInt8} (nonempty : bytes ≠ [])
    (done : (run pending bytes).1.needed = 0) : (run pending bytes).2 ≠ [] := by
  induction bytes generalizing pending with
  | nil => exact absurd rfl nonempty
  | cons byte rest ih =>
    intro none
    obtain ⟨first, others⟩ := append_eq_nil_iff.mp none
    cases rest with
    | nil => exact step_needed done first
    | cons next rest => exact ih (cons_ne_nil next rest) done others

theorem run_char_front {c : Char} {front back : List UInt8}
    (whole : String.utf8EncodeChar c = front ++ back) (unfinished : back ≠ []) :
    (run idle front).2 = [] := by
  have read := run_char c
  rw [whole, run_append] at read
  have done := congrArg (·.1.needed) read
  have chars := congrArg (·.2.length) read
  have more := length_pos_iff.mpr (run_needed unfinished done)
  rw [length_append, length_singleton] at chars
  apply eq_nil_of_length_eq_zero
  omega

def byteOrderMark : Char := Char.ofNat 0xfeff

/-- Between two calls: what is unfinished, and whether a character has come out yet. -/
structure Decoder where
  pending : Pending
  started : Bool

def Decoder.new : Decoder := { pending := idle, started := false }

def dropMark : List Char → List Char
  | [] => []
  | c :: rest => if c = byteOrderMark then rest else c :: rest

/-- `decode`, where only the last call is without `stream`. -/
def Decoder.decode (decoder : Decoder) (bytes : List UInt8) (stream : Bool) :
    Decoder × List Char :=
  let read := run decoder.pending bytes
  let chars := if stream then read.2 else read.2 ++ finish read.1
  (if stream then { pending := read.1, started := decoder.started || !chars.isEmpty } else .new,
    if decoder.started then chars else dropMark chars)

def readPieces (pending : Pending) : List (List UInt8) → List (List Char)
  | [] => []
  | chunk :: rest => (run pending chunk).2 :: readPieces (run pending chunk).1 rest

theorem read_pieces_append (pending : Pending) (front back : List (List UInt8)) :
    readPieces pending (front ++ back) =
      readPieces pending front ++ readPieces (run pending front.flatten).1 back := by
  induction front generalizing pending with
  | nil => rfl
  | cons chunk front ih =>
    rw [cons_append, readPieces, ih, flatten_cons, run_append]
    rfl

theorem read_pieces_flatten (pending : Pending) (chunks : List (List UInt8)) :
    (readPieces pending chunks).flatten = (run pending chunks.flatten).2 := by
  induction chunks generalizing pending with
  | nil => rfl
  | cons chunk chunks ih =>
    rw [readPieces, flatten_cons, ih, flatten_cons, run_append]

theorem drop_mark_other {chars : List Char} (other : chars.head? ≠ some byteOrderMark) :
    dropMark chars = chars := by
  cases chars with
  | nil => rfl
  | cons c rest =>
    rw [dropMark, if_neg]
    intro same
    exact other (by rw [same, head?_cons])

end RuneTerminal.Kit.TextDecoder
