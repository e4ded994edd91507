import Mathlib.Data.List.Basic

/-! A decoder that puts a replacement character in the place of every byte that belongs to no
encoded character. A text decoded in pieces is read as written exactly if no character was cut. -/

namespace RuneTerminal.Kit.Utf8

open List

def encode (text : List Char) : List UInt8 := text.flatMap String.utf8EncodeChar

def replacementChar : Char := Char.ofNat 0xfffd

def decodeFrom : Nat → List UInt8 → List Char
  | _, [] => []
  | skipped + 1, _ :: rest => decodeFrom skipped rest
  | 0, byte :: rest =>
    match (byte :: rest).toByteArray.utf8DecodeChar? 0 with
    | some c => c :: decodeFrom (c.utf8Size - 1) rest
    | none => replacementChar :: decodeFrom 0 rest

def decode (bytes : List UInt8) : List Char := decodeFrom 0 bytes

def IsText (bytes : List UInt8) : Prop := ∃ text, bytes = encode text

def valid (bytes : List UInt8) : Bool := encode (decode bytes) == bytes

theorem encode_append (left right : List Char) :
    encode (left ++ right) = encode left ++ encode right :=
  flatMap_append

theorem encode_cons (c : Char) (text : List Char) :
    encode (c :: text) = String.utf8EncodeChar c ++ encode text :=
  flatMap_cons

theorem decode_from_append (skipped bytes : List UInt8) :
    decodeFrom skipped.length (skipped ++ bytes) = decode bytes := by
  induction skipped with
  | nil => rfl
  | cons byte skipped ih => exact ih

variable {byte : UInt8} {rest : List UInt8} {text : List Char}

theorem decode_unread (unread : (byte :: rest).toByteArray.utf8DecodeChar? 0 = none) :
    decode (byte :: rest) = replacementChar :: decode rest := by
  rw [decode, decodeFrom, unread]
  rfl

theorem decode_char (c : Char) (bytes : List UInt8) :
    decode (String.utf8EncodeChar c ++ bytes) = c :: decode bytes := by
  have size : (String.utf8EncodeChar c).length = c.utf8Size := String.length_utf8EncodeChar c
  have read : (String.utf8EncodeChar c ++ bytes).toByteArray.utf8DecodeChar? 0 = some c := by
    rw [toByteArray_append]
    exact ByteArray.utf8DecodeChar?_utf8EncodeChar_append
  cases encoded : String.utf8EncodeChar c with
  | nil =>
    rw [encoded] at size
    exact absurd size (Nat.ne_of_lt c.utf8Size_pos)
  | cons byte others =>
    rw [encoded] at size read
    rw [cons_append] at read
    rw [decode, cons_append, decodeFrom, read]
    dsimp only
    rw [← size, length_cons, Nat.add_sub_cancel, decode_from_append]

theorem decode_encode_append (text : List Char) (bytes : List UInt8) :
    decode (encode text ++ bytes) = text ++ decode bytes := by
  induction text with
  | nil => rfl
  | cons c text ih =>
    rw [encode_cons, append_assoc, decode_char, ih, cons_append]

theorem decode_encode (text : List Char) : decode (encode text) = text := by
  have whole := decode_encode_append text []
  rw [append_nil] at whole
  rw [whole]
  exact append_nil text

variable {bytes : List UInt8}

theorem valid_iff : valid bytes = true ↔ IsText bytes := by
  rw [valid, beq_iff_eq]
  constructor
  · intro same
    exact ⟨decode bytes, same.symm⟩
  · rintro ⟨text, rfl⟩
    rw [decode_encode]

def firstBytes (bytes : List UInt8) : Nat := bytes.countP fun byte => byte.IsUTF8FirstByte

theorem first_bytes_append (left right : List UInt8) :
    firstBytes (left ++ right) = firstBytes left + firstBytes right :=
  countP_append

theorem encoded_cases (c : Char) : ∃ first others, String.utf8EncodeChar c = first :: others ∧
    first.IsUTF8FirstByte ∧ ∀ byte ∈ others, ¬byte.IsUTF8FirstByte := by
  have isFirst : ∀ index, (bound : index < (String.utf8EncodeChar c).length) →
      ((String.utf8EncodeChar c)[index].IsUTF8FirstByte ↔ index = 0) := fun index bound =>
    UInt8.isUTF8FirstByte_getElem_utf8EncodeChar
  cases encoded : String.utf8EncodeChar c with
  | nil =>
    have size := String.length_utf8EncodeChar c
    rw [encoded] at size
    exact absurd size (Nat.ne_of_lt c.utf8Size_pos)
  | cons first others =>
    simp only [encoded] at isFirst
    refine ⟨first, others, rfl, (isFirst 0 (Nat.zero_lt_succ _)).mpr rfl, ?_⟩
    intro byte mem
    rcases getElem_of_mem mem with ⟨index, bound, rfl⟩
    have later := isFirst (index + 1) (Nat.succ_lt_succ bound)
    rw [getElem_cons_succ] at later
    rw [later]
    exact Nat.succ_ne_zero index

theorem first_bytes_others {others : List UInt8} (none : ∀ byte ∈ others, ¬byte.IsUTF8FirstByte) :
    firstBytes others = 0 := by
  apply countP_eq_zero.mpr
  intro byte mem
  rw [decide_eq_true_iff]
  exact none byte mem

theorem first_bytes_char (c : Char) : firstBytes (String.utf8EncodeChar c) = 1 := by
  rcases encoded_cases c with ⟨first, others, encoded, isFirst, none⟩
  rw [encoded, firstBytes, countP_cons_of_pos (by simpa using isFirst)]
  rw [← firstBytes, first_bytes_others none]

theorem first_bytes_encode (text : List Char) : firstBytes (encode text) = text.length := by
  induction text with
  | nil => rfl
  | cons c text ih =>
    rw [encode_cons, first_bytes_append, first_bytes_char, ih, length_cons, Nat.add_comm]

theorem encoded_of_read {c : Char} (read : bytes.toByteArray.utf8DecodeChar? 0 = some c) :
    ∃ rest, bytes = String.utf8EncodeChar c ++ rest := by
  rcases ByteArray.exists_of_utf8DecodeChar?_eq_some read with ⟨rest, whole⟩
  refine ⟨rest.data.toList, ?_⟩
  have lists := congrArg (fun array => array.data.toList) whole
  simpa using lists

theorem first_bytes_le_decode (bytes : List UInt8) : firstBytes bytes ≤ (decode bytes).length := by
  induction size : bytes.length using Nat.strongRecOn generalizing bytes with
  | _ count ih =>
    cases bytes with
    | nil => exact Nat.le_refl 0
    | cons byte rest =>
      cases read : (byte :: rest).toByteArray.utf8DecodeChar? 0 with
      | none =>
        have others := ih rest.length (by rw [← size]; exact Nat.lt_succ_self _) rest rfl
        have front : firstBytes (byte :: rest) ≤ firstBytes rest + 1 := by
          rw [firstBytes, countP_cons]
          split
          · exact Nat.le_refl _
          · exact Nat.le_succ _
        rw [decode_unread read, length_cons]
        omega
      | some c =>
        rcases encoded_of_read read with ⟨after, whole⟩
        have shorter : after.length < count := by
          rw [← size, whole, length_append, String.length_utf8EncodeChar]
          have positive := c.utf8Size_pos
          omega
        have others := ih after.length shorter after rfl
        rw [whole, first_bytes_append, first_bytes_char, decode_char, length_cons]
        omega

theorem decode_other (other : ¬byte.IsUTF8FirstByte) (rest : List UInt8) :
    decode (byte :: rest) = replacementChar :: decode rest := by
  apply decode_unread
  cases read : (byte :: rest).toByteArray.utf8DecodeChar? 0 with
  | none => rfl
  | some c =>
    rcases encoded_of_read read with ⟨after, whole⟩
    rcases encoded_cases c with ⟨first, others, encoded, isFirst, _⟩
    rw [encoded] at whole
    obtain rfl := (cons.inj whole).1
    exact absurd isFirst other

def decodePieces (pieces : List (List UInt8)) : List Char := pieces.flatMap decode

theorem first_bytes_le_pieces (pieces : List (List UInt8)) :
    firstBytes pieces.flatten ≤ (decodePieces pieces).length := by
  induction pieces with
  | nil => exact Nat.le_refl 0
  | cons piece pieces ih =>
    have front := first_bytes_le_decode piece
    rw [flatten_cons, first_bytes_append, decodePieces, flatMap_cons,
      length_append, ← decodePieces]
    omega

variable {pieces : List (List UInt8)}

/-- Pieces whose bytes start with another byte than a first one are read as one character
too many. -/
theorem first_bytes_lt_pieces (whole : pieces.flatten = byte :: rest)
    (other : ¬byte.IsUTF8FirstByte) : firstBytes pieces.flatten < (decodePieces pieces).length := by
  induction pieces with
  | nil => cases whole
  | cons piece pieces ih =>
    cases piece with
    | nil => exact ih whole
    | cons first others =>
      obtain rfl := (cons.inj whole).1
      have front := first_bytes_le_decode others
      have back := first_bytes_le_pieces pieces
      have notFirst : firstBytes (first :: others) = firstBytes others :=
        countP_cons_of_neg (by simpa using other)
      rw [flatten_cons, first_bytes_append, decodePieces, flatMap_cons, decode_other
        other, length_append, length_cons, ← decodePieces]
      omega

/-- Where a piece of an encoded text ends: between two characters or within one. -/
theorem encode_cut {piece : List UInt8} (whole : piece ++ rest = encode text) :
    (∃ front back, text = front ++ back ∧ piece = encode front ∧ rest = encode back) ∨
    ∃ front c back first others after, text = front ++ c :: back ∧
      piece = encode front ++ first :: others ∧ first.IsUTF8FirstByte ∧
      (∃ byte after', after = byte :: after' ∧ ¬byte.IsUTF8FirstByte) ∧
      rest = after ++ encode back ∧ firstBytes after = 0 := by
  induction text generalizing piece with
  | nil =>
    have both := append_eq_nil_iff.mp whole
    exact .inl ⟨[], [], rfl, both.1, both.2⟩
  | cons c text ih =>
    rcases append_eq_append_iff.mp whole with
      ⟨after, isChar, rest'⟩ | ⟨further, isPiece, rest'⟩
    · rcases encoded_cases c with ⟨first, others, encoded, isFirst, none⟩
      cases piece with
      | nil => exact .inl ⟨[], c :: text, rfl, rfl, whole⟩
      | cons byte bytes =>
        rw [encoded, cons_append] at isChar
        cases isChar
        cases after with
        | nil =>
          refine .inl ⟨[c], text, rfl, ?_, rest'⟩
          rw [encode_cons, encoded, append_nil]
          exact (append_nil _).symm
        | cons next after =>
          have noFirst : ∀ byte ∈ next :: after, ¬byte.IsUTF8FirstByte := fun byte mem =>
            none byte (mem_append_right bytes mem)
          exact .inr ⟨[], c, text, first, bytes, next :: after, rfl, rfl, isFirst,
            ⟨next, after, rfl, noFirst next mem_cons_self⟩, rest',
            first_bytes_others noFirst⟩
    · rcases ih rest'.symm with ⟨front, back, rfl, rfl, isRest⟩ |
        ⟨front, c', back, first, others, after, rfl, rfl, isFirst, starts, isRest, count⟩
      · exact .inl ⟨c :: front, back, rfl, by rw [isPiece, encode_cons], isRest⟩
      · refine .inr ⟨c :: front, c', back, first, others, after, rfl, ?_, isFirst, starts,
          isRest, count⟩
        rw [isPiece, encode_cons, append_assoc]

theorem encode_decode_pieces (isTexts : ∀ piece ∈ pieces, IsText piece) :
    pieces.flatten = encode (decodePieces pieces) := by
  induction pieces with
  | nil => rfl
  | cons piece pieces ih =>
    rcases isTexts piece mem_cons_self with ⟨text, rfl⟩
    have others := ih fun other mem => isTexts other (mem_cons_of_mem _ mem)
    have read : decodePieces (encode text :: pieces) = text ++ decodePieces pieces := by
      rw [decodePieces, flatMap_cons, decode_encode, ← decodePieces]
    rw [flatten_cons, others, read, encode_append]

theorem texts_of_decode_pieces (whole : pieces.flatten = encode text)
    (same : decodePieces pieces = text) : ∀ piece ∈ pieces, IsText piece := by
  induction pieces generalizing text with
  | nil => exact fun piece mem => absurd mem not_mem_nil
  | cons piece pieces ih =>
    have read : decodePieces (piece :: pieces) = decode piece ++ decodePieces pieces :=
      flatMap_cons
    rcases encode_cut whole with ⟨front, back, rfl, rfl, isRest⟩ |
      ⟨front, c, back, first, others, after, rfl, rfl, isFirst, ⟨byte, after', rfl, other⟩,
        isRest, count⟩
    · rw [read, decode_encode, append_cancel_left_eq] at same
      rw [forall_mem_cons]
      exact ⟨⟨front, rfl⟩, ih isRest same⟩
    -- The character is read once at its first byte, and once more in the next piece.
    exfalso
    have later : back.length < (decodePieces pieces).length := by
      have more := first_bytes_lt_pieces isRest other
      rw [isRest, first_bytes_append, first_bytes_encode] at more
      omega
    have started : 0 < (decode (first :: others)).length := by
      have bound := first_bytes_le_decode (first :: others)
      rw [firstBytes, countP_cons_of_pos (by simpa using isFirst)] at bound
      omega
    have lengths := congrArg length same
    rw [read, decode_encode_append, length_append, length_append,
      length_append, length_cons] at lengths
    omega

theorem decode_pieces_iff (whole : pieces.flatten = encode text) :
    decodePieces pieces = text ↔ ∀ piece ∈ pieces, IsText piece := by
  constructor
  · exact texts_of_decode_pieces whole
  · intro isTexts
    rw [encode_decode_pieces isTexts] at whole
    rw [← decode_encode text, ← whole, decode_encode]

theorem is_text_front_iff {front back : List UInt8} (whole : front ++ back = encode text) :
    IsText front ↔ ∀ byte after, back = byte :: after → byte.IsUTF8FirstByte := by
  constructor
  · rintro ⟨read, rfl⟩ byte after rfl
    have pieces : [encode read, byte :: after].flatten = encode text := by simpa using whole
    have same : decodePieces [encode read, byte :: after] = text := by
      rw [decodePieces, flatMap_cons, flatMap_cons, flatMap_nil, append_nil,
        decode_encode, ← decode_encode_append, whole, decode_encode]
    obtain ⟨others, isBack⟩ := texts_of_decode_pieces pieces same (byte :: after) (by simp)
    cases others with
    | nil => cases isBack
    | cons c others =>
      obtain ⟨first, more, encoded, isFirst, -⟩ := encoded_cases c
      rw [encode_cons, encoded] at isBack
      rw [(cons.inj isBack).1]
      exact isFirst
  · intro starts
    rcases encode_cut whole with ⟨read, _, _, isFront, _⟩ |
      ⟨_, _, _, _, _, after, _, _, _, ⟨byte, more, rfl, other⟩, isBack, _⟩
    · exact ⟨read, isFront⟩
    · exact absurd (starts byte _ isBack) other

end RuneTerminal.Kit.Utf8
