import RuneTerminal.Kit.Utf8
import RuneTerminal.Terminal.Service

/-! The read loop of `core/terminal/pty_unix.go` sends what each Read returned as a chunk, and
`consumeOutput` makes a string of it. A client receives JSON, with U+FFFD in the place of each byte
that belongs to no character. -/

namespace RuneTerminal.Terminal

open Kit List

def readBufferSize : Nat := 4096

/-- What a Read returned: the bytes it put into the buffer, and whether it returned an
error with them. -/
structure Read where
  bytes : List UInt8
  failed : Bool := false
  fits : bytes.length ≤ readBufferSize

def readLoop : List Read → List (List UInt8)
  | [] => []
  | read :: reads =>
    let chunk := if 0 < read.bytes.length then [read.bytes] else []
    if read.failed then chunk else chunk ++ readLoop reads

def loopReads : List Read → List Read
  | [] => []
  | read :: reads => if read.failed then [read] else read :: loopReads reads

def produced (reads : List Read) : List UInt8 := (loopReads reads).flatMap Read.bytes

/-- An `OutputChunk` of the service. Its string is whatever bytes it was made of. -/
structure ByteChunk where
  seq : Nat
  data : List UInt8
  timestamp : Nat

def nextByteSeq (chunks : List ByteChunk) : Nat :=
  match chunks.getLast? with
  | none => 1
  | some last => last.seq + 1

def keepLatest (chunks : List ByteChunk) : List ByteChunk :=
  if maxBufferedChunks < chunks.length then chunks.drop (chunks.length - maxBufferedChunks)
  else chunks

/-- What `consumeOutput` emits for the chunks of the channel, when `chunks` are buffered.
A number is given out at the time `now` of it. -/
def consumeOutput (now : Nat → Nat) : List ByteChunk → List (List UInt8) → List ByteChunk
  | _, [] => []
  | chunks, data :: output =>
    let seq := nextByteSeq chunks
    let chunk : ByteChunk := { seq := seq, data := data, timestamp := now seq }
    chunk :: consumeOutput now (keepLatest (chunks ++ [chunk])) output

/-- A chunk after it has been encoded to JSON and decoded by a client. -/
def clientChunk (chunk : ByteChunk) : OutputChunk where
  seq := chunk.seq
  data := String.ofList (Utf8.decode chunk.data)
  timestamp := chunk.timestamp

def clientText (chunks : List OutputChunk) : List Char :=
  chunks.flatMap fun chunk => chunk.data.toList

theorem flatten_read_loop (reads : List Read) : (readLoop reads).flatten = produced reads := by
  induction reads with
  | nil => rfl
  | cons read reads ih =>
    have chunk : (if 0 < read.bytes.length then [read.bytes] else []).flatten = read.bytes := by
      split
      · exact flatten_singleton
      · rename_i empty
        rw [eq_nil_of_length_eq_zero (Nat.eq_zero_of_not_pos empty)]
        rfl
    rw [readLoop, produced, loopReads]
    split
    · rw [chunk, flatMap_singleton]
    · rw [flatten_append, chunk, ih]
      rfl

theorem texts_read_loop (reads : List Read) : (∀ data ∈ readLoop reads, Utf8.IsText data) ↔
    ∀ read ∈ loopReads reads, Utf8.IsText read.bytes := by
  induction reads with
  | nil => exact Iff.intro (fun _ _ => nofun) fun _ _ => nofun
  | cons read reads ih =>
    have chunk : (∀ data ∈ if 0 < read.bytes.length then [read.bytes] else [],
        Utf8.IsText data) ↔ Utf8.IsText read.bytes := by
      split
      · exact forall_mem_singleton
      · rename_i empty
        rw [eq_nil_of_length_eq_zero (Nat.eq_zero_of_not_pos empty)]
        exact Iff.intro (fun _ => ⟨[], rfl⟩) fun _ _ => nofun
    rw [readLoop, loopReads]
    split
    · rw [chunk, forall_mem_singleton]
    · rw [forall_mem_append, chunk, ih, forall_mem_cons]

section

variable (now : Nat → Nat) (chunks : List ByteChunk) (output : List (List UInt8))
include now chunks output

theorem data_consume_output : (consumeOutput now chunks output).map ByteChunk.data = output := by
  induction output generalizing chunks with
  | nil => rfl
  | cons data output ih => rw [consumeOutput, map_cons, ih]

theorem client_text_eq_decode :
    clientText ((consumeOutput now chunks output).map clientChunk) = Utf8.decodePieces output := by
  have data := data_consume_output now chunks output
  rw [clientText, flatMap_map, Utf8.decodePieces]
  conv_rhs => rw [← data, flatMap_map]
  simp only [clientChunk, String.toList_ofList]

end

/-- The clients of a process that wrote a text read that text exactly if every Read returned
a text, from its first byte to its last. -/
theorem client_text_iff (now : Nat → Nat) (text : List Char) (reads : List Read)
    (wrote : produced reads = Utf8.encode text) :
    clientText ((consumeOutput now [] (readLoop reads)).map clientChunk) = text ↔
    ∀ read ∈ loopReads reads, Utf8.IsText read.bytes := by
  have whole : (readLoop reads).flatten = Utf8.encode text :=
    (flatten_read_loop reads).trans wrote
  rw [client_text_eq_decode, Utf8.decode_pieces_iff whole, texts_read_loop]

def cutCharacter : List Read :=
  [{ bytes := [0xc3], fits := by decide }, { bytes := [0xa9], failed := true, fits := by decide }]

theorem cut_character_is_not_read : produced cutCharacter = Utf8.encode ['é'] ∧
    clientText ((consumeOutput id [] (readLoop cutCharacter)).map clientChunk) =
    [Utf8.replacementChar, Utf8.replacementChar] ∧
    clientText ((consumeOutput id [] (readLoop cutCharacter)).map clientChunk) ≠ ['é'] := by
  decide

def wholeCharacters : List Read :=
  [{ bytes := Utf8.encode ['a', 'é'], fits := by decide },
    { bytes := Utf8.encode ['à'], failed := true, fits := by decide }]

theorem whole_character_is_read :
    clientText ((consumeOutput id [] (readLoop wholeCharacters)).map clientChunk) =
      ['a', 'é', 'à'] := by
  apply (client_text_iff id ['a', 'é', 'à'] wholeCharacters rfl).mpr
  intro read mem
  rcases mem_cons.mp mem with rfl | mem
  · exact ⟨['a', 'é'], rfl⟩
  rw [mem_singleton.mp mem]
  exact ⟨['à'], rfl⟩

end RuneTerminal.Terminal
