import Mathlib.Algebra.GroupWithZero.Nat
import RuneTerminal.Kit.EventStream
import RuneTerminal.Kit.ListSplit
import Mathlib.Data.List.TakeWhile

/-! `bufio.Scanner` with the split function for lines. The first line that is not shorter than the
limit of the buffer ends the scan with an error. -/

namespace RuneTerminal.Go

open List

abbrev Bytes := List UInt8

def newline : UInt8 := 10

def carriageReturn : UInt8 := 13

/-- A line without its newline, and without a carriage return before it. -/
def dropCR (line : Bytes) : Bytes :=
  if line.getLast? = some carriageReturn then line.dropLast else line

def splitLines (data : Bytes) : List Bytes :=
  let lines := data.splitOnP (· == newline)
  if lines.getLast? = some [] then lines.dropLast else lines

/-- The lines that the scanner gives, and whether it ends at one that is too long. -/
def scanLines (limit : Nat) (data : Bytes) : List Bytes × Bool :=
  let lines := splitLines data
  ((lines.takeWhile fun line => line.length < limit).map dropCR,
    lines.any fun line => limit ≤ line.length)

def joinLines (closed : List Bytes) (tail : Bytes) : Bytes :=
  (closed.map (· ++ [newline])).flatten ++ tail

section

variable {closed : List Bytes} {tail : Bytes} (clean : ∀ line ∈ closed, newline ∉ line)
  (cleanTail : newline ∉ tail)
include clean cleanTail

theorem split_on_join_lines : (joinLines closed tail).splitOnP (· == newline) = closed ++ [tail] :=
  Kit.split_on_closed clean cleanTail

theorem split_join_lines :
    splitLines (joinLines closed tail) = if tail = [] then closed else closed ++ [tail] := by
  rw [splitLines, split_on_join_lines clean cleanTail]
  by_cases empty : tail = []
  · simp
  · simp

end

theorem drop_cr_of_not_mem {line : Bytes} (clean : carriageReturn ∉ line) : dropCR line = line := by
  rw [dropCR, if_neg]
  intro last
  exact clean (mem_of_getLast? last)

def textSize (text : List Char) : Nat :=
  (text.map Char.utf8Size).sum

def dropTextCR (line : List Char) : List Char :=
  if line.getLast? = some '\r' then line.dropLast else line

def splitTextLines (text : List Char) : List (List Char) :=
  let lines := text.splitOnP (· == '\n')
  if lines.getLast? = some [] then lines.dropLast else lines

/-- The lines of a text in UTF-8, and whether the scan ends at one that is too long. -/
def scanTextLines (limit : Nat) (text : List Char) : List (List Char) × Bool :=
  let lines := splitTextLines text
  ((lines.takeWhile fun line => textSize line < limit).map dropTextCR,
    lines.any fun line => limit ≤ textSize line)

section

open Kit

variable {stream : EventStream} {limit : Nat}

/-- The lines of the stream without the line feeds; an empty tail is no line. -/
def streamBodies (stream : EventStream) : List (List Char) :=
  stream.lines.map StreamLine.body ++ if stream.tail = [] then [] else [stream.tail]

def LinesFit (limit : Nat) (stream : EventStream) : Prop :=
  ∀ body ∈ streamBodies stream, textSize body < limit

theorem drop_text_cr_clean {text : List Char} (clean : CleanLine text) :
    dropTextCR text = text := by
  rw [dropTextCR, if_neg]
  intro last
  exact clean.2 (mem_of_getLast? last)

theorem drop_text_cr_body (line : StreamLine) : dropTextCR line.body = line.text := by
  unfold StreamLine.body
  split_ifs
  · rw [dropTextCR, getLast?_concat, if_pos rfl, dropLast_concat]
  · rw [append_nil]
    exact drop_text_cr_clean line.clean

theorem body_no_newline (line : StreamLine) : '\n' ∉ line.body := by
  intro mem
  rcases mem_append.mp mem with inText | inEnd
  · exact line.clean.1 inText
  · split_ifs at inEnd <;> simp at inEnd

theorem split_text_lines_stream (stream : EventStream) :
    splitTextLines stream.chars = streamBodies stream := by
  have split : stream.chars.splitOnP (· == '\n') =
      stream.lines.map StreamLine.body ++ [stream.tail] := by
    have clean : ∀ body ∈ stream.lines.map StreamLine.body, '\n' ∉ body := by
      intro body mem
      obtain ⟨line, _, rfl⟩ := mem_map.mp mem
      exact body_no_newline line
    have closed := split_on_closed clean stream.cleanTail.1
    rw [map_map] at closed
    exact closed
  unfold splitTextLines streamBodies
  rw [split]
  by_cases empty : stream.tail = []
  · simp [empty]
  · simp [empty]

theorem scan_text_lines_stream (fit : LinesFit limit stream) :
    scanTextLines limit stream.chars =
      (stream.lines.map StreamLine.text ++ if stream.tail = [] then [] else [stream.tail],
        false) := by
  have all : (streamBodies stream).takeWhile (fun line => decide (textSize line < limit)) =
      streamBodies stream := by
    rw [takeWhile_eq_self_iff]
    intro body mem
    exact decide_eq_true (fit body mem)
  have none : (streamBodies stream).any (fun line => decide (limit ≤ textSize line)) = false := by
    rw [any_eq_false]
    intro body mem
    simpa using fit body mem
  unfold scanTextLines
  rw [split_text_lines_stream]
  dsimp only
  rw [all, none]
  unfold streamBodies
  rw [map_append, map_map]
  have texts : stream.lines.map (dropTextCR ∘ StreamLine.body) =
      stream.lines.map StreamLine.text := map_congr_left fun line _ => drop_text_cr_body line
  rw [texts]
  by_cases empty : stream.tail = []
  · simp [empty]
  · simp [empty, drop_text_cr_clean stream.cleanTail]

end

end RuneTerminal.Go
