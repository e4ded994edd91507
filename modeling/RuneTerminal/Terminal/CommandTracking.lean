import RuneTerminal.Go.Strings

/-! The input that is sent to a session is also read as a line editor would read it, and every
closed line is recorded as a command (`core/terminal/service.go`). The time of a record is left out.
-/

namespace RuneTerminal.Terminal

open Go.Strings (trimSpace)
open List

structure CommandRecord where
  command : String
  fromSeq : Nat
  deriving DecidableEq

/-- What a session keeps of its input. -/
structure SubmittedInput where
  inputBuffer : String := ""
  commands : List CommandRecord := []
  deriving DecidableEq

def maxBufferedCommands : Nat := 32

def trimLastInputRune (value : String) : String := String.ofList value.toList.dropLast

def appendCommandRecordLocked (sess : SubmittedInput) (fromSeq : Nat) (command : String) :
    SubmittedInput :=
  if trimSpace command = "" then sess
  else
    let commands := sess.commands ++ [{ command := trimSpace command, fromSeq := fromSeq }]
    if maxBufferedCommands < commands.length then
      { sess with commands := commands.drop (commands.length - maxBufferedCommands) }
    else { sess with commands := commands }

def isEraser (c : Char) : Bool := c == Char.ofNat 8 || c == Char.ofNat 0x7f

def isLineEnd (c : Char) : Bool := c == '\r' || c == '\n'

/-- A character that is dropped: below the blank, and not the tab. -/
def isIgnored (c : Char) : Bool := decide (c.toNat < 0x20) && c != '\t'

/-- One round of the loop over the characters. -/
def trackRune (baselineSeq : Nat) (sess : SubmittedInput) (r : Char) : SubmittedInput :=
  if isEraser r then { sess with inputBuffer := trimLastInputRune sess.inputBuffer }
  else if isLineEnd r then
    { appendCommandRecordLocked sess baselineSeq sess.inputBuffer with inputBuffer := "" }
  else if isIgnored r then sess
  else { sess with inputBuffer := sess.inputBuffer.push r }

structure SentInput where
  text : String
  appendNewline : Bool
  baselineSeq : Nat

def SentInput.input (sent : SentInput) : List Char :=
  sent.text.toList ++ if sent.appendNewline then ['\n'] else []

def trackSubmittedCommandsLocked (sess : SubmittedInput) (sent : SentInput) : SubmittedInput :=
  sent.input.foldl (trackRune sent.baselineSeq) sess

def erase (line : List Char) : List Char :=
  line.foldl (fun kept c => if isEraser c then kept.dropLast else kept ++ [c]) []

def editedLine (line : List Char) : List Char :=
  erase (line.filter fun c => isEraser c || !isIgnored c)

/-- What stands behind the last line end is not submitted. -/
def closedLines (input : List Char) : List (List Char) := (input.splitOnP isLineEnd).dropLast

def submittedCommands (input : List Char) : List String :=
  (((closedLines input).map fun line => trimSpace (String.ofList (editedLine line))).filter
    (· ≠ "")).rtake maxBufferedCommands

def AtLineStart (input : List Char) : Prop :=
  input = [] ∨ ∃ start r, input = start ++ [r] ∧ isLineEnd r = true

theorem split_open_line {before line : List Char} (starts : AtLineStart before)
    (isOpen : ∀ c ∈ line, isLineEnd c = false) :
    (before ++ line).splitOnP isLineEnd = closedLines before ++ [line] := by
  have single := splitOnP_eq_singleton isOpen
  rcases starts with rfl | ⟨start, r, rfl, isEnd⟩
  · rw [nil_append, single]
    rfl
  · unfold closedLines
    rw [append_assoc, singleton_append, splitOnP_append_cons start line isEnd,
      splitOnP_append_cons start [] isEnd, splitOnP_nil, dropLast_concat, single]

structure Tracks (input : List Char) (sess : SubmittedInput) : Prop where
  split : ∃ before line, input = before ++ line ∧ AtLineStart before ∧
    (∀ c ∈ line, isLineEnd c = false) ∧ sess.inputBuffer = String.ofList (editedLine line)
  commands : sess.commands.map (·.command) = submittedCommands input

theorem tracks_start : Tracks [] {} where
  split := ⟨[], [], rfl, .inl rfl, by simp, rfl⟩
  commands := rfl

theorem edited_line_concat (line : List Char) (c : Char) :
    editedLine (line ++ [c]) =
      if isEraser c then (editedLine line).dropLast
      else if isIgnored c then editedLine line else editedLine line ++ [c] := by
  unfold editedLine erase
  by_cases erases : isEraser c = true
  · simp [erases]
  · by_cases ignored : isIgnored c = true
    · simp [erases, ignored]
    · simp [ignored]

theorem rtake_rtake_concat {Item : Type} (items : List Item) (item : Item) (count : Nat) :
    (items.rtake (count + 1) ++ [item]).rtake (count + 1) =
    (items ++ [item]).rtake (count + 1) := by
  rw [rtake_concat_succ, rtake_concat_succ]
  congr 1
  unfold rtake
  rw [drop_drop, length_drop]
  congr 1
  omega

variable {sess : SubmittedInput}

theorem append_command_record_commands (fromSeq : Nat) (command : String) :
    (appendCommandRecordLocked sess fromSeq command).commands.map (·.command) =
      if trimSpace command = "" then sess.commands.map (·.command)
      else (sess.commands.map (·.command) ++ [trimSpace command]).rtake maxBufferedCommands := by
  unfold appendCommandRecordLocked
  by_cases blank : trimSpace command = ""
  · rw [if_pos blank, if_pos blank]
  dsimp only
  split_ifs with long
  · simp [rtake]
  · have short : sess.commands.length + 1 ≤ maxBufferedCommands := by simpa using long
    simp [rtake, Nat.sub_eq_zero_of_le short]

variable {input : List Char}

theorem track_rune_tracks (tracks : Tracks input sess) (baselineSeq : Nat) (r : Char) :
    Tracks (input ++ [r]) (trackRune baselineSeq sess r) := by
  obtain ⟨⟨before, line, rfl, starts, isOpen, buffer⟩, commands⟩ := tracks
  have closed : closedLines (before ++ line) = closedLines before := by
    rw [closedLines, split_open_line starts isOpen, dropLast_concat]
  by_cases isEnd : isLineEnd r = true
  · have notEraser : isEraser r = false := by
      rcases Bool.or_eq_true_iff.mp isEnd with is | is
      · rw [beq_iff_eq.mp is]; decide
      · rw [beq_iff_eq.mp is]; decide
    have next : closedLines (before ++ line ++ [r]) = closedLines before ++ [line] := by
      rw [closedLines, splitOnP_append_cons _ [] isEnd, splitOnP_nil,
        dropLast_concat, split_open_line starts isOpen]
    unfold trackRune
    rw [if_neg (by simp [notEraser]), if_pos isEnd]
    refine ⟨⟨before ++ line ++ [r], [], (append_nil _).symm, .inr ⟨_, r, rfl, isEnd⟩, by simp,
      rfl⟩, ?_⟩
    rw [append_command_record_commands, commands, buffer]
    unfold submittedCommands
    rw [next, closed, map_append, filter_append]
    split_ifs with blank
    · simp [blank]
    · simp only [map_cons, map_nil, filter_singleton]
      rw [decide_eq_true blank]
      exact rtake_rtake_concat _ _ 31
  have isInside : isLineEnd r = false := by simpa using isEnd
  have stillOpen : ∀ c ∈ line ++ [r], isLineEnd c = false := by
    simpa [or_imp, forall_and, isInside] using isOpen
  have kept : submittedCommands (before ++ line ++ [r]) = submittedCommands (before ++ line) := by
    unfold submittedCommands
    rw [closed, append_assoc, closedLines, split_open_line starts stillOpen,
      dropLast_concat]
  have edited := edited_line_concat line r
  unfold trackRune
  split_ifs with erases ignored
  · refine ⟨⟨before, line ++ [r], append_assoc _ _ _, starts, stillOpen, ?_⟩,
      commands.trans kept.symm⟩
    rw [edited, if_pos erases]
    simp [trimLastInputRune, buffer]
  · refine ⟨⟨before, line ++ [r], append_assoc _ _ _, starts, stillOpen, ?_⟩,
      commands.trans kept.symm⟩
    rw [edited, if_neg erases, if_pos ignored, buffer]
  refine ⟨⟨before, line ++ [r], append_assoc _ _ _, starts, stillOpen, ?_⟩,
    commands.trans kept.symm⟩
  rw [edited, if_neg erases, if_neg ignored]
  simp [buffer]

theorem track_submitted_tracks (tracks : Tracks input sess) (sent : SentInput) :
    Tracks (input ++ sent.input) (trackSubmittedCommandsLocked sess sent) := by
  unfold trackSubmittedCommandsLocked
  induction sent.input generalizing input sess with
  | nil => simpa using tracks
  | cons r rest ih =>
    have next := ih (track_rune_tracks tracks sent.baselineSeq r)
    rwa [append_assoc, singleton_append] at next

/-- However the input is cut into calls, the commands are those of the whole of it. -/
theorem submitted_commands_of_sends (sends : List SentInput) :
    (sends.foldl trackSubmittedCommandsLocked {}).commands.map (·.command) =
    submittedCommands (sends.flatMap SentInput.input) := by
  suffices run : ∀ {input : List Char} {sess : SubmittedInput}, Tracks input sess →
      Tracks (input ++ sends.flatMap SentInput.input)
        (sends.foldl trackSubmittedCommandsLocked sess) from (run tracks_start).commands
  induction sends with
  | nil =>
    intro input sess tracks
    simpa using tracks
  | cons sent rest ih =>
    intro input sess tracks
    have next := ih (track_submitted_tracks tracks sent)
    rwa [append_assoc, ← flatMap_cons] at next

example : ([⟨"lz", false, 1⟩, ⟨"\x7fs", true, 2⟩] : List SentInput).foldl
    trackSubmittedCommandsLocked {} = { commands := [⟨"ls", 2⟩] } := by decide

end RuneTerminal.Terminal
