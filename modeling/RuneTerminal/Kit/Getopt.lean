import Mathlib.Data.String.Basic

/-! The reading of an argument list by `getopt`: a letter that takes an argument takes the rest of
its cluster or the next argument, `--` ends the options, and a dash alone is no option. Further
options may follow the operand. -/

namespace RuneTerminal.Kit.Getopt

open List Option

/-- An option letter with its argument. -/
structure Flag where
  letter : Char
  argument : Option String := none

/-- What a program knows of option letters: `none` for a letter it does not have. -/
structure Grammar where
  takesArgument : Char → Option Bool
  /-- Whether options are read after the operand, given that `--` stood before it. -/
  readsPastOperand : Bool → Bool

/-- A cluster gives its options and the letter that still waits for its argument. -/
def readCluster (g : Grammar) : List Char → Option (List Flag × Option Char)
  | [] => some ([], none)
  | letter :: rest =>
    match g.takesArgument letter with
    | none => none
    | some false => (readCluster g rest).map fun read => (⟨letter, none⟩ :: read.1, read.2)
    | some true =>
      if rest = [] then some ([], some letter)
      else some ([⟨letter, some (String.ofList rest)⟩], none)

/-- The options in front of an argument list, what follows them, and whether `--` ended
them. -/
structure Options where
  flags : List Flag
  rest : List String
  terminated : Bool := false

def Options.after (flags : List Flag) (o : Options) : Options :=
  { o with flags := flags ++ o.flags }

@[simp]
theorem Options.after_nil : Options.after [] = id := rfl

/-- `waiting` is the letter whose argument comes next. -/
def readOptions (g : Grammar) : Option Char → List String → Option Options
  | some _, [] => none
  | some letter, argument :: rest =>
    (readOptions g none rest).map (Options.after [⟨letter, some argument⟩])
  | none, [] => some { flags := [], rest := [] }
  | none, argument :: rest =>
    match argument.toList with
    | '-' :: letter :: cluster =>
      if letter = '-' ∧ cluster = [] then some { flags := [], rest := rest, terminated := true }
      else
        match readCluster g (letter :: cluster) with
        | none => none
        | some (flags, waiting) => (readOptions g waiting rest).map (Options.after flags)
    | _ => some { flags := [], rest := argument :: rest }

/-- Options, one operand, and the words that follow. -/
structure Command where
  flags : List Flag
  operand : String
  words : List String

def parse (g : Grammar) (arguments : List String) : Option Command :=
  match readOptions g none arguments with
  | none => none
  | some front =>
    match front.rest with
    | [] => none
    | operand :: words =>
      if g.readsPastOperand front.terminated then
        (readOptions g none words).map fun back =>
          { flags := front.flags ++ back.flags, operand := operand, words := back.rest }
      else some { flags := front.flags, operand := operand, words := words }

def isOperand (argument : String) : Bool :=
  match argument.toList with
  | '-' :: _ :: _ => false
  | _ => true

def startsWithoutOption (arguments : List String) : Bool :=
  arguments.head?.all fun argument => isOperand argument || argument == "--"

variable {g : Grammar} {argument operand : String} {letter : Char} {o : Options} {own : List Flag}

theorem read_options_operand (operand : isOperand argument = true) (rest : List String) :
    readOptions g none (argument :: rest) = some { flags := [], rest := argument :: rest } := by
  unfold isOperand at operand
  rw [readOptions]
  split at operand
  · cases operand
  · rfl

theorem read_options_end (rest : List String) :
    readOptions g none ("--" :: rest) = some { flags := [], rest := rest, terminated := true } := by
  have chars : "--".toList = ['-', '-'] := by decide
  simp only [readOptions, chars, and_self, if_pos]

theorem read_options_letter {word : String} (chars : word.toList = ['-', letter])
    (notDash : letter ≠ '-') (takes : g.takesArgument letter = some true) (argument : String)
    (rest : List String) : readOptions g none (word :: argument :: rest) =
    (readOptions g none rest).map (Options.after [⟨letter, some argument⟩]) := by
  have cluster : readCluster g [letter] = some ([], some letter) := by
    simp only [readCluster, takes, if_pos]
  have waits : readOptions g (some letter) (argument :: rest) =
      (readOptions g none rest).map (Options.after [⟨letter, some argument⟩]) := by
    rw [readOptions]
  rw [readOptions, chars]
  simp only [notDash, cluster, waits, Option.map_map]
  congr 1

theorem read_cluster_option {cluster : List Char} {flags : List Flag} {waiting : Option Char}
    (read : readCluster g (letter :: cluster) = some (flags, waiting)) :
    flags ≠ [] ∨ waiting.isSome = true := by
  rw [readCluster] at read
  split at read
  · cases read
  · obtain ⟨more, _, same⟩ := map_eq_some_iff.mp read
    exact .inl ((Prod.mk.inj same).1 ▸ cons_ne_nil _ _)
  · split at read
    · exact .inr ((Prod.mk.inj (some.inj read)).2 ▸ rfl)
    · exact .inl ((Prod.mk.inj (some.inj read)).1 ▸ cons_ne_nil _ _)

variable {arguments : List String}

theorem read_waiting_option (read : readOptions g (some letter) arguments = some o) :
    o.flags ≠ [] := by
  cases arguments with
  | nil =>
    cases read
  | cons argument rest =>
    obtain ⟨more, _, rfl⟩ := map_eq_some_iff.mp read
    exact cons_ne_nil _ _

theorem read_options_option {rest : List String} (option : isOperand argument = false)
    (notEnd : argument ≠ "--") (read : readOptions g none (argument :: rest) = some o) :
    o.flags ≠ [] := by
  unfold isOperand at option
  split at option
  next letter cluster chars =>
    have several : ¬(letter = '-' ∧ cluster = []) := by
      rintro ⟨rfl, rfl⟩
      exact notEnd (String.toList_inj.mp (chars.trans (by decide)))
    rw [readOptions, chars] at read
    simp only [if_neg several] at read
    split at read
    · cases read
    next flags waiting isCluster =>
      obtain ⟨more, isMore, rfl⟩ := map_eq_some_iff.mp read
      intro none
      obtain ⟨noFlags, noMore⟩ := append_eq_nil_iff.mp none
      rcases read_cluster_option isCluster with given | waits
      · exact given noFlags
      · obtain ⟨letter, rfl⟩ := isSome_iff_exists.mp waits
        exact read_waiting_option isMore noMore
  · cases option

theorem no_option_read_iff (arguments : List String) : (∃ o, readOptions g none arguments = some o ∧
    o.flags = []) ↔ startsWithoutOption arguments = true := by
  cases arguments with
  | nil => simp [startsWithoutOption, readOptions]
  | cons argument rest =>
    rw [startsWithoutOption, head?_cons, all_some, Bool.or_eq_true, beq_iff_eq]
    constructor
    · rintro ⟨o, read, none⟩
      by_contra others
      obtain ⟨option, notEnd⟩ := not_or.mp others
      exact read_options_option (Bool.eq_false_iff.mpr option) notEnd read none
    · rintro (operand | rfl)
      · exact ⟨_, read_options_operand operand rest, rfl⟩
      · exact ⟨_, read_options_end rest, rfl⟩

/-- An operand and the words behind it are read as such. Two `--` in a row are the one way in which
an operand that starts with a dash comes through. -/
def carriesOperand (g : Grammar) (operand : String) (words : List String) : Bool :=
  isOperand operand && (!g.readsPastOperand false || startsWithoutOption words) ||
    operand == "--" && words.head? == some "--" &&
      (!g.readsPastOperand true || startsWithoutOption words.tail)

private theorem parse_read {words : List String} {operand : String} {own : List Flag}
    {terminated : Bool}
    (read : readOptions g none arguments =
      some { flags := own, rest := operand :: words, terminated := terminated }) :
    (∃ others, parse g arguments = some ⟨own, operand, others⟩) ↔
    (g.readsPastOperand terminated = true → startsWithoutOption words = true) := by
  rw [parse, read]
  dsimp only
  cases past : g.readsPastOperand terminated with
  | false => simp
  | true =>
    rw [if_pos rfl, imp_iff_right rfl, ← no_option_read_iff (g := g)]
    constructor
    · rintro ⟨others, parsed⟩
      obtain ⟨back, isBack, same⟩ := map_eq_some_iff.mp parsed
      exact ⟨back, isBack, by simpa using (Command.mk.inj same).1⟩
    · rintro ⟨back, isBack, none⟩
      exact ⟨back.rest, by rw [isBack, map_some, none, append_nil]⟩

private theorem front_flags_first {front : Options} {c : Command}
    (read : readOptions g none arguments = some front) (parsed : parse g arguments = some c) :
    front.flags <+: c.flags := by
  rw [parse, read] at parsed
  dsimp only at parsed
  split at parsed
  · cases parsed
  split at parsed
  · obtain ⟨back, _, rfl⟩ := map_eq_some_iff.mp parsed
    exact prefix_append front.flags back.flags
  · cases parsed
    exact prefix_refl front.flags

theorem parse_operand_iff {words : List String} {operand : String} {own : List Flag}
    (front : readOptions g none arguments =
      (readOptions g none (operand :: words)).map (Options.after own)) :
    (∃ others, parse g arguments = some ⟨own, operand, others⟩) ↔
    carriesOperand g operand words = true := by
  by_cases isPlain : isOperand operand = true
  · -- A plain operand stops the options in front of it.
    rw [read_options_operand isPlain] at front
    have notEnd : operand ≠ "--" := by
      rintro rfl
      revert isPlain
      decide
    have read : readOptions g none arguments =
        some { flags := own, rest := operand :: words, terminated := false } := by
      rw [front]
      simp [Options.after]
    rw [parse_read read]
    cases past : g.readsPastOperand false <;> simp [carriesOperand, isPlain, notEnd, past]
  by_cases isEnd : operand = "--"
  · subst isEnd
    rw [read_options_end] at front
    cases words with
    | nil =>
      have read : readOptions g none arguments =
          some { flags := own, rest := [], terminated := true } := by
        rw [front]
        simp [Options.after]
      rw [parse, read]
      simp [carriesOperand, isPlain]
    | cons word words =>
      have read : readOptions g none arguments =
          some { flags := own, rest := word :: words, terminated := true } := by
        rw [front]
        simp [Options.after]
      by_cases same : word = "--"
      · subst same
        rw [parse_read read]
        cases past : g.readsPastOperand true <;> simp [carriesOperand, isPlain, past]
      have others : ¬∃ others, parse g arguments = some ⟨own, "--", others⟩ := by
        rintro ⟨others, parsed⟩
        rw [parse, read] at parsed
        dsimp only at parsed
        split at parsed
        · obtain ⟨back, _, isCommand⟩ := map_eq_some_iff.mp parsed
          exact same (Command.mk.inj isCommand).2.1
        · exact same (Command.mk.inj (some.inj parsed)).2.1
      simp [carriesOperand, isPlain, same, others]
  · -- Anything else is read as options of its own.
    have others : ¬∃ others, parse g arguments = some ⟨own, operand, others⟩ := by
      rintro ⟨others, parsed⟩
      cases read : readOptions g none (operand :: words) with
      | none =>
        rw [read] at front
        rw [parse, front] at parsed
        cases parsed
      | some o =>
        have given := read_options_option (by simpa using isPlain) isEnd read
        rw [read] at front
        have shorter : (own ++ o.flags).length ≤ own.length :=
          (front_flags_first front parsed).length_le
        rw [length_append] at shorter
        exact given (length_eq_zero_iff.mp (by omega))
    simp [carriesOperand, isPlain, isEnd, others]

end RuneTerminal.Kit.Getopt
