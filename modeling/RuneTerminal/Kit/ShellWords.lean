import Mathlib.Data.List.Basic

/-! How a shell splits the first simple command of a line into words. A word that the shell would
expand further has no value of its own here. -/

namespace RuneTerminal.Kit.ShellWords

/-- How the next character is read. -/
inductive Quoting where
  | bare
  | escaped
  | single
  | double
  | doubleEscaped

/-- The words of a command, and what follows it on the line. -/
structure Command where
  words : List (List Char)
  rest : List Char

def isBlank (c : Char) : Bool := c == ' ' || c == '\t'

def isOperator (c : Char) : Bool := "\n;&|()<>".toList.contains c

def startsExpansion (c : Char) : Bool := c == '$' || c == Char.ofNat 96

def isPattern (c : Char) : Bool := "*?[".toList.contains c

/-- The words so far with the one that is being read, if there is one. -/
def closeWord (words : List (List Char)) : Option (List Char) → List (List Char)
  | none => words
  | some word => words ++ [word]

def extend (word : Option (List Char)) (c : Char) : Option (List Char) :=
  some (word.getD [] ++ [c])

def read : Quoting → List (List Char) → Option (List Char) → List Char → Option Command
  | .bare, words, word, [] => some ⟨closeWord words word, []⟩
  | .bare, words, word, c :: rest =>
    if isBlank c then read .bare (closeWord words word) none rest
    else if isOperator c then some ⟨closeWord words word, c :: rest⟩
    else if c = '\\' then read .escaped words word rest
    else if c = '\'' then read .single words (some (word.getD [])) rest
    else if c = '"' then read .double words (some (word.getD [])) rest
    else if startsExpansion c || isPattern c then none
    else if word = none ∧ c = '~' then none
    else if word = none ∧ c = '#' then some ⟨words, c :: rest⟩
    else read .bare words (extend word c) rest
  | .escaped, _, _, [] => none
  | .escaped, words, word, c :: rest =>
    if c = '\n' then read .bare words word rest else read .bare words (extend word c) rest
  | .single, _, _, [] => none
  | .single, words, word, c :: rest =>
    if c = '\'' then read .bare words word rest else read .single words (extend word c) rest
  | .double, _, _, [] => none
  | .double, words, word, c :: rest =>
    if c = '"' then read .bare words word rest
    else if c = '\\' then read .doubleEscaped words word rest
    else if startsExpansion c then none
    else read .double words (extend word c) rest
  | .doubleEscaped, _, _, [] => none
  | .doubleEscaped, words, word, c :: rest =>
    if c = '\n' then read .double words word rest
    else if startsExpansion c || c == '"' || c == '\\' then
      read .double words (extend word c) rest
    else read .double words (extend (extend word '\\') c) rest

def firstCommand (line : List Char) : Option Command := read .bare [] none line

def splitWords (line : List Char) : Option (List (List Char)) :=
  match firstCommand line with
  | some ⟨words, []⟩ => some words
  | _ => none

end RuneTerminal.Kit.ShellWords
