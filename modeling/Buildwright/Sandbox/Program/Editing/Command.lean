import Buildwright.Sandbox.Regular

/-!
# Editing commands

What the program that edits lines is told to do: a row of commands, each of them for some lines.
Some lead to another place in the row.
-/

namespace Buildwright.Sandbox.Program

/-! ### Lines -/

/-- An expression that is looked for; without one, it is the last that was looked for. -/
abbrev Sought := Option Expression

/-- A line for which a command is. -/
inductive LineAddress where
  | line (number : Nat)
  /-- Every so many lines, from a first one on. -/
  | every (first step : Nat)
  | last
  | fitting (sought : Sought)

/-- The last line of a range. -/
inductive RangeEnd where
  | line (number : Nat)
  | last
  | fitting (sought : Sought)
  /-- So many lines behind the first one. -/
  | behind (count : Nat)
  /-- The next line whose number is a multiple. -/
  | multiple (of : Nat)

/-- The lines for which a command is. -/
structure ChosenLines where
  first? : Option LineAddress := none
  last? : Option RangeEnd := none
  /-- Whether it is for all other lines. -/
  negated : Bool := false

/-! ### Replacements -/

/-- Whether letters become capital or small ones. -/
inductive LetterCase where
  | upper
  | lower
  deriving DecidableEq

/-- A part of what is put in the place of a text that was found. -/
inductive ReplacementPart where
  | char (c : Char)
  /-- A group; the whole text has number zero. -/
  | group (index : Nat)
  /-- How all letters from here on are written. -/
  | all (letterCase? : Option LetterCase)
  /-- How the next letter is written. -/
  | next (letterCase : LetterCase)

/-- A replacement of what is found. -/
structure Substitution where
  sought : Sought
  parts : List ReplacementPart
  /-- Which of several texts is replaced first. -/
  first : Nat := 1
  /-- Whether those behind it are replaced, too. -/
  all : Bool := false
  prints : Bool := false
  /-- Where the line is written. -/
  output? : Option String := none

/-! ### Commands -/

/-- What is done. -/
inductive EditAction where
  /-- Up to the end of a block, which stands at a place in the row. -/
  | block (finish : Nat)
  | blockEnd
  | jump (target : Nat)
  | jumpIfReplaced (target : Nat)
  | jumpUnlessReplaced (target : Nat)
  | replace (s : Substitution)
  | exchange (pairs : List (Char × Char))
  | print
  | printFirst
  | showPlainly (width? : Option Nat)
  | showNumber
  | showName
  | delete
  | deleteFirst
  | next
  | appendNext
  | quit (code : Nat)
  | quitAtOnce (code : Nat)
  | hold
  | holdMore
  | recall
  | recallMore
  | exchangeHeld
  | empty
  | insert (text : String)
  | append (text : String)
  | change (text : String)
  | appendFile (path : String)
  | appendLine (path : String)
  | write (path : String)
  | writeFirst (path : String)
  | nothing

/-- A command. -/
structure EditCommand where
  chosen : ChosenLines
  action : EditAction

end Buildwright.Sandbox.Program
