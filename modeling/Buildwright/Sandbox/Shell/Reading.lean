import Buildwright.Sandbox.Shell.Statement

/-!
# Reading scripts

A script is read character by character, one statement at a time, since what was run before decides
how the rest is understood: a word that is an alias stands for another text, which is read in its
place. This module holds the state of reading and its smallest steps.
-/

namespace Buildwright.Sandbox.Shell

/-! ### Tokens -/

/-- A sign of a script. -/
inductive Token where
  | word (w : Word) (quoted : Bool)
  /-- A reserved word. -/
  | reserved (text : String)
  | operator (text : String)
  | redirection
  | lineEnd
  | textEnd

/-- How a token is shown where it cannot stand. -/
def Token.shown : Token → String
  | .word _ _ => "word"
  | .reserved text | .operator text => "\"" ++ text ++ "\""
  | .redirection => "redirection"
  | .lineEnd => "newline"
  | .textEnd => "end of file"

/-- Whether a token is a given reserved word. -/
def Token.isReserved (text : String) : Token → Bool
  | .reserved other => text = other
  | _ => false

/-- Whether a token is a given operator. -/
def Token.isOperator (text : String) : Token → Bool
  | .operator other => text = other
  | _ => false

/-! ### States -/

/-- Text that makes no sense at a line of a script. -/
structure Misfit where
  line : Nat
  messages : List String
  /-- The exit code of a script that ends so. -/
  code : Nat := 2

/-- A text that is read: the script itself, or what an alias stands for. -/
structure Segment where
  alias? : Option String := none
  rest : List Char
  /-- Whether the text ends with a blank. -/
  endsBlank : Bool := false

/-- How a word is understood when it is read next. -/
structure Checks where
  aliases : Bool := false
  reserved : Bool := false
  /-- Line ends are passed over. -/
  lineEnds : Bool := false

/-- A text that is still to be read behind the line that mentions it. -/
structure AwaitedText where
  id : Nat
  mark : String
  quoted : Bool
  withoutTabs : Bool
  line : Nat

/-- The state of reading. -/
structure Reading where
  dialect : Dialect
  aliases : List (String × String) := []
  /-- Whether patterns may have groups. -/
  groups : Bool := false
  segments : List Segment
  line : Nat := 1
  /-- The token that was read last. -/
  last : Token := .lineEnd
  /-- Whether it is to be read once more. -/
  again : Bool := false
  checks : Checks := {}
  /-- The redirection that was read last, without its word. -/
  arrow : String := ""
  /-- The number in front of it. -/
  arrowNumber? : Option Nat := none
  awaited : List AwaitedText := []
  texts : List (Nat × Word) := []
  nextText : Nat := 0
  /-- What a text whose end mark is missing gives cause to say. -/
  warnings : List (Nat × String) := []
  /-- The lines of the script, to be shown in messages. -/
  source : List Char := []
  /-- The number of the line with which the script begins. -/
  firstLine : Nat := 1
  /-- Whether an end of the text is inside of something. -/
  nested : Bool := false

/-- A step of reading. -/
abbrev Parse := StateT Reading (Except Misfit)

/-- More rounds than any reading takes. -/
def readingRounds : Nat := 1000000000

/-! ### Characters -/

/-- The next character, and the state behind it. -/
def Reading.next? (r : Reading) : Option (Char × Reading) :=
  let rec take : List Segment → (afterBlank : Bool) → Option (Char × Reading)
    | [], _ => none
    | segment :: segments, afterBlank =>
      match segment.rest with
      | c :: rest =>
        let checks := if afterBlank then { r.checks with aliases := true } else r.checks
        some (c, { r with segments := { segment with rest } :: segments, checks })
      | [] =>
        if segments.isEmpty then none
        else take segments (afterBlank || segment.endsBlank)
  take r.segments false

/-- Takes the next character. -/
def getChar : Parse (Option Char) := do
  match (← get).next? with
  | some (c, r) =>
    set r
    return some c
  | none => return none

/-- Puts a character back. -/
def putBack (c? : Option Char) : Parse Unit := do
  match c? with
  | none => pure ()
  | some c => modify fun r =>
    match r.segments with
    | segment :: segments =>
      { r with segments := { segment with rest := c :: segment.rest } :: segments }
    | [] => { r with segments := [{ rest := [c] }] }

/-- Counts a line. -/
def countLine : Parse Unit := modify fun r => { r with line := r.line + 1 }

/-- Takes the next character behind joined lines. -/
def getJoined : (rounds : Nat) → Parse (Option Char)
  | 0 => getChar
  | rounds + 1 => do
    match ← getChar with
    | some '\\' =>
      match ← getChar with
      | some '\n' =>
        countLine
        getJoined rounds
      | c? =>
        putBack c?
        return some '\\'
    | c? => return c?

/-- Takes the next character behind joined lines. -/
def nextChar : Parse (Option Char) := getJoined readingRounds

/-- The next character, which stays. -/
def peekChar : Parse (Option Char) := do
  let c? ← nextChar
  putBack c?
  return c?

/-- Takes the next character if it is a given one. -/
def takeChar (c : Char) : Parse Bool := do
  let c? ← nextChar
  if c? = some c then return true
  putBack c?
  return false

/-- The characters that follow, which stay. -/
def Reading.ahead (r : Reading) : List Char := r.segments.flatMap (·.rest)

/-! ### Faults -/

/-- Gives up with messages about the line that is read. -/
def misfit {α : Type} (messages : List String) (code : Nat := 2) : Parse α := do
  throw { line := (← get).line, messages, code }

/-- The text of a line of the script. -/
def Reading.lineText (r : Reading) (line : Nat) : String :=
  let rec go : Nat → List Char → List Char
    | 0, cs => cs.takeWhile (· ≠ '\n')
    | n + 1, cs => go n ((cs.dropWhile (· ≠ '\n')).drop 1)
  String.ofList (go (line - r.firstLine) r.source)

/-- The word that a piece of text stands for in messages. -/
def Token.plainText? : Token → Option String
  | .word [.text text false] false => some text
  | .reserved text | .operator text => some text
  | _ => none

/-- Gives up at the token that was read last, where perhaps another one was expected. -/
def unexpected {α : Type} (expected? : Option String := none) : Parse α := do
  let r ← get
  match r.dialect with
  | .plain =>
    let behind := match expected? with
      | some text => " (expecting " ++ text ++ ")"
      | none => ""
    misfit ["Syntax error: " ++ r.last.shown ++ " unexpected" ++ behind]
  | .extended =>
    match r.last with
    | .textEnd => misfit ["syntax error: unexpected end of file"]
    | .lineEnd =>
      throw { line := r.line - 1, messages :=
        ["syntax error near unexpected token \x60newline'",
          "\x60" ++ r.lineText (r.line - 1) ++ "'"] }
    | token =>
      let text := match token with
        | .redirection => r.arrow
        | token => token.plainText?.getD "word"
      misfit ["syntax error near unexpected token \x60" ++ text ++ "'",
        "\x60" ++ r.lineText r.line ++ "'"]

/-- Gives up at the end of a text in which something is still open. -/
def unclosed {α : Type} (plain : String) (sign : String) (line : Nat) : Parse α := do
  match (← get).dialect with
  | .plain => misfit ["Syntax error: " ++ plain]
  | .extended =>
    throw { line, messages := ["unexpected EOF while looking for matching \x60" ++ sign ++ "'"] }

/-! ### Names -/

/-- Whether a name may start with a character. -/
def isNameStart (c : Char) : Bool := c.isAlpha || c = '_'

/-- Whether a character may stand in a name. -/
def isNameChar (c : Char) : Bool := c.isAlphanum || c = '_'

/-- Whether a text is a name. -/
def isName (text : String) : Bool :=
  match text.toList with
  | [] => false
  | c :: cs => isNameStart c && cs.all isNameChar

/-- Takes characters as long as they satisfy `p`. -/
def takeWhile (p : Char → Bool) : (rounds : Nat) → (sofar : String) → Parse String
  | 0, sofar => return sofar
  | rounds + 1, sofar => do
    match ← nextChar with
    | some c =>
      if p c then takeWhile p rounds (sofar.push c)
      else
        putBack (some c)
        return sofar
    | none => return sofar

/-- Takes the rest of a name. -/
def takeName : Parse String := takeWhile isNameChar readingRounds ""

/-! ### Pieces -/

/-- Pieces that are put together, the last one first. -/
abbrev Pieces := List Piece

/-- The pieces with a character more. -/
def Pieces.push (pieces : Pieces) (quoted : Bool) (c : Char) : Pieces :=
  match pieces with
  | .text text q :: rest =>
    if q = quoted then .text (text.push c) q :: rest
    else .text (String.singleton c) quoted :: pieces
  | _ => .text (String.singleton c) quoted :: pieces

/-- The pieces with characters more. -/
def Pieces.pushAll (pieces : Pieces) (quoted : Bool) (text : String) : Pieces :=
  text.foldl (fun pieces c => pieces.push quoted c) pieces

/-- The readers of the level below, for what stands within something else. -/
structure Inner where
  /-- Statements up to a sign that ends them. -/
  statements : Parse Statement

end Buildwright.Sandbox.Shell
