import Buildwright.Sandbox.Program.Editing.Command
import Buildwright.Sandbox.Printing

/-!
# Scripts for editing

How commands for editing lines are written. A script may come in several parts; a text that a
command takes may begin at the end of one and go on in the next.
-/

namespace Buildwright.Sandbox.Program

/-! ### Faults -/

/-- What may be wrong with a script. -/
inductive ScriptFault where
  | unknown (c : Char)
  | missingCommand
  | manyNegations
  | wrongComma
  | wrongFirst
  | wrongZero
  | unclosedBlock
  | closesNothing
  | oneAddress
  | noAddress (what : String)
  | excess
  | missingText
  | missingName
  | missingLabel
  | unfinishedAddress
  | unfinished (letter : Char)
  | unknownOption
  | manyOptions (what : String)
  | zeroOption
  | differentLengths
  | badReference (index : Nat)
  | flagsOfNothing
  | newerVersion
  | outOfBounds
  | expression (fault : RegularFault)
  /-- A set that looks like a class; nothing is said about its place. -/
  | confusingSet

/-- What is said about a script in which something is wrong. -/
def ScriptFault.message : ScriptFault → String
  | unknown c => "unknown command: \x60" ++ String.singleton c ++ "'"
  | missingCommand => "missing command"
  | manyNegations => "multiple \x60!'s"
  | wrongComma => "unexpected \x60,'"
  | wrongFirst => "invalid usage of +N or ~N as first address"
  | wrongZero => "invalid usage of line address 0"
  | unclosedBlock => "unmatched \x60\x7b'"
  | closesNothing => "unexpected \x60\x7d'"
  | oneAddress => "command only uses one address"
  | noAddress what => what
  | excess => "extra characters after command"
  | missingText => "expected \\ after \x60a', \x60c' or \x60i'"
  | missingName => "missing filename in r/R/w/W commands"
  | missingLabel => "\":\" lacks a label"
  | unfinishedAddress => "unterminated address regex"
  | unfinished letter => "unterminated \x60" ++ String.singleton letter ++ "' command"
  | unknownOption => "unknown option to \x60s'"
  | manyOptions what => "multiple " ++ what ++ " options to \x60s' command"
  | zeroOption => "number option to \x60s' command may not be zero"
  | differentLengths => "strings for \x60y' command are different lengths"
  | badReference index => "invalid reference \\" ++ toString index ++ " on \x60s' command's RHS"
  | flagsOfNothing => "cannot specify modifiers on empty regexp"
  | newerVersion => "expected newer version of sed"
  | outOfBounds => "e/r/w commands disabled in sandbox mode"
  | expression fault => fault.message
  | confusingSet => confusingSetMessage

/-! ### Reading -/

/-- A part of a script. -/
inductive ScriptSource where
  | argument (number : Nat)
  | file (path : String)

/-- How a script is read. -/
structure ScriptStyle where
  extended : Bool := false
  /-- Whether commands that read or write files are refused. -/
  bounded : Bool := false

/-- A jump to a place with a name. -/
inductive JumpKind where
  | always
  | ifReplaced
  | unlessReplaced

/-- A command that is read, before places have numbers. -/
inductive ReadCommand where
  | known (c : EditCommand)
  | opening (chosen : ChosenLines)
  | jump (chosen : ChosenLines) (kind : JumpKind) (label : String)

/-- How far a script is read. -/
structure ScriptReading where
  style : ScriptStyle
  rest : List Char
  /-- How many characters of the part are read, and in which of its lines that is. -/
  taken : Nat := 0
  line : Nat := 1
  source : ScriptSource
  /-- The commands that are read, the last one first. -/
  commands : List ReadCommand := []
  /-- The places of open blocks, with the lines where they begin. -/
  open_ : List (Nat × Nat) := []
  /-- The places that have names. -/
  labels : List (String × Nat) := []
  /-- Whether the last command takes a text that goes on in the next part. -/
  isPending : Bool := false
  /-- Whether lines are printed only if that is asked for. -/
  quiet : Bool := false

/-- A step of reading a script. -/
abbrev ReadsScript := ExceptT ScriptFault (StateM ScriptReading)

namespace ReadsScript

/-- The next character, if there is one. -/
def peek : ReadsScript (Option Char) := return (← get).rest.head?

/-- Takes the next character, if there is one. -/
def take : ReadsScript (Option Char) := do
  let s ← get
  match s.rest with
  | [] => return none
  | c :: rest =>
    set { s with rest, taken := s.taken + 1, line := if c = '\n' then s.line + 1 else s.line }
    return some c

/-- Takes the characters at the front that satisfy `holds`. -/
def takeWhile (holds : Char → Bool) : ReadsScript (List Char) := do
  let s ← get
  let front := s.rest.takeWhile holds
  set { s with
    rest := s.rest.drop front.length, taken := s.taken + front.length
    line := s.line + front.count '\n' }
  return front

/-- Passes over blanks. -/
def passBlanks : ReadsScript Unit := do
  let _ ← takeWhile fun c => c = ' ' || c = '\t'

/-- Fails after one more character is taken. -/
def refuse {α : Type} (fault : ScriptFault) : ReadsScript α := do
  let _ ← take
  throw fault

/-- A number, which is zero if there are no digits. -/
def number : ReadsScript Nat := return numberOf 10 (← takeWhile Char.isDigit)

/-- A number behind blanks, if there is one. -/
def number? : ReadsScript (Option Nat) := do
  passBlanks
  if (← peek).any Char.isDigit then return some (← number) else return none

/-- Passes over the end of a command. -/
def finish : ReadsScript Unit := do
  passBlanks
  match ← peek with
  | none | some '\x7d' | some '#' => pure ()
  | some c => if c = '\n' || c = ';' then let _ ← take else refuse .excess

/-- The rest of the line, which names a file. -/
def fileName : ReadsScript String := do
  passBlanks
  let name ← takeWhile (· ≠ '\n')
  let _ ← take
  if name.isEmpty then throw .missingName
  if (← get).style.bounded then throw .outOfBounds
  return String.ofList name

/-- The name of a place. -/
def label : ReadsScript String := do
  passBlanks
  return String.ofList (← takeWhile fun c => !isSpacing c && c ≠ ';' && c ≠ '\x7d')

/-! ### Texts between delimiters -/

/-- What was read up to a delimiter, and how many characters that took. -/
structure Delimited where
  text : List Char
  taken : Nat
  isFinished : Bool

/-- The front of a text up to a delimiter. In an expression the delimiter may stand in a set. -/
def upTo (final : Char) (isExpression : Bool) : (rounds : Nat) → (inSet : Bool) → List Char →
    (sofar : List Char) → (taken : Nat) → Delimited
  | 0, _, _, sofar, taken | _, _, [], sofar, taken => ⟨sofar.reverse, taken, false⟩
  | rounds + 1, inSet, c :: cs, sofar, taken =>
    let go := upTo final isExpression rounds
    if c = '\n' then ⟨sofar.reverse, taken, false⟩
    else if c = final && !inSet then ⟨sofar.reverse, taken + 1, true⟩
    else if c = '\\' then
      match cs with
      | [] => ⟨sofar.reverse, taken + 1, false⟩
      | e :: rest =>
        if inSet && e ≠ 'n' && e ≠ '\n' then go inSet cs (c :: sofar) (taken + 1)
        else if e = 'n' && isExpression then go inSet rest ('\n' :: sofar) (taken + 2)
        else if e = '\n' || (e = final && (isExpression || e ≠ '&')) then
          go inSet rest (e :: (if e = '\n' && !isExpression then '\\' :: sofar else sofar)) (taken + 2)
        else go inSet rest (e :: '\\' :: sofar) (taken + 2)
    else if isExpression && c = '[' && !inSet then
      let front := match cs with
        | '^' :: ']' :: _ => ['^', ']']
        | '^' :: _ => ['^']
        | ']' :: _ => [']']
        | _ => []
      go true (cs.drop front.length) (front.reverse ++ c :: sofar) (taken + 1 + front.length)
    else if inSet && c = '[' then
      match cs with
      | mark :: rest =>
        if mark = ':' || mark = '.' || mark = '=' then
          let name := rest.takeWhile fun d => d ≠ mark && d ≠ '\n'
          match rest.drop name.length with
          | _ :: ']' :: _ =>
            let part := c :: mark :: name ++ [mark, ']']
            go inSet (rest.drop (name.length + 2)) (part.reverse ++ sofar) (taken + part.length)
          | _ => go inSet cs (c :: sofar) (taken + 1)
        else go inSet cs (c :: sofar) (taken + 1)
      | [] => go inSet cs (c :: sofar) (taken + 1)
    else go (inSet && c ≠ ']') cs (c :: sofar) (taken + 1)

/-- A text up to a delimiter. -/
def delimited (final : Char) (isExpression : Bool) (fault : ScriptFault) :
    ReadsScript (List Char) := do
  let s ← get
  let found := upTo final isExpression (s.rest.length + 1) false s.rest [] 0
  set { s with
    rest := s.rest.drop found.taken, taken := s.taken + found.taken
    line := s.line + (s.rest.take found.taken).count '\n' }
  if found.isFinished then return found.text else throw fault

/-! ### Escapes -/

/-- A character that letters and digits behind a backslash stand for, and how many they are. -/
def escapedIn? (cs : List Char) : Option (Char × Nat) :=
  let digits (base most : Nat) (rest : List Char) : Option (Char × Nat) :=
    let found := (rest.take most).takeWhile (digitValue · < base)
    if found.isEmpty then none else some (octetOf (numberOf base found), found.length + 1)
  match cs with
  | 'a' :: _ => some ('\x07', 1)
  | 'f' :: _ => some ('\x0c', 1)
  | 'r' :: _ => some ('\r', 1)
  | 't' :: _ => some ('\t', 1)
  | 'v' :: _ => some ('\x0b', 1)
  | 'c' :: '\\' :: '\\' :: _ => some ('\x1c', 3)
  | 'c' :: c :: _ => some (Char.ofNat (c.toUpper.toNat ^^^ 64), 2)
  | 'd' :: rest => digits 10 3 rest
  | 'o' :: rest => digits 8 3 rest
  | 'x' :: rest => digits 16 2 rest
  | _ => none

/-- An expression in which escapes that stand for characters are replaced by these. -/
def plainExpression : (rounds : Nat) → List Char → List Char
  | 0, cs => cs
  | _, [] => []
  | rounds + 1, '\\' :: cs =>
    match escapedIn? cs with
    | some (c, count) => c :: plainExpression rounds (cs.drop count)
    | none => '\\' :: cs.take 1 ++ plainExpression rounds (cs.drop 1)
  | rounds + 1, c :: cs => c :: plainExpression rounds cs

/-- A text in which escapes that stand for characters are replaced by these, and other backslashes
are left out. -/
def plainText : (rounds : Nat) → List Char → List Char
  | 0, cs => cs
  | _, [] => []
  | rounds + 1, '\\' :: cs =>
    match escapedIn? cs, cs with
    | some (c, count), _ => c :: plainText rounds (cs.drop count)
    | none, 'n' :: rest => '\n' :: plainText rounds rest
    | none, c :: rest => c :: plainText rounds rest
    | none, [] => []
  | rounds + 1, c :: cs => c :: plainText rounds cs

/-- The parts of a replacement. -/
def replacementParts : (rounds : Nat) → List Char → List ReplacementPart
  | 0, _ | _, [] => []
  | rounds + 1, '\\' :: cs =>
    match escapedIn? cs, cs with
    | some (c, count), _ => .char c :: replacementParts rounds (cs.drop count)
    | none, [] => [.char '\\']
    | none, c :: rest =>
      let part : ReplacementPart :=
        if c.isDigit then .group (digitValue c)
        else match c with
          | 'n' => .char '\n'
          | 'U' => .all (some .upper)
          | 'L' => .all (some .lower)
          | 'E' => .all none
          | 'u' => .next .upper
          | 'l' => .next .lower
          | c => .char c
      part :: replacementParts rounds rest
  | rounds + 1, '&' :: cs => .group 0 :: replacementParts rounds cs
  | rounds + 1, c :: cs => .char c :: replacementParts rounds cs

/-- The expression with a given text. -/
def sought (text : List Char) (ignoresCase manyLines : Bool) : ReadsScript Sought := do
  if text.isEmpty then
    if ignoresCase || manyLines then throw .flagsOfNothing
    return none
  let text := plainExpression (text.length + 1) text
  match Expression.ofText { extended := (← get).style.extended, manyLines } text with
  | .error fault => throw (.expression fault)
  | .ok e =>
    if hasConfusingSet (text.length + 1) text then throw .confusingSet
    return some (if ignoresCase then { e with regular := e.regular.ignoringCase } else e)

/-! ### Addresses -/

/-- Letters behind an expression: whether the case of letters and the ends of lines count. -/
def expressionFlags : (rounds : Nat) → (ignoresCase manyLines : Bool) → ReadsScript (Bool × Bool)
  | 0, ignoresCase, manyLines => return (ignoresCase, manyLines)
  | rounds + 1, ignoresCase, manyLines => do
    passBlanks
    match ← peek with
    | some 'I' =>
      let _ ← take
      expressionFlags rounds true manyLines
    | some 'M' =>
      let _ ← take
      expressionFlags rounds ignoresCase true
    | _ => return (ignoresCase, manyLines)

/-- What an address says. -/
inductive AddressText where
  | line (number : Nat)
  | every (first step : Nat)
  | last
  | fitting (sought : Sought)
  | behind (count : Nat)
  | multiple (of : Nat)

/-- An address, if there is one. -/
def address? : ReadsScript (Option AddressText) := do
  let fitting (final : Char) : ReadsScript (Option AddressText) := do
    let text ← delimited final true .unfinishedAddress
    let (ignoresCase, manyLines) ← expressionFlags ((← get).rest.length + 1) false false
    return some (.fitting (← sought text ignoresCase manyLines))
  match ← peek with
  | some '/' =>
    let _ ← take
    fitting '/'
  | some '\\' =>
    let _ ← take
    match ← take with
    | some final => if final = '\n' then throw .unfinishedAddress else fitting final
    | none => throw .unfinishedAddress
  | some '$' =>
    let _ ← take
    return some .last
  | some sign =>
    if sign.isDigit then
      let first ← number
      passBlanks
      if (← peek) ≠ some '~' then return some (.line first)
      let _ ← take
      passBlanks
      let step ← number
      return some (if step = 0 then .line first else .every first step)
    else if sign = '+' || sign = '~' then
      let _ ← take
      passBlanks
      let n ← number
      return some (if sign = '+' then .behind n else if n = 0 then .behind 0 else .multiple n)
    else return none
  | none => return none

/-- The lines for which the next command is. -/
def chosenLines : ReadsScript ChosenLines := do
  let first? : Option LineAddress ← match ← address? with
    | none => pure none
    | some (.line n) => pure (some (.line n))
    | some (.every first step) => pure (some (.every first step))
    | some .last => pure (some .last)
    | some (.fitting sought) => pure (some (.fitting sought))
    | some _ => throw .wrongFirst
  if first?.isSome then passBlanks
  let last? : Option RangeEnd ←
    if first?.isSome && (← peek) = some ',' then
      let _ ← take
      passBlanks
      match ← address? with
      | none => refuse .wrongComma
      | some (.line n) => pure (some (.line n))
      | some (.every first _) => pure (some (.line first))
      | some .last => pure (some .last)
      | some (.fitting sought) => pure (some (.fitting sought))
      | some (.behind n) => pure (some (.behind n))
      | some (.multiple n) => pure (some (.multiple n))
    else pure none
  if last?.isSome then passBlanks
  match first?, last? with
  | some (.line 0), some (.fitting _) => pure ()
  | some (.line 0), _ => refuse .wrongZero
  | _, _ => pure ()
  if (← peek) ≠ some '!' then return { first?, last? }
  let _ ← take
  passBlanks
  if (← peek) = some '!' then refuse .manyNegations
  return { first?, last?, negated := true }

/-! ### Commands -/

/-- What stands behind a replacement. -/
structure SubstitutionFlags where
  first? : Option Nat := none
  all : Bool := false
  prints : Bool := false
  ignoresCase : Bool := false
  manyLines : Bool := false
  output? : Option String := none

/-- Reads what stands behind a replacement. -/
def substitutionFlags : (rounds : Nat) → SubstitutionFlags → ReadsScript SubstitutionFlags
  | 0, flags => return flags
  | rounds + 1, flags => do
    match ← peek with
    | none | some '\x7d' | some '#' => return flags
    | some c =>
      if c.isDigit then
        if flags.first?.isSome then refuse (.manyOptions "number")
        let n ← number
        if n = 0 then throw .zeroOption
        return ← substitutionFlags rounds { flags with first? := some n }
      let _ ← take
      match c with
      | '\n' | ';' => return flags
      | 'i' | 'I' => substitutionFlags rounds { flags with ignoresCase := true }
      | 'm' | 'M' => substitutionFlags rounds { flags with manyLines := true }
      | 'p' =>
        if flags.prints then throw (.manyOptions "\x60p'")
        substitutionFlags rounds { flags with prints := true }
      | 'g' =>
        if flags.all then throw (.manyOptions "\x60g'")
        substitutionFlags rounds { flags with all := true }
      | 'w' => return { flags with output? := some (← fileName) }
      | ' ' | '\r' => substitutionFlags rounds flags
      | _ => throw .unknownOption

/-- A replacement of what fits an expression. -/
def substitution : ReadsScript EditAction := do
  let fault : ScriptFault := .unfinished 's'
  match ← take with
  | none => throw fault
  | some final =>
    if final = '\n' then throw fault
    let text ← delimited final true fault
    let replacement ← delimited final false fault
    let flags ← substitutionFlags ((← get).rest.length + 1) {}
    let found ← sought text flags.ignoresCase flags.manyLines
    let parts := replacementParts (replacement.length + 1) replacement
    let greatest := parts.foldl (fun n part => match part with
      | .group index => max n index
      | _ => n) 0
    if let some e := found then
      if e.groups < greatest then throw (.badReference greatest)
    return .replace {
      sought := found, parts, first := flags.first?.getD 1, all := flags.all
      prints := flags.prints, output? := flags.output? }

/-- An exchange of characters. -/
def exchange : ReadsScript EditAction := do
  let fault : ScriptFault := .unfinished 'y'
  match ← take with
  | none => throw fault
  | some final =>
    if final = '\n' then throw fault
    let members ← delimited final false fault
    let others ← delimited final false fault
    let plain (text : List Char) : List Char := plainText (text.length + 1) text
    if (plain members).length ≠ (plain others).length then throw .differentLengths
    finish
    return .exchange ((plain members).zip (plain others))

/-- A text up to the end of a line that no backslash ends; it goes on in the next part of the script
if that ends with one. -/
def textLines : (rounds : Nat) → (sofar : List Char) → ReadsScript (List Char × Bool)
  | 0, sofar => return (sofar.reverse, false)
  | rounds + 1, sofar => do
    match ← take with
    | none => return (sofar.reverse, false)
    | some '\n' => return (sofar.reverse, false)
    | some '\\' =>
      match ← take with
      | none => return (sofar.reverse, true)
      | some c => textLines rounds (c :: '\\' :: sofar)
    | some c => textLines rounds (c :: sofar)

/-- The text of a command, and whether it goes on in the next part of the script. -/
def commandText : ReadsScript (String × Bool) := do
  let all : ReadsScript (String × Bool) := do
    let length := (← get).rest.length + 1
    let (text, isPending) ← textLines length []
    return (String.ofList (plainText (text.length + 1) text) ++ "\n", isPending)
  passBlanks
  match ← peek with
  | none => throw .missingText
  | some '\\' =>
    let _ ← take
    match ← take with
    | none => return ("", true)
    | some '\n' => all
    | some c =>
      let (text, isPending) ← all
      return (String.singleton c ++ text, isPending)
  | some _ => all

/-- A letter with the action for which it stands, if it stands alone. -/
def plainAction? : Char → Option EditAction
  | '=' => some .showNumber
  | 'd' => some .delete
  | 'D' => some .deleteFirst
  | 'F' => some .showName
  | 'g' => some .recall
  | 'G' => some .recallMore
  | 'h' => some .hold
  | 'H' => some .holdMore
  | 'n' => some .next
  | 'N' => some .appendNext
  | 'p' => some .print
  | 'P' => some .printFirst
  | 'x' => some .exchangeHeld
  | 'z' => some .empty
  | _ => none

/-- A letter with the action for which it stands, if the name of a file follows. -/
def fileAction? : Char → Option (String → EditAction)
  | 'r' => some .appendFile
  | 'R' => some .appendLine
  | 'w' => some .write
  | 'W' => some .writeFirst
  | _ => none

/-- Adds a command. -/
def add (command : ReadCommand) : ReadsScript Unit :=
  modify fun s => { s with commands := command :: s.commands }

/-- Adds a command that does something. -/
def act (chosen : ChosenLines) (action : EditAction) : ReadsScript Unit :=
  add (.known { chosen, action })

/-- Reads the command that a letter begins. -/
def command (chosen : ChosenLines) (letter : Char) : ReadsScript Unit := do
  if let some action := plainAction? letter then
    finish
    return ← act chosen action
  if let some action := fileAction? letter then return ← act chosen (action (← fileName))
  match letter with
  | '#' =>
    if chosen.first?.isSome then throw (.noAddress "comments don't accept any addresses")
    let _ ← takeWhile (· ≠ '\n')
  | ':' =>
    if chosen.first?.isSome then throw (.noAddress ": doesn't want any addresses")
    let name ← label
    if name = "" then throw .missingLabel
    modify fun s => { s with labels := (name, s.commands.length) :: s.labels }
  | '\x7b' =>
    modify fun s => { s with open_ := (s.commands.length, s.line) :: s.open_ }
    add (.opening chosen)
  | '\x7d' =>
    match (← get).open_ with
    | [] => throw .closesNothing
    | (place, _) :: others =>
      if chosen.first?.isSome then throw (.noAddress "\x7d doesn't want any addresses")
      modify fun s =>
        let finish := s.commands.length
        let index := finish - 1 - place
        let commands := s.commands.modify index fun
          | .opening chosen => .known { chosen, action := .block finish }
          | other => other
        { s with open_ := others, commands }
      act {} .blockEnd
      finish
  | 'a' | 'i' | 'c' =>
    let (text, isPending) ← commandText
    act chosen (if letter = 'a' then .append text else if letter = 'i' then .insert text
      else .change text)
    modify fun s => { s with isPending }
  | 's' => act chosen (← substitution)
  | 'y' => act chosen (← exchange)
  | 'b' | 't' | 'T' =>
    let name ← label
    finish
    let kind : JumpKind := if letter = 'b' then .always
      else if letter = 't' then .ifReplaced else .unlessReplaced
    add (.jump chosen kind name)
  | 'q' | 'Q' =>
    if chosen.last?.isSome then throw .oneAddress
    let code := (← number?).getD 0
    finish
    act chosen (if letter = 'q' then .quit code else .quitAtOnce code)
  | 'l' =>
    let width? ← number?
    finish
    act chosen (.showPlainly width?)
  | 'v' =>
    let version ← label
    finish
    let parts := (version.splitOn ".").map fun part => numberOf 10 part.toList
    if textIsAfter parts [4, 9] then throw .newerVersion
    act chosen .nothing
  | c => throw (.unknown c)
where
  /-- Whether a version is later than another one. -/
  textIsAfter : List Nat → List Nat → Bool
    | a :: as, b :: bs => b < a || (a = b && textIsAfter as bs)
    | a :: as, [] => 0 < a || textIsAfter as []
    | [], _ => false

/-- Goes on with a text that began in the part before. -/
def pendingText : ReadsScript Unit := do
  let (text, isPending) ← textLines ((← get).rest.length + 1) []
  let more := String.ofList (plainText (text.length + 1) text) ++ "\n"
  modify fun s =>
    let commands := match s.commands with
      | .known { chosen, action := .append text } :: others =>
        .known { chosen, action := .append (text ++ more) } :: others
      | .known { chosen, action := .insert text } :: others =>
        .known { chosen, action := .insert (text ++ more) } :: others
      | .known { chosen, action := .change text } :: others =>
        .known { chosen, action := .change (text ++ more) } :: others
      | commands => commands
    { s with commands, isPending }

/-- Reads commands to the end of a part. -/
def commands : (rounds : Nat) → ReadsScript Unit
  | 0 => pure ()
  | rounds + 1 => do
    let _ ← takeWhile fun c => isSpacing c || c = ';'
    if (← get).rest.isEmpty then return
    let chosen ← chosenLines
    match ← take with
    | none => throw .missingCommand
    | some letter =>
      command chosen letter
      commands rounds

/-- Reads a part of a script. -/
def part (isFirst : Bool) : ReadsScript Unit := do
  let s ← get
  if isFirst then
    match s.rest with
    | '#' :: 'n' :: _ => set { s with quiet := true }
    | _ => pure ()
  if (← get).isPending then pendingText
  commands ((← get).rest.length + 1)

end ReadsScript

/-! ### Scripts -/

/-- A script. -/
structure EditScript where
  commands : Array EditCommand
  quiet : Bool

/-- Why there is no script. -/
inductive ScriptError where
  | at (source : ScriptSource) (taken line : Nat) (fault : ScriptFault)
  | label (name : String)

/-- What is said where there is no script. -/
def ScriptError.message : ScriptError → String
  | .at _ _ _ .confusingSet => confusingSetMessage
  | .at (.argument n) taken _ fault =>
    "-e expression #" ++ toString n ++ ", char " ++ toString taken ++ ": " ++ fault.message
  | .at (.file path) _ line fault =>
    "file " ++ path ++ " line " ++ toString line ++ ": " ++ fault.message
  | label name => "can't find label for jump to \x60" ++ name ++ "'"

/-- The exit code where there is no script. -/
def ScriptError.code : ScriptError → Nat
  | .at _ _ _ .confusingSet | label _ => 4
  | .at _ _ _ _ => 1

/-- The command that was read, where places have numbers. -/
def withPlaces (labels : List (String × Nat)) (finish : Nat) : ReadCommand →
    Except ScriptError EditCommand
  | .known c => .ok c
  | .opening chosen => .ok { chosen, action := .block finish }
  | .jump chosen kind name => do
    let target ← if name = "" then pure finish
      else match labels.lookup name with
        | some place => pure place
        | none => .error (.label name)
    let action : EditAction := match kind with
      | .always => .jump target
      | .ifReplaced => .jumpIfReplaced target
      | .unlessReplaced => .jumpUnlessReplaced target
    return { chosen, action }

/-- The script that some parts are together. -/
def EditScript.ofParts (style : ScriptStyle) (parts : List (ScriptSource × String)) :
    Except ScriptError EditScript := do
  let start : ScriptReading := { style, rest := [], source := .argument 1 }
  let s ← parts.zipIdx.foldlM (fun s ((source, text), i) =>
    let s := { s with source, rest := text.toList, taken := 0, line := 1 }
    match (ReadsScript.part (i = 0)).run.run s with
    | (.ok (), s) => .ok s
    | (.error fault, s) => .error (.at source s.taken s.line fault)) start
  if let (_, line) :: _ := s.open_ then throw (.at s.source 0 line .unclosedBlock)
  let commands ← s.commands.reverse.mapM (withPlaces s.labels s.commands.length)
  return { commands := commands.toArray, quiet := s.quiet }

end Buildwright.Sandbox.Program
