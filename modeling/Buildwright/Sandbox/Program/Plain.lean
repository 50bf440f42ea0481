import Buildwright.Sandbox.Condition
import Buildwright.Sandbox.Format
import Buildwright.Sandbox.Options

/-!
# Plain programs

Programs that print what they are told, tell whether a condition holds, or only pass the time.
-/

namespace Buildwright.Sandbox.Program

/-! ### Options that all programs know -/

/-- Ends the program since an operand is missing. -/
def missOperand {α : Type} (code : Nat) : Work α := Work.mislead "missing operand" code

/-- Ends the program since there is an operand more than it takes. -/
def refuseOperand {α : Type} (operand : String) (code : Nat) : Work α :=
  Work.mislead ("extra operand " ++ quotedWord operand) code

/-! ### Printing -/

/-- Ends with a code. -/
def end_ (code : Nat) : Work Unit := Work.setCode code

/-- Prints its arguments. -/
def echo : Work Unit := do Work.print (echoText .program (← Work.arguments))

/-- Prints by a format. -/
def printByFormat : Work Unit := do
  let args ← Work.arguments
  match if args.head? = some "--" then args.tail else args with
  | [] => missOperand 1
  | format :: args =>
    let printed := formatted .program shownName format args
    Work.print printed.text
    for message in printed.messages ++ printed.misread?.toList do Work.warn message
    if printed.failed then Work.setCode 1

/-- The last component of a path, without slashes at its end. -/
def withoutLastSlashes (path : List Char) : List Char :=
  match (path.reverse.dropWhile (· = '/')).reverse with
  | [] => path.take 1
  | shorter => shorter

/-- The last component of a path, without an end that is given. -/
def lastName (path ending : List Char) : List Char :=
  let path := withoutLastSlashes path
  let name := if path = ['/'] then path else (path.reverse.takeWhile (· ≠ '/')).reverse
  if name ≠ ending && ending.isSuffixOf name then name.take (name.length - ending.length) else name

/-- What stands before the last component of a path. -/
def frontPath (path : List Char) : List Char :=
  let path := withoutLastSlashes path
  let front := (path.reverse.dropWhile (· ≠ '/')).reverse
  if path = ['/'] then path else if front = [] then ['.'] else withoutLastSlashes front

/-- Asks a condition. -/
def askCondition : Work Unit := do
  let launch ← read
  let isBracket := lastName launch.name.toList [] = ['[']
  if isBracket && launch.arguments.getLast? ≠ some "]" then
    Work.abandon "missing ']'" 2
  let args := if isBracket then launch.arguments.dropLast else launch.arguments
  match ← (ConditionStyle.holds { printer := .program } args : Task _) with
  | .ok holds => Work.setCode (if holds then 0 else 1)
  | .error message => Work.abandon message 2

/-- Prints the directory in which it runs. -/
def printDirectory : Work Unit := do
  let d ← Work.directions { letters := "LP", names := plainNames [("logical", "L"), ("physical", "P")] } 1
  if !d.operands.isEmpty then Work.warn "ignoring non-option arguments"
  let told := ((← read).environment.lookup "PWD").getD ""
  let isUsable : Bool ← if d.last? ["L", "P"] = some "L" && told.startsWith "/" then do
      match ← Work.ask (.status told true), ← Work.ask (.status "." true) with
      | .ok a, .ok b =>
        pure (decide (a.id = b.id) && !(told.splitOn "/").any fun name => name = "." || name = "..")
      | _, _ => pure false
    else pure false
  if isUsable then Work.printLine told
  else match ← Work.ask .directory with
    | .ok path => Work.printLine path
    | .error fault =>
      Work.abandon ("couldn't find directory entry in '..' with matching i-node: " ++ fault.reason) 1

/-- Prints variables, or the values of some. -/
def printVariables : Work Unit := do
  let d ← Work.directions { letters := "0", permutes := false, names := plainNames [("null", "0")] } 2
  let final := if d.has "0" then "\x00" else "\n"
  let environment := (← read).environment
  if d.operands.isEmpty then
    for setting in environment do Work.print (settingOf setting ++ final)
  else
    for name in d.operands do
      match environment.lookup name with
      | some value => Work.print (value ++ final)
      | none => Work.setCode 1
where
  /-- A variable with its value. -/
  settingOf (setting : String × String) : String := setting.1 ++ "=" ++ setting.2

/-- Prints the last components of paths; without options, that of one path without an end. -/
def printLastNames : Work Unit := do
  let d ← Work.directions {
    letters := "az", valued := "s", permutes := false
    names := plainNames [("multiple", "a"), ("zero", "z")] ++ valuedNames [("suffix", "s")] } 1
  let final := if d.has "z" then "\x00" else "\n"
  let show_ (ending path : String) : Work Unit :=
    Work.print (String.ofList (lastName path.toList ending.toList) ++ final)
  match d.operands with
  | [] => missOperand 1
  | path :: others =>
    if d.hasAny ["a", "s"] then
      for path in path :: others do show_ ((d.value? "s").getD "") path
    else match others with
      | [] => show_ "" path
      | [ending] => show_ ending path
      | _ :: extra :: _ => refuseOperand extra 1

/-- Prints paths without their last components. -/
def printFronts : Work Unit := do
  let d ← Work.directions { letters := "z", names := plainNames [("zero", "z")] } 1
  if d.operands.isEmpty then missOperand 1
  for path in d.operands do
    Work.print (String.ofList (frontPath path.toList) ++ if d.has "z" then "\x00" else "\n")

/-- Prints a line again and again. -/
def repeatLine : Work Unit := do
  let args := (← Work.directions { permutes := false } 1).operands
  let line := (if args.isEmpty then "y" else " ".intercalate args) ++ "\n"
  let block := String.join (List.replicate (printUnit / line.length + 1) line)
  let rec go : (rounds : Nat) → Work Unit
    | 0 => pure ()
    | rounds + 1 => do
      match ← (Task.writeText 1 block : Task _) with
      | .ok _ => go rounds
      | .error fault => Work.abandon ("standard output: " ++ fault.reason) 1
  go manyRounds

/-! ### Time -/

/-- How many nanoseconds a second has. -/
def secondLength : Nat := 1000000000

/-- The seconds that a letter behind a number stands for. -/
def unitSeconds? : List Char → Option Nat
  | [] | ['s'] => some 1
  | ['m'] => some 60
  | ['h'] => some 3600
  | ['d'] => some 86400
  | _ => none

/-- The duration that a text stands for, in nanoseconds, rounded up. -/
def duration? (text : String) : Option Nat :=
  match readDecimal (.of true) text.toList with
  | none => none
  | some (n, ⟨rest, _⟩) =>
    match unitSeconds? rest, n.size, n.negative with
    | some unit, .finite m e, negative =>
      if negative && m ≠ 0 then none
      else
        let (up, down) := Binary64.scaled (m * unit * secondLength) 2 e
        some ((up + down - 1) / down)
    | some _, .infinite, false => some (Nat.pow 10 18)
    | _, _, _ => none

/-- Passes the time. -/
def sleep : Work Unit := do
  let d ← Work.directions {} 1
  if d.operands.isEmpty then missOperand 1
  let wrong := d.operands.filter fun text => (duration? text).isNone
  for text in wrong do
    Work.warn ("invalid time interval " ++ quotedWord text)
  if !wrong.isEmpty then
    Work.pointToHelp
    Work.exit 1
  let total := d.operands.foldl (fun n text => n + (duration? text).getD 0) 0
  let _ ← Work.ask (.sleep total)

end Buildwright.Sandbox.Program
