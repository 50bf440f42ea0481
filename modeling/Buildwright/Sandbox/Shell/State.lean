import Buildwright.Sandbox.Shell.Grammar
import Buildwright.Sandbox.Work

/-!
# State of the shell

What a running script knows: its arguments, variables, functions and options. A script is a process
that carries this state along; a step of it may also stop what follows.
-/

namespace Buildwright.Sandbox.Shell

/-! ### Variables -/

/-- What a variable holds. -/
inductive Value where
  | unset
  | text (text : String)
  /-- Texts by their positions. -/
  | row (values : Std.TreeMap Nat String)

/-- A variable. -/
structure Variable where
  value : Value := .unset
  /-- Whether other programs are told about it. -/
  exported : Bool := false
  readOnly : Bool := false
  /-- How many variables came before it. -/
  order : Nat := 0

/-! ### States -/

/-- Statements that run in the background. -/
structure Job where
  number : Nat
  /-- The processes that are still waited for. -/
  waiting : List Nat
  /-- The last of the processes, whose end counts. -/
  last : Nat
  ending? : Option ProcessEnd := none
  /-- Whether somebody has asked for its end. -/
  told : Bool := false
  text : String := ""

/-- A function. -/
structure Function where
  line : Nat
  body : Statement

/-- What a running script knows. -/
structure State where
  dialect : Dialect
  /-- The name of the script. -/
  name : String
  arguments : List String := []
  bindings : Std.HashMap String Variable := {}
  /-- How many variables there were. -/
  order : Nat := 0
  /-- What was hidden, for each function that runs. -/
  frames : List (List (String × Option Variable)) := []
  functions : Std.HashMap String Function := {}
  aliases : List (String × String) := []
  /-- Where programs were found. -/
  hashed : List (String × String) := []
  /-- The texts that statements read. -/
  texts : Std.HashMap Nat Word := {}
  nextText : Nat := 0
  /-- The letters or names of the options that are on. -/
  options : List String := []
  /-- The exit code of the last statement. -/
  status : Nat := 0
  /-- The line that runs. -/
  line : Nat := 0
  /-- By how much the lines of the statements that run differ from those that are told. -/
  lineShift : Int := 0
  /-- What messages mention: the built-in statement that runs, if one does. -/
  label : String := ""
  /-- The text that runs, as messages name it. -/
  source : String := ""
  /-- What a built-in statement has printed. -/
  printed : String := ""
  /-- What is done on signals; number zero is the end of the script. -/
  traps : List (Nat × String) := []
  /-- The signals for which something is still to be done. -/
  due : List Nat := []
  /-- How many loops run. -/
  loops : Nat := 0
  /-- The functions that run, the last one first, and files that are read. -/
  running : List String := []
  /-- How many files are read within the script. -/
  sources : Nat := 0
  /-- The number of the first process of the script. -/
  process : Nat := 0
  /-- The number of the process that started it. -/
  parent : Nat := 0
  /-- The number of the last process in the background. -/
  background? : Option Nat := none
  jobs : List Job := []
  /-- The directory as the script names it. -/
  directory : String := ""
  /-- The exit code of the last statement whose output became a word. -/
  captured : Nat := 0
  /-- The exit codes of statements that were connected by bars. -/
  pipeline : List Nat := []
  /-- The number of the argument where options are looked for next. -/
  optionIndex : Nat := 1
  /-- How many letters of an argument were looked at for options. -/
  lettersSeen : Nat := 0
  /-- How many processes lie between this one and the first one of the script. -/
  depth : Nat := 0
  /-- How many statements of which the output becomes a word lie around this process. -/
  captures : Nat := 0
  /-- Whether a trap runs; then its name is told and the exit code from before is kept. -/
  trapped? : Option Nat := none
  /-- A number from which others are made by chance. -/
  seed : Nat := 0

/-- Why the statements that follow are not run. -/
inductive Stop where
  /-- The script ends. -/
  | exit
  /-- Something was wrong; what depends on it is not done. -/
  | failed
  /-- A function or a file that is read ends. -/
  | leave
  | endLoop (levels : Nat)
  | nextRound (levels : Nat)
  /-- The rest of the line is not run. -/
  | line

/-- A step of a script. -/
def Sh (α : Type) := State → (next : Except Stop α → State → Process) → Process

namespace Sh

instance : Monad Sh where
  pure a := fun s next => next (.ok a) s
  bind step f := fun s next => step s fun
    | .ok a, s => f a s next
    | .error stop, s => next (.error stop) s

instance : MonadStateOf State Sh where
  get := fun s next => next (.ok s) s
  set s := fun _ next => next (.ok ()) s
  modifyGet f := fun s next => let (a, s) := f s; next (.ok a) s

instance : MonadExceptOf Stop Sh where
  throw stop := fun s next => next (.error stop) s
  tryCatch step handle := fun s next => step s fun
    | .ok a, s => next (.ok a) s
    | .error stop, s => handle stop s next

instance {α : Type} : Inhabited (Sh α) := ⟨fun s next => next (.error .exit) s⟩

/-- A task as a step. -/
def lift {α : Type} (task : Task α) : Sh α := fun s next => task fun a => next (.ok a) s

/-- A request to the system. -/
def ask (call : Call) : Sh call.Answer := fun s next => .ask call fun a => next (.ok a) s

/-- How a step ends, after which all goes on. -/
def outcome {α : Type} (step : Sh α) : Sh (Except Stop α) := fun s next =>
  step s fun result s => next (.ok result) s

/-- Does something after a step, also after one that stops. -/
def after {α : Type} (step : Sh α) (cleanup : Sh Unit) : Sh α := do
  let result ← outcome step
  cleanup
  match result with
  | .ok a => return a
  | .error stop => throw stop

/-- The process of a step from a state on. It ends with the exit code of the last statement. -/
def process (step : Sh Unit) (s : State) : Process :=
  step s fun _ s => .ended (.exited (s.status % 256))

/-- Starts a process for a step, which has all that this script has. -/
def fork (step : Sh Unit) : Sh Nat := fun s next =>
  .fork (step.process s) fun number => next (.ok number) s

end Sh

/-! ### Options -/

/-- Whether an option is on. -/
def State.isOn (s : State) (option : String) : Bool := s.options.contains option

/-- Whether the script runs in the extended shell. -/
def State.isExtended (s : State) : Bool := s.dialect = .extended

/-- Whether the script runs in the extended shell. -/
def isExtended : Sh Bool := return (← get).isExtended

/-- Sets the exit code of the last statement. -/
def setStatus (status : Nat) : Sh Unit := modify fun s => { s with status }

/-! ### Messages -/

/-- Writes a text for messages. -/
def remark (text : String) : Sh Unit := do
  let _ ← Sh.lift (Task.writeText 2 text)

/-- What messages begin with. -/
def State.front (s : State) : String :=
  let label := if s.label = "" then "" else s.label ++ ": "
  match s.dialect with
  | .plain => s.name ++ ": " ++ toString s.line ++ ": " ++ label
  | .extended => s.source ++ ": line " ++ toString s.line ++ ": " ++ label

/-- Writes a message about the line that runs. -/
def complain (text : String) : Sh Unit := do
  remark ((← get).front ++ text ++ "\n")

/-- Stops after a message. -/
def fail {α : Type} (text : String) (status : Nat := 2) : Sh α := do
  complain text
  setStatus status
  throw .failed

/-- Runs a step under a label for its messages. -/
def labelled {α : Type} (label : String) (step : Sh α) : Sh α := do
  let before := (← get).label
  modify fun s => { s with label }
  step.after (modify fun s => { s with label := before })

/-- Sets the line that runs. -/
def setLine (line : Nat) : Sh Unit := modify fun s =>
  { s with line := (line + s.lineShift).toNat }

/-- Runs a step at a line. In the extended dialect the line from before holds again behind it. -/
def atLine {α : Type} (line : Nat) (step : Sh α) : Sh α := do
  let before := (← get).line
  setLine line
  if ← isExtended then step.after (modify fun s => { s with line := before }) else step

/-! ### Printing -/

/-- Prints a text, which is written when the built-in statement ends. -/
def print (text : String) : Sh Unit := modify fun s => { s with printed := s.printed ++ text }

/-- Writes what was printed; the result is why that cannot be done. -/
def writePrinted : Sh (Option HostFault) := do
  let text := (← get).printed
  if text = "" then return none
  modify fun s => { s with printed := "" }
  match ← Sh.lift (Task.writeText 1 text) with
  | .ok _ => return none
  | .error fault => return some fault

/-! ### Variables -/

/-- The text that a value is where one is asked for. -/
def Value.text? : Value → Option String
  | .unset => none
  | .text t => some t
  | .row values => values[0]?

/-- A variable. -/
def State.variable (s : State) (name : String) : Variable := (s.bindings[name]?).getD {}

/-- The state with a variable. -/
def State.withVariable (s : State) (name : String) (v : Variable) : State :=
  match s.bindings[name]? with
  | some old => { s with bindings := s.bindings.insert name { v with order := old.order } }
  | none => { s with
      bindings := s.bindings.insert name { v with order := s.order }, order := s.order + 1 }

/-- The state without a variable. -/
def State.withoutVariable (s : State) (name : String) : State :=
  { s with bindings := s.bindings.erase name }

/-- The characters that separate words. -/
def State.separators (s : State) : List Char :=
  (((s.variable "IFS").value.text?).getD " \t\n").toList

/-- The state in which a variable is what it was. -/
def State.restored (s : State) (name : String) (old? : Option Variable) : State :=
  match old? with
  | some old => { s with bindings := s.bindings.insert name old }
  | none => s.withoutVariable name

/-- Hides a variable until the function ends. -/
def State.hiding (s : State) (name : String) : State :=
  match s.frames with
  | frame :: frames =>
    if frame.any (·.1 = name) then s
    else { s with frames := ((name, s.bindings[name]?) :: frame) :: frames }
  | [] => s

/-- Runs a step in a frame of its own for what it hides. -/
def inFrame {α : Type} (step : Sh α) : Sh α := do
  modify fun s => { s with frames := [] :: s.frames }
  step.after (modify fun s =>
    match s.frames with
    | frame :: frames =>
      let s := { s with frames }
      frame.foldl (fun s (name, old?) => s.restored name old?) s
    | [] => s)

end Buildwright.Sandbox.Shell
