import Buildwright.Sandbox.Process
import Buildwright.Sandbox.Quoting

/-!
# Work of programs

What the programs that come with a machine have in common: they are told something, print something
and say with their code whether all went well. What a program prints is held back until there is
much of it or the program ends; its messages are not.
-/

namespace Buildwright.Sandbox

/-! ### Reading and writing -/

/-- Writes bytes, as many at a time as possible. -/
def Task.writeBytes (number : Nat) : (rounds : Nat) → ByteArray → Task (Except HostFault Unit)
  | 0, _ => return .ok ()
  | rounds + 1, bytes => do
    if bytes.isEmpty then return .ok ()
    match ← Task.ask (.write number bytes) with
    | .error fault => return .error fault
    | .ok count => Task.writeBytes number rounds (bytes.extract count bytes.size)

/-- Writes a text. -/
def Task.writeText (number : Nat) (text : String) : Task (Except HostFault Unit) :=
  let bytes := octetsOf text
  Task.writeBytes number (bytes.size + 1) bytes

/-- How much is read at once. -/
def readUnit : Nat := 65536

/-- More rounds than anything takes. -/
def manyRounds : Nat := 1000000000000000

/-- Reads everything that is left behind what was read. -/
def Task.readFrom (number : Nat) : (rounds : Nat) → ByteArray → Task (Except HostFault ByteArray)
  | 0, sofar => return .ok sofar
  | rounds + 1, sofar => do
    match ← Task.ask (.read number readUnit) with
    | .error fault => return .error fault
    | .ok bytes =>
      if bytes.isEmpty then return .ok sofar else Task.readFrom number rounds (sofar ++ bytes)

/-- Reads everything that is left. -/
def Task.readAll (number : Nat) : Task (Except HostFault ByteArray) :=
  Task.readFrom number manyRounds ByteArray.empty

/-- Opens a path, does something with the number, and closes it. -/
def Task.opening {α : Type} (path : String) (access : Access)
    (use : Nat → Task (Except HostFault α)) : Task (Except HostFault α) := do
  match ← Task.ask (.open path access 0o666) with
  | .error fault => return .error fault
  | .ok number =>
    let result ← use number
    let _ ← Task.ask (.close number)
    return result

/-- Reads a file. -/
def Task.readFile (path : String) : Task (Except HostFault ByteArray) :=
  Task.opening path .read Task.readAll

/-! ### Work -/

/-- What a program has printed, and with which code it ends. -/
structure Printout where
  /-- What is not written yet. -/
  waiting : String := ""
  /-- How many bytes that are. -/
  size : Nat := 0
  /-- Why something could not be written. -/
  fault? : Option HostFault := none
  code : Nat := 0
  /-- The code with which it ends where something could not be written, and how it says so. -/
  faultCode : Nat := 1
  faultText : String := "write error"

/-- The work of a program. -/
abbrev Work := ReaderT Launch (StateT Printout Task)

/-- How much is held back at most. -/
def printUnit : Nat := 4096

namespace Work

/-- A request to the system. -/
def ask (call : Call) : Work call.Answer := (Task.ask call : Task call.Answer)

/-- The arguments of the program. -/
def arguments : Work (List String) := return (← read).arguments

/-- Writes a text where the program prints to. -/
def put (text : String) : Work Unit := do
  match ← (Task.writeText 1 text : Task _) with
  | .ok _ => pure ()
  | .error fault => modify fun p => { p with fault? := p.fault?.or (some fault) }

/-- Writes what is held back. -/
def flush : Work Unit := do
  let p ← get
  if 0 < p.size then
    set { p with waiting := "", size := 0 }
    put p.waiting

/-- Prints a text. -/
def print (text : String) : Work Unit := do
  let p ← get
  let size := p.size + text.length
  if size ≤ printUnit then set { p with waiting := p.waiting ++ text, size }
  else
    let full := size / printUnit * printUnit
    let all := (p.waiting ++ text).toList
    set { p with waiting := String.ofList (all.drop full), size := size - full }
    put (String.ofList (all.take full))

/-- Prints a line. -/
def printLine (text : String) : Work Unit := print (text ++ "\n")

/-- Writes something beside what the program prints. -/
def remark (text : String) : Work Unit := do
  let _ ← (Task.writeText 2 text : Task _)

/-- Writes a message, behind what was printed before. -/
def warn (message : String) : Work Unit := do
  flush
  remark ((← read).name ++ ": " ++ message ++ "\n")

/-- Says with which code the program ends. -/
def setCode (code : Nat) : Work Unit := modify fun p => { p with code }

/-- Writes a message about something that did not go well. -/
def complain (message : String) (code : Nat) : Work Unit := do
  warn message
  setCode code

/-- Ends the program, after what it printed is written. -/
def finish {α : Type} : Work α := do
  flush
  let p ← get
  match p.fault? with
  | none => (Task.exit p.code : Task α)
  | some fault =>
    warn (p.faultText ++ ": " ++ fault.reason)
    (Task.exit p.faultCode : Task α)

/-- Ends the program with a code. -/
def exit {α : Type} (code : Nat) : Work α := do
  setCode code
  finish

/-- Ends the program with a message. -/
def abandon {α : Type} (message : String) (code : Nat) : Work α := do
  warn message
  (Task.exit code : Task α)

/-- Writes where a description of the program is found. -/
def pointToHelp : Work Unit := do
  let name := (← read).name
  remark ("Try '" ++ name ++ " --help' for more information.\n")

/-- Ends the program with a message about what it was told. -/
def mislead {α : Type} (message : String) (code : Nat) : Work α := do
  warn message
  pointToHelp
  (Task.exit code : Task α)

/-- The process in which a program does its work. -/
def process (work : Work Unit) (faultCode : Nat) (faultText : String) (launch : Launch) : Process :=
  ((work >>= fun _ => finish : Work Nat).run launch |>.run { faultCode, faultText }) fun (code, _) =>
    .ended (.exited code)

/-! ### Sources -/

/-- Reads what a path names, where a hyphen names what the program is handed. -/
def contents (path : String) : Work (Except HostFault ByteArray) :=
  (if path = "-" then Task.readAll 0 else Task.readFile path : Task _)

/-- Reads what a path names as text. -/
def textOf (path : String) : Work (Except HostFault String) :=
  return (← contents path).map octetText

/-- Closes what the program is handed, if it read that; says so if it was not open. -/
def closeInput (label : String) (paths : List String) : Work Unit := do
  if paths.contains "-" then
    if let .error fault ← ask (.close 0) then complain (label ++ ": " ++ fault.reason) 1

/-- What is told about a path. -/
def status? (path : String) : Work (Option FileStatus) :=
  return (← ask (.status path true)).toOption

/-- Whether a path leads to a directory. -/
def isDirectory (path : String) : Work Bool :=
  return (← status? path).any (·.kind = .directory)

end Work

end Buildwright.Sandbox
