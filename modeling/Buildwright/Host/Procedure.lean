import Buildwright.Host.Fault
import Buildwright.Path
import Buildwright.Text.Bytes

/-!
# Procedures

What the program asks of the machine it runs on, as a tree: each node is one request together
with what happens after each possible answer. A procedure is a value, so that what it asks for,
and in which order, can be stated without saying how a machine would answer.
-/

namespace Buildwright

open Text (Bytes)

/-- A program with its arguments, and the directory in which it is to run if that is not the one
of the caller. -/
structure Command where
  program : String
  args : List String
  workingDir? : Option Path := none
  deriving DecidableEq, Repr

/-- The program and its arguments. -/
def Command.words (c : Command) : List String := c.program :: c.args

/-- Whether a text can be handed to a program: a NUL would end it. -/
def isPassable (text : String) : Bool := !text.toList.contains '\x00'

/-- A word of a command as it is shown. One that cannot be handed on is only mentioned. -/
def shownWord (word : String) : String := if isPassable word then word else "<string-with-nul>"

/-- The command as it is shown: the program and its arguments, separated by blanks. -/
def Command.line (c : Command) : String := " ".intercalate (c.words.map shownWord)

/-- How a program ended. -/
inductive Ending where
  | exited (code : Int)
  /-- It was ended by a signal. -/
  | killed
  deriving DecidableEq, Repr

/-- What a program left behind. -/
structure Finished where
  ending : Ending
  stdout : Bytes
  stderr : Bytes
  deriving DecidableEq, Repr

/-- A computation with requests to the host. -/
inductive Procedure (α : Type) where
  | pure (a : α)
  | isPresent (path : Path) (next : Bool → Procedure α)
  | readFile (path : Path) (next : Except HostFault Bytes → Procedure α)
  | createDirs (path : Path) (next : Except HostFault Unit → Procedure α)
  /-- Starts a program and waits until it has ended. -/
  | start (command : Command) (next : Except HostFault Finished → Procedure α)
  /-- Starts a program and goes on beside it, with a number for it. -/
  | begin (command : Command) (next : Except HostFault Nat → Procedure α)
  /-- Waits until one of the programs has ended that were started beside the procedure; there is no
  answer if there are none. -/
  | await (next : Option (Nat × Finished) → Procedure α)
  /-- Asks for so many workers who can go on beside each other. -/
  | employ (workers : Nat) (next : Except HostFault Unit → Procedure α)
  /-- Asks for the time in nanoseconds since some fixed moment. -/
  | clock (next : Nat → Procedure α)

namespace Procedure

variable {α β : Type}

/-- Goes on with `f` after a procedure. -/
def bind (p : Procedure α) (f : α → Procedure β) : Procedure β :=
  match p with
  | pure a => f a
  | isPresent path next => isPresent path fun answer => (next answer).bind f
  | readFile path next => readFile path fun answer => (next answer).bind f
  | createDirs path next => createDirs path fun answer => (next answer).bind f
  | start command next => start command fun answer => (next answer).bind f
  | begin command next => begin command fun answer => (next answer).bind f
  | await next => await fun answer => (next answer).bind f
  | employ workers next => employ workers fun answer => (next answer).bind f
  | clock next => clock fun answer => (next answer).bind f

instance : Monad Procedure where
  pure := pure
  bind := bind

/-- The time in nanoseconds since some fixed moment. -/
def now : Procedure Nat := clock pure

end Procedure

/-! ### Waiting

A procedure that starts programs can be taken apart at the places where it waits for them, so that
several procedures can go on beside each other on one host.
-/

/-- How far a procedure has come: it has ended, or it waits for the end of a program. -/
inductive Stage (α : Type) where
  | ended (a : α)
  | waiting (program : Nat) (next : Finished → Procedure α)

/-- Goes on with a procedure until it has ended or has started a program that it waits for. -/
def Procedure.advance {α : Type} : Procedure α → Procedure (Stage α)
  | .pure a => .pure (.ended a)
  | .isPresent path next => .isPresent path fun answer => (next answer).advance
  | .readFile path next => .readFile path fun answer => (next answer).advance
  | .createDirs path next => .createDirs path fun answer => (next answer).advance
  | .start command next => .begin command fun
    | .ok program => .pure (.waiting program fun finished => next (.ok finished))
    | .error fault => (next (.error fault)).advance
  | .begin command next => .begin command fun answer => (next answer).advance
  | .await next => .await fun answer => (next answer).advance
  | .employ workers next => .employ workers fun answer => (next answer).advance
  | .clock next => .clock fun answer => (next answer).advance

/-! ### Hosts -/

/-- A machine with states `σ` that answers requests. -/
structure Host (σ : Type) where
  isPresent : Path → σ → Bool × σ
  readFile : Path → σ → Except HostFault Bytes × σ
  createDirs : Path → σ → Except HostFault Unit × σ
  start : Command → σ → Except HostFault Finished × σ
  begin : Command → σ → Except HostFault Nat × σ
  await : σ → Option (Nat × Finished) × σ
  employ : Nat → σ → Except HostFault Unit × σ
  clock : σ → Nat × σ

/-- Runs a procedure on a host. -/
def Procedure.runOn {σ α : Type} (host : Host σ) : Procedure α → σ → α × σ
  | .pure a, s => (a, s)
  | .isPresent path next, s => let (answer, s) := host.isPresent path s; (next answer).runOn host s
  | .readFile path next, s => let (answer, s) := host.readFile path s; (next answer).runOn host s
  | .createDirs path next, s =>
    let (answer, s) := host.createDirs path s
    (next answer).runOn host s
  | .start command next, s => let (answer, s) := host.start command s; (next answer).runOn host s
  | .begin command next, s => let (answer, s) := host.begin command s; (next answer).runOn host s
  | .await next, s => let (answer, s) := host.await s; (next answer).runOn host s
  | .employ workers next, s => let (answer, s) := host.employ workers s; (next answer).runOn host s
  | .clock next, s => let (answer, s) := host.clock s; (next answer).runOn host s

/-! ### Environment variables -/

/-- The environment in which the program was started: the variables that are set, by name. -/
structure Environment where
  entries : List (String × Bytes) := []

namespace Environment

/-- The bytes of a variable that is set. -/
def bytes? (env : Environment) (name : String) : Option Bytes := env.entries.lookup name

/-- The text of a variable that is set to one. -/
def text? (env : Environment) (name : String) : Option String :=
  (env.bytes? name).bind Text.text?

end Environment

end Buildwright
