import Buildwright.Sandbox.FileTree

/-!
# Processes

A process is a tree of requests to the system: each node is one request, together with what happens
after each possible answer. What a process is says nothing about how the system answers, so that
several of them can be run side by side.
-/

namespace Buildwright.Sandbox

/-- How a process ended. -/
inductive ProcessEnd where
  | exited (code : Nat)
  | signalled (number : Nat)
  deriving DecidableEq

/-- The exit code by which a process that waited for another one is told how it ended. -/
def ProcessEnd.status : ProcessEnd → Nat
  | exited code => code
  | signalled number => 128 + number

/-- How a file is opened. -/
structure Access where
  reads : Bool := false
  writes : Bool := false
  appends : Bool := false
  /-- A file that is missing is created. -/
  creates : Bool := false
  /-- It is refused if the file is there already. -/
  fresh : Bool := false
  /-- What is in the file is dropped. -/
  clears : Bool := false

/-- How a file is opened to be read. -/
def Access.read : Access := { reads := true }

/-- How a file is opened to be written anew. -/
def Access.replace : Access := { writes := true, creates := true, clears := true }

/-- How a file is opened to be written at its end. -/
def Access.append : Access := { writes := true, appends := true, creates := true }

/-- What a process does with a signal that it is sent. -/
inductive SignalAction where
  /-- What the system does by itself. -/
  | standard
  | ignored
  /-- The process asks for it. -/
  | noted
  deriving DecidableEq

/-- From where a position in a file is counted. -/
inductive Origin where
  | start
  | current
  | finish

/-- A request of a process to the system. -/
inductive Call where
  /-- Nothing but a moment of time; the answer is the signals that came and were to be noted. -/
  | pause
  | open (path : String) (access : Access) (mode : Nat)
  | close (number : Nat)
  /-- Another number, not below a least one, for what is open under a number. -/
  | duplicate (number least : Nat) (privately : Bool)
  /-- A given number for what is open under a number. -/
  | duplicateTo (number target : Nat)
  /-- A channel: a number to read from it, and one to write to it. -/
  | pipe
  | read (number count : Nat)
  | write (number : Nat) (bytes : ByteArray)
  | seek (number : Nat) (origin : Origin) (distance : Int)
  | truncate (number size : Nat)
  | status (path : String) (follows : Bool)
  | statusOf (number : Nat)
  /-- The names in a directory with what stands there. -/
  | list (path : String)
  | makeDirectory (path : String) (mode : Nat)
  | removeDirectory (path : String)
  | unlink (path : String)
  | rename (old new : String)
  | addName (old new : String) (follows : Bool)
  | makeLink (target path : String)
  | makeChannel (path : String) (mode : Nat)
  | readLink (path : String)
  | setMode (path : String) (mode : Nat)
  /-- Sets when a file was last read and written; without a moment it stays. -/
  | setTimes (path : String) (follows : Bool) (accessed modified : Option Moment)
  | changeDirectory (path : String)
  | directory
  /-- Sets the permission bits that new files do not get; the answer is the old ones. -/
  | setMask (mask? : Option Nat)
  /-- Goes on as another program; there is an answer only if that is not possible. -/
  | execute (path : String) (arguments : List String) (environment : List (String × String))
  /-- Waits for the end of one child or of any, or asks only whether there is one that ended. -/
  | await (child? : Option Nat) (waits : Bool)
  | send (process : Int) (signal : Nat)
  /-- Says what is done with a signal; the answer is what was done before. -/
  | onSignal (signal : Nat) (action? : Option SignalAction)
  /-- The numbers of the process and of the one that started it. -/
  | identify
  /-- Goes on as the first process of a group of its own. -/
  | leadGroup
  /-- Waits for some nanoseconds; the answer is how many are left if a signal came. -/
  | sleep (duration : Nat)
  | clock

/-- The answers to a request. -/
@[reducible]
def Call.Answer : Call → Type
  | .pause => List Nat
  | .open _ _ _ | .duplicate _ _ _ | .write _ _ | .seek _ _ _ => Except HostFault Nat
  | .pipe | .identify => Nat × Nat
  | .read _ _ => Except HostFault ByteArray
  | .status _ _ | .statusOf _ => Except HostFault FileStatus
  | .list _ => Except HostFault (List (String × FileKind))
  | .readLink _ | .directory => Except HostFault String
  | .setMask _ | .sleep _ => Nat
  | .execute _ _ _ => HostFault
  | .await _ _ => Except HostFault (Option (Nat × ProcessEnd))
  | .onSignal _ _ => SignalAction
  | .clock => Moment
  | _ => Except HostFault Unit

/-- A process. -/
inductive Process where
  | ended (ending : ProcessEnd)
  | ask (call : Call) (next : call.Answer → Process)
  /-- Starts another process, which has what this one has, and goes on with its number. -/
  | fork (child : Process) (next : Nat → Process)

/-- What a program is started with. -/
structure Launch where
  /-- The name that the program is told. -/
  name : String
  arguments : List String
  /-- The variables that are set, by name. -/
  environment : List (String × String)

/-! ### Tasks -/

/-- A part of a process: it goes on with what it is told to do afterwards. -/
def Task (α : Type) := (next : α → Process) → Process

namespace Task

instance : Monad Task where
  pure a := fun next => next a
  bind task f := fun next => task fun a => f a next

/-- A request. -/
def ask (call : Call) : Task call.Answer := fun next => .ask call next

/-- Ends the process. -/
def exit {α : Type} (code : Nat) : Task α := fun _ => .ended (.exited code)

end Task

end Buildwright.Sandbox
