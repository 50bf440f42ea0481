import Buildwright.Sandbox.Process
import Buildwright.Sandbox.Signal

/-!
# Systems

The state of a system: its files, what its processes have opened, and the processes themselves. Each
process has a clock of its own, as if it had a processor for itself; what they do to each other
happens in the order of these clocks.
-/

namespace Buildwright.Sandbox

/-! ### What is open -/

/-- What stands behind a number of a process. -/
inductive Opened where
  | file (id : FileId)
  /-- The end of a channel from which one reads. -/
  | source (pipe : Nat)
  /-- The end of a channel to which one writes. -/
  | sink (pipe : Nat)

/-- Something open, which processes may share. -/
structure Opening where
  target : Opened
  position : Nat := 0
  reads : Bool
  writes : Bool
  appends : Bool := false
  /-- How many numbers of processes stand for it. -/
  users : Nat := 1

/-- A channel between processes. -/
structure Pipe where
  held : ByteArray := ByteArray.empty
  /-- How many of the bytes were read. -/
  taken : Nat := 0
  readers : Nat := 0
  writers : Nat := 0
  /-- Whether there is room for any number of bytes. -/
  endless : Bool := false
  /-- Whether somebody has written to it or could have. -/
  begun : Bool := true

/-- How many bytes are in a channel. -/
def Pipe.size (pipe : Pipe) : Nat := pipe.held.size - pipe.taken

/-- How many bytes fit into a channel. -/
def pipeCapacity : Nat := 65536

/-- How many bytes are written to a channel at once or not at all. -/
def pipeUnit : Nat := 4096

/-- The first bytes of a channel, and what is left of it. -/
def Pipe.take (pipe : Pipe) (count : Nat) : ByteArray × Pipe :=
  let behind := min pipe.held.size (pipe.taken + count)
  let bytes := pipe.held.extract pipe.taken behind
  if behind = pipe.held.size then (bytes, { pipe with held := ByteArray.empty, taken := 0 })
  else if pipeCapacity < behind then
    (bytes, { pipe with held := pipe.held.extract behind pipe.held.size, taken := 0 })
  else (bytes, { pipe with taken := behind })

/-- What a number of a process stands for. -/
structure Descriptor where
  opening : Nat
  /-- Whether other programs do not get it. -/
  privately : Bool := false

/-! ### Processes -/

/-- What a process waits for. -/
inductive Blocker where
  | pipe (number : Nat)
  | child
  deriving DecidableEq

/-- What a process is doing. -/
inductive Activity where
  | ready
  | blocked (blocker : Blocker)
  | sleeping (end_ : Moment)
  | ended (ending : ProcessEnd)

/-- A process in a system. -/
structure Running where
  parent : Nat
  /-- The first of the processes to which it goes back. -/
  group : Nat
  /-- What it does next. -/
  next : Process
  directory : FileId
  /-- The permission bits that new files do not get. -/
  mask : Nat := 0o022
  descriptors : List (Nat × Descriptor) := []
  actions : List (Nat × SignalAction) := []
  /-- The signals that came and were to be noted. -/
  noted : List Nat := []
  /-- Whether one of them came while the process waited. -/
  interrupted : Bool := false
  stopped : Bool := false
  clock : Moment
  activity : Activity := .ready
  /-- The end of a sleep that was asked for and is over. -/
  woken? : Option Moment := none

/-- What a process does with a signal. -/
def Running.action (p : Running) (signal : Nat) : SignalAction :=
  (p.actions.lookup signal).getD .standard

/-- The least number from a given one on under which nothing is open. -/
def Running.freeNumber (p : Running) (least : Nat) : Nat :=
  ((List.range (p.descriptors.length + 1)).map (least + ·)).find?
    (fun n => (p.descriptors.lookup n).isNone) |>.getD least

/-- The process with something else open under a number. -/
def Running.withDescriptor (p : Running) (number : Nat) (d? : Option Descriptor) : Running :=
  let others := p.descriptors.filter (·.1 ≠ number)
  { p with descriptors := (d?.map fun d => (number, d)).toList ++ others }

/-! ### Systems -/

/-- The state of a system. -/
structure System where
  tree : FileTree
  openings : Std.TreeMap Nat Opening := {}
  pipes : Std.TreeMap Nat Pipe := {}
  /-- The channels that have names. -/
  channels : List (FileId × Nat) := []
  processes : Std.TreeMap Nat Running := {}
  /-- The next number for anything that gets one. -/
  nextNumber : Nat := 1
  nextProcess : Nat := 4000
  now : Moment := 0

/-- A step of a system. -/
abbrev Kernel := StateM System

/-- A number that was not given before. -/
def freshNumber : Kernel Nat :=
  modifyGet fun s => (s.nextNumber, { s with nextNumber := s.nextNumber + 1 })

/-- How long the moments are that files are marked with. -/
def markUnit : Nat := 4000000

/-- The moment that files are marked with now. -/
def System.mark (s : System) : Moment := s.now / markUnit * markUnit

/-- The process with a number. -/
def process? (id : Nat) : Kernel (Option Running) := return (← get).processes[id]?

/-- Changes a process. -/
def changeProcess (id : Nat) (f : Running → Running) : Kernel Unit :=
  modify fun s => { s with processes := s.processes.modify id f }

/-- Changes a channel. -/
def changePipe (number : Nat) (f : Pipe → Pipe) : Kernel Unit :=
  modify fun s => { s with pipes := s.pipes.modify number f }

/-- Changes something open. -/
def changeOpening (number : Nat) (f : Opening → Opening) : Kernel Unit :=
  modify fun s => { s with openings := s.openings.modify number f }

/-- How long it takes until a process that waited goes on. -/
def wakeTime : Nat := 20000

/-- Lets the processes go on that wait for something. -/
def wake (waitsFor : Blocker → Bool) : Kernel Unit := do
  let s ← get
  for (id, p) in s.processes.toList do
    match p.activity with
    | .blocked blocker =>
      if waitsFor blocker then
        changeProcess id fun p =>
          { p with activity := .ready, clock := max p.clock (s.now + wakeTime) }
    | _ => pure ()

/-! ### Opening and closing -/

/-- Puts something new under a number of a process. -/
def installOpening (id number : Nat) (privately : Bool) (opening : Opening) : Kernel Unit := do
  let fresh ← freshNumber
  modify fun s => { s with openings := s.openings.insert fresh opening }
  changeProcess id (·.withDescriptor number (some { opening := fresh, privately }))
  match opening.target with
  | .source pipe => changePipe pipe fun p => { p with readers := p.readers + 1 }
  | .sink pipe => changePipe pipe fun p => { p with writers := p.writers + 1, begun := true }
  | .file _ => pure ()

/-- Takes a user away from something open, which is closed without users. -/
def releaseOpening (number : Nat) : Kernel Unit := do
  match (← get).openings[number]? with
  | none => pure ()
  | some opening =>
    if 1 < opening.users then changeOpening number fun o => { o with users := o.users - 1 }
    else
      modify fun s => { s with openings := s.openings.erase number }
      match opening.target with
      | .file _ => pure ()
      | .source pipe =>
        changePipe pipe fun p => { p with readers := p.readers - 1 }
        wake (· = .pipe pipe)
      | .sink pipe =>
        changePipe pipe fun p => { p with writers := p.writers - 1 }
        wake (· = .pipe pipe)

/-- Closes a number of a process. -/
def closeNumber (id number : Nat) : Kernel (Except HostFault Unit) := do
  match (← process? id).bind (·.descriptors.lookup number) with
  | none => return .error .badDescriptor
  | some d =>
    changeProcess id (·.withDescriptor number none)
    releaseOpening d.opening
    return .ok ()

/-- What is open under a number of a process, with its own number. -/
def openingOf (id number : Nat) : Kernel (Option (Nat × Opening)) := do
  match (← process? id).bind (·.descriptors.lookup number) with
  | none => return none
  | some d => return (← get).openings[d.opening]?.map (d.opening, ·)

/-! ### Ends and signals -/

/-- Notes a signal for a process. -/
def noteSignal (id signal : Nat) : Kernel Unit := do
  let now := (← get).now
  changeProcess id fun p =>
    let p := if p.noted.contains signal then p else { p with noted := p.noted ++ [signal] }
    match p.activity with
    | .blocked _ =>
      { p with activity := .ready, interrupted := true, clock := max p.clock (now + wakeTime) }
    | .sleeping end_ =>
      { p with activity := .ready, clock := now + wakeTime, woken? := some end_ }
    | _ => p

/-- Ends a process: what it had is closed, its children are nobody's, and the one that started it is
told. -/
def finish (id : Nat) (ending : ProcessEnd) : Kernel Unit := do
  match ← process? id with
  | none => pure ()
  | some p =>
    for (_, d) in p.descriptors do releaseOpening d.opening
    let now := (← get).now
    changeProcess id fun p => { p with
      activity := .ended ending, descriptors := [], clock := now, stopped := false }
    for (other, q) in (← get).processes.toList do
      if q.parent = id then
        match q.activity with
        | .ended _ => modify fun s => { s with processes := s.processes.erase other }
        | _ => changeProcess other fun q => { q with parent := 1 }
    if p.parent = 1 then modify fun s => { s with processes := s.processes.erase id }
    else
      match ← process? p.parent with
      | none => pure ()
      | some parent =>
        if parent.action childSignal = .noted then noteSignal p.parent childSignal
        changeProcess p.parent fun q =>
          match q.activity with
          | .blocked .child => { q with activity := .ready, clock := max q.clock (now + wakeTime) }
          | _ => q

/-- The signals that do nothing by themselves. -/
def harmlessSignals : List Nat := [17, 18, 23, 28]

/-- The signals that stop a process by themselves. -/
def stoppingSignals : List Nat := [19, 20, 21, 22]

/-- Sends a signal to a process. -/
def deliver (id signal : Nat) : Kernel Unit := do
  match ← process? id with
  | none => pure ()
  | some p =>
    if signal = 18 then changeProcess id fun p => { p with stopped := false }
    let action := if signal = 9 || signal = 19 then .standard else p.action signal
    match p.activity, action with
    | .ended _, _ | _, .ignored => pure ()
    | _, .noted => noteSignal id signal
    | _, .standard =>
      if signal = 0 || harmlessSignals.contains signal then pure ()
      else if stoppingSignals.contains signal then
        changeProcess id fun p => { p with stopped := true }
      else finish id (.signalled signal)

end Buildwright.Sandbox
