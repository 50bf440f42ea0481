import Buildwright.Host.Procedure
import Buildwright.Sandbox.Program.Table
import Buildwright.Sandbox.System.Schedule

/-!
# Machines in memory

A host whose files are in memory, for trying out a build without touching anything. What is started
on it runs as a process of its own, which may start others; the host waits until it has ended and
nobody can print for it any more.
-/

namespace Buildwright.Sandbox

open Text (Bytes)

/-! ### The tree at the start -/

/-- What the directory of devices holds. -/
def installedDevices : List (String × Device) :=
  [("null", .nothing), ("zero", .zeros), ("full", .full), ("tty", .terminal), ("stdin", .descriptor 0),
    ("stdout", .descriptor 1), ("stderr", .descriptor 2)]

/-- The numbers under which a process finds what it has open. -/
def shownNumbers : List Nat := (List.range 16) ++ (List.range 16).map (· + 48)

/-- The tree of a machine on which nobody has worked yet. -/
def FileTree.installed : FileTree :=
  let directory (names : List String) (mode : Nat) : List String × Body × Nat :=
    (names, .directory {} FileTree.root, mode)
  let programs := installedPrograms.map fun (name, _) =>
    (["usr", "bin", name], Body.program name, 0o755)
  let devices := installedDevices.map fun (name, device) => (["dev", name], Body.device device, 0o666)
  let numbers := shownNumbers.map fun n =>
    (["dev", "fd", toString n], Body.device (.descriptor n), 0o666)
  let accounts := byteArrayOf (Text.utf8 "root:x:0:0:root:/root:/bin/bash\n")
  let places := programs ++ devices ++ numbers ++ [
    (["bin"], .link "usr/bin", 0o777), (["etc", "passwd"], .regular accounts, 0o644),
    directory ["home"] 0o755, directory ["opt"] 0o755, directory ["root"] 0o700,
    directory ["tmp"] 0o1777, directory ["usr", "local", "bin"] 0o755,
    directory ["usr", "sbin"] 0o755, directory ["var", "tmp"] 0o1777, directory ["proc"] 0o555]
  places.foldl (fun tree (names, body, mode) =>
    tree.place names FileTree.root { body, mode, isForeign := true }) .empty

/-! ### Machines -/

/-- A program that was started from outside: its process, and the channels to which it prints. -/
structure Begun where
  process : Nat
  stdout : Nat
  stderr : Nat

/-- A machine: a system, with the directory from which and the variables with which programs are
started on it. -/
structure Machine where
  system : System
  directory : FileId := FileTree.root
  environment : List (String × String) := []
  /-- The programs that were started and not yet waited for. -/
  begun : List Begun := []

/-- The moment at which machines begin to work. -/
def firstMoment : Moment := 1767225600000000000

/-- A machine with a tree. -/
def Machine.ofTree (tree : FileTree) : Machine where
  system := { tree, now := firstMoment }

namespace Machine

/-- A path as the system knows it, if it can be told at all. -/
def pathText (path : Path) : Except HostFault String :=
  if path.chars.contains '\x00' then .error .nulInName else .ok (octetsOfUnicode path.text)

/-- The file to which a path leads. -/
def find (m : Machine) (path : Path) : Except HostFault FileId := do
  m.system.tree.find m.directory (← pathText path) true

/-- Whether a path leads to something. -/
def isPresent (m : Machine) (path : Path) : Bool := (m.find path).isOk

/-- Whether a path leads to a directory. -/
def isDirectory (m : Machine) (path : Path) : Bool :=
  match m.find path with
  | .ok id => m.system.tree.isDirectory id
  | .error _ => false

/-- The bytes of the file to which a path leads. -/
def readFile (m : Machine) (path : Path) : Except HostFault Bytes := do
  let id ← m.find path
  if !m.system.tree.permits id .read then .error .permissionDenied
  match m.system.tree.body? id with
  | some (.regular contents) => return contents.toList
  | some (.directory _ _) => .error .isDirectory
  | some (.program _) => return programBytes.toList
  | _ => return []

/-! ### Creating directories -/

/-- Creates one directory in a directory that is there. -/
def createDir (m : Machine) (path : Path) : Except HostFault Machine := do
  let s := m.system
  let tree ← s.tree.makeDirectory m.directory (← pathText path) 0o755 s.mark
  return { m with system := { s with tree } }

/-- Creates a directory where none may be there yet. -/
def ensureDir (m : Machine) (path : Path) : Except HostFault Unit × Machine :=
  match m.createDir path with
  | .ok m => (.ok (), m)
  | .error fault => (if m.isDirectory path then .ok () else .error fault, m)

/-- Creates a directory and those above it that are missing. Where one of them cannot be created,
those before it stay. -/
def createDirs (m : Machine) (path : Path) : Except HostFault Unit × Machine :=
  if path.text = "" then (.ok (), m)
  else match m.createDir path with
    | .error .notFound =>
      match _above : path.parent? with
      | none => (.error (.other "failed to create whole tree"), m)
      | some parent =>
        match m.createDirs parent with
        | (.ok (), m) => m.ensureDir path
        | failure => failure
    | _ => m.ensureDir path
  termination_by path.chars.length
  decreasing_by exact Path.length_parent?_lt _above

/-! ### Starting programs -/

/-- Whether a program is searched for elsewhere after such a fault. -/
def isPassedOver : HostFault → Bool
  | .permissionDenied | .notFound | .notDirectory => true
  | _ => false

/-- What the first path of a program gives at which there is something to run. If there is nothing
anywhere, the `fault` is that of a path that may not be run, or else of the last path. -/
def searchProgram (attempt : String → Except HostFault Process) :
    (paths : List String) → (fault : HostFault) → Except HostFault Process
  | [], fault => .error fault
  | path :: paths, fault =>
    match attempt path with
    | .error next =>
      if isPassedOver next then
        searchProgram attempt paths (if fault = .permissionDenied then fault else next)
      else .error next
    | .ok found => .ok found

/-- What runs as a command in a directory. A name without a slash is searched for. -/
def programOf (m : Machine) (directory : FileId) (words : List String) :
    Except HostFault Process :=
  let name := words.headD ""
  let attempt (path : String) : Except HostFault Process :=
    m.system.started programNamed directory path words m.environment
  if name.contains '/' then attempt name
  else if name = "" then .error .notFound
  else
    let search := (m.environment.lookup "PATH").getD Shell.standardSearch
    searchProgram attempt (Shell.searchedPaths search name) .notFound

/-- The directory in which a command runs. -/
def directoryOf (m : Machine) (command : Command) : Except HostFault FileId := do
  match command.workingDir? with
  | none => return m.directory
  | some path =>
    let id ← m.find path
    if m.system.tree.isDirectory id then return id else .error .notDirectory

/-- The number of what is not a process but has started some. -/
def outside : Nat := 0

/-- Starts a process that reads nothing; what it prints, and its messages, go to two channels. -/
def launched (program : Process) (directory : FileId) : Kernel Begun := do
  let s ← get
  let process := s.nextProcess
  let started : Running :=
    { parent := outside, group := process, next := program, directory, clock := s.now }
  set { s with nextProcess := process + 1, processes := s.processes.insert process started }
  let nothing := (s.tree.find FileTree.root "/dev/null" true).toOption.getD FileTree.root
  installOpening process 0 false { target := .file nothing, reads := true, writes := false }
  let channel (number : Nat) : Kernel Nat := do
    let pipe ← freshNumber
    modify fun s => { s with pipes := s.pipes.insert pipe { endless := true, readers := 1 } }
    installOpening process number false { target := .sink pipe, reads := false, writes := true }
    return pipe
  return { process, stdout := ← channel 1, stderr := ← channel 2 }

/-- How a process ended that was started from outside, if it did. -/
def endingOf? (s : System) (id : Nat) : Option Ending :=
  match s.processes[id]? with
  | some { activity := .ended (.exited code), .. } => some (.exited code)
  | some { activity := .ended (.signalled _), .. } => some .killed
  | some _ => none
  | none => some .killed

/-- Whether somebody can still write to a channel. -/
def isWritten (s : System) (pipe : Nat) : Bool := (s.pipes[pipe]?).any (0 < ·.writers)

/-- What is in a channel. -/
def heldIn (s : System) (pipe : Nat) : Bytes :=
  match s.pipes[pipe]? with
  | some p => p.held.toList
  | none => []

/-- Whether a program has ended and nobody can print for it any more. -/
def isOver (s : System) (b : Begun) : Bool :=
  (endingOf? s b.process).isSome && !isWritten s b.stdout && !isWritten s b.stderr

/-- Starts a command. Nothing is started that cannot be handed on as it is. -/
def begin (m : Machine) (command : Command) : Except HostFault (Begun × Machine) := do
  let given := (command.workingDir?.map Path.text).toList ++ command.words
  if !given.all isPassable then throw .nulInArgument
  let directory ← m.directoryOf command
  let program ← m.programOf directory (command.words.map octetsOfUnicode)
  let (b, system) := launched program directory m.system
  return (b, { m with system })

/-- Lets a machine work until one of some programs is over. -/
def workUntil (m : Machine) (awaited : List Begun) : Machine :=
  let goesOn (s : System) : Bool := !awaited.any (isOver s)
  { m with system := m.system.run programNamed goesOn manySteps }

/-- Takes what a program left behind. -/
def collect (m : Machine) (b : Begun) : Finished × Machine :=
  let s := m.system
  let finished : Finished := {
    ending := (endingOf? s b.process).getD .killed
    stdout := heldIn s b.stdout, stderr := heldIn s b.stderr }
  let pipes := (s.pipes.erase b.stdout).erase b.stderr
  (finished, { m with system := { s with processes := s.processes.erase b.process, pipes } })

/-- Runs a command. -/
def start (m : Machine) (command : Command) : Except HostFault (Finished × Machine) := do
  let (b, m) ← m.begin command
  return (m.workUntil [b]).collect b

/-- Waits until one of the programs is over that were started. -/
def await (m : Machine) : Option (Nat × Finished) × Machine :=
  if m.begun.isEmpty then (none, m)
  else
    let m := m.workUntil m.begun
    match m.begun.find? (isOver m.system) with
    | none => (none, m)
    | some b =>
      let (finished, m) := m.collect b
      (some (b.process, finished), { m with begun := m.begun.filter (·.process ≠ b.process) })

end Machine

/-- The host that a machine is. -/
def machineHost : Host Machine where
  isPresent path m := (m.isPresent path, m)
  readFile path m := (m.readFile path, m)
  createDirs path m := m.createDirs path
  start command m :=
    match m.start command with
    | .ok (finished, m) => (.ok finished, m)
    | .error fault => (.error fault, m)
  begin command m :=
    match m.begin command with
    | .ok (b, m) => (.ok b.process, { m with begun := m.begun ++ [b] })
    | .error fault => (.error fault, m)
  await m := m.await
  employ _ m := (.ok (), m)
  clock m := (0, m)

end Buildwright.Sandbox
