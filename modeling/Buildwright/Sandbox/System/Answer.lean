import Buildwright.Sandbox.System.Start

/-!
# Answers

What a system answers to each request of a process, and what becomes of the system by that.
-/

namespace Buildwright.Sandbox

/-- What becomes of a request. -/
inductive Reply (call : Call) where
  | answer (a : call.Answer)
  /-- The process has to wait; then it asks again. -/
  | wait (blocker : Blocker)
  /-- The process waits for a moment. -/
  | pause (end_ : Moment)
  /-- The process goes on as something else. -/
  | replaced (program : Process)
  /-- There is no such process any more. -/
  | gone

/-! ### Files -/

/-- Runs a change of the tree that may fail. -/
def changeTree (change : FileTree → Moment → Except HostFault FileTree) :
    Kernel (Except HostFault Unit) := do
  let s ← get
  match change s.tree s.mark with
  | .error fault => return .error fault
  | .ok tree =>
    set { s with tree }
    return .ok ()

/-- The channel that has a name. -/
def channelOf (id : FileId) : Kernel Nat := do
  match (← get).channels.lookup id with
  | some pipe => return pipe
  | none =>
    let pipe ← freshNumber
    modify fun s => { s with
      channels := (id, pipe) :: s.channels, pipes := s.pipes.insert pipe { begun := false } }
    return pipe

/-- What is open after a file is opened. -/
def openFile (p : Running) (id : FileId) (access : Access) (fresh : Bool) :
    Kernel (Except HostFault Opening) := do
  let s ← get
  let opening : Opening := {
    target := .file id, reads := access.reads, writes := access.writes
    appends := access.appends }
  let ofPipe (pipe : Nat) : Opening :=
    { opening with target := if access.writes then .sink pipe else .source pipe }
  let cleared (id : FileId) : Kernel (Except HostFault Opening) := do
    if access.clears && access.writes then
      let mark := (← get).mark
      modify fun s => { s with tree := s.tree.write id mark fun _ => ByteArray.empty }
    return .ok { opening with target := .file id }
  let isDirectory := s.tree.isDirectory id
  if isDirectory && (access.writes || access.creates) then return .error .isDirectory
  let isRefused := (access.reads && !s.tree.permits id .read) ||
    (access.writes && !s.tree.permits id .write)
  if isRefused && !fresh then
    return .error .permissionDenied
  match s.tree.body? id with
  | some (.directory _ _) => return .ok opening
  | some (.device .terminal) => return .error .noDevice
  | some (.device (.descriptor number)) =>
    match (p.descriptors.lookup number).bind fun d => s.openings[d.opening]? with
    | none => return .error .notFound
    | some { target := .file id, .. } => cleared id
    | some { target := .source pipe, .. } | some { target := .sink pipe, .. } =>
      return .ok (ofPipe pipe)
  | some .channel => return .ok (ofPipe (← channelOf id))
  | some _ => cleared id
  | none => return .error .notFound

/-- Opens a path for a process. -/
def openPath (id : Nat) (p : Running) (path : String) (access : Access) (mode : Nat) :
    Kernel (Except HostFault Nat) := do
  let s ← get
  let file? : Except HostFault (FileId × Bool) ← do
    match s.tree.locate p.directory path (!access.fresh) with
    | .error fault => pure (.error fault)
    | .ok { id? := some file, .. } =>
      pure (if access.fresh then .error .alreadyExists else .ok (file, false))
    | .ok spot =>
      if !access.creates then pure (.error .notFound)
      else if spot.slashed then pure (.error .isDirectory)
      else if !s.tree.permits spot.parent .write then pure (.error .permissionDenied)
      else
        let (tree, file) := s.tree.create spot.parent spot.name (.regular ByteArray.empty)
          (mode &&& (0o7777 - (p.mask &&& 0o7777))) s.mark
        set { s with tree }
        pure (.ok (file, true))
  match file? with
  | .error fault => return .error fault
  | .ok (file, fresh) =>
    match ← openFile p file access fresh with
    | .error fault => return .error fault
    | .ok opening =>
      let number := p.freeNumber 0
      installOpening id number false opening
      return .ok number

/-- What is told about something open. -/
def statusOfOpening (opening : Opening) : Kernel (Except HostFault FileStatus) := do
  match opening.target with
  | .file id =>
    match (← get).tree.file? id with
    | some file => return .ok (file.status id)
    | none => return .error .badDescriptor
  | .source pipe | .sink pipe =>
    return .ok {
      id := pipe, kind := .channel, mode := 0o600, names := 1, size := 0
      accessed := 0, modified := 0, changed := 0 }

/-! ### Reading and writing -/

/-- Reads from something open. -/
def readOpening (number : Nat) (opening : Opening) (count : Nat) :
    Kernel (Except HostFault ByteArray ⊕ Blocker) := do
  if !opening.reads then return .inl (.error .badDescriptor)
  let s ← get
  match opening.target with
  | .sink _ => return .inl (.error .badDescriptor)
  | .source pipe =>
    match s.pipes[pipe]? with
    | none => return .inl (.ok ByteArray.empty)
    | some p =>
      if 0 < p.size then
        let (bytes, p) := p.take count
        modify fun s => { s with pipes := s.pipes.insert pipe p }
        wake (· = .pipe pipe)
        return .inl (.ok bytes)
      else if p.writers = 0 && p.begun then return .inl (.ok ByteArray.empty)
      else return .inr (.pipe pipe)
  | .file id =>
    let behind (contents : ByteArray) : Kernel (Except HostFault ByteArray ⊕ Blocker) := do
      let bytes := contents.extract opening.position (opening.position + count)
      changeOpening number fun o => { o with position := o.position + bytes.size }
      return .inl (.ok bytes)
    match s.tree.body? id with
    | some (.regular contents) => behind contents
    | some (.program _) => behind programBytes
    | some (.directory _ _) => return .inl (.error .isDirectory)
    | some (.device .zeros) | some (.device .full) =>
      return .inl (.ok ⟨Array.replicate count 0⟩)
    | _ => return .inl (.ok ByteArray.empty)

/-- The contents of a file after bytes are written at a position. -/
def writtenAt (contents : ByteArray) (position : Nat) (bytes : ByteArray) : ByteArray :=
  if position = contents.size then contents ++ bytes
  else
    let front := if position ≤ contents.size then contents.extract 0 position
      else contents ++ ⟨Array.replicate (position - contents.size) 0⟩
    front ++ bytes ++ contents.extract (position + bytes.size) contents.size

/-- How many bytes a file holds at most. -/
def fileCapacity : Nat := 67108864

/-- What becomes of writing. -/
inductive Writing where
  | done (result : Except HostFault Nat)
  | blocked (pipe : Nat)
  /-- Nobody reads the channel any more. -/
  | broken

/-- Writes to something open. -/
def writeOpening (number : Nat) (opening : Opening) (bytes : ByteArray) : Kernel Writing := do
  if !opening.writes then return .done (.error .badDescriptor)
  let s ← get
  match opening.target with
  | .source _ => return .done (.error .badDescriptor)
  | .sink pipe =>
    match s.pipes[pipe]? with
    | none => return .broken
    | some p =>
      let room := pipeCapacity - p.size
      if p.readers = 0 && (p.begun && !s.channels.any (·.2 = pipe)) then return .broken
      else if p.endless || bytes.size ≤ room then
        changePipe pipe fun p => { p with held := p.held ++ bytes }
        wake (· = .pipe pipe)
        return .done (.ok bytes.size)
      else if bytes.size ≤ pipeUnit || room = 0 then return .blocked pipe
      else
        changePipe pipe fun p => { p with held := p.held ++ bytes.extract 0 room }
        wake (· = .pipe pipe)
        return .done (.ok room)
  | .file id =>
    match s.tree.body? id with
    | some (.regular contents) =>
      let position := if opening.appends then contents.size else opening.position
      if fileCapacity < position + bytes.size then return .done (.error .noSpace)
      modify fun s => { s with tree := s.tree.write id s.mark (writtenAt · position bytes) }
      changeOpening number fun o => { o with position := position + bytes.size }
      return .done (.ok bytes.size)
    | some (.device .full) =>
      return .done (if bytes.isEmpty then .ok 0 else .error .noSpace)
    | _ => return .done (.ok bytes.size)

/-- Sets the position in something open. -/
def seekOpening (number : Nat) (opening : Opening) (origin : Origin) (distance : Int) :
    Kernel (Except HostFault Nat) := do
  match opening.target with
  | .file id =>
    let size := ((← get).tree.file? id).elim 0 (·.body.size)
    let base : Nat := match origin with
      | .start => 0
      | .current => opening.position
      | .finish => size
    let position : Int := base + distance
    if position < 0 then return .error .invalid
    changeOpening number fun o => { o with position := position.toNat }
    return .ok position.toNat
  | _ => return .error .noPositions

/-! ### Processes -/

/-- Whether a process ended, and how. -/
def Running.ending? (p : Running) : Option ProcessEnd :=
  match p.activity with
  | .ended ending => some ending
  | _ => none

/-- Waits for a child. -/
def awaitChild (id : Nat) (p : Running) (child? : Option Nat) (waits : Bool) :
    Kernel (Except HostFault (Option (Nat × ProcessEnd)) ⊕ Blocker) := do
  let s ← get
  let children := s.processes.toList.filter fun (other, q) =>
    q.parent = id && (child?.all (· = other))
  if children.isEmpty then return .inl (.error .noChild)
  let ended := children.filterMap fun (other, q) => q.ending?.map fun e => (other, q.clock, e)
  match ended with
  | first :: others =>
    let (child, _, ending) := others.foldl (fun (best : Nat × Moment × ProcessEnd) next =>
      if next.2.1 < best.2.1 then next else best) first
    set { s with processes := s.processes.erase child }
    return .inl (.ok (some (child, ending)))
  | [] =>
    if !waits then return .inl (.ok none)
    else if p.interrupted then
      changeProcess id fun p => { p with interrupted := false }
      return .inl (.error .interrupted)
    else return .inr .child

/-- Sends a signal to a process or to a group. -/
def sendSignal (p : Running) (target : Int) (signal : Nat) : Kernel (Except HostFault Unit) := do
  let s ← get
  let ids := s.processes.toList.filterMap fun (id, q) =>
    let isMeant : Bool := if 0 < target then target = id
      else if target = 0 then q.group = p.group
      else if target = -1 then true
      else q.group = target.natAbs && id = q.group
    if isMeant then some id else none
  if target = 1 then return .ok ()
  if ids.isEmpty then return .error .noProcess
  if signal ≠ 0 then
    for id in ids do deliver id signal
  return .ok ()

/-! ### All requests -/

/-- How long a request takes. -/
def Call.duration : Call → Nat
  | .pause => 3000
  | .execute _ _ _ => 700000
  | _ => 2000

/-- Answers with what a step gives. -/
def answering {call : Call} (step : Kernel call.Answer) : Kernel (Reply call) :=
  return .answer (← step)

/-- What becomes of a request of a process. -/
def perform (programs : Programs) (id : Nat) (p : Running) : (call : Call) → Kernel (Reply call)
  | .pause => do
    changeProcess id fun p => { p with noted := [], interrupted := false }
    return .answer p.noted
  | .open path access mode => answering (openPath id p path access mode)
  | .close number => answering (closeNumber id number)
  | .duplicate number least privately => do
    match p.descriptors.lookup number with
    | none => return .answer (.error .badDescriptor)
    | some d =>
      let free := p.freeNumber least
      changeOpening d.opening fun o => { o with users := o.users + 1 }
      changeProcess id (·.withDescriptor free (some { d with privately }))
      return .answer (.ok free)
  | .duplicateTo number target => do
    match p.descriptors.lookup number with
    | none => return .answer (.error .badDescriptor)
    | some d =>
      if number ≠ target then
        changeOpening d.opening fun o => { o with users := o.users + 1 }
        let _ ← closeNumber id target
        changeProcess id (·.withDescriptor target (some { opening := d.opening }))
      return .answer (.ok ())
  | .pipe => do
    let pipe ← freshNumber
    modify fun s => { s with pipes := s.pipes.insert pipe {} }
    let source := p.freeNumber 0
    installOpening id source false { target := .source pipe, reads := true, writes := false }
    let sink := ((← process? id).getD p).freeNumber 0
    installOpening id sink false { target := .sink pipe, reads := false, writes := true }
    return .answer (source, sink)
  | .read number count => do
    match ← openingOf id number with
    | none => return .answer (.error .badDescriptor)
    | some (opening, o) =>
      match ← readOpening opening o count with
      | .inl result => return .answer result
      | .inr blocker =>
        if p.interrupted then
          changeProcess id fun p => { p with interrupted := false }
          return .answer (.error .interrupted)
        return .wait blocker
  | .write number bytes => do
    match ← openingOf id number with
    | none => return .answer (.error .badDescriptor)
    | some (opening, o) =>
      match ← writeOpening opening o bytes with
      | .done result => return .answer result
      | .blocked pipe => return .wait (.pipe pipe)
      | .broken =>
        match p.action 13 with
        | .ignored => return .answer (.error .brokenPipe)
        | .noted =>
          noteSignal id 13
          return .answer (.error .brokenPipe)
        | .standard =>
          finish id (.signalled 13)
          return .gone
  | .seek number origin distance => do
    match ← openingOf id number with
    | none => return .answer (.error .badDescriptor)
    | some (opening, o) => answering (seekOpening opening o origin distance)
  | .truncate number size => do
    match ← openingOf id number with
    | some (_, { target := .file file, writes := true, .. }) =>
      if fileCapacity < size then return .answer (.error .noSpace)
      let resized (contents : ByteArray) : ByteArray :=
        contents.extract 0 size ++ ⟨Array.replicate (size - contents.size) 0⟩
      modify fun s => { s with tree := s.tree.write file s.mark resized }
      return .answer (.ok ())
    | _ => return .answer (.error .invalid)
  | .status path follows => do
    let tree := (← get).tree
    return .answer do
      let file ← tree.find p.directory path follows
      match tree.file? file with
      | some found => return found.status file
      | none => .error .notFound
  | .statusOf number => do
    match ← openingOf id number with
    | none => return .answer (.error .badDescriptor)
    | some (_, o) => answering (statusOfOpening o)
  | .list path => do
    let tree := (← get).tree
    return .answer do
      let directory ← tree.find p.directory path true
      match tree.directory? directory with
      | none => .error .notDirectory
      | some (entries, _) =>
        if !tree.permits directory .read then .error .permissionDenied
        return entries.toList.filterMap fun (name, file) =>
          (tree.file? file).map fun f => (name, f.body.kind)
  | .makeDirectory path mode => answering (changeTree fun tree now =>
      tree.makeDirectory p.directory path (mode &&& (0o7777 - (p.mask &&& 0o7777))) now)
  | .removeDirectory path => answering (changeTree fun tree now =>
      tree.removeDirectory p.directory path now)
  | .unlink path => answering (changeTree fun tree now => tree.unlink p.directory path now)
  | .rename old new => answering (changeTree fun tree now => tree.rename p.directory old new now)
  | .addName old new follows => answering (changeTree fun tree now =>
      tree.addName p.directory old new follows now)
  | .makeLink target path => answering (changeTree fun tree now =>
      if target = "" then .error .notFound
      else tree.makeFile p.directory path (.link target) 0o777 now)
  | .makeChannel path mode => answering (changeTree fun tree now =>
      tree.makeFile p.directory path .channel (mode &&& (0o7777 - (p.mask &&& 0o7777))) now)
  | .readLink path => do
    let tree := (← get).tree
    return .answer do
      let file ← tree.find p.directory path false
      match tree.file? file with
      | some { body := .link target, .. } => return target
      | _ => .error .invalid
  | .setMode path mode => answering (changeTree fun tree now => do
      let file ← tree.find p.directory path true
      if (tree.file? file).any (·.isForeign) then .error .notPermitted
      return tree.change file fun f => { f with mode, changed := now })
  | .setTimes path follows accessed modified => answering (changeTree fun tree now => do
      let file ← tree.find p.directory path follows
      if (tree.file? file).any (·.isForeign) && !tree.permits file .write then
        .error .permissionDenied
      return tree.change file fun f => { f with
        accessed := accessed.getD f.accessed, modified := modified.getD f.modified
        changed := now })
  | .changeDirectory path => do
    match (← get).tree.find p.directory path true with
    | .error fault => return .answer (.error fault)
    | .ok directory =>
      if !(← get).tree.isDirectory directory then return .answer (.error .notDirectory)
      if !(← get).tree.permits directory .pass then return .answer (.error .permissionDenied)
      changeProcess id fun p => { p with directory }
      return .answer (.ok ())
  | .directory => do
    let tree := (← get).tree
    let isThere := (tree.file? p.directory).any (0 < ·.names)
    return .answer (if isThere then .ok (tree.pathOf p.directory) else .error .notFound)
  | .setMask mask? => do
    changeProcess id fun p => { p with mask := mask?.getD p.mask }
    return .answer p.mask
  | .execute path arguments environment => do
    match (← get).started programs p.directory path arguments environment with
    | .error fault => return .answer fault
    | .ok program =>
      for (number, d) in p.descriptors do
        if d.privately then
          let _ ← closeNumber id number
      changeProcess id fun p => { p with
        noted := [], actions := p.actions.filter (·.2 = .ignored) }
      return .replaced program
  | .await child? waits => do
    match ← awaitChild id p child? waits with
    | .inl answer => return .answer answer
    | .inr blocker => return .wait blocker
  | .send target signal => do
    let answer ← sendSignal p target signal
    match ← process? id with
    | some { activity := .ready, .. } => return .answer answer
    | _ => return .gone
  | .onSignal signal action? => do
    if let some action := action? then
      changeProcess id fun p => { p with
        actions := (signal, action) :: p.actions.filter (·.1 ≠ signal) }
    return .answer (p.action signal)
  | .identify => return .answer (id, p.parent)
  | .leadGroup => do
    changeProcess id fun p => { p with group := id }
    return .answer (.ok ())
  | .sleep duration => do
    match p.woken? with
    | none => return .pause (p.clock + duration)
    | some end_ =>
      changeProcess id fun p => { p with woken? := none }
      return .answer (end_ - p.clock).toNat
  | .clock => return .answer p.clock

end Buildwright.Sandbox
