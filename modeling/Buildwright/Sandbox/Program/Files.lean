import Buildwright.Sandbox.Program.Calendar
import Buildwright.Sandbox.Program.Mode
import Buildwright.Sandbox.Program.Plain

/-!
# Programs for files

Programs that create and remove files and directories, and change what is known about them.
-/

namespace Buildwright.Sandbox.Program

/-! ### Complaints -/

/-- Complains about what could not be done with a path. -/
def complainOf (what path : String) (fault : HostFault) : Work Unit :=
  Work.complain (what ++ " " ++ quotedName path ++ ": " ++ fault.reason) 1

/-- The permission bits that new files do not get. -/
def currentMask : Work Nat := Work.ask (.setMask none)

/-- A path with a name behind it. -/
def joined (directory name : String) : String :=
  if directory.endsWith "/" then directory ++ name else directory ++ "/" ++ name

/-! ### Permissions -/

/-- What the program that changes permissions is told. -/
structure ModeOrder where
  changes : List ModeChange
  mask : Nat
  recursive : Bool
  quiet : Bool
  verbose : Bool
  onlyChanges : Bool
  /-- Whether it is said if the mask keeps something from being done. -/
  watchful : Bool

/-- A mode as messages show it. -/
def shownMode (mode : Nat) : String := modeDigits mode ++ " (" ++ modeLetters mode ++ ")"

/-- Changes the permissions of what stands at a path, and below it if that is asked for. -/
def changeModeAt (order : ModeOrder) : (depth : Nat) → (path : String) → (isOperand : Bool) → Work Unit
  | 0, _, _ => pure ()
  | depth + 1, path, isOperand => do
    match ← Work.ask (.status path true) with
    | .error fault =>
      let isLink : Bool := match ← Work.ask (.status path false) with
        | .ok status => status.kind = .link
        | .error _ => false
      if !order.quiet then
        if isLink then
          if isOperand then
            Work.warn ("cannot operate on dangling symlink " ++ quotedName path)
        else complainOf "cannot access" path fault
      if !isLink || isOperand then Work.setCode 1
    | .ok status =>
      let link : Bool := match ← Work.ask (.status path false) with
        | .ok status => status.kind = .link
        | .error _ => false
      if link && !isOperand then return
      let isDirectory := decide (status.kind = .directory)
      let mode := changedMode isDirectory order.mask order.changes status.mode
      match ← Work.ask (.setMode path mode) with
      | .error fault => complainOf "changing permissions of" path fault
      | .ok _ =>
        if order.verbose || (order.onlyChanges && mode ≠ status.mode) then
          if mode = status.mode then
            Work.printLine ("mode of " ++ quotedName path ++ " retained as " ++ shownMode mode)
          else
            Work.printLine ("mode of " ++ quotedName path ++ " changed from " ++
              shownMode status.mode ++ " to " ++ shownMode mode)
        if order.watchful then
          let naive := changedMode isDirectory 0 order.changes status.mode
          if without mode naive ≠ 0 then
            Work.complain (shownPath path ++ ": new permissions are " ++ modeLetters mode ++
              ", not " ++ modeLetters naive) 1
        if order.recursive && isDirectory then
          match ← Work.ask (.list path) with
          | .error fault =>
            Work.complain ("cannot read directory " ++ quotedName path ++ ": " ++ fault.reason) 1
          | .ok entries =>
            for (name, kind) in entries do
              if kind ≠ .link then changeModeAt order depth (joined path name) false

/-- The arguments of the program that changes permissions: a mode that begins with a hyphen is no
option. -/
def modeArguments : List String → List String × List String
  | [] => ([], [])
  | "--" :: args => ([], "--" :: args)
  | arg :: args =>
    let (modes, others) := modeArguments args
    match arg.toList with
    | '-' :: c :: _ => if "rwxXstugoa,+=01234567".toList.contains c then (arg :: modes, others)
      else (modes, arg :: others)
    | _ => (modes, arg :: others)

/-- The greatest number of directories one within another. -/
def greatestDepth : Nat := 2048

/-- Changes permissions. -/
def changeModes : Work Unit := do
  let (modes, args) := modeArguments (← Work.arguments)
  let table : OptionTable := {
    letters := "Rcfv", names := plainNames [("recursive", "R"), ("changes", "c"), ("quiet", "f"),
      ("silent", "f"), ("verbose", "v"), ("preserve-root", "p"), ("no-preserve-root", "n")] ++
      valuedNames [("reference", "reference")] }
  let d := table.directions args
  if let some fault := d.fault? then Work.mislead fault 1
  let mode? := if modes.isEmpty then none else some (",".intercalate modes)
  let reference? := d.value? "reference"
  let (text, paths) := match mode?, reference?, d.operands with
    | some mode, _, paths => (mode, paths)
    | none, some _, paths => ("", paths)
    | none, none, mode :: paths => (mode, paths)
    | none, none, [] => ("", [])
  if paths.isEmpty then
    if text = "" || mode?.isSome then missOperand 1
    Work.mislead ("missing operand after " ++ quotedWord text) 1
  let changes? ← match reference? with
    | some path => do
      match ← Work.ask (.status path true) with
      | .ok status =>
        pure (some [{
          operator := '=', affected := allBits, value := status.mode, mentioned := allBits }])
      | .error fault =>
        Work.abandon ("failed to get attributes of " ++ quotedName path ++ ": " ++ fault.reason) 1
    | none => pure (modeChanges? text)
  match changes? with
  | none => Work.mislead ("invalid mode: " ++ quotedWord text) 1
  | some changes =>
    let order : ModeOrder := {
      changes, mask := ← currentMask, recursive := d.has "R", quiet := d.has "f"
      verbose := d.has "v", onlyChanges := d.has "c", watchful := mode?.isSome }
    for path in paths do changeModeAt order greatestDepth path true

/-! ### Directories -/

/-- The parents of a path, outermost first. -/
def parentsOf (path : String) : List String :=
  let rec go : (done : List Char) → (rest : List Char) → List String
    | _, [] => []
    | done, '/' :: rest =>
      let behind := rest.dropWhile (· = '/')
      let more := go ('/' :: done) rest
      if done.isEmpty || done.head? = some '/' || behind.isEmpty then more
      else String.ofList done.reverse :: more
    | done, c :: rest => go (c :: done) rest
  go [] path.toList

/-- Creates a directory; `mode?` are the permission bits if they are given. -/
def makeOne (verbose : Bool) (mode : Nat) (wanted? : Option Nat) (path : String) :
    Work (Except HostFault Unit) := do
  match ← Work.ask (.makeDirectory path mode) with
  | .error fault => return .error fault
  | .ok _ =>
    if let some exact := wanted? then
      let _ ← Work.ask (.setMode path exact)
    if verbose then
      Work.printLine ((← read).name ++ ": created directory " ++ quotedName path)
    return .ok ()

/-- Creates directories that are missing above a path; the result tells which one cannot be created.
-/
def makeParents (verbose : Bool) : List String → Work (Option (String × HostFault))
  | [] => return none
  | path :: paths => do
    match ← makeOne verbose 0o777 none path with
    | .ok _ => makeParents verbose paths
    | .error fault =>
      if ← Work.isDirectory path then makeParents verbose paths
      else return some (path, if fault = .alreadyExists then .notDirectory else fault)

/-- Creates directories. -/
def makeDirectories : Work Unit := do
  let d ← Work.directions {
    letters := "pvZ", valued := "m", names := plainNames [("parents", "p"), ("verbose", "v")] ++
      valuedNames [("mode", "m")] } 1
  if d.operands.isEmpty then missOperand 1
  let mask ← currentMask
  let wanted? ← match d.value? "m" with
    | none => pure none
    | some text =>
      match modeChanges? text with
      | some changes => pure (some (changedMode true mask changes 0o777))
      | none => Work.abandon ("invalid mode " ++ quotedWord text) 1
  let verbose := d.has "v"
  for path in d.operands do
    let fault? ← if d.has "p" then makeParents verbose (parentsOf path) else pure none
    match fault? with
    | some (path, fault) => complainOf "cannot create directory" path fault
    | none =>
      match ← makeOne verbose 0o777 wanted? path with
      | .ok _ => pure ()
      | .error fault =>
        let isThere ← if d.has "p" then Work.isDirectory path else pure false
        if !isThere then complainOf "cannot create directory" path fault

/-- Removes directories above a path as long as nothing else is in them. -/
def removeParents (verbose tolerant : Bool) : List String → Work Unit
  | [] => pure ()
  | path :: paths => do
    if verbose then
      Work.printLine ((← read).name ++ ": removing directory, " ++ quotedName path)
    match ← Work.ask (.removeDirectory path) with
    | .ok _ => removeParents verbose tolerant paths
    | .error fault =>
      if !(tolerant && fault = .notEmpty) then complainOf "failed to remove directory" path fault

/-- Removes directories in which there is nothing. -/
def removeDirectories : Work Unit := do
  let d ← Work.directions {
    letters := "pv", names := plainNames [("parents", "p"), ("verbose", "v"),
      ("ignore-fail-on-non-empty", "i")] } 1
  if d.operands.isEmpty then missOperand 1
  let verbose := d.has "v"
  for path in d.operands do
    if verbose then
      Work.printLine ((← read).name ++ ": removing directory, " ++ quotedName path)
    match ← Work.ask (.removeDirectory path) with
    | .error fault =>
      if !(d.has "i" && fault = .notEmpty) then
        let isLink : Bool ← if fault = .notDirectory && path.endsWith "/" then do
            let name := String.ofList (withoutLastSlashes path.toList)
            match ← Work.ask (.status name false) with
            | .ok status => pure (decide (status.kind = .link))
            | .error _ => pure false
          else pure false
        if isLink then
          Work.complain ("failed to remove " ++ quotedName path ++ ": Symbolic link not followed") 1
        else complainOf "failed to remove" path fault
    | .ok _ =>
      if d.has "p" then
        let path := String.ofList (withoutLastSlashes path.toList)
        removeParents verbose (d.has "i") (parentsOf path).reverse

/-! ### Removing -/

/-- How things are removed. -/
structure Removal where
  recursive : Bool
  directories : Bool
  forced : Bool
  verbose : Bool
  asks : Bool

/-- Reads a line, and tells whether it says yes. -/
def readAgreement : Work Bool := do
  let rec line : (rounds : Nat) → List Char → Work (List Char)
    | 0, cs => return cs.reverse
    | rounds + 1, cs => do
      match ← Work.ask (.read 0 1) with
      | .error _ => return cs.reverse
      | .ok bytes =>
        match (octetText bytes).toList with
        | [] | ['\n'] => return cs.reverse
        | c :: _ => line rounds (c :: cs)
  let answer ← line manyRounds []
  return answer.head? = some 'y' || answer.head? = some 'Y'

/-- Whether a question is answered with yes. -/
def isAgreed (question : String) : Work Bool := do
  Work.flush
  Work.remark ((← read).name ++ ": " ++ question ++ "? ")
  readAgreement

/-- What sort of thing a question is about. -/
def kindText (status : FileStatus) : String :=
  match status.kind with
  | .regular => if status.size = 0 then "regular empty file" else "regular file"
  | .directory => "directory"
  | .link => "symbolic link"
  | .device => "character special file"
  | .channel => "fifo"

/-- Removes what stands at a path; the result says whether that is done. -/
def removeAt (r : Removal) : (depth : Nat) → (path : String) → Work Bool
  | 0, _ => return false
  | depth + 1, path => do
    let cannot (fault : HostFault) : Work Bool := do
      complainOf "cannot remove" path fault
      return false
    match ← Work.ask (.status path false) with
    | .error fault =>
      if r.forced && (fault = .notFound || fault = .notDirectory) then return true else cannot fault
    | .ok status =>
      if status.kind = .directory then
        if !r.recursive && !r.directories then return (← cannot .isDirectory)
        let entries := ((← Work.ask (.list path)).toOption).getD []
        if !r.recursive && !entries.isEmpty then return (← cannot .notEmpty)
        if r.asks && !entries.isEmpty then
          if !(← isAgreed ("descend into directory " ++ quotedName path)) then return false
        let mut isEmpty := true
        for (name, _) in entries do
          let removed ← removeAt r depth (joined path name)
          isEmpty := isEmpty && removed
        if !isEmpty then return false
        if r.asks then
          if !(← isAgreed ("remove directory " ++ quotedName path)) then return false
        match ← Work.ask (.removeDirectory path) with
        | .error fault => cannot fault
        | .ok _ =>
          if r.verbose then Work.printLine ("removed directory " ++ quotedName path)
          return true
      else
        if r.asks then
          if !(← isAgreed ("remove " ++ kindText status ++ " " ++ quotedName path)) then return false
        match ← Work.ask (.unlink path) with
        | .error fault => cannot fault
        | .ok _ =>
          if r.verbose then Work.printLine ("removed " ++ quotedName path)
          return true

/-- Whether the last component of a path is a dot or two dots. -/
def endsInDots (path : String) : Bool :=
  let name := String.ofList (lastName path.toList [])
  name = "." || name = ".."

/-- Removes files. -/
def removeFiles : Work Unit := do
  let d ← Work.directions {
    letters := "dfirRvI", names := plainNames [("dir", "d"), ("force", "f"), ("recursive", "r"),
      ("verbose", "v"), ("one-file-system", "x"), ("no-preserve-root", "n")] ++
      [{ name := "interactive", key := "i", takes := .perhaps },
        { name := "preserve-root", key := "p", takes := .perhaps }] } 1
  let manner := d.last? ["f", "i", "I"]
  if d.operands.isEmpty then
    if manner = some "f" then return else missOperand 1
  let recursive := d.hasAny ["r", "R"]
  let r : Removal := {
    recursive, directories := d.has "d", forced := manner = some "f"
    verbose := d.has "v", asks := manner = some "i" }
  for path in d.operands do
    if recursive && endsInDots path then
      Work.complain ("refusing to remove '.' or '..' directory: skipping " ++ quotedName path) 1
    else if recursive && !d.has "n" && path ≠ "" && path.all (· = '/') then
      Work.warn ("it is dangerous to operate recursively on " ++ if path = "//" then
          quotedName path ++ " (same as '/')" else quotedName "/")
      Work.complain "use --no-preserve-root to override this failsafe" 1
    else
      let _ ← removeAt r greatestDepth path

/-! ### Times -/

/-- The moments to which a file is set. -/
def askedMoments (d : Directions) (now : Moment) : Work (Moment × Moment) := do
  match d.value? "d", d.value? "r" with
  | some text, _ =>
    match readMoment? text with
    | some moment => return (moment, moment)
    | none => Work.abandon ("invalid date format " ++ quotedWord text) 1
  | none, some path =>
    match ← Work.ask (.status path true) with
    | .ok status => return (status.accessed, status.modified)
    | .error fault =>
      Work.abandon ("failed to get attributes of " ++ quotedName path ++ ": " ++ fault.reason) 1
  | none, none => return (now, now)

/-- Sets when files were last read and written, and creates those that are missing. -/
def touchFiles : Work Unit := do
  let d ← Work.directions {
    letters := "acfhm", valued := "dr", names := plainNames [("no-create", "c"),
      ("no-dereference", "h")] ++ valuedNames [("date", "d"), ("reference", "r"), ("time", "time")] } 1
  let now ← Work.ask .clock
  let (accessed, modified) ← askedMoments d now
  if d.operands.isEmpty then Work.mislead "missing file operand" 1
  let word := (d.value? "time").getD ""
  let onlyAccessed := d.has "a" || ["access", "atime", "use"].contains word
  let onlyModified := d.has "m" || ["modify", "mtime"].contains word
  let accessed? := if onlyModified && !onlyAccessed then none else some accessed
  let modified? := if onlyAccessed && !onlyModified then none else some modified
  for path in d.operands do
    let opened : Except HostFault Unit ←
      if path = "-" || d.hasAny ["c", "h"] then pure (.ok ())
      else do
        match ← Work.ask (.open path { writes := true, creates := true } 0o666) with
        | .ok number =>
          let _ ← Work.ask (.close number)
          pure (.ok ())
        | .error fault => pure (.error fault)
    if path ≠ "-" then
      match ← Work.ask (.setTimes path (!d.has "h") accessed? modified?), opened with
      | .ok _, _ => pure ()
      | .error fault, .ok _ =>
        if !(d.has "c" && fault = .notFound) then complainOf "setting times of" path fault
      | .error fault, .error first =>
        if first = .isDirectory || first = .invalid then complainOf "setting times of" path fault
        else complainOf "cannot touch" path first

end Buildwright.Sandbox.Program
