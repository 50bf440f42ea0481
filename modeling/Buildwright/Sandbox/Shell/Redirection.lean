import Buildwright.Sandbox.Shell.Expansion

/-!
# Redirections

Where the input of a statement comes from and where its output goes. The words of redirections are
expanded first; then what they name is opened, and what was open before is kept aside until the
statement is done. What cannot be opened gives a message, and the statement is not run.
-/

namespace Buildwright.Sandbox.Shell

/-! ### Preparation -/

/-- A redirection whose words are expanded. -/
inductive Prepared where
  | file (number : Nat) (mode : OpenMode) (path : String)
  /-- A file for what is printed and for messages. -/
  | both (appends : Bool) (path : String)
  /-- The place of another number, which is moved if `moves` holds. -/
  | copy (number source : Nat) (moves : Bool)
  | close (number : Nat)
  | text (number : Nat) (text : String)

/-- The one path that a word names. -/
def pathOf (inside : Inside) (w : Word) : Sh String := do
  if ← isExtended then
    match ← expandWord inside w with
    | [path] => return path
    | _ =>
      let shown := match w with
        | [.parameter p _ _] => "$" ++ p.shown
        | [.text t _] => t
        | _ => "*"
      complain (shown ++ ": ambiguous redirect")
      setStatus 1
      throw .failed
  else expandText inside w

/-- Expands the words of a redirection. -/
def prepare (inside : Inside) : Redirection → Sh Prepared
  | .file number mode path => return .file number mode (← pathOf inside path)
  | .bothTo appends path => return .both appends (← pathOf inside path)
  | .text number id => do
    let word := ((← get).texts[id]?).getD []
    return .text number (← wordText inside word)
  | .word number w => return .text number ((← expandText inside w) ++ "\n")
  | .copy number writes source => do
    let text ← expandText inside source
    let extended ← isExtended
    if text = "-" then return .close number
    match naturalOf? text with
    | some n => if extended || n < 10 then return .copy number n false
    | none => pure ()
    if extended then
      match text.toList.reverse with
      | '-' :: digits =>
        if let some n := naturalOf? (String.ofList digits.reverse) then
          return .copy number n true
      | _ => pure ()
      if writes && number = 1 then return .both false text
      complain (text ++ ": ambiguous redirect")
      setStatus 1
      throw .failed
    else fail "Syntax error: Bad fd number"

/-! ### Opening -/

/-- What is said about a file that cannot be opened. -/
def openFault (path : String) (creates : Bool) (fault : HostFault) : Sh String := do
  if ← isExtended then
    return path ++ ": " ++ match fault with
      | .alreadyExists => "cannot overwrite existing file"
      | fault => fault.reason
  else
    let isMissing := fault = .notFound || fault = .notDirectory
    let (front, missing) := if creates then ("cannot create ", "Directory nonexistent")
      else ("cannot open ", "No such file")
    return front ++ path ++ ": " ++ if isMissing then missing else fault.reason

/-- Opens a file. -/
def openFileAs (mode : OpenMode) (path : String) : Sh (Except String Nat) := do
  let protects := (← get).isOn "C"
  let status ← if protects && mode = .replace then Sh.ask (.status path true)
    else pure (.error .notFound)
  let access : Access := match mode with
    | .read => .read
    | .append => .append
    | .both => { reads := true, writes := true, creates := true }
    | .force => .replace
    | .replace => .replace
  let answer ← match status with
    | .ok { kind := .regular, .. } => pure (.error .alreadyExists)
    | _ => Sh.ask (.open path access 0o666)
  match answer with
  | .ok number => return .ok number
  | .error fault => return .error (← openFault path (mode ≠ .read) fault)

/-- How long a text may be to be handed over at once. -/
def handedSize : Nat := 4096

/-- A number from which a text is read. -/
def openText (text : String) : Sh Nat := do
  let (source, sink) ← Sh.ask .pipe
  if text.length ≤ handedSize then
    let _ ← Sh.lift (Task.writeText sink text)
  else
    let _ ← Sh.fork do
      let _ ← Sh.ask (.close source)
      let _ ← Sh.lift (Task.writeText sink text)
  let _ ← Sh.ask (.close sink)
  return source

/-! ### Keeping aside -/

/-- What was open under a number: its copy, unless there was nothing. -/
structure Aside where
  number : Nat
  copy? : Option Nat

/-- The least number for what is kept aside. -/
def leastAside : Nat := 10

/-- Keeps aside what is open under a number. -/
def putAside (number : Nat) (kept : List Aside) : Sh (List Aside) := do
  if kept.any (·.number = number) then return kept
  match ← Sh.ask (.duplicate number leastAside true) with
  | .ok copy => return { number, copy? := some copy } :: kept
  | .error _ => return { number, copy? := none } :: kept

/-- Opens again what was kept aside. -/
def bringBack (kept : List Aside) : Sh Unit := do
  for aside in kept do
    match aside.copy? with
    | some copy =>
      let _ ← Sh.ask (.duplicateTo copy aside.number)
      let _ ← Sh.ask (.close copy)
    | none =>
      let _ ← Sh.ask (.close aside.number)

/-- Drops what was kept aside. -/
def dropAside (kept : List Aside) : Sh Unit := do
  for aside in kept do
    if let some copy := aside.copy? then
      let _ ← Sh.ask (.close copy)

/-- Puts something open under a number. -/
def install (number opened : Nat) : Sh Unit := do
  if opened ≠ number then
    let _ ← Sh.ask (.duplicateTo opened number)
    let _ ← Sh.ask (.close opened)

/-! ### Redirecting -/

/-- Makes one redirection; the result is what is wrong, if something is. -/
def redirectOne (keeps : Bool) (kept : List Aside) (r : Prepared) :
    Sh (List Aside × Option String) := do
  let aside (number : Nat) (kept : List Aside) : Sh (List Aside) :=
    if keeps then putAside number kept else pure kept
  match r with
  | .file number mode path =>
    match ← openFileAs mode path with
    | .error message => return (kept, some message)
    | .ok opened =>
      let kept ← if opened = number then
          pure (if keeps && !kept.any (·.number = number) then ⟨number, none⟩ :: kept else kept)
        else aside number kept
      install number opened
      return (kept, none)
  | .both appends path =>
    match ← openFileAs (if appends then .append else .replace) path with
    | .error message => return (kept, some message)
    | .ok opened =>
      let kept ← aside 2 (← aside 1 kept)
      let _ ← Sh.ask (.duplicateTo opened 1)
      let _ ← Sh.ask (.duplicateTo opened 2)
      if 2 < opened then
        let _ ← Sh.ask (.close opened)
      return (kept, none)
  | .text number text =>
    let opened ← openText text
    let kept ← if opened = number then
        pure (if keeps && !kept.any (·.number = number) then ⟨number, none⟩ :: kept else kept)
      else aside number kept
    install number opened
    return (kept, none)
  | .close number =>
    let kept ← aside number kept
    let _ ← Sh.ask (.close number)
    return (kept, none)
  | .copy number source moves =>
    match ← Sh.ask (.duplicate source leastAside true) with
    | .error _ => return (kept, some (toString source ++ ": Bad file descriptor"))
    | .ok opened =>
      let kept ← if number = source then pure kept else aside number kept
      let _ ← Sh.ask (.duplicateTo opened number)
      let _ ← Sh.ask (.close opened)
      if moves then
        let kept ← aside source kept
        let _ ← Sh.ask (.close source)
        return (kept, none)
      return (kept, none)

/-- Makes redirections one after another until one cannot be made. -/
def redirectAll (keeps : Bool) : List Prepared → (kept : List Aside) → Sh (List Aside × Option String)
  | [], kept => return (kept, none)
  | r :: rs, kept => do
    match ← redirectOne keeps kept r with
    | (kept, none) => redirectAll keeps rs kept
    | found => return found

/-- Makes redirections, and gives what has to be brought back afterwards; nothing if one of them
cannot be made, after a message. -/
def redirect (keeps : Bool) (rs : List Prepared) : Sh (Option (List Aside)) := do
  match ← redirectAll keeps rs [] with
  | (kept, none) => return some kept
  | (kept, some message) =>
    complain message
    bringBack kept
    setStatus (if ← isExtended then 1 else 2)
    return none

end Buildwright.Sandbox.Shell
