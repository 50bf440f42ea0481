import Buildwright.Sandbox.Program.Source

/-!
# Showing texts

The program that prints texts one after another, as they are or with marks and numbers, and the one
that writes what it is handed into files.
-/

namespace Buildwright.Sandbox.Program

/-! ### One after another -/

/-- How texts are shown. -/
structure ShowStyle where
  numbers : Bool := false
  numbersText : Bool := false
  squeezes : Bool := false
  showsEnds : Bool := false
  showsTabs : Bool := false
  showsUnprintable : Bool := false

/-- How far texts are shown. -/
structure Showing where
  /-- How many line ends came since the last character, less one while a line is not ended. -/
  newlines : Int := 0
  number : Nat := 0
  /-- What is shown, the last part first. -/
  parts : List String := []

/-- A character that cannot be printed, in a form that can. -/
def visibleForm (tabs : Bool) (c : Char) : String :=
  let n := c.toNat
  let low (n : Nat) : String :=
    if n < 32 then "^" ++ String.singleton (Char.ofNat (n + 64))
    else if n = 127 then "^?" else String.singleton (Char.ofNat n)
  if c = '\t' && !tabs then "\t"
  else if n < 128 then low n else "M-" ++ low (n - 128)

/-- The number in front of a line. -/
def lineNumber (n : Nat) : String := atEndOf 6 (toString n) ++ "\t"

/-- Shows one character; `next?` is the one behind it. -/
def Showing.step (style : ShowStyle) (s : Showing) (c : Char) (next? : Option Char) : Showing :=
  if c = '\n' then
    let newlines := min 2 (s.newlines + 1)
    if newlines = 2 && style.squeezes then { s with newlines }
    else
      let counts := 0 < newlines && style.numbers && !style.numbersText
      let number := if counts then s.number + 1 else s.number
      let front := if counts then lineNumber number else ""
      { newlines, number
        parts := (front ++ if style.showsEnds then "$\n" else "\n") :: s.parts }
  else
    let counts := 0 ≤ s.newlines && style.numbers
    let number := if counts then s.number + 1 else s.number
    let front := if counts then lineNumber number else ""
    let shown :=
      if style.showsUnprintable then visibleForm style.showsTabs c
      else if c = '\t' && style.showsTabs then "^I"
      else if c = '\r' && next? = some '\n' && style.showsEnds then "^M"
      else String.singleton c
    { newlines := -1, number, parts := (front ++ shown) :: s.parts }

/-- Shows a text. -/
def Showing.all (style : ShowStyle) : Showing → List Char → Showing
  | s, [] => s
  | s, c :: cs => (s.step style c cs.head?).all style cs

/-- What the program for texts one after another is told. -/
def showTable : OptionTable := {
  letters := "AbeEnstTuv"
  names := plainNames [("show-all", "A"), ("number-nonblank", "b"), ("show-ends", "E"),
    ("number", "n"), ("squeeze-blank", "s"), ("show-tabs", "T"), ("show-nonprinting", "v")] }

/-- Whether what is open for reading is the file that is printed to, with something left to read. -/
def isOwnOutput (number : Nat) : Work Bool := do
  match ← Work.ask (.statusOf number), ← Work.ask (.statusOf 1) with
  | .ok input, .ok output =>
    if input.kind ≠ .regular || input.id ≠ output.id then return false
    match ← Work.ask (.seek number .current 0) with
    | .ok position => return decide (position < input.size)
    | .error _ => return false
  | _, _ => return false

/-- Prints texts one after another. -/
def showTexts : Work Unit := do
  let d ← Work.directions showTable 1
  let style : ShowStyle := {
    numbers := d.hasAny ["n", "b"], numbersText := d.has "b", squeezes := d.has "s"
    showsEnds := d.hasAny ["A", "e", "E"], showsTabs := d.hasAny ["A", "t", "T"]
    showsUnprintable := d.hasAny ["A", "e", "t", "v"] }
  let isPlain := d.options.all fun (key, _) => key = "u"
  let rec each : Showing → List String → Work Unit
    | _, [] => pure ()
    | s, path :: paths => do
      match ← copyOrRead isPlain path with
      | .error message =>
        Work.complain (shownPath path ++ ": " ++ message) 1
        each s paths
      | .ok text =>
        let s := Showing.all style { s with parts := [] } text.toList
        Work.put (String.join s.parts.reverse)
        each s paths
  let paths := sourcesOf d.operands
  each {} paths
  Work.closeInput "closing standard input" paths
where
  /-- Copies what there is to read as it comes. -/
  copy (number : Nat) : (rounds : Nat) → Work (Except HostFault String)
    | 0 => return .ok ""
    | rounds + 1 => do
      match ← Work.ask (.read number readUnit) with
      | .error fault => return .error fault
      | .ok bytes =>
        if bytes.isEmpty then return .ok ""
        let before := (← get).fault?
        let written : Except HostFault Unit ←
          (Task.writeBytes 1 (bytes.size + 1) bytes : Task (Except HostFault Unit))
        match written with
        | .ok _ => copy number rounds
        | .error fault =>
          modify fun p => { p with fault? := before.or (some fault) }
          return .ok ""
  /-- The text of what is open, or nothing after it is copied as it is. -/
  copyOrTake (isPlain : Bool) (number : Nat) : Work (Except String String) := do
    if ← isOwnOutput number then return .error "input file is output file"
    let result ← if isPlain then copy number manyRounds
      else do pure ((← (Task.readAll number : Task _)).map octetText)
    return result.mapError (·.reason)
  /-- The text of a source, or nothing after it is copied as it is. -/
  copyOrRead (isPlain : Bool) (path : String) : Work (Except String String) := do
    if path = "-" then copyOrTake isPlain 0
    else match ← Work.ask (.open path .read 0) with
      | .error fault => return .error fault.reason
      | .ok number =>
        let result ← copyOrTake isPlain number
        let _ ← Work.ask (.close number)
        return result

/-! ### Copies of what is handed over -/

/-- Opens files to write into. -/
def openTargets (access : Access) : List String → Work (List (String × Nat))
  | [] => return []
  | path :: paths => do
    match ← Work.ask (.open path access 0o666) with
    | .ok number => return (path, number) :: (← openTargets access paths)
    | .error fault =>
      Work.complain (shownPath path ++ ": " ++ fault.reason) 1
      openTargets access paths

/-- Writes into several files what there is to read. -/
def copyToAll (targets : List (String × Nat)) : (rounds : Nat) → Work Unit
  | 0 => pure ()
  | rounds + 1 => do
    match ← Work.ask (.read 0 readUnit) with
    | .error fault => Work.complain ("read error: " ++ fault.reason) 1
    | .ok bytes =>
      if bytes.isEmpty then return
      let left ← targets.filterM fun (path, number) => do
        let written : Except HostFault Unit ←
          (Task.writeBytes number (bytes.size + 1) bytes : Task (Except HostFault Unit))
        match written with
        | .ok _ => return true
        | .error fault =>
          Work.complain (shownPath path ++ ": " ++ fault.reason) 1
          return false
      if !left.isEmpty then copyToAll left rounds

/-- Prints what is handed over, and writes it into files. -/
def copyInput : Work Unit := do
  let d ← Work.directions {
    letters := "aip", names := plainNames [("append", "a"), ("ignore-interrupts", "i")] ++
      [{ name := "output-error", key := "p", takes := .perhaps }] } 1
  if d.has "i" then
    let _ ← Work.ask (.onSignal 2 (some .ignored))
  let targets ← openTargets (if d.has "a" then .append else .replace) d.operands
  copyToAll (("'standard output'", 1) :: targets) manyRounds
  Work.closeInput "standard input" ["-"]

end Buildwright.Sandbox.Program
