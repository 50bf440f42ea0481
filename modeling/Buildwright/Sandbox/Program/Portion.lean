import Buildwright.Sandbox.Program.Source

/-!
# Fronts and ends of texts

The program that prints the front of texts reads no more than it has to; the other one prints their
ends. If there are several, each of them gets a title.
-/

namespace Buildwright.Sandbox.Program

/-! ### Amounts -/

/-- How much is printed. -/
structure Amount where
  sign? : Option Char := none
  count : Nat
  bytes : Bool := false

/-- The amount with a given text. -/
def Amount.ofText? (bytes : Bool) (text : String) : Option Amount :=
  match text.toList with
  | '-' :: cs => (sizeOf? cs).map fun count => { sign? := some '-', count, bytes }
  | '+' :: cs => (sizeOf? cs).map fun count => { sign? := some '+', count, bytes }
  | cs => (sizeOf? cs).map fun count => { count, bytes }

/-- What is said about a text that is no amount. -/
def wrongAmount {α : Type} (bytes : Bool) (text : String) : Work α :=
  Work.abandon ("invalid number of " ++ (if bytes then "bytes" else "lines") ++ ": " ++
    quotedWord text) 1

/-- The options of both programs. -/
def portionTable : OptionTable := {
  letters := "qvz", valued := "cn"
  names := plainNames [("quiet", "q"), ("silent", "q"), ("verbose", "v"), ("zero-terminated", "z")] ++
    valuedNames [("bytes", "c"), ("lines", "n")] }

/-- The amount that options ask for. A wrong one is shown without its sign. -/
def askedAmount (d : Directions) : Work Amount := do
  match d.last? ["c", "n"] with
  | some key =>
    let text := (d.value? key).getD ""
    match Amount.ofText? (key = "c") text with
    | some amount => return amount
    | none => wrongAmount (key = "c") (if text.startsWith "-" then (text.drop 1).toString else text)
  | none => return { count := 10 }

/-- Whether sources get titles. -/
def isTitled (d : Directions) : Bool :=
  match d.last? ["q", "v"] with
  | some key => key = "v"
  | none => 1 < d.operands.length

/-- The title of a source. -/
def titleOf (path : String) (first : Bool) : String :=
  (if first then "" else "\n") ++ "==> " ++ (if path = "-" then "standard input" else path) ++
    " <==\n"

/-- Opens a source, does something with it and closes it; titles come first. The result says whether
no title is printed yet. -/
def portionEach (titled : Bool) (closedText : String) (use : Nat → Work (Except HostFault Unit)) :
    (first : Bool) → (paths : List String) → Work Unit
  | _, [] => pure ()
  | first, path :: paths => do
    let opened : Except HostFault Nat ← if path = "-" then pure (.ok 0)
      else Work.ask (.open path .read 0)
    match opened with
    | .error fault =>
      Work.complain ("cannot open " ++ quotedName path ++ " for reading: " ++ fault.reason) 1
      portionEach titled closedText use first paths
    | .ok number =>
      if titled then Work.print (titleOf path first)
      match ← use number with
      | .ok _ => pure ()
      | .error fault =>
        let name := if path = "-" then "standard input" else path
        let reason := (if fault = .badDescriptor then closedText else "error reading ") ++
          quotedName name ++ ": " ++ fault.reason
        Work.complain reason 1
      if path ≠ "-" then
        let _ ← Work.ask (.close number)
      portionEach titled closedText use false paths

/-! ### Fronts -/

/-- How much the program for fronts reads at once. -/
def frontUnit : Nat := 8192

/-- The number of bytes up to a given number of lines, and how many lines are missing then. -/
def bytesOfLines (final : Char) : (count : Nat) → (bytes : Nat) → List Char → Nat × Nat
  | 0, bytes, _ => (bytes, 0)
  | count, bytes, [] => (bytes, count)
  | count + 1, bytes, c :: cs =>
    bytesOfLines final (if c = final then count else count + 1) (bytes + 1) cs
  termination_by _ _ cs => cs.length

/-- Prints the front of what is read, and goes back to where it ends. -/
def printFront (final : Char) (amount : Amount) (number : Nat) :
    (rounds : Nat) → (left : Nat) → Work (Except HostFault Unit)
  | 0, _ => return .ok ()
  | rounds + 1, left => do
    if left = 0 then return .ok ()
    let unit := if amount.bytes then min frontUnit left else frontUnit
    match ← Work.ask (.read number unit) with
    | .error fault => return .error fault
    | .ok bytes =>
      if bytes.isEmpty then return .ok ()
      let text := octetText bytes
      let (count, missing) := if amount.bytes then (bytes.size, left - bytes.size)
        else bytesOfLines final left 0 text.toList
      Work.print (if count = bytes.size then text else String.ofList (text.toList.take count))
      if count < bytes.size then
        let _ ← Work.ask (.seek number .current (count - bytes.size : Int))
      if missing = 0 then return .ok () else printFront final amount number rounds missing

/-- Prints all but the end of what is read. -/
def printAllBut (final : Char) (amount : Amount) (number : Nat) : Work (Except HostFault Unit) := do
  match ← (Task.readAll number : Task (Except HostFault ByteArray)) with
  | .error fault => return .error fault
  | .ok bytes =>
    if amount.bytes then
      Work.print (octetText (bytes.extract 0 (bytes.size - amount.count)))
    else
      let lines := fullLines final (octetText bytes)
      Work.print (String.join (lines.take (lines.length - amount.count)))
    return .ok ()

/-- An old way to ask for an amount: digits and letters behind a hyphen. -/
def oldAmount (arg : String) : Work (Option (List String)) := do
  match arg.toList with
  | '-' :: c :: cs =>
    if !c.isDigit then return none
    let digits := (c :: cs).takeWhile Char.isDigit
    let letters := (c :: cs).drop digits.length
    match letters.find? fun c => !"bckmlqvz".toList.contains c with
    | some c => Work.mislead ("invalid trailing option -- " ++ String.singleton c) 1
    | none =>
      let unit := (letters.filter fun c => "bkm".toList.contains c).getLast?
      let bytes := unit.isSome || letters.contains 'c'
      let value := String.ofList digits ++ (unit.map (String.singleton ·.toUpper)).getD ""
      let value := if unit = some 'b' then String.ofList digits ++ "b" else value
      let others := letters.filter fun c => "qvz".toList.contains c
      return some (["-" ++ (if bytes then "c" else "n") ++ value] ++
        others.map fun c => "-" ++ String.singleton c)
  | _ => return none

/-- Prints the fronts of texts. -/
def printStarts : Work Unit := do
  let args ← Work.arguments
  let args ← match args with
    | [] => pure []
    | first :: others => do
      match ← oldAmount first with
      | some options => pure (options ++ others)
      | none => pure args
  let d := portionTable.directions args
  if let some fault := d.fault? then Work.mislead fault 1
  let amount ← askedAmount d
  let final := lineFinal d
  let paths := sourcesOf d.operands
  portionEach (isTitled d) "error reading " (fun number =>
    if amount.sign? = some '-' then printAllBut final amount number
    else printFront final amount number manyRounds amount.count) true paths
  Work.closeInput "-" paths

/-! ### Ends -/

/-- The end of a text. -/
def endOf (final : Char) (amount : Amount) (text : String) : String :=
  if amount.bytes then
    let size := text.length
    let drop := if amount.sign? = some '+' then amount.count - 1 else size - amount.count
    (text.drop drop).toString
  else
    let lines := fullLines final text
    let drop := if amount.sign? = some '+' then amount.count - 1 else lines.length - amount.count
    String.join (lines.drop drop)

/-- An old way to ask for an amount, with a hyphen or a plus sign; it is only for one source. -/
def oldEndAmount (args : List String) : Work (Option (List String)) := do
  match args with
  | [] => return none
  | first :: others =>
    match first.toList with
    | sign :: cs =>
      if !(sign = '-' || sign = '+') then return none
      let digits := cs.takeWhile Char.isDigit
      let letters := cs.drop digits.length
      let (unit, letters) := match letters with
        | 'b' :: rest => (some 'b', rest)
        | 'c' :: rest => (some 'c', rest)
        | 'l' :: rest => (none, rest)
        | rest => (none, rest)
      let isFollowing := letters = ['f']
      if digits.isEmpty && sign = '-' then return none
      if sign = '+' && digits.isEmpty && unit.isNone && !isFollowing then return none
      if !(letters = [] || isFollowing) then
        if sign = '-' && !digits.isEmpty then
          Work.mislead ("option used in invalid context -- " ++ String.singleton (cs.headD ' ')) 1
        return none
      if 1 < others.length && others.head? ≠ some "--" then
        if sign = '-' then
          Work.abandon ("option used in invalid context -- " ++ String.singleton (cs.headD ' ')) 1
        return none
      let count := if digits.isEmpty then "10" else String.ofList digits
      let value := (if sign = '+' then "+" else "") ++ count ++ if unit = some 'b' then "b" else ""
      return some ((if unit.isSome then "-c" ++ value else "-n" ++ value) :: others)
    | [] => return none

/-- Prints the ends of texts. -/
def printEnds : Work Unit := do
  let args ← Work.arguments
  let args := (← oldEndAmount args).getD args
  let table := { portionTable with
    letters := portionTable.letters ++ "fF", valued := portionTable.valued ++ "s" }
  let d := table.directions args
  match d.fault? with
  | some fault =>
    match fault.toList.reverse with
    | '\'' :: c :: '\'' :: _ =>
      if c.isDigit then
        Work.abandon ("option used in invalid context -- " ++ String.singleton c) 1
      else Work.mislead fault 1
    | _ => Work.mislead fault 1
  | none => pure ()
  let amount ← askedAmount d
  let final := lineFinal d
  let paths := sourcesOf d.operands
  portionEach (isTitled d) "cannot fstat " (fun number => do
    match ← (Task.readAll number : Task (Except HostFault ByteArray)) with
    | .error fault => return .error fault
    | .ok bytes =>
      Work.print (endOf final amount (octetText bytes))
      return .ok ()) true paths
  Work.closeInput "-" paths

/-! ### Counting -/

/-- The numbers about a text. -/
structure Counts where
  lines : Nat := 0
  words : Nat := 0
  bytes : Nat := 0
  longest : Nat := 0

/-- How far a text is counted. -/
structure Counting where
  counts : Counts := {}
  inWord : Bool := false
  position : Nat := 0

/-- Counts one character. -/
def Counting.step (s : Counting) (c : Char) : Counting :=
  let counts := { s.counts with bytes := s.counts.bytes + 1 }
  let ended := { counts with longest := max counts.longest s.position }
  if c = '\n' then ⟨{ ended with lines := ended.lines + 1 }, false, 0⟩
  else if c = '\r' || c = '\x0c' then ⟨ended, false, 0⟩
  else if c = '\t' then ⟨counts, false, s.position + (8 - s.position % 8)⟩
  else if c = ' ' then ⟨counts, false, s.position + 1⟩
  else if c = '\x0b' then ⟨counts, false, s.position⟩
  else
    let counts := if s.inWord then counts else { counts with words := counts.words + 1 }
    ⟨counts, true, if isPrintable c then s.position + 1 else s.position⟩

/-- The numbers about a text. -/
def countsOf (text : String) : Counts :=
  let s : Counting := text.foldl Counting.step {}
  { s.counts with longest := max s.counts.longest s.position }

/-- The numbers of several texts together. -/
def Counts.add (a b : Counts) : Counts :=
  ⟨a.lines + b.lines, a.words + b.words, a.bytes + b.bytes, max a.longest b.longest⟩

/-- The keys of the numbers that are asked for, in their order. -/
def askedCounts (d : Directions) : List String :=
  let keys := ["l", "w", "m", "c", "L"].filter d.has
  if keys.isEmpty then ["l", "w", "c"] else keys

/-- The width in which numbers are printed. -/
def countWidth (paths : List String) (single : Bool) : Work Nat := do
  if single then return 1
  let statuses ← paths.mapM fun path =>
    if path = "-" then Work.ask (.statusOf 0) else Work.ask (.status path true)
  match statuses.head? with
  | some (.ok _) =>
    let known := statuses.filterMap Except.toOption
    let total := known.foldl (fun n status =>
      if status.kind = .regular then n + status.size else n) 0
    let least := if known.any (·.kind ≠ .regular) then 7 else 1
    return max least (toString total).length
  | _ => return 1

/-- Prints numbers about texts. -/
def printCounts : Work Unit := do
  let d ← Work.directions {
    letters := "clLmw", names := plainNames [("bytes", "c"), ("chars", "m"), ("lines", "l"),
      ("words", "w"), ("max-line-length", "L")] ++ valuedNames [("total", "total")] } 1
  let keys := askedCounts d
  let paths := sourcesOf d.operands
  let width ← countWidth paths (paths.length = 1 && keys.length = 1)
  let line (counts : Counts) (name : String) : Work Unit := do
    let numbers := keys.map fun key =>
      match key with
      | "l" => counts.lines
      | "w" => counts.words
      | "L" => counts.longest
      | _ => counts.bytes
    Work.print (" ".intercalate (numbers.map fun n => atEndOf width (toString n)) ++ name ++ "\n")
  let rec each : Counts → List String → Work Counts
    | sums, [] => return sums
    | sums, path :: paths => do
      let name := if d.operands.isEmpty then "" else " " ++ path
      match ← Work.textOf path with
      | .ok text =>
        let counts := countsOf text
        if d.value? "total" ≠ some "only" then line counts name
        each (sums.add counts) paths
      | .error fault =>
        let shown := if d.operands.isEmpty then quotedName "standard input" else shownPath path
        Work.complain (shown ++ ": " ++ fault.reason) 1
        if fault = .isDirectory || path = "-" then line {} name
        each sums paths
  let sums ← each {} paths
  match d.value? "total" with
  | some "never" => pure ()
  | some "only" => line sums ""
  | some "always" => line sums " total"
  | _ => if 1 < paths.length then line sums " total"
  Work.closeInput "-" paths

end Buildwright.Sandbox.Program
