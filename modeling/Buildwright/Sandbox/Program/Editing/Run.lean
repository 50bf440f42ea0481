import Buildwright.Sandbox.Program.Editing.Script
import Buildwright.Sandbox.Program.Source

/-!
# Editing lines

The program that reads lines one after another, does to each what a script says, and prints it. The
files that it reads may be edited in place.
-/

namespace Buildwright.Sandbox.Program

/-! ### The state -/

/-- How lines are edited. -/
structure EditStyle where
  script : EditScript
  quiet : Bool
  /-- Whether each source has lines of its own numbers and a last line. -/
  separate : Bool
  /-- What is added to the name of a file when it is edited in place, if it is. -/
  inPlace? : Option String
  final : Char
  width : Nat
  /-- How many parts of the script were arguments. -/
  arguments : Nat

/-- What is printed behind a line. -/
inductive LaterText where
  | text (text : String)
  | file (path : String)

/-- A source that is being read. -/
structure EditSource where
  path : String
  lines : LineSource
  /-- What is written in its place. -/
  written : List String := []

/-- A file that is written. -/
structure EditOutput where
  path : String
  number : Nat
  /-- Whether the last line that was written to it has no end. -/
  isOpen : Bool := false

/-- Whether a range of lines is open, and the number of its last line if that is known. -/
inductive RangeState where
  | closed
  | open_ (last? : Option Nat)

/-- How far lines are edited. -/
structure EditState where
  line : List Char := []
  isEnded : Bool := true
  held : List Char := []
  number : Nat := 0
  replaced : Bool := false
  ranges : Array RangeState
  /-- The expression that was looked for last. -/
  last? : Option Expression := none
  later : List LaterText := []
  paths : List String
  source? : Option EditSource := none
  /-- A line that was read to know whether there is one. -/
  ahead? : Option Line := none
  outputs : List EditOutput := []
  /-- Whether the last line that was printed has no end. -/
  isOpen : Bool := false
  readers : List (String × LineSource) := []
  code : Nat := 0

/-- A step of editing lines. -/
abbrev Edits := ReaderT EditStyle (StateT EditState Work)

namespace Edits

/-- Some work. -/
def work {α : Type} (w : Work α) : Edits α := (w : StateT EditState Work α)

/-- Writes a message. -/
def say (message : String) : Edits Unit := do
  work (do Work.remark ((← read).name ++ ": " ++ message ++ "\n"))

/-- Notes a code for the end, if it is greater than the one before. -/
def note (code : Nat) : Edits Unit := modify fun s => { s with code := max s.code code }

/-- Ends the program with a message. -/
def panic {α : Type} (message : String) (code : Nat) : Edits α := do
  say message
  work (Work.exit code)

/-! ### Printing -/

/-- Prints a text, which goes into the file that is edited in place. -/
def printRaw (text : String) : Edits Unit := do
  let s ← get
  let final := (← read).final
  let text := if s.isOpen then String.singleton final ++ text else text
  modify fun s => { s with isOpen := false }
  match (← read).inPlace?, s.source? with
  | some _, some source =>
    modify fun s => { s with source? := some { source with written := text :: source.written } }
  | _, _ => work (Work.print text)

/-- Prints a line; its end is left out if it has none. -/
def printLine (line : List Char) (isEnded : Bool) : Edits Unit := do
  let final := (← read).final
  let text := String.ofList line
  printRaw (if isEnded then text.push final else text)
  modify fun s => { s with isOpen := !isEnded }

/-- Writes a line to a file, or where the program prints to. -/
def writeLine (path : String) (line : List Char) (isEnded : Bool) : Edits Unit := do
  let final := (← read).final
  let text := String.ofList line
  let text := if isEnded then text.push final else text
  if path = "/dev/stdout" && (← read).inPlace?.isNone then printLine line isEnded
  else if path = "/dev/stdout" then work (Work.print text)
  else if path = "/dev/stderr" then work (Work.remark text)
  else
    let s ← get
    match s.outputs.find? (·.path = path) with
    | none => pure ()
    | some output =>
      let text := if output.isOpen then String.singleton final ++ text else text
      let _ ← work (Task.writeText output.number text : Task _)
      modify fun s => { s with outputs := s.outputs.map fun output =>
        if output.path = path then { output with isOpen := !isEnded } else output }

/-- Prints what is to be printed behind a line. -/
def printLater : Edits Unit := do
  let later := (← get).later.reverse
  modify fun s => { s with later := [] }
  for item in later do
    match item with
    | .text text => printRaw text
    | .file path =>
      let path := if path = "/dev/stdin" then "-" else path
      if let .ok text ← work (Work.textOf path) then
        if text ≠ "" then printRaw text

/-! ### Sources -/

/-- Puts what was written in the place of a file. -/
def replaceFile (source : EditSource) (suffix : String) : Edits Unit := do
  let path := source.path
  let name := String.ofList (lastName path.toList [])
  let directory := if path.contains '/' then String.ofList (frontPath path.toList) ++ "/" else ""
  let temporary := directory ++ "sedO7qTwz"
  match ← work (Work.ask (.status path true)) with
  | .error _ => pure ()
  | .ok status =>
    let access : Access := { writes := true, creates := true, fresh := true }
    match ← work (Work.ask (.open temporary access 0o600)) with
    | .error fault =>
      panic ("couldn't open temporary file " ++ temporary ++ ": " ++ fault.reason) 4
    | .ok number =>
      let _ ← work (Task.writeText number (String.join source.written.reverse) : Task _)
      let _ ← work (Work.ask (.close number))
      let _ ← work (Work.ask (.setMode temporary status.mode))
      if suffix ≠ "" then
        let backup := if suffix.contains '*' then name.intercalate (suffix.splitOn "*")
          else name ++ suffix
        let target := if backup.contains '/' then backup else directory ++ backup
        let _ ← work (Work.ask (.rename path target))
      let _ ← work (Work.ask (.rename temporary path))

/-- Closes the source that is read. -/
def closeSource : Edits Unit := do
  let s ← get
  match s.source? with
  | none => pure ()
  | some source =>
    if source.path ≠ "-" then
      let _ ← work (Work.ask (.close source.lines.number))
    if let some suffix := (← read).inPlace? then
      if source.path ≠ "-" then replaceFile source suffix
    set { s with source? := none }

/-- What commands know about ranges at the start. -/
def startRanges (script : EditScript) : Array RangeState :=
  script.commands.map fun c =>
    match c.chosen.first? with
    | some (.line 0) => .open_ none
    | _ => .closed

/-- Opens a source. -/
def openSource (path : String) : Edits Unit := do
  let style ← read
  let opened : Except HostFault Nat ← if path = "-" && style.inPlace?.isNone then pure (.ok 0)
    else work (Work.ask (.open path .read 0))
  match opened with
  | .error fault =>
    say ("can't read " ++ path ++ ": " ++ fault.reason)
    note 2
  | .ok number =>
    let status ← work (Work.ask (.statusOf number))
    if style.inPlace?.isSome && (status.toOption.map (·.kind)) ≠ some .regular then
      say ("couldn't edit " ++ path ++ ": not a regular file")
      note 4
      let _ ← work (Work.ask (.close number))
    else
      modify fun s => { s with
        source? := some { path, lines := { number, final := style.final } }
        number := if style.separate then 0 else s.number
        ranges := if style.separate then startRanges style.script else s.ranges }

/-- The next line, from the next source if there is none in this one. -/
def fetch : (rounds : Nat) → Edits (Option Line)
  | 0 => return none
  | rounds + 1 => do
    let s ← get
    match s.ahead?, s.source? with
    | some line, _ =>
      set { s with ahead? := none }
      return some line
    | none, some source =>
      let (line?, lines) ← work source.lines.take
      set { s with source? := some { source with lines } }
      if let some fault := lines.fault? then
        let shown := if source.path = "-" then "stdin" else source.path
        panic ("read error on " ++ shown ++ ": " ++ fault.reason) 4
      match line? with
      | some line => return some line
      | none =>
        closeSource
        fetch rounds
    | none, none =>
      match s.paths with
      | [] => return none
      | path :: paths =>
        set { s with paths }
        openSource path
        fetch rounds

/-- Whether there is no line behind the present one. -/
def isLast : Edits Bool := do
  let s ← get
  if s.ahead?.isSome then return false
  if (← read).separate then
    match s.source? with
    | none => return true
    | some source =>
      let (line?, lines) ← work source.lines.take
      set { s with source? := some { source with lines }, ahead? := line? }
      return line?.isNone
  else
    let line? ← fetch manyRounds
    modify fun s => { s with ahead? := line? }
    return line?.isNone

/-- Whether there is no line at all behind the present one. -/
def isOver : Edits Bool := do
  if !(← isLast) then return false
  return !(← read).separate || (← get).paths.isEmpty

/-- Puts the next line in the place of the present one. -/
def advance : Edits Bool := do
  match ← fetch manyRounds with
  | none => return false
  | some line =>
    modify fun s => { s with
      line := line.text.toList, isEnded := line.isEnded, number := s.number + 1 }
    return true

/-! ### Choosing lines -/

/-- The expression that is looked for. -/
def expression (sought : Sought) : Edits Regular := do
  match sought with
  | some e =>
    modify fun s => { s with last? := some e }
    return e.regular
  | none =>
    match (← get).last? with
    | some e => return e.regular
    | none =>
      let number := toString (← read).arguments
      panic ("-e expression #" ++ number ++ ", char 0: no previous regular expression") 1

/-- Whether the present line fits an expression. -/
def fitsLine (sought : Sought) : Edits Bool := do
  let r ← expression sought
  return (r.find? none (← get).line).isSome

/-- Whether the present line has an address. -/
def isAt : LineAddress → Edits Bool
  | .line n => return (← get).number = n
  | .every first step => do
    let n := (← get).number
    return first ≤ n && (n - first) % step = 0
  | .last => isLast
  | .fitting sought => fitsLine sought

/-- Says what is known about the range of a command. -/
def setRange (place : Nat) (range : RangeState) : Edits Unit :=
  modify fun s => { s with ranges := s.ranges.setIfInBounds place range }

/-- Whether the present line belongs to a range that begins with it or is open. -/
def isInRange (place : Nat) (first : LineAddress) (finish : RangeEnd) : Edits Bool := do
  let number := (← get).number
  match (← get).ranges.getD place .closed with
  | .closed =>
    if !(← isAt first) then return false
    let last? : Option (Option Nat) := match finish with
      | .line n => if n ≤ number then none else some (some n)
      | .behind count => if count = 0 then none else some (some (number + count))
      | .multiple n => if n = 0 then none else some (some ((number / n + 1) * n))
      | .last | .fitting _ => some none
    if let some last? := last? then setRange place (.open_ last?)
    return true
  | .open_ (some n) =>
    if n ≤ number then setRange place .closed
    return number ≤ n
  | .open_ none =>
    let isFinal ← match finish with
      | .fitting sought => fitsLine sought
      | _ => isLast
    if isFinal then setRange place .closed
    return true

/-- Whether a command is for the present line. -/
def isChosen (place : Nat) (chosen : ChosenLines) : Edits Bool := do
  let holds ← match chosen.first?, chosen.last? with
    | none, _ => pure true
    | some first, none => isAt first
    | some first, some finish => isInRange place first finish
  return holds != chosen.negated

/-! ### Replacing -/

/-- How letters are written. -/
structure CaseState where
  all? : Option LetterCase := none
  next? : Option LetterCase := none

/-- A character as letters are written, and how those behind it are. -/
def CaseState.write (s : CaseState) (c : Char) : Char × CaseState :=
  let written := match s.next?.or s.all? with
    | some .upper => c.toUpper
    | some .lower => c.toLower
    | none => c
  (written, { s with next? := none })

/-- A text as letters are written. -/
def CaseState.writeAll : CaseState → List Char → List Char × CaseState
  | s, [] => ([], s)
  | s, c :: cs =>
    let (c, s) := s.write c
    let (cs, s) := s.writeAll cs
    (c :: cs, s)

/-- A replacement of what was found. -/
def replacementText (found : Found) : CaseState → List ReplacementPart → List Char
  | _, [] => []
  | s, part :: parts =>
    match part with
    | .all letterCase? => replacementText found { all? := letterCase? } parts
    | .next letterCase => replacementText found { s with next? := some letterCase } parts
    | .char c =>
      let (c, s) := s.write c
      c :: replacementText found s parts
    | .group index =>
      let (text, s) := s.writeAll ((found.group? index).getD [])
      text ++ replacementText found s parts

/-- A line in which what fits an expression is replaced, if anything is. -/
def replacedIn? (r : Regular) (s : Substitution) (line : List Char) : Option (List Char) :=
  let found := if s.all || 1 < s.first then r.findIn line else (r.find? none line).toList
  let isMeant := fun (n : Nat) => if s.all then s.first ≤ n else n = s.first
  if found.length < s.first then none
  else
    let changed := (found.zipIdx 1).flatMap fun (part, n) =>
      part.front ++ if isMeant n then replacementText part {} s.parts else part.text
    some (changed ++ (found.getLast?.map (·.rest)).getD [])

/-- Replaces what fits an expression. -/
def substitute (s : Substitution) : Edits Unit := do
  let r ← expression s.sought
  match replacedIn? r s (← get).line with
  | none => pure ()
  | some line =>
    modify fun state => { state with line, replaced := true }
    let isEnded := (← get).isEnded
    if s.prints then printLine line isEnded
    if let some path := s.output? then writeLine path line isEnded

/-! ### Showing plainly -/

/-- A character in a form that can be printed. -/
def plainForm (c : Char) : String :=
  match escapeLetter? c with
  | some letter => "\\" ++ String.singleton letter
  | none =>
    if c = '\\' then "\\\\"
    else if isPrintable c then String.singleton c else String.ofList ('\\' :: octalDigits c)

/-- A text in a form that can be printed, in lines of at most so many characters. -/
def plainLines (width : Nat) (text : List Char) : String :=
  let (shown, _) := text.foldl (fun ((shown, column) : List String × Nat) c =>
    let form := plainForm c
    if 0 < width && width - 1 < column + form.length then (form :: "\\\n" :: shown, form.length)
    else (form :: shown, column + form.length)) ([], 0)
  String.join shown.reverse ++ "$\n"

/-! ### Commands -/

/-- What comes after a command. -/
inductive Step where
  | go (place : Nat)
  /-- The line is done, and printed if that is asked for. -/
  | done (prints : Bool)
  /-- The script begins again without another line. -/
  | again
  | quit (prints : Bool) (code : Nat)

/-- The line up to its first inner end, and what is behind it. -/
def firstLine : Edits (List Char × Option (List Char)) := do
  let final := (← read).final
  let line := (← get).line
  let front := line.takeWhile (· ≠ final)
  return (front, if front.length = line.length then none else some (line.drop (front.length + 1)))

/-- A line of a file of which lines are printed one after another. -/
def lineOf (path : String) : Edits (Option Line) := do
  let s ← get
  let reader? ← match s.readers.lookup path with
    | some reader => pure (some reader)
    | none =>
      let opened : Except HostFault Nat ← if path = "/dev/stdin" then pure (.ok 0)
        else work (Work.ask (.open path .read 0))
      match opened with
      | .ok number => pure (some { number, final := (← read).final })
      | .error _ => pure none
  match reader? with
  | none => return none
  | some reader =>
    let (line?, reader) ← work reader.take
    modify fun s => { s with readers := (path, reader) :: s.readers.filter (·.1 ≠ path) }
    return line?

/-- Goes to a place, which takes a moment of time if it was passed before. -/
def goTo (place target : Nat) : Edits Step := do
  if target < place then
    let _ ← work (Work.ask .pause)
  return .go target

/-- Does what a command says; `place` is that of the next one. -/
def act (place : Nat) (action : EditAction) : Edits Step := do
  let style ← read
  let s ← get
  let go : Edits Step := return .go place
  match action with
  | .block _ | .blockEnd | .nothing => go
  | .jump target => goTo place target
  | .jumpIfReplaced target =>
    set { s with replaced := false }
    goTo place (if s.replaced then target else place)
  | .jumpUnlessReplaced target =>
    set { s with replaced := false }
    goTo place (if s.replaced then place else target)
  | .replace substitution =>
    substitute substitution
    go
  | .exchange pairs =>
    set { s with line := s.line.map fun c => (pairs.lookup c).getD c }
    go
  | .print =>
    printLine s.line s.isEnded
    go
  | .printFirst =>
    let (front, rest?) ← firstLine
    printLine front (s.isEnded || rest?.isSome)
    go
  | .showPlainly width? =>
    printRaw (plainLines (width?.getD style.width) s.line)
    go
  | .showNumber =>
    printRaw (toString s.number ++ "\n")
    go
  | .showName =>
    printRaw ((s.source?.map (·.path)).getD "-" ++ "\n")
    go
  | .delete => return .done false
  | .deleteFirst =>
    match ← firstLine with
    | (_, none) => return .done false
    | (_, some line) =>
      set { s with line }
      return .again
  | .next =>
    if ← isOver then return .quit true 0
    if !style.quiet then printLine (← get).line (← get).isEnded
    printLater
    if ← advance then go else return .quit false 0
  | .appendNext =>
    if ← isOver then return .quit true 0
    let line := (← get).line
    printLater
    if ← advance then
      modify fun s => { s with line := line ++ style.final :: s.line }
      go
    else return .quit true 0
  | .quit code => return .quit true code
  | .quitAtOnce code => return .quit false code
  | .hold =>
    set { s with held := s.line }
    go
  | .holdMore =>
    set { s with held := s.held ++ style.final :: s.line }
    go
  | .recall =>
    set { s with line := s.held }
    go
  | .recallMore =>
    set { s with line := s.line ++ style.final :: s.held }
    go
  | .exchangeHeld =>
    set { s with line := s.held, held := s.line }
    go
  | .empty =>
    set { s with line := [] }
    go
  | .insert text =>
    printRaw text
    go
  | .append text =>
    set { s with later := .text text :: s.later }
    go
  | .change text =>
    match s.ranges.getD (place - 1) .closed with
    | .open_ _ => pure ()
    | .closed => printRaw text
    return .done false
  | .appendFile path =>
    set { s with later := .file path :: s.later }
    go
  | .appendLine path =>
    if let some line ← lineOf path then
      modify fun s => { s with later := .text (line.text.push style.final) :: s.later }
    go
  | .write path =>
    writeLine path s.line s.isEnded
    go
  | .writeFirst path =>
    let (front, rest?) ← firstLine
    writeLine path front (s.isEnded || rest?.isSome)
    go

/-- Does the commands from a place on. -/
def run : (rounds : Nat) → (place : Nat) → Edits Step
  | 0, _ => return .quit true 0
  | rounds + 1, place => do
    match (← read).script.commands[place]? with
    | none => return .done true
    | some c =>
      if ← isChosen place c.chosen then
        match ← act (place + 1) c.action with
        | .go place => run rounds place
        | step => return step
      else match c.action with
        | .block finish => run rounds finish
        | _ => run rounds (place + 1)

/-- Edits the lines that are left; the result is the code for the end. -/
def cycles : (rounds : Nat) → (reads : Bool) → Edits Nat
  | 0, _ => return 0
  | rounds + 1, reads => do
    if reads then
      modify fun s => { s with replaced := false }
      if !(← advance) then return 0
    let step ← run manyRounds 0
    let prints := match step with
      | .done prints | .quit prints _ => prints
      | _ => false
    let s ← get
    if prints && !(← read).quiet then printLine s.line s.isEnded
    printLater
    match step with
    | .quit _ code => return code
    | .again => cycles rounds false
    | _ => cycles rounds true

/-- The files to which commands write. -/
def outputPaths (script : EditScript) : List String :=
  let paths := script.commands.toList.filterMap fun c =>
    match c.action with
    | .write path | .writeFirst path | .replace { output? := some path, .. } => some path
    | _ => none
  (paths.filter fun path => path ≠ "/dev/stdout" && path ≠ "/dev/stderr").eraseDups

/-- Opens the files to which commands write. -/
def openOutputs : List String → Edits Unit
  | [] => pure ()
  | path :: paths => do
    match ← work (Work.ask (.open path .replace 0o666)) with
    | .ok number =>
      modify fun s => { s with outputs := { path, number } :: s.outputs }
      openOutputs paths
    | .error fault => panic ("couldn't open file " ++ path ++ ": " ++ fault.reason) 4

/-- Edits all lines. -/
def all : Edits Unit := do
  openOutputs (outputPaths (← read).script)
  let code ← cycles manyRounds true
  if let some source := (← get).source? then
    if source.path = "-" && (← read).inPlace?.isNone then
      let line? := (← get).ahead?
      let ready := line?.toList.map (·.text) ++ source.lines.ready
      work ({ source.lines with ready } : LineSource).giveBack
    closeSource
  let s ← get
  work (Work.setCode (if code = 0 then s.code else code))

end Edits

/-! ### The program -/

/-- What the program that edits lines is told. -/
def editTable : OptionTable := {
  letters := "nbErsuz", valued := "efl", perhaps := "i"
  names := plainNames [("quiet", "n"), ("silent", "n"), ("binary", "b"), ("debug", "debug"),
      ("follow-symlinks", "follow"), ("posix", "posix"), ("regexp-extended", "E"),
      ("separate", "s"), ("sandbox", "sandbox"), ("unbuffered", "u"), ("null-data", "z"),
      ("zero-terminated", "z")] ++
    valuedNames [("expression", "e"), ("file", "f"), ("line-length", "l")] ++
    [{ name := "in-place", key := "i", takes := .perhaps }] }

/-- Says how the program is used, and ends it. -/
def showEditUsage {α : Type} : Work α := do
  Work.remark
    "Usage: sed [OPTION]... \x7bscript-only-if-no-other-script\x7d [input-file]...\n\n"
  Work.exit 1

/-- The parts of the script that options name, in their order. -/
def scriptParts (number : Nat) :
    List (String × Option String) → Work (List (ScriptSource × String))
  | [] => return []
  | ("e", text?) :: options => do
    let parts ← scriptParts (number + 1) options
    return (.argument (number + 1), text?.getD "") :: parts
  | ("f", path?) :: options => do
    let path := path?.getD ""
    match ← Work.textOf path with
    | .ok text =>
      let parts ← scriptParts number options
      return (.file path, text) :: parts
    | .error fault =>
      Work.remark ((← read).name ++ ": couldn't open file " ++ path ++ ": " ++ fault.reason ++ "\n")
      Work.exit 4
  | _ :: options => scriptParts number options

/-- Edits lines. -/
def editLines : Work Unit := do
  let d := editTable.directions (← Work.arguments)
  let name := (← read).name
  if let some fault := d.fault? then
    Work.remark (name ++ ": " ++ fault ++ "\n")
    showEditUsage
  let given ← scriptParts 0 d.options
  let (parts, paths) ← match given, d.operands with
    | [], [] => showEditUsage
    | [], text :: paths => pure ([(.argument 1, text)], paths)
    | given, paths => pure (given, paths)
  let style : ScriptStyle := { extended := d.hasAny ["E", "r"], bounded := d.has "sandbox" }
  match EditScript.ofParts style parts with
  | .error error =>
    Work.remark (name ++ ": " ++ error.message ++ "\n")
    Work.exit error.code
  | .ok script =>
    let inPlace? := if d.has "i" then some ((d.value? "i").getD "") else none
    if inPlace?.isSome && paths.isEmpty then
      Work.remark (name ++ ": no input files\n")
      Work.exit 4
    let width := ((d.value? "l").bind naturalOf?).getD 70
    let edit : EditStyle := {
      script, quiet := d.has "n" || script.quiet, separate := d.hasAny ["s", "i"], inPlace?
      final := lineFinal d, width
      arguments := (parts.filter fun (source, _) => match source with
        | .argument _ => true
        | .file _ => false).length }
    let start : EditState := { ranges := Edits.startRanges script, paths := sourcesOf paths }
    let _ ← (ReaderT.run Edits.all edit).run start

end Buildwright.Sandbox.Program
