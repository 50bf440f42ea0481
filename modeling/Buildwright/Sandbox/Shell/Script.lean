import Buildwright.Sandbox.Shell.Redirection

/-!
# Scripts

How a text is run as a script: statement by statement, since each of them may change how the next
one is read. Signals for which the script has asked are looked at between statements.
-/

namespace Buildwright.Sandbox.Shell

/-- How a statement is run. -/
structure RunFlags where
  /-- Its exit code is looked at, so that it does not end the script. -/
  tested : Bool := false
  /-- Nothing follows it in this process. -/
  last : Bool := false

/-- Runs one statement. -/
abbrev Runner := RunFlags → Statement → Sh Unit

/-! ### Texts -/

/-- The state of reading at the start of a text. -/
def State.reading (s : State) (text : List Char) (firstLine : Nat) : Reading where
  dialect := s.dialect
  segments := [{ rest := text }]
  line := firstLine
  firstLine
  source := text

/-- Says what makes no sense, and stops. -/
def reportMisfit {α : Type} (input : String) (misfit : Misfit) : Sh α := do
  if ← isExtended then
    for message in misfit.messages do
      let front := (← get).source ++ ": " ++ if input = "" then "" else input ++ ": "
      remark (front ++ "line " ++ toString misfit.line ++ ": " ++ message ++ "\n")
  else
    modify fun s => { s with line := misfit.line }
    for message in misfit.messages do complain message
  setStatus misfit.code
  throw .failed

/-- How a text is run. -/
structure TextUse where
  flags : RunFlags := {}
  /-- What messages about the text begin with. -/
  input : String := ""
  /-- Whether the rest of the text is run behind a line that stops. -/
  top : Bool := false
  firstLine : Nat := 1

/-- Runs what is left of a text. -/
def runReading (run : Runner) (use : TextUse) : (rounds : Nat) → Reading → (ran : Bool) → Sh Unit
  | 0, _, _ => pure ()
  | rounds + 1, reading, ran => do
    let s ← get
    let reading := { reading with
      aliases := s.aliases, groups := s.isOn "extglob", nextText := s.nextText }
    match nextScript reading with
    | .error misfit => reportMisfit use.input misfit
    | .ok (none, reading) =>
      for (line, text) in reading.warnings do
        remark (s.source ++ ": line " ++ toString line ++ ": " ++ text ++ "\n")
      if !ran then setStatus 0
    | .ok (some script, reading) =>
      modify fun s => { s with
        nextText := reading.nextText
        texts := script.texts.foldl (fun texts (id, word) => texts.insert id word) s.texts }
      if s.isExtended then
        for (line, text) in reading.warnings do
          remark (s.source ++ ": line " ++ toString line ++ ": " ++ text ++ "\n")
      let reading := { reading with warnings := [] }
      let isLast := reading.again && reading.segments.all (·.rest.isEmpty)
      let isEmpty := match script.statement with
        | .sequence [] => true
        | _ => false
      if s.isExtended then setLine script.line
      let step := run { use.flags with last := use.flags.last && isLast } script.statement
      if use.top then
        match ← step.outcome with
        | .ok _ => pure ()
        | .error .line => if 0 < (← get).depth then throw .exit
        | .error stop => throw stop
      else step
      runReading run use rounds reading (ran || !isEmpty)

/-- Runs a text. -/
def runText (run : Runner) (use : TextUse) (text : String) : Sh Unit := do
  let shift := (← get).lineShift
  modify fun s => { s with lineShift := 0 }
  let step := runReading run use manyRounds ((← get).reading text.toList use.firstLine) false
  step.after (modify fun s => { s with lineShift := shift })

/-! ### Signals -/

/-- Does what is asked for on a signal. -/
def runTrap (run : Runner) (signal : Nat) : Sh Unit := do
  match (← get).traps.lookup signal with
  | none | some "" => pure ()
  | some action =>
    let s ← get
    set { s with trapped? := some (s.trapped?.getD s.status) }
    let before := s.status
    let restore : Sh Unit := modify fun s' => { s' with
      trapped? := s.trapped?, line := if s.isExtended then s.line else s'.line }
    (runText run { firstLine := if signal < 1000 then 1 else s.line } action).after restore
    setStatus before

/-- Does what is asked for on the signals that came. -/
def runDueTraps (run : Runner) (came : List Nat) : Sh Unit := do
  let due := (← get).due
  if !due.isEmpty || !came.isEmpty then
    modify fun s => { s with due := [] }
    for signal in (due ++ came).eraseDups.mergeSort Nat.ble do runTrap run signal

/-- Whether something is asked for on a signal. -/
def State.hasTraps (s : State) : Bool := s.traps.any fun (n, action) => n ≠ 0 && action ≠ ""

/-- Looks for signals, if any are asked for. -/
def checkSignals (run : Runner) : Sh Unit := do
  if (← get).hasTraps then runDueTraps run (← Sh.ask .pause)

/-- Lets other processes go on, and looks for signals. -/
def pass (run : Runner) : Sh Unit := do runDueTraps run (← Sh.ask .pause)

/-! ### Ends -/

/-- Does what a script asked for at its end. -/
def runExitTrap (run : Runner) : Sh Unit := do
  match (← get).traps.lookup 0 with
  | none | some "" => pure ()
  | some action =>
    let s ← get
    set { s with traps := s.traps.filter (·.1 ≠ 0), trapped? := some s.status, loops := 0, label := "" }
    let ended ← (runText run { firstLine := 1 } action).outcome
    match ended with
    | .error .exit => pure ()
    | _ => setStatus s.status

/-- Runs a step to its end, and what was asked for at the end. -/
def toEnd (run : Runner) (step : Sh Unit) : Sh Unit := do
  let _ ← step.outcome
  runExitTrap run

/-! ### Children -/

/-- Forgets in a child what is the concern of the script alone. -/
def settleChild (background first : Bool) : Sh Unit := do
  let s ← get
  for (signal, action) in s.traps do
    if signal ≠ 0 && action ≠ "" then
      let _ ← Sh.ask (.onSignal signal (some .standard))
  set { s with
    traps := s.traps.filter (·.2 = ""), loops := if s.isExtended then 0 else s.loops
    jobs := [], depth := s.depth + 1, due := [], printed := "" }
  if background then
    let _ ← Sh.ask (.onSignal 2 (some .ignored))
    let _ ← Sh.ask (.onSignal 3 (some .ignored))
    if first then
      let _ ← Sh.ask (.close 0)
      let _ ← Sh.ask (.open "/dev/null" .read 0)

/-- Starts a process of the script for a step. -/
def forkStep (run : Runner) (background first : Bool) (step : Sh Unit) : Sh Nat :=
  Sh.fork do
    settleChild background first
    toEnd run step

/-- What is said about a process that a signal ended. -/
def signalText : Nat → String
  | 1 => "Hangup"
  | 2 => "Interrupt"
  | 3 => "Quit"
  | 4 => "Illegal instruction"
  | 5 => "Trace/breakpoint trap"
  | 6 => "Aborted"
  | 7 => "Bus error"
  | 8 => "Floating point exception"
  | 9 => "Killed"
  | 10 => "User defined signal 1"
  | 11 => "Segmentation fault"
  | 12 => "User defined signal 2"
  | 13 => "Broken pipe"
  | 14 => "Alarm clock"
  | 15 => "Terminated"
  | 16 => "Stack fault"
  | 23 => "Urgent I/O condition"
  | 24 => "CPU time limit exceeded"
  | 25 => "File size limit exceeded"
  | 26 => "Virtual timer expired"
  | 27 => "Profiling timer expired"
  | 29 => "I/O possible"
  | 30 => "Power failure"
  | 31 => "Bad system call"
  | n => "Unknown signal " ++ toString n

/-- Says that a signal ended a process that was waited for. -/
def tellEnd (ending : ProcessEnd) : Sh Unit := do
  match ending with
  | .exited _ => pure ()
  | .signalled number =>
    if number ≠ 2 && number ≠ 13 then
      if !(← isExtended) then remark (signalText number ++ "\n")

/-- Waits until a process of this one ends, whatever signals come. -/
def awaitProcess : (rounds : Nat) → (number : Nat) → Sh ProcessEnd
  | 0, _ => return .exited 127
  | rounds + 1, number => do
    match ← Sh.ask (.await (some number) true) with
    | .ok (some (_, ending)) => return ending
    | .error .interrupted => awaitProcess rounds number
    | _ => return .exited 127

/-- Waits until a process of this one ends. -/
def await (number : Nat) : Sh ProcessEnd := awaitProcess manyRounds number

/-- Starts a process for a step and waits for it. -/
def runApart (run : Runner) (step : Sh Unit) : Sh Unit := do
  let ending ← await (← forkStep run false false step)
  tellEnd ending
  setStatus ending.status

/-- What a step prints, which runs in a process of its own. -/
def captureStep (run : Runner) (step : Sh Unit) : Sh String := do
  let (source, sink) ← Sh.ask .pipe
  let loops := (← get).loops
  let child ← forkStep run false false do
    let _ ← Sh.ask (.close source)
    install 1 sink
    modify fun s => { s with
      captures := s.captures + 1, loops
      options := if s.isExtended && !s.isOn "inherit_errexit" then s.options.filter (· ≠ "e")
        else s.options }
    step
  let _ ← Sh.ask (.close sink)
  let bytes ← Sh.lift (Task.readAll source)
  let _ ← Sh.ask (.close source)
  let ending ← await child
  tellEnd ending
  modify fun s => { s with
    captured := ending.status
    status := if s.isExtended then ending.status else s.status }
  return octetText ((bytes.toOption).getD ByteArray.empty)

/-- The path of a channel to or from a step that runs beside the script. -/
def openChannel (run : Runner) (reads : Bool) (step : Sh Unit) : Sh String := do
  let (source, sink) ← Sh.ask .pipe
  let (own, other) := if reads then (source, sink) else (sink, source)
  let _ ← forkStep run true false do
    let _ ← Sh.ask (.close own)
    install (if reads then 1 else 0) other
    step
  let _ ← Sh.ask (.close other)
  let number ← match ← Sh.ask (.duplicate own 63 false) with
    | .ok number =>
      let _ ← Sh.ask (.close own)
      pure number
    | .error _ => pure own
  return "/dev/fd/" ++ toString number

/-- What the statements within words do. -/
def insideOf (run : Runner) : Inside where
  capture statement :=
    match statement with
    | .sequence [] => return ""
    | statement => captureStep run do
      modify fun s =>
        if s.isExtended then { s with lineShift := (s.line : Int) - statement.firstLine 1000 } else s
      run { last := true } statement
  channel reads statement := openChannel run reads (run { last := true } statement)

end Buildwright.Sandbox.Shell
