import Buildwright.Sandbox.Shell.Builtin.Setting
import Buildwright.Sandbox.Signal

/-!
# Signals and jobs

The built-in statements about other processes: what is done on signals, sending them, and waiting
for statements in the background.
-/

namespace Buildwright.Sandbox.Shell

/-! ### Traps -/

/-- Says what is done on one signal. -/
def setTrap (signal : Nat) (action? : Option String) : Sh Unit := do
  modify fun s =>
    let others := s.traps.filter (·.1 ≠ signal)
    { s with traps := (action?.map fun action => (signal, action)).toList ++ others }
  if signal ≠ 0 then
    let action : SignalAction := match action? with
      | none => .standard
      | some "" => .ignored
      | some _ => .noted
    let _ ← Sh.ask (.onSignal signal (some action))

/-- Says what is done on some signals. -/
def setTraps (action? : Option String) : (names : List String) → Sh Nat
  | [] => return 0
  | name :: names => do
    let extended ← isExtended
    let special? := if extended then
        (["ERR", "DEBUG", "RETURN"].findIdx? (· = name)).map (1000 + ·) else none
    match special?.or (signalOf? extended name) with
    | none =>
      if extended then
        complain (name ++ ": invalid signal specification")
        let _ ← setTraps action? names
        return 1
      remark ("trap: " ++ name ++ ": bad trap\n")
      return 1
    | some signal =>
      if 1000 ≤ signal then modify fun s =>
        let others := s.traps.filter (·.1 ≠ signal)
        { s with traps := (action?.map fun action => (signal, action)).toList ++ others }
      else setTrap signal action?
      setTraps action? names

/-- Prints what is done on signals. -/
def printTraps : Sh Nat := do
  let s ← get
  let names := (signalNames.zipIdx.map fun (name, n) => (name, n)) ++
    (["ERR", "DEBUG", "RETURN"].zipIdx.map fun (name, n) => (name, n + 1000))
  for (name, signal) in names do
    if let some action := s.traps.lookup signal then
      if s.isExtended then
        let shown := if signal = 0 || 1000 ≤ signal then name else "SIG" ++ name
        print ("trap -- " ++ singlyQuoted action ++ " " ++ shown ++ "\n")
      else print ("trap -- " ++ quotedText action ++ " " ++ name ++ "\n")
  return 0

/-- Prints the names of all signals. -/
def printSignalNames : Sh Nat := do
  print "0\n"
  for name in signalNames.drop 1 do print (name ++ "\n")
  return 0

/-- Says what is done on signals; nothing in particular where only one argument is given. -/
def trap (args : List String) : Sh Nat := do
  let extended ← isExtended
  let (found, names) ← optionsOf (if extended then "lp" else "") ""
    "trap [-lp] [[arg] signal_spec ...]" args
  if hasLetter found 'l' then printSignalNames
  else if hasLetter found 'p' then printTraps
  else match names with
    | [] => printTraps
    | [name] =>
      if extended && (signalOf? true name).isNone && name ≠ "ERR" then
        if name = "-" then return 0
        remark ("trap: usage: trap [-lp] [[arg] signal_spec ...]\n")
        return 2
      setTraps none [name]
    | action :: names =>
      if extended && (naturalOf? action).isSome && (signalOf? true action).isSome then
        setTraps none (action :: names)
      else setTraps (if action = "-" then none else some action) names

/-! ### Sending signals -/

/-- How `kill` is used in the plain shell. -/
def killUsage : String :=
  "Usage: kill [-s sigspec | -signum | -sigspec] [pid | job]... or\nkill -l [exitstatus]"

/-- How `kill` is used in the extended shell. -/
def extendedKillUsage : String :=
  "kill: usage: kill [-s sigspec | -n signum | -sigspec] pid | jobspec ... or kill -l [sigspec]\n"

/-- The job that a text behind a percent sign names. -/
def State.job? (s : State) (text : String) : Option Job :=
  match text with
  | "" | "%" | "+" => s.jobs.head?
  | "-" => s.jobs[1]?
  | text => (naturalOf? text).bind fun n => s.jobs.find? (·.number = n)

/-- Sends a signal to one process or job. -/
def sendTo (signal : Nat) (text : String) : Sh Bool := do
  let extended ← isExtended
  let s ← get
  let target? : Option Int ← match text.toList with
    | '%' :: cs =>
      match s.job? (String.ofList cs) with
      | some job => pure (some (job.last : Int))
      | none =>
        if extended then pure none
        else fail ("No such job: " ++ text)
    | _ =>
      if extended then pure (decimalInteger? text)
      else match text.toList with
        | '-' :: cs => pure (some (-((← requireNumber (String.ofList cs)) : Int)))
        | _ => pure (some ((← requireNumber text) : Int))
  match target? with
  | none =>
    complain (if text.startsWith "%" then text ++ ": no such job"
      else text ++ ": arguments must be process or job IDs")
    return false
  | some target =>
    match ← Sh.ask (.send target signal) with
    | .ok _ => return true
    | .error fault =>
      if extended then complain ("(" ++ toString target ++ ") - " ++ fault.reason)
      else complain (fault.reason ++ "\n")
      return false

/-- Sends a signal to all of some processes and jobs. -/
def sendToAll (signal : Nat) : (targets : List String) → Sh Nat
  | [] => return 0
  | target :: targets => do
    let sent ← sendTo signal target
    let others ← sendToAll signal targets
    return if sent && others = 0 then 0 else 1

/-- Prints the name of the signal by which a process ended. -/
def printSignal (text : String) : Sh Nat := do
  if ← isExtended then
    match naturalOf? text, signalOf? true text with
    | some n, _ =>
      let signal := if 128 < n then n - 128 else n
      if signal < signalCount then
        print (signalName signal ++ "\n")
        return 0
      complain (text ++ ": invalid signal specification")
      return 1
    | none, some signal =>
      print (toString signal ++ "\n")
      return 0
    | none, none =>
      complain (text ++ ": invalid signal specification")
      return 1
  let n ← requireNumber text
  let signal := if 128 < n then n - 128 else n
  if 0 < signal && signal < signalCount then
    print (signalName signal ++ "\n")
    return 0
  fail ("invalid signal number or exit status: " ++ text)

/-- Sends a signal, or tells the names of signals. -/
def kill (args : List String) : Sh Nat := do
  let extended ← isExtended
  let usage {α : Type} : Sh α := do
    if extended then
      remark extendedKillUsage
      setStatus 2
      throw .failed
    else fail killUsage
  match args with
  | [] => usage
  | first :: rest =>
    let named? := match first.toList with
      | '-' :: cs => (signalOf? extended (String.ofList cs)).filter fun n =>
          extended || 0 < n || cs.all Char.isDigit
      | _ => none
    match named? with
    | some signal => if rest.isEmpty then usage else sendToAll signal rest
    | none =>
      if extended && first.startsWith "-" && first ≠ "-l" && first ≠ "-L" && first ≠ "-s" &&
          first ≠ "-n" && first ≠ "--" then
        complain ((first.drop 1).toString ++ ": invalid signal specification")
        return 1
      let (found, operands) ← optionsOf "lL" "sn" "" args
      if hasLetter found 'l' || hasLetter found 'L' then
        match operands with
        | [] => printSignalNames
        | operand :: _ => printSignal operand
      else
        let signal ← match (found.find? fun option => option.1 = 's' || option.1 = 'n') with
          | some (_, text) =>
            match (signalOf? extended text).filter (fun n =>
                extended || 0 < n || text.all Char.isDigit) with
            | some signal => pure signal
            | none =>
              if extended then
                complain (text ++ ": invalid signal specification")
                setStatus 1
                throw .failed
              else fail ("invalid signal number or name: " ++ text)
          | none => pure 15
        if operands.isEmpty then usage else sendToAll signal operands

/-! ### Waiting -/

/-- Notes the end of a process. -/
def State.noted (s : State) (process : Nat) (ending : ProcessEnd) : State :=
  { s with jobs := s.jobs.map fun job =>
    if job.waiting.contains process then
      { job with
        waiting := job.waiting.filter (· ≠ process)
        ending? := if process = job.last then some ending else job.ending? }
    else job }

/-- Waits until no process of a job runs, or of any job. The result says by which signal the wait
was cut short. -/
def waitForJob (number? : Option Nat) : (rounds : Nat) → Sh (Option Nat)
  | 0 => return none
  | rounds + 1 => do
    let s ← get
    let meant := s.jobs.filter fun job => (number?.all (· = job.number)) && !job.waiting.isEmpty
    match meant.reverse.head? with
    | none => return none
    | some job =>
      let target? := if number?.isSome then job.waiting.head? else none
      match ← Sh.ask (.await target? true) with
      | .ok (some (process, ending)) =>
        modify (·.noted process ending)
        if number?.isSome then tellEnd ending
        waitForJob number? rounds
      | .error .interrupted =>
        let came ← Sh.ask .pause
        modify fun s => { s with due := s.due ++ came }
        match came.head? with
        | some signal => return some signal
        | none => waitForJob number? rounds
      | _ =>
        modify fun s => { s with jobs := s.jobs.map fun job => { job with waiting := [] } }
        return none

/-- Waits for one process or job. -/
def waitForOne (text : String) (before : Nat) : Sh Nat := do
  let s ← get
  let extended ← isExtended
  let job? ← match text.toList with
    | '%' :: cs =>
      match s.job? (String.ofList cs) with
      | some job => pure (some job)
      | none =>
        if extended then
          complain (text ++ ": no such job")
          return 127
        else fail ("No such job: " ++ text)
    | _ =>
      if extended then
        match naturalOf? text with
        | some n => pure (s.jobs.find? (·.last = n))
        | none =>
          complain ("\x60" ++ text ++ "': not a pid or valid job spec")
          return 1
      else
        let n ← requireNumber text
        pure (s.jobs.find? (·.last = n))
  match job? with
  | none =>
    if extended then complain ("pid " ++ text ++ " is not a child of this shell")
    return if extended then 127 else before
  | some job =>
    match ← waitForJob (some job.number) manyRounds with
    | some signal => return 128 + signal
    | none =>
      let found? := (← get).jobs.find? (·.number = job.number)
      return ((found?.bind (·.ending?)).map ProcessEnd.status).getD 127

/-- Waits for all of some processes and jobs; the last one counts. -/
def waitForEach : (texts : List String) → (code : Nat) → Sh Nat
  | [], code => return code
  | text :: texts, code => do waitForEach texts (← waitForOne text code)

/-- Waits for statements in the background. -/
def wait (args : List String) : Sh Nat := do
  let extended ← isExtended
  let (found, operands) ← optionsOf (if extended then "fn" else "") (if extended then "p" else "")
    "wait [-fn] [-p var] [id ...]" args
  if hasLetter found 'n' then
    let running := (← get).jobs.filter (!·.waiting.isEmpty)
    if running.isEmpty then return 127
    match ← Sh.ask (.await none true) with
    | .ok (some (process, ending)) =>
      modify (·.noted process ending)
      return ending.status
    | _ => return 127
  match operands with
  | [] =>
    match ← waitForJob none manyRounds with
    | some signal => return 128 + signal
    | none =>
      modify fun s => { s with jobs := s.jobs.filter (!·.waiting.isEmpty) }
      return 0
  | operands => waitForEach operands 127

/-- Prints the jobs that run. -/
def printJobs (args : List String) : Sh Nat := do
  let (found, _) ← optionsOf "lp" "" "jobs [-lnprs] [jobspec ...]" args
  let running := (← get).jobs.reverse.filter (!·.waiting.isEmpty)
  for job in running do
    if hasLetter found 'p' then print (toString job.last ++ "\n")
    else print ("[" ++ toString job.number ++ "]   Running                    " ++ job.text ++ "\n")
  return 0

end Buildwright.Sandbox.Shell
