import Buildwright.Sandbox.Shell.Builtin.Row

/-!
# Running statements

What the statements of a script do. Each of them is run by the same function, on the level below; a
level is only entered when a statement is run, so that there may be any number of them.
-/

namespace Buildwright.Sandbox.Shell

/-! ### Ends of statements -/

/-- Ends the script if a statement failed whose exit code nothing looks at, where that is asked for.
-/
def checkExit (run : Runner) (flags : RunFlags) : Sh Unit := do
  let s ← get
  if s.status ≠ 0 && !flags.tested then
    if s.isExtended && (s.traps.lookup 1000).isSome && s.running.isEmpty then runTrap run 1000
    if s.isOn "e" then throw .exit

/-! ### Traces -/

/-- The word that a text is between double quotes. -/
def State.promptWord (s : State) (text : String) : Word :=
  let read : Parse Word := do
    let inner := (levelAt greatestNesting).inner
    let (pieces, _, _) ← pieceReader inner greatestNesting { site := .document, quoted := true }
    return pieces.reverse
  match read (s.reading text.toList 1) with
  | .ok (word, _) => word
  | .error _ => [.text text true]

/-- What a trace begins with. -/
def traceFront (run : Runner) : Sh String := do
  let s ← get
  let prompt := (s.text? "PS4").getD "+ "
  let text ← if prompt.contains '$' || prompt.contains '\x60' then
      modify fun s => { s with options := s.options.filter (· ≠ "x") }
      let text ← wordText (insideOf run) (s.promptWord prompt)
      modify fun s' => { s' with options := s.options }
      pure text
    else pure prompt
  if s.isExtended then
    let front := String.ofList (text.toList.take 1)
    return String.join (List.replicate s.captures front) ++ text
  return text

/-- A word as a trace of the extended shell shows it. -/
def tracedWord (text : String) : String :=
  if text = "" then "''"
  else if holdsUnprintable text then escapeQuoted text
  else if text.any shieldedSigns.contains && text ≠ "[[" then
    let isPlain := text.toList.all fun c => c = ',' || c = '=' || !shieldedSigns.contains c
    if isPlain && !text.startsWith "=" then text else singlyQuoted text
  else text

/-- Writes what is run, if that is asked for. -/
def trace (run : Runner) (number : Nat) (text : String) : Sh Unit := do
  if (← get).isOn "x" then
    let front ← traceFront run
    let _ ← Sh.lift (Task.writeText number (front ++ text ++ "\n"))

/-- The number under which messages went before redirections. -/
def messageNumber (kept : List Aside) : Nat :=
  match kept.find? (·.number = 2) with
  | some aside => aside.copy?.getD 2
  | none => 2

/-! ### Programs -/

/-- Whether what a file begins with is no text. -/
def isBinary (path : String) : Sh Bool := do
  match ← Sh.ask (.open path .read 0) with
  | .error _ => return false
  | .ok number =>
    let bytes ← Sh.ask (.read number 80)
    let _ ← Sh.ask (.close number)
    let cs := (octetText (bytes.toOption.getD ByteArray.empty)).toList
    return (cs.takeWhile (· ≠ '\n')).contains '\x00'

/-- The exit code for a program that cannot be run. -/
def launchCode (extended : Bool) : HostFault → Nat
  | .notFound => 127
  | .notDirectory => if extended then 126 else 127
  | .nameTooLong | .tooManyLinks => if extended then 126 else 127
  | _ => 126

/-- Says why a program is not run, and with which exit code that ends. -/
def refuseProgram (name path : String) (fault : HostFault) : Sh Nat := do
  let code := launchCode (← isExtended) fault
  if ← isExtended then
    let label := (← get).label
    let isExec := label = "exec"
    let tell (text : String) : Sh Unit := do
      modify fun s => { s with label := "" }
      complain text
      modify fun s => { s with label }
    let status ← if path.contains '/' then Sh.ask (.status path true) else pure (.error .notFound)
    match fault, status with
    | .notFound, .error _ =>
      if !name.contains '/' then
        if isExec then complain (name ++ ": not found")
        else tell (name ++ ": command not found")
      else tell (name ++ ": " ++ fault.reason)
    | .notFound, .ok _ => tell (name ++ ": cannot execute: required file not found")
    | .notExecutable, _ =>
      tell (name ++ ": cannot execute binary file: " ++ fault.reason)
    | _, .ok { kind := .directory, .. } =>
      tell (name ++ ": " ++ HostFault.isDirectory.reason)
      if isExec then complain (name ++ ": cannot execute: " ++ HostFault.isDirectory.reason)
    | _, _ => tell (name ++ ": " ++ fault.reason)
  else
    let isMissing := fault = .notFound || fault = .notDirectory
    complain (name ++ ": " ++ if isMissing then "not found" else fault.reason)
  return code

/-- Goes on as another program; if that is not possible, the result is the exit code. -/
def becomeProgram (name path : String) (args : List String) : Sh Nat := do
  let s ← get
  let environment := s.environment
  let environment := if s.isExtended then
      environment.filter (·.1 ≠ "_") ++ [("_", path)] else environment
  match ← Sh.ask (.execute path (name :: args) environment) with
  | .notExecutable =>
    if ← isBinary path then refuseProgram name path .notExecutable
    else
      let shell := if s.isExtended then "/bin/bash" else "/bin/sh"
      let fault ← Sh.ask (.execute shell (shell :: path :: args) environment)
      refuseProgram name path fault
  | fault => refuseProgram name path fault

/-- Whether anything is asked for on a signal or at the end. -/
def State.hasAnyTrap (s : State) : Bool := s.traps.any fun (_, action) => action ≠ ""

/-- Runs a program. -/
def runProgram (flags : RunFlags) (name : String) (args : List String) (standard : Bool) :
    Sh Unit := do
  let s ← get
  let found ← if standard && !name.contains '/' then
      findProgram (searchedPaths standardSearch name) .notFound
    else programPath name
  match found with
  | .error fault =>
    if s.isExtended || fault = .notFound || fault = .notDirectory then
      setStatus (← refuseProgram name name fault)
    else
      complain (name ++ ": " ++ fault.reason)
      setStatus 127
  | .ok path =>
    if !name.contains '/' && (s.hashed.lookup name).isNone && !standard then
      modify fun s => { s with hashed := (name, path) :: s.hashed }
    if flags.last && !s.hasAnyTrap then
      setStatus (← becomeProgram name path args)
      throw .exit
    else
      let child ← Sh.fork do setStatus (← becomeProgram name path args)
      let ending ← await child
      tellEnd ending
      setStatus ending.status

/-! ### Built-in statements that run others -/

/-- The exit code that an argument gives, or that of the last statement. -/
def codeFrom (args : List String) (standard : Nat) : Sh Nat := do
  match args with
  | [] => return standard
  | text :: _ =>
    if ← isExtended then
      match decimalInteger? text with
      | some n => return (n % 256).toNat
      | none =>
        complain (text ++ ": numeric argument required")
        return 2
    else requireNumber text

/-- Runs a text that is put together from arguments. -/
def evalTexts (run : Runner) (flags : RunFlags) (args : List String) : Sh Nat := do
  let args := if args.head? = some "--" then args.tail else args
  let s ← get
  let firstLine := if s.isExtended then s.line else 1
  let text := " ".intercalate args
  let step := runText run { flags := { flags with last := false }, input := "eval", firstLine } text
  if s.isExtended then labelled "" step else step
  return (← get).status

/-- The path of a file that is read as a part of the script. -/
def sourcePath (name : String) : Sh (Option String) := do
  if name.contains '/' then return some name
  let search := ((← get).text? "PATH").getD ""
  let rec find : List String → Sh (Option String)
    | [] => return none
    | path :: paths => do
      match ← Sh.ask (.status path true) with
      | .ok { kind := .regular, .. } => return some path
      | _ => find paths
  match ← find (searchedPaths search name) with
  | some path => return some path
  | none => return if ← isExtended then some name else none

/-- Runs the text of a file. -/
def sourceFile (run : Runner) (flags : RunFlags) (args : List String) : Sh Nat := do
  let args := if args.head? = some "--" then args.tail else args
  let extended ← isExtended
  match args with
  | [] =>
    if extended then
      complain "filename argument required"
      remark ((← get).label ++ ": usage: " ++ (← get).label ++ " filename [arguments]\n")
      return 2
    return 0
  | name :: others =>
    match ← sourcePath name with
    | none => fail (name ++ ": not found")
    | some path =>
      match ← Sh.lift (Task.readFile path) with
      | .error fault =>
        if extended then
          if fault = .isDirectory then complain (name ++ ": is a directory")
          else
            let label := (← get).label
            modify fun s => { s with label := "" }
            complain (name ++ ": " ++ fault.reason)
            modify fun s => { s with label }
          return 1
        fail (← openFault path false fault)
      | .ok contents =>
        let s ← get
        set { s with
          label := if extended then "" else path
          source := if extended then path else s.source
          sources := s.sources + 1
          running := if extended then "source" :: s.running else s.running
          arguments := if extended && !others.isEmpty then others else s.arguments }
        let restore : Sh Unit := modify fun s' => { s' with
          label := s.label, source := s.source, sources := s.sources, running := s.running
          arguments := if extended && !others.isEmpty then s.arguments else s'.arguments
          line := if extended then s.line else s'.line }
        let result ← ((runText run { flags := { flags with last := false } }
          (octetText contents)).after restore).outcome
        match result with
        | .ok _ | .error .leave => return (← get).status
        | .error stop => throw stop

/-- Ends loops or rounds of loops. -/
def endLoops (stop : Nat → Stop) (args : List String) : Sh Nat := do
  let s ← get
  if s.isExtended && s.loops = 0 then
    complain "only meaningful in a \x60for', \x60while', or \x60until' loop"
    return 0
  let levels ← match args with
    | [] => pure 1
    | text :: _ =>
      if s.isExtended then
        match decimalInteger? text with
        | some n =>
          if n ≤ 0 then
            complain (text ++ ": loop count out of range")
            setStatus 1
            throw (.endLoop s.loops)
          pure n.toNat
        | none =>
          complain (text ++ ": numeric argument required")
          setStatus 128
          throw .exit
      else requireNumber text
  if levels = 0 then fail "Illegal number: 0"
  if s.loops = 0 then return 0
  setStatus 0
  throw (stop (min levels s.loops))

/-- Goes on as another program, or with other places for all that follows. -/
def execProgram (args : List String) : Sh Nat := do
  let (args, name?) := match args with
    | "-a" :: name :: rest => (rest, some name)
    | "--" :: rest => (rest, none)
    | args => (args, none)
  match args with
  | [] => return 0
  | name :: rest =>
    match ← programPath name with
    | .error fault =>
      setStatus (← refuseProgram name name fault)
      throw .exit
    | .ok path =>
      setStatus (← becomeProgram (name?.getD name) path rest)
      throw .exit

/-- Ends the script. -/
def exitScript (args : List String) : Sh Nat := do
  let s ← get
  setStatus (← codeFrom args (s.trapped?.getD s.status))
  throw .exit

/-- Ends a function or a file that is read. -/
def leave (args : List String) : Sh Nat := do
  let s ← get
  if s.isExtended && s.running.isEmpty && s.sources = 0 then
    complain "can only \x60return' from a function or sourced script"
    return 2
  setStatus (← codeFrom args s.status)
  throw .leave

/-- Asks what names mean. -/
def askNames (args : List String) : Sh Nat := do
  let (found, names) ← optionsOf "pvV" "" "command [-pVv] command [arg ...]" args
  let names := if ← isExtended then names else names.take 1
  if hasLetter found 'V' then return ← describeAll names
  let mut code := 0
  for name in names do
    if !(← describe false name) then
      code := if ← isExtended then 1 else 127
  return code

/-- Does what a built-in statement says. -/
def runNamed (run : Runner) (flags : RunFlags) (name : String) (args : List String) : Sh Nat := do
  match name with
  | ":" | "true" | "bg" | "fg" | "disown" => return 0
  | "false" => return 1
  | "echo" => echo args
  | "printf" => printFormat args
  | "pwd" => printDirectory args
  | "cd" | "chdir" => changeDirectory args
  | "test" | "[" => testCondition name args
  | "exit" => exitScript args
  | "return" => leave args
  | "break" => endLoops .endLoop args
  | "continue" => endLoops .nextRound args
  | "shift" => shiftArguments args
  | "unset" => unsetNames args
  | "read" => readLine args
  | "getopts" => nextOption args
  | "trap" => trap args
  | "kill" => kill args
  | "wait" => wait args
  | "jobs" => printJobs args
  | "umask" => setPermissionMask args
  | "ulimit" => printLimit args
  | "alias" => defineAliases args
  | "unalias" => unalias args
  | "type" => describeAll args
  | "hash" => hashPrograms args
  | "command" => askNames args
  | "eval" => evalTexts run flags args
  | "." | "source" => sourceFile run flags args
  | "exec" => execProgram args
  | "times" =>
    print "0m0.00s 0m0.00s\n0m0.00s 0m0.00s\n"
    return 0
  | "set" =>
    if args.isEmpty then printVariables "" (·.value.text?.isSome)
    else setArguments (args.length + 1) args
  | "export" => exportVariables args
  | "readonly" => protectVariables args
  | "local" => hideVariables args
  | _ => return 0

/-- Runs a built-in statement. -/
def runBuiltin (run : Runner) (flags : RunFlags) (special : Bool) (name : String)
    (args : List String) : Sh Unit := do
  let before := (← get).label
  modify fun s => { s with label := name }
  let result ← (runNamed run flags name args).outcome
  let restore : Sh Unit := modify fun s => { s with label := before }
  match result with
  | .ok code =>
    let fault? ← writePrinted
    setStatus code
    if let some fault := fault? then
      if ← isExtended then complain ("write error: " ++ fault.reason)
      else complain (name ++ ": I/O error")
      setStatus (code ||| 1)
    restore
  | .error .failed =>
    modify fun s => { s with printed := "" }
    restore
    if special then throw .failed
  | .error stop =>
    let _ ← writePrinted
    restore
    throw stop

/-! ### Functions -/

/-- Calls a function. -/
def callFunction (run : Runner) (flags : RunFlags) (name : String) (f : Function)
    (args : List String) : Sh Unit := do
  pass run
  let s ← get
  set { s with
    arguments := args, loops := 0, lettersSeen := 0, optionIndex := 1
    running := name :: s.running, lineShift := 0, line := if s.isExtended then f.line else s.line }
  let restore : Sh Unit := modify fun s' => { s' with
    arguments := s.arguments, loops := s.loops, lettersSeen := s.lettersSeen
    optionIndex := s.optionIndex, running := s.running, lineShift := s.lineShift }
  let result ← ((run { tested := flags.tested } f.body).after restore).outcome
  match result with
  | .ok _ | .error .leave => pure ()
  | .error stop => throw stop

/-! ### Simple statements -/

/-- What a name runs. -/
inductive Command where
  | nothing
  | function (f : Function)
  | builtin (name : String)
  | program

/-- What a name runs. -/
def State.command (s : State) (withoutFunctions : Bool) (name : String) : Command :=
  if name.contains '/' then .program
  else match if withoutFunctions then none else s.functions[name]? with
    | some f => .function f
    | none => if s.isBuiltin name then .builtin name else .program

/-- The arguments that stand first, and the words that are not expanded yet. -/
def firstArguments (inside : Inside) : (words : List Word) → Sh (List String × List Word)
  | [] => return ([], [])
  | w :: words => do
    match ← expandWord inside w with
    | [] => firstArguments inside words
    | args => return (args, words)

/-- At least one more argument, if there is one. -/
def moreArguments (inside : Inside) (args : List String) (words : List Word) :
    Sh (List String × List Word) := do
  if args.isEmpty then firstArguments inside words else return (args, words)

/-- How a simple statement is called. -/
structure Calling where
  args : List String
  words : List Word
  /-- Functions are passed over. -/
  withoutFunctions : Bool := false
  /-- Programs are looked for where they are as a rule. -/
  standard : Bool := false

/-- Passes over `command` with its options, as long as something is to be run behind it. -/
def behindCommand (inside : Inside) : (rounds : Nat) → Calling → Sh Calling
  | 0, c => return c
  | rounds + 1, c => do
    let name := c.args.headD ""
    let s ← get
    let isOwn : Bool := match s.command c.withoutFunctions name with
      | .builtin _ => name = "command" || (s.isExtended && name = "builtin")
      | _ => false
    if !isOwn then return c
    let rec options : (rounds : Nat) → Calling → Sh (Option Calling)
      | 0, _ => return none
      | rounds + 1, c => do
        let (args, words) ← moreArguments inside c.args c.words
        let c := { c with args, words }
        match args with
        | [] => return none
        | "--" :: rest =>
          let (args, words) ← moreArguments inside rest c.words
          return if args.isEmpty then none else some { c with args, words }
        | "-p" :: rest => options rounds { c with args := rest, standard := true }
        | arg :: _ => return if arg.startsWith "-" && arg ≠ "-" then none else some c
    match ← options rounds { c with args := c.args.tail } with
    | none =>
      let (args, words) ← moreArguments inside c.args.tail c.words
      return { c with args := name :: args, words }
    | some next => behindCommand inside rounds { next with withoutFunctions := true }

/-- The other arguments. Behind names that declare variables, assignments are not cut. -/
def restArguments (inside : Inside) (declares : Bool) (words : List Word) : Sh (List String) := do
  let dialect := (← get).dialect
  let expanded ← words.mapM fun w => do
    let found? := if declares then assignment? dialect w else none
    match found? with
    | some (name, index?, appends, value) =>
      let index ← match index? with
        | some index => pure ("[" ++ (← wordText inside index) ++ "]")
        | none => pure ""
      let sign := if appends then "+=" else "="
      return [name ++ index ++ sign ++ (← expandAssigned inside value)]
    | none => expandWord inside w
  return expanded.flatten

/-- Makes assignments for one statement alone, or for good. -/
def assignAll (inside : Inside) (alone exports : Bool) : (assignments : List Assignment) →
    Sh (List String)
  | [] => return []
  | a :: others => do
    let .mk name _ _ _ := a
    if alone then modify (·.hiding name)
    let shown ← assign inside a
    if alone || exports then
      modify fun s => s.withVariable name { s.variable name with exported := true }
    return shown :: (← assignAll inside alone exports others)

/-- Traces a simple statement. -/
def traceSimple (run : Runner) (number : Nat) (shown args : List String) : Sh Unit := do
  let s ← get
  if s.isOn "x" then
    if s.isExtended then
      for text in shown do
        let name := String.ofList (text.toList.takeWhile (· ≠ '='))
        let value := (text.drop (name.length + 1)).toString
        let value := if value.startsWith "(" || value = "" then value else tracedWord value
        trace run number (name ++ "=" ++ value)
      if !args.isEmpty then trace run number (" ".intercalate (args.map tracedWord))
    else trace run number (" ".intercalate (shown ++ args))

/-- Runs a simple statement without words. -/
def runAssignments (run : Runner) (assignments : List Assignment) (prepared : List Prepared) :
    Sh Unit := do
  match ← redirect true prepared with
  | none => pure ()
  | some kept =>
    let step : Sh Unit := do
      let shown ← assignAll (insideOf run) false false assignments
      traceSimple run (messageNumber kept) shown []
      setStatus (← get).captured
    step.after (bringBack kept)

/-- Runs a simple statement with words. -/
def runCommand (run : Runner) (flags : RunFlags) (assignments : List Assignment) (c : Calling)
    (prepared : List Prepared) : Sh Unit := do
  let s ← get
  let name := c.args.headD ""
  let args := c.args.tail
  let command := s.command c.withoutFunctions name
  let isExec : Bool := match command with
    | .builtin "exec" => true
    | _ => false
  let isSpecial : Bool := !s.isExtended && !c.withoutFunctions && specialNames.contains name &&
    match command with
    | .builtin _ => true
    | _ => false
  let isFunction : Bool := match command with
    | .function _ => true
    | _ => false
  match ← redirect true prepared with
  | none => if isSpecial then throw .failed
  | some kept =>
    let alone := !isSpecial && !(isExec && s.isExtended)
    let step : Sh Unit := do
      let shown ← assignAll (insideOf run) alone (isExec && !args.isEmpty) assignments
      traceSimple run (messageNumber kept) shown (name :: args)
      match command with
      | .nothing => pure ()
      | .function f => callFunction run flags name f args
      | .builtin name => runBuiltin run flags isSpecial name args
      | .program => runProgram flags name args c.standard
    let framed := if isFunction || (alone && !assignments.isEmpty) then inFrame step else step
    framed.after (if isExec then dropAside kept else bringBack kept)

/-- Runs a simple statement. -/
def runSimple (run : Runner) (flags : RunFlags) (line : Nat) (assignments : List Assignment)
    (words : List Word) (redirections : List Redirection) : Sh Unit := atLine line do
  modify fun s => { s with captured := 0 }
  let inside := insideOf run
  let (args, words) ← firstArguments inside words
  if args.isEmpty then
    let result ← (redirections.mapM (prepare inside)).outcome
    match result with
    | .ok prepared => runAssignments run assignments prepared
    | .error .failed => if !(← isExtended) then throw .failed
    | .error stop => throw stop
  else
    let c ← behindCommand inside 1000 { args, words }
    let s ← get
    let name := c.args.headD ""
    let declares : Bool := match s.command c.withoutFunctions name with
      | .builtin name => declaringWords.contains name
      | _ => false
    let rest ← restArguments inside declares c.words
    let result ← (redirections.mapM (prepare inside)).outcome
    match result with
    | .ok prepared =>
      runCommand run flags assignments { c with args := c.args ++ rest, words := [] } prepared
    | .error .failed => if !(← isExtended) then throw .failed
    | .error stop => throw stop
  checkExit run flags

/-! ### Compound statements -/

/-- The line that messages about the redirections of a statement tell, if it is its own. -/
def redirectionLine? (extended : Bool) (line : Nat) : Statement → Option Nat
  | .enclosed own _ => some own
  | .condition own _ | .compute own _ => some (if extended then own else line)
  | _ => if extended || line = 0 then none else some line

/-- Runs a statement under redirections. -/
def runRedirected (run : Runner) (flags : RunFlags) (line : Nat) (body : Statement)
    (redirections : List Redirection) : Sh Unit := do
  let own := (redirectionLine? (← isExtended) line body).getD 0
  let atOwn {α : Type} (step : Sh α) : Sh α := if own = 0 then step else atLine own step
  let prepared ← atOwn (redirections.mapM (prepare (insideOf run)))
  match body with
  | .enclosed line body =>
    atLine line (runApart run do
      match ← redirect false prepared with
      | some _ => run { flags with last := true } body
      | none => throw .exit)
    checkExit run flags
  | body =>
    match ← atOwn (redirect true prepared) with
    | none => checkExit run flags
    | some kept => (run { tested := flags.tested } body).after (bringBack kept)

/-- What becomes of a loop after a round. -/
inductive AfterRound where
  | next
  | done
  | leaves (stop : Stop)

/-- What becomes of a loop after a round that ended in some way. -/
def afterRound : Except Stop Unit → AfterRound
  | .ok _ | .error (.nextRound 0) | .error (.nextRound 1) => .next
  | .error (.endLoop 0) | .error (.endLoop 1) => .done
  | .error (.endLoop n) => .leaves (.endLoop (n - 1))
  | .error (.nextRound n) => .leaves (.nextRound (n - 1))
  | .error stop => .leaves stop

/-- Runs a step as a part of a loop. -/
def inLoop (step : Sh Unit) : Sh Unit := do
  modify fun s => { s with loops := s.loops + 1 }
  step.after (modify fun s => { s with loops := s.loops - 1 })

/-- Runs the rounds of a loop with a condition. -/
def loopRounds (run : Runner) (tested untilTrue : Bool) (condition body : Statement) :
    (rounds : Nat) → (code : Nat) → Sh Unit
  | 0, code => setStatus code
  | rounds + 1, code => do
    pass run
    let asked ← (run { tested := true } condition).outcome
    match afterRound asked, asked with
    | .leaves stop, _ => throw stop
    | .done, _ => setStatus code
    | .next, .error _ => loopRounds run tested untilTrue condition body rounds code
    | .next, .ok _ =>
      if ((← get).status = 0) = untilTrue then setStatus code
      else
        match afterRound (← (run { tested } body).outcome) with
        | .next => loopRounds run tested untilTrue condition body rounds (← get).status
        | .done => pure ()
        | .leaves stop => throw stop

/-- Runs the rounds of a loop over words. -/
def eachRound (run : Runner) (tested : Bool) (name : String) (body : Statement) (shown : String) :
    (words : List String) → Sh Unit
  | [] => pure ()
  | w :: words => do
    pass run
    if (← get).isExtended then trace run 2 shown
    storeText name w
    match afterRound (← (run { tested } body).outcome) with
    | .next => eachRound run tested name body shown words
    | .done => pure ()
    | .leaves stop => throw stop

/-- Runs the branch behind the first pattern that fits a text. The status is that of the last
branch, which is zero if it is empty or there is none. -/
def runBranches (run : Runner) (flags : RunFlags) (text : String) :
    (falls sets : Bool) → List (List Word × Statement × BranchEnd) → Sh Unit
  | _, sets, [] => if sets then pure () else setStatus 0
  | falls, sets, (patterns, body, ending) :: branches => do
    let rec anyFits : List Word → Sh Bool
      | [] => return false
      | w :: others => do
        if fits (← expandPattern (insideOf run) w) text.toList then return true
        anyFits others
    let isMeant ← if falls then pure true else anyFits patterns
    if !isMeant then runBranches run flags text false sets branches
    else
      let isEmpty := match body with
        | .sequence [] => true
        | _ => false
      if !isEmpty then run flags body
      match ending with
      | .leave => if isEmpty then setStatus 0
      | .fall => runBranches run flags text true (!isEmpty) branches
      | .goOn => runBranches run flags text false (!isEmpty) branches

/-! ### Processes side by side -/

/-- Starts the processes of a pipeline, of which each reads what the one before it prints. -/
def startPipeline (run : Runner) (flags : RunFlags) (background : Bool) :
    (source? : Option Nat) → (isFirst : Bool) → List Statement → Sh (List Nat)
  | _, _, [] => return []
  | source?, isFirst, statement :: others => do
    let pipe? ← if others.isEmpty then pure none else pure (some (← Sh.ask .pipe))
    let child ← forkStep run background (background && isFirst) do
      if let some (source, _) := pipe? then
        let _ ← Sh.ask (.close source)
      if let some source := source? then install 0 source
      if let some (_, sink) := pipe? then install 1 sink
      run { flags with last := true } statement
    if let some source := source? then
      let _ ← Sh.ask (.close source)
    if let some (_, sink) := pipe? then
      let _ ← Sh.ask (.close sink)
    return child :: (← startPipeline run flags background (pipe?.map Prod.fst) false others)

/-- Runs statements of which each reads what the one before it prints. -/
def runPipeline (run : Runner) (flags : RunFlags) (statements : List Statement) : Sh Unit := do
  let children ← startPipeline run flags false none true statements
  let endings ← children.mapM fun child => do
    let ending ← await child
    tellEnd ending
    return ending.status
  let last := endings.getLastD 0
  modify fun s => { s with pipeline := endings }
  let failed? := endings.reverse.find? (· ≠ 0)
  setStatus (if (← get).isOn "pipefail" then failed?.getD 0 else last)
  checkExit run flags

/-- Starts a statement in the background. -/
def runBackground (run : Runner) (body : Statement) : Sh Unit := do
  let children ← match body with
    | .pipeline statements => startPipeline run {} true none true statements
    | .redirected line (.enclosed _ body) redirections =>
      pure [← forkStep run true true (run { last := true } (.redirected line body redirections))]
    | .enclosed _ body => pure [← forkStep run true true (run { last := true } body)]
    | body => pure [← forkStep run true true (run { last := true } body)]
  let last := children.getLastD 0
  modify fun s =>
    let number := ((List.range (s.jobs.length + 1)).map (· + 1)).find? (fun n =>
      !s.jobs.any (·.number = n)) |>.getD 1
    { s with
      background? := some last
      jobs := { number, waiting := children, last } :: s.jobs }
  setStatus 0

/-! ### Conditions -/

/-- The text of a regular expression, in which quoted letters stand for themselves. -/
def regularLetters (atoms : List Atom) : List Char :=
  atoms.flatMap fun
    | .letter c .quoted => if ".[]*^$+?\x7b\x7d()|\\".toList.contains c then ['\\', c] else [c]
    | .letter c _ => [c]
    | .quotes => []
    | .boundary => [' ']

/-- Finds an expression in a text: all that was found and its groups. -/
abbrev RegularSearch := (ignoresCase : Bool) → (expression text : String) →
  Except String (Option (List String))

/-- Whether a condition holds. -/
def conditionHolds (run : Runner) (search : RegularSearch) : Condition → Sh Bool
  | .negated c => do return !(← conditionHolds run search c)
  | .both a b => do
    if ← conditionHolds run search a then conditionHolds run search b else return false
  | .either a b => do
    if ← conditionHolds run search a then return true else conditionHolds run search b
  | .unary operator operand => do
    let text ← expandText (insideOf run) operand
    if operator = "-n" then return text ≠ ""
    if operator = "-z" then return text = ""
    return (← testCondition "[[" [operator, text]) = 0
  | .binary operator first second => do
    let inside := insideOf run
    let a ← expandText inside first
    match operator with
    | "=" | "==" | "!=" =>
      let atoms ← wordAtoms inside false ((← get).withTildes false second)
      let s ← get
      let glyphs := groupedPatternOf (patternLetters atoms)
      let a := if s.isOn "nocasematch" then a.map Char.toLower else a
      return fits glyphs a.toList = (operator ≠ "!=")
    | "=~" =>
      let atoms ← wordAtoms inside false second
      match search ((← get).isOn "nocasematch") (String.ofList (regularLetters atoms)) a with
      | .error _ =>
        setStatus 2
        throw .failed
      | .ok none =>
        store "BASH_REMATCH" (.row {})
        return false
      | .ok (some groups) =>
        store "BASH_REMATCH" (.row (Std.TreeMap.ofList ((groups.zipIdx).map fun (t, i) => (i, t))))
        return true
    | "<" => return a < (← expandText inside second)
    | ">" => return (← expandText inside second) < a
    | operator =>
      let b ← expandText inside second
      match integerOperators.lookup operator with
      | some holds =>
        let x ← evaluateSum { text := a, label := "[[: " }
        return holds x (← evaluateSum { text := b, label := "[[: " })
      | none => Sh.lift (filesHold true operator a b)

/-- The pieces of a word as a trace shows them. -/
def tracedPieces (w : Word) : String :=
  String.join (w.map fun
    | .text t _ => t
    | .parameter p _ _ => "$" ++ p.shown
    | _ => "")

/-! ### All statements -/

/-- Runs a statement, whose parts are run by `run`. -/
def runStatement (run : Runner) (search : RegularSearch) : Runner := fun flags statement => do
  if (← get).isOn "n" then return
  checkSignals run
  match statement with
  | .simple line assignments words redirections =>
    runSimple run flags line assignments words redirections
  | .redirected line body redirections => runRedirected run flags line body redirections
  | .sequence statements =>
    let rec each : List Statement → Sh Unit
      | [] => pure ()
      | [last] => run flags last
      | statement :: others => do
        run { flags with last := false } statement
        each others
    each statements
  | .pipeline statements => runPipeline run flags statements
  | .both first second =>
    run { tested := true } first
    if (← get).status = 0 then run flags second
  | .either first second =>
    run { tested := true } first
    if (← get).status ≠ 0 then run flags second
  | .negated body =>
    run { tested := true } body
    setStatus (if (← get).status = 0 then 1 else 0)
  | .background _ body => runBackground run body
  | .enclosed line body =>
    atLine line (runApart run (run { flags with last := true } body))
    checkExit run flags
  | .choice condition yes no? =>
    run { tested := true } condition
    if (← get).status = 0 then run flags yes
    else match no? with
      | some no => run flags no
      | none => setStatus 0
  | .loop untilTrue condition body =>
    inLoop (loopRounds run flags.tested untilTrue condition body manyRounds 0)
  | .each line name words? body => atLine line do
    let words ← match words? with
      | some words => expandWords (insideOf run) words
      | none => pure (← get).arguments
    let shown := "for " ++ name ++ " in " ++ " ".intercalate (match words? with
      | some words => words.map tracedPieces
      | none => ["\"$@\""])
    if words.isEmpty then setStatus 0
    inLoop (eachRound run flags.tested name body shown words)
  | .select line w branches => atLine line do
    let text ← expandText (insideOf run) w
    if (← get).isExtended then trace run 2 ("case " ++ tracedPieces w ++ " in")
    runBranches run flags text false false branches
  | .define line name body =>
    modify fun s => { s with functions := s.functions.insert name { line, body } }
    setStatus 0
  | .condition line c => atLine line do
    match ← (conditionHolds run search c).outcome with
    | .ok holds => setStatus (if holds then 0 else 1)
    | .error .failed => pure ()
    | .error .line => setStatus 1
    | .error stop => throw stop
    checkExit run flags
  | .compute line expression => atLine line do
    let text ← wordText (insideOf run) expression
    trace run 2 ("(( " ++ text ++ " ))")
    match ← (evaluateSum { text, label := "((: " }).outcome with
    | .ok n => setStatus (if n = 0 then 1 else 0)
    | .error .line => setStatus 1
    | .error stop => throw stop
    checkExit run flags
  | .timed posix body =>
    run { flags with last := false } body
    remark (if posix then "real 0.00\nuser 0.00\nsys 0.00\n"
      else "\nreal\t0m0.000s\nuser\t0m0.000s\nsys\t0m0.000s\n")
  checkSignals run

/-- Runs statements one within another, on at most so many levels. -/
def runWithin (search : RegularSearch) : (levels : Nat) → Runner
  | 0, _, _ => throw .exit
  | levels + 1, flags, statement =>
    runStatement (fun flags statement => runWithin search levels flags statement) search flags
      statement

/-- More levels than there can be. -/
def manyLevels : Nat := 1000000000000000

end Buildwright.Sandbox.Shell
