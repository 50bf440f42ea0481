import Buildwright.Sandbox.Regular
import Buildwright.Sandbox.Shell.Execution

/-!
# Shells as programs

How a shell is started: with options, with a text behind `-c`, with the path of a script, or with a
script that it is handed. The variables that it was told about are there from the start.
-/

namespace Buildwright.Sandbox.Shell

/-! ### Variables at the start -/

/-- Gives a variable a text at the start. -/
def State.given (s : State) (name text : String) (exported : Bool) : State :=
  s.withVariable name { s.variable name with value := .text text, exported }

/-- The state with the variables that the shell was told about. -/
def State.withEnvironment (s : State) (environment : List (String × String)) : State :=
  environment.foldl (fun s (name, text) =>
    if isName name then s.given name text true else s) s

/-- The variables that are set from the start if nobody has told about them. -/
def standardVariables : Dialect → List (String × String)
  | .plain => [("PATH", standardSearch), ("PS1", "$ "), ("PS2", "> "), ("PS4", "+ ")]
  | .extended => [("PATH", standardSearch), ("PS4", "+ "), ("TERM", "dumb"), ("SHELL", "/bin/bash")]

/-- The variables that say what the extended shell is. -/
def extendedVariables : List (String × String) := [
  ("BASH", "/bin/bash"), ("BASH_VERSION", "5.2.15(1)-release"), ("EUID", "1000"), ("UID", "1000"),
  ("HOSTNAME", "localhost"), ("HOSTTYPE", "x86_64"), ("MACHTYPE", "x86_64-pc-linux-gnu"),
  ("OSTYPE", "linux-gnu"), ("OPTERR", "1")]

/-- The state of a shell when it is started. -/
def State.atStart (dialect : Dialect) (launch : Launch) : State :=
  let s : State := { dialect, name := launch.name, source := launch.name }
  let s := s.withEnvironment launch.environment
  let s := (standardVariables dialect).foldl (fun s (name, text) =>
    if s.bindings.contains name then s else s.given name text false) s
  let s := (s.given "IFS" " \t\n" false).given "OPTIND" "1" false
  match dialect with
  | .plain => s
  | .extended =>
    let s := extendedVariables.foldl (fun s (name, text) => s.given name text false) s
    let level := ((s.text? "SHLVL").bind naturalOf?).getD 0 + 1
    let s := (s.given "SHLVL" (toString level) true).given "_" launch.name true
    let s := if s.bindings.contains "OLDPWD" then s
      else s.withVariable "OLDPWD" { exported := true }
    { s with options := ["h", "B", "comments"] }

/-- Finds out where the shell is and which process it is. -/
def orientate : Sh Unit := do
  let (process, parent) ← Sh.ask .identify
  let told := ((← get).text? "PWD").getD ""
  let isRight : Bool ← if told.startsWith "/" then do
      match ← Sh.ask (.status told true), ← Sh.ask (.status "." true) with
      | .ok a, .ok b => pure (decide (a.id = b.id))
      | _, _ => pure false
    else pure false
  let directory ← if isRight then pure told
    else do pure ((← Sh.ask .directory).toOption.getD "")
  modify fun s =>
    let s := { s with process, parent, directory, seed := process }
    (s.given "PWD" directory true).given "PPID" (toString parent) false

/-! ### Options -/

/-- How a shell is told to run. -/
structure Invocation where
  /-- The first argument is the text of the script. -/
  isText : Bool := false
  /-- The script is what the shell is handed. -/
  readsInput : Bool := false
  arguments : List String := []

/-- What is said to those who do not know how to start the extended shell. -/
def extendedUsage : String :=
  "Usage:\tbash [GNU long option] [option] ...\n\tbash [GNU long option] [option] script-file ...\n" ++
  "GNU long options:\n" ++ String.join ((["debug", "debugger", "dump-po-strings", "dump-strings",
    "help", "init-file", "login", "noediting", "noprofile", "norc", "posix", "pretty-print",
    "rcfile", "restricted", "verbose", "version"]).map fun name => "\t--" ++ name ++ "\n") ++
  "Shell options:\n\t-ilrsD or -c command or -O shopt_option\t\t(invocation only)\n" ++
  "\t-abefhkmnptuvxBCEHPT or -o option\n"

/-- Ends a shell that cannot be started as it was told. -/
def refuseStart {α : Type} (message : String) (code : Nat) : Sh α := do
  remark ((← get).name ++ ": " ++ message ++ "\n")
  setStatus code
  throw .exit

/-- Takes the letters of one argument; the result are the arguments behind it. -/
def startLetters (on : Bool) : (letters : List Char) → Invocation → (args : List String) →
    Sh (Invocation × List String)
  | [], inv, args => return (inv, args)
  | 'c' :: letters, inv, args => do
    if ← isExtended then setOption true "c"
    startLetters on letters { inv with isText := true } args
  | 's' :: letters, inv, args => do
    setOption true "s"
    startLetters on letters { inv with readsInput := true } args
  | 'l' :: letters, inv, args => startLetters on letters inv args
  | 'O' :: letters, inv, args => do
    match (← get).isExtended, args with
    | true, name :: args =>
      setOption on name
      startLetters on letters inv args
    | _, _ => startLetters on letters inv args
  | 'o' :: letters, inv, name :: args => do
    let s ← get
    match (optionsIn s.dialect).lookup name with
    | some letter => setOption on letter
    | none =>
      if s.isExtended then refuseStart (s.name ++ ": " ++ name ++ ": invalid option name") 2
      else fail ("Illegal option " ++ (if on then "-" else "+") ++ "o " ++ name)
    startLetters on letters inv args
  | letter :: letters, inv, args => do
    let s ← get
    let option := String.singleton letter
    let shown := (if on then "-" else "+") ++ option
    if (optionsIn s.dialect).any (·.2 = option) || (s.isExtended && "irD".toList.contains letter) then
      setOption on option
      startLetters on letters inv args
    else if s.isExtended then
      refuseStart (shown ++ ": invalid option\n" ++ extendedUsage.trimAsciiEnd.toString) 2
    else fail ("Illegal option " ++ shown)

/-- Takes the options at the front of the arguments. -/
def startOptions : (rounds : Nat) → Invocation → (args : List String) → Sh Invocation
  | 0, inv, args => return { inv with arguments := args }
  | _, inv, [] => return { inv with arguments := [] }
  | rounds + 1, inv, arg :: args => do
    let extended ← isExtended
    match arg.toList with
    | ['-'] | ['-', '-'] => return { inv with arguments := args }
    | '-' :: '-' :: name =>
      if !extended then
        fail "Illegal option --"
      match String.ofList name with
      | "rcfile" | "init-file" => startOptions rounds inv args.tail
      | "posix" =>
        setOption true "posix"
        startOptions rounds inv args
      | "verbose" =>
        setOption true "v"
        startOptions rounds inv args
      | "login" | "noediting" | "noprofile" | "norc" | "restricted" | "debugger" | "debug" =>
        startOptions rounds inv args
      | _ => refuseStart (arg ++ ": invalid option\n" ++ extendedUsage.trimAsciiEnd.toString) 2
    | '-' :: letters =>
      let (inv, args) ← startLetters true letters inv args
      startOptions rounds inv args
    | '+' :: letter :: letters =>
      let (inv, args) ← startLetters false (letter :: letters) inv args
      startOptions rounds inv args
    | _ => return { inv with arguments := arg :: args }

/-! ### Scripts -/

/-- The text of the script with a path, which becomes the name of the shell. -/
def scriptText (path : String) : Sh String := do
  if !(← isExtended) then
    match ← Sh.ask (.open path .read 0) with
    | .error fault => fail (← openFault path false fault)
    | .ok number =>
      let contents ← Sh.lift (Task.readAll number)
      let _ ← Sh.ask (.close number)
      modify fun s => { s with name := path, source := path }
      return octetText (contents.toOption.getD ByteArray.empty)
  else
    let found ← match ← Sh.lift (Task.readFile path) with
      | .error .notFound =>
        match ← if path.contains '/' then pure none else sourcePath path with
        | some other => Sh.lift (Task.readFile other)
        | none => pure (.error .notFound)
      | found => pure found
    match found with
    | .error fault =>
      if fault = .isDirectory then modify fun s => { s with name := path }
      refuseStart (path ++ ": " ++ fault.reason) (if fault = .notFound then 127 else 126)
    | .ok contents =>
      modify fun s => { s with name := path, source := path }
      let text := octetText contents
      if ((text.toList.take 80).takeWhile (· ≠ '\n')).contains '\x00' then
        refuseStart (path ++ ": cannot execute binary file") 126
      return text

/-- Finds an expression in a text, with its groups. -/
def searchRegular : RegularSearch := fun ignoresCase expression text =>
  match Expression.ofText { extended := true, looseClosing := true } expression.toList with
  | .error fault => .error fault.message
  | .ok e =>
    let r := if ignoresCase then e.regular.ignoringCase else e.regular
    .ok <| (r.find? none text.toList).map fun found =>
      (List.range (e.groups + 1)).map fun i => String.ofList ((found.group? i).getD [])

/-- Runs all statements. -/
def runAll : Runner := runWithin searchRegular manyLevels

/-- Does what the shell was started for. -/
def runInvocation (args : List String) : Sh Unit := do
  orientate
  let inv ← startOptions (args.length + 1) {} args
  let extended ← isExtended
  if inv.isText then
    match inv.arguments with
    | [] =>
      if extended then refuseStart "-c: option requires an argument" 2
      else fail "-c requires an argument"
    | text :: others =>
      modify fun s =>
        let name := others.headD s.name
        { s with name, source := name, arguments := others.tail }
      runText runAll { flags := { last := true }, input := "-c", top := extended } text
  else match inv.readsInput, inv.arguments with
    | false, path :: others =>
      modify fun s => { s with arguments := others }
      let text ← scriptText path
      runText runAll { top := extended } text
    | _, others =>
      setOption true "s"
      modify fun s => { s with arguments := others }
      match ← Sh.lift (Task.readAll 0) with
      | .ok contents => runText runAll { top := extended } (octetText contents)
      | .error _ => pure ()

/-- The process of a shell. -/
def shellProcess (dialect : Dialect) (launch : Launch) : Process :=
  (toEnd runAll (runInvocation launch.arguments)).process (.atStart dialect launch)

end Buildwright.Sandbox.Shell
