import Buildwright.Sandbox.Program.Source

/-!
# Programs that start others

How a program is found along the search path and started, and the program that starts another one
with other variables. Its first argument may hold several, as they are split in a shell.
-/

namespace Buildwright.Sandbox.Program

/-! ### Starting -/

/-- Where programs are looked for if no variable says it. -/
def standardPlaces : String := "/bin:/usr/bin"

/-- The shell that runs texts that do not name their interpreter. -/
def standardShell : String := "/bin/sh"

/-- The paths at which a program with a name may be. -/
def placesOf (environment : List (String × String)) (name : String) : List String :=
  if name.contains '/' then [name]
  else (((environment.lookup "PATH").getD standardPlaces).splitOn ":").map fun place =>
    if place = "" then name else place ++ "/" ++ name

/-- Goes on as the program with a name, which is looked for; the answer says why that is not
possible. -/
def becomeNamed (arguments : List String) (environment : List (String × String)) :
    Work HostFault := do
  let name := arguments.headD ""
  if name = "" then return .notFound
  let rec go (fault : HostFault) : List String → Work HostFault
    | [] => return fault
    | path :: paths => do
      match ← Work.ask (.execute path arguments environment) with
      | .permissionDenied => go .permissionDenied paths
      | .notFound | .notDirectory => go fault paths
      | .notExecutable =>
        Work.ask (.execute standardShell (standardShell :: path :: arguments.tail) environment)
      | other => return other
  go .notFound (placesOf environment name)

/-! ### Splitting -/

/-- Why a text cannot be split. -/
inductive SplitFault where
  | expansion (rest : String)
  | ending
  | lastBackslash
  | escape (c : Char)
  | quote

/-- What is said about a text that cannot be split. -/
def SplitFault.message : SplitFault → String
  | expansion rest => "only $\x7bVARNAME\x7d expansion is supported, error at: " ++ rest
  | ending => "'\\c' must not appear in double-quoted -S string"
  | lastBackslash => "invalid backslash at end of string in -S"
  | escape c => "invalid sequence '\\" ++ String.singleton c ++ "' in -S"
  | quote => "no terminating quote in -S string"

/-- How far a text is split. -/
structure Splitting where
  /-- Complete words, the last one first. -/
  words : List String := []
  /-- The word that is read, its last character first, unless there is none yet. -/
  word? : Option (List Char) := none
  quote? : Option Char := none

namespace Splitting

/-- Adds characters to a word. -/
def add (s : Splitting) (cs : List Char) : Splitting :=
  { s with word? := some (cs.reverse ++ s.word?.getD []) }

/-- Ends a word. -/
def close (s : Splitting) : Splitting :=
  match s.word? with
  | some word => { s with words := String.ofList word.reverse :: s.words, word? := none }
  | none => s

/-- The words. -/
def result (s : Splitting) : Except SplitFault (List String) :=
  if s.quote?.isSome then .error .quote else .ok s.close.words.reverse

/-- The name of a variable in braces behind a dollar sign, with what stands behind it. -/
def variableName? (cs : List Char) : Option (String × List Char) :=
  match cs with
  | '\x7b' :: c :: rest =>
    let name := c :: rest.takeWhile fun c => c.isAlphanum || c = '_'
    match rest.drop (name.length - 1) with
    | '\x7d' :: behind =>
      if c.isAlpha || c = '_' then some (String.ofList name, behind) else none
    | _ => none
  | _ => none

/-- Splits a text in words, as they are quoted in it. -/
def all (environment : List (String × String)) :
    (rounds : Nat) → Splitting → List Char → Except SplitFault (List String)
  | 0, s, _ | _, s, [] => s.result
  | rounds + 1, s, c :: cs =>
    let go := all environment rounds
    match c, s.quote? with
    | '\'', some '"' | '"', some '\'' => go (s.add [c]) cs
    | '\'', _ | '"', _ =>
      go { s.add [] with quote? := if s.quote?.isSome then none else some c } cs
    | '\\', some '\'' =>
      match cs with
      | '\\' :: rest => go (s.add ['\\']) rest
      | '\'' :: rest => go (s.add ['\'']) rest
      | _ => go (s.add ['\\']) cs
    | '\\', quote? =>
      match cs with
      | [] => .error .lastBackslash
      | 'c' :: _ => if quote?.isSome then .error .ending else s.result
      | '_' :: rest => if quote?.isSome then go (s.add [' ']) rest else go s.close rest
      | e :: rest =>
        if "\"#$'\\".toList.contains e then go (s.add [e]) rest
        else match [('f', '\x0c'), ('n', '\n'), ('r', '\r'), ('t', '\t'), ('v', '\x0b')].lookup e with
          | some own => go (s.add [own]) rest
          | none => .error (.escape e)
    | '$', some '\'' => go (s.add [c]) cs
    | '$', _ =>
      match variableName? cs with
      | none => .error (.expansion (String.ofList (c :: cs)))
      | some (name, rest) =>
        match environment.lookup name with
        | some value => go (s.add value.toList) rest
        | none => go s rest
    | '#', none => if s.word?.isNone then s.result else go (s.add [c]) cs
    | c, none => if isSpacing c then go s.close cs else go (s.add [c]) cs
    | c, some _ => go (s.add [c]) cs

end Splitting

/-! ### Variables -/

/-- The options of the program that starts another one with other variables. -/
def environmentTable : OptionTable := {
  letters := "iv0 \t\n", valued := "CuS", permutes := false
  names := plainNames [("ignore-environment", "i"), ("debug", "v"), ("null", "0"),
      ("list-signal-handling", "list")] ++
    valuedNames [("chdir", "C"), ("unset", "u"), ("split-string", "S")] ++
    [{ name := "block-signal", key := "block", takes := .perhaps },
      { name := "default-signal", key := "default", takes := .perhaps },
      { name := "ignore-signal", key := "ignore", takes := .perhaps }] }

/-- Ends the program that starts another one since it cannot be told what to do. -/
def misleadLaunch {α : Type} (message : String) (pointsToSplit : Bool) : Work α := do
  Work.warn message
  if pointsToSplit then Work.warn "use -[v]S to pass options in shebang lines"
  Work.pointToHelp
  Work.exit 125

/-- The options and operands of arguments, of which one may be split in several. -/
def launchDirections : (rounds : Nat) → (sofar : List (String × Option String)) → List String →
    Work Directions
  | 0, sofar, args => return { options := sofar, operands := args }
  | _, sofar, [] => return { options := sofar }
  | rounds + 1, sofar, arg :: args => do
    if arg = "--" then return { options := sofar, operands := args }
    match environmentTable.said? arg with
    | none => return { options := sofar, operands := arg :: args }
    | some said =>
      for (key, _) in said.options do
        if key = " " || key = "\t" || key = "\n" then
          misleadLaunch ("invalid option -- '" ++ key ++ "'") true
      if let some fault := said.fault? then misleadLaunch fault false
      let (options, args) ← match said.open?, args with
        | none, args => pure (said.options, args)
        | some (key, _), value :: args => pure (said.options ++ [(key, some value)], args)
        | some (_, fault), [] => misleadLaunch fault false
      match options.getLast? with
      | some ("S", some text) =>
        match Splitting.all (← read).environment (text.length + 1) {} text.toList with
        | .error fault => Work.abandon fault.message 125
        | .ok words =>
          if (sofar ++ options).any (·.1 = "v") then
            let shown := (words.map quotedWord).zipIdx.map fun (word, i) =>
              (if i = 0 then " into:    " else "     &    ") ++ word ++ "\n"
            Work.remark ("split -S:  " ++ quotedWord text ++ "\n" ++ String.join shown)
          launchDirections rounds (sofar ++ options.dropLast) (words ++ args)
      | _ => launchDirections rounds (sofar ++ options) args

/-- Variables of which one has another value; a new one stands at the end. -/
def withVariable (name value : String) :
    (environment : List (String × String)) → List (String × String)
  | [] => [(name, value)]
  | (other, old) :: environment =>
    if other = name then (name, value) :: environment
    else (other, old) :: withVariable name value environment

/-- A variable with its value, if an argument is one. -/
def variableIn? (arg : String) : Option (String × String) :=
  let name := arg.toList.takeWhile (· ≠ '=')
  if name.length = arg.length then none
  else some (String.ofList name, String.ofList (arg.toList.drop (name.length + 1)))

/-- Starts a program with other variables, or prints the variables. -/
def launchWith : Work Unit := do
  let d ← launchDirections (manyRounds) [] (← Work.arguments)
  let explain (text : String) : Work Unit := do
    if d.has "v" then Work.remark (text ++ "\n")
  let (clears, operands) := match d.operands with
    | "-" :: operands => (true, operands)
    | operands => (d.has "i", operands)
  let inherited := (← read).environment
  let mut environment := inherited
  if clears then
    explain "cleaning environ"
    environment := []
  else
    for name in d.values "u" do
      explain ("unset:    " ++ name)
      if name = "" || name.contains '=' then
        Work.abandon ("cannot unset " ++ quotedWord name ++ ": Invalid argument") 125
      environment := environment.filter (·.1 ≠ name)
  let settings := operands.takeWhile fun arg => (variableIn? arg).isSome
  for setting in settings do
    if let some (name, value) := variableIn? setting then
      explain ("setenv:   " ++ setting)
      if name = "" then
        Work.abandon ("cannot set " ++ quotedWord name ++ ": Invalid argument") 125
      environment := withVariable name value environment
  let arguments := operands.drop settings.length
  if d.has "0" && !arguments.isEmpty then
    misleadLaunch "cannot specify --null (-0) with command" false
  if d.has "C" && arguments.isEmpty then
    misleadLaunch "must specify command with --chdir (-C)" false
  match arguments with
  | [] =>
    for (name, value) in environment do
      Work.print (name ++ "=" ++ value ++ if d.has "0" then "\x00" else "\n")
  | name :: _ =>
    if let some path := d.value? "C" then
      explain ("chdir:    " ++ quotedName path)
      if let .error fault ← Work.ask (.changeDirectory path) then
        Work.abandon ("cannot change directory to " ++ quotedName path ++ ": " ++ fault.reason) 125
    explain ("executing: " ++ name)
    for (arg, i) in arguments.zipIdx do
      explain ("   arg[" ++ toString i ++ "]= " ++ quotedWord arg)
    let fault ← becomeNamed arguments environment
    Work.warn (quotedWord name ++ ": " ++ fault.reason)
    let isMissing := fault = .notFound
    if isMissing && name.any isSpacing then
      Work.warn "use -[v]S to pass options in shebang lines"
    Work.exit (if isMissing then 127 else 126)

end Buildwright.Sandbox.Program
