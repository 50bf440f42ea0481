import Buildwright.Sandbox.Condition
import Buildwright.Sandbox.Format
import Buildwright.Sandbox.Shell.Builtin.Signal

/-!
# Reports and places

The built-in statements that print something, and those about directories, permissions and names.
-/

namespace Buildwright.Sandbox.Shell

/-! ### Printing -/

/-- Who prints in a shell. -/
def State.printer (s : State) : Printer :=
  match s.dialect with
  | .plain => .plainShell
  | .extended => .extendedShell

/-- Prints arguments. -/
def echo (args : List String) : Sh Nat := do
  let s ← get
  print (echoText s.printer args)
  return 0

/-- Prints by a format, which is no option unless two hyphens stand before it. -/
def printFormat (args : List String) : Sh Nat := do
  let s ← get
  let extended := s.isExtended
  let (target?, args) := match extended, args with
    | true, "-v" :: name :: args => (some name, args)
    | _, args => (none, args)
  let isEnded := args.head? = some "--"
  match if isEnded then args.tail else args with
  | [] =>
    if extended then
      remark "printf: usage: printf [-v var] format [arguments]\n"
      return 2
    complain "usage: printf format [arg ...]"
    return 2
  | format :: args =>
    let option? := match format.toList with
      | '-' :: letter :: _ => if isEnded then none else some letter
      | _ => none
    if let some letter := option? then
      refuseLetter letter "printf [-v var] format [arguments]"
    let printed := formatted s.printer shieldedText format args
    for message in printed.messages ++ printed.misread?.toList do complain message
    match target? with
    | some name => storeText name printed.text
    | none => print printed.text
    return if printed.misread?.isSome && !extended then 2 else if printed.failed then 1 else 0

/-- Asks a condition. -/
def testCondition (name : String) (args : List String) : Sh Nat := do
  let s ← get
  let closes (arg : String) : Bool := arg = "]" || (!s.isExtended && arg.startsWith "]")
  let isClosed := name ≠ "[" || args.getLast?.any closes
  let args := if name = "[" then args.dropLast else args
  let answer? (letter : Char) (operand : String) : Option Bool :=
    if s.isExtended && letter = 'v' then
      match parameterNamed operand with
      | .element name [.text index _] => some (((s.value name).elements.lookup index).isSome)
      | _ => some ((s.value operand).elements ≠ [])
    else if s.isExtended && letter = 'o' then
      some ((extendedOptions.lookup operand).any s.isOn)
    else none
  let style : ConditionStyle := { printer := s.printer, answer? }
  let missing := if s.isExtended then "missing \x60]'" else "missing ]"
  let answer ← if isClosed then Sh.lift (style.holds args) else pure (.error missing)
  match answer with
  | .ok holds => return if holds then 0 else 1
  | .error message =>
    complain message
    return 2

/-! ### Directories -/

/-- A path without dots, seen from a directory. Two slashes at the start stay if there are no more.
-/
def plainPath (directory path : String) : String :=
  let base := if path.startsWith "/" then path else directory
  let root := if base.startsWith "//" && !base.startsWith "///" then "//" else "/"
  let start := if path.startsWith "/" then [] else (directory.splitOn "/").filter (· ≠ "")
  let names := (path.splitOn "/").foldl (fun (names : List String) name =>
    if name = "" || name = "." then names
    else if name = ".." then names.tail
    else name :: names) start.reverse
  root ++ "/".intercalate names.reverse

/-- The directory without links. -/
def physicalDirectory : Sh String := do
  match ← Sh.ask .directory with
  | .ok path => return path
  | .error _ => return (← get).directory

/-- Notes that the script is in another directory. -/
def noteDirectory (path : String) : Sh Unit := do
  let s ← get
  storeText "OLDPWD" s.directory
  storeText "PWD" path
  modify fun s =>
    let s := s.withVariable "OLDPWD" { s.variable "OLDPWD" with exported := true }
    let s := s.withVariable "PWD" { s.variable "PWD" with exported := true }
    { s with directory := path }

/-- Goes to a directory, if that is possible. -/
def enterDirectory (physical : Bool) (path : String) : Sh (Except HostFault String) := do
  let s ← get
  let wanted := if physical then path else plainPath s.directory path
  match ← Sh.ask (.changeDirectory wanted) with
  | .ok _ =>
    let found ← if physical then physicalDirectory else pure wanted
    noteDirectory found
    return .ok found
  | .error fault =>
    if physical || fault = .notFound then return .error fault
    return .error fault

/-- The directories in which a relative one is looked for. -/
def State.searchedDirectories (s : State) (path : String) : List String :=
  let isRelative := !path.startsWith "/" && path ≠ "." && path ≠ ".." && !path.startsWith "./" &&
    !path.startsWith "../"
  match s.text? "CDPATH" with
  | some search => if isRelative && search ≠ "" then search.splitOn ":" else []
  | none => []

/-- Goes to the first directory that is there. -/
def enterSearched (physical : Bool) (path : String) : (directories : List String) →
    Sh (Except HostFault (String × Bool))
  | [] => return (← enterDirectory physical path).map (·, false)
  | directory :: directories => do
    let front := if directory = "" then "" else if directory.endsWith "/" then directory
      else directory ++ "/"
    match ← enterDirectory physical (front ++ path) with
    | .ok found => return .ok (found, front ≠ "")
    | .error _ => enterSearched physical path directories

/-- Goes to another directory. -/
def changeDirectory (args : List String) : Sh Nat := do
  let s ← get
  let (found, operands) ← optionsOf (if s.isExtended then "LPe@" else "LP") ""
    "cd [-L|[-P [-e]] [-@]] [dir]" args
  let physical := (found.getLast?).any (·.1 = 'P')
  if s.isExtended && 1 < operands.length then
    complain "too many arguments"
    return 1
  let back := operands.head? = some "-"
  let target? := if back then s.text? "OLDPWD" else operands.head?.or (s.text? "HOME")
  if s.isExtended && target?.isNone then
    complain (if back then "OLDPWD not set" else "HOME not set")
    return 1
  let target := target?.getD ""
  if target = "" then return 0
  match ← enterSearched physical target (s.searchedDirectories target) with
  | .error fault =>
    if s.isExtended then
      complain (target ++ ": " ++ fault.reason)
      return 1
    fail ("can't cd to " ++ target)
  | .ok (path, tells) =>
    if back || tells then print (path ++ "\n")
    return 0

/-- Prints the directory. -/
def printDirectory (args : List String) : Sh Nat := do
  let (found, _) ← optionsOf "LP" "" "pwd [-LP]" args
  let physical := (found.getLast?).any (·.1 = 'P')
  let path ← if physical then physicalDirectory else pure (← get).directory
  print (path ++ "\n")
  return 0

/-! ### Permissions -/

/-- Permission bits in letters. -/
def permissionLetters (bits : Nat) : String :=
  String.ofList ((if bits &&& 4 ≠ 0 then ['r'] else []) ++ (if bits &&& 2 ≠ 0 then ['w'] else []) ++
    if bits &&& 1 ≠ 0 then ['x'] else [])

/-- The permission bits of letters. -/
def permissionBits? : List Char → Option Nat
  | [] => some 0
  | 'r' :: cs => (permissionBits? cs).map (4 ||| ·)
  | 'w' :: cs => (permissionBits? cs).map (2 ||| ·)
  | 'x' :: cs => (permissionBits? cs).map (1 ||| ·)
  | _ => none

/-- Permission bits after a change in letters, as in `g+w`. -/
def changedBits? (bits : Nat) (clause : String) : Option Nat :=
  let cs := clause.toList
  let who := cs.takeWhile "ugoa".toList.contains
  let meant (c : Char) : Bool := who.isEmpty || who.contains c || who.contains 'a'
  let spread (n : Nat) : Nat := (if meant 'u' then n * 64 else 0) ||| (if meant 'g' then n * 8 else 0) |||
    if meant 'o' then n else 0
  match cs.drop who.length with
  | '+' :: letters => (permissionBits? letters).map fun n => bits ||| spread n
  | '-' :: letters => (permissionBits? letters).map fun n => bits - (bits &&& spread n)
  | '=' :: letters => (permissionBits? letters).map fun n => (bits - (bits &&& spread 7)) ||| spread n
  | _ => none

/-- A number in so many octal digits. -/
def octalText (places n : Nat) : String :=
  let digits := Nat.toDigits 8 n
  String.ofList (List.replicate (places - digits.length) '0' ++ digits)

/-- Prints or sets which permissions new files do not get. -/
def setPermissionMask (args : List String) : Sh Nat := do
  let (found, operands) ← optionsOf "Sp" "" "umask [-p] [-S] [mode]" args
  let mask ← Sh.ask (.setMask none)
  match operands with
  | [] =>
    let granted := 0o777 - (mask &&& 0o777)
    if hasLetter found 'S' then
      print ("u=" ++ permissionLetters (granted / 64) ++ ",g=" ++ permissionLetters (granted / 8 % 8) ++
        ",o=" ++ permissionLetters (granted % 8) ++ "\n")
    else print (octalText 4 mask ++ "\n")
    return 0
  | text :: _ =>
    if text.toList.head?.any Char.isDigit then
      if text.toList.all fun c => '0' ≤ c && c ≤ '7' then
        let _ ← Sh.ask (.setMask (some (numberOf 8 text.toList &&& 0o777)))
        return 0
      if ← isExtended then
        complain (text ++ ": octal number out of range")
        return 1
      fail ("Illegal number: " ++ text)
    let granted := 0o777 - (mask &&& 0o777)
    let changed? := (text.splitOn ",").foldl (fun (bits? : Option Nat) clause =>
      bits?.bind fun bits => changedBits? bits clause) (some granted)
    match changed? with
    | some bits =>
      let _ ← Sh.ask (.setMask (some (0o777 - bits)))
      return 0
    | none =>
      if ← isExtended then
        complain ("\x60" ++ text ++ "': invalid symbolic mode operator")
        return 1
      fail ("Illegal mode: " ++ text)

/-- Prints limits, of which there are none. -/
def printLimit (args : List String) : Sh Nat := do
  let setting := args.any fun arg => !arg.startsWith "-"
  if !setting then
    if args.contains "-n" then print "1048576\n"
    else if args.contains "-s" then print "8192\n"
    else print "unlimited\n"
  return 0

/-! ### Aliases -/

/-- Defines or prints aliases. -/
def setAliases : (args : List String) → Sh Nat
  | [] => return 0
  | arg :: args => do
    let (name, value?) := splitSetting arg
    match value? with
    | some value =>
      modify fun s => { s with aliases := (name, value) :: s.aliases.filter (·.1 ≠ name) }
      setAliases args
    | none =>
      let s ← get
      match s.aliases.lookup name with
      | some value =>
        let front := if s.isExtended then "alias " else ""
        let shown := if s.isExtended then singlyQuoted value else quotedText value
        print (front ++ name ++ "=" ++ shown ++ "\n")
        setAliases args
      | none =>
        if s.isExtended then complain (name ++ ": not found")
        else remark ("alias: " ++ name ++ " not found\n")
        let _ ← setAliases args
        return 1

/-- Defines or prints aliases; all of them are printed without arguments. -/
def defineAliases (args : List String) : Sh Nat := do
  let args := args.filter fun arg => arg ≠ "-p" && arg ≠ "--"
  if !args.isEmpty then return ← setAliases args
  let s ← get
  let chain (name : String) : Nat := plainChain name
  let sorted := if s.isExtended then s.aliases.mergeSort fun a b => !(b.1 < a.1)
    else s.aliases.mergeSort fun a b => Nat.ble (chain a.1) (chain b.1)
  for (name, value) in sorted do
    if s.isExtended then print ("alias " ++ name ++ "=" ++ singlyQuoted value ++ "\n")
    else print (name ++ "=" ++ quotedText value ++ "\n")
  return 0

/-- Removes aliases. -/
def unalias (args : List String) : Sh Nat := do
  let (found, names) ← optionsOf "a" "" "unalias [-a] name [name ...]" args
  if hasLetter found 'a' then
    modify fun s => { s with aliases := [] }
    return 0
  let mut code := 0
  for name in names do
    let s ← get
    if (s.aliases.lookup name).isNone then
      if s.isExtended then complain (name ++ ": not found")
      else remark ("unalias: " ++ name ++ " not found\n")
      code := 1
    set { s with aliases := s.aliases.filter (·.1 ≠ name) }
  return code

/-! ### Programs by their names -/

/-- The paths that a program may have. -/
def searchedPaths (search name : String) : List String :=
  (search.splitOn ":").map fun directory =>
    if directory = "" then name else directory ++ "/" ++ name

/-- Looks for a program along paths. -/
def findProgram : (paths : List String) → HostFault → Sh (Except HostFault String)
  | [], fault => return .error fault
  | path :: paths, fault => do
    match ← Sh.ask (.status path true) with
    | .error .notFound | .error .notDirectory => findProgram paths fault
    | .error other => findProgram paths other
    | .ok file =>
      if file.kind = .regular && file.permits .pass then return .ok path
      else findProgram paths .permissionDenied

/-- Where programs are looked for if nothing is said about it. -/
def standardSearch : String := "/usr/local/sbin:/usr/local/bin:/usr/sbin:/usr/bin:/sbin:/bin"

/-- The path of a program that is to be run under a name. -/
def programPath (name : String) : Sh (Except HostFault String) := do
  let s ← get
  if name.contains '/' then return .ok name
  match s.hashed.lookup name with
  | some path => return .ok path
  | none =>
    match s.text? "PATH" with
    | none => return .error .notFound
    | some search => findProgram (searchedPaths search name) .notFound

/-- The names of the built-in statements of the plain shell that are not special. -/
def plainBuiltins : List String :=
  ["[", "alias", "bg", "cd", "chdir", "command", "echo", "false", "fg", "getopts", "hash", "jobs",
    "kill", "printf", "pwd", "read", "test", "true", "type", "ulimit", "umask", "unalias", "wait"]

/-- The names of the built-in statements of the extended shell. -/
def extendedBuiltins : List String :=
  [".", ":", "[", "alias", "bg", "break", "builtin", "cd", "command", "continue", "disown", "echo",
    "eval", "exec", "exit", "export", "false", "fg", "getopts", "hash", "jobs", "kill", "local",
    "printf", "pwd", "read", "readonly", "return", "set", "shift", "source", "test", "times", "trap",
    "true", "type", "ulimit", "umask", "unalias", "unset", "wait"]

/-- Whether the shell itself does what a name says. -/
def State.isBuiltin (s : State) (name : String) : Bool :=
  match s.dialect with
  | .plain => specialNames.contains name || plainBuiltins.contains name
  | .extended => extendedBuiltins.contains name

/-- Whether a name is a word of the grammar. -/
def State.isKeyword (s : State) (name : String) : Bool :=
  (reservedWords s.dialect).contains name ||
    (s.isExtended && ["in", "time", "coproc", "]]"].contains name)

/-- Says what a name means; the result says whether it means something. -/
def describe (verbose : Bool) (name : String) : Sh Bool := do
  let s ← get
  let tell (short long : String) : Sh Bool := do
    print ((if verbose then name ++ long else short) ++ "\n")
    return true
  if s.isKeyword name then tell name " is a shell keyword"
  else if let some value := s.aliases.lookup name then
    if s.isExtended then
      tell ("alias " ++ name ++ "=" ++ singlyQuoted value) (" is aliased to \x60" ++ value ++ "'")
    else tell ("alias " ++ name ++ "=" ++ quotedText value) (" is an alias for " ++ value)
  else if s.functions.contains name then
    if s.isExtended then tell name " is a function" else tell name " is a shell function"
  else if s.isBuiltin name then
    let isSpecial := !s.isExtended && specialNames.contains name
    tell name (if isSpecial then " is a special shell builtin" else " is a shell builtin")
  else
    let isHashed := (s.hashed.lookup name).isSome
    match ← programPath name with
    | .ok path =>
      if name.contains '/' then
        match ← Sh.ask (.status path true) with
        | .ok file =>
          if !file.permits .pass || file.kind = .directory then return false
        | .error _ => return false
      if s.isExtended then
        tell path (if isHashed then " is hashed (" ++ path ++ ")" else " is " ++ path)
      else tell path ((if isHashed then " is a tracked alias for " else " is ") ++ path)
    | .error _ => return false

/-- Says what names mean. -/
def describeAll (names : List String) : Sh Nat := do
  let mut code := 0
  for name in names do
    if !(← describe true name) then
      if ← isExtended then
        complain (name ++ ": not found")
        code := 1
      else
        print (name ++ ": not found\n")
        code := 127
  return code

/-- Remembers where programs are. -/
def hashPrograms (args : List String) : Sh Nat := do
  let (found, names) ← optionsOf "rvlt" "pd" "hash [-lr] [-p pathname] [-dt] [name ...]" args
  if hasLetter found 'r' then modify fun s => { s with hashed := [] }
  if names.isEmpty && found.isEmpty then
    for (_, path) in (← get).hashed.reverse do print (path ++ "\n")
    return 0
  let mut code := 0
  for name in names do
    let s ← get
    if !s.isBuiltin name && !s.functions.contains name then
      match ← programPath name with
      | .ok path => modify fun s => { s with hashed := (name, path) :: s.hashed.filter (·.1 ≠ name) }
      | .error _ =>
        complain (name ++ ": not found")
        code := 1
  return code

end Buildwright.Sandbox.Shell
