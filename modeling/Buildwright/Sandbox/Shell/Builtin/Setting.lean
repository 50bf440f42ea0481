import Buildwright.Sandbox.Shell.Script

/-!
# Settings

The built-in statements that change what a script knows: its variables, options and arguments. They
get their values from the statement itself, from what there is to read, or from the arguments among
which options are looked for.
-/

namespace Buildwright.Sandbox.Shell

/-! ### Arguments of built-in statements -/

/-- Stops since a built-in statement was told what it does not know. -/
def refuseLetter {α : Type} (letter : Char) (usage : String) : Sh α := do
  if ← isExtended then
    let label := (← get).label
    complain ("-" ++ String.singleton letter ++ ": invalid option")
    remark (label ++ ": usage: " ++ usage ++ "\n")
    setStatus 2
    throw .failed
  else fail ("Illegal option -" ++ String.singleton letter)

/-- Takes letters of options; `valued` are those with a value. -/
def takeLetters (plain valued usage : String) : (rounds : Nat) → List Char → List String →
    Sh (List (Char × String) × List String)
  | 0, _, args => return ([], args)
  | rounds + 1, letter :: letters, args => do
    if valued.toList.contains letter then
      match letters, args with
      | [], [] =>
        if ← isExtended then
          complain ("-" ++ String.singleton letter ++ ": option requires an argument")
          setStatus 2
          throw .failed
        else fail ("No arg for -" ++ String.singleton letter ++ " option")
      | [], value :: args =>
        let (found, rest) ← takeLetters plain valued usage rounds [] args
        return ((letter, value) :: found, rest)
      | letters, args =>
        let (found, rest) ← takeLetters plain valued usage rounds [] args
        return ((letter, String.ofList letters) :: found, rest)
    else if plain.toList.contains letter then
      let (found, rest) ← takeLetters plain valued usage rounds letters args
      return ((letter, "") :: found, rest)
    else refuseLetter letter usage
  | rounds + 1, [], arg :: args => do
    match arg.toList with
    | ['-', '-'] => return ([], args)
    | '-' :: letter :: letters => takeLetters plain valued usage rounds (letter :: letters) args
    | _ => return ([], arg :: args)
  | _, [], [] => return ([], [])

/-- The options at the front of some arguments, and the arguments behind them. -/
def optionsOf (plain valued usage : String) (args : List String) :
    Sh (List (Char × String) × List String) :=
  let size := args.foldl (fun n arg => n + arg.length + 1) 1
  takeLetters plain valued usage size [] args

/-- Whether a letter is among options. -/
def hasLetter (found : List (Char × String)) (letter : Char) : Bool := found.any (·.1 = letter)

/-- The greatest number that built-in statements take. -/
def greatestCount : Int := 2147483647

/-- A number that is an argument. -/
def requireNumber (text : String) : Sh Nat := do
  match decimalInteger? text with
  | some n => if 0 ≤ n && n ≤ greatestCount then return n.toNat else fail ("Illegal number: " ++ text)
  | none => fail ("Illegal number: " ++ text)

/-! ### Variables -/

/-- The name and the value of an argument such as `a=b`. -/
def splitSetting (text : String) : String × Option String :=
  let name := text.toList.takeWhile (· ≠ '=')
  match text.toList.drop name.length with
  | [] => (text, none)
  | _ :: value => (String.ofList name, some (String.ofList value))

/-- Prints variables of the plain shell, by name. -/
def printVariables (front : String) (isAsked : Variable → Bool) : Sh Nat := do
  let s ← get
  let asked := s.bindings.toList.filter fun (_, v) => isAsked v
  for (name, v) in asked.mergeSort fun a b => !(b.1 < a.1) do
    let value := (v.value.text?.map fun value => "=" ++ quotedText value).getD ""
    print (front ++ name ++ value ++ "\n")
  return 0

/-- Changes variables, which perhaps get values first. -/
def markVariables (change : Variable → Variable) : (args : List String) → Sh Nat
  | [] => return 0
  | arg :: args => do
    let (name, value?) := splitSetting arg
    if !isName name then
      if ← isExtended then
        complain ("\x60" ++ arg ++ "': not a valid identifier")
        let _ ← markVariables change args
        return 1
      else fail (name ++ ": bad variable name")
    if let some value := value? then storeText name value
    modify fun s => s.withVariable name (change (s.variable name))
    markVariables change args

/-- Tells other programs about variables. -/
def exportVariables (args : List String) : Sh Nat := do
  let (found, names) ← optionsOf "pfn" "" "export [-fn] [name[=value] ...] or export -p" args
  if hasLetter found 'p' || names.isEmpty then printVariables "export " (·.exported)
  else if hasLetter found 'n' then markVariables (fun v => { v with exported := false }) names
  else markVariables (fun v => { v with exported := true }) names

/-- Protects variables from changes. -/
def protectVariables (args : List String) : Sh Nat := do
  let (found, names) ← optionsOf "pfaA" "" "readonly [-aAf] [name[=value] ...] or readonly -p" args
  if hasLetter found 'p' || names.isEmpty then printVariables "readonly " (·.readOnly)
  else markVariables (fun v => { v with readOnly := true }) names

/-- Hides variables until the function ends. -/
def hideVariables (args : List String) : Sh Nat := do
  let (_, names) ← optionsOf "" "" "local [option] name[=value] ..." args
  if (← get).frames.isEmpty || (← get).running.isEmpty then fail "not in a function"
  for arg in names do
    let (name, value?) := splitSetting arg
    if !isName name then fail (name ++ ": bad variable name")
    modify (·.hiding name)
    if let some value := value? then storeText name value
  return 0

/-- Removes variables or functions. -/
def unsetNames (args : List String) : Sh Nat := do
  let (found, names) ← optionsOf "vfn" "" "unset [-f] [-v] [-n] [name ...]" args
  let extended ← isExtended
  let onlyFunctions := hasLetter found 'f'
  for name in names do
    let s ← get
    if onlyFunctions then set { s with functions := s.functions.erase name }
    else match parameterNamed name with
      | .element row index =>
        let index ← wordText { capture := fun _ => pure "", channel := fun _ _ => pure "" } index
        let values := (s.variable row).value.asRow
        match rowPosition? values (← evaluateText index) with
        | some i => store row (.row (values.erase i))
        | none => pure ()
      | _ =>
        if !isName name && !extended then fail (name ++ ": bad variable name")
        if extended && !hasLetter found 'v' && !s.bindings.contains name then
          set { s with functions := s.functions.erase name }
        else unsetVariable name
  return 0

/-! ### Options and arguments -/

/-- The options of the plain shell with their letters. -/
def plainOptions : List (String × String) := [
  ("errexit", "e"), ("noglob", "f"), ("ignoreeof", "I"), ("interactive", "i"), ("monitor", "m"),
  ("noexec", "n"), ("stdin", "s"), ("xtrace", "x"), ("verbose", "v"), ("vi", "V"), ("emacs", "E"),
  ("noclobber", "C"), ("allexport", "a"), ("notify", "b"), ("nounset", "u"), ("nolog", "nolog"),
  ("debug", "debug")]

/-- The options of the extended shell with their letters. -/
def extendedOptions : List (String × String) := [
  ("allexport", "a"), ("braceexpand", "B"), ("emacs", "emacs"), ("errexit", "e"),
  ("errtrace", "E"), ("functrace", "T"), ("hashall", "h"), ("histexpand", "H"),
  ("history", "history"), ("ignoreeof", "ignoreeof"), ("interactive-comments", "comments"),
  ("keyword", "k"), ("monitor", "m"), ("noclobber", "C"), ("noexec", "n"), ("noglob", "f"),
  ("nolog", "nolog"), ("notify", "b"), ("nounset", "u"), ("onecmd", "t"), ("physical", "P"),
  ("pipefail", "pipefail"), ("posix", "posix"), ("privileged", "p"), ("verbose", "v"), ("vi", "vi"),
  ("xtrace", "x")]

/-- The options of a shell with their letters. -/
def optionsIn : Dialect → List (String × String)
  | .plain => plainOptions
  | .extended => extendedOptions

/-- Sets or clears an option. -/
def setOption (on : Bool) (option : String) : Sh Unit := modify fun s =>
  let others := s.options.filter (· ≠ option)
  { s with options := if on then option :: others else others }

/-- A text with blanks behind it up to a width. -/
def padRight (width : Nat) (text : String) : String :=
  text ++ String.ofList (List.replicate (width - text.length) ' ')

/-- Prints all options and whether they are on, or how to set them so. -/
def printOptions (asStatements : Bool) : Sh Unit := do
  let s ← get
  if !asStatements && !s.isExtended then print "Current option settings\n"
  for (name, letter) in optionsIn s.dialect do
    let on := s.isOn letter
    if asStatements then print ("set " ++ (if on then "-o " else "+o ") ++ name ++ "\n")
    else if s.isExtended then print (padRight 15 name ++ "\t" ++ (if on then "on" else "off") ++ "\n")
    else print (padRight 16 name ++ (if on then "on" else "off") ++ "\n")

/-- Sets or clears options by their letters; what stands behind them is left. -/
def setLetters (on : Bool) : (letters : List Char) → (args : List String) → Sh (List String)
  | [], args => return args
  | 'o' :: letters, name :: args => do
    let s ← get
    match (optionsIn s.dialect).lookup name with
    | some letter =>
      setOption on letter
      setLetters on letters args
    | none =>
      if s.isExtended then
        complain (name ++ ": invalid option name")
        setStatus 2
        throw .failed
      else fail ("Illegal option " ++ (if on then "-" else "+") ++ "o " ++ name)
  | 'o' :: letters, [] => do
    printOptions (!on)
    setLetters on letters []
  | letter :: letters, args => do
    let s ← get
    let sign := if on then "-" else "+"
    if !(optionsIn s.dialect).any fun option => option.2 = String.singleton letter then
      if s.isExtended then
        complain (sign ++ String.singleton letter ++ ": invalid option")
        remark ("set: usage: set [-abefhkmnptuvxBCEHPT] [-o option-name] [--] [-] [arg ...]\n")
        setStatus 2
        throw .failed
      fail ("Illegal option " ++ sign ++ String.singleton letter)
    setOption on (String.singleton letter)
    setLetters on letters args

/-- Sets options, and arguments where there are any; at most `rounds` arguments are options. -/
def setArguments : (rounds : Nat) → (args : List String) → Sh Nat
  | 0, _ | _, [] => return 0
  | rounds + 1, arg :: args => do
    match arg.toList with
    | ['-', '-'] =>
      modify fun s => { s with arguments := args, lettersSeen := 0, optionIndex := 1 }
      return 0
    | ['-'] =>
      setOption false "x"
      setOption false "v"
      if !args.isEmpty then modify fun s => { s with arguments := args }
      return 0
    | '-' :: letters => do setArguments rounds (← setLetters true letters args)
    | '+' :: letter :: letters => do
      setArguments rounds (← setLetters false (letter :: letters) args)
    | _ =>
      modify fun s => { s with
        arguments := arg :: args, lettersSeen := 0, optionIndex := 1 }
      return 0

/-- Drops arguments. -/
def shiftArguments (args : List String) : Sh Nat := do
  let extended ← isExtended
  let count ← match args with
    | [] => pure 1
    | text :: _ =>
      if extended then
        match decimalInteger? text with
        | some n =>
          if n < 0 then
            complain (text ++ ": shift count out of range")
            return 1
          pure n.toNat
        | none =>
          complain (text ++ ": numeric argument required")
          return 1
      else requireNumber text
  let s ← get
  if s.arguments.length < count then
    if extended then return 1 else fail "can't shift that many"
  set { s with arguments := s.arguments.drop count }
  return 0

/-! ### Reading -/

/-- Reads one character. -/
def readCharacter (number : Nat) : Sh (Option Char) := do
  match ← Sh.ask (.read number 1) with
  | .ok bytes => return if bytes.isEmpty then none else (octetText bytes).toList.head?
  | .error _ => return none

/-- How a line is read. -/
structure LineUse where
  /-- Whether backslashes stand for themselves. -/
  raw : Bool := false
  delimiter : Char := '\n'
  /-- The greatest number of characters. -/
  most? : Option Nat := none
  number : Nat := 0

/-- Reads a line, each character with whether a backslash stands before it, the last one first, and
whether the line ends. -/
def readCharacters (use : LineUse) : (rounds : Nat) → (line : List (Char × Bool)) →
    Sh (List (Char × Bool) × Bool)
  | 0, line => return (line, false)
  | rounds + 1, line => do
    if use.most? = some line.length then return (line, true)
    match ← readCharacter use.number with
    | none => return (line, false)
    | some c =>
      if c = use.delimiter then return (line, true)
      else if c = '\x00' then readCharacters use rounds line
      else if c = '\\' && !use.raw then
        match ← readCharacter use.number with
        | none => return (line, false)
        | some d => readCharacters use rounds (if d = '\n' then line else (d, true) :: line)
      else readCharacters use rounds ((c, false) :: line)

/-- Whether a character of a line separates fields. -/
def isSeparator (separators : List Char) (c : Char × Bool) : Bool :=
  !c.2 && separators.contains c.1

/-- Whether a character of a line is a blank that separates fields. -/
def isSeparatingSpace (separators : List Char) (c : Char × Bool) : Bool :=
  isSeparator separators c && isSpace c.1

/-- A field at the front of a line, and what is behind its separator. -/
def takeField (separators : List Char) (line : List (Char × Bool)) :
    List (Char × Bool) × List (Char × Bool) :=
  let field := line.takeWhile (!isSeparator separators ·)
  let rest := (line.drop field.length).dropWhile (isSeparatingSpace separators)
  let rest := match rest with
    | c :: others =>
      if isSeparator separators c then others.dropWhile (isSeparatingSpace separators) else rest
    | [] => []
  (field, rest)

/-- The fields of a line for so many names, of which the last gets all that is left. -/
def fieldsFor (separators : List Char) : (count : Nat) → (line : List (Char × Bool)) → List String
  | 0, _ => []
  | 1, line =>
    let (field, rest) := takeField separators line
    let whole := if rest.isEmpty then field
      else ((line.reverse.dropWhile (isSeparatingSpace separators)).reverse)
    [String.ofList (whole.map Prod.fst)]
  | count + 2, line =>
    let (field, rest) := takeField separators line
    String.ofList (field.map Prod.fst) :: fieldsFor separators (count + 1) rest

/-- All fields of a line. -/
def allFields (separators : List Char) : (rounds : Nat) → (line : List (Char × Bool)) → List String
  | 0, _ | _, [] => []
  | rounds + 1, line =>
    let (field, rest) := takeField separators line
    String.ofList (field.map Prod.fst) :: allFields separators rounds rest

/-- Gives variables values one after another. -/
def storeAll : (names values : List String) → Sh Unit
  | name :: names, value :: values => do
    storeText name value
    storeAll names values
  | _, _ => pure ()

/-- Reads a line into variables. -/
def readLine (args : List String) : Sh Nat := do
  let extended ← isExtended
  let (found, names) ← if extended then
      optionsOf "resE" "adinNptu" ("read [-ers] [-a array] [-d delim] [-i text] [-n nchars] " ++
        "[-N nchars] [-p prompt] [-t timeout] [-u fd] [name ...]") args
    else optionsOf "r" "p" "" args
  if names.isEmpty && !extended then fail "arg count"
  for name in names do
    if !isName name then
      if extended then
        complain ("\x60" ++ name ++ "': not a valid identifier")
        return 1
      else fail (name ++ ": bad variable name")
  let value? (letter : Char) : Option String := (found.find? (·.1 = letter)).map Prod.snd
  let use : LineUse := {
    raw := hasLetter found 'r'
    delimiter := ((value? 'd').map fun t => t.toList.headD '\x00').getD '\n'
    most? := ((value? 'n').or (value? 'N')).bind naturalOf?
    number := ((value? 'u').bind naturalOf?).getD 0 }
  let (line, isWhole) ← readCharacters use manyRounds []
  let s ← get
  let trimmed := line.reverse.dropWhile (isSeparatingSpace s.separators)
  match value? 'a' with
  | some row =>
    let values := allFields s.separators (line.length + 1) trimmed
    store row (.row (Std.TreeMap.ofList ((values.zipIdx).map fun (t, i) => (i, t))))
  | none =>
    if names.isEmpty || hasLetter found 'N' then
      storeText (names.headD "REPLY") (String.ofList (line.reverse.map Prod.fst))
    else storeAll names (fieldsFor s.separators names.length trimmed)
  return if isWhole then 0 else 1

/-! ### Looking for options -/

/-- Whether an option takes an argument, by the text with the letters of the options; behind the
letter of one that does stands a colon. -/
def takesArgument? (option : Char) : (letters : List Char) → Option Bool
  | [] => none
  | letter :: ':' :: letters =>
    if letter = option then some true else takesArgument? option letters
  | letter :: letters => if letter = option then some false else takesArgument? option letters

/-- Says that an option is not as it should be. It is told to a script that asks for that, and
printed otherwise. -/
def refuseOption (silent : Bool) (option : Char) (result plain extended : String) : Sh String := do
  if silent then
    storeText "OPTARG" (String.singleton option)
    return result
  let s ← get
  if s.isExtended then
    if s.text? "OPTERR" ≠ some "0" then remark (s.name ++ ": " ++ extended ++ "\n")
  else remark (plain ++ "\n")
  modify (·.withoutVariable "OPTARG")
  return "?"

/-- Takes an option, of which `behind` is left of the argument and `next?` is the next argument.
Gives its name and whether the next argument was taken too. -/
def takeOption (letters : List Char) (option : Char) (behind : List Char) (next? : Option String) :
    Sh (String × Bool) := do
  let silent := letters.head? = some ':'
  let letter := String.singleton option
  match if option = ':' then none else takesArgument? option letters with
  | none =>
    let result ← refuseOption silent option "?" ("Illegal option -" ++ letter)
      ("illegal option -- " ++ letter)
    return (result, false)
  | some false =>
    if ← isExtended then modify (·.withoutVariable "OPTARG") else storeText "OPTARG" ""
    return (letter, false)
  | some true =>
    match behind, next? with
    | [], none =>
      return (← refuseOption silent option ":" ("No arg for -" ++ letter ++ " option")
        ("option requires an argument -- " ++ letter), false)
    | [], some argument =>
      storeText "OPTARG" argument
      return (letter, true)
    | behind, _ =>
      storeText "OPTARG" (String.ofList behind)
      return (letter, false)

/-- Where the next option stands among arguments: the letters from it on, the number of their
argument, and whether they begin it. There are none where the options end. -/
def optionSpot (extended : Bool) (given : List String) (index seen : Nat) : List Char × Nat × Bool :=
  let letters (index : Nat) : List Char := (given[index - 1]?.getD "").toList
  let begun := if extended then index else index - 1
  let rest := if 0 < seen && 0 < begun then (letters begun).drop (seen + 1) else []
  if rest ≠ [] then (rest, begun, false)
  else match letters index with
    | '-' :: c :: cs => (c :: cs, index, true)
    | _ => ([], index, true)

/-- Takes the option that stands at a spot among arguments, and tells it with the number of the
argument where the search goes on. -/
def takeAt (s : State) (letters : String) (given : List String) (found : List Char)
    (place : Nat) (isFirst : Bool) (tell : Nat → String → Sh Unit) : Sh Nat := do
  match found with
  | [] => return 1
  | option :: behind =>
    let (result, further) ← takeOption letters.toList option behind given[place]?
    let takesRest := takesArgument? option letters.toList = some true
    let isDone := behind.isEmpty || takesRest
    let seen := if isDone then 0 else if isFirst then 1 else s.lettersSeen + 1
    tell (if further then place + 2 else if isDone || !s.isExtended then place + 1 else place) result
    modify fun s => { s with lettersSeen := seen }
    return 0

/-- Gives a variable the next option among arguments. The number of the argument where the search
goes on is told in a variable: one dialect counts an argument when its last letter is taken, the
other one when its first letter is. -/
def nextOption (args : List String) : Sh Nat := do
  match args with
  | letters :: name :: given =>
    let s ← get
    let extended := s.isExtended
    let given := if given.isEmpty then s.arguments else given
    let index := if extended then max 1 (((s.text? "OPTIND").bind naturalOf?).getD 1)
      else s.optionIndex
    let tell (index : Nat) (result : String) : Sh Unit := do
      storeText "OPTIND" (toString index)
      if isName name then storeText name result
      else if extended then complain ("\x60" ++ name ++ "': not a valid identifier")
      else fail (name ++ ": bad variable name")
    let (found, place, isFirst) := optionSpot extended given index s.lettersSeen
    let isDash := found = ['-'] && isFirst
    let code ← if found.isEmpty || isDash then do
        if extended then modify (·.withoutVariable "OPTARG")
        let finish := if isDash then index + 1 else index
        tell (if extended then min finish (given.length + 1) else finish) "?"
        pure 1
      else takeAt s letters given found place isFirst tell
    return if isName name then code else 1
  | _ =>
    if ← isExtended then
      remark ("getopts: usage: getopts optstring name [arg ...]\n")
      return 2
    fail "Usage: getopts optstring var [arg...]"

end Buildwright.Sandbox.Shell
