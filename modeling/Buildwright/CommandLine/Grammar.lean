/-!
# Grammars of command lines

How the arguments of a command are read. Options have a long name and perhaps a short one; they are
flags, or they take a value behind `=`, directly behind a short name, or in the next argument. After
`--` every argument is a plain one. Nothing may be given twice, except plain arguments where a
command takes any number of them.

Reading goes from left to right and stops at a request for help or for the version, so that only
faults before such a request count.
-/

namespace Buildwright.CommandLine

/-- An option of a command. -/
structure OptionForm where
  long : String
  short? : Option Char := none
  /-- For an option with a value, which values it accepts. -/
  accepts? : Option (String → Bool) := none

/-- The form of a command line. -/
structure Grammar where
  options : List OptionForm := []
  /-- The greatest number of plain arguments, if there is one. -/
  greatestPlain? : Option Nat := none
  /-- Which plain arguments are accepted. -/
  acceptsPlain : String → Bool := fun _ => true

/-- What a command line says. -/
structure Matches where
  flags : List String := []
  values : List (String × String) := []
  plain : List String := []

/-- What was asked for. -/
inductive Request where
  | help
  | version
  | matched (found : Matches)

namespace Matches

/-- Whether a flag was given. -/
def hasFlag (m : Matches) (long : String) : Bool := m.flags.contains long

/-- The value of an option that was given. -/
def value? (m : Matches) (long : String) : Option String := m.values.lookup long

/-- Adds a flag that was not given before. -/
def addFlag (m : Matches) (long : String) : Option Matches :=
  if m.hasFlag long then none else some { m with flags := m.flags ++ [long] }

/-- Adds a value that is accepted to an option that was not given before. -/
def addValue (m : Matches) (long : String) (accepts : String → Bool) (value : String) :
    Option Matches :=
  if (m.value? long).isSome || !accepts value then none
  else some { m with values := m.values ++ [(long, value)] }

/-- Adds a plain argument. -/
def addPlain (g : Grammar) (m : Matches) (arg : String) : Option Matches :=
  if g.greatestPlain?.any (· ≤ m.plain.length) || !g.acceptsPlain arg then none
  else some { m with plain := m.plain ++ [arg] }

end Matches

/-! ### Arguments -/

/-- What an argument looks like. -/
inductive Shape where
  /-- The sign after which every argument is plain. -/
  | separator
  | long (name : List Char) (value? : Option (List Char))
  | short (letters : List Char)
  | plain
  deriving DecidableEq

/-- The shape of an argument. A lone dash is plain. -/
def Shape.of (arg : String) : Shape :=
  match arg.toList with
  | ['-', '-'] => .separator
  | '-' :: '-' :: cs =>
    let name := cs.takeWhile (· ≠ '=')
    match cs.drop name.length with
    | [] => .long name none
    | _ :: value => .long name (some value)
  | '-' :: c :: cs => .short (c :: cs)
  | _ => .plain

/-- What a run of short options comes to. -/
inductive ShortResult where
  | help
  | version
  | matched (found : Matches)
  /-- The last option takes its value from the next argument. -/
  | awaiting (long : String) (accepts : String → Bool) (found : Matches)

/-- A value without the `=` in front of it. -/
def withoutEquals : List Char → List Char
  | '=' :: cs => cs
  | cs => cs

/-- Reads a run of short options. An option with a value takes what is left of the run. -/
def readShort (g : Grammar) (m : Matches) : List Char → Option ShortResult
  | [] => some (.matched m)
  | 'h' :: _ => some .help
  | 'V' :: _ => some .version
  | c :: cs => do
    let form ← g.options.find? fun form => form.short? = some c
    match form.accepts? with
    | none => readShort g (← m.addFlag form.long) cs
    | some accepts =>
      if cs = [] then some (.awaiting form.long accepts m)
      else (m.addValue form.long accepts (String.ofList (withoutEquals cs))).map .matched

/-- Reads the arguments behind those that were read before. -/
def readArgs (g : Grammar) (m : Matches) : List String → Option Request
  | [] => some (.matched m)
  | arg :: args =>
    let awaiting (long : String) (accepts : String → Bool) (m : Matches) : Option Request :=
      match args with
      | value :: args =>
        if Shape.of value = .plain then
          (m.addValue long accepts value).bind fun m => readArgs g m args
        else none
      | [] => none
    match Shape.of arg with
    | .separator => (args.foldlM (Matches.addPlain g) m).map .matched
    | .plain => (m.addPlain g arg).bind fun m => readArgs g m args
    | .long name value? =>
      let name := String.ofList name
      match g.options.find? (fun form => form.long = name), value? with
      | none, none =>
        if name = "help" then some .help else if name = "version" then some .version else none
      | none, some _ => none
      | some { accepts? := none, .. }, none => (m.addFlag name).bind fun m => readArgs g m args
      | some { accepts? := none, .. }, some _ => none
      | some { accepts? := some accepts, .. }, some value =>
        (m.addValue name accepts (String.ofList value)).bind fun m => readArgs g m args
      | some { accepts? := some accepts, .. }, none => awaiting name accepts m
    | .short letters =>
      match readShort g m letters with
      | none => none
      | some .help => some .help
      | some .version => some .version
      | some (.matched m) => readArgs g m args
      | some (.awaiting long accepts m) => awaiting long accepts m

/-- Reads the arguments of a command. -/
def Grammar.read (g : Grammar) (args : List String) : Option Request := readArgs g {} args

end Buildwright.CommandLine
