import Buildwright.Sandbox.Work

/-!
# Options of programs

How programs are told what to do: by letters behind a hyphen and by names behind two, some of which
take a value. Options may stand between the operands, up to two hyphens alone. A name may be cut as
long as it stays clear which one is meant.
-/

namespace Buildwright.Sandbox

/-! ### Tables -/

/-- Whether an option takes a value. -/
inductive Takes where
  | nothing
  | value
  /-- A value may follow without a blank. -/
  | perhaps
  deriving DecidableEq

/-- An option with a name. -/
structure LongOption where
  name : String
  /-- What the option is called among the directions, its letter as a rule. -/
  key : String
  takes : Takes := .nothing

/-- The options that a program knows. -/
structure OptionTable where
  /-- The letters of the options without a value. -/
  letters : String := ""
  /-- The letters of the options with a value. -/
  valued : String := ""
  /-- The letters of the options that a value may follow. -/
  perhaps : String := ""
  names : List LongOption := []
  /-- Whether options may stand behind operands. -/
  permutes : Bool := true
  /-- Whether a number with a minus sign is an operand. -/
  numbers : Bool := false

/-- Options with names that mean the same as letters. -/
def plainNames (names : List (String × String)) : List LongOption :=
  names.map fun (name, key) => { name, key }

/-- Options with names that take a value. -/
def valuedNames (names : List (String × String)) : List LongOption :=
  names.map fun (name, key) => { name, key, takes := .value }

/-- What a program is told. -/
structure Directions where
  /-- The options with their values, which are empty if they take none. -/
  options : List (String × Option String) := []
  operands : List String := []
  /-- What is wrong behind these options. -/
  fault? : Option String := none

namespace Directions

/-- Whether an option is given. -/
def has (d : Directions) (key : String) : Bool := d.options.any (·.1 = key)

/-- Whether one of some options is given. -/
def hasAny (d : Directions) (keys : List String) : Bool := keys.any d.has

/-- The last value of an option. -/
def value? (d : Directions) (key : String) : Option String :=
  (d.options.reverse.find? (·.1 = key)).bind Prod.snd

/-- All values of an option. -/
def values (d : Directions) (key : String) : List String :=
  d.options.filterMap fun (other, value?) => if other = key then value? else none

/-- The last of some options that is given. -/
def last? (d : Directions) (keys : List String) : Option String :=
  (d.options.reverse.find? fun option => keys.contains option.1).map Prod.fst

/-- The directions with an operand in front. -/
def withOperand (operand : String) (d : Directions) : Directions :=
  { d with operands := operand :: d.operands }

/-- The directions with options in front. -/
def withOptions (options : List (String × Option String)) (d : Directions) : Directions :=
  { d with options := options ++ d.options }

end Directions

namespace OptionTable

/-- What an argument says: options, and the last one if its value is still to come. -/
structure Said where
  options : List (String × Option String) := []
  open? : Option (String × String) := none
  fault? : Option String := none

/-- The options that letters behind one hyphen are. -/
def cluster (table : OptionTable) : (letters : List Char) → Said
  | [] => {}
  | c :: cs =>
    let key := String.singleton c
    if table.valued.toList.contains c then
      if cs = [] then { open? := some (key, "option requires an argument -- '" ++ key ++ "'") }
      else { options := [(key, some (String.ofList cs))] }
    else if table.perhaps.toList.contains c then
      { options := [(key, if cs = [] then none else some (String.ofList cs))] }
    else if table.letters.toList.contains c then
      let said := table.cluster cs
      { said with options := (key, none) :: said.options }
    else { fault? := some ("invalid option -- '" ++ key ++ "'") }

/-- The option with a name, which may be cut and which a value may follow. -/
def named (table : OptionTable) (text : String) : Said :=
  let name := String.ofList (text.toList.takeWhile (· ≠ '='))
  let value? := if name = text then none else some (String.ofList (text.toList.drop (name.length + 1)))
  let exact := table.names.filter (·.name = name)
  let found := if exact.isEmpty then table.names.filter (name.toList.isPrefixOf ·.name.toList)
    else exact
  match found with
  | [] => { fault? := some ("unrecognized option '--" ++ text ++ "'") }
  | option :: others =>
    let shown := "'--" ++ option.name ++ "'"
    if others.any fun other => other.key ≠ option.key || other.takes ≠ option.takes then
      { fault? := some ("option '--" ++ name ++ "' is ambiguous; possibilities:" ++
          String.join (found.map fun option => " '--" ++ option.name ++ "'")) }
    else match option.takes, value? with
      | .nothing, some _ => { fault? := some ("option " ++ shown ++ " doesn't allow an argument") }
      | .value, none =>
        { open? := some (option.key, "option " ++ shown ++ " requires an argument") }
      | _, value? => { options := [(option.key, value?)] }

/-- What an argument says, unless it is an operand. -/
def said? (table : OptionTable) (arg : String) : Option Said :=
  match arg.toList with
  | '-' :: '-' :: name => some (table.named (String.ofList name))
  | '-' :: c :: letters =>
    if table.numbers && (c.isDigit || c = '.') then none else some (table.cluster (c :: letters))
  | _ => none

/-- What arguments tell a program. -/
def directions (table : OptionTable) : (args : List String) → Directions
  | [] => {}
  | "--" :: args => { operands := args }
  | arg :: args =>
    match table.said? arg with
    | none =>
      if table.permutes then (table.directions args).withOperand arg
      else { operands := arg :: args }
    | some said =>
      match said.fault?, said.open?, args with
      | some fault, _, _ => { options := said.options, fault? := some fault }
      | none, none, args => (table.directions args).withOptions said.options
      | none, some (_, fault), [] => { options := said.options, fault? := some fault }
      | none, some (key, _), value :: args =>
        (table.directions args).withOptions (said.options ++ [(key, some value)])

end OptionTable

/-- What the program is told; it ends with a code if that is not understood. -/
def Work.directions (table : OptionTable) (code : Nat) : Work Directions := do
  let d := table.directions (← Work.arguments)
  match d.fault? with
  | some fault => Work.mislead fault code
  | none => return d

end Buildwright.Sandbox
