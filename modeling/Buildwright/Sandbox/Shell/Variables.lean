import Buildwright.Sandbox.Shell.State

/-!
# Variables of the shell

How values of variables are looked up, set and told to other programs, and how texts are put between
quotes so that the shell reads them back.
-/

namespace Buildwright.Sandbox.Shell

/-! ### Quotes -/

/-- The rest of a text between quotes: double ones around single ones, and single ones around all
else. -/
def quotedRest : (double : Bool) → List Char → List Char
  | false, [] => ['\'']
  | true, [] => ['"']
  | false, '\'' :: cs => '\'' :: '"' :: '\'' :: quotedRest true cs
  | true, '\'' :: cs => '\'' :: quotedRest true cs
  | false, c :: cs => c :: quotedRest false cs
  | true, c :: cs => '"' :: '\'' :: c :: quotedRest false cs

/-- A text between single quotes. -/
def quotedText (text : String) : String := String.ofList ('\'' :: quotedRest false text.toList)

/-- A text between single quotes, where those in it stand behind backslashes. -/
def singlyQuoted (text : String) : String :=
  "'" ++ String.join (text.toList.map fun c => if c = '\'' then "'\\''" else String.singleton c) ++ "'"

/-- A text in the form with a dollar sign, where escapes stand for what cannot be printed. -/
def escapeQuoted (text : String) : String :=
  let part (c : Char) : List Char :=
    if c = '\'' || c = '\\' then ['\\', c]
    else if c = '\x1b' then ['\\', 'E']
    else if isPrintable c then [c] else '\\' :: escapeOf c
  String.ofList (['$', '\''] ++ text.toList.flatMap part ++ ['\''])

/-- Whether a text holds what cannot be printed. -/
def holdsUnprintable (text : String) : Bool := text.any (!isPrintable ·)

/-- The characters before which the extended shell puts backslashes. -/
def shieldedSigns : List Char := "\t\n !\"#$&'()*,;<=>?[\\]^\x60\x7b|\x7d~".toList

/-- A text with backslashes before signs of the shell. -/
def shieldedText (text : String) : String :=
  if text = "" then "''"
  else if holdsUnprintable text then escapeQuoted text
  else
    let cs := text.toList
    let part (c : Char) : List Char :=
      if shieldedSigns.contains c && c ≠ '#' && c ≠ '~' && c ≠ '=' then ['\\', c] else [c]
    let front := match cs.head? with
      | some c => if c = '#' || c = '~' then ['\\', c] else part c
      | none => []
    String.ofList (front ++ cs.tail.flatMap part)

/-! ### Order -/

/-- The number that a chain of variables has in the plain shell. -/
def plainChain (name : String) : Nat :=
  match name.toList with
  | [] => 0
  | c :: _ => (name.foldl (fun n c => n + c.toNat) (c.toNat * 16)) % 39

/-- A number for a text, by which the extended shell finds it. -/
def mixedNumber (text : String) : Nat :=
  text.foldl (fun n c => ((n * 16777619) % 4294967296) ^^^ c.toNat) 2166136261

/-- The number that a chain of variables has in the extended shell. -/
def extendedChain (name : String) : Nat := mixedNumber name % 1024

/-! ### Values -/

/-- The values of a variable with their positions. -/
def Value.elements : Value → List (String × String)
  | .unset => []
  | .text t => [("0", t)]
  | .row values => values.toList.map fun (n, t) => (toString n, t)

/-- A number made by chance from another one. -/
def nextSeed (seed : Nat) : Nat := (seed * 1103515245 + 12345) % 2147483648

/-- The text of a variable that the shell computes itself. -/
def State.computed? (s : State) (name : String) : Option String :=
  match s.dialect, name with
  | .extended, "LINENO" => some (toString s.line)
  | .extended, "RANDOM" => some (toString (nextSeed s.seed / 65536 % 32768))
  | .extended, "SECONDS" => some "0"
  | .extended, "BASH_SUBSHELL" => some (toString s.depth)
  | .extended, "BASHPID" => some (toString (s.process + s.depth))
  | .extended, "FUNCNAME" => if s.running.isEmpty then none else s.running.head?
  | .extended, "PIPESTATUS" => s.pipeline.head?.map toString
  | .extended, "BASH_SOURCE" => some s.source
  | _, _ => none

/-- What a variable holds. -/
def State.value (s : State) (name : String) : Value :=
  match s.bindings[name]? with
  | some v => v.value
  | none =>
    if s.dialect = .extended && name = "PIPESTATUS" then
      .row (Std.TreeMap.ofList ((s.pipeline.zipIdx).map fun (n, i) => (i, toString n)))
    else if s.dialect = .extended && name = "FUNCNAME" then
      if s.running.isEmpty then .unset
      else .row (Std.TreeMap.ofList (((s.running ++ ["main"]).zipIdx).map fun (n, i) => (i, n)))
    else match s.computed? name with
      | some t => .text t
      | none => .unset

/-- The text of a variable. -/
def State.text? (s : State) (name : String) : Option String := (s.value name).text?

/-- The position of a row that a number means, which may count from its end. -/
def rowPosition? (values : Std.TreeMap Nat String) (n : Int) : Option Nat :=
  if 0 ≤ n then some n.toNat
  else
    let size : Int := (values.toList.getLast?).elim 0 fun (last, _) => last + 1
    if 0 ≤ size + n then some (size + n).toNat else none

/-! ### Changes -/

/-- Stops since a variable must not be changed. -/
def refuseChange {α : Type} (name : String) : Sh α := do
  if ← isExtended then
    complain (name ++ ": readonly variable")
    setStatus 1
    throw .line
  else fail (name ++ ": is read only")

/-- What follows from a change of a variable. -/
def noteChange (name : String) : Sh Unit := do
  if name = "OPTIND" then modify fun s => { s with
    lettersSeen := 0, optionIndex := max 1 (((s.text? "OPTIND").bind naturalOf?).getD 1) }
  else if name = "PATH" then modify fun s => { s with hashed := [] }

/-- Gives a variable a value as it is. -/
def store (name : String) (value : Value) : Sh Unit := do
  let s ← get
  let v := s.variable name
  if v.readOnly then refuseChange name
  set (s.withVariable name { v with value, exported := v.exported || s.isOn "a" })
  noteChange name

/-- Gives a variable a text. -/
def storeText (name text : String) : Sh Unit := do
  match (← get).value name with
  | .row values => store name (.row (values.insert 0 text))
  | _ => store name (.text text)

/-- The row that a value is. -/
def Value.asRow : Value → Std.TreeMap Nat String
  | .unset => {}
  | .text t => Std.TreeMap.ofList [(0, t)]
  | .row values => values

/-- Removes a variable. -/
def unsetVariable (name : String) : Sh Unit := do
  if ((← get).variable name).readOnly then
    if ← isExtended then
      complain (name ++ ": cannot unset: readonly variable")
      throw .failed
    else fail (name ++ ": is read only")
  modify (·.withoutVariable name)
  noteChange name

/-! ### Other programs -/

/-- The variables that other programs are told, in their order. -/
def State.environment (s : State) : List (String × String) :=
  let told := s.bindings.toList.filterMap fun (name, v) =>
    if v.exported then
      match v.value with
      | .text t => some (name, t, v.order)
      | _ => none
    else none
  let chain := if s.dialect = .plain then plainChain else extendedChain
  let sorted := told.mergeSort fun (a, _, i) (b, _, j) =>
    if chain a = chain b then (if s.dialect = .plain then Nat.ble i j else Nat.ble j i)
    else Nat.ble (chain a) (chain b)
  sorted.map fun (name, t, _) => (name, t)

end Buildwright.Sandbox.Shell
