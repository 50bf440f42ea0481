import Buildwright.Sandbox.Shell.Builtin.Report

/-!
# Assignments

The assignments of a statement: of a text to a variable, and in the extended shell of a row of
values or of one value in such a row.
-/

namespace Buildwright.Sandbox.Shell

/-- Gives a variable that may be computed a text, perhaps behind its old one. -/
def assignText (name : String) (appends : Bool) (text : String) : Sh Unit := do
  let s ← get
  storeText name ((if appends then (s.text? name).getD "" else "") ++ text)

/-- Gives one value of a row a text. -/
def assignElement (name index : String) (appends : Bool) (text : String) : Sh Unit := do
  let row := ((← get).value name).asRow
  match rowPosition? row (← evaluateText index) with
  | some i => store name (.row (row.insert i ((if appends then row[i]?.getD "" else "") ++ text)))
  | none =>
    complain (name ++ "[" ++ index ++ "]: bad array subscript")
    setStatus 1
    throw .line

/-- The values of a row one after another, from a position on. -/
def rowFrom (row : Std.TreeMap Nat String) : (next : Nat) → List (Option String × String) →
    Sh (Std.TreeMap Nat String)
  | _, [] => return row
  | next, (none, text) :: items => rowFrom (row.insert next text) (next + 1) items
  | _, (some index, text) :: items => do
    let i := (rowPosition? row (← evaluateText index)).getD 0
    rowFrom (row.insert i text) (i + 1) items

/-- Gives a variable a row. -/
def assignRow (name : String) (appends : Bool) (items : List (Option String × String)) : Sh Unit := do
  let old := ((← get).value name).asRow
  let start := if appends then old else {}
  let next := (start.toList.getLast?).elim 0 fun (last, _) => last + 1
  store name (.row (← rowFrom start next items))

/-- The text of a position or name of a row. -/
def indexText (inside : Inside) (index : Word) : Sh String := wordText inside index

/-- Makes one assignment; the result is how it is shown. -/
def assign (inside : Inside) : Assignment → Sh String
  | .mk name index? appends value => do
    let sign := if appends then "+=" else "="
    match value, index? with
    | .text w, none =>
      let text ← expandAssigned inside w
      assignText name appends text
      return name ++ sign ++ text
    | .text w, some index =>
      let index ← indexText inside index
      let text ← expandAssigned inside w
      assignElement name index appends text
      return name ++ "[" ++ index ++ "]" ++ sign ++ text
    | .row items, _ =>
      let expanded ← items.mapM fun (index?, w) => do
        match index? with
        | some index => return [(some (← indexText inside index), ← expandAssigned inside w)]
        | none => return (← expandWord inside w).map fun text => (none, text)
      assignRow name appends expanded.flatten
      return name ++ sign ++ "(...)"

end Buildwright.Sandbox.Shell
