import Buildwright.Sandbox.Program.Source

/-!
# Repeated lines

The program that leaves out lines that repeat the one before them, or counts or selects them. Lines
may count as repeated where parts of them are equal.
-/

namespace Buildwright.Sandbox.Program

/-! ### Groups -/

/-- What of a line is compared. -/
structure CompareStyle where
  fields : Nat := 0
  characters : Nat := 0
  most? : Option Nat := none
  ignoresCase : Bool := false

/-- The part of a line that is compared. -/
def CompareStyle.part (style : CompareStyle) (line : String) : List Char :=
  let isBlank (c : Char) : Bool := c = ' ' || c = '\t' || c = '\n'
  let rec behind : (fields : Nat) → List Char → List Char
    | 0, cs => cs
    | fields + 1, cs => behind fields ((cs.dropWhile isBlank).dropWhile (!isBlank ·))
  let rest := (behind style.fields line.toList).drop style.characters
  let rest := match style.most? with
    | some most => rest.take most
    | none => rest
  if style.ignoresCase then rest.map Char.toLower else rest

/-- Lines with the same part, one after another. -/
def groupsOf (style : CompareStyle) (lines : List String) : List (List String) :=
  let rec go (part : List Char) (group : List String) : List String → List (List String)
    | [] => [group.reverse]
    | line :: lines =>
      let next := style.part line
      if next = part then go part (line :: group) lines
      else group.reverse :: go next [line] lines
  match lines with
  | [] => []
  | line :: lines => go (style.part line) [line] lines

/-! ### The program -/

/-- Where groups are told apart by an empty line. -/
inductive GroupMark where
  | none
  | before
  | between
  | behind
  | around
  deriving DecidableEq

/-- Which lines are printed. -/
structure RepetitionStyle where
  counts : Bool := false
  /-- Whether lines that are not repeated are printed. -/
  unique : Bool := true
  /-- Whether the first one of repeated lines is printed. -/
  first : Bool := true
  /-- Whether further ones are printed. -/
  later : Bool := false
  mark : GroupMark := .none
  /-- Whether all lines are printed, in groups. -/
  grouped : Bool := false

/-- The lines of a group that are printed. -/
def RepetitionStyle.shown (style : RepetitionStyle) (group : List String) : List String :=
  let front := if style.counts then atEndOf 7 (toString group.length) ++ " " else ""
  if style.grouped then group
  else if group.length = 1 then (if style.unique then group.map (front ++ ·) else [])
  else if style.later then
    (if style.first then group else group.dropLast)
  else if style.first then (group.take 1).map (front ++ ·) else []

/-- The lines that are printed. -/
def RepetitionStyle.lines (style : RepetitionStyle) (groups : List (List String)) : List String :=
  let shown := (groups.map style.shown).filter (!·.isEmpty)
  let starts := style.mark = .before || style.mark = .around
  let ends := style.mark = .behind || style.mark = .around
  let gap : List String := if style.mark = .none then [] else [""]
  let front := if starts then gap else []
  let behind := if ends then gap else []
  if shown.isEmpty then [] else front ++ gap.intercalate shown ++ behind

/-- What the program for repeated lines is told. -/
def repetitionTable : OptionTable := {
  letters := "cdDiuz0123456789", valued := "fsw"
  names := plainNames [("count", "c"), ("repeated", "d"), ("ignore-case", "i"), ("unique", "u"),
      ("zero-terminated", "z")] ++
    valuedNames [("skip-fields", "f"), ("skip-chars", "s"), ("check-chars", "w")] ++
    [{ name := "all-repeated", key := "D", takes := .perhaps },
      { name := "group", key := "group", takes := .perhaps }] }

/-- The number that an option gives. -/
def askedCount (d : Directions) (key reason : String) : Work (Option Nat) := do
  match d.value? key with
  | none => return none
  | some text =>
    match naturalOf? text with
    | some n => return some n
    | none => Work.abandon (text ++ ": " ++ reason) 1

/-- The mark that a word stands for. -/
def askedMark (option : String) (known : List (String × GroupMark)) (standard : GroupMark) :
    Option String → Work GroupMark
  | none => return standard
  | some word =>
    match known.filter fun (name, _) => word.toList.isPrefixOf name.toList with
    | [(_, mark)] => return mark
    | found => do
      Work.warn ((if found.isEmpty then "invalid" else "ambiguous") ++ " argument " ++
        quotedWord word ++ " for " ++ quotedWord option)
      Work.remark ("Valid arguments are:\n" ++
        String.join (known.map fun (name, _) => "  - " ++ quotedWord name ++ "\n"))
      Work.pointToHelp
      Work.exit 1

/-- Fields to be left out, from digits that stand for an option. -/
def digitFields (d : Directions) : Nat :=
  numberOf 10 (d.options.filterMap fun (key, _) => key.toList.head?.filter Char.isDigit)

/-- Leaves out lines that repeat those before them. -/
def showDistinct : Work Unit := do
  let d ← Work.directions repetitionTable 1
  let fields? ← askedCount d "f" "invalid number of fields to skip"
  let characters? ← askedCount d "s" "invalid number of bytes to skip"
  let most? ← askedCount d "w" "invalid number of bytes to compare"
  let allMark ← askedMark "--all-repeated"
    [("none", .none), ("prepend", .before), ("separate", .between)] .none (d.value? "D")
  let groupMark ← askedMark "--group"
    [("prepend", .before), ("append", .behind), ("separate", .between), ("both", .around)] .between
    (d.value? "group")
  let (source, target?) ← match d.operands with
    | [] => pure ("-", none)
    | [source] => pure (source, none)
    | [source, target] => pure (source, some target)
    | _ :: _ :: extra :: _ => refuseOperand extra 1
  if d.has "group" && d.hasAny ["c", "d", "D", "u"] then
    Work.mislead "--group is mutually exclusive with -c/-d/-D/-u" 1
  if d.has "c" && d.has "D" then
    Work.mislead "printing all duplicated lines and repeat counts is meaningless" 1
  let compareStyle : CompareStyle := {
    fields := fields?.getD (digitFields d), characters := characters?.getD 0, most?
    ignoresCase := d.has "i" }
  let style : RepetitionStyle := {
    counts := d.has "c", unique := !d.hasAny ["d", "D"], first := !d.has "u", later := d.has "D"
    mark := if d.has "group" then groupMark else if d.has "D" then allMark else .none
    grouped := d.has "group" }
  let final := lineFinal d
  let opened ← if source = "-" then pure (.ok 0) else Work.ask (.open source .read 0)
  let number ← match opened with
    | .ok number => pure number
    | .error fault => Work.abandon (shownPath source ++ ": " ++ fault.reason) 1
  let target? := target?.filter (· ≠ "-")
  let output ← match target? with
    | none => pure 1
    | some path =>
      match ← Work.ask (.open path .replace 0o666) with
      | .ok output => pure output
      | .error fault => Work.abandon (shownPath path ++ ": " ++ fault.reason) 1
  match ← (Task.readAll number : Task (Except HostFault ByteArray)) with
  | .error fault => Work.abandon ("error reading " ++ quotedName source ++ ": " ++ fault.reason) 1
  | .ok bytes =>
    let lines := style.lines (groupsOf compareStyle (linesOf final (octetText bytes)).lines)
    let text := String.join (lines.map (·.push final))
    if output = 1 then Work.put text
    else
      let written : Except HostFault Unit ← (Task.writeText output text : Task _)
      if let .error fault := written then Work.abandon ("write error: " ++ fault.reason) 1

end Buildwright.Sandbox.Program
