import Buildwright.Sandbox.Pattern
import Buildwright.Sandbox.Program.Source

/-!
# Order of lines

The program that sorts lines. Lines are compared by keys, which are parts of them, one key after
another, and by all of their bytes where no key tells them apart.
-/

namespace Buildwright.Sandbox.Program

/-! ### Keys -/

/-- A part of lines by which they are compared. -/
structure SortKey where
  /-- How many fields stand before it. -/
  fields : Nat := 0
  /-- How many characters of its first field are left out. -/
  offset : Nat := 0
  /-- How many whole fields belong to it or stand before it, and how many characters behind them. -/
  finish? : Option (Nat × Nat) := none
  /-- Whether blanks at its start, and at the start of its last field, are passed over. -/
  passesFront : Bool := false
  passesLast : Bool := false
  /-- How its texts are compared. -/
  letters : List Char := []

namespace SortKey

/-- Whether nothing is said about how its texts are compared. -/
def isPlain (key : SortKey) : Bool :=
  !key.passesFront && !key.passesLast && key.letters.all (· = 'r')

/-- Adds letters that say how texts are compared. -/
def withLetters (key : SortKey) (front last : Bool) (letters : List Char) : SortKey :=
  let blanks := letters.contains 'b'
  { key with
    passesFront := key.passesFront || (blanks && front)
    passesLast := key.passesLast || (blanks && last)
    letters := key.letters ++ letters.filter (· ≠ 'b') }

/-- Whether a character is not left out. -/
def keeps (key : SortKey) (c : Char) : Bool :=
  if key.letters.contains 'd' then c.isAlphanum || c = ' ' || c = '\t'
  else !key.letters.contains 'i' || isPrintable c

end SortKey

/-- A character that stands between fields. -/
def isGap (c : Char) : Bool := c = ' ' || c = '\t' || c = '\n'

/-- What is behind a number of fields. Without a character between them, fields begin with blanks.
-/
def behindFields (tab? : Option Char) : (count : Nat) → List Char → List Char
  | 0, cs => cs
  | count + 1, cs =>
    behindFields tab? count (match tab? with
      | some tab => (cs.dropWhile (· ≠ tab)).drop 1
      | none => (cs.dropWhile isGap).dropWhile (!isGap ·))

/-- What is behind a number of whole fields, without the character that ends the last one. -/
def behindWholeFields (tab? : Option Char) (count : Nat) (cs : List Char) : List Char :=
  match tab?, count with
  | some tab, count + 1 => (behindFields tab? count cs).dropWhile (· ≠ tab)
  | _, _ => behindFields tab? count cs

/-- The text of a key in a line. -/
def SortKey.text (tab? : Option Char) (key : SortKey) (line : List Char) : List Char :=
  let passing (passes : Bool) (cs : List Char) : List Char :=
    if passes then cs.dropWhile isGap else cs
  let start := (passing key.passesFront (behindFields tab? key.fields line)).drop key.offset
  match key.finish? with
  | none => start
  | some (count, characters) =>
    let finish := if characters = 0 then behindWholeFields tab? count line
      else (passing key.passesLast (behindFields tab? count line)).drop characters
    start.take (start.length - finish.length)

/-! ### Reading keys -/

/-- A count at the start of a text, with what is behind it. -/
def countBefore? (cs : List Char) : Option (Nat × List Char) :=
  let digits := cs.takeWhile Char.isDigit
  if digits.isEmpty then none else some (numberOf 10 digits, cs.drop digits.length)

/-- The letters that say how texts are compared. -/
def orderLetters : List Char := "bdfinr".toList

/-- The key that a text describes. The error says why there is none. -/
def sortKeyOf (text : String) : Except String SortKey := do
  let invalid {α : Type} (reason : String) : Except String α :=
    .error (reason ++ ": invalid field specification " ++ quotedWord text)
  let count (reason : String) (cs : List Char) : Except String (Nat × List Char) :=
    match countBefore? cs with
    | some found => .ok found
    | none => .error (reason ++ ": invalid count at start of " ++ quotedWord (String.ofList cs))
  let (field, rest) ← count "invalid number at field start" text.toList
  if field = 0 then invalid "field number is zero"
  let (offset, rest) ← match rest with
    | '.' :: rest => do
      let (n, rest) ← count "invalid number after '.'" rest
      if n = 0 then invalid "character offset is zero"
      pure (n - 1, rest)
    | rest => pure (0, rest)
  let letters := rest.takeWhile orderLetters.contains
  let key := ({ fields := field - 1, offset } : SortKey).withLetters true false letters
  let (key, rest) ← match rest.drop letters.length with
    | ',' :: rest => do
      let (last, rest) ← count "invalid number after ','" rest
      if last = 0 then invalid "field number is zero"
      let (characters, rest) ← match rest with
        | '.' :: rest => count "invalid number after '.'" rest
        | rest => pure (0, rest)
      let letters := rest.takeWhile orderLetters.contains
      let finish := if characters = 0 then (last, 0) else (last - 1, characters)
      pure (({ key with finish? := some finish } : SortKey).withLetters false true letters,
        rest.drop letters.length)
    | rest => pure (key, rest)
  if rest ≠ [] then invalid "stray character in field spec"
  return key

/-! ### Comparing -/

/-- A number at the start of a text: digits, perhaps behind a minus sign and with a point. It is
given as an integer and how many of its digits are behind the point. -/
def leadingNumber (text : List Char) : Int × Nat :=
  let text := text.dropWhile isGap
  let negative := text.head? = some '-'
  let text := if negative then text.tail else text
  let whole := text.takeWhile Char.isDigit
  let fraction := match text.drop whole.length with
    | '.' :: rest => rest.takeWhile Char.isDigit
    | _ => []
  let n : Int := numberOf 10 (whole ++ fraction)
  (if negative then -n else n, fraction.length)

/-- The order of two numbers with digits behind a point. -/
def pointedOrder (a b : Int × Nat) : Ordering :=
  compare (a.1 * Nat.pow 10 b.2) (b.1 * Nat.pow 10 a.2)

/-- The order of two texts by their characters. -/
def textOrder : (a b : List Char) → Ordering
  | [], [] => .eq
  | [], _ => .lt
  | _, [] => .gt
  | a :: as, b :: bs => (compare a.toNat b.toNat).then (textOrder as bs)

/-- The order of two texts of a key. -/
def SortKey.order (key : SortKey) (a b : List Char) : Ordering :=
  let has (c : Char) : Bool := key.letters.contains c
  let shaped (text : List Char) : List Char :=
    let kept := if has 'd' || has 'i' then text.filter key.keeps else text
    if has 'f' then kept.map Char.toUpper else kept
  let plain :=
    if has 'n' then pointedOrder (leadingNumber a) (leadingNumber b)
    else textOrder (shaped a) (shaped b)
  if has 'r' then plain.swap else plain

/-- How lines are sorted. -/
structure SortStyle where
  keys : List SortKey
  tab? : Option Char
  /-- Whether lines that no key tells apart are compared as a whole. -/
  comparesWhole : Bool
  reversed : Bool

/-- A line with the texts of its keys. -/
structure KeyedLine where
  line : List Char
  texts : List (List Char)

/-- A line with the texts of its keys. -/
def SortStyle.keyed (style : SortStyle) (line : List Char) : KeyedLine :=
  ⟨line, style.keys.map fun key => key.text style.tab? line⟩

/-- The order of two lines. -/
def SortStyle.order (style : SortStyle) (a b : KeyedLine) : Ordering :=
  let rec byKeys : List SortKey → List (List Char) → List (List Char) → Ordering
    | key :: keys, x :: xs, y :: ys => (key.order x y).then (byKeys keys xs ys)
    | _, _, _ => .eq
  let whole := textOrder a.line b.line
  (byKeys style.keys a.texts b.texts).then <|
    if !style.comparesWhole then .eq else if style.reversed then whole.swap else whole

/-- Whether a line may stand before another one. -/
def SortStyle.mayPrecede (style : SortStyle) (a b : KeyedLine) : Bool := style.order a b ≠ .gt

/-- Lines of which none equals the one before it in order. -/
def SortStyle.distinct (style : SortStyle) : List KeyedLine → List KeyedLine
  | [] => []
  | line :: lines =>
    let rec go (last : KeyedLine) : List KeyedLine → List KeyedLine
      | [] => []
      | next :: lines =>
        if style.order last next = .eq then go last lines else next :: go next lines
    line :: go line lines

/-- The number and the text of the first line that is not in order behind the one before it. -/
def SortStyle.disorder? (style : SortStyle) (distinct : Bool) :
    (number : Nat) → List KeyedLine → Option (Nat × List Char)
  | number, a :: b :: lines =>
    let order := style.order a b
    if order = .gt || (distinct && order = .eq) then some (number + 1, b.line)
    else style.disorder? distinct (number + 1) (b :: lines)
  | _, _ => none

/-! ### The program -/

/-- What the program that sorts is told. -/
def sortTable : OptionTable := {
  letters := "bcCdfinrsuz", valued := "kot"
  names := plainNames [("ignore-leading-blanks", "b"), ("dictionary-order", "d"),
      ("ignore-case", "f"), ("ignore-nonprinting", "i"), ("numeric-sort", "n"), ("reverse", "r"),
      ("stable", "s"), ("unique", "u"), ("zero-terminated", "z")] ++
    valuedNames [("key", "k"), ("output", "o"), ("field-separator", "t")] ++
    [{ name := "check", key := "check", takes := .perhaps }] }

/-- The character between fields that options ask for. -/
def askedTab (texts : List String) : Except String (Option Char) :=
  texts.foldlM (fun tab? text => do
    let tab ← match text.toList with
      | [] => .error "empty tab"
      | [c] => pure c
      | ['\\', '0'] => pure '\x00'
      | _ => .error ("multi-character tab " ++ quotedWord text)
    if tab?.any (· ≠ tab) then .error "incompatible tabs"
    return some tab) none

/-- The letters of a key that do not go together, if there are such. -/
def clashOf? (key : SortKey) : Option String :=
  let has (c : Char) : Bool := key.letters.contains c
  if has 'n' && (has 'd' || has 'i') then
    some (String.ofList ("dfin".toList.filter fun c => has c && !(c = 'i' && has 'd')))
  else none

/-- The letters that options without a value give to all keys. -/
def commonLetters (d : Directions) : List Char :=
  d.options.flatMap fun (key, _) =>
    match key.toList with
    | [c] => if orderLetters.contains c then [c] else []
    | _ => []

/-- How lines are sorted as options ask for it. -/
def askedSort (d : Directions) : Except String SortStyle := do
  let keys ← (d.values "k").mapM sortKeyOf
  let tab? ← askedTab (d.values "t")
  let common := ({} : SortKey).withLetters true true (commonLetters d)
  let keys := keys.map fun key =>
    if key.isPlain && !key.letters.contains 'r' then
      { key with
        passesFront := common.passesFront, passesLast := common.passesLast
        letters := common.letters }
    else key
  let keys := if keys.isEmpty && !common.isPlain then [common] else keys
  match keys.findSome? clashOf? with
  | some letters => .error ("options '-" ++ letters ++ "' are incompatible")
  | none => return {
      keys, tab?, comparesWhole := !(d.has "s" || d.has "u") || keys.isEmpty
      reversed := common.letters.contains 'r' }

/-- How a check is asked for: with a message or without one. -/
def askedCheck (d : Directions) : Except String (Option Char) :=
  let kinds := d.options.filterMap fun (key, value?) =>
    if key = "c" || key = "C" then key.toList.head?
    else if key = "check" then
      some (if value? = some "quiet" || value? = some "silent" then 'C' else 'c')
    else none
  match kinds with
  | [] => .ok none
  | kind :: kinds =>
    if kinds.any (· ≠ kind) then .error "options '-cC' are incompatible" else .ok (some kind)

/-- The lines of a source that is sorted. -/
def sortedSource (style : SortStyle) (final : Char) (opening path : String) :
    Work (List KeyedLine) := do
  let failing {α : Type} (message : String) (fault : HostFault) : Work α :=
    Work.abandon (message ++ ": " ++ shownPath path ++ ": " ++ fault.reason) 2
  match ← Work.textOf path with
  | .ok text => return (linesOf final text).lines.map fun line => style.keyed line.toList
  | .error .isDirectory => failing "read failed" .isDirectory
  | .error .badDescriptor => failing "stat failed" .badDescriptor
  | .error fault => failing opening fault

/-- Writes into a file, or where the program prints to. -/
def writeSorted (path? : Option String) (text : String) : Work Unit := do
  match path? with
  | none => Work.put text
  | some path =>
    let written : Except HostFault Unit ←
      (Task.opening path .replace fun number => Task.writeText number text : Task _)
    match written with
    | .ok _ => pure ()
    | .error fault => Work.abandon ("write failed: " ++ shownPath path ++ ": " ++ fault.reason) 2

/-- Says which line of a source is not in order. -/
def checkOrder (style : SortStyle) (distinct : Bool) (final kind : Char) (path : String) :
    Work Unit := do
  let lines ← sortedSource style final "open failed" path
  match style.disorder? distinct 1 lines with
  | none => pure ()
  | some (number, line) =>
    if kind = 'c' then
      Work.remark ((← read).name ++ ": " ++ path ++ ":" ++ toString number ++ ": disorder: " ++
        String.ofList line ++ String.singleton final)
    Work.exit 1

/-- Sorts the lines of sources together. -/
def sortLines : Work Unit := do
  let d ← Work.directions sortTable 2
  let failing {α : Type} (message : String) : Work α := Work.abandon message 2
  let style ← match askedSort d with
    | .ok style => pure style
    | .error message => failing message
  let check? ← match askedCheck d with
    | .ok check? => pure check?
    | .error message => failing message
  let final := lineFinal d
  let outputs := d.values "o"
  if outputs.any (some · ≠ outputs.head?) then failing "multiple output files specified"
  let output? := outputs.head?
  let paths := sourcesOf d.operands
  match check?, paths with
  | some kind, path :: others =>
    if let extra :: _ := others then
      failing ("extra operand " ++ quotedWord extra ++ " not allowed with -" ++ String.singleton kind)
    if output?.isSome then
      failing ("options '-" ++ String.singleton kind ++ "o' are incompatible")
    checkOrder style (d.has "u") final kind path
  | _, _ =>
    for path in paths do
      if path ≠ "-" then
        if let .error fault ← Work.ask (.status path true) then
          failing ("cannot read: " ++ shownPath path ++ ": " ++ fault.reason)
    if let some path := output? then
      match ← Work.ask (.open path { writes := true, creates := true } 0o666) with
      | .ok number =>
        let _ ← Work.ask (.close number)
      | .error fault => failing ("open failed: " ++ shownPath path ++ ": " ++ fault.reason)
    let rows ← paths.mapM (sortedSource style final "cannot read")
    let sorted := rows.flatten.mergeSort style.mayPrecede
    let kept := if d.has "u" then style.distinct sorted else sorted
    writeSorted output? (String.join (kept.map fun row => String.ofList (row.line ++ [final])))

end Buildwright.Sandbox.Program
