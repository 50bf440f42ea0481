import Buildwright.Sandbox.Format
import Buildwright.Sandbox.Program.Source

/-!
# Numbers in a row

The program that prints numbers from a first one to a last one. Whole numbers are exact however
great they are; others are rounded as numbers of a binary format are. How many places are printed
follows from how the numbers were written.
-/

namespace Buildwright.Sandbox.Program

/-! ### Numbers -/

/-- The numbers that are counted with. -/
def seriesRange : BinaryRange := .of true

/-- A number with its sign as a multiple of a power of two, unless it is not finite. -/
def Decimal.signed? (n : Decimal) : Option (Int × Int) :=
  match n.size with
  | .finite m e => some (if n.negative then -m else m, e)
  | _ => none

/-- The number of the binary format that is nearest to a multiple of a power of two. -/
def roundedSeries (n exponent : Int) : Decimal := seriesRange.decimal (n < 0) n.natAbs 2 exponent

/-- The sum of a number and a multiple of another one, both of them rounded. -/
def steppedBy (first step : Decimal) (count : Nat) : Decimal :=
  match Decimal.signed? first, Decimal.signed? step with
  | some (m, e), some (n, f) =>
    match Decimal.signed? (roundedSeries (n * count) f) with
    | some (n, f) =>
      let least := min e f
      roundedSeries (m * Nat.pow 2 (e - least).toNat + n * Nat.pow 2 (f - least).toNat) least
    | none => step
  | none, _ => first
  | _, none => if count = 0 then first else step

/-- Whether a number is less than another one. -/
def isBelow (a b : Decimal) : Bool :=
  match Decimal.signed? a, Decimal.signed? b with
  | some (m, e), some (n, f) =>
    let least := min e f
    m * Nat.pow 2 (e - least).toNat < n * Nat.pow 2 (f - least).toNat
  | none, some _ => a.negative
  | some _, none => !b.negative
  | none, none => a.negative && !b.negative

/-- A number as it is written in an argument. -/
structure SeriesNumber where
  value : Decimal
  /-- How many characters it takes if it is printed as it is written. -/
  width : Int := 1
  /-- How many places it has, if that can be told. -/
  places? : Option Nat := some 0

/-- The number that a text stands for. -/
def SeriesNumber.ofText? (text : String) : Option SeriesNumber :=
  match readDecimal seriesRange text.toList with
  | some (value, ⟨[], _⟩) =>
    let text := text.toList.dropWhile fun c => isSpacing c || c = '+'
    let front := text.takeWhile (· ≠ '.')
    let isPointed := text.contains '.'
    let places? := if !isPointed && !text.contains 'p' then some 0 else none
    if text.contains 'x' || text.contains 'X' || !value.size.isFinite then
      some { value, width := 0, places? }
    else
      let isPower (c : Char) : Bool := c = 'e' || c = 'E'
      let fraction := ((text.drop (front.length + 1)).takeWhile (!isPower ·)).length
      let places : Nat := if isPointed then fraction else 0
      let whole : Int := text.length
      let width : Int := if !isPointed then whole
        else if fraction = 0 then whole - 1
        else if front.getLast?.any Char.isDigit then whole else whole + 1
      match text.dropWhile (!isPower ·) with
      | [] => some { value, width, places? := some places }
      | power =>
        let exponent : Int := match signedWith ((Text.Reader.many1 (digitOf 10)).map (numberOf 10))
            power.tail with
          | some (n, _) => n
          | none => 0
        let width := width - power.length
        if exponent < 0 then
          let width := if isPointed then (if fraction = 0 then width + 1 else width) else width + 1
          some { value, width := width - exponent, places? := some (places + exponent.natAbs) }
        else
          let left := places - exponent.toNat
          let width := if isPointed && left = 0 && fraction ≠ 0 then width - 1 else width
          let more := exponent.toNat - fraction
          some { value, width := width + more, places? := some left }
  | _ => none

/-! ### Formats -/

/-- What is printed before, for and behind each number. -/
structure SeriesFormat where
  front : String := ""
  conversion : Conversion
  behind : String := ""

/-- A number as it is printed, without what stands around it. -/
def SeriesFormat.number (format : SeriesFormat) (n : Decimal) : String :=
  let c := format.conversion
  let fixed? : Option Extent → Option Nat
    | some (.fixed n) => some n
    | _ => none
  let (sign, digits) := decimalText .program c (fixed? c.precision?) n
  padded (c.flags.contains '-') (c.flags.contains '0' && n.size.isFinite)
    ((fixed? c.width?).getD 0) (String.ofList sign) (String.ofList digits)

/-- The text that stands for a number. -/
def SeriesFormat.text (format : SeriesFormat) (n : Decimal) : String :=
  format.front ++ format.number n ++ format.behind

/-- The text before a conversion, where two percent signs stand for one; what is behind it begins
with the conversion. -/
def beforeConversion : List Char → List Char × List Char
  | '%' :: '%' :: cs =>
    let (front, rest) := beforeConversion cs
    ('%' :: front, rest)
  | '%' :: cs => ([], '%' :: cs)
  | c :: cs =>
    let (front, rest) := beforeConversion cs
    (c :: front, rest)
  | [] => ([], [])

/-- The format that a text describes. The error says why there is none. -/
def SeriesFormat.ofText (text : String) : Except String SeriesFormat :=
  let named := "format " ++ quotedWord text
  let (front, rest) := beforeConversion text.toList
  match rest with
  | [] => .error (named ++ " has no % directive")
  | _ :: cs =>
    let flags := cs.takeWhile "-+#0 '".toList.contains
    let cs := cs.drop flags.length
    let width := cs.takeWhile Char.isDigit
    let cs := cs.drop width.length
    let (precision?, cs) : Option Extent × List Char := match cs with
      | '.' :: cs => (some (.fixed (numberOf 10 (cs.takeWhile Char.isDigit))),
          cs.dropWhile Char.isDigit)
      | cs => (none, cs)
    let cs := match cs with
      | 'L' :: cs => cs
      | cs => cs
    match cs with
    | [] => .error (named ++ " ends in %")
    | letter :: cs =>
      if !"efgaEFGA".toList.contains letter then
        .error (named ++ " has unknown %" ++ String.singleton letter ++ " directive")
      else match beforeConversion cs with
        | (behind, []) => .ok {
            front := String.ofList front, behind := String.ofList behind
            conversion := { flags, width? := some (.fixed (numberOf 10 width)), precision?, letter } }
        | _ => .error (named ++ " has too many % directives")

/-- The format of numbers that were written in some way. -/
def SeriesFormat.standard (sameWidth : Bool) (first step last : SeriesNumber) : SeriesFormat :=
  match first.places?, step.places?, last.places? with
  | some a, some b, some c =>
    let places := max a b
    let firstWidth := first.width + (places - a : Nat) + if a = 0 && places ≠ 0 then 1 else 0
    let lastWidth := last.width + ((places : Int) - c) +
      if c = 0 && places ≠ 0 then 1 else if c ≠ 0 && places = 0 then -1 else 0
    let width := if sameWidth then (max firstWidth lastWidth).toNat else 0
    { conversion := {
        flags := if sameWidth then ['0'] else [], width? := some (.fixed width)
        precision? := some (.fixed places), letter := 'f' } }
  | _, _, _ => { conversion := { flags := [], width? := none, precision? := none, letter := 'g' } }

/-! ### The program -/

/-- Prints whole numbers. -/
def printWhole (separator : String) (step : Nat) (last? : Option Nat) :
    (rounds : Nat) → (n : Nat) → Work Unit
  | 0, _ => pure ()
  | rounds + 1, n => do
    Work.print (toString n)
    if last?.all (n + step ≤ ·) then
      Work.print separator
      printWhole separator step last? rounds (n + step)
    else Work.print "\n"

/-- Prints the numbers behind one that was printed. -/
def printSeries (format : SeriesFormat) (separator : String) (first step last : Decimal) :
    (rounds : Nat) → (count : Nat) → (before : Decimal) → Work Unit
  | 0, _, _ => pure ()
  | rounds + 1, count, before => do
    let n := steppedBy first step count
    let isPast := if step.negative then isBelow n last else isBelow last n
    if !isPast then
      Work.print (separator ++ format.text n)
      printSeries format separator first step last rounds (count + 1) n
    else
      let shown := format.number n
      let isLast : Bool := match readDecimal seriesRange shown.toList with
        | some (read, ⟨[], _⟩) => !isBelow read last && !isBelow last read
        | _ => false
      if isLast && shown ≠ format.number before then
        Work.print (separator ++ format.text n)
      Work.print "\n"

/-- A number among the arguments. -/
def seriesNumber (text : String) : Work SeriesNumber := do
  match SeriesNumber.ofText? text with
  | none => Work.mislead ("invalid floating point argument: " ++ quotedWord text) 1
  | some n =>
    if n.value.size = .nan then
      Work.mislead ("invalid 'not-a-number' argument: " ++ quotedWord text) 1
    return n

/-- A whole number that is not negative, exactly. -/
def wholeNumber? (n : SeriesNumber) : Option Nat :=
  match Decimal.signed? n.value, n.places? with
  | some (m, e), some 0 =>
    let (up, down) := Binary64.scaled m.toNat 2 e
    if m < 0 then none else some (up / down)
  | _, _ => none

/-- Prints numbers in a row. -/
def countUp : Work Unit := do
  let d ← Work.directions {
    letters := "w", valued := "fs", permutes := false, numbers := true
    names := plainNames [("equal-width", "w")] ++
      valuedNames [("format", "f"), ("separator", "s")] } 1
  let separator := (d.value? "s").getD "\n"
  match d.operands with
  | [] => missOperand 1
  | _ :: _ :: _ :: extra :: _ => refuseOperand extra 1
  | _ => pure ()
  let format? ← match d.value? "f" with
    | none => pure none
    | some text =>
      match SeriesFormat.ofText text with
      | .ok format => pure (some format)
      | .error message => Work.abandon message 1
  if format?.isSome && d.has "w" then
    Work.mislead "format string may not be specified when printing equal width strings" 1
  let isWhole := format?.isNone && !d.has "w" && separator.length = 1
  let exact := d.operands.map naturalOf?
  let isExact := isWhole && exact.all Option.isSome
  let one : SeriesNumber := { value := .ofNat 1 }
  match exact with
  | [some last] =>
    if isExact then
      if 1 ≤ last then printWhole separator 1 (some last) last 1
      return
  | [some first, some last] =>
    if isExact then
      if first ≤ last then printWhole separator 1 (some last) (last - first + 1) first
      return
  | [some first, some step, some last] =>
    if isExact && 0 < step && step ≤ 200 then
      if first ≤ last then printWhole separator step (some last) (last - first + 1) first
      return
  | _ => pure ()
  let numbers ← match d.operands with
    | [first, step, last] => do
      let first ← seriesNumber first
      let n ← seriesNumber step
      if (Decimal.signed? n.value).any (·.1 = 0) then
        Work.mislead ("invalid Zero increment value: " ++ quotedWord step) 1
      pure (first, n, ← seriesNumber last)
    | [first, last] => pure (← seriesNumber first, one, ← seriesNumber last)
    | operands => pure (one, one, ← seriesNumber (operands.headD ""))
  let (first, step, last) := numbers
  match wholeNumber? first, wholeNumber? step, wholeNumber? last with
  | some a, some 1, some b =>
    if isWhole then
      if a ≤ b then printWhole separator 1 (some b) (b - a + 1) a
      return
  | some a, some 1, none =>
    if isWhole && last.value.size = .infinite && !last.value.negative then
      printWhole separator 1 none manyRounds a
  | _, _, _ => pure ()
  let format := format?.getD (SeriesFormat.standard (d.has "w") first step last)
  let isEmpty := if step.value.negative then isBelow first.value last.value
    else isBelow last.value first.value
  if !isEmpty then
    Work.print (format.text first.value)
    printSeries format separator first.value step.value last.value manyRounds 1 first.value

end Buildwright.Sandbox.Program
