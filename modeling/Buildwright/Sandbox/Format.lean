import Buildwright.Sandbox.Decimal
import Buildwright.Sandbox.Printing
import Buildwright.Sandbox.Quoting

/-!
# Formats

What `printf` prints. In a format a percent sign begins a conversion, which prints the next
argument; the format is used again as long as arguments are left. The program and the shells differ
in the escapes and conversions that they know, and in what they say about arguments.
-/

namespace Buildwright.Sandbox

open Text (Reader)
open Text.Reader

/-! ### Conversions -/

/-- How wide or exact the output of a conversion is. -/
inductive Extent where
  | fixed (n : Nat)
  /-- The next argument says it. -/
  | given

/-- How an argument is printed. -/
structure Conversion where
  flags : List Char
  width? : Option Extent
  precision? : Option Extent
  letter : Char

/-- A part of a text in which escapes count. -/
inductive TextPart where
  | text (text : String)
  /-- Nothing more is printed. -/
  | ending
  /-- Nothing more is printed, for what is wrong with the text. -/
  | misread (message : String)

/-- A part of a format. -/
inductive FormatPart where
  | text (part : TextPart)
  | conversion (c : Conversion)

/-- The character that stands behind a format. -/
def formatEnd : Char := '\x00'

/-- A width, or a precision behind its point. -/
def extent : Reader Extent :=
  ((char '*').map fun _ => .given).orElse
    ((many1 (satisfy Char.isDigit)).map fun ds => .fixed (numberOf 10 ds))

/-- A conversion with any letter, as long as it is known to the printer how to go on. -/
def anyConversion (printer : Printer) : Reader Conversion :=
  let flags := match printer with
    | .program => "-+ #0'I"
    | .plainShell => "-+ #0"
    | .extendedShell => "-+ #0'"
  let flag := satisfy flags.toList.contains
  let size := if printer = .plainShell then fail else satisfy "lLhjtz".toList.contains
  let precision := ((char '.').andThen extent).orElse ((char '.').map fun _ => .fixed 0)
  (char '%').andThen <| manyThen flag fun flags => optionalThen extent fun width? =>
    optionalThen precision fun precision? => manyThen size fun _ =>
      anyCharacter.map fun letter => { flags, width?, precision?, letter }

/-- Whether there is a conversion of this kind. The program does not know all flags for all letters.
-/
def Conversion.isKnown (printer : Printer) (c : Conversion) : Bool :=
  let isPlain := c.flags = [] && c.width?.isNone && c.precision?.isNone
  let excluded : List Char := c.flags.flatMap fun
    | '#' => "cdisu".toList
    | '0' => "cs".toList
    | '\'' | 'I' => "aAceEosxX".toList
    | _ => []
  match printer with
  | .plainShell => "bcsdiouxXaAeEfFgG".toList.contains c.letter
  | .extendedShell => "bcsqdiouxXaAeEfFgG".toList.contains c.letter
  | .program =>
    if c.letter = 'b' || c.letter = 'q' then isPlain
    else "csdiouxXaAeEfFgG".toList.contains c.letter && !excluded.contains c.letter &&
      !(c.letter = 'c' && c.precision?.isSome)

/-! ### Escapes -/

/-- A number in capital hexadecimal digits, filled up with zeros. -/
def characterDigits (count n : Nat) : String :=
  let digits := Nat.toDigits 16 n
  String.ofList (List.replicate (count - digits.length) '0' ++ digits)

/-- A character by its number, in as many hexadecimal digits as the letter before them demands. What
is not plain is printed as such an escape again. -/
def characterEscape (letter : Char) (count : Nat) : Reader TextPart :=
  (char '\\').andThen <| (char letter).andThen <|
    (exactly (digitOf 16) count).map fun digits =>
      let n := numberOf 16 digits
      if n < 128 then .text (String.singleton (octetOf n))
      else if 0xD800 ≤ n && n < 0xE000 then
        .misread ("invalid universal character name \\" ++ letter.toString ++
          characterDigits count n)
      else .text (if n < 0x10000 then "\\u" ++ (characterDigits 4 n).toUpper
        else "\\U" ++ (characterDigits 8 n).toUpper)

/-- A character as a part of a text. -/
def TextPart.ofChar (c : Char) : TextPart := .text (String.singleton c)

/-- The escapes that the program knows, and those that it refuses. -/
def programEscape : Reader TextPart :=
  let byte := (letterEscape.orElse (octalEscape.orElse hexEscape)).map .ofChar
  let ending := ((char '\\').andThen (char 'c')).map fun _ => .ending
  let quote := ((char '\\').andThen (char '"')).map fun _ => .text "\""
  let digitless := ((char '\\').andThen (satisfy "xuU".toList.contains)).map fun _ =>
    .misread "missing hexadecimal number in escape"
  byte.orElse <| ending.orElse <| quote.orElse <| (characterEscape 'u' 4).orElse <|
    (characterEscape 'U' 8).orElse digitless

/-- The escapes that the extended shell knows. -/
def extendedEscape : Reader TextPart :=
  let sign := (char '\\').andThen (satisfy "\"'?".toList.contains)
  let capital := ((char '\\').andThen (char 'E')).map fun _ => '\x1b'
  let byte := letterEscape.orElse (octalEscape.orElse (hexEscape.orElse (capital.orElse sign)))
  (byte.map .ofChar).orElse (unicodeEscape.map .text)

/-- The parts of an argument in which escapes count. -/
def argumentParts (printer : Printer) (arg : String) : List TextPart :=
  let own := anyCharacter.map TextPart.ofChar
  let zero := zeroEscape.map TextPart.ofChar
  match printer with
  | .program => (many (zero.orElse (programEscape.orElse own)) arg.toList).1
  | .extendedShell =>
    let ending := ((char '\\').andThen (char 'c')).map fun _ => TextPart.ending
    (many (zero.orElse (ending.orElse (extendedEscape.orElse own))) arg.toList).1
  | .plainShell =>
    let (text, isWhole) := unescaped .plainShell arg
    .text text :: if isWhole then [] else [.ending]

/-! ### Parts of formats -/

/-- An escape in a format. -/
def formatEscape (printer : Printer) : Reader TextPart :=
  let unknown := ((char '\\').andThen (satisfy (· ≠ formatEnd))).map fun c =>
    TextPart.text (String.ofList ['\\', c])
  match printer with
  | .program => programEscape.orElse unknown
  | .extendedShell => extendedEscape
  | .plainShell => (letterEscape.orElse octalEscape).map .ofChar

/-- The parts of a format, of which one that cannot be read is the last. -/
def formatParts (printer : Printer) (format : List Char) : List FormatPart :=
  let percent := ((char '%').andThen (char '%')).map fun _ => TextPart.text "%"
  let own := (satisfy fun c => c ≠ '%' && c ≠ formatEnd).map TextPart.ofChar
  let known := (anyConversion printer).filterMap fun c =>
    if c.isKnown printer then some (FormatPart.conversion c) else none
  let part := (percent.map .text).orElse <| known.orElse <|
    ((formatEscape printer).orElse own).map .text
  let (parts, rest) := many part (format ++ [formatEnd])
  match anyConversion printer rest.1 with
  | none => parts
  | some (c, behind) =>
    let text := (rest.1.take (rest.1.length - behind.1.length)).filter (· ≠ formatEnd)
    let shown := String.ofList text
    parts ++ [.text (.misread (
      match printer with
      | .program => shown ++ ": invalid conversion specification"
      | .plainShell =>
        if c.letter = formatEnd then "missing format character" else shown ++ ": invalid directive"
      | .extendedShell =>
        if c.letter = formatEnd then "\x60" ++ shown ++ "': missing format character"
        else "\x60" ++ String.singleton c.letter ++ "': invalid format character"))]

/-! ### Arguments -/

/-- What is wrong with an argument. -/
inductive ArgumentFault where
  | noNumber
  | outOfRange
  /-- More stands behind the number. -/
  | incomplete
  /-- More stands behind the character that stands for its number. -/
  | excess (rest : List Char)
  | badWidth
  | badPrecision
  deriving DecidableEq

/-- What is said about an argument. -/
def ArgumentFault.message (printer : Printer) (arg : String) : ArgumentFault → String
  | noNumber =>
    match printer with
    | .program => quotedWord arg ++ ": expected a numeric value"
    | .plainShell => arg ++ ": expected numeric value"
    | .extendedShell => arg ++ ": invalid number"
  | incomplete =>
    match printer with
    | .program => quotedWord arg ++ ": value not completely converted"
    | .plainShell => arg ++ ": not completely converted"
    | .extendedShell => arg ++ ": invalid number"
  | outOfRange =>
    match printer with
    | .program => quotedWord arg ++ ": Numerical result out of range"
    | .plainShell => arg ++ ": Numerical result out of range"
    | .extendedShell => "warning: " ++ arg ++ ": Numerical result out of range"
  | excess rest =>
    "warning: " ++ String.ofList rest ++
      ": character(s) following character constant have been ignored"
  | badWidth => "invalid field width: " ++ quotedWord arg
  | badPrecision => "invalid precision: " ++ quotedWord arg

/-- Whether a fault is more than something to be warned of. -/
def ArgumentFault.isSerious (printer : Printer) : ArgumentFault → Bool
  | excess _ => false
  | outOfRange => printer ≠ .extendedShell
  | _ => true

/-- What was printed so far. -/
structure Printed where
  text : String := ""
  /-- What was wrong with arguments. -/
  faults : List (String × ArgumentFault) := []
  /-- The arguments that are left. -/
  args : List String
  /-- What is wrong with the format, or with an argument in which escapes count. -/
  misread? : Option String := none
  stopped : Bool := false

namespace Printed

/-- Prints a part of a text, unless nothing more is printed. -/
def put (p : Printed) (part : TextPart) : Printed :=
  if p.stopped then p
  else match part with
    | .text t => { p with text := p.text ++ t }
    | .ending => { p with stopped := true }
    | .misread message => { p with misread? := some message, stopped := true }

/-- Takes the next argument. -/
def take (p : Printed) : Option String × Printed := (p.args.head?, { p with args := p.args.tail })

/-- Notes what is wrong with an argument. -/
def noting (p : Printed) (arg : String) (fault : ArgumentFault) : Printed :=
  { p with faults := p.faults ++ [(arg, fault)] }

/-- The number of the character behind a quote, if an argument is one, with what stands behind it.
-/
def characterNumber? (printer : Printer) (cs : List Char) : Option (Nat × List Char) :=
  match cs with
  | quote :: behind =>
    if quote ≠ '\'' && quote ≠ '"' then none
    else match behind with
      | c :: rest => some (c.toNat, if printer = .program then rest else [])
      | [] => if printer = .program then none else some (0, [])
  | [] => none

/-- Notes that something stands behind a number or character. -/
def notingRest (p : Printed) (arg : String) (rest : List Char) (fault : ArgumentFault) : Printed :=
  if rest = [] then p else p.noting arg fault

/-- Takes the next argument as an integer between bounds; a missing one is zero. -/
def takeInteger (printer : Printer) (p : Printed) (least greatest : Int) : Int × Printed :=
  let (arg?, p) := p.take
  let arg := arg?.getD ""
  let cs := arg.toList
  match characterNumber? printer cs with
  | some (n, rest) => (n, p.notingRest arg rest (.excess rest))
  | none =>
    if cs = [] then (0, p)
    else match signedNumber cs with
      | none => (0, p.noting arg .noNumber)
      | some (n, rest) =>
        let within := max least (min greatest n)
        if within ≠ n then (within, p.noting arg .outOfRange)
        else (n, p.notingRest arg rest.1 .incomplete)

/-- Takes the next argument as a decimal; a missing one is zero. -/
def takeDecimal (printer : Printer) (p : Printed) : Decimal × Printed :=
  let (arg?, p) := p.take
  let arg := arg?.getD ""
  let cs := arg.toList
  match characterNumber? printer cs with
  | some (n, rest) => (.ofNat n, p.notingRest arg rest (.excess rest))
  | none =>
    if cs = [] then (.ofNat 0, p)
    else match readDecimal (.of (printer ≠ .plainShell)) cs with
      | none => (.ofNat 0, p.noting arg .noNumber)
      | some (n, rest) =>
        (n, if n.outOfRange then p.noting arg .outOfRange
          else p.notingRest arg rest.1 .incomplete)

/-- Takes what the next argument says of an extent, if that is left to it. What needs more than 32
bits stops the program. -/
def takeExtent (printer : Printer) (p : Printed) (fault : ArgumentFault) :
    Option Extent → Option Int × Printed
  | none => (none, p)
  | some (.fixed n) => (some n, p)
  | some .given =>
    let arg := p.args.headD ""
    let (n, p) := p.takeInteger printer leastInteger greatestInteger
    let short := Int.bmod n shortCount
    let isNegativePrecision := fault = .badPrecision && n < 0
    if printer = .program && short ≠ n && !isNegativePrecision then
      (none, { p.noting arg fault with stopped := true })
    else (some (if isNegativePrecision then -1 else short), p)

end Printed

/-! ### Printing by formats -/

/-- A text filled up to a width: on the right, with zeros behind the sign, or on the left. -/
def padded (left zeros : Bool) (width : Nat) (sign text : String) : String :=
  let fill := fun c => String.ofList (List.replicate (width - sign.length - text.length) c)
  if left then sign ++ text ++ fill ' '
  else if zeros then sign ++ fill '0' ++ text
  else fill ' ' ++ sign ++ text

/-- The digits of a number in a base. -/
def digitsIn (base : Nat) (upper : Bool) (n : Nat) : List Char :=
  let digits := Nat.toDigits base n
  if upper then digits.map Char.toUpper else digits

/-- The sign of a number as the flags ask for it. -/
def signText (flags : List Char) (negative : Bool) : List Char :=
  if negative then ['-'] else if flags.contains '+' then ['+']
  else if flags.contains ' ' then [' '] else []

/-- The sign and the digits of an integer as a conversion prints them. -/
def integerText (c : Conversion) (precision? : Option Nat) (n : Int) : List Char × List Char :=
  let magnitude := (n % (integerCount : Int)).toNat
  let (sign, digits) : List Char × List Char :=
    match c.letter with
    | 'o' =>
      let digits := digitsIn 8 false magnitude
      ([], if c.flags.contains '#' && digits.head? ≠ some '0' then '0' :: digits else digits)
    | 'u' => ([], digitsIn 10 false magnitude)
    | 'x' => (if c.flags.contains '#' && magnitude ≠ 0 then ['0', 'x'] else [],
        digitsIn 16 false magnitude)
    | 'X' => (if c.flags.contains '#' && magnitude ≠ 0 then ['0', 'X'] else [],
        digitsIn 16 true magnitude)
    | _ => (signText c.flags (n < 0), digitsIn 10 false n.natAbs)
  let digits := if precision? = some 0 && n = 0 then [] else digits
  (sign, List.replicate (precision?.getD 0 - digits.length) '0' ++ digits)

/-- The sign and the digits of a decimal as a conversion prints them. -/
def decimalText (printer : Printer) (c : Conversion) (precision? : Option Nat) (n : Decimal) :
    List Char × List Char :=
  let precision := precision?.getD 6
  let alternate := c.flags.contains '#'
  let capital := fun (text : List Char) =>
    if c.letter.isUpper then text.map Char.toUpper else text
  let (front, text) : List Char × List Char :=
    match n.size with
    | .finite mantissa exponent =>
      let (n, d) := Binary64.scaled mantissa 2 exponent
      match c.letter.toLower with
      | 'a' => (['0', 'x'],
          hexadecimalText (.of (printer ≠ .plainShell)) precision? alternate mantissa exponent)
      | 'f' => ([], fixedText precision alternate n d)
      | 'e' =>
        let (digits, exponent) := exponentDigits precision n d
        ([], exponentText precision alternate digits exponent)
      | _ => ([], generalText precision alternate n d)
    | .infinite => ([], ['i', 'n', 'f'])
    | .nan => ([], ['n', 'a', 'n'])
  (signText c.flags n.negative ++ capital front, capital text)

/-- Prints by a conversion; `quote` is how the printer puts a text between quotes. -/
def Conversion.print (printer : Printer) (quote : String → String) (c : Conversion) (p : Printed) :
    Printed :=
  let (width?, p) := p.takeExtent printer .badWidth c.width?
  let (precision?, p) := if p.stopped then (none, p)
    else p.takeExtent printer .badPrecision c.precision?
  let width := (width?.getD 0).natAbs
  let precision? := precision?.bind fun n => if n < 0 then none else some n.toNat
  let left := c.flags.contains '-' || width?.getD 0 < 0
  let isSigned := c.letter = 'd' || c.letter = 'i'
  let text (t : String) (p : Printed) : Printed :=
    { p with text := p.text ++ padded left false width "" t }
  let number (zeros : Bool) (signed : List Char × List Char) (p : Printed) : Printed :=
    { p with text := p.text ++
        padded left zeros width (String.ofList signed.1) (String.ofList signed.2) }
  let cut := fun (t : String) => (precision?.map fun n => String.ofList (t.toList.take n)).getD t
  if p.stopped || shortCount ≤ 2 * max width (precision?.getD 0) then p
  else if c.letter = 'b' then
    let (arg?, p) := p.take
    let parts := argumentParts printer (arg?.getD "")
    let shown := parts.foldl Printed.put { args := [] }
    { text (cut shown.text) p with misread? := shown.misread?, stopped := shown.stopped }
  else if c.letter = 's' then
    let (arg?, p) := p.take
    text (cut (arg?.getD "")) p
  else if c.letter = 'q' then
    let (arg?, p) := p.take
    text (cut (quote (arg?.getD ""))) p
  else if c.letter = 'c' then
    let (arg?, p) := p.take
    text (String.singleton ((arg?.getD "").toList.headD '\x00')) p
  else if "aAeEfFgG".toList.contains c.letter then
    let (n, p) := p.takeDecimal printer
    number (c.flags.contains '0' && n.size.isFinite) (decimalText printer c precision? n) p
  else
    let (n, p) := p.takeInteger printer (if isSigned then leastInteger else 1 - integerCount)
      (if isSigned then greatestInteger else integerCount - 1)
    number (c.flags.contains '0' && precision?.isNone) (integerText c precision? n) p

/-- Prints the parts of a format once. -/
def printOnce (printer : Printer) (quote : String → String) (parts : List FormatPart)
    (p : Printed) : Printed :=
  parts.foldl (fun p part =>
    match part with
    | .text part => p.put part
    | .conversion c => if p.stopped then p else c.print printer quote p) p

/-- Prints the parts of a format, and again with the arguments that are left, in at most `rounds`
rounds. -/
def printRounds (printer : Printer) (quote : String → String) (parts : List FormatPart) :
    (rounds : Nat) → Printed → Printed
  | 0, p => p
  | rounds + 1, p =>
    let next := printOnce printer quote parts p
    if next.stopped || next.args.isEmpty || next.args.length = p.args.length then next
    else printRounds printer quote parts rounds next

/-- What `printf` did. -/
structure PrintedFormat where
  text : String
  /-- What was wrong with its arguments. -/
  messages : List String
  /-- What is wrong with the format, or with an argument in which escapes count. -/
  misread? : Option String
  failed : Bool

/-- What `printf` does. -/
def formatted (printer : Printer) (quote : String → String) (format : String)
    (args : List String) : PrintedFormat :=
  let parts := formatParts printer format.toList
  let p := printRounds printer quote parts (args.length + 1) { args }
  let isExcess := printer = .program && !p.stopped && !p.args.isEmpty
  let excess := "warning: ignoring excess arguments, starting with " ++
    quotedWord (p.args.headD "")
  { text := p.text
    messages := p.faults.map (fun (arg, fault) => fault.message printer arg) ++
      if isExcess then [excess] else []
    misread? := p.misread?
    failed := p.misread?.isSome || p.faults.any (·.2.isSerious printer) }

end Buildwright.Sandbox
