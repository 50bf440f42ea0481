import Buildwright.Sandbox.Pattern
import Buildwright.Sandbox.Printing
import Buildwright.Sandbox.Program.Source

/-!
# Replacing characters

The program that replaces, removes or squeezes characters. Its arguments are rows of characters, in
which ranges, classes and repetitions may stand for several of them.
-/

namespace Buildwright.Sandbox.Program

/-! ### Rows of characters -/

/-- A part of a row. -/
inductive RowPart where
  | char (c : Char)
  | range (low high : Char)
  /-- The members of a class. -/
  | members (name : String) (all : List Char)
  /-- The characters that are equal to one in the order of texts. -/
  | equal (c : Char)
  /-- A character so many times; without a number it fills what is missing. -/
  | repeated (c : Char) (count? : Option Nat)

/-- All characters. -/
def everyCharacter : List Char := (List.range 256).map Char.ofNat

/-- The characters of a part. -/
def RowPart.characters : RowPart → List Char
  | char c | equal c => [c]
  | range low high => (List.range (high.toNat + 1 - low.toNat)).map fun i =>
      Char.ofNat (low.toNat + i)
  | members _ all => all
  | repeated c count? => List.replicate (count?.getD 0) c

/-- Whether a part is the capital letters, or the small ones. -/
def RowPart.isCase : RowPart → Bool
  | members name _ => name = "upper" || name = "lower"
  | _ => false

/-- A character of a row, with a mark if there was a backslash in front of it. -/
structure Mark where
  char : Char
  escaped : Bool

/-- The characters of a row, and what is to be noted about it. -/
def marksOf : (rounds : Nat) → List Char → List Mark × List String
  | 0, _ | _, [] => ([], [])
  | rounds + 1, '\\' :: cs =>
    match cs with
    | [] =>
      ([⟨'\\', false⟩], ["warning: an unescaped backslash at end of string is not portable"])
    | c :: rest =>
      let digits := (cs.take 3).takeWhile fun c => '0' ≤ c && c ≤ '7'
      let (marks, behind, notes) : List Mark × List Char × List String :=
        if digits.isEmpty then
          let own := if c = 'e' then none else escapedLetter? c
          ([⟨own.getD c, true⟩], rest, [])
        else
          let short := digits.take 2
          let shown := String.ofList short
          if numberOf 8 digits < 256 then
            ([⟨Char.ofNat (numberOf 8 digits), true⟩], cs.drop digits.length, [])
          else ([⟨Char.ofNat (numberOf 8 short), true⟩], cs.drop 2,
            ["warning: the ambiguous octal escape \\" ++ String.ofList digits ++
              " is being\n\tinterpreted as the 2-byte sequence \\0" ++ shown ++ ", " ++
              String.ofList (digits.drop 2)])
      let (others, later) := marksOf rounds behind
      (marks ++ others, notes ++ later)
  | rounds + 1, c :: cs =>
    let (others, later) := marksOf rounds cs
    (⟨c, false⟩ :: others, later)

/-- A character in a form that can be printed. -/
def printableForm (c : Char) : String :=
  if isPrintable c then String.singleton c else String.ofList ('\\' :: octalDigits c)

/-- The text of marks in a form that can be printed. -/
def printableText (marks : List Mark) : String :=
  String.join (marks.map fun mark =>
    match mark.char, escapeLetter? mark.char with
    | '\\', _ => "\\\\"
    | _, some letter => "\\" ++ String.singleton letter
    | c, none => printableForm c)

/-- Whether a mark is a sign, and not a character behind a backslash. -/
def Mark.is (mark : Mark) (c : Char) : Bool := mark.char = c && !mark.escaped

/-- What stands between two signs, up to the second of them and a bracket. -/
def insideBrackets? (sign : Char) : List Mark → Option (List Mark × List Mark)
  | a :: b :: rest =>
    if a.is sign && b.is ']' then some ([], rest)
    else (insideBrackets? sign (b :: rest)).map fun (inside, rest) => (a :: inside, rest)
  | _ => none

/-- The digits behind a star, up to a bracket. -/
def behindStar? (marks : List Mark) : Option (List Mark × List Mark) :=
  let inside := marks.takeWhile fun mark => !mark.escaped && mark.char ≠ ']'
  match marks.drop inside.length with
  | close :: rest => if close.is ']' then some (inside, rest) else none
  | [] => none

/-- A character with a star and digits behind it: a repetition. -/
def repetitionIn? (marks : List Mark) : Option (Except String (RowPart × List Mark)) :=
  match marks with
  | c :: star :: rest =>
    if !star.is '*' then none
    else (behindStar? rest).map fun (inside, rest) =>
      let digits := inside.map (·.char)
      let base := if digits.head? = some '0' then 8 else 10
      let n := numberOf base digits
      if digits.isEmpty then .ok (.repeated c.char none, rest)
      else if digits.all (digitValue · < base) && n < integerCount - 1 then
        .ok (.repeated c.char (if n = 0 then none else some n), rest)
      else .error ("invalid repeat count " ++ quotedWord (printableText inside) ++
        " in [c*n] construct")
  | _ => none

/-- Whether a star, digits and a bracket stand at the front. -/
def isStarred (marks : List Mark) : Bool :=
  match marks with
  | star :: rest => star.is '*' && (behindStar? rest).any fun (inside, _) =>
      inside.all (·.char.isDigit)
  | [] => false

/-- A class, a set of equal characters or a repetition behind a bracket. -/
def bracketed? (marks : List Mark) : Option (Except String (RowPart × List Mark)) :=
  let named? : Option (Char × List Mark × List Mark × List Mark) := match marks with
    | sign :: rest =>
      if sign.is ':' || sign.is '=' then
        (insideBrackets? sign.char rest).map fun (inside, behind) => (sign.char, inside, behind, rest)
      else none
    | [] => none
  match named? with
  | none => repetitionIn? marks
  | some (':', [], _, _) => some (.error "missing character class name '[::]'")
  | some (_, [], _, _) => some (.error "missing equivalence class character '[==]'")
  | some (':', inside, behind, rest) =>
    let name := String.ofList (inside.map (·.char))
    match characterClass? name with
    | some holds => some (.ok (.members name (everyCharacter.filter holds), behind))
    | none =>
      if isStarred rest then repetitionIn? marks
      else some (.error ("invalid character class " ++ quotedWord (printableText inside)))
  | some (_, [c], behind, _) => some (.ok (.equal c.char, behind))
  | some (_, inside, _, rest) =>
    if isStarred rest then repetitionIn? marks
    else some (.error
      (printableText inside ++ ": equivalence class operand must be a single character"))

/-- The parts of a row. -/
def partsOf : (rounds : Nat) → List Mark → Except String (List RowPart)
  | 0, _ => .ok []
  | rounds + 1, marks =>
    match marks with
    | a :: b :: c :: rest =>
      let bracketed := if a.is '[' then bracketed? (b :: c :: rest) else none
      match bracketed with
      | some (.error message) => .error message
      | some (.ok (part, behind)) => (partsOf rounds behind).map (part :: ·)
      | none =>
        if b.is '-' then
          if c.char < a.char then
            .error ("range-endpoints of '" ++ printableForm a.char ++ "-" ++ printableForm c.char ++
              "' are in reverse collating sequence order")
          else (partsOf rounds rest).map (.range a.char c.char :: ·)
        else (partsOf rounds (b :: c :: rest)).map (.char a.char :: ·)
    | marks => .ok (marks.map fun mark => .char mark.char)

/-! ### Tables -/

/-- How characters are replaced, in the order in which that is said. -/
abbrev Exchange := List (Char × Char)

/-- How many characters of a row count where cases are exchanged. -/
def countedLength (parts : List RowPart) : Nat :=
  parts.foldl (fun n part => n + if part.isCase then 1 else part.characters.length) 0

/-- The row in which what fills the missing characters has a number. -/
def filledRow (length : Nat) (parts : List RowPart) : List RowPart :=
  let known := parts.foldl (fun n part => n + part.characters.length) 0
  parts.map fun part =>
    match part with
    | .repeated c none => .repeated c (some (length - known))
    | part => part

/-- The characters of a row, where a class of capital or small letters is marked at its first one.
-/
def cellsOf (parts : List RowPart) : List (Char × Option RowPart) :=
  parts.flatMap fun part =>
    (part.characters.zipIdx).map fun (c, i) => (c, if part.isCase && i = 0 then some part else none)

/-- What is left of a row behind a class. -/
def behindPart (part : RowPart) (cells : List (Char × Option RowPart)) :
    List (Char × Option RowPart) :=
  cells.drop part.characters.length

/-- The exchange of the characters of two rows; classes of letters are exchanged as a whole. The
error says that a class of the second one has no partner. -/
def exchangeOf : (rounds : Nat) → (first second : List (Char × Option RowPart)) →
    Except String Exchange
  | 0, _, _ => .ok []
  | rounds + 1, (a, part?) :: first, (b, partner?) :: second =>
    match part?, partner? with
    | some part, some partner => do
      let letters := part.characters.zip partner.characters
      return letters ++ (← exchangeOf rounds (behindPart part ((a, part?) :: first))
        (behindPart partner ((b, partner?) :: second)))
    | none, some _ => .error "misaligned [:upper:] and/or [:lower:] construct"
    | _, none => return (a, b) :: (← exchangeOf rounds first second)
  | _, _, _ => .ok []

/-- What the program for characters is told. -/
structure CharacterStyle where
  complement : Bool
  deletes : Bool
  squeezes : Bool
  truncates : Bool

/-- The members of the first row. -/
def CharacterStyle.members (style : CharacterStyle) (parts : List RowPart) : List Char :=
  let own := parts.flatMap RowPart.characters
  if style.complement then everyCharacter.filter (!own.contains ·) else own

/-- The second row, made as long as the first one. -/
def extended (length : Nat) (parts : List RowPart) : Except String (List RowPart) :=
  let missing := length - countedLength parts
  if missing = 0 then .ok parts
  else match parts.getLast? with
    | none => .error "when not truncating set1, string2 must be non-empty"
    | some (.members _ _) => .error ("when translating with string1 longer than string2,\n" ++
        "the latter string must not end with a character class")
    | some part => .ok (parts ++ [.repeated (part.characters.getLastD '\x00') (some missing)])

/-- The exchange that two rows ask for. -/
def CharacterStyle.exchange (style : CharacterStyle) (first second : List RowPart) :
    Except String Exchange := do
  let members := style.members first
  let isNamed (part : RowPart) : Bool := match part with
    | .members _ _ => true
    | _ => false
  if second.any fun part => match part with
      | .equal _ => true
      | _ => false then
    throw "[=c=] expressions may not appear in string2 when translating"
  if second.any fun part => isNamed part && !part.isCase then
    throw ("when translating, the only character classes that may appear in\n" ++
      "string2 are 'upper' and 'lower'")
  let exchangesCase := !style.complement && second.any RowPart.isCase
  if exchangesCase then
    let _ ← exchangeOf (members.length + 1) (cellsOf first) (cellsOf second)
  let length (parts : List RowPart) : Nat :=
    if exchangesCase then countedLength parts else (parts.flatMap RowPart.characters).length
  let needed := if style.complement then members.length else length first
  let isShort := length second < needed
  if isShort && !style.truncates && second.flatMap RowPart.characters = [] then
    throw "when not truncating set1, string2 must be non-empty"
  let second ← if isShort && !style.truncates then extended needed second else pure second
  let others := second.flatMap RowPart.characters
  if style.complement && first.any isNamed &&
      !(others.length = members.length && others.all (some · = others.head?)) then
    throw ("when translating with complemented character classes,\n" ++
      "string2 must map all characters in the domain to one")
  if style.complement then return members.zip others
  exchangeOf (members.length + 1) (cellsOf first) (cellsOf second)

/-- The rows that arguments stand for, after they are checked against each other. -/
def checkedRows (style : CharacterStyle) (translates : Bool) (first : List RowPart)
    (second? : Option (List RowPart)) : Except String (Option (List RowPart)) := do
  let isOpen (part : RowPart) : Bool := match part with
    | .repeated _ none => true
    | _ => false
  if first.any isOpen then throw "the [c*] repeat construct may not appear in string1"
  match second? with
  | none => return none
  | some second =>
    if 1 < (second.filter isOpen).length then
      throw "only one [c*] repeat construct may appear in string2"
    if !translates && second.any isOpen then
      throw "the [c*] construct may appear in string2 only when translating"
    return some (filledRow (style.members first).length second)

/-! ### The program -/

/-- A function on bytes, as a table. -/
def tableOf (change : Char → Char) : Array Char := (everyCharacter.map change).toArray

/-- The members of a row, as a table. -/
def membersTable (members : List Char) : Array Bool :=
  (everyCharacter.map members.contains).toArray

/-- A text in which members of a row do not stand twice behind each other. -/
def squeezed (isMember : Char → Bool) (last? : Option Char) (text : List Char) : List Char :=
  match text with
  | [] => []
  | c :: cs =>
    if last? = some c && isMember c then squeezed isMember last? cs
    else c :: squeezed isMember (some c) cs

/-- The parts of a row that an argument stands for. -/
def rowOf (text : String) : Work (List RowPart) := do
  let (marks, notes) := marksOf text.length text.toList
  for note in notes do Work.warn note
  match partsOf (marks.length + 1) marks with
  | .ok parts => return parts
  | .error message => Work.abandon message 1

/-- What is done with a text. -/
structure CharacterChange where
  deleted : Array Bool
  exchanged : Array Char
  squeezed : Array Bool

/-- Reads, changes and writes, part by part. -/
def changeInput (change : CharacterChange) : (rounds : Nat) → (last? : Option Char) → Work Unit
  | 0, _ => pure ()
  | rounds + 1, last? => do
    match ← Work.ask (.read 0 readUnit) with
    | .error fault => Work.abandon ("read error: " ++ fault.reason) 1
    | .ok bytes =>
      if bytes.isEmpty then return
      let at_ (table : Array Bool) (c : Char) : Bool := table.getD c.toNat false
      let kept := (octetText bytes).toList.filter fun c => !at_ change.deleted c
      let exchanged := kept.map fun c => change.exchanged.getD c.toNat c
      let shown := Program.squeezed (at_ change.squeezed) last? exchanged
      Work.print (String.ofList shown)
      changeInput change rounds (exchanged.getLast?.or last?)

/-- Replaces, removes or squeezes characters of what is handed over. -/
def changeCharacters : Work Unit := do
  let d ← Work.directions {
    letters := "AcCdst", permutes := false
    names := plainNames [("complement", "c"), ("delete", "d"), ("squeeze-repeats", "s"),
      ("truncate-set1", "t")] } 1
  let style : CharacterStyle := {
    complement := d.hasAny ["c", "C"], deletes := d.has "d", squeezes := d.has "s"
    truncates := d.has "t" }
  let least := if style.deletes = style.squeezes then 2 else 1
  let most := if style.deletes && !style.squeezes then 1 else 2
  let misleading {α : Type} (message : String) (note? : Option String) : Work α := do
    Work.warn message
    if let some note := note? then Work.remark (note ++ "\n")
    Work.pointToHelp
    Work.exit 1
  match d.operands with
  | [] => missOperand 1
  | [only] =>
    if least = 2 then
      misleading ("missing operand after " ++ quotedWord only)
        (some (if style.squeezes then
          "Two strings must be given when both deleting and squeezing repeats."
        else "Two strings must be given when translating."))
  | first :: second :: others =>
    if most = 1 then
      misleading ("extra operand " ++ quotedWord second) (if others.isEmpty then
        some "Only one string may be given when deleting without squeezing repeats." else none)
    if let extra :: _ := others then misleading ("extra operand " ++ quotedWord extra) none
    let _ := first
  let translates := d.operands.length = 2 && !style.deletes
  let parts ← d.operands.mapM rowOf
  let first := parts.headD []
  let failing {α : Type} (message : String) : Work α := Work.abandon message 1
  let second? ← match checkedRows style translates first parts[1]? with
    | .ok second? => pure second?
    | .error message => failing message
  let exchange ← match second?.filter fun _ => translates with
    | none => pure []
    | some second =>
      match style.exchange first second with
      | .ok exchange => pure exchange
      | .error message => failing message
  let members := style.members first
  let others := second?.map fun parts => parts.flatMap RowPart.characters
  let later := exchange.reverse
  changeInput {
    deleted := membersTable (if style.deletes then members else [])
    exchanged := tableOf fun c => (later.lookup c).getD c
    squeezed := membersTable (if style.squeezes then others.getD members else []) }
    manyRounds none

end Buildwright.Sandbox.Program
