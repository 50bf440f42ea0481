import Buildwright.Sandbox.Digits
import Buildwright.Sandbox.Octets
import Buildwright.Sandbox.Shell.Reading

/-!
# Words of the shell

How the words of a script are written: characters as they are, behind a backslash or between quotes,
and parameters, statements and expressions behind a dollar sign. What stands behind a dollar sign
may itself contain words, so that reading comes in levels, of which each knows the one below.
-/

namespace Buildwright.Sandbox.Shell

/-! ### Surroundings -/

/-- Where the pieces of a word stand. -/
inductive Site where
  /-- Not within anything. -/
  | plain
  /-- Between double quotes. -/
  | quotes
  /-- In a parameter in braces. -/
  | braces
  /-- In an expression in two pairs of parentheses. -/
  | sum
  /-- In a text that a statement reads. -/
  | document
  /-- In a group of a pattern. -/
  | group
  /-- In a regular expression, where parentheses may contain what ends words elsewhere. -/
  | regular
  deriving DecidableEq

/-- Where pieces stand, and what ends them. -/
structure Surrounding where
  site : Site
  /-- Whether quotes stand around them. -/
  quoted : Bool
  /-- Characters that end them besides. -/
  stops : String := ""

/-- Whether parentheses are counted. -/
def Surrounding.countsDepth (within : Surrounding) : Bool :=
  within.site = .sum || within.site = .group || within.site = .regular

/-- Reads pieces up to what ends them. The second result says whether quotes were among them, and
the third is the character that ended them if there are several. -/
abbrev PieceReader := Surrounding → Parse (Pieces × Bool × Option Char)

/-- Whether a character is a blank or a line end. -/
def isSpace (c : Char) : Bool := c = ' ' || c = '\t' || c = '\n'

/-- Whether a character ends a word. -/
def isBreak (c : Char) : Bool := " \t\n;&|<>()".toList.contains c

/-! ### Quotes -/

/-- The characters between single quotes, behind the first one. -/
def singleQuoted (line : Nat) : (rounds : Nat) → String → Parse String
  | 0, text => return text
  | rounds + 1, text => do
    match ← getChar with
    | none => unclosed "Unterminated quoted string" "'" line
    | some '\'' => return text
    | some c =>
      if c = '\n' then countLine
      singleQuoted line rounds (text.push c)

/-- A character as UTF-8. -/
def unicodeOctets (code : Nat) : String := octetsOfUnicode (String.singleton (Char.ofNat code))

/-- Digits of a base, at most so many. -/
def takeDigits (base : Nat) : (count : Nat) → Parse (List Char)
  | 0 => return []
  | count + 1 => do
    match ← getChar with
    | some c =>
      if digitValue c < base then return c :: (← takeDigits base count)
      else
        putBack (some c)
        return []
    | none => return []

/-- What an escape stands for behind a dollar sign and a single quote. -/
def escapedQuoted : Parse String := do
  match ← getChar with
  | none => return "\\"
  | some c =>
    match c with
    | 'n' => return "\n"
    | 't' => return "\t"
    | 'r' => return "\r"
    | 'a' => return "\x07"
    | 'b' => return "\x08"
    | 'e' | 'E' => return "\x1b"
    | 'f' => return "\x0c"
    | 'v' => return "\x0b"
    | '\\' | '\'' | '"' | '?' => return String.singleton c
    | 'c' =>
      match ← getChar with
      | some d => return String.singleton (Char.ofNat (d.toUpper.toNat % 32))
      | none => return "\\c"
    | 'x' =>
      let digits ← takeDigits 16 2
      return if digits.isEmpty then "\\x"
        else String.singleton (Char.ofNat (numberOf 16 digits))
    | 'u' | 'U' =>
      let digits ← takeDigits 16 (if c = 'u' then 4 else 8)
      if digits.isEmpty then return "\\" ++ String.singleton c
      return unicodeOctets (numberOf 16 digits)
    | c =>
      if digitValue c < 8 then
        let digits ← takeDigits 8 2
        return String.singleton (Char.ofNat (numberOf 8 (c :: digits) % 256))
      return "\\" ++ String.singleton c

/-- The characters behind a dollar sign and a single quote. -/
def escapedText (line : Nat) : (rounds : Nat) → String → Parse String
  | 0, text => return text
  | rounds + 1, text => do
    match ← getChar with
    | none => unclosed "Unterminated quoted string" "'" line
    | some '\'' => return text
    | some '\\' => escapedText line rounds (text ++ (← escapedQuoted))
    | some c =>
      if c = '\n' then countLine
      escapedText line rounds (text.push c)

/-! ### Parameters -/

/-- The parameter that a sign names. -/
def signParameter? : Char → Option Parameter
  | '@' => some .each
  | '*' => some .joined
  | '#' => some .count
  | '?' => some .status
  | '$' => some .process
  | '!' => some .background
  | '-' => some .options
  | _ => none

/-- What the characters of a text stand for, all of them as they are. -/
def rawPieces (text : String) : Word := [.text text true]

/-- Reads pieces that end with a brace, behind the first of them. -/
def bracedWord (read : PieceReader) (quoted : Bool) : Parse Word :=
  return (← read { site := .braces, quoted }).1.reverse

/-- What is taken of a parameter whose sign is an operator without a value. -/
def fallbackOf? : Char → Option Fallback
  | '-' => some .replace
  | '=' => some .assign
  | '?' => some .complain
  | '+' => some .alternative
  | _ => none

/-- What is taken of a parameter in braces, behind its name. -/
def parameterUse (read : PieceReader) (quoted : Bool) : Parse ParameterUse := do
  let senseless : Parse ParameterUse := do
    let _ ← bracedWord read quoted
    return .senseless ""
  let withFallback (emptyToo : Bool) (c? : Option Char) : Parse ParameterUse := do
    match c?.bind fallbackOf? with
    | some kind => return .fallback kind emptyToo (← bracedWord read quoted)
    | none =>
      if c?.isNone then putBack c?
      senseless
  match ← nextChar with
  | some '\x7d' => return .value
  | some ':' => withFallback true (← nextChar)
  | some '%' =>
    let longest ← takeChar '%'
    return .trimmed true longest (← bracedWord read false)
  | some '#' =>
    let longest ← takeChar '#'
    return .trimmed false longest (← bracedWord read false)
  | c? => withFallback false c?

/-- A parameter in braces, behind the opening one. -/
def bracedPlain (read : PieceReader) (quoted : Bool) : Parse Piece := do
  let senseless : Parse Piece := do
    let _ ← bracedWord read quoted
    return .parameter .count (.senseless "") quoted
  let withUse (p : Parameter) : Parse Piece :=
    return .parameter p (← parameterUse read quoted) quoted
  let length (p : Parameter) : Parse Piece := do
    if ← takeChar '\x7d' then return .parameter p .length quoted
    senseless
  let numbered (c : Char) : Parse Parameter := do
    let digits ← takeWhile Char.isDigit readingRounds (String.singleton c)
    return .position (numberOf 10 digits.toList)
  match ← nextChar with
  | none => senseless
  | some '\x7d' =>
    putBack (some '\x7d')
    senseless
  | some c =>
    if isNameStart c then
      withUse (.named ((String.singleton c) ++ (← takeName)))
    else if c.isDigit then withUse (← numbered c)
    else if c = '#' then
      match ← nextChar with
      | none => withUse .count
      | some d =>
        if isNameStart d then length (.named ((String.singleton d) ++ (← takeName)))
        else if d.isDigit then length (← numbered d)
        else
          let e? ← nextChar
          putBack e?
          match signParameter? d with
          | some p =>
            if d ≠ '\x7d' && e? = some '\x7d' then length p
            else
              putBack (some d)
              withUse .count
          | none =>
            putBack (some d)
            withUse .count
    else match signParameter? c with
      | some p => withUse p
      | none => senseless

/-! ### Parameters of the extended shell -/

/-- The position behind the name of a row, if there is one. -/
def subscript? (read : PieceReader) : Parse (Option Word) := do
  if ← takeChar '[' then
    let (pieces, _, _) ← read { site := .braces, quoted := false, stops := "]" }
    return some pieces.reverse
  return none

/-- The parameter with a name, and a position if there is one. -/
def namedParameter (read : PieceReader) (name : String) : Parse Parameter := do
  match ← subscript? read with
  | none => return .named name
  | some [.text "@" false] => return .elements name false
  | some [.text "*" false] => return .elements name true
  | some index => return .element name index

/-- A parameter of any kind. -/
def anyParameter? (read : PieceReader) : Parse (Option Parameter) := do
  match ← nextChar with
  | none => return none
  | some c =>
    if isNameStart c then return some (← namedParameter read (String.singleton c ++ (← takeName)))
    else if c.isDigit then
      let digits ← takeWhile Char.isDigit readingRounds (String.singleton c)
      return some (.position (numberOf 10 digits.toList))
    else match signParameter? c with
      | some p => return some p
      | none =>
        putBack (some c)
        return none

/-- What is taken of a parameter in the extended shell, behind its name; nothing if that is not
understood. -/
def extendedUse? (read : PieceReader) (quoted : Bool) : Parse (Option ParameterUse) := do
  let part : Parse (Option ParameterUse) := do
    let (start, _, stop?) ← read { site := .braces, quoted := true, stops := ":" }
    if stop? = some ':' then
      return some (.part start.reverse (some (← bracedWord read true)))
    return some (.part start.reverse none)
  match ← nextChar with
  | some '\x7d' => return some .value
  | some ':' =>
    let c? ← nextChar
    match c?.bind fallbackOf? with
    | some kind => return some (.fallback kind true (← bracedWord read quoted))
    | none =>
      putBack c?
      if c? = some '\x7d' then return none
      part
  | some '%' =>
    let longest ← takeChar '%'
    return some (.trimmed true longest (← bracedWord read false))
  | some '#' =>
    let longest ← takeChar '#'
    return some (.trimmed false longest (← bracedWord read false))
  | some '/' =>
    let mode ← if ← takeChar '/' then pure ReplaceMode.all
      else if ← takeChar '#' then pure .front
      else if ← takeChar '%' then pure .back
      else pure .first
    let (pattern, _, stop?) ← read { site := .braces, quoted := false, stops := "/" }
    let replacement ← if stop? = some '/' then bracedWord read quoted else pure []
    return some (.replaced mode pattern.reverse replacement)
  | some '^' =>
    let all ← takeChar '^'
    return some (.cased true all (← bracedWord read false))
  | some ',' =>
    let all ← takeChar ','
    return some (.cased false all (← bracedWord read false))
  | some '@' =>
    match ← nextChar with
    | some form => if ← takeChar '\x7d' then return some (.transformed form) else return none
    | none => return none
  | c? =>
    match c?.bind fallbackOf? with
    | some kind => return some (.fallback kind false (← bracedWord read quoted))
    | none =>
      putBack c?
      return none

/-- A parameter in braces in the extended shell, behind the opening one; nothing if that is not
understood. -/
def bracedExtended? (read : PieceReader) (quoted : Bool) : Parse (Option Piece) := do
  let withUse (p? : Option Parameter) : Parse (Option Piece) := do
    match p? with
    | none => return none
    | some p => return (← extendedUse? read quoted).map (.parameter p · quoted)
  match ← nextChar with
  | some '#' =>
    let c? ← peekChar
    let isLength := c?.any fun c =>
      c ≠ '\x7d' && (isNameChar c || (signParameter? c).isSome)
    if !isLength then withUse (some .count)
    else
      let before ← get
      match ← anyParameter? read with
      | some p =>
        if ← takeChar '\x7d' then return some (.parameter p .length quoted)
        set before
        withUse (some .count)
      | none => return none
  | some '!' =>
    let c? ← peekChar
    if c?.any fun c => isNameChar c || c = '#' || c = '@' || c = '*' then
      let before ← get
      match ← anyParameter? read with
      | some (.named name) =>
        let joined? ← if ← takeChar '@' then pure (some false)
          else if ← takeChar '*' then pure (some true)
          else pure none
        match joined? with
        | some joined =>
          if ← takeChar '\x7d' then return some (.parameter (.namesWith name joined) .value quoted)
          return none
        | none => withUse (some (.indirect (.named name)))
      | some (.elements name joined) =>
        if ← takeChar '\x7d' then return some (.parameter (.keys name joined) .value quoted)
        return none
      | some p => withUse (some (.indirect p))
      | none =>
        set before
        return none
    else withUse (some .background)
  | c? =>
    putBack c?
    withUse (← anyParameter? read)

/-- A parameter in braces in the extended shell. -/
def bracedExtended (read : PieceReader) (quoted : Bool) : Parse Piece := do
  let before ← get
  match ← bracedExtended? read quoted with
  | some piece => return piece
  | none =>
    set before
    let text := before.ahead
    let _ ← bracedWord read quoted
    let shown := text.take (text.length - (← get).ahead.length)
    return .parameter .count (.senseless (String.ofList ('$' :: '\x7b' :: shown))) quoted

/-! ### Statements and expressions in words -/

/-- An expression behind two parentheses. -/
def sum (read : PieceReader) (quoted : Bool) : Parse Piece :=
  return .sum (← read { site := .sum, quoted := true }).1.reverse quoted

/-- Statements behind a parenthesis, with the one that ends them. -/
def output (inner : Inner) : Parse Statement := do
  let before ← get
  set { before with awaited := [], again := false, nested := true }
  let statement ← inner.statements
  match (← get).last with
  | .operator ")" => pure ()
  | .textEnd =>
    match before.dialect with
    | .plain => unexpected (some "\")\"")
    | .extended =>
      throw { line := (← get).line, messages := ["unexpected EOF while looking for matching \x60)'"] }
  | _ => unexpected (some "\")\"")
  modify fun r => { r with
    awaited := before.awaited, again := false, checks := before.checks, nested := before.nested }
  return statement

/-- The text between backquotes, where a backslash keeps its meaning before few characters. -/
def backquotedText (quoted : Bool) (line : Nat) : (rounds : Nat) → List Char → Parse (List Char)
  | 0, text => return text.reverse
  | rounds + 1, text => do
    match ← nextChar with
    | none => unclosed "EOF in backquote substitution" "\x60" line
    | some '\x60' => return text.reverse
    | some '\\' =>
      match ← nextChar with
      | some c =>
        if c = '\\' || c = '\x60' || c = '$' || (quoted && c = '"') then
          backquotedText quoted line rounds (c :: text)
        else backquotedText quoted line rounds (c :: '\\' :: text)
      | none => unclosed "EOF in backquote substitution" "\x60" line
    | some c =>
      if c = '\n' then countLine
      backquotedText quoted line rounds (c :: text)

/-- Statements between backquotes, behind the first one. -/
def backquoted (inner : Inner) (quoted : Bool) : Parse Statement := do
  let text ← backquotedText quoted (← get).line readingRounds []
  let before ← get
  set { before with segments := [{ rest := text }], awaited := [], again := false, line := 1 }
  let statement ← inner.statements
  modify fun r => { r with
    segments := before.segments, line := before.line, awaited := before.awaited, again := false
    checks := before.checks }
  return statement

/-- Tries to read in one way and, where that gives nothing or fails, in another way. -/
def orOtherwise {α : Type} (first : Parse (Option α)) (second : Parse α) : Parse α := fun r =>
  match first r with
  | .ok (some a, r) => .ok (a, r)
  | _ => second r

/-- What stands behind a dollar sign; nothing if it stands for itself. -/
def dollar? (inner : Inner) (read : PieceReader) (quoted isDocument : Bool) :
    Parse (Option Piece) := do
  let extended := (← get).dialect = .extended
  match ← nextChar with
  | none => return none
  | some '(' =>
    if ← takeChar '(' then
      if extended then
        let before ← get
        orOtherwise (do
          let piece ← sum read quoted
          return some (some piece)) (do
          set before
          putBack (some '(')
          return some (.output (← output inner) quoted))
      else return some (← sum read quoted)
    else return some (.output (← output inner) quoted)
  | some '\x7b' =>
    if extended then return some (← bracedExtended read quoted)
    else return some (← bracedPlain read quoted)
  | some c =>
    if isNameStart c then
      return some (.parameter (.named (String.singleton c ++ (← takeName))) .value quoted)
    else if c.isDigit then return some (.parameter (.position (digitValue c)) .value quoted)
    else if extended && c = '\'' && !quoted && !isDocument then
      return some (.text (← escapedText (← get).line readingRounds "") true)
    else match signParameter? c with
      | some p => return some (.parameter p .value quoted)
      | none =>
        putBack (some c)
        return none

/-! ### Pieces -/

/-- Whether a piece stands for all arguments or all values of a row. -/
def Piece.isEach : Piece → Bool
  | .parameter .each _ _ | .parameter (.elements _ false) _ _ => true
  | .parameter (.keys _ false) _ _ | .parameter (.namesWith _ false) _ _ => true
  | _ => false

/-- Gives up since a text ends within something. -/
def endedWithin {α : Type} (within : Surrounding) (line : Nat) : Parse α :=
  match within.site with
  | .sum => unclosed "Missing '))'" ")" line
  | .braces =>
    if within.quoted then unclosed "Unterminated quoted string" "\x7d" line
    else unclosed "Missing '\x7d'" "\x7d" line
  | .group => unclosed "Missing ')'" ")" line
  | _ => unclosed "Unterminated quoted string" "\"" line

/-- Reads pieces one after another. `depth` counts open parentheses, and `inQuotes` says whether
quotes are open within braces that stand between quotes. -/
def readPieces (inner : Inner) (below : PieceReader) (within : Surrounding) (line : Nat) :
    (rounds : Nat) → (depth : Nat) → (inQuotes sawQuotes : Bool) → Pieces →
    Parse (Pieces × Bool × Option Char)
  | 0, _, _, sawQuotes, pieces => return (pieces, sawQuotes, none)
  | rounds + 1, depth, inQuotes, sawQuotes, pieces => do
    let next := readPieces inner below within line rounds
    let quoted := within.quoted
    let isBare := !quoted
    let plainly (c : Char) := next depth inQuotes sawQuotes (pieces.push quoted c)
    match ← nextChar with
    | none =>
      if within.site = .plain || within.site = .document || within.site = .regular then
        return (pieces, sawQuotes, none)
      endedWithin within line
    | some c =>
      if within.site = .plain && isBreak c then
        let extended := (← get).dialect = .extended
        if extended && (c = '<' || c = '>') && (← peekChar) = some '(' then
          let _ ← nextChar
          let statement ← output inner
          return ← next depth inQuotes sawQuotes (.channel (c = '<') statement :: pieces)
        putBack (some c)
        return (pieces, sawQuotes, none)
      if within.site = .regular && depth = 0 && (isSpace c || c = ')') then
        putBack (some c)
        return (pieces, sawQuotes, none)
      if within.stops.toList.contains c && depth = 0 && !inQuotes then
        return (pieces, sawQuotes, some c)
      match c with
      | '\n' =>
        countLine
        plainly c
      | '\\' =>
        match ← getChar with
        | none => next depth inQuotes true (pieces.push true '\\')
        | some d =>
          let isSign := d = '\\' || d = '\x60' || d = '$' ||
            (d = '"' && within.site ≠ .document) || (d = '\x7d' && within.site = .braces)
          if isBare || isSign then next depth inQuotes true (pieces.push true d)
          else
            if d = '\n' then countLine
            next depth inQuotes true ((pieces.push true '\\').push true d)
      | '\'' =>
        if isBare then
          let text ← singleQuoted (← get).line readingRounds ""
          next depth inQuotes true (Pieces.pushAll (Piece.text "" true :: pieces) true text)
        else plainly c
      | '"' =>
        if isBare then
          let (inside, _, _) ← below { site := .quotes, quoted := true }
          let inside := if inside.any Piece.isEach then inside else inside ++ [.text "" true]
          next depth inQuotes true (inside ++ pieces)
        else if within.site = .quotes then return (pieces, sawQuotes, none)
        else if within.site = .braces then next depth (!inQuotes) true pieces
        else plainly c
      | '$' =>
        let r ← get
        let isLocal := r.dialect = .extended && isBare && (← peekChar) = some '"'
        if isLocal then next depth inQuotes sawQuotes pieces
        else match ← dollar? inner below quoted (within.site = .document) with
          | some (.text text _) =>
            next depth inQuotes true (Pieces.pushAll (Piece.text "" true :: pieces) true text)
          | some piece => next depth inQuotes sawQuotes (piece :: pieces)
          | none => plainly c
      | '\x60' =>
        let statement ← backquoted inner (within.site = .quotes || within.site = .braces && quoted)
        next depth inQuotes sawQuotes (.output statement quoted :: pieces)
      | '\x7d' =>
        if within.site = .braces && !inQuotes && within.stops ≠ "]" then
          return (pieces, sawQuotes, some c)
        plainly c
      | '(' =>
        if within.countsDepth then
          next (depth + 1) inQuotes sawQuotes (pieces.push quoted c)
        else plainly c
      | ')' =>
        if within.site = .group && depth = 0 then return (pieces, sawQuotes, some c)
        else if within.site = .sum && depth = 0 then
          if ← takeChar ')' then return (pieces, sawQuotes, some c)
          else if (← get).dialect = .extended then unclosed "" ")" line
          else plainly c
        else if within.countsDepth then
          next (depth - 1) inQuotes sawQuotes (pieces.push quoted c)
        else plainly c
      | c =>
        let isGroup ← if isBare && (← get).groups && "?*+@!".toList.contains c then
            pure (decide ((← peekChar) = some '('))
          else pure false
        if isGroup then
          let _ ← nextChar
          let (inside, _, _) ← below { site := .group, quoted := false }
          let opened := (pieces.push false c).push false '('
          next depth inQuotes sawQuotes (Pieces.push (inside ++ opened) false ')')
        else plainly c

/-- How deep things in words may stand within each other. -/
def greatestNesting : Nat := 10000

/-- Reads pieces that stand within each other at most `depth` deep. -/
def pieceReader (inner : Inner) : (depth : Nat) → PieceReader
  | 0, _ => misfit ["Syntax error: Missing '))'"]
  | depth + 1, within => do
    readPieces inner (pieceReader inner depth) within (← get).line readingRounds 0 false false []

/-- Reads the pieces of a word that starts here. -/
def readWord (inner : Inner) : Parse (Word × Bool) := do
  let (pieces, quoted, _) ← pieceReader inner greatestNesting { site := .plain, quoted := false }
  return (pieces.reverse, quoted)

end Buildwright.Sandbox.Shell
