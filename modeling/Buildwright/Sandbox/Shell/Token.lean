import Buildwright.Sandbox.Shell.Word

/-!
# Tokens of the shell

A script is a row of words, operators, redirections and line ends. Whether a word is reserved or
stands for another text depends on where it stands, which the reader says before it asks for it.
-/

namespace Buildwright.Sandbox.Shell

/-! ### Reserved words -/

/-- The words that have a meaning where a statement begins. -/
def reservedWords : Dialect → List String
  | .plain => ["!", "case", "do", "done", "elif", "else", "esac", "fi", "for", "if", "in", "then",
      "until", "while", "\x7b", "\x7d"]
  | .extended => ["!", "case", "do", "done", "elif", "else", "esac", "fi", "for", "if", "then",
      "until", "while", "\x7b", "\x7d", "[[", "function"]

/-! ### Steps -/

/-- Says how the next word is understood. -/
def setChecks (checks : Checks) : Parse Unit := modify fun r => { r with checks }

/-- Says that the token that was read last is to be read once more. -/
def readAgain : Parse Unit := modify fun r => { r with again := true }

/-- Gives up where a name is expected. -/
def unexpectedName {α : Type} (message : String) : Parse α := do
  match (← get).dialect with
  | .plain => misfit ["Syntax error: " ++ message]
  | .extended => unexpected

/-- Passes over the characters up to the end of the line. -/
def skipComment : (rounds : Nat) → Parse Unit
  | 0 => pure ()
  | rounds + 1 => do
    match ← getChar with
    | some '\n' => putBack (some '\n')
    | some _ => skipComment rounds
    | none => pure ()

/-! ### Texts behind the line -/

/-- The characters up to the end of the line, whether the line ends, and whether the end of the line
joins it with the next one. -/
def takeLine : (rounds : Nat) → (joins : Bool) → (line : List Char) → Parse (List Char × Bool × Bool)
  | 0, joins, line => return (line.reverse, false, joins)
  | rounds + 1, joins, line => do
    match ← getChar with
    | none => return (line.reverse, false, false)
    | some '\n' =>
      countLine
      return (line.reverse, true, joins)
    | some c => takeLine rounds (c = '\\' && !joins) (c :: line)

/-- The lines up to one that is the mark; whether that one is there. -/
def takeText (mark : List Char) (quoted withoutTabs : Bool) : (rounds : Nat) → (joined : Bool) →
    (text : List (List Char)) → Parse (List Char × Bool)
  | 0, _, text => return (text.reverse.flatten, false)
  | rounds + 1, joined, text => do
    let (line, isWhole, joins) ← takeLine readingRounds false []
    let line := if withoutTabs && !joined then line.dropWhile (· = '\t') else line
    if line = mark && !joined then return (text.reverse.flatten, true)
    else if isWhole then
      takeText mark quoted withoutTabs rounds (joins && !quoted) ((line ++ ['\n']) :: text)
    else return ((line :: text).reverse.flatten, false)

/-- Reads the texts that the line before has mentioned. -/
def readAwaited (inner : Inner) : Parse Unit := do
  let awaited := (← get).awaited
  modify fun r => { r with awaited := [] }
  for document in awaited do
    let line := (← get).line
    let (text, isMarked) ← takeText document.mark.toList document.quoted document.withoutTabs
      readingRounds false []
    if !isMarked then
      modify fun r => { r with warnings := r.warnings ++ [(r.line,
        "warning: here-document at line " ++ toString document.line ++
          " delimited by end-of-file (wanted \x60" ++ document.mark ++ "')")] }
    let word ← if document.quoted then pure (rawPieces (String.ofList text)) else do
      let before ← get
      set { before with segments := [{ rest := text }], line }
      let (pieces, _, _) ← pieceReader inner greatestNesting { site := .document, quoted := true }
      modify fun r => { r with segments := before.segments, line := before.line }
      pure pieces.reverse
    modify fun r => { r with texts := (document.id, word) :: r.texts }

/-! ### Reading tokens -/

/-- Reads an operator that may go on with one of some characters. -/
def operatorWith (sign : Char) (others : List Char) : Parse Token := do
  let c? ← nextChar
  match c? with
  | some c =>
    if others.contains c then return .operator (String.ofList [sign, c])
    putBack c?
    return .operator (String.singleton sign)
  | none => return .operator (String.singleton sign)

/-- Takes the signs of a redirection, with the number in front of it. -/
def takeArrow (number? : Option Nat) : Parse Token := do
  let extended := (← get).dialect = .extended
  let arrow ← match ← nextChar with
    | some '>' =>
      if ← takeChar '>' then pure ">>"
      else if ← takeChar '|' then pure ">|"
      else if ← takeChar '&' then pure ">&"
      else pure ">"
    | _ =>
      if ← takeChar '<' then
        if ← takeChar '-' then pure "<<-"
        else if extended then
          if ← takeChar '<' then pure "<<<" else pure "<<"
        else pure "<<"
      else if ← takeChar '&' then pure "<&"
      else if ← takeChar '>' then pure "<>"
      else pure "<"
  modify fun r => { r with arrow, arrowNumber? := number? }
  return .redirection

/-- Reads a word, or a redirection if a word before it is a number. -/
def wordOrArrow (inner : Inner) : Parse Token := do
  let (w, quoted) ← readWord inner
  let c? ← nextChar
  putBack c?
  if (c? = some '<' || c? = some '>') && !quoted then
    match w with
    | [] => takeArrow none
    | [.text text false] =>
      let isNumber := text.toList.all Char.isDigit &&
        ((← get).dialect = .extended || text.length = 1)
      if isNumber then takeArrow (some (numberOf 10 text.toList)) else return .word w quoted
    | _ => return .word w quoted
  else return .word w quoted

/-- Reads a token as it stands. -/
def readSigns (inner : Inner) : (rounds : Nat) → Parse Token
  | 0 => return .textEnd
  | rounds + 1 => do
    let extended := (← get).dialect = .extended
    let c? ← nextChar
    match c? with
    | none => return .textEnd
    | some ' ' | some '\t' => readSigns inner rounds
    | some '#' =>
      skipComment readingRounds
      readSigns inner rounds
    | some '\n' =>
      countLine
      return .lineEnd
    | some '&' =>
      if extended then
        if (← peekChar) = some '>' then
          let _ ← nextChar
          let arrow ← if ← takeChar '>' then pure "&>>" else pure "&>"
          modify fun r => { r with arrow, arrowNumber? := none }
          return .redirection
      operatorWith '&' ['&']
    | some '|' => operatorWith '|' (if extended then ['|', '&'] else ['|'])
    | some ';' =>
      if extended then
        if ← takeChar ';' then
          if ← takeChar '&' then return .operator ";;&" else return .operator ";;"
        else operatorWith ';' ['&']
      else operatorWith ';' [';']
    | some '(' => return .operator "("
    | some ')' => return .operator ")"
    | some _ =>
      putBack c?
      wordOrArrow inner

/-- The token that comes next, whatever it means here. -/
def nextSigns (inner : Inner) : Parse Token := do
  let r ← get
  if r.again then
    set { r with again := false }
    return r.last
  readSigns inner readingRounds

/-- Passes over line ends. -/
def behindLineEnds (inner : Inner) (token : Token) : (rounds : Nat) → Parse Token
  | 0 => return token
  | rounds + 1 => do
    match token with
    | .lineEnd =>
      readAwaited inner
      behindLineEnds inner (← nextSigns inner) rounds
    | token => return token

/-- The text that an alias stands for, unless it is in use. -/
def Reading.alias? (r : Reading) (name : String) : Option String :=
  if r.segments.any (·.alias? = some name) then none else r.aliases.lookup name

/-- Reads a token that is understood in a way. -/
def readChecked (inner : Inner) : (rounds : Nat) → (checks : Checks) → Parse Token
  | 0, _ => return .textEnd
  | rounds + 1, checks => do
    let token ← nextSigns inner
    let token ← if checks.lineEnds then behindLineEnds inner token readingRounds else pure token
    let r ← get
    let checks : Checks := { checks with
      aliases := checks.aliases || r.checks.aliases
      reserved := checks.reserved || r.checks.reserved }
    set { r with checks := {} }
    match token with
    | .word [.text text false] false =>
      if checks.reserved && (reservedWords r.dialect).contains text then return .reserved text
      else if checks.aliases then
        match r.alias? text with
        | some value =>
          if value ≠ "" then
            let endsBlank := value.endsWith " " || value.endsWith "\t"
            modify fun r => { r with segments :=
              { alias? := some text, rest := value.toList, endsBlank } :: r.segments }
          readChecked inner rounds checks
        | none => return token
      else return token
    | _ => return token

/-- Reads the next token. -/
def readToken (inner : Inner) : Parse Token := do
  let token ← readChecked inner readingRounds (← get).checks
  modify fun r => { r with last := token }
  return token

/-! ### Redirections -/

/-- The mark that ends a text, where nothing is expanded; whether quotes are in it. -/
def takeMark : (rounds : Nat) → (quote? : Option Char) → (quoted : Bool) → (mark : String) →
    Parse (String × Bool)
  | 0, _, quoted, mark => return (mark, quoted)
  | rounds + 1, quote?, quoted, mark => do
    match ← nextChar with
    | none => return (mark, quoted)
    | some c =>
      match quote? with
      | none =>
        if isBreak c then
          putBack (some c)
          return (mark, quoted)
        else if c = '\'' || c = '"' then takeMark rounds (some c) true mark
        else if c = '\\' then
          match ← getChar with
          | some d => takeMark rounds none true (mark.push d)
          | none => return (mark, quoted)
        else takeMark rounds none quoted (mark.push c)
      | some quote =>
        if c = quote then takeMark rounds none quoted mark
        else takeMark rounds quote? quoted (mark.push c)

/-- The redirection whose signs were read last, with the word behind them. -/
def redirectionBehind (inner : Inner) : Parse Redirection := do
  let r ← get
  let number (standard : Nat) : Nat := r.arrowNumber?.getD standard
  let line := r.line
  let word : Parse Word := do
    match ← readToken inner with
    | .word w _ => return w
    | _ => unexpected
  match r.arrow with
  | ">" => return .file (number 1) .replace (← word)
  | ">|" => return .file (number 1) .force (← word)
  | ">>" => return .file (number 1) .append (← word)
  | "<" => return .file (number 0) .read (← word)
  | "<>" => return .file (number 0) .both (← word)
  | ">&" => return .copy (number 1) true (← word)
  | "<&" => return .copy (number 0) false (← word)
  | "&>" => return .bothTo false (← word)
  | "&>>" => return .bothTo true (← word)
  | "<<<" => return .word (number 0) (← word)
  | arrow =>
    let rec skipBlanks : (rounds : Nat) → Parse Unit
      | 0 => pure ()
      | rounds + 1 => do
        match ← nextChar with
        | some ' ' | some '\t' => skipBlanks rounds
        | c? => putBack c?
    skipBlanks readingRounds
    match ← peekChar with
    | none =>
      let _ ← readToken inner
      unexpected
    | some c =>
      if isBreak c || c = '#' then
        let _ ← word
      let (mark, quoted) ← takeMark readingRounds none false ""
      modify fun r => { r with
        nextText := r.nextText + 1, last := .word [.text mark false] quoted
        awaited := r.awaited ++
          [{ id := r.nextText, mark, quoted, withoutTabs := arrow = "<<-", line }] }
      return .text (number 0) r.nextText

end Buildwright.Sandbox.Shell
