import Buildwright.Sandbox.Shell.Token

/-!
# Grammar of the shell

How the statements of a script are put together. Statements contain statements, so that reading
comes in levels: the level below reads what stands within.
-/

namespace Buildwright.Sandbox.Shell

/-- The readers of the level below. -/
structure Level where
  /-- What the words of this level may contain. -/
  inner : Inner
  /-- A statement of the level below. -/
  command : Parse Statement

/-- How much is read as one list of statements. -/
inductive Extent where
  /-- What begins on a line. -/
  | line
  /-- Everything up to a sign that cannot belong to it, but at least one statement. -/
  | some
  /-- Everything up to a sign that cannot belong to it. -/
  | any
  deriving DecidableEq

/-! ### Lists of statements -/

/-- Whether a list of statements ends before a token. -/
def Token.endsList : Token → Bool
  | .textEnd | .lineEnd => true
  | .operator text => text = ")" || text = ";;" || text = ";&" || text = ";;&"
  | .reserved text =>
    ["do", "done", "elif", "else", "esac", "fi", "then", "\x7d"].contains text
  | _ => false

/-- The statements of which each reads what the one before it prints, behind the first one. -/
def pipelineRest (level : Level) : (rounds : Nat) → List Statement → Parse (List Statement)
  | 0, parts => return parts.reverse
  | rounds + 1, parts => do
    match ← readToken level.inner with
    | .operator "|" =>
      setChecks { lineEnds := true, reserved := true, aliases := true }
      pipelineRest level rounds ((← level.command) :: parts)
    | .operator "|&" =>
      let toBoth := parts.head?.map fun part =>
        Statement.redirected 0 part [.copy 2 true [.text "1" false]]
      setChecks { lineEnds := true, reserved := true, aliases := true }
      pipelineRest level rounds ((← level.command) :: toBoth.toList ++ parts.tail)
    | _ =>
      readAgain
      return parts.reverse

/-- Statements connected by bars. -/
def unnegated (level : Level) : Parse Statement := do
  match ← pipelineRest level readingRounds [← level.command] with
  | [statement] => return statement
  | statements => return .pipeline statements

/-- Statements connected by bars, perhaps negated. -/
def pipeline (level : Level) : (rounds : Nat) → Parse Statement
  | 0 => unnegated level
  | rounds + 1 => do
    match ← readToken level.inner with
    | .reserved "!" =>
      setChecks { reserved := true, aliases := true }
      let extended := (← get).dialect = .extended
      let body ← if extended then pipeline level rounds else unnegated level
      return .negated body
    | .word [.text "time" false] false =>
      if (← get).dialect ≠ .extended then
        readAgain
        return ← unnegated level
      setChecks { reserved := true, aliases := true }
      let posix := match ← readToken level.inner with
        | .word [.text "-p" false] _ => true
        | _ => false
      if !posix then readAgain
      let token ← readToken level.inner
      readAgain
      if token.endsList || token.isOperator ";" || token.isOperator "&" then
        return .timed posix .nothing
      return .timed posix (← pipeline level rounds)
    | _ =>
      readAgain
      unnegated level

/-- The statements of which each depends on how the one before it ended, behind the first one. -/
def connectedRest (level : Level) : (rounds : Nat) → Statement → Parse Statement
  | 0, first => return first
  | rounds + 1, first => do
    match ← readToken level.inner with
    | .operator "&&" =>
      setChecks { lineEnds := true, reserved := true, aliases := true }
      connectedRest level rounds (.both first (← pipeline level readingRounds))
    | .operator "||" =>
      setChecks { lineEnds := true, reserved := true, aliases := true }
      connectedRest level rounds (.either first (← pipeline level readingRounds))
    | _ =>
      readAgain
      return first

/-- Statements of which each depends on how the one before it ended. -/
def connected (level : Level) : Parse Statement := do
  connectedRest level readingRounds (← pipeline level readingRounds)

/-- The statement of some statements. -/
def sequenceOf : List Statement → Statement
  | [statement] => statement
  | statements => .sequence statements

/-- Reads statements one after another. -/
def statementsFrom (level : Level) (extent : Extent) : (rounds : Nat) → List Statement →
    Parse (Option Statement)
  | 0, statements => return some (sequenceOf statements.reverse)
  | rounds + 1, statements => do
    setChecks { lineEnds := extent ≠ .line, reserved := true, aliases := true }
    let token ← readToken level.inner
    match token with
    | .lineEnd =>
      readAwaited level.inner
      return some (sequenceOf statements.reverse)
    | .textEnd =>
      readAwaited level.inner
      readAgain
      return if statements.isEmpty && extent = .line then none
        else some (sequenceOf statements.reverse)
    | _ =>
      readAgain
      if token.endsList && (extent = .any || (extent = .some && !statements.isEmpty)) then
        return some (sequenceOf statements.reverse)
      let statement ← connected level
      let statements ← match ← readToken level.inner with
        | .operator "&" => pure (.background (← get).line statement :: statements)
        | _ => pure (statement :: statements)
      match (← get).last with
      | .textEnd =>
        readAwaited level.inner
        readAgain
        return some (sequenceOf statements.reverse)
      | .lineEnd =>
        readAgain
        statementsFrom level extent rounds statements
      | .operator "&" | .operator ";" => statementsFrom level extent rounds statements
      | _ =>
        if extent = .line then unexpected
        readAgain
        return some (sequenceOf statements.reverse)

/-- Reads the statements that are within something. -/
def statementList (level : Level) (extent : Extent) : Parse Statement :=
  return (← statementsFrom level extent readingRounds []).getD .nothing

/-! ### Statements that contain statements -/

/-- Reads a reserved word that has to stand here. -/
def expectReserved (level : Level) (text : String) : Parse Unit := do
  if !(← readToken level.inner).isReserved text then unexpected (some ("\"" ++ text ++ "\""))

/-- The statements behind a word up to the one that ends them. -/
def bodyUpTo (level : Level) (text : String) : Parse Statement := do
  let body ← statementList level .some
  expectReserved level text
  return body

/-- A choice by conditions, behind the word that begins it. -/
def choice (level : Level) : (rounds : Nat) → Parse Statement
  | 0 => unexpected
  | rounds + 1 => do
    let condition ← bodyUpTo level "then"
    let yes ← statementList level .some
    match ← readToken level.inner with
    | .reserved "elif" => return .choice condition yes (some (← choice level rounds))
    | .reserved "else" => return .choice condition yes (some (← bodyUpTo level "fi"))
    | .reserved "fi" => return .choice condition yes none
    | _ => unexpected (some "\"fi\"")

/-- The words up to the end of a line or a semicolon. -/
def wordsRest (level : Level) : (rounds : Nat) → List Word → Parse (List Word)
  | 0, words => return words.reverse
  | rounds + 1, words => do
    match ← readToken level.inner with
    | .word w _ => wordsRest level rounds (w :: words)
    | .lineEnd =>
      readAwaited level.inner
      return words.reverse
    | .operator ";" => return words.reverse
    | _ => unexpected

/-- The body of a loop over words. -/
def loopBody (level : Level) : Parse Statement := do
  setChecks { lineEnds := true, reserved := true, aliases := true }
  match ← readToken level.inner with
  | .reserved "do" => bodyUpTo level "done"
  | token =>
    if (← get).dialect = .extended && token.isReserved "\x7b" then bodyUpTo level "\x7d"
    else unexpected (some "\"do\"")

/-- A loop over words, or over the arguments, behind the word that begins it. -/
def each (level : Level) (line : Nat) : Parse Statement := do
  let extended := (← get).dialect = .extended
  match ← readToken level.inner with
  | .operator "(" =>
    unexpectedName "Bad for loop variable"
  | .word [.text name false] false =>
    if !isName name then
      if extended then
        throw { line, messages := ["\x60" ++ name ++ "': not a valid identifier"], code := 1 }
      misfit ["Syntax error: Bad for loop variable"]
    setChecks { lineEnds := true, reserved := true, aliases := true }
    match ← readToken level.inner with
    | .reserved "in" =>
      let words ← wordsRest level readingRounds []
      return .each line name (some words) (← loopBody level)
    | .word [.text "in" false] false =>
      let words ← wordsRest level readingRounds []
      return .each line name (some words) (← loopBody level)
    | .operator ";" => return .each line name none (← loopBody level)
    | _ =>
      readAgain
      return .each line name none (← loopBody level)
  | _ => unexpectedName "Bad for loop variable"

/-- The patterns of a branch up to its parenthesis. The first one is read already. -/
def patternsRest (level : Level) : (rounds : Nat) → List Word → Parse (List Word)
  | 0, words => return words.reverse
  | rounds + 1, words => do
    let word ← match (← get).last with
      | .word w _ => pure w
      | .reserved text => pure [.text text false]
      | token => if (← get).dialect = .extended then unexpected else pure [.text token.shown false]
    match ← readToken level.inner with
    | .operator "|" =>
      let _ ← readToken level.inner
      patternsRest level rounds (word :: words)
    | .operator ")" => return (word :: words).reverse
    | _ => unexpected (some "\")\"")

/-- The branches of a choice by patterns. -/
def branches (level : Level) : (rounds : Nat) →
    List (List Word × Statement × BranchEnd) → Parse (List (List Word × Statement × BranchEnd))
  | 0, found => return found.reverse
  | rounds + 1, found => do
    setChecks { lineEnds := true, reserved := true }
    let token ← readToken level.inner
    if token.isReserved "esac" then return found.reverse
    if token.isOperator "(" then
      let _ ← readToken level.inner
    let patterns ← patternsRest level readingRounds []
    let body ← statementList level .any
    setChecks { lineEnds := true, reserved := true }
    match ← readToken level.inner with
    | .reserved "esac" => return ((patterns, body, .leave) :: found).reverse
    | .operator ";;" => branches level rounds ((patterns, body, .leave) :: found)
    | .operator ";&" => branches level rounds ((patterns, body, .fall) :: found)
    | .operator ";;&" => branches level rounds ((patterns, body, .goOn) :: found)
    | _ => unexpected (some "\";;\"")

/-- A choice by patterns, behind the word that begins it. -/
def select (level : Level) (line : Nat) : Parse Statement := do
  match ← readToken level.inner with
  | .word w _ =>
    setChecks { lineEnds := true, reserved := true, aliases := true }
    match ← readToken level.inner with
    | .reserved "in" | .word [.text "in" false] false =>
      return .select line w (← branches level readingRounds [])
    | _ => unexpected (some "\"in\"")
  | _ => unexpected (some "word")

/-! ### Conditions in double brackets -/

/-- The operators of conditions with one operand. -/
def unaryConditions : List String :=
  ["-a", "-b", "-c", "-d", "-e", "-f", "-g", "-h", "-k", "-p", "-r", "-s", "-t", "-u", "-w", "-x",
    "-G", "-L", "-N", "-O", "-S", "-z", "-n", "-o", "-v", "-R"]

/-- The operators of conditions with two operands. -/
def binaryConditions : List String :=
  ["=", "==", "!=", "=~", "-eq", "-ne", "-lt", "-le", "-gt", "-ge", "-nt", "-ot", "-ef"]

/-- Passes over blanks, and line ends. -/
def skipSpace : (rounds : Nat) → Parse Unit
  | 0 => pure ()
  | rounds + 1 => do
    match ← nextChar with
    | some ' ' | some '\t' => skipSpace rounds
    | some '\n' =>
      countLine
      skipSpace rounds
    | c? => putBack c?

/-- Takes a sign if it stands here. -/
def takeSign (sign : String) : Parse Bool := do
  let before ← get
  for c in sign.toList do
    if !(← takeChar c) then
      set before
      return false
  return true

/-- A word of a condition. -/
def conditionWord (level : Level) : Parse Word := do
  skipSpace readingRounds
  match ← peekChar with
  | none => misfit ["syntax error: unexpected end of file"]
  | some _ =>
    let (w, quoted) ← readWord level.inner
    if w.isEmpty && !quoted then
      let c? ← nextChar
      let text := c?.elim "" String.singleton
      misfit ["unexpected token \x60" ++ text ++ "' in conditional command",
        "syntax error near \x60" ++ text ++ "'", "\x60" ++ (← get).lineText (← get).line ++ "'"]
    return w

/-- A pattern of a condition, in which parentheses may group. -/
def conditionPattern (level : Level) (isRegular : Bool) : Parse Word := do
  skipSpace readingRounds
  let read := pieceReader level.inner greatestNesting
  let before ← get
  set { before with groups := true }
  let (pieces, _, _) ← read { site := if isRegular then .regular else .plain, quoted := false }
  modify fun r => { r with groups := before.groups }
  return pieces.reverse

mutual

/-- A condition without connectives. -/
def conditionTerm (level : Level) : (rounds : Nat) → Parse Condition
  | 0 => misfit ["syntax error"]
  | rounds + 1 => do
    skipSpace readingRounds
    if ← takeSign "(" then
      let c ← conditionEither level rounds
      skipSpace readingRounds
      if !(← takeSign ")") then misfit ["expected \x60)'"]
      return c
    let first ← conditionWord level
    match first with
    | [.text "!" false] => return .negated (← conditionTerm level rounds)
    | [.text operator false] =>
      if unaryConditions.contains operator then
        skipSpace readingRounds
        let before ← get
        match ← peekChar with
        | some c =>
          if !isBreak c then
            let operand ← conditionWord level
            match operand with
            | [.text text false] =>
              if text = "]]" || binaryConditions.contains text then set before
              else return .unary operator operand
            | _ => return .unary operator operand
        | none => pure ()
      binary first rounds
    | _ => binary first rounds
where
  /-- A condition behind its first operand. -/
  binary (first : Word) (_ : Nat) : Parse Condition := do
    skipSpace readingRounds
    let before ← get
    if ← takeSign "<" then return .binary "<" first (← conditionWord level)
    if ← takeSign ">" then return .binary ">" first (← conditionWord level)
    match ← peekChar with
    | some c =>
      if isBreak c then return .unary "-n" first
      match ← conditionWord level with
      | [.text operator false] =>
        if ["=", "==", "!="].contains operator then
          return .binary operator first (← conditionPattern level false)
        if operator = "=~" then return .binary operator first (← conditionPattern level true)
        if binaryConditions.contains operator then
          return .binary operator first (← conditionWord level)
        if operator = "]]" then
          set before
          return .unary "-n" first
        misfit ["conditional binary operator expected",
          "syntax error near \x60" ++ operator ++ "'",
          "\x60" ++ (← get).lineText (← get).line ++ "'"]
      | _ => misfit ["conditional binary operator expected"]
    | none => return .unary "-n" first

/-- Conditions of which all must hold. -/
def conditionBoth (level : Level) : (rounds : Nat) → Parse Condition
  | 0 => misfit ["syntax error"]
  | rounds + 1 => do
    let first ← conditionTerm level rounds
    skipSpace readingRounds
    if ← takeSign "&&" then return .both first (← conditionBoth level rounds)
    return first

/-- Conditions of which one must hold. -/
def conditionEither (level : Level) : (rounds : Nat) → Parse Condition
  | 0 => misfit ["syntax error"]
  | rounds + 1 => do
    let first ← conditionBoth level rounds
    skipSpace readingRounds
    if ← takeSign "||" then return .either first (← conditionEither level rounds)
    return first

end

/-- A condition, behind its opening brackets. -/
def bracketed (level : Level) (line : Nat) : Parse Statement := do
  let c ← conditionEither level readingRounds
  skipSpace readingRounds
  if !(← takeSign "]]") then
    misfit ["syntax error in conditional expression"]
  return .condition line c

/-! ### Simple statements -/

/-- The pieces of an assignment: the name, the position, whether it appends, and the value. -/
def assignment? (dialect : Dialect) (w : Word) :
    Option (String × Option Word × Bool × Word) :=
  match w with
  | .text text false :: rest =>
    let cs := text.toList
    let name := cs.takeWhile isNameChar
    let behind := cs.drop name.length
    let value (cs : List Char) : Word :=
      if cs.isEmpty then rest else .text (String.ofList cs) false :: rest
    if !isName (String.ofList name) then none
    else match dialect, behind with
      | _, '=' :: cs => some (String.ofList name, none, false, value cs)
      | .extended, '+' :: '=' :: cs => some (String.ofList name, none, true, value cs)
      | .extended, '[' :: cs => (bracket [] 0 (.text (String.ofList cs) false :: rest)).map
          fun (index, appends, value) => (String.ofList name, some index, appends, value)
      | _, _ => none
  | _ => none
where
  /-- The position in brackets and what is behind the equals sign. -/
  bracket (before : Word) (depth : Nat) : Word → Option (Word × Bool × Word)
    | [] => none
    | .text text false :: rest =>
      let rec scan (depth : Nat) (seen : List Char) : List Char → Option (List Char × List Char) × Nat
        | [] => (none, depth)
        | c :: cs =>
          if c = ']' && depth = 0 then (some (seen.reverse, cs), 0)
          else scan (if c = '[' then depth + 1 else if c = ']' then depth - 1 else depth)
            (c :: seen) cs
      match scan depth [] text.toList with
      | (some (front, behind), _) =>
        let index := (.text (String.ofList front) false :: before).reverse
        let value (cs : List Char) : Word :=
          if cs.isEmpty then rest else .text (String.ofList cs) false :: rest
        match behind with
        | '=' :: cs => some (index, false, value cs)
        | '+' :: '=' :: cs => some (index, true, value cs)
        | _ => none
      | (none, depth) => bracket (.text text false :: before) depth rest
    | piece :: rest => bracket (piece :: before) depth rest

/-- The values of a row, up to the parenthesis that ends them. -/
def rowItems (level : Level) : (rounds : Nat) → List (Option Word × Word) →
    Parse (List (Option Word × Word))
  | 0, items => return items.reverse
  | rounds + 1, items => do
    setChecks { lineEnds := true }
    match ← readToken level.inner with
    | .operator ")" => return items.reverse
    | .word w _ =>
      match w with
      | .text text false :: rest =>
        let item := match text.toList with
          | '[' :: cs =>
            (assignment?.bracket [] 0 (.text (String.ofList cs) false :: rest)).map
              fun (found : Word × Bool × Word) => (some found.1, found.2.2)
          | _ => none
        rowItems level rounds (item.getD (none, w) :: items)
      | _ => rowItems level rounds ((none, w) :: items)
    | _ => unexpected

/-- The built-in statements that no function may replace, and whose faults end a script. -/
def specialNames : List String :=
  [".", ":", "break", "continue", "eval", "exec", "exit", "export", "local", "readonly", "return",
    "set", "shift", "times", "trap", "unset"]

/-- The definition of a function, behind its parentheses. -/
def definition (level : Level) (line : Nat) (name : Word) : Parse Statement := do
  let extended := (← get).dialect = .extended
  match name with
  | [.text name false] =>
    if !extended && (!isName name || specialNames.contains name) then
      misfit ["Syntax error: Bad function name"]
    setChecks { lineEnds := true, reserved := true, aliases := true }
    let r ← get
    return .define (if extended then line else r.line) name (← level.command)
  | _ =>
    if extended then unexpected
    misfit ["Syntax error: Bad function name"]

/-- The parts of a simple statement. -/
structure SimpleParts where
  assignments : List Assignment := []
  words : List Word := []
  redirections : List Redirection := []
  /-- Rows that the words assign. -/
  rows : List Assignment := []
  /-- The line on which what stands behind its first part ends. -/
  line? : Option Nat := none

/-- Whether exactly one part was read. -/
def SimpleParts.isSingle (parts : SimpleParts) : Bool :=
  parts.assignments.length + parts.words.length + parts.redirections.length = 1

/-- The words behind which assignments of rows may stand. -/
def declaringWords : List String := ["declare", "typeset", "local", "export", "readonly"]

/-- The row that an assignment without a value gets if a parenthesis follows. -/
def rowBehind? (level : Level) (word : Word) : Parse (Option Assignment) := do
  match assignment? .extended word with
  | some (name, index?, appends, []) =>
    if (← peekChar) = some '(' then
      let _ ← nextChar
      return some (.mk name index? appends (.row (← rowItems level readingRounds [])))
    return none
  | _ => return none

/-- Reads the parts of a simple statement. `checksAliases` holds up to the first word. -/
def simpleParts (level : Level) (line : Nat) : (rounds : Nat) → (checksAliases : Bool) →
    SimpleParts → Parse (SimpleParts ⊕ Statement)
  | 0, _, parts => return .inl parts
  | rounds + 1, checksAliases, parts => do
    setChecks { aliases := checksAliases }
    let dialect := (← get).dialect
    let token ← readToken level.inner
    let here := (← get).line
    let line? := if !parts.isSingle then parts.line? else match token with
      | .lineEnd => some (here - 1)
      | _ => some here
    let parts := { parts with line? }
    match token with
    | .word w _ =>
      let asWord := simpleParts level line rounds false { parts with words := w :: parts.words }
      let declares := match parts.words.getLast? with
        | some [.text name false] => declaringWords.contains name
        | _ => false
      if parts.words.isEmpty then
        match assignment? dialect w with
        | some (name, index?, appends, value) =>
          let row? ← if dialect = .extended then rowBehind? level w else pure none
          let a := row?.getD (.mk name index? appends (.text value))
          simpleParts level line rounds checksAliases
            { parts with assignments := a :: parts.assignments }
        | none => asWord
      else if dialect = .extended && declares then
        match ← rowBehind? level w with
        | some (.mk name index? appends value) =>
          simpleParts level line rounds false { parts with
            words := [.text name false] :: parts.words
            rows := .mk name index? appends value :: parts.rows }
        | none => asWord
      else asWord
    | .redirection =>
      let redirection ← redirectionBehind level.inner
      simpleParts level line rounds checksAliases
        { parts with redirections := redirection :: parts.redirections }
    | .operator "(" =>
      match parts.words, parts.assignments, parts.redirections with
      | [name], [], [] =>
        if !(← readToken level.inner).isOperator ")" then unexpected (some "\")\"")
        return .inr (← definition level line name)
      | _, _, _ =>
        readAgain
        return .inl parts
    | _ =>
      readAgain
      return .inl parts

/-- A simple statement or the definition of a function. -/
def simple (level : Level) (line : Nat) : Parse Statement := do
  match ← simpleParts level line readingRounds true {} with
  | .inr statement => return statement
  | .inl parts =>
    let line := if (← get).dialect = .extended then parts.line?.getD line else line
    let statement := Statement.simple line parts.assignments.reverse parts.words.reverse
      parts.redirections.reverse
    if parts.rows.isEmpty then return statement
    return .sequence [statement, .simple line parts.rows.reverse [] []]

/-! ### Statements of any kind -/

/-- A compound statement with the redirections behind it. -/
def withRedirections (level : Level) (line : Nat) (statement : Statement) : (rounds : Nat) →
    List Redirection → Parse Statement
  | 0, _ => return statement
  | rounds + 1, redirections => do
    setChecks { reserved := true, aliases := true }
    match ← readToken level.inner with
    | .redirection =>
      let redirection ← redirectionBehind level.inner
      withRedirections level line statement rounds (redirection :: redirections)
    | _ =>
      readAgain
      if redirections.isEmpty then return statement
      return .redirected line statement redirections.reverse

/-- A function, behind the word that begins its definition. -/
def functionBehind (level : Level) (line : Nat) : Parse Statement := do
  match ← readToken level.inner with
  | .word [.text name false] _ =>
    setChecks { lineEnds := true, reserved := true }
    match ← readToken level.inner with
    | .operator "(" =>
      if !(← readToken level.inner).isOperator ")" then unexpected
      setChecks { lineEnds := true, reserved := true, aliases := true }
      return .define line name (← level.command)
    | _ =>
      readAgain
      return .define line name (← level.command)
  | _ => unexpected

/-- What begins with a parenthesis. -/
def parenthesized (level : Level) (line : Nat) : Parse Statement := do
  let subshell : Parse Statement := do
    let body ← statementList level .some
    if !(← readToken level.inner).isOperator ")" then unexpected (some "\")\"")
    let r ← get
    return .enclosed (if r.dialect = .extended then r.line else line) body
  if (← get).dialect = .plain then return ← subshell
  let before ← get
  if ← takeChar '(' then
    orOtherwise (do
      let piece ← sum (pieceReader level.inner greatestNesting) true
      match piece with
      | .sum expression _ => return some (.compute (← get).line expression)
      | _ => return none) (do
      set before
      subshell)
  else subshell

/-- A statement of the level above. -/
def commandAbove (level : Level) : Parse Statement := do
  let line := (← get).line
  let token ← readToken level.inner
  let compound (statement : Parse Statement) : Parse Statement := do
    withRedirections level line (← statement) readingRounds []
  match token with
  | .reserved "if" => compound (choice level readingRounds)
  | .reserved "while" => compound (do
      let condition ← bodyUpTo level "do"
      return .loop false condition (← bodyUpTo level "done"))
  | .reserved "until" => compound (do
      let condition ← bodyUpTo level "do"
      return .loop true condition (← bodyUpTo level "done"))
  | .reserved "for" => compound (each level line)
  | .reserved "case" => compound (select level line)
  | .reserved "\x7b" => compound (bodyUpTo level "\x7d")
  | .reserved "[[" => compound (bracketed level line)
  | .reserved "function" => functionBehind level line
  | .operator "(" => compound (parenthesized level line)
  | .word _ _ | .redirection =>
    readAgain
    simple level (← get).line
  | _ => unexpected

/-! ### Levels -/

/-- The readers for statements nested at most `depth` deep. -/
def levelAt : (depth : Nat) → Level
  | 0 => {
      inner := { statements := unexpected }
      command := unexpected }
  | depth + 1 => {
      inner := { statements := fun r => statementList (levelAt depth) .any r }
      command := fun r => commandAbove (levelAt depth) r }

/-- Reads what begins on the next line; nothing at the end of the script. -/
def nextScript : Parse (Option Script) := do
  modify fun r => { r with again := false, checks := {}, awaited := [], texts := [] }
  let statement? ← statementsFrom (levelAt greatestNesting) .line readingRounds []
  let texts := (← get).texts
  let r ← get
  let line := match r.last with
    | .lineEnd => r.line - 1
    | _ => r.line
  return statement?.map fun statement => { statement, line, texts }

end Buildwright.Sandbox.Shell
