/-!
# Statements of the shell

What the text of a script says. A word is a list of pieces, of which some name parameters, run
statements or compute a number; what they give is found when the word is used. The texts that
statements read stand behind the line on which they are mentioned; a statement knows them by number.
-/

namespace Buildwright.Sandbox.Shell

/-- Which of the shells runs a script. -/
inductive Dialect where
  /-- It knows what every shell knows. -/
  | plain
  /-- It also knows rows of values, conditions in brackets and more. -/
  | extended
  deriving DecidableEq

/-- What happens where a parameter has no value. -/
inductive Fallback where
  /-- Another word stands for it. -/
  | replace
  /-- It becomes another word. -/
  | assign
  /-- The script ends with a message. -/
  | complain
  /-- Nothing, and another word stands for any value. -/
  | alternative
  deriving DecidableEq

/-- Which parts of a value are replaced. -/
inductive ReplaceMode where
  | first
  | all
  | front
  | back
  deriving DecidableEq

/-- How a file is opened for a statement. -/
inductive OpenMode where
  | read
  | replace
  /-- It is replaced even if files that are there are protected. -/
  | force
  | append
  | both
  deriving DecidableEq

/-- What follows the statements of a branch. -/
inductive BranchEnd where
  | leave
  /-- The statements of the next branch. -/
  | fall
  /-- The next branch that fits. -/
  | goOn
  deriving DecidableEq

mutual

/-- What a dollar sign names. -/
inductive Parameter where
  | named (name : String)
  /-- One value of a row. -/
  | element (name : String) (index : List Piece)
  /-- All values of a row, each for itself or in one. -/
  | elements (name : String) (joined : Bool)
  /-- The argument at a position counted from one; at zero stands the name of the script. -/
  | position (n : Nat)
  /-- All arguments, each for itself. -/
  | each
  /-- All arguments in one. -/
  | joined
  /-- The number of arguments. -/
  | count
  /-- The exit code of the last statement. -/
  | status
  /-- The number of the process. -/
  | process
  /-- The number of the last process in the background. -/
  | background
  /-- The letters of the options that are set. -/
  | options
  /-- The parameter that the value of another one names. -/
  | indirect (through : Parameter)
  /-- The names of all variables that begin in some way. -/
  | namesWith (front : String) (joined : Bool)
  /-- The positions or names under which a row has values. -/
  | keys (name : String) (joined : Bool)

/-- A part of a word. -/
inductive Piece where
  /-- Characters that stand for themselves; in patterns only those between quotes do. -/
  | text (text : String) (quoted : Bool)
  | parameter (parameter : Parameter) (use : ParameterUse) (quoted : Bool)
  /-- What statements print. -/
  | output (statement : Statement) (quoted : Bool)
  /-- The value of an expression. -/
  | sum (expression : List Piece) (quoted : Bool)
  /-- The path of a channel from which statements read or to which they print. -/
  | channel (reads : Bool) (statement : Statement)

/-- What is taken of the value of a parameter. -/
inductive ParameterUse where
  | value
  | length
  /-- An empty value counts as none where `emptyToo` holds. -/
  | fallback (kind : Fallback) (emptyToo : Bool) (word : List Piece)
  /-- The value without the shortest or longest front or end that fits a pattern. -/
  | trimmed (atEnd longest : Bool) (pattern : List Piece)
  /-- A part of the value. -/
  | part (start : List Piece) (length? : Option (List Piece))
  /-- The value with something else for what fits a pattern. -/
  | replaced (mode : ReplaceMode) (pattern replacement : List Piece)
  /-- The value in capital or small letters. -/
  | cased (capital all : Bool) (pattern : List Piece)
  /-- The value in another form. -/
  | transformed (form : Char)
  /-- It cannot be understood. -/
  | senseless (text : String)

/-- Another place for what a statement reads or prints under a number. -/
inductive Redirection where
  | file (number : Nat) (mode : OpenMode) (path : List Piece)
  /-- A file for what is printed and for messages. -/
  | bothTo (appends : Bool) (path : List Piece)
  /-- The place that another number has; the number is moved if the word ends in a hyphen. -/
  | copy (number : Nat) (writes : Bool) (source : List Piece)
  /-- A text to read, by its number. -/
  | text (number id : Nat)
  /-- A word to read. -/
  | word (number : Nat) (word : List Piece)

/-- A value that a variable gets. -/
inductive Assigned where
  | text (word : List Piece)
  /-- Values for a row, some of them with a position or name. -/
  | row (items : List (Option (List Piece) × List Piece))

/-- A variable and the value that it gets; `appends` says that it is put behind the old one. -/
inductive Assignment where
  | mk (name : String) (index? : Option (List Piece)) (appends : Bool) (value : Assigned)

/-- A condition in double brackets. -/
inductive Condition where
  | unary (operator : String) (operand : List Piece)
  | binary (operator : String) (first second : List Piece)
  | negated (c : Condition)
  | both (a b : Condition)
  | either (a b : Condition)

/-- A statement of a script. -/
inductive Statement where
  /-- A program, function or built-in statement with its arguments, or assignments alone. -/
  | simple (line : Nat) (assignments : List Assignment) (words : List (List Piece))
      (redirections : List Redirection)
  | redirected (line : Nat) (body : Statement) (redirections : List Redirection)
  | sequence (statements : List Statement)
  /-- Statements of which each reads what the one before it prints. -/
  | pipeline (statements : List Statement)
  | both (first second : Statement)
  | either (first second : Statement)
  | negated (body : Statement)
  | background (line : Nat) (body : Statement)
  /-- Statements in a process of their own. -/
  | enclosed (line : Nat) (body : Statement)
  | choice (condition yes : Statement) (no? : Option Statement)
  | loop (untilTrue : Bool) (condition body : Statement)
  /-- Statements for each of some words; without them, for each argument. -/
  | each (line : Nat) (name : String) (words? : Option (List (List Piece))) (body : Statement)
  /-- The statements behind the first pattern that fits a word. -/
  | select (line : Nat) (word : List Piece)
      (branches : List (List (List Piece) × Statement × BranchEnd))
  | define (line : Nat) (name : String) (body : Statement)
  | condition (line : Nat) (c : Condition)
  /-- An expression that holds if it is not zero. -/
  | compute (line : Nat) (expression : List Piece)
  /-- Statements whose duration is told. -/
  | timed (posix : Bool) (body : Statement)

end

/-- A word. -/
abbrev Word := List Piece

/-- The statement that does nothing. -/
def Statement.nothing : Statement := .sequence []

/-- The line on which the first part of a statement stands, which is at most so many levels deep. -/
def Statement.firstLine : (levels : Nat) → Statement → Nat
  | 0, _ => 0
  | levels + 1, statement =>
    match statement with
    | .simple line _ _ _ | .each line _ _ _ | .select line _ _ | .define line _ _
    | .condition line _ | .compute line _ => line
    | .redirected _ body _ | .negated body | .background _ body | .enclosed _ body | .timed _ body =>
      body.firstLine levels
    | .both first _ | .either first _ | .choice first _ _ | .loop _ first _ =>
      first.firstLine levels
    | .sequence statements | .pipeline statements =>
      (statements.head?.map (Statement.firstLine levels)).getD 0

/-- A script, or a part of one that is run at once. -/
structure Script where
  statement : Statement
  /-- The line on which it ends. -/
  line : Nat := 0
  /-- The texts that its statements read, by number. -/
  texts : List (Nat × Word) := []

end Buildwright.Sandbox.Shell
