import Buildwright.Sandbox.Pattern
import Buildwright.Sandbox.Program.Repetition
import Buildwright.Sandbox.Regular

/-!
# Searching lines

The program that selects the lines that fit one of some expressions, and prints them or says
something about them. Its exit code says whether there are any.
-/

namespace Buildwright.Sandbox.Program

/-! ### What is looked for -/

/-- How expressions are written. -/
inductive SoughtKind where
  | basic
  | extended
  | literal
  | perl
  deriving DecidableEq

/-- An expression in which the letters for classes of characters are spelled out. -/
def withoutPerlLetters : List Char → List Char
  | '\\' :: 'd' :: cs => "[0-9]".toList ++ withoutPerlLetters cs
  | '\\' :: 'D' :: cs => "[^0-9]".toList ++ withoutPerlLetters cs
  | '\\' :: 'h' :: cs => "[ \t]".toList ++ withoutPerlLetters cs
  | '\\' :: 't' :: cs => '\t' :: withoutPerlLetters cs
  | '\\' :: c :: cs => '\\' :: c :: withoutPerlLetters cs
  | '(' :: '?' :: ':' :: cs => '(' :: withoutPerlLetters cs
  | c :: cs => c :: withoutPerlLetters cs
  | [] => []

/-- Which lines are selected. -/
structure SoughtStyle where
  kind : SoughtKind
  ignoresCase : Bool
  wholeLines : Bool
  wholeWords : Bool

/-- The expression with a given text. -/
def SoughtStyle.one (style : SoughtStyle) (text : List Char) : Except String Regular := do
  let extended := style.kind = .extended || style.kind = .perl
  let text := if style.kind = .perl then withoutPerlLetters text else text
  let r ←
    if style.kind = .literal then pure (Regular.literal text)
    else match Expression.ofText { extended, lenient := true } text with
      | .error fault => .error fault.message
      | .ok e =>
        if hasConfusingSet (text.length + 1) text then .error confusingSetMessage
        else pure e.regular
  return if style.ignoresCase then r.ignoringCase else r

/-- The expression for lines that fit one of some texts; without any, no line fits. -/
def SoughtStyle.expression (style : SoughtStyle) (texts : List String) : Except String Regular := do
  let parts ← texts.mapM fun text => style.one text.toList
  match parts with
  | [] => return .one fun _ => false
  | part :: parts =>
    let r := parts.foldl .either part
    return if style.wholeLines then .both (lineStart false) (.both r (lineFinish false))
      else if style.wholeWords then .both (beside true) (.both r (beside false))
      else r
where
  /-- A place beside which no character of a word stands. -/
  beside (before : Bool) : Regular :=
    .edge fun before? behind? => !(if before then before? else behind?).any isOfWord

/-- The signs that stand at the start of an extended expression, where they repeat nothing. -/
def idleSigns : (rounds : Nat) → (atStart : Bool) → List Char → List String
  | 0, _, _ | _, _, [] => []
  | rounds + 1, _, '\\' :: cs => idleSigns rounds false (cs.drop 1)
  | rounds + 1, _, '[' :: cs => idleSigns rounds false (confusingSet cs).2
  | rounds + 1, atStart, c :: cs =>
    if c = '(' || c = '|' then idleSigns rounds true cs
    else if c = '^' then idleSigns rounds atStart cs
    else if atStart && (c = '*' || c = '+' || c = '?') then
      String.singleton c :: idleSigns rounds true cs
    else if atStart && c = '\x7b' && (boundsBehind true cs).toOption.isSome then
      "\x7b...\x7d" :: idleSigns rounds true ((cs.dropWhile (· ≠ '\x7d')).drop 1)
    else idleSigns rounds false cs

/-! ### How lines are shown -/

/-- What is printed about lines. -/
structure SearchStyle where
  expression : Regular
  inverted : Bool := false
  most? : Option Nat := none
  /-- How many lines around selected ones are printed, if that is asked for. -/
  before? : Option Nat := none
  after? : Option Nat := none
  separator? : Option String := some "--"
  named : Bool := false
  numbered : Bool := false
  offsets : Bool := false
  aligned : Bool := false
  onlyParts : Bool := false
  counts : Bool := false
  /-- Whether names of sources are printed, those with selected lines or those without. -/
  names? : Option Bool := none
  quiet : Bool := false
  nullBehindName : Bool := false
  final : Char := '\n'
  binaryAsText : Bool := false
  binaryIsEmpty : Bool := false
  silent : Bool := false

/-- Whether no lines are printed. -/
def SearchStyle.isMute (style : SearchStyle) : Bool :=
  style.quiet || style.counts || style.names?.isSome

/-- What is known about a source that is searched. -/
structure Searched where
  name : String
  lines : LineSource
  /-- How wide numbers are printed, if they are aligned. -/
  width : Nat := 0
  number : Nat := 0
  offset : Nat := 0
  count : Nat := 0
  /-- Lines before the next one that are not printed, the last one first. -/
  waiting : List (Nat × Nat × String) := []
  /-- How many of them there may be. -/
  left : Nat := 0
  /-- Whether a line was passed over since the last one that was printed. -/
  hasGap : Bool := false
  isBinary : Bool := false

/-- What stands before a line or a part of it. -/
def SearchStyle.front (style : SearchStyle) (s : Searched) (sign : String) (number offset : Nat)
    (isEmpty : Bool) : String :=
  let width := if style.aligned then s.width else 0
  let name := if !style.named then "" else s.name ++ if style.nullBehindName then "\x00" else sign
  let count := if style.numbered then atEndOf width (toString number) ++ sign else ""
  let place := if style.offsets then atEndOf width (toString offset) ++ sign else ""
  let all := name ++ count ++ place
  all ++ if style.aligned && all ≠ "" && !isEmpty then "\t" else ""

/-- Prints a line that is selected, or one beside it. -/
def SearchStyle.showLine (style : SearchStyle) (s : Searched) (selected : Bool)
    (number offset : Nat) (line : String) : Work Unit := do
  let sign := if selected then ":" else "-"
  if !style.onlyParts then
    Work.print (style.front s sign number offset (line = "") ++ line ++
      String.singleton style.final)
  else if selected && !style.inverted then
    for part in style.expression.findIn line.toList do
      if part.text ≠ [] then
        let place := offset + part.front.length
        Work.print (style.front s sign number place false ++ String.ofList part.text ++ "\n")

/-- Prints the lines before a selected one, and what separates groups of lines. -/
def SearchStyle.showBefore (style : SearchStyle) (s : Searched) (isFirst : Bool) : Work Unit := do
  let isPassed := s.hasGap || style.before?.getD 0 < s.waiting.length
  if let some separator := style.separator? then
    if (style.before?.isSome || style.after?.isSome) && !isFirst && isPassed then
      Work.print (separator ++ "\n")
  for (number, offset, line) in (s.waiting.take (style.before?.getD 0)).reverse do
    style.showLine s false number offset line

/-- Searches the lines that are left. The second part of the result says whether any line of any
source was printed. -/
def SearchStyle.search (style : SearchStyle) (printed : Bool) :
    (rounds : Nat) → Searched → Work (Searched × Bool)
  | 0, s => return (s, printed)
  | rounds + 1, s => do
    let isFull := style.most?.any (· ≤ s.count)
    if isFull && (s.left = 0 || style.isMute || s.isBinary) then return (s, printed)
    let (line?, lines) ← s.lines.take
    match line? with
    | none => return ({ s with lines }, printed)
    | some line =>
      let number := s.number + 1
      let next := { s with lines, number, offset := s.offset + line.text.length + 1 }
      let isSelected :=
        (style.expression.find? none line.text.toList).isSome != style.inverted
      if isSelected && !isFull then
        let next := { next with
          count := s.count + 1, waiting := [], hasGap := false, left := style.after?.getD 0 }
        if style.quiet || style.names?.isSome || (s.isBinary && !style.counts) then
          return (next, printed)
        if style.counts then style.search printed rounds next
        else
          style.showBefore s (!printed)
          style.showLine s true number s.offset line.text
          style.search true rounds next
      else if isFull && isSelected then return ({ s with left := 0 }, printed)
      else if 0 < s.left then
        if !style.isMute && !s.isBinary then style.showLine s false number s.offset line.text
        style.search printed rounds { next with left := s.left - 1 }
      else
        let most := style.before?.getD 0
        style.search printed rounds { next with
          waiting := ((number, s.offset, line.text) :: s.waiting).take (most + 1) }

/-! ### Sources -/

/-- How far all sources are searched. -/
structure SearchProgress where
  isFound : Bool := false
  isFaulty : Bool := false
  printed : Bool := false

/-- Says why something is not searched. -/
def SearchStyle.refuse (style : SearchStyle) (progress : SearchProgress) (message : String) :
    Work SearchProgress := do
  if !style.silent then Work.warn message
  return { progress with isFaulty := true }

/-- Says what was found in a source, after its lines are printed. -/
def SearchStyle.sumUp (style : SearchStyle) (s : Searched) : Work Unit := do
  let behind := if style.nullBehindName then "\x00" else ":"
  if style.counts && !style.quiet then
    Work.print ((if style.named then s.name ++ behind else "") ++ toString s.count ++ "\n")
  if !style.quiet && style.names? = some (decide (0 < s.count)) then
    Work.print (s.name ++ if style.nullBehindName then "\x00" else "\n")
  if s.isBinary && 0 < s.count && !style.isMute && !style.silent then
    Work.warn (s.name ++ ": binary file matches")

/-- Searches what is open under a number. -/
def SearchStyle.searchOpen (style : SearchStyle) (name : String) (number : Nat)
    (progress : SearchProgress) : Work SearchProgress := do
  let source : LineSource := { number, final := style.final }
  let (line?, lines) ← source.take
  let front := match line? with
    | some line => line.text :: lines.ready
    | none => lines.ready
  let isBinary := !style.binaryAsText && style.final = '\n' &&
    (lines.rest :: front).any fun text => text.contains '\x00'
  let lines := match line? with
    | some ⟨text, true⟩ => { lines with ready := text :: lines.ready }
    | some ⟨text, false⟩ => { lines with rest := text }
    | none => lines
  let width ← match ← Work.ask (.statusOf number) with
    | .ok status =>
      let size := if status.kind = .regular then status.size else integerCount
      pure (toString (size + if style.numbered then 1 else 0)).length
    | .error _ => pure 0
  let (s, printed) ←
    if isBinary && style.binaryIsEmpty then pure (({ name, lines } : Searched), progress.printed)
    else style.search progress.printed manyRounds { name, lines, width, isBinary }
  let progress := { progress with printed, isFound := progress.isFound || 0 < s.count }
  if style.quiet && progress.isFound then Work.exit 0
  style.sumUp s
  if style.most?.isSome then s.lines.giveBack
  match s.lines.fault? with
  | none => return progress
  | some fault => style.refuse progress (name ++ ": " ++ fault.reason)

/-- Which files are searched. -/
structure SearchPlaces where
  recursive : Bool := false
  followsAll : Bool := false
  skipsDirectories : Bool := false
  included : List String := []
  excluded : List String := []
  excludedDirectories : List String := []
  label : String := "(standard input)"

/-- Whether a name fits one of some patterns. -/
def fitsAny (patterns : List String) (path : String) : Bool :=
  patterns.any fun pattern =>
    fits (patternOf pattern.toList) path.toList ||
      fits (patternOf pattern.toList) (lastName path.toList [])

/-- Whether a file is passed over because of its name. -/
def SearchPlaces.passes (places : SearchPlaces) (path : String) : Bool :=
  fitsAny places.excluded path ||
    (!places.included.isEmpty && !fitsAny places.included path)

/-- Searches what stands at a path; below a directory at most `depth` levels. -/
def SearchStyle.searchPath (style : SearchStyle) (places : SearchPlaces) (printsTo? : Option Nat) :
    (depth : Nat) → (isOperand : Bool) → (path shown : String) → SearchProgress →
      Work SearchProgress
  | 0, _, _, _, progress => return progress
  | depth + 1, isOperand, path, shown, progress => do
    let status ← Work.ask (.status path (isOperand || places.followsAll))
    let kind? := status.toOption.map (·.kind)
    if kind? = some .directory then
      if !isOperand && fitsAny places.excludedDirectories path then return progress
      if isOperand && places.skipsDirectories then return progress
      if !places.recursive then
        return ← style.refuse progress (shown ++ ": " ++ HostFault.isDirectory.reason)
      match ← Work.ask (.list path) with
      | .error fault => style.refuse progress (shown ++ ": " ++ fault.reason)
      | .ok entries =>
        let mut progress := progress
        for (name, _) in entries do
          let front := if shown = "" then "" else if shown.endsWith "/" then shown else shown ++ "/"
          progress ← style.searchPath places printsTo? depth false
            (if path.endsWith "/" then path ++ name else path ++ "/" ++ name) (front ++ name) progress
        return progress
    else
      if !isOperand && !(kind? = some .regular) then return progress
      if places.passes path then return progress
      match ← Work.ask (.open path .read 0) with
      | .error fault => style.refuse progress (shown ++ ": " ++ fault.reason)
      | .ok number =>
        let isOutput := !style.isMute && kind? = some .regular &&
          printsTo?.isSome && (status.toOption.map (·.id)) = printsTo?
        let progress ←
          if isOutput then style.refuse progress (shown ++ ": input file is also the output")
          else style.searchOpen shown number progress
        let _ ← Work.ask (.close number)
        return progress

/-! ### The program -/

/-- What the program that searches is told. -/
def searchTable : OptionTable := {
  letters := "0123456789EFGPiyhHlLqsvVwxzcnobrRaITUZ", valued := "efmABCdD"
  names := plainNames [("extended-regexp", "E"), ("fixed-strings", "F"), ("basic-regexp", "G"),
      ("perl-regexp", "P"), ("ignore-case", "i"), ("no-ignore-case", "case"),
      ("word-regexp", "w"), ("line-regexp", "x"), ("null-data", "z"), ("no-messages", "s"),
      ("invert-match", "v"), ("byte-offset", "b"), ("line-number", "n"),
      ("line-buffered", "buffered"), ("with-filename", "H"), ("no-filename", "h"),
      ("only-matching", "o"), ("quiet", "q"), ("silent", "q"), ("text", "a"), ("recursive", "r"),
      ("dereference-recursive", "R"), ("files-without-match", "L"), ("files-with-matches", "l"),
      ("count", "c"), ("initial-tab", "T"), ("null", "Z"), ("binary", "U"),
      ("no-group-separator", "joined")] ++
    valuedNames [("regexp", "e"), ("file", "f"), ("max-count", "m"), ("after-context", "A"),
      ("before-context", "B"), ("context", "C"), ("directories", "d"), ("devices", "D"),
      ("label", "label"), ("binary-files", "binary-files"), ("include", "include"),
      ("exclude", "exclude"), ("exclude-dir", "exclude-dir"),
      ("group-separator", "separator")] ++
    [{ name := "color", key := "color", takes := .perhaps },
      { name := "colour", key := "color", takes := .perhaps }] }

/-- Says how the program is used, and ends it. -/
def showSearchUsage {α : Type} : Work α := do
  Work.remark ("Usage: grep [OPTION]... PATTERNS [FILE]...\n" ++
    "Try 'grep --help' for more information.\n")
  Work.exit 2

/-- The number of lines that an option gives. -/
def contextCount (d : Directions) (key : String) : Work (Option Nat) := do
  match d.value? key with
  | none => return none
  | some text =>
    match naturalOf? text with
    | some n => return some n
    | none => Work.abandon (text ++ ": invalid context length argument") 2

/-- The lines of a text in which each one is an expression. -/
def expressionLines (text : String) : List String := (linesOf '\n' text).lines

/-- The texts that are looked for, and the paths behind them. -/
def soughtTexts (d : Directions) : Work (List String × List String) := do
  let mut texts := []
  for (key, value?) in d.options do
    let value := value?.getD ""
    if key = "e" then texts := texts ++ value.splitOn "\n"
    else if key = "f" then
      match ← Work.textOf value with
      | .ok text => texts := texts ++ expressionLines text
      | .error fault => Work.abandon (value ++ ": " ++ fault.reason) 2
  if d.hasAny ["e", "f"] then return (texts, d.operands)
  match d.operands with
  | [] => showSearchUsage
  | text :: paths => return (text.splitOn "\n", paths)

/-- The kind of expressions that options ask for. -/
def askedKind (standard : SoughtKind) (d : Directions) : Work SoughtKind := do
  let kinds := (d.options.map Prod.fst).filter fun key => ["E", "F", "G", "P"].contains key
  match kinds with
  | [] => return standard
  | kind :: others =>
    if others.any (· ≠ kind) then Work.abandon "conflicting matchers specified" 2
    return match kind with
      | "E" => .extended
      | "F" => .literal
      | "P" => .perl
      | _ => .basic

/-- Selects lines of sources. -/
def searchLines (standard : SoughtKind) : Work Unit := do
  let d := searchTable.directions (← Work.arguments)
  if let some fault := d.fault? then
    Work.warn fault
    showSearchUsage
  let kind ← askedKind standard d
  let before? ← contextCount d "B"
  let after? ← contextCount d "A"
  let around? ← contextCount d "C"
  let digits := digitFields d
  let isDigits := d.options.any fun (key, _) => key.all Char.isDigit
  let around? := if isDigits then some digits else around?
  let most? ← match d.value? "m" with
    | none => pure none
    | some text =>
      match text.toInt? with
      | some n => pure (if n < 0 then none else some n.toNat)
      | none => Work.abandon "invalid max count" 2
  let (texts, paths) ← soughtTexts d
  let style : SoughtStyle := {
    kind, wholeLines := d.has "x", wholeWords := d.has "w"
    ignoresCase := (d.last? ["i", "y", "case"]).any (· ≠ "case") }
  let expression ← match style.expression texts with
    | .ok r => pure r
    | .error message => Work.abandon message 2
  if kind = .extended then
    for text in texts do
      for sign in idleSigns (text.length + 1) true text.toList do
        Work.warn ("warning: " ++ sign ++ " at start of expression")
  let recursive := d.hasAny ["r", "R"] || d.value? "d" = some "recurse"
  let isSingle ← match paths with
    | [] => pure (!recursive)
    | [path] =>
      if recursive then pure !(← Work.isDirectory path) else pure true
    | _ => pure false
  let output ← Work.ask (.statusOf 1)
  let null ← Work.ask (.status "/dev/null" true)
  let outputId? := output.toOption.map (·.id)
  let isDropped := outputId?.isSome && outputId? = null.toOption.map (·.id)
  let binary := d.value? "binary-files"
  if binary.any fun word => !(["binary", "text", "without-match"].contains word) then
    Work.abandon "unknown binary-files type" 2
  let names? := (d.last? ["l", "L"]).map fun key => decide (key = "l")
  let search : SearchStyle := {
    expression, inverted := d.has "v", most?, before? := before?.or around?
    after? := after?.or around?
    separator? := match d.last? ["separator", "joined"] with
      | some "joined" => none
      | some _ => d.value? "separator"
      | none => some "--"
    named := match d.last? ["h", "H"] with
      | some key => key = "H"
      | none => !isSingle
    numbered := d.has "n", offsets := d.has "b", aligned := d.has "T", onlyParts := d.has "o"
    counts := d.has "c" && names?.isNone, names?, quiet := d.has "q" || isDropped
    nullBehindName := d.has "Z", final := lineFinal d
    binaryAsText := d.has "a" || binary = some "text"
    binaryIsEmpty := d.has "I" || binary = some "without-match", silent := d.has "s" }
  let places : SearchPlaces := {
    recursive, followsAll := d.has "R", skipsDirectories := d.value? "d" = some "skip"
    included := d.values "include", excluded := d.values "exclude"
    excludedDirectories := d.values "exclude-dir"
    label := (d.value? "label").getD "(standard input)" }
  let printsTo? := (output.toOption.filter (·.kind = .regular)).map (·.id)
  let mut progress : SearchProgress := {}
  if paths.isEmpty && recursive then
    progress ← search.searchPath places printsTo? manyRounds true "." "" progress
  else
    for path in sourcesOf paths do
      if path = "-" then progress ← search.searchOpen places.label 0 progress
      else progress ← search.searchPath places printsTo? manyRounds true path path progress
  Work.exit (if progress.isFaulty then 2 else if progress.isFound then 0 else 1)

end Buildwright.Sandbox.Program
