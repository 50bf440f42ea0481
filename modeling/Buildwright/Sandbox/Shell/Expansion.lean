import Buildwright.Sandbox.Pattern
import Buildwright.Sandbox.Shell.Sum

/-!
# Expansion

What the words of a script stand for. A word first becomes a row of letters, of which each says
where it comes from. Letters that were written are taken as they are; those that a parameter or a
statement gave are cut into fields at the separators, unless quotes stand around them. A field is
then the pattern of the files that it fits, if there are any.
-/

namespace Buildwright.Sandbox.Shell

/-- What the statements within words do. -/
structure Inside where
  /-- What a statement prints. -/
  capture : Statement → Sh String
  /-- The path of a channel to or from a statement. -/
  channel : (reads : Bool) → Statement → Sh String

/-! ### Letters -/

/-- Where a letter comes from. -/
inductive LetterKind where
  | written
  | quoted
  | produced
  deriving DecidableEq

/-- A part of what a word stands for. -/
inductive Atom where
  | letter (c : Char) (kind : LetterKind)
  /-- Quotes, of which a field is left even if nothing stands between them. -/
  | quotes
  /-- The end of one argument before another one. -/
  | boundary

/-- The letters of a text. -/
def letters (kind : LetterKind) (text : String) : List Atom := text.toList.map (.letter · kind)

/-- The kind of what a dollar sign gives. -/
def kindOf (quoted : Bool) : LetterKind := if quoted then .quoted else .produced

/-- The text of atoms, with a blank between arguments. -/
def plainText (atoms : List Atom) : String :=
  String.ofList (atoms.filterMap fun
    | .letter c _ => some c
    | .quotes => none
    | .boundary => some ' ')

/-- The text of a pattern, in which quoted letters stand for themselves, as a slash always does. -/
def patternLetters (atoms : List Atom) : List Char :=
  atoms.flatMap fun
    | .letter c .quoted => if c = '/' then [c] else ['\\', c]
    | .letter c _ => [c]
    | .quotes => []
    | .boundary => [' ']

/-- The pattern with a given text. -/
def State.pattern (s : State) (text : List Char) : List Glyph :=
  match s.dialect with
  | .plain => patternWith ['!'] text
  | .extended => if s.isOn "extglob" then groupedPatternOf text else patternWith ['!', '^'] text

/-! ### Tildes -/

/-- The directories of those who have an account. -/
def homes : List (String × String) := [
  ("root", "/root"), ("daemon", "/usr/sbin"), ("bin", "/bin"), ("sys", "/dev"), ("sync", "/bin"),
  ("games", "/usr/games"), ("man", "/var/cache/man"), ("lp", "/var/spool/lpd"),
  ("mail", "/var/mail"), ("news", "/var/spool/news"), ("www-data", "/var/www"),
  ("backup", "/var/backups"), ("nobody", "/nonexistent")]

/-- The directory that a name behind a tilde stands for. -/
def State.home? (s : State) (name : String) : Option String :=
  match s.dialect, name with
  | .plain, "" => s.text? "HOME"
  | .extended, "" => some ((s.text? "HOME").getD "/root")
  | .extended, "+" => s.text? "PWD"
  | .extended, "-" => s.text? "OLDPWD"
  | _, name => homes.lookup name

/-- A text without quotes where a tilde may stand for a directory: at its start if `atStart` holds,
and behind colons if `colons` does. `isLast` says that nothing of the word is behind it. -/
def State.tildePieces (s : State) (colons isLast : Bool) :
    (rounds : Nat) → (atStart : Bool) → List Char → Word
  | 0, _, cs => [.text (String.ofList cs) false]
  | _, _, [] => []
  | rounds + 1, atStart, cs =>
    let goOn (front rest : List Char) : Word :=
      let behind := rest.takeWhile (· ≠ ':')
      let after := rest.drop behind.length
      let own := front ++ behind ++ after.take 1
      let others := s.tildePieces colons isLast rounds true (after.drop 1)
      if own.isEmpty then others else .text (String.ofList own) false :: others
    match atStart, cs with
    | true, '~' :: behind =>
      let name := behind.takeWhile fun c => c ≠ '/' && !(colons && c = ':')
      let rest := behind.drop name.length
      match if rest.isEmpty && !isLast then none else s.home? (String.ofList name) with
      | some home =>
        if colons then .text home true :: goOn [] rest
        else [.text home true] ++ if rest.isEmpty then [] else [.text (String.ofList rest) false]
      | none => if colons then goOn ('~' :: name) rest else [.text (String.ofList cs) false]
    | _, cs => if colons then goOn [] cs else [.text (String.ofList cs) false]

/-- A word with directories for tildes. -/
def State.withTildes (s : State) (colons : Bool) (w : Word) : Word :=
  let rec go (atStart : Bool) : Word → Word
    | [] => []
    | .text t false :: rest =>
      if t.contains '~' && (atStart || colons) then
        s.tildePieces colons rest.isEmpty (t.length + 1) atStart t.toList ++ go false rest
      else .text t false :: go false rest
    | piece :: rest => piece :: go false rest
  go true w

/-! ### Parameters -/

/-- What a parameter stands for. -/
inductive Found where
  | nothing
  | one (text : String)
  /-- Several texts, which are one if they are `joined`. -/
  | many (texts : List String) (joined : Bool)

/-- The texts with the first of the separators between them. -/
def State.joined (s : State) (texts : List String) : String :=
  (String.ofList (s.separators.take 1)).intercalate texts

/-- The one text of what a parameter stands for. -/
def Found.text? (s : State) : Found → Option String
  | nothing => none
  | one t => some t
  | many [] _ => none
  | many texts joined => some (if joined then s.joined texts else " ".intercalate texts)

/-- The name of a parameter as messages show it. -/
def Parameter.shown : Parameter → String
  | named name => name
  | element name index => name ++ "[" ++ (match index with
      | [.text t _] => t
      | _ => "") ++ "]"
  | elements name inOne => name ++ (if inOne then "[*]" else "[@]")
  | position n => toString n
  | each => "@"
  | joined => "*"
  | count => "#"
  | status => "?"
  | process => "$"
  | background => "!"
  | options => "-"
  | indirect p => p.shown
  | namesWith front _ => front
  | keys name _ => name

/-- The parameter with a given name. -/
def parameterNamed (text : String) : Parameter :=
  match text with
  | "@" => .each
  | "*" => .joined
  | "#" => .count
  | "?" => .status
  | "$" => .process
  | "!" => .background
  | "-" => .options
  | text =>
    match naturalOf? text with
    | some n => .position n
    | none =>
      let cs := text.toList
      let name := cs.takeWhile isNameChar
      match cs.drop name.length with
      | '[' :: index =>
        let index := index.dropLast
        if index = ['@'] then .elements (String.ofList name) false
        else if index = ['*'] then .elements (String.ofList name) true
        else .element (String.ofList name) [.text (String.ofList index) false]
      | _ => .named text

/-- The letters of the options that are on, in the order in which the shell tells them. -/
def State.optionLetters (s : State) : String :=
  let order := match s.dialect with
    | .plain => "ubaCEVvxsnmiIfe"
    | .extended => "abefhikmnprtuvxBCEHPTcs"
  String.ofList (order.toList.filter fun c => s.isOn (String.singleton c)).eraseDups

/-- What a row is asked for under a position. -/
def elementOf (value : Value) (index : String) : Sh (Option String) := do
  let row := value.asRow
  let n ← evaluateText index
  return (rowPosition? row n).bind (row[·]?)

/-- What a parameter stands for; `text` gives what a position is. -/
def foundFor (text : Word → Sh String) : (depth : Nat) → Parameter → Sh Found
  | 0, _ => return .nothing
  | depth + 1, p => do
    let s ← get
    let of? : Option String → Found := fun
      | some t => .one t
      | none => .nothing
    match p with
    | .named name => return of? (s.text? name)
    | .position 0 => return .one s.name
    | .position (n + 1) => return of? s.arguments[n]?
    | .each => return .many s.arguments false
    | .joined => return .many s.arguments true
    | .count => return .one (toString s.arguments.length)
    | .status => return .one (toString s.status)
    | .process => return .one (toString s.process)
    | .background => return of? (s.background?.map toString)
    | .options => return .one s.optionLetters
    | .element name index => return of? (← elementOf (s.value name) (← text index))
    | .elements name joined => return .many ((s.value name).elements.map Prod.snd) joined
    | .keys name joined => return .many ((s.value name).elements.map Prod.fst) joined
    | .namesWith front joined =>
      let names := (s.bindings.toList.filter fun (name, v) =>
        name.startsWith front && v.value.text?.isSome).map Prod.fst
      return .many (names.mergeSort fun a b => !(b < a)) joined
    | .indirect through =>
      match (← foundFor text depth through).text? s with
      | some name => foundFor text depth (parameterNamed name)
      | none => return .nothing

/-- Stops the script with a message. -/
def stopWith {α : Type} (plain extended : String) : Sh α := do
  if ← isExtended then
    complain extended
    setStatus 1
    throw .exit
  else fail plain

/-- Gives a parameter a value that had none. -/
def assignParameter (text : Word → Sh String) (p : Parameter) (value : String) : Sh Unit := do
  match p with
  | .named name => storeText name value
  | .element name index =>
    let index ← text index
    let row := ((← get).value name).asRow
    store name (.row (row.insert ((rowPosition? row (← evaluateText index)).getD 0) value))
  | p => stopWith "Bad substitution" ("$" ++ p.shown ++ ": cannot assign in this way")

/-! ### Parts of values -/

/-- The part of a list from a position on, which counts from the end if it is negative. -/
def partOf {α : Type} (list : List α) (start : Int) (length? : Option Int) : Option (List α) :=
  let size : Int := list.length
  let start := if start < 0 then start + size else start
  if start < 0 then some []
  else
    let rest := list.drop start.toNat
    match length? with
    | none => some rest
    | some n =>
      if 0 ≤ n then some (rest.take n.toNat)
      else
        let finish := size + n
        if finish < start then none else some (rest.take (finish - start).toNat)

/-- A text in which other ones stand for what fits a pattern. -/
def replacedAll (glyphs : List Glyph) (replacement : List Char) (once : Bool) :
    (rounds : Nat) → List Char → List Char
  | 0, cs => cs
  | _, [] => []
  | rounds + 1, c :: cs =>
    match (endsBehind glyphs (c :: cs)).getLast? with
    | some (n, rest) =>
      if n = cs.length + 1 then c :: replacedAll glyphs replacement once rounds cs
      else replacement ++ if once then rest else replacedAll glyphs replacement once rounds rest
    | none => c :: replacedAll glyphs replacement once rounds cs

/-- A text with another one for what fits a pattern. -/
def replacedText (mode : ReplaceMode) (glyphs : List Glyph) (replacement text : List Char) :
    List Char :=
  match mode with
  | .first => replacedAll glyphs replacement true (text.length + 1) text
  | .all => replacedAll glyphs replacement false (text.length + 1) text
  | .front =>
    match (endsBehind glyphs text).getLast? with
    | some (_, rest) => replacement ++ rest
    | none => text
  | .back =>
    match (endsBehind (reversedAll glyphs []) text.reverse).getLast? with
    | some (_, rest) => rest.reverse ++ replacement
    | none => text

/-- A text in capital or small letters where it fits a pattern. -/
def casedText (capital all : Bool) (glyphs : List Glyph) (text : List Char) : List Char :=
  let change (c : Char) : Char :=
    if glyphs.isEmpty || fits glyphs [c] then (if capital then c.toUpper else c.toLower) else c
  if all then text.map change
  else match text with
    | [] => []
    | c :: cs => change c :: cs

/-- A value in another form. -/
def transformedText (form : Char) (text : String) : String :=
  match form with
  | 'Q' => if holdsUnprintable text then escapeQuoted text else singlyQuoted text
  | 'U' => text.map Char.toUpper
  | 'L' => text.map Char.toLower
  | 'u' => String.ofList (casedText true false [] text.toList)
  | _ => text

/-! ### Pieces -/

/-- The last line ends of a text are left out. -/
def withoutLastLines (text : String) : String :=
  if text.endsWith "\n" then String.ofList ((text.toList.reverse.dropWhile (· = '\n')).reverse) else text

/-- What a word gives inside a parameter: letters that were written come from the parameter. -/
def insideParameter (quoted : Bool) (atoms : List Atom) : List Atom :=
  atoms.map fun
    | .letter c .written => .letter c (kindOf quoted)
    | atom => atom

/-- The atoms of what a parameter stands for. Where words are not cut, several texts are one. -/
def Found.atoms (s : State) (quoted splits : Bool) : Found → List Atom
  | nothing => []
  | one t => letters (kindOf quoted) t
  | many texts joined =>
    if joined && (quoted || !splits) then letters (kindOf quoted) (s.joined texts)
    else (texts.map fun t => (if quoted then [Atom.quotes] else []) ++ letters (kindOf quoted) t)
      |>.intersperse [.boundary] |>.flatten

/-- What a parameter stands for, each text changed. -/
def Found.map (f : String → String) : Found → Found
  | nothing => nothing
  | one t => one (f t)
  | many texts joined => many (texts.map f) joined

/-- Whether a parameter that has no value is no fault. -/
def Parameter.mayBeMissing : Parameter → Bool
  | each | joined | elements _ _ | keys _ _ | namesWith _ _ => true
  | _ => false

/-- Whether a parameter stands for the arguments. -/
def Parameter.isArguments : Parameter → Bool
  | each | joined => true
  | _ => false

/-- How many parameters may name each other. -/
def greatestIndirection : Nat := 8

/-- Stops since a parameter has no value. -/
def stopUnset {α : Type} (p : Parameter) : Sh α :=
  stopWith (p.shown ++ ": parameter not set") (p.shown ++ ": unbound variable")

/-- What a word gives; words are cut into fields later if `splits` holds. -/
abbrev WordReader := (splits : Bool) → Word → Sh (List Atom)

/-- The text that a word gives. -/
def WordReader.text (word : WordReader) (w : Word) : Sh String := return plainText (← word false w)

/-- What a parameter gives. -/
def ParameterUse.atoms (word : WordReader) (splits : Bool) (p : Parameter) (quoted : Bool) :
    ParameterUse → Sh (List Atom)
  | .value => do
    let found ← foundFor (word.text) greatestIndirection p
    let s ← get
    if (found.text? s).isNone && s.isOn "u" && !p.mayBeMissing then stopUnset p
    return found.atoms s quoted splits
  | .length => do
    let found ← foundFor (word.text) greatestIndirection p
    let s ← get
    if (found.text? s).isNone && s.isOn "u" && !p.mayBeMissing then stopUnset p
    let size := match s.dialect, found with
      | .extended, .many texts _ => texts.length
      | _, found => ((found.text? s).getD "").length
    return letters (kindOf quoted) (toString size)
  | .fallback kind emptyToo other => do
    let found ← foundFor (word.text) greatestIndirection p
    let s ← get
    let present := (found.text? s).any fun text => !(emptyToo && text = "")
    let other := if quoted then other else s.withTildes false other
    match kind, present with
    | .alternative, false => return []
    | .alternative, true | .replace, false =>
      return insideParameter quoted (← word splits other)
    | .assign, false =>
      let text := plainText (← word false other)
      assignParameter (word.text) p text
      return letters (kindOf quoted) text
    | .complain, false =>
      let text := plainText (← word false other)
      let standard := s.dialect = .extended && emptyToo
      let message := if !other.isEmpty then text
        else if standard then "parameter null or not set"
        else if emptyToo then "parameter not set or null"
        else "parameter not set"
      stopWith (p.shown ++ ": " ++ message) (p.shown ++ ": " ++ message)
    | _, true => return found.atoms s quoted splits
  | .senseless text => do
    if ← isExtended then
      complain (text ++ ": bad substitution")
      setStatus 1
      throw .line
    else fail "Bad substitution"
  | .trimmed atEnd longest pattern => do
    let found ← foundFor (word.text) greatestIndirection p
    let letters := patternLetters (← word false pattern)
    let s ← get
    if (found.text? s).isNone && s.isOn "u" && !p.mayBeMissing then stopUnset p
    let glyphs := s.pattern letters
    let trim (t : String) : String := String.ofList
      (if atEnd then trimEnd longest glyphs t.toList else trimFront longest glyphs t.toList)
    return (found.map trim).atoms s quoted splits
  | .part start length? => do
    let found ← foundFor (word.text) greatestIndirection p
    let start ← evaluateText (plainText (← word false start))
    let length? ← match length? with
      | some size => pure (some (← evaluateText (plainText (← word false size))))
      | none => pure none
    let s ← get
    let refuse : Sh (List Atom) := do
      complain (toString (length?.getD 0) ++ ": substring expression < 0")
      setStatus 1
      throw .line
    match found with
    | .many texts joined =>
      let texts := if p.isArguments then
          (if start = 0 then s.name :: texts else texts) else texts
      let start := if p.isArguments && 0 < start then start - 1 else start
      match partOf texts start length? with
      | some texts => return (Found.many texts joined).atoms s quoted splits
      | none => refuse
    | found =>
      match partOf ((found.text? s).getD "").toList start length? with
      | some cs => return letters (kindOf quoted) (String.ofList cs)
      | none => refuse
  | .replaced mode pattern replacement => do
    let found ← foundFor (word.text) greatestIndirection p
    let letters := patternLetters (← word false pattern)
    let replacement := (plainText (← word false replacement)).toList
    let s ← get
    let glyphs := s.pattern letters
    let replace (t : String) : String :=
      if glyphs.isEmpty then t
      else String.ofList (replacedText mode glyphs replacement t.toList)
    return (found.map replace).atoms s quoted splits
  | .cased capital all pattern => do
    let found ← foundFor (word.text) greatestIndirection p
    let letters := patternLetters (← word false pattern)
    let s ← get
    let glyphs := s.pattern letters
    return (found.map fun t => String.ofList (casedText capital all glyphs t.toList)).atoms s quoted
      splits
  | .transformed form => do
    let found ← foundFor (word.text) greatestIndirection p
    return (found.map (transformedText form)).atoms (← get) quoted splits

/-- What a piece gives. -/
def Piece.atoms (inside : Inside) (word : WordReader) (splits : Bool) : Piece → Sh (List Atom)
  | .text t quoted =>
    return if quoted then (if t = "" then [.quotes] else letters .quoted t) else letters .written t
  | .output statement quoted => do
    let text ← inside.capture statement
    let text := if text.contains '\x00' then text.replace "\x00" "" else text
    return letters (kindOf quoted) (withoutLastLines text)
  | .sum expression quoted => do
    let text := plainText (← word false expression)
    return letters (kindOf quoted) (toString (← evaluateText text))
  | .channel reads statement => return letters .quoted (← inside.channel reads statement)
  | .parameter p use quoted => use.atoms word splits p quoted

/-- What the pieces of a word give, one within another at most `depth` deep. -/
def wordAtomsWithin (inside : Inside) : (depth : Nat) → WordReader
  | 0, _, _ => return []
  | depth + 1, splits, pieces => do
    let piece (p : Piece) : Sh (List Atom) := p.atoms inside (wordAtomsWithin inside depth) splits
    match pieces with
    | [p] => piece p
    | pieces => return (← pieces.mapM piece).flatten

/-- What the pieces of a word give. -/
def wordAtoms (inside : Inside) : WordReader := wordAtomsWithin inside greatestNesting

/-- The text that a word gives. -/
def wordText (inside : Inside) (w : Word) : Sh String := (wordAtoms inside).text w

/-! ### Fields -/

/-- The fields that were cut off so far, the last one first, each with its last atom first. -/
structure Fields where
  done : List (List Atom) := []
  /-- The field that is open. -/
  open? : Option (List Atom) := none
  /-- Whether the last field ended at a blank. -/
  atBlank : Bool := false

namespace Fields

/-- Ends the open field. -/
def close (f : Fields) (atBlank : Bool) : Fields :=
  { done := f.open?.toList ++ f.done, atBlank }

/-- Puts an atom into the open field. -/
def add (f : Fields) (atom : Atom) : Fields :=
  { f with open? := some (atom :: f.open?.getD []), atBlank := false }

/-- The fields with one atom more. Blanks separate fields together; any other separator ends a field
even if it is empty. -/
def next (separators : List Char) (f : Fields) : Atom → Fields
  | .boundary => f.close false
  | .letter c .produced =>
    if !separators.contains c then f.add (.letter c .produced)
    else if c = ' ' || c = '\t' || c = '\n' then
      if f.open?.isSome then f.close true else f
    else if f.open?.isSome then f.close false
    else if f.atBlank then { f with atBlank := false }
    else { f with done := [] :: f.done }
  | atom => f.add atom

end Fields

/-- The fields of atoms. -/
def fieldsOf (separators : List Char) (atoms : List Atom) : List (List Atom) :=
  (((atoms.foldl (Fields.next separators) {}).close false).done.map List.reverse).reverse

/-! ### Files that fit a field -/

/-- Whether a letter gives a pattern its meaning. -/
def isPatternSign (extglob : Bool) (c : Char) : Bool :=
  c = '*' || c = '?' || c = '[' || (extglob && c = '(')

/-- Whether a field may be a pattern of files. -/
def isPattern (extglob : Bool) (field : List Atom) : Bool :=
  field.any fun
    | .letter c kind => kind ≠ .quoted && isPatternSign extglob c
    | _ => false

/-- Whether a part of a path may be a pattern. -/
def isPatternText (cs : List Char) : Bool := cs.any fun c => "*?[\\(".toList.contains c

/-- A text without the backslashes that take the meaning from what is behind them. -/
def unshielded : List Char → List Char
  | '\\' :: c :: cs => c :: unshielded cs
  | c :: cs => c :: unshielded cs
  | [] => []

/-- The names in a directory that a component fits: hidden ones only if it starts with a dot. -/
def namesFitting (directory : String) (component : List Char) : Sh (List String) := do
  let s ← get
  let path := if directory = "" then "." else directory
  match ← Sh.ask (.list path) with
  | .error _ => return []
  | .ok entries =>
    let glyphs := s.pattern component
    let startsWithDot := component.head? = some '.' || component.take 2 = ['\\', '.']
    let showsHidden := startsWithDot || s.isOn "dotglob"
    let dots := if startsWithDot && !s.isExtended then [".", ".."] else []
    return (dots ++ entries.map Prod.fst).filter fun name =>
      (showsHidden || name.toList.head? ≠ some '.') && fits glyphs name.toList

/-- The paths that fit components behind a front. -/
def pathsFitting : (components : List (List Char)) → (front : String) → Sh (List String)
  | [], front => do
    match ← Sh.ask (.status front false) with
    | .ok _ => return [front]
    | .error _ => return []
  | [component], front => do
    if isPatternText component then
      return (← namesFitting front component).map (front ++ ·)
    else pathsFitting [] (front ++ String.ofList (unshielded component))
  | component :: components, front => do
    if isPatternText component then
      let names ← namesFitting front component
      return (← names.mapM fun name => do
        let path := front ++ name
        match ← Sh.ask (.status path true) with
        | .ok { kind := .directory, .. } => pathsFitting components (path ++ "/")
        | _ => return []).flatten
    else pathsFitting components (front ++ String.ofList (unshielded component) ++ "/")

/-- The parts of a pattern between the slashes, which do not count in brackets of no set. -/
def patternComponents (cs : List Char) : List (List Char) :=
  cs.foldr (fun c parts =>
    if c = '/' then [] :: parts
    else match parts with
      | part :: parts => (c :: part) :: parts
      | [] => [[c]]) [[]]

/-- The words that a field stands for. -/
def filesFor (field : List Atom) : Sh (List String) := do
  let s ← get
  if isPattern (s.isOn "extglob") field && !s.isOn "f" then
    let components := patternComponents (patternLetters field)
    match ← pathsFitting components "" with
    | [] =>
      if s.isOn "nullglob" then return []
      else if s.isOn "failglob" then
        complain ("no match: " ++ plainText field)
        setStatus 1
        throw .line
      else return [plainText field]
    | found => return found.mergeSort fun a b => !(b < a)
  else return [plainText field]

/-! ### Words -/

/-- A word with directories for tildes, also where it looks like an assignment in the extended
shell. -/
def State.withWordTildes (s : State) (w : Word) : Word :=
  match s.dialect, w with
  | .extended, .text t false :: rest =>
    let name := t.toList.takeWhile isNameChar
    match t.toList.drop name.length with
    | '=' :: value =>
      if isName (String.ofList name) then
        .text (String.ofList (name ++ ['='])) false ::
          s.withTildes true (.text (String.ofList value) false :: rest)
      else s.withTildes false w
    | _ => s.withTildes false w
  | _, w => s.withTildes false w

/-- The words that a word stands for. -/
def expandWord (inside : Inside) (w : Word) : Sh (List String) := do
  let s ← get
  match w with
  | [.text t quoted] =>
    if quoted || !t.any fun c => "*?[~".toList.contains c then return [t]
  | _ => pure ()
  let atoms ← wordAtoms inside true (s.withWordTildes w)
  let fields := fieldsOf (← get).separators atoms
  return (← fields.mapM filesFor).flatten

/-- The words that several words stand for. -/
def expandWords (inside : Inside) (words : List Word) : Sh (List String) :=
  return (← words.mapM (expandWord inside)).flatten

/-- The one text that a word stands for. -/
def expandText (inside : Inside) (w : Word) : Sh String := do
  wordText inside ((← get).withTildes false w)

/-- The text that is assigned to a variable. -/
def expandAssigned (inside : Inside) (w : Word) : Sh String := do
  wordText inside ((← get).withTildes true w)

/-- The pattern that a word stands for. -/
def expandPattern (inside : Inside) (w : Word) : Sh (List Glyph) := do
  let atoms ← wordAtoms inside false ((← get).withTildes false w)
  return (← get).pattern (patternLetters atoms)

end Buildwright.Sandbox.Shell
