import Buildwright.Sandbox.Pattern

/-!
# Regular expressions

The expressions by which programs search texts. They are written in one of two ways: the signs of
groups, choices and most repetitions stand behind a backslash in the basic one, and alone in the
extended one. A search finds the first place where an expression fits, and there the longest text
that it fits; of the ways in which it fits, the one counts in which earlier parts are longer.
-/

namespace Buildwright.Sandbox

/-! ### Expressions -/

/-- An expression that texts fit. -/
inductive Regular where
  | nothing
  | one (holds : Char → Bool)
  /-- A place, by the characters on both sides. -/
  | edge (holds : Option Char → Option Char → Bool)
  | both (a b : Regular)
  | either (a b : Regular)
  | repeated (least : Nat) (most? : Option Nat) (a : Regular)
  | group (index : Nat) (a : Regular)
  /-- The text of a group once more. -/
  | again (index : Nat)

/-- A place in a text, and the groups that were found before it. -/
structure TextPlace where
  before? : Option Char
  rest : List Char
  /-- How many characters are behind it. -/
  left : Nat
  groups : List (Nat × List Char) := []

namespace TextPlace

/-- The places of two lists, of which each has those first that are farther behind. Of two that are
equal, that of the first list stays. -/
def merge : (fuel : Nat) → (first second : List TextPlace) → List TextPlace
  | 0, first, _ => first
  | _, [], second => second
  | _, first, [] => first
  | fuel + 1, a :: first, b :: second =>
    if a.left = b.left then a :: merge fuel first second
    else if a.left < b.left then a :: merge fuel first (b :: second)
    else b :: merge fuel (a :: first) second

/-- The places of two lists together. -/
def join (first second : List TextPlace) : List TextPlace :=
  match first, second with
  | [], second => second
  | first, [] => first
  | first, second => merge (first.length + second.length) first second

/-- The places that are reached from some by a step. -/
def behindAll (step : TextPlace → List TextPlace) (places : List TextPlace) : List TextPlace :=
  match places with
  | [p] => step p
  | places => places.foldl (fun found p => join found (step p)) []

/-- The text between a place and a later one. -/
def textTo (p later : TextPlace) : List Char := p.rest.take (p.left - later.left)

/-- Passes over a text, if it stands there. -/
def pass? (p : TextPlace) : (text : List Char) → Option TextPlace
  | [] => some p
  | c :: cs =>
    match p.rest with
    | d :: rest =>
      if c = d then pass? { p with before? := some c, rest, left := p.left - 1 } cs else none
    | [] => none

/-- The places behind any number of characters that satisfy `holds`, the farthest first. -/
def run (holds : Char → Bool) : (most : Nat) → TextPlace → List TextPlace → List TextPlace
  | 0, p, found => p :: found
  | most + 1, p, found =>
    match p.rest with
    | c :: rest =>
      if holds c then
        run holds most { p with before? := some c, rest, left := p.left - 1 } (p :: found)
      else p :: found
    | [] => p :: found

/-- The places that are reached by a given number of steps. -/
def afterSteps (step : TextPlace → List TextPlace) : (count : Nat) → List TextPlace → List TextPlace
  | 0, places => places
  | count + 1, places =>
    if places.isEmpty then [] else afterSteps step count (behindAll step places)

/-- The places that are reached by at most so many further steps. -/
def withinSteps (step : TextPlace → List TextPlace) :
    (count : Nat) → (found last : List TextPlace) → List TextPlace
  | 0, found, _ => found
  | count + 1, found, last =>
    let next := (behindAll step last).filter fun p => !found.any (·.left = p.left)
    if next.isEmpty then found else withinSteps step count (join found next) next

/-- The places that are reached by any number of steps: of those that are still to be looked at, the
foremost is looked at first. -/
def closure (step : TextPlace → List TextPlace) :
    (rounds : Nat) → (found waiting : List TextPlace) → List TextPlace
  | 0, found, waiting => join found waiting
  | rounds + 1, found, waiting =>
    match waiting.getLast? with
    | none => found
    | some p =>
      let next := (step p).filter fun q => q.left < p.left
      closure step rounds (p :: found) (join waiting.dropLast next)

end TextPlace

/-- The places at which a text that fits may end, the farthest first. -/
def Regular.ends : Regular → TextPlace → List TextPlace
  | nothing, p => [p]
  | one holds, p =>
    match p.rest with
    | c :: rest =>
      if holds c then [{ p with before? := some c, rest, left := p.left - 1 }] else []
    | [] => []
  | edge holds, p => if holds p.before? p.rest.head? then [p] else []
  | both a b, p => TextPlace.behindAll b.ends (a.ends p)
  | either a b, p => TextPlace.join (a.ends p) (b.ends p)
  | repeated 0 most? (one holds), p => TextPlace.run holds (most?.getD p.left) p []
  | repeated least most? a, p =>
    let first := TextPlace.afterSteps a.ends least [p]
    match most? with
    | none => TextPlace.closure a.ends (p.left + 2) [] first
    | some most => TextPlace.withinSteps a.ends (most - least) first first
  | group index a, p =>
    (a.ends p).map fun later => { later with groups := (index, p.textTo later) :: later.groups }
  | again index, p =>
    match p.groups.lookup index with
    | some text => (p.pass? text).toList
    | none => []

/-! ### Searching -/

/-- A text that was found. -/
structure Found where
  /-- What stands before it, the last character first. -/
  behindFront : List Char
  text : List Char
  groups : List (Nat × List Char)
  /-- What stands behind it. -/
  rest : List Char

/-- What stands before a text that was found. -/
def Found.front (found : Found) : List Char := found.behindFront.reverse

/-- The text of a group; the whole text has number zero. -/
def Found.group? (found : Found) : Nat → Option (List Char)
  | 0 => some found.text
  | index => found.groups.lookup index

/-- The longest text at a place that fits. -/
def Regular.foundAt? (r : Regular) (front : List Char) (p : TextPlace) : Option Found :=
  match r.ends p with
  | [] => none
  | later :: _ => some ⟨front, p.textTo later, later.groups, later.rest⟩

/-- Whether a text that fits may begin with a character. -/
def Regular.mayBegin : Regular → Char → Bool × Bool
  | nothing, _ | edge _, _ | again _, _ => (true, true)
  | one holds, c => (holds c, false)
  | both a b, c =>
    match a.mayBegin c with
    | (first, false) => (first, false)
    | (first, true) =>
      let (second, isEmpty) := b.mayBegin c
      (first || second, isEmpty)
  | either a b, c =>
    let (first, x) := a.mayBegin c
    let (second, y) := b.mayBegin c
    (first || second, x || y)
  | repeated least _ a, c =>
    let (first, isEmpty) := a.mayBegin c
    (first, isEmpty || least = 0)
  | group _ a, c => a.mayBegin c

/-- Finds the first text that fits, behind what is in front. -/
def Regular.findFrom? (r : Regular) : (left : Nat) → (front : List Char) → (before? : Option Char) →
    (text : List Char) → Option Found
  | left, front, before?, [] => r.foundAt? front ⟨before?, [], left, []⟩
  | left, front, before?, c :: cs =>
    let (begins, isEmpty) := r.mayBegin c
    let here := if begins || isEmpty then r.foundAt? front ⟨before?, c :: cs, left, []⟩ else none
    match here with
    | some found => some found
    | none => r.findFrom? (left - 1) (c :: front) (some c) cs

/-- The first text that fits, behind a character. -/
def Regular.find? (r : Regular) (before? : Option Char) (text : List Char) : Option Found :=
  r.findFrom? text.length [] before? text

/-- The text that fits at the start of a text. -/
def Regular.atStart? (r : Regular) (text : List Char) : Option Found :=
  r.foundAt? [] ⟨none, text, text.length, []⟩

/-- All texts that fit, from the first to the last, of which each has in front what stands behind
the one before. An empty text does not count right behind another one, where the search is
`touching`. At most `rounds` are looked for. -/
def Regular.findAll (r : Regular) : (rounds : Nat) → (touching : Bool) → (before? : Option Char) →
    (text : List Char) → List Found
  | 0, _, _, _ => []
  | rounds + 1, touching, before?, text =>
    match r.find? before? text with
    | none => []
    | some found =>
      if touching && found.behindFront = [] && found.text = [] then
        match text with
        | [] => []
        | c :: cs => (r.findAll rounds false (some c) cs).modifyHead fun next =>
            { next with behindFront := next.behindFront ++ [c] }
      else
        let last? := (found.text.getLast?.or found.behindFront.head?).or before?
        found :: r.findAll rounds true last? found.rest

/-- All texts that fit in a line. -/
def Regular.findIn (r : Regular) (line : List Char) : List Found :=
  r.findAll (2 * line.length + 2) false none line

/-! ### Ways of writing -/

/-- How expressions are written. -/
structure RegularStyle where
  /-- Signs stand alone. -/
  extended : Bool := false
  /-- Signs without anything that they could be for are not wrong. -/
  lenient : Bool := false
  /-- A parenthesis that closes nothing stands for itself. -/
  looseClosing : Bool := false
  /-- The start and the end of each line in a text count. -/
  manyLines : Bool := false

/-- Why a text is no expression. -/
inductive RegularFault where
  | collation
  | className
  | trailingBackslash
  | backReference
  | bracket
  | parenthesis
  | brace
  | braceContent
  | rangeEnd
  | nothingBefore
  | tooBig
  | closing
  deriving DecidableEq

/-- What is said about a text that is no expression. -/
def RegularFault.message : RegularFault → String
  | collation => "Invalid collation character"
  | className => "Invalid character class name"
  | trailingBackslash => "Trailing backslash"
  | backReference => "Invalid back reference"
  | bracket => "Unmatched [, [^, [:, [., or [="
  | parenthesis => "Unmatched ( or \\("
  | brace => "Unmatched \\\x7b"
  | braceContent => "Invalid content of \\\x7b\\\x7d"
  | rangeEnd => "Invalid range end"
  | nothingBefore => "Invalid preceding regular expression"
  | tooBig => "Regular expression too big"
  | closing => "Unmatched ) or \\)"

/-! ### Sets in brackets -/

/-- A member of a set between marks such as `[:` and `:]`, and what stands behind it. -/
def markedMember (mark : Char) (text : List Char) :
    Except RegularFault ((Char → Bool) × Option Char × List Char) :=
  let rec find : List Char → List Char → Except RegularFault (List Char × List Char)
    | _, [] | _, [_] => .error .bracket
    | name, c :: d :: rest =>
      if c = mark && d = ']' then .ok (name.reverse, rest) else find (c :: name) (d :: rest)
  do
  let (name, rest) ← find [] text
  if mark = ':' then
    match characterClass? (String.ofList name) with
    | some holds => return (holds, none, rest)
    | none => .error .className
  else match name with
    | [c] => return ((· = c), some c, rest)
    | _ => .error .collation

/-- One member of a set, or the start of a range, and what stands behind it. -/
def setMember : List Char → Except RegularFault ((Char → Bool) × Option Char × List Char)
  | '[' :: mark :: rest =>
    if mark = ':' || mark = '.' || mark = '=' then markedMember mark rest
    else .ok ((· = '['), some '[', mark :: rest)
  | c :: rest => .ok ((· = c), some c, rest)
  | [] => .error .bracket

/-- The rest of a set. A bracket that comes first is a member. -/
def setRest : (rounds : Nat) → (first : Bool) → (holds : Char → Bool) → List Char →
    Except RegularFault ((Char → Bool) × List Char)
  | 0, _, _, _ | _, _, _, [] => .error .bracket
  | rounds + 1, first, holds, c :: cs => do
    if c = ']' && !first then return (holds, cs)
    let (member, low?, rest) ← setMember (c :: cs)
    match low?, rest with
    | some low, '-' :: next :: behind =>
      if next = ']' then
        setRest rounds false (fun c => holds c || member c) rest
      else
        let (_, high?, rest) ← setMember (next :: behind)
        match high? with
        | none => .error .rangeEnd
        | some high =>
          if high < low then .error .rangeEnd
          setRest rounds false (fun c => holds c || (low ≤ c && c ≤ high)) rest
    | _, rest => setRest rounds false (fun c => holds c || member c) rest

/-- A set behind its first bracket. -/
def setBehind (text : List Char) : Except RegularFault ((Char → Bool) × List Char) :=
  match text with
  | '^' :: rest => do
    let (holds, rest) ← setRest (rest.length + 1) true (fun _ => false) rest
    return ((!holds ·), rest)
  | rest => setRest (rest.length + 1) true (fun _ => false) rest

/-! ### Signs -/

/-- A sign of an expression. -/
inductive RegularSign where
  | part (r : Regular)
  /-- A place, which cannot be repeated. -/
  | place (r : Regular)
  | times (least : Nat) (most? : Option Nat)
  | bar
  | opening
  | closing
  | again (index : Nat)

/-- Whether a character belongs to a word. -/
def isOfWord (c : Char) : Bool := c.isAlphanum || c = '_'

/-- The start of a text, or of a line. -/
def lineStart (manyLines : Bool) : Regular :=
  .edge fun before? _ => before?.isNone || (manyLines && before? = some '\n')

/-- The end of a text, or of a line. -/
def lineFinish (manyLines : Bool) : Regular :=
  .edge fun _ behind? => behind?.isNone || (manyLines && behind? = some '\n')

/-- The expression that only one character fits. -/
def Regular.char (c : Char) : Regular := .one (· = c)

/-- What a letter behind a backslash stands for. -/
def letterSign (c : Char) : RegularSign :=
  let isWord (c? : Option Char) : Bool := c?.any isOfWord
  match c with
  | 'w' => .part (.one isOfWord)
  | 'W' => .part (.one (!isOfWord ·))
  | 's' => .part (.one isSpacing)
  | 'S' => .part (.one (!isSpacing ·))
  | 'b' => .place (.edge fun before? behind? => isWord before? != isWord behind?)
  | 'B' => .place (.edge fun before? behind? => isWord before? == isWord behind?)
  | '<' => .place (.edge fun before? behind? => !isWord before? && isWord behind?)
  | '>' => .place (.edge fun before? behind? => isWord before? && !isWord behind?)
  | '\x60' => .place (.edge fun before? _ => before?.isNone)
  | '\'' => .place (.edge fun _ behind? => behind?.isNone)
  | c => if '1' ≤ c && c ≤ '9' then .again (digitValue c) else .part (.char c)

/-- The greatest number of repetitions that can be asked for. -/
def greatestRepetition : Nat := 32767

/-- The bounds of a repetition and what stands behind them; nothing if they make no sense. -/
def boundsBehind (extended : Bool) (text : List Char) :
    Except RegularFault (Nat × Option Nat × List Char) :=
  let digits := text.takeWhile Char.isDigit
  let rest := text.drop digits.length
  let least := numberOf 10 digits
  let final (rest : List Char) : Option (List Char) :=
    match extended, rest with
    | true, '\x7d' :: rest => some rest
    | false, '\\' :: '\x7d' :: rest => some rest
    | _, _ => none
  let fault (rest : List Char) : RegularFault := if rest = [] then .brace else .braceContent
  let checked (least : Nat) (most? : Option Nat) (rest : List Char) :
      Except RegularFault (Nat × Option Nat × List Char) :=
    if most?.any (· < least) then .error .braceContent
    else if greatestRepetition < most?.getD least then .error .tooBig
    else .ok (least, most?, rest)
  match rest with
  | ',' :: rest =>
    let others := rest.takeWhile Char.isDigit
    let rest := rest.drop others.length
    match final rest with
    | some behind => checked least (if others = [] then none else some (numberOf 10 others)) behind
    | none => .error (fault rest)
  | rest =>
    match final rest with
    | some behind => if digits = [] then .error .braceContent else checked least (some least) behind
    | none => .error (fault rest)

/-! ### Putting signs together -/

/-- A group that is open. -/
structure OpenGroup where
  index : Nat := 0
  /-- What stands before the last bar. -/
  before? : Option Regular := none
  /-- What stands behind it, last first. -/
  parts : List Regular := []

namespace OpenGroup

/-- What a group contains. -/
def regular (g : OpenGroup) : Regular :=
  let last := match g.parts with
    | [] => .nothing
    | part :: parts => parts.foldl (fun behind part => .both part behind) part
  match g.before? with
  | some before => .either before last
  | none => last

/-- The group with a part more. -/
def push (g : OpenGroup) (part : Regular) : OpenGroup := { g with parts := part :: g.parts }

/-- The group with its last part repeated. -/
def repeatLast (g : OpenGroup) (least : Nat) (most? : Option Nat) : OpenGroup :=
  match g.parts with
  | part :: parts => { g with parts := .repeated least most? part :: parts }
  | [] => g

end OpenGroup

/-- How far an expression is read. -/
structure RegularReading where
  inner : OpenGroup := {}
  outer : List OpenGroup := []
  /-- How many groups were opened. -/
  count : Nat := 0
  /-- The groups that are complete. -/
  complete : List Nat := []
  /-- Whether the last part can be repeated. -/
  repeatable : Bool := false
  /-- Whether the last sign was an asterisk or the like. -/
  repeated : Bool := false

namespace RegularReading

/-- With a part more. -/
def push (s : RegularReading) (r : Regular) (repeatable : Bool) : RegularReading :=
  { s with inner := s.inner.push r, repeatable, repeated := false }

/-- With a sign more. -/
def next (style : RegularStyle) (s : RegularReading) : RegularSign → Except RegularFault RegularReading
  | .part r => .ok (s.push r true)
  | .place r => .ok (s.push r false)
  | .again index =>
    if s.complete.contains index then .ok (s.push (.again index) true) else .error .backReference
  | .times least most? =>
    .ok { s with inner := s.inner.repeatLast least most?, repeated := true }
  | .bar => .ok { s with
      inner := { s.inner with before? := some s.inner.regular, parts := [] }
      repeatable := false, repeated := false }
  | .opening => .ok { s with
      inner := { index := s.count + 1 }, outer := s.inner :: s.outer, count := s.count + 1
      repeatable := false, repeated := false }
  | .closing =>
    match s.outer with
    | outer :: others => .ok { s with
        inner := outer.push (.group s.inner.index s.inner.regular), outer := others
        complete := s.inner.index :: s.complete, repeatable := true, repeated := false }
    | [] => if style.looseClosing then .ok (s.push (.char ')') true) else .error .closing

/-- Whether nothing stands before at this level. -/
def isFirst (s : RegularReading) : Bool := s.inner.parts.isEmpty

/-- What an asterisk or the like makes. Without anything to repeat it stands for itself in the basic
way of writing; in the extended one it is wrong, or passed over. -/
def timesSign (style : RegularStyle) (s : RegularReading) (c : Char) (least : Nat)
    (most? : Option Nat) : Except RegularFault RegularReading :=
  if s.repeatable then
    if s.repeated && c = '*' && !style.extended && !style.lenient then .error .nothingBefore
    else s.next style (.times least most?)
  else if style.extended then if style.lenient then .ok s else .error .nothingBefore
  else .ok (s.push (.char c) true)

/-- What a repetition between braces makes, and what stands behind it. -/
def braceSign (style : RegularStyle) (s : RegularReading) (rest : List Char) :
    Except RegularFault (RegularReading × List Char) :=
  match boundsBehind style.extended rest with
  | .ok (least, most?, behind) =>
    if s.repeatable then do return (← s.next style (.times least most?), behind)
    else if style.extended && style.lenient then
      .ok (s.push (.char '\x7b') true, rest)
    else .error .nothingBefore
  | .error fault =>
    if !s.repeatable && !style.lenient then .error .nothingBefore
    else if style.extended && style.lenient && fault ≠ .tooBig &&
        (fault ≠ .braceContent || !((rest.takeWhile fun c => c.isDigit || c = ',').any Char.isDigit &&
          (rest.dropWhile fun c => c.isDigit || c = ',').head? = some '\x7d')) then
      .ok (s.push (.char '\x7b') true, rest)
    else .error fault

/-- Reads one sign. -/
def step (style : RegularStyle) (s : RegularReading) (c : Char) (rest : List Char) :
    Except RegularFault (RegularReading × List Char) := do
  let sign (sign : RegularSign) (rest : List Char) :
      Except RegularFault (RegularReading × List Char) := do return (← s.next style sign, rest)
  let own (c : Char) (rest : List Char) :
      Except RegularFault (RegularReading × List Char) := sign (.part (.char c)) rest
  match c, rest with
  | '\\', [] => .error .trailingBackslash
  | '\\', d :: rest =>
    let isSpecial := "()|+?\x7b\x7d".toList.contains d
    if style.extended || !isSpecial then sign (letterSign d) rest
    else match d with
      | '(' => sign .opening rest
      | ')' => sign .closing rest
      | '|' => sign .bar rest
      | '+' => return (← s.timesSign style '+' 1 none, rest)
      | '?' => return (← s.timesSign style '?' 0 (some 1), rest)
      | '\x7b' => s.braceSign style rest
      | _ => own d rest
  | '[', rest =>
    let (holds, rest) ← setBehind rest
    sign (.part (.one holds)) rest
  | '.', rest => sign (.part (.one fun _ => true)) rest
  | '*', rest => return (← s.timesSign style '*' 0 none, rest)
  | '^', rest =>
    if style.extended || s.isFirst then sign (.place (lineStart style.manyLines)) rest
    else own '^' rest
  | '$', rest =>
    let isLast := match rest with
      | [] | '\\' :: ')' :: _ | '\\' :: '|' :: _ => true
      | _ => false
    if style.extended || isLast then sign (.place (lineFinish style.manyLines)) rest
    else own '$' rest
  | c, rest =>
    if !style.extended then own c rest
    else match c with
      | '(' => sign .opening rest
      | ')' => sign .closing rest
      | '|' => sign .bar rest
      | '+' => return (← s.timesSign style '+' 1 none, rest)
      | '?' => return (← s.timesSign style '?' 0 (some 1), rest)
      | '\x7b' => s.braceSign style rest
      | c => own c rest

/-- Reads all signs, at most so many. -/
def all (style : RegularStyle) : (rounds : Nat) → RegularReading → List Char →
    Except RegularFault RegularReading
  | 0, s, _ | _, s, [] => .ok s
  | rounds + 1, s, c :: cs => do
    let (s, rest) ← s.step style c cs
    all style rounds s rest

end RegularReading

/-- An expression and the number of its groups. -/
structure Expression where
  regular : Regular
  groups : Nat := 0

/-- The expression with a given text. The error says why it is none. -/
def Expression.ofText (style : RegularStyle) (text : List Char) : Except RegularFault Expression := do
  let s ← RegularReading.all style (text.length + 1) {} text
  if !s.outer.isEmpty then .error .parenthesis
  return { regular := s.inner.regular, groups := s.count }

/-- What stands behind a set in brackets, and whether it is written as if it were a class: between
colons, without the second brackets. -/
def confusingSet (text : List Char) : Bool × List Char :=
  let inside := match text with
    | '^' :: rest => rest
    | rest => rest
  let rec members : (rounds : Nat) → (first : Bool) → List Char → Option (List Char) × List Char
    | 0, _, _ | _, _, [] => (none, [])
    | rounds + 1, first, c :: cs =>
      if c = ']' && !first then (some [], cs)
      else match c, cs with
        | '[', mark :: rest =>
          if mark = ':' || mark = '.' || mark = '=' then
            let closing := rest.dropWhile (· ≠ mark)
            (none, (members rounds false (closing.drop 2)).2)
          else
            let (others?, behind) := members rounds false cs
            (others?.map (c :: ·), behind)
        | _, '-' :: ']' :: _ =>
          let (others?, behind) := members rounds false cs
          (others?.map (c :: ·), behind)
        | _, '-' :: _ :: rest => (none, (members rounds false rest).2)
        | _, cs =>
          let (others?, behind) := members rounds false cs
          (others?.map (c :: ·), behind)
  let (members?, behind) := members (text.length + 1) true inside
  (members?.any fun members => members.head? = some ':' && members.getLast? = some ':' &&
    2 < members.length && members.any (· ≠ ':'), behind)

/-- Whether an expression has a set that is written as if it were a class. -/
def hasConfusingSet : (rounds : Nat) → (text : List Char) → Bool
  | 0, _ | _, [] => false
  | rounds + 1, '\\' :: _ :: cs => hasConfusingSet rounds cs
  | rounds + 1, '[' :: cs =>
    let (isConfusing, behind) := confusingSet cs
    isConfusing || hasConfusingSet rounds behind
  | rounds + 1, _ :: cs => hasConfusingSet rounds cs

/-- What is said about an expression with a set that is written as if it were a class. -/
def confusingSetMessage : String := "character class syntax is [[:space:]], not [:space:]"

/-- The expression in which capital and small letters count as the same. -/
def Regular.ignoringCase : Regular → Regular
  | one holds => one fun c => holds c.toLower || holds c.toUpper
  | both a b => both a.ignoringCase b.ignoringCase
  | either a b => either a.ignoringCase b.ignoringCase
  | repeated least most? a => repeated least most? a.ignoringCase
  | group index a => group index a.ignoringCase
  | other => other

/-- The expression that one text fits. -/
def Regular.literal (text : List Char) : Regular :=
  text.foldr (fun c behind => .both (.char c) behind) .nothing

end Buildwright.Sandbox
