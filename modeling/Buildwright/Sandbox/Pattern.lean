import Buildwright.Sandbox.Digits

/-!
# Patterns

Patterns for names and arguments: an asterisk fits any text, a question mark any character, and a
set in brackets one of its members. A backslash takes its meaning from the character behind it. In
the extended shell, parentheses group alternatives. `ends` says where a text that fits may end, and
`fits` whether a whole text does.
-/

namespace Buildwright.Sandbox

open Text (Reader)
open Text.Reader

/-! ### Glyphs -/

/-- A member of a set of characters. -/
inductive GlyphMember where
  | range (low high : Char)
  | named (holds : Char → Bool)

/-- How often one of some alternatives stands. -/
inductive GroupKind where
  | once
  | perhaps
  | some
  | any
  /-- Something that is none of them. -/
  | never
  deriving DecidableEq

/-- A part of a pattern. -/
inductive Glyph where
  | char (c : Char)
  | anyChar
  /-- Any number of characters. -/
  | anything
  | oneOf (members : List GlyphMember)
  | noneOf (members : List GlyphMember)
  | group (kind : GroupKind) (alternatives : List (List Glyph))

/-- Whether a character is a member. -/
def GlyphMember.holds (c : Char) : GlyphMember → Bool
  | range low high => low ≤ c && c ≤ high
  | named holds => holds c

/-! ### Fitting -/

/-- Ends of a text with their lengths, the longest first. -/
abbrev Reach := List (Nat × List Char)

/-- All ends of a text. -/
def tailsOf : (length : Nat) → List Char → Reach
  | n, [] => [(n, [])]
  | n, c :: cs => (n, c :: cs) :: tailsOf (n - 1) cs

/-- The ends of two texts together. -/
def Reach.merge : (fuel : Nat) → Reach → Reach → Reach
  | 0, a, _ => a
  | _, [], b => b
  | _, a, [] => a
  | fuel + 1, (n, s) :: a, (m, t) :: b =>
    if n = m then (n, s) :: merge fuel a b
    else if m < n then (n, s) :: merge fuel a ((m, t) :: b)
    else (m, t) :: merge fuel ((n, s) :: a) b

/-- The ends of two texts together. -/
def Reach.join (a b : Reach) : Reach := Reach.merge (a.length + b.length) a b

/-- The ends behind a character that satisfies `p`. -/
def Reach.behind (p : Char → Bool) (reach : Reach) : Reach :=
  reach.filterMap fun
    | (n, c :: cs) => if p c then some (n - 1, cs) else none
    | (_, []) => none

/-- The ends that are reached by steps, at most so many. -/
def Reach.closure (step : Reach → Reach) : (rounds : Nat) → Reach → Reach
  | 0, reach => reach
  | rounds + 1, reach =>
    let next := reach.join (step reach)
    if next.length = reach.length then reach else closure step rounds next

mutual

/-- The ends behind a text that fits a part of a pattern. -/
def Glyph.reach : Glyph → Reach → Reach
  | .char c, reach => reach.behind (· = c)
  | .anyChar, reach => reach.behind fun _ => true
  | .oneOf members, reach => reach.behind fun c => members.any (·.holds c)
  | .noneOf members, reach => reach.behind fun c => !members.any (·.holds c)
  | .anything, reach =>
    match reach with
    | [] => []
    | (n, cs) :: _ => tailsOf n cs
  | .group kind alternatives, reach =>
    let step := fun reach => reachAny alternatives reach
    match kind with
    | .once => step reach
    | .perhaps => reach.join (step reach)
    | .some => Reach.closure step ((reach.head?.elim 0 Prod.fst) + 1) (step reach)
    | .any => Reach.closure step ((reach.head?.elim 0 Prod.fst) + 1) reach
    | .never => reach.foldl (fun found (n, cs) =>
        let excluded := step [(n, cs)]
        found.join ((tailsOf n cs).filter fun (m, _) => !excluded.any (·.1 = m))) []

/-- The ends behind a text that fits one of some patterns. -/
def reachAny : List (List Glyph) → Reach → Reach
  | [], _ => []
  | glyphs :: others, reach => (reachAll glyphs reach).join (reachAny others reach)

/-- The ends behind a text that fits a pattern. -/
def reachAll : List Glyph → Reach → Reach
  | [], reach => reach
  | glyph :: glyphs, reach => reachAll glyphs (glyph.reach reach)

end

/-- The ends of a text in front of which it fits a pattern. -/
def endsBehind (pattern : List Glyph) (text : List Char) : Reach :=
  reachAll pattern [(text.length, text)]

/-- Whether a text fits a pattern. -/
def fits (pattern : List Glyph) (text : List Char) : Bool :=
  ((endsBehind pattern text).getLast?).any (·.1 = 0)

mutual

/-- A part of a pattern for texts from their ends on. -/
def Glyph.reversed : Glyph → Glyph
  | .group kind alternatives => .group kind (reversedAny alternatives)
  | glyph => glyph

/-- Patterns for texts from their ends on. -/
def reversedAny : List (List Glyph) → List (List Glyph)
  | [] => []
  | glyphs :: others => reversedAll glyphs [] :: reversedAny others

/-- A pattern for texts from their ends on. -/
def reversedAll : List Glyph → (behind : List Glyph) → List Glyph
  | [], behind => behind
  | glyph :: glyphs, behind => reversedAll glyphs (glyph.reversed :: behind)

end

/-! ### Reading patterns -/

/-- The classes of characters that a set may name. -/
def characterClass? : String → Option (Char → Bool)
  | "alpha" => some Char.isAlpha
  | "digit" => some Char.isDigit
  | "alnum" => some Char.isAlphanum
  | "upper" => some Char.isUpper
  | "lower" => some Char.isLower
  | "space" => some isSpacing
  | "blank" => some fun c => c = ' ' || c = '\t'
  | "punct" => some fun c => '!' ≤ c && c ≤ '~' && !c.isAlphanum
  | "print" => some fun c => ' ' ≤ c && c ≤ '~'
  | "graph" => some fun c => '!' ≤ c && c ≤ '~'
  | "cntrl" => some fun c => c < ' ' || c = '\x7f'
  | "xdigit" => some fun c => c.isDigit || ('a' ≤ c && c ≤ 'f') || ('A' ≤ c && c ≤ 'F')
  | _ => none

/-- A character behind a backslash. -/
def escapedCharacter : Reader Char := (char '\\').andThen anyCharacter

/-- A class in a set, as in `[:digit:]`. -/
def namedMember : Reader GlyphMember :=
  ((char '[').andThen ((char ':').andThen ((many1 (satisfy Char.isAlpha)).bind fun name =>
    ((char ':').andThen (char ']')).map fun _ => String.ofList name))).map fun name =>
      .named ((characterClass? name).getD fun _ => false)

/-- One character or a range, of which the ends are read by `first` and `last`. -/
def rangeMember (first last : Reader Char) : Reader GlyphMember :=
  (first.bind fun low => ((char '-').andThen last).map fun high => .range low high).orElse
    (first.map fun c => .range c c)

/-- The members of a set with the bracket that ends it; a bracket that comes first is a member. -/
def setMembers : Reader (List GlyphMember) :=
  let start := escapedCharacter.orElse anyCharacter
  let further := escapedCharacter.orElse (satisfy (· ≠ ']'))
  (thenMany (namedMember.orElse (rangeMember start further))
    (namedMember.orElse (rangeMember further further))).bind fun (member, members) =>
      (char ']').map fun _ => member :: members

/-- A set in brackets, which is excluded behind one of some signs. -/
def setGlyph (excluding : List Char) : Reader Glyph :=
  let excluded := (satisfy excluding.contains).andThen (setMembers.map .noneOf)
  (char '[').andThen (excluded.orElse (setMembers.map .oneOf))

/-- A part of a pattern without groups. A bracket that begins no set stands for itself. -/
def glyph (excluding : List Char) : Reader Glyph :=
  (escapedCharacter.map .char).orElse <| ((char '*').map fun _ => .anything).orElse <|
    ((char '?').map fun _ => .anyChar).orElse <| (setGlyph excluding).orElse <|
      anyCharacter.map .char

/-- The kind of group that a sign announces. -/
def groupKind? : Char → Option GroupKind
  | '@' => some .once
  | '?' => some .perhaps
  | '+' => some .some
  | '*' => some .any
  | '!' => some .never
  | _ => none

/-- A group that is read. -/
structure OpenAlternatives where
  kind : GroupKind
  /-- The alternatives that are read, the last one first. -/
  done : List (List Glyph) := []
  /-- What stands before the group, the last part first. -/
  front : List Glyph

/-- The group with its last alternative. -/
def OpenAlternatives.closed (g : OpenAlternatives) (last : List Glyph) : List Glyph :=
  .group g.kind (last.reverse :: g.done).reverse :: g.front

/-- Reads a pattern with groups. `last` are the parts that were read at this level, the last one
first. -/
def readGrouped : (rounds : Nat) → List OpenAlternatives → (last : List Glyph) → List Char → List Glyph
  | 0, _, last, _ => last.reverse
  | _, [], last, [] => last.reverse
  | rounds + 1, g :: groups, last, [] => readGrouped rounds groups (g.closed last) []
  | rounds + 1, groups, last, c :: cs =>
    match groupKind? c, cs, groups with
    | some kind, '(' :: rest, groups =>
      readGrouped rounds ({ kind, front := last } :: groups) [] rest
    | _, _, g :: outer =>
      if c = '|' then readGrouped rounds ({ g with done := last.reverse :: g.done } :: outer) [] cs
      else if c = ')' then readGrouped rounds outer (g.closed last) cs
      else match glyph ['!', '^'] (c :: cs) with
        | some (part, rest) => readGrouped rounds groups (part :: last) rest.1
        | none => last.reverse
    | _, _, [] =>
      match glyph ['!', '^'] (c :: cs) with
      | some (part, rest) => readGrouped rounds groups (part :: last) rest.1
      | none => last.reverse

/-- The pattern with a given text, in which groups may stand. -/
def groupedPatternOf (text : List Char) : List Glyph :=
  readGrouped (2 * text.length + 2) [] [] text

/-- The pattern with a given text, with the signs that exclude a set. -/
def patternWith (excluding : List Char) (text : List Char) : List Glyph :=
  (many (glyph excluding) text).1

/-- The pattern with a given text. -/
def patternOf (text : List Char) : List Glyph := patternWith ['!'] text

/-! ### Trimming -/

/-- A text without the shortest or longest front that fits a pattern. -/
def trimFront (longest : Bool) (pattern : List Glyph) (text : List Char) : List Char :=
  let ends := endsBehind pattern text
  match if longest then ends.getLast? else ends.head? with
  | some (_, rest) => rest
  | none => text

/-- A text without the shortest or longest end that fits a pattern. -/
def trimEnd (longest : Bool) (pattern : List Glyph) (text : List Char) : List Char :=
  (trimFront longest (reversedAll pattern []) text.reverse).reverse

end Buildwright.Sandbox
