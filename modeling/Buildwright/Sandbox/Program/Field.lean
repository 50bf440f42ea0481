import Buildwright.Sandbox.Program.Source

/-!
# Parts of lines

The program that prints parts of lines: the characters or the fields with some positions. Positions
are told by a list of ranges, of which those that overlap count as one.
-/

namespace Buildwright.Sandbox.Program

/-! ### Positions -/

/-- A range of positions, counted from one; without an end it goes to the end of the line. -/
structure PositionRange where
  first : Nat
  last? : Option Nat

/-- Whether a position belongs to a range. -/
def PositionRange.contains (range : PositionRange) (n : Nat) : Bool :=
  range.first ≤ n && range.last?.all (n ≤ ·)

/-- What may be wrong with a list of ranges. -/
inductive PositionFault where
  | zero
  | twoHyphens
  | noEnds
  | decreasing
  | missing
  | tooGreat (digits : String)
  | invalid (rest : String)

/-- What is said about a list of ranges in which something is wrong. -/
def PositionFault.message (fields : Bool) : PositionFault → String
  | zero => (if fields then "fields" else "byte/character positions") ++ " are numbered from 1"
  | twoHyphens => "invalid " ++ (if fields then "field" else "byte or character") ++ " range"
  | noEnds => "invalid range with no endpoint: -"
  | decreasing => "invalid decreasing range"
  | missing => "missing list of " ++ if fields then "fields" else "byte/character positions"
  | tooGreat digits =>
    (if fields then "field number " else "byte/character offset ") ++ quotedWord digits ++
      " is too large"
  | invalid rest =>
    "invalid " ++ (if fields then "field value " else "byte/character position ") ++ quotedWord rest

/-- A range that is being read. -/
structure OpenRange where
  first? : Option Nat := none
  /-- What stands behind a hyphen, once there was one. -/
  last? : Option (Option Nat) := none

/-- The range that ends, if it is one. -/
def OpenRange.closed (r : OpenRange) : Except PositionFault PositionRange :=
  match r.last?, r.first? with
  | none, none | none, some 0 => .error .zero
  | none, some n => .ok ⟨n, some n⟩
  | some none, none => .error .noEnds
  | some none, some first => .ok ⟨first, none⟩
  | some (some last), first? =>
    if last < first?.getD 1 then .error .decreasing else .ok ⟨first?.getD 1, some last⟩

/-- The ranges of a list. -/
def rangesOf (text : List Char) : Except PositionFault (List PositionRange) :=
  let rec go : (rounds : Nat) → OpenRange → List Char → Except PositionFault (List PositionRange)
    | 0, _, _ => .ok []
    | _, r, [] => return [← r.closed]
    | rounds + 1, r, c :: cs =>
      if c = '-' then
        if r.last?.isSome then .error .twoHyphens
        else if r.first? = some 0 then .error .zero
        else go rounds { r with last? := some none } cs
      else if c = ',' || c = ' ' || c = '\t' then
        match r.closed with
        | .error fault => .error fault
        | .ok range => (go rounds {} cs).map (range :: ·)
      else if c.isDigit then
        let digits := (c :: cs).takeWhile Char.isDigit
        let n := numberOf 10 digits
        if integerCount ≤ n + 1 then .error (.tooGreat (String.ofList digits))
        else go rounds (if r.last?.isSome then { r with last? := some (some n) }
          else { r with first? := some n }) ((c :: cs).drop digits.length)
      else .error (.invalid (String.ofList (c :: cs)))
  go (text.length + 1) {} text

/-- Ranges in order, where those that overlap are put together. -/
def joinedRanges : List PositionRange → List PositionRange
  | [] => []
  | range :: ranges =>
    let rec go (current : PositionRange) : List PositionRange → List PositionRange
      | [] => [current]
      | next :: ranges =>
        if current.last?.all (next.first ≤ ·) then
          let last? := current.last?.bind fun a => next.last?.map (max a)
          go { current with last? } ranges
        else current :: go next ranges
    go range ranges

/-- The ranges between ranges that are in order. -/
def gapsBetween : (first : Nat) → List PositionRange → List PositionRange
  | first, [] => [⟨first, none⟩]
  | first, range :: ranges =>
    let front : List PositionRange :=
      if first < range.first then [⟨first, some (range.first - 1)⟩] else []
    match range.last? with
    | none => front
    | some last => front ++ gapsBetween (last + 1) ranges

/-- The ranges that a text asks for. -/
def askedRanges (complement : Bool) (text : String) : Except PositionFault (List PositionRange) := do
  let ranges ← rangesOf text.toList
  let ranges := joinedRanges (ranges.mergeSort fun a b => a.first ≤ b.first)
  return if complement then gapsBetween 1 ranges else ranges

/-! ### The program -/

/-- How parts of lines are printed. -/
structure PartStyle where
  ranges : List PositionRange
  separator : Char
  /-- What stands between fields, or between ranges of characters, if that is asked for. -/
  between? : Option String
  /-- Whether lines without a separator are left out. -/
  suppresses : Bool

/-- The fields of a line that are printed, or the line itself if it has no separator. -/
def PartStyle.fields? (style : PartStyle) (line : String) : Option String :=
  match line.splitOn (String.singleton style.separator) with
  | [_] => if style.suppresses then none else some line
  | fields =>
    let shown := (fields.zipIdx 1).filterMap fun (field, n) =>
      if style.ranges.any (·.contains n) then some field else none
    some ((style.between?.getD (String.singleton style.separator)).intercalate shown)

/-- The characters of a line that are printed. -/
def PartStyle.characters (style : PartStyle) (line : String) : String :=
  let parts := style.ranges.filterMap fun range =>
    let rest := line.toList.drop (range.first - 1)
    let part := match range.last? with
      | some last => rest.take (last + 1 - range.first)
      | none => rest
    if part.isEmpty then none else some (String.ofList part)
  (style.between?.getD "").intercalate parts

/-- What the program for parts of lines is told. -/
def partTable : OptionTable := {
  letters := "nsz", valued := "bcdf"
  names := plainNames [("only-delimited", "s"), ("zero-terminated", "z"),
      ("complement", "complement")] ++
    valuedNames [("bytes", "b"), ("characters", "c"), ("fields", "f"), ("delimiter", "d"),
      ("output-delimiter", "output-delimiter")] }

/-- Prints parts of lines. -/
def showParts : Work Unit := do
  let d ← Work.directions partTable 1
  if (d.values "d").any fun text => 1 < text.length then
    Work.mislead "the delimiter must be a single character" 1
  let lists := d.options.filter fun (key, _) => key = "b" || key = "c" || key = "f"
  let (isFields, text) ← match lists with
    | [] => Work.mislead "you must specify a list of bytes, characters, or fields" 1
    | [(key, text?)] => pure (decide (key = "f"), text?.getD "")
    | _ => Work.mislead "only one list may be specified" 1
  if d.has "d" && !isFields then
    Work.mislead "an input delimiter may be specified only when operating on fields" 1
  if d.has "s" && !isFields then
    Work.mislead
      "suppressing non-delimited lines makes sense\n\tonly when operating on fields" 1
  let ranges ← match askedRanges (d.has "complement") text with
    | .ok ranges => pure ranges
    | .error fault => Work.mislead (fault.message isFields) 1
  let orNothing (text : String) : String := if text = "" then "\x00" else text
  let style : PartStyle := {
    ranges, suppresses := d.has "s"
    separator := (orNothing ((d.value? "d").getD "\t")).toList.headD '\t'
    between? := (d.value? "output-delimiter").map orNothing }
  let final := lineFinal d
  eachSource d.operands 1 fun _ text => do
    for line in (linesOf final text).lines do
      if isFields then
        if let some shown := style.fields? line then Work.print (shown.push final)
      else Work.print ((style.characters line).push final)

end Buildwright.Sandbox.Program
