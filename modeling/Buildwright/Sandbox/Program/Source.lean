import Buildwright.Sandbox.Program.Plain

/-!
# Sources

What programs read that print it in another form: files, or what they are handed. A source that
cannot be read is passed over with a message.
-/

namespace Buildwright.Sandbox.Program

/-! ### Lines -/

/-- Lines of a text, and whether the last one has an end. -/
structure Lines where
  lines : List String
  isWhole : Bool

/-- The lines of a text. -/
def linesOf (final : Char) (text : String) : Lines :=
  if text = "" then ⟨[], true⟩
  else
    let parts := text.splitOn (String.singleton final)
    if parts.getLast? = some "" then ⟨parts.dropLast, true⟩ else ⟨parts, false⟩

/-- The lines of a text, of which each has an end if it has one in the text. -/
def fullLines (final : Char) (text : String) : List String :=
  let found := linesOf final text
  let ended := found.lines.map (·.push final)
  if found.isWhole then ended
  else match found.lines.getLast? with
    | some last => ended.dropLast ++ [last]
    | none => []

/-- The character behind each line. -/
def lineFinal (d : Directions) : Char := if d.has "z" then '\x00' else '\n'

/-! ### Sources -/

/-- The paths that a program reads, where a hyphen is what it is handed. -/
def sourcesOf (paths : List String) : List String := if paths.isEmpty then ["-"] else paths

/-- Does something with the text of each source; the code is set where one cannot be read. -/
def eachSource (paths : List String) (code : Nat) (use : (path text : String) → Work Unit) :
    Work Unit := do
  for path in sourcesOf paths do
    match ← Work.textOf path with
    | .ok text => use path text
    | .error fault => Work.complain (shownPath path ++ ": " ++ fault.reason) code
  Work.closeInput "-" (sourcesOf paths)

/-! ### Lines as they come -/

/-- A line, and whether it has an end. -/
structure Line where
  text : String
  isEnded : Bool := true

/-- The number under which something is open, with the lines that are read from there and not yet
taken. -/
structure LineSource where
  number : Nat
  final : Char := '\n'
  ready : List String := []
  /-- The start of a line that is not read to its end. -/
  rest : String := ""
  fault? : Option HostFault := none

namespace LineSource

/-- How many bytes are read and not taken. -/
def unread (s : LineSource) : Nat :=
  s.ready.foldl (fun n line => n + line.length + 1) s.rest.length

/-- Takes the next line; it is read if it is not ready. -/
def next : (rounds : Nat) → LineSource → Work (Option Line × LineSource)
  | 0, s => return (none, s)
  | rounds + 1, s => do
    match s.ready with
    | line :: ready => return (some ⟨line, true⟩, { s with ready })
    | [] =>
      let last : Option Line := if s.rest = "" then none else some ⟨s.rest, false⟩
      if s.fault?.isSome then return (last, { s with rest := "" })
      match ← Work.ask (.read s.number readUnit) with
      | .error fault => return (last, { s with rest := "", fault? := some fault })
      | .ok bytes =>
        if bytes.isEmpty then return (last, { s with rest := "" })
        let parts := (s.rest ++ octetText bytes).splitOn (String.singleton s.final)
        next rounds { s with ready := parts.dropLast, rest := parts.getLastD "" }

/-- Takes the next line. -/
def take (s : LineSource) : Work (Option Line × LineSource) := s.next manyRounds

/-- Goes back to the end of the last line that was taken, if that is possible. -/
def giveBack (s : LineSource) : Work Unit := do
  if 0 < s.unread then
    let _ ← Work.ask (.seek s.number .current (-(s.unread : Int)))

end LineSource

/-! ### Numbers in arguments -/

/-- A text in front of which blanks fill a width. -/
def atEndOf (width : Nat) (text : String) : String :=
  String.ofList (List.replicate (width - text.length) ' ') ++ text

/-- The powers of a thousand or of 1024 that a letter stands for. -/
def unitPower? : Char → Option Nat
  | 'k' | 'K' => some 1
  | 'm' | 'M' => some 2
  | 'g' | 'G' => some 3
  | 't' | 'T' => some 4
  | 'P' => some 5
  | 'E' => some 6
  | 'Z' => some 7
  | 'Y' => some 8
  | 'R' => some 9
  | 'Q' => some 10
  | _ => none

/-- The number of bytes that letters behind a number stand for. -/
def unitSize? : List Char → Option Nat
  | [] => some 1
  | ['b'] => some 512
  | [c] => (unitPower? c).map (Nat.pow 1024)
  | [c, 'B'] | [c, 'D'] => (unitPower? c).map (Nat.pow 1000)
  | [c, 'i', 'B'] => (unitPower? c).map (Nat.pow 1024)
  | _ => none

/-- The number that a text with a unit stands for. -/
def sizeOf? (text : List Char) : Option Nat :=
  let digits := text.takeWhile Char.isDigit
  if digits.isEmpty then none
  else (unitSize? (text.drop digits.length)).map (numberOf 10 digits * ·)

end Buildwright.Sandbox.Program
