import Buildwright.Sandbox.Digits

/-!
# Permissions

How permission bits are written: as an octal number, or as changes of what there is, in which
letters say whose bits are meant and which ones.
-/

namespace Buildwright.Sandbox.Program

/-! ### Bits -/

/-- All permission bits. -/
def allBits : Nat := 0o7777

/-- The bits of a mode without some. -/
def without (mode bits : Nat) : Nat := mode &&& (allBits - (bits &&& allBits))

/-- The bits of everybody that permit to read, to write or to execute. -/
def bitsOf : Char → Nat
  | 'r' => 0o444
  | 'w' => 0o222
  | 'x' => 0o111
  | 's' => 0o6000
  | 't' => 0o1000
  | _ => 0

/-- All bits that concern somebody. -/
def bitsFor : Char → Nat
  | 'u' => 0o4700
  | 'g' => 0o2070
  | 'o' => 0o1007
  | 'a' => allBits
  | _ => 0

/-! ### Changes -/

/-- From what the bits of a change come. -/
inductive ChangeKind where
  | plain
  /-- From bits that are there. -/
  | copied
  /-- Those to execute only for directories, and where there are some already. -/
  | perhapsExecute
  deriving DecidableEq

/-- A change of permission bits. -/
structure ModeChange where
  operator : Char
  kind : ChangeKind := .plain
  /-- Whose bits are meant; none if nobody is named. -/
  affected : Nat
  value : Nat
  mentioned : Nat

/-- Bits that somebody has, for everybody. -/
def spreadBits (value : Nat) : Nat :=
  value ||| (['r', 'w', 'x'].foldl (fun bits c =>
    if value &&& bitsOf c ≠ 0 then bits ||| bitsOf c else bits) 0)

/-- The mode after a change. Where nobody is named, the bits in the mask are left as they are. -/
def ModeChange.apply (directory : Bool) (mask : Nat) (mode : Nat) (c : ModeChange) : Nat :=
  let omitted := if directory then without 0o6000 c.mentioned else 0
  let value := match c.kind with
    | .plain => c.value
    | .copied => spreadBits (c.value &&& mode)
    | .perhapsExecute => if directory || mode &&& 0o111 ≠ 0 then c.value ||| 0o111 else c.value
  let value := without (value &&& if c.affected = 0 then without allBits mask else c.affected) omitted
  match c.operator with
  | '+' => mode ||| value
  | '-' => without mode value
  | _ =>
    let preserved := (if c.affected = 0 then 0 else without allBits c.affected) ||| omitted
    (mode &&& preserved) ||| value

/-- The mode after several changes. -/
def changedMode (directory : Bool) (mask : Nat) (changes : List ModeChange) (mode : Nat) : Nat :=
  changes.foldl (fun mode change => change.apply directory mask mode) mode

/-! ### Reading -/

/-- An octal mode at the front of a text, and what stands behind it. -/
def octalMode? (text : List Char) : Option (Nat × List Char) :=
  let digits := text.takeWhile fun c => '0' ≤ c && c < '8'
  let n := numberOf 8 digits
  if digits.isEmpty || allBits < n then none else some (n, text.drop digits.length)

/-- The changes behind the letters that say whose bits are meant. -/
def changesFor (affected : Nat) : (rounds : Nat) → List Char → Option (List ModeChange × List Char)
  | 0, _ => none
  | rounds + 1, text =>
    match text with
    | [] => some ([], [])
    | operator :: rest =>
      if !(operator = '=' || operator = '+' || operator = '-') then some ([], text)
      else
        let found? : Option (ModeChange × List Char) :=
          match rest with
          | c :: behind =>
            if '0' ≤ c && c < '8' then
              match octalMode? rest with
              | some (value, behind) =>
                if affected ≠ 0 || !(behind = [] || behind.head? = some ',') then none
                else some ({ operator, affected := allBits, value, mentioned := allBits }, behind)
              | none => none
            else if c = 'u' || c = 'g' || c = 'o' then
              let value := bitsFor c &&& 0o777
              let mentioned := if affected = 0 then value else affected &&& value
              some ({ operator, kind := .copied, affected, value, mentioned }, behind)
            else
              let letters := rest.takeWhile fun c => "rwxXst".toList.contains c
              let value := letters.foldl (fun bits c => bits ||| bitsOf c) 0
              let kind := if letters.contains 'X' then ChangeKind.perhapsExecute else .plain
              let mentioned := if affected = 0 then value else affected &&& value
              some ({ operator, kind, affected, value, mentioned }, rest.drop letters.length)
          | [] => some ({ operator, affected, value := 0, mentioned := 0 }, [])
        match found? with
        | none => none
        | some (change, behind) =>
          (changesFor affected rounds behind).map fun (changes, behind) =>
            (change :: changes, behind)

/-- The changes of several groups with commas between them. -/
def changeGroups : (rounds : Nat) → List Char → Option (List ModeChange)
  | 0, _ => none
  | rounds + 1, text =>
    let who := text.takeWhile fun c => "ugoa".toList.contains c
    let affected := who.foldl (fun bits c => bits ||| bitsFor c) 0
    match changesFor affected (text.length + 1) (text.drop who.length) with
    | some ([], _) | none => none
    | some (changes, []) => some changes
    | some (changes, ',' :: rest) => (changeGroups rounds rest).map (changes ++ ·)
    | some _ => none

/-- The changes that a text stands for. -/
def modeChanges? (text : String) : Option (List ModeChange) :=
  let cs := text.toList
  match cs.head? with
  | some c =>
    if '0' ≤ c && c < '8' then
      match octalMode? cs with
      | some (value, []) =>
        let mentioned := if cs.length < 5 then (value &&& 0o6000) ||| 0o1777 else allBits
        some [{ operator := '=', affected := allBits, value, mentioned }]
      | _ => none
    else changeGroups (cs.length + 1) cs
  | none => none

/-! ### Printing -/

/-- A mode as letters. -/
def modeLetters (mode : Nat) : String :=
  let bit (n : Nat) (c : Char) : Char := if mode &&& n ≠ 0 then c else '-'
  let execute (n special : Nat) (c : Char) : Char :=
    if mode &&& special ≠ 0 then if mode &&& n ≠ 0 then c else c.toUpper else bit n 'x'
  String.ofList [bit 0o400 'r', bit 0o200 'w', execute 0o100 0o4000 's', bit 0o040 'r',
    bit 0o020 'w', execute 0o010 0o2000 's', bit 0o004 'r', bit 0o002 'w', execute 0o001 0o1000 't']

/-- A mode as an octal number. -/
def modeDigits (mode : Nat) : String :=
  let digits := Nat.toDigits 8 mode
  String.ofList (List.replicate (4 - digits.length) '0' ++ digits)

end Buildwright.Sandbox.Program
