import Buildwright.Sandbox.Octets

/-!
# Quoting

How the programs show names in their messages. A name is quoted so that a shell would read it again:
between single quotes, between double quotes if it has single ones, and with a dollar sign in front
of parts that cannot be printed. Other words are shown between single quotes with backslashes in
front of what cannot stand there.
-/

namespace Buildwright.Sandbox

/-- Whether a character can be printed. -/
def isPrintable (c : Char) : Bool := ' ' ≤ c && c ≤ '~'

/-- A byte in three octal digits. -/
def octalDigits (c : Char) : List Char :=
  [c.toNat / 64, c.toNat / 8 % 8, c.toNat % 8].map fun d => Char.ofNat ('0'.toNat + d)

/-- The letter behind a backslash that stands for a character. -/
def escapeLetter? : Char → Option Char
  | '\x07' => some 'a'
  | '\x08' => some 'b'
  | '\x0c' => some 'f'
  | '\n' => some 'n'
  | '\r' => some 'r'
  | '\t' => some 't'
  | '\x0b' => some 'v'
  | _ => none

/-- What stands behind a backslash for a character that cannot be printed. -/
def escapeOf (c : Char) : List Char :=
  match escapeLetter? c with
  | some letter => [letter]
  | none => octalDigits c

/-- Whether a character makes quotes necessary, at the start of a name or elsewhere. -/
def needsQuotes (atStart alone : Bool) (c : Char) : Bool :=
  !isPrintable c || " !\"$&()*;<=>[^\x60|'?\\".toList.contains c ||
    (atStart && (c = '#' || c = '~')) || (alone && (c = '\x7b' || c = '\x7d'))

/-- Whether a name has to be quoted. -/
def isUnplain (name : List Char) : Bool :=
  match name with
  | [] => true
  | c :: cs => needsQuotes true cs.isEmpty c || cs.any (needsQuotes false false)

/-- The characters of a name between single quotes. What cannot be printed is collected in parts
that a dollar sign introduces; `inPart` says that one is open. -/
def insideQuotes (inPart : Bool) : List Char → List Char
  | [] => if inPart then [] else []
  | c :: cs =>
    if c = '\'' then (if inPart then ['\'', '\''] else []) ++ ['\'', '\\', '\'', '\''] ++
      insideQuotes false cs
    else if isPrintable c then
      (if inPart then ['\'', '\''] else []) ++ c :: insideQuotes false cs
    else
      (if inPart then [] else ['\'', '$', '\'']) ++ '\\' :: escapeOf c ++ insideQuotes true cs

/-- A name in quotes. -/
def quotedName (name : String) : String :=
  let cs := name.toList
  if cs.contains '\'' && cs.all fun c => isPrintable c && !"\"\\$\x60!".toList.contains c then
    "\"" ++ name ++ "\""
  else String.ofList ('\'' :: insideQuotes false cs ++ ['\''])

/-- A name, in quotes if it has to be. -/
def shownName (name : String) : String :=
  if isUnplain name.toList then quotedName name else name

/-- A path as it is shown in front of a message: what follows it begins with a colon. -/
def shownPath (path : String) : String :=
  if path.toList.contains ':' then quotedName path else shownName path

/-- A word between single quotes. -/
def quotedWord (word : String) : String :=
  let part := fun (c : Char) =>
    if c = '\'' || c = '\\' then ['\\', c]
    else if isPrintable c then [c] else '\\' :: escapeOf c
  String.ofList ('\'' :: word.toList.flatMap part ++ ['\''])

end Buildwright.Sandbox
