import Buildwright.Sandbox.System.Basic

/-!
# Starting programs

What a file must be so that it can be started. A program either comes with the machine or is a text
that names its interpreter in the first line.
-/

namespace Buildwright.Sandbox

/-! ### Interpreters -/

/-- How many bytes of a file the system looks at to find its interpreter. -/
def lookedAt : Nat := 256

/-- Whether a character separates the parts of the first line of a script. -/
def isLineBlank (c : Char) : Bool := c = ' ' || c = '\t'

/-- The interpreter in the first line of a file, with what it is told before the name of the file.
Blanks at the end of what is looked at do not count, unless the file ends there without a line end.
A name that may go on behind the part that is looked at is none. -/
def interpreter? (contents : ByteArray) : Option (String × List String) :=
  match (octetText (contents.extract 0 lookedAt)).toList with
  | '#' :: '!' :: behind =>
    let line := behind.takeWhile fun c => c ≠ '\n' && c ≠ '\x00'
    let isWhole := (behind.drop line.length).head? = some '\n'
    let isCut := line.length + 2 = lookedAt
    let isTerminated := !isCut || (line.dropWhile isLineBlank).any isLineBlank
    let line := if isCut then line.take (lookedAt - 3) else line
    let line := if isWhole || isCut then (line.reverse.dropWhile isLineBlank).reverse else line
    let line := line.dropWhile isLineBlank
    let name := line.takeWhile (!isLineBlank ·)
    let option := line.drop name.length
    if !isTerminated || ((isWhole || isCut) && name = []) then none
    else some (String.ofList name,
      if option = [] then [] else [String.ofList (option.dropWhile isLineBlank)])
  | _ => none

/-- How many files may name each other as interpreters, one after another. -/
def interpreterLimit : Nat := 5

/-! ### Limits -/

/-- The greatest number of bytes of an argument. -/
def greatestArgument : Nat := 131071

/-- The greatest number of bytes of all arguments, with the space that each takes besides. -/
def greatestArguments : Nat := 2097152

/-- Whether texts are short enough to be handed to a program. -/
def areShort (texts : List String) : Bool :=
  texts.all (·.length ≤ greatestArgument) &&
    texts.foldl (fun n text => n + text.length + 9) 0 ≤ greatestArguments

/-- A variable as a program gets it. -/
def settingText (setting : String × String) : String := setting.1 ++ "=" ++ setting.2

/-! ### Programs -/

/-- The programs that come with a machine. -/
abbrev Programs := String → Option (Launch → Process)

/-- What runs at the end of a path. At most `links` files name each other as interpreters. -/
def System.programAt (programs : Programs) (s : System) (directory : FileId)
    (environment : List (String × String)) :
    (links : Nat) → (path name : String) → (arguments : List String) → Except HostFault Process
  | links, path, name, arguments => do
    let id ← s.tree.find directory path true
    let some file := s.tree.file? id | .error .notFound
    if file.body.kind ≠ .regular || !file.permits .pass then .error .permissionDenied
    let isWritten := s.openings.any fun _ opening =>
      opening.writes && match opening.target with
        | .file other => other = id
        | _ => false
    if isWritten then .error .textBusy
    match file.body with
    | .program installed =>
      match programs installed with
      | some start => return start { name, arguments, environment }
      | none => .error .notExecutable
    | .regular contents =>
      match interpreter? contents, links with
      | none, _ => .error .notExecutable
      | some _, 0 => .error .tooManyLinks
      | some (interpreter, options), links + 1 =>
        if interpreter = "" then .error .permissionDenied
        let arguments := options ++ path :: arguments
        s.programAt programs directory environment links interpreter interpreter arguments
    | _ => .error .permissionDenied

/-- What runs when a program is started. -/
def System.started (programs : Programs) (s : System) (directory : FileId) (path : String)
    (arguments : List String) (environment : List (String × String)) :
    Except HostFault Process := do
  let program ← s.programAt programs directory environment interpreterLimit path
    (arguments.headD "") arguments.tail
  if !areShort (arguments ++ environment.map settingText) then .error .argumentsTooLong
  return program

end Buildwright.Sandbox
