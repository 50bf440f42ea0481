import Buildwright.Host.Fault
import Buildwright.Sandbox.Octets
import Std.Data.HashMap
import Std.Data.TreeMap

/-!
# File trees

Files and directories in memory. A directory gives names to files, and a file may have several
names. A path is followed from a directory name by name; a symbolic link on the way leads elsewhere.
-/

namespace Buildwright.Sandbox

/-! ### Files -/

/-- The number of a file. -/
abbrev FileId := Nat

/-- A moment: nanoseconds since the start of 1970. -/
abbrev Moment := Int

/-- A file that holds nothing itself. -/
inductive Device where
  /-- It is empty and takes everything. -/
  | nothing
  /-- It has zeros without end and takes everything. -/
  | zeros
  /-- It has zeros without end and takes nothing. -/
  | full
  /-- What the process that opens it has under a number. -/
  | descriptor (number : Nat)
  /-- The terminal, of which there is none. -/
  | terminal
  deriving DecidableEq

/-- What a file holds. -/
inductive Body where
  | regular (contents : ByteArray)
  /-- Names with their files, and the directory that holds this one. -/
  | directory (entries : Std.TreeMap String FileId) (parent : FileId)
  /-- A path that is followed instead. -/
  | link (target : String)
  | device (device : Device)
  /-- A program that comes with the machine. -/
  | program (name : String)
  /-- A channel between processes. -/
  | channel

/-- A file with what is known about it. -/
structure Inode where
  body : Body
  /-- The permission bits. -/
  mode : Nat
  /-- Whether it belongs to the machine and not to who works on it. -/
  isForeign : Bool := false
  /-- How many names it has. -/
  names : Nat := 1
  accessed : Moment := 0
  modified : Moment := 0
  changed : Moment := 0

/-- What sort of file something is. -/
inductive FileKind where
  | regular
  | directory
  | link
  | device
  | channel
  deriving DecidableEq

/-- What may be done with a file. -/
inductive Permission where
  | read
  | write
  /-- To run it, or to look for names in it. -/
  | pass

/-- The bit that grants a permission to those who do not own a file. -/
def Permission.bit : Permission → Nat
  | read => 4
  | write => 2
  | pass => 1

/-- Whether permission bits grant something. -/
def Permission.isIn (permission : Permission) (isForeign : Bool) (mode : Nat) : Bool :=
  mode &&& (if isForeign then permission.bit else 64 * permission.bit) ≠ 0

/-- What is told about a file. -/
structure FileStatus where
  id : FileId
  kind : FileKind
  mode : Nat
  isForeign : Bool := false
  names : Nat
  size : Nat
  accessed : Moment
  modified : Moment
  changed : Moment

/-- The sort of a file with some contents. -/
def Body.kind : Body → FileKind
  | regular _ | program _ => .regular
  | directory _ _ => .directory
  | link _ => .link
  | device _ => .device
  | channel => .channel

/-- The first bytes of an installed program. -/
def programBytes : ByteArray :=
  ⟨#[0x7F, 0x45, 0x4C, 0x46, 0x02, 0x01, 0x01, 0x00, 0x3E, 0xF0, 0x9A]⟩

/-- How many bytes a file has. -/
def Body.size : Body → Nat
  | regular contents => contents.size
  | directory _ _ => 4096
  | link target => target.length
  | program _ => programBytes.size
  | device _ | channel => 0

/-- Whether something may be done with a file. -/
def Inode.permits (file : Inode) (permission : Permission) : Bool :=
  permission.isIn file.isForeign file.mode

/-- Whether something may be done with a file about which something is told. -/
def FileStatus.permits (status : FileStatus) (permission : Permission) : Bool :=
  permission.isIn status.isForeign status.mode

/-- What is told about a file with a number. -/
def Inode.status (file : Inode) (id : FileId) : FileStatus where
  id
  kind := file.body.kind
  mode := file.mode
  isForeign := file.isForeign
  names := file.names
  size := file.body.size
  accessed := file.accessed
  modified := file.modified
  changed := file.changed

/-! ### Trees -/

/-- Files by their numbers. The directory at the root has the number zero. -/
structure FileTree where
  files : Std.HashMap FileId Inode := {}
  next : FileId := 1

namespace FileTree

/-- The directory above all others. -/
def root : FileId := 0

/-- A tree with nothing but a root. -/
def empty : FileTree where
  files := Std.HashMap.ofList
    [(root, { body := .directory {} root, mode := 0o755, isForeign := true, names := 2 })]

/-- The file with a number. -/
def file? (tree : FileTree) (id : FileId) : Option Inode := tree.files[id]?

/-- What the file with a number holds. -/
def body? (tree : FileTree) (id : FileId) : Option Body :=
  match tree.file? id with
  | some file => some file.body
  | none => none

/-- The entries of a directory, and the directory above it. -/
def directory? (tree : FileTree) (id : FileId) :
    Option (Std.TreeMap String FileId × FileId) :=
  match tree.file? id with
  | some { body := .directory entries parent, .. } => some (entries, parent)
  | _ => none

/-- Whether a number is that of a directory. -/
def isDirectory (tree : FileTree) (id : FileId) : Bool := (tree.directory? id).isSome

/-- Whether something may be done with the file that has a number. -/
def permits (tree : FileTree) (id : FileId) (permission : Permission) : Bool :=
  (tree.file? id).any (·.permits permission)

/-- The tree with a file changed. -/
def change (tree : FileTree) (id : FileId) (f : Inode → Inode) : FileTree :=
  { tree with files := tree.files.modify id f }

/-- The tree with other entries in a directory. -/
def changeEntries (tree : FileTree) (id : FileId) (now : Moment)
    (f : Std.TreeMap String FileId → Std.TreeMap String FileId) : FileTree :=
  tree.change id fun file =>
    match file.body with
    | .directory entries parent =>
      { file with body := .directory (f entries) parent, modified := now, changed := now }
    | _ => file

/-- The tree with a new file under a name, and the number of the file. -/
def create (tree : FileTree) (parent : FileId) (name : String) (body : Body) (mode : Nat)
    (now : Moment) : FileTree × FileId :=
  let id := tree.next
  let names := if body.kind = .directory then 2 else 1
  let file : Inode := { body, mode, names, accessed := now, modified := now, changed := now }
  let tree := { tree with files := tree.files.insert id file, next := id + 1 }
  (tree.changeEntries parent now (·.insert name id), id)

/-- The tree with a file that has a name more or less. -/
def countNames (tree : FileTree) (id : FileId) (now : Moment) (f : Nat → Nat) : FileTree :=
  tree.change id fun file => { file with names := f file.names, changed := now }

/-- The tree without a name. -/
def remove (tree : FileTree) (parent : FileId) (name : String) (now : Moment) : FileTree :=
  match (tree.directory? parent).bind fun (entries, _) => entries[name]? with
  | some id =>
    (tree.countNames id now (· - 1)).changeEntries parent now (·.erase name)
  | none => tree

/-! ### Following paths -/

/-- The greatest number of bytes of a name. -/
def greatestName : Nat := 255

/-- The greatest number of bytes of a path. -/
def greatestPath : Nat := 4095

/-- The greatest number of links that are followed on the way. -/
def greatestLinks : Nat := 40

/-- Where a path leads: a name in a directory, and what stands there. -/
structure Spot where
  parent : FileId
  name : String
  id? : Option FileId
  /-- Whether a slash stands behind the name. -/
  slashed : Bool := false

/-- Whether a name is a dot or two dots, or there is none. -/
def Spot.isDots (spot : Spot) : Bool := spot.name = "." || spot.name = ".."

/-- The parts of a path between the slashes, without those that are empty. -/
def pathNames (path : String) : List String :=
  (path.splitOn "/").filter (· ≠ "")

/-- Whether a path begins at the root. -/
def isAbsolute (path : String) : Bool := path.startsWith "/"

/-- Follows names from a directory. A link at the end is followed if `follows` says so or if a slash
stands behind it. The fuel bounds the steps, of which each link may add some; `links` counts them.
-/
def walk (tree : FileTree) (follows slashed : Bool) :
    (fuel : Nat) → (links : Nat) → FileId → List String → Except HostFault Spot
  | 0, _, _, _ => .error .tooManyLinks
  | _ + 1, _, directory, [] =>
    if tree.isDirectory directory then
      .ok { parent := directory, name := ".", id? := some directory, slashed }
    else .error .notDirectory
  | fuel + 1, links, directory, name :: rest =>
    match tree.directory? directory with
    | none => .error .notDirectory
    | some (entries, parent) =>
      if !tree.permits directory .pass then .error .permissionDenied
      else if greatestName < name.length then .error .nameTooLong
      else
        let id? := if name = "." then some directory
          else if name = ".." then some parent
          else entries[name]?
        let spot : Spot := { parent := directory, name, id?, slashed }
        match id? with
        | none => if rest.isEmpty then .ok spot else .error .notFound
        | some id =>
          match tree.file? id with
          | some { body := .link target, .. } =>
            if rest.isEmpty && !follows && !slashed then .ok spot
            else if greatestLinks ≤ links then .error .tooManyLinks
            else if target = "" then .error .notFound
            else
              let start := if isAbsolute target then root else directory
              tree.walk follows slashed fuel (links + 1) start (pathNames target ++ rest)
          | _ =>
            if rest.isEmpty then
              if slashed && !tree.isDirectory id then .error .notDirectory else .ok spot
            else tree.walk follows slashed fuel links id rest

/-- Follows a path from a directory. -/
def locate (tree : FileTree) (start : FileId) (path : String) (follows : Bool) :
    Except HostFault Spot :=
  if path = "" then .error .notFound
  else if greatestPath < path.length then .error .nameTooLong
  else
    let names := pathNames path
    let fuel := names.length + (greatestLinks + 1) * (greatestPath + 1)
    tree.walk follows (path.endsWith "/") fuel 0 (if isAbsolute path then root else start) names

/-- The file to which a path leads. -/
def find (tree : FileTree) (start : FileId) (path : String) (follows : Bool) :
    Except HostFault FileId := do
  match (← tree.locate start path follows).id? with
  | some id => return id
  | none => .error .notFound

/-- Refuses to change the names in a directory that may not be written. -/
def allowNames (tree : FileTree) (directory : FileId) : Except HostFault Unit :=
  if tree.permits directory .write then .ok () else .error .permissionDenied

/-- The names on the way from the root to a directory, outermost first. -/
def namesOf (tree : FileTree) (id : FileId) : List String :=
  let rec climb : (fuel : Nat) → FileId → List String → List String
    | 0, _, names => names
    | fuel + 1, id, names =>
      if id = root then names
      else match tree.directory? id with
        | none => names
        | some (_, parent) =>
          let name := ((tree.directory? parent).bind fun (entries, _) =>
            (entries.toList.find? (·.2 = id)).map Prod.fst).getD ""
          climb fuel parent (name :: names)
  climb tree.next id []

/-- The absolute path of a directory. -/
def pathOf (tree : FileTree) (id : FileId) : String := "/" ++ "/".intercalate (tree.namesOf id)

/-- Whether a directory is another one or stands below it. -/
def isWithin (tree : FileTree) (outer : FileId) (id : FileId) : Bool :=
  let rec climb : (fuel : Nat) → FileId → Bool
    | 0, _ => false
    | fuel + 1, id =>
      id = outer || (id ≠ root && match tree.directory? id with
        | none => false
        | some (_, parent) => climb fuel parent)
  climb tree.next id

/-! ### Changing the tree -/

/-- Creates a directory. -/
def makeDirectory (tree : FileTree) (start : FileId) (path : String) (mode : Nat) (now : Moment) :
    Except HostFault FileTree := do
  let spot ← tree.locate start path false
  if spot.id?.isSome then .error .alreadyExists
  tree.allowNames spot.parent
  let (tree, _) := tree.create spot.parent spot.name (.directory {} spot.parent) mode now
  return tree.countNames spot.parent now (· + 1)

/-- Removes a directory in which there is nothing. -/
def removeDirectory (tree : FileTree) (start : FileId) (path : String) (now : Moment) :
    Except HostFault FileTree := do
  let spot ← tree.locate start path false
  match spot.id? with
  | none => .error .notFound
  | some id =>
    if id ≠ root && !spot.isDots then tree.allowNames spot.parent
    match tree.directory? id with
    | none => .error .notDirectory
    | some (entries, _) =>
      if id = root then .error .busy
      else if spot.name = "." then .error .invalid
      else if spot.name = ".." || !entries.isEmpty then .error .notEmpty
      else return (tree.remove spot.parent spot.name now).countNames spot.parent now (· - 1)

/-- Removes a name of a file that is no directory. -/
def unlink (tree : FileTree) (start : FileId) (path : String) (now : Moment) :
    Except HostFault FileTree := do
  let spot ← tree.locate start path false
  match spot.id? with
  | none => .error .notFound
  | some id =>
    tree.allowNames spot.parent
    if tree.isDirectory id then .error .isDirectory
    return tree.remove spot.parent spot.name now

/-- Gives a file another name. -/
def addName (tree : FileTree) (start : FileId) (old new : String) (follows : Bool) (now : Moment) :
    Except HostFault FileTree := do
  let id ← tree.find start old follows
  if tree.isDirectory id then .error .notPermitted
  let spot ← tree.locate start new false
  if spot.id?.isSome then .error .alreadyExists
  if spot.slashed then .error .notFound
  tree.allowNames spot.parent
  return (tree.changeEntries spot.parent now (·.insert spot.name id)).countNames id now (· + 1)

/-- Creates a file that is no directory. -/
def makeFile (tree : FileTree) (start : FileId) (path : String) (body : Body) (mode : Nat)
    (now : Moment) : Except HostFault FileTree := do
  let spot ← tree.locate start path false
  if spot.id?.isSome then .error .alreadyExists
  if spot.slashed then .error .notFound
  tree.allowNames spot.parent
  return (tree.create spot.parent spot.name body mode now).1

/-- Moves what stands under a name to another one, where it replaces a file or an empty directory of
the same kind. -/
def rename (tree : FileTree) (start : FileId) (old new : String) (now : Moment) :
    Except HostFault FileTree := do
  let source ← tree.locate start old false
  let target ← tree.locate start new false
  let some id := source.id? | .error .notFound
  let moved := tree.isDirectory id
  if source.isDots || target.isDots then .error .busy
  tree.allowNames source.parent
  tree.allowNames target.parent
  if !moved && target.slashed then .error .notDirectory
  if moved && tree.isWithin id target.parent then .error .invalid
  let tree ← match target.id? with
    | none => pure tree
    | some other =>
      if other = id then return tree
      match moved, tree.directory? other with
      | true, none => .error .notDirectory
      | false, some _ => .error .isDirectory
      | _, some (entries, _) =>
        if !entries.isEmpty then .error .notEmpty
        pure ((tree.remove target.parent target.name now).countNames target.parent now (· - 1))
      | _, none => pure (tree.remove target.parent target.name now)
  let tree := tree.changeEntries source.parent now (·.erase source.name)
  let tree := tree.changeEntries target.parent now (·.insert target.name id)
  if !moved then return tree
  let tree := (tree.countNames source.parent now (· - 1)).countNames target.parent now (· + 1)
  return tree.change id fun file =>
    match file.body with
    | .directory entries _ => { file with body := .directory entries target.parent }
    | _ => file

/-- The tree with other contents in a file. -/
def write (tree : FileTree) (id : FileId) (now : Moment) (f : ByteArray → ByteArray) : FileTree :=
  tree.change id fun file =>
    match file.body with
    | .regular contents =>
      { file with body := .regular (f contents), modified := now, changed := now }
    | _ => file

/-! ### Building and listing -/

/-- What is placed in a tree. -/
structure Placed where
  body : Body
  mode : Nat
  isForeign : Bool := false

/-- The tree with a new file under a name in a directory, and the number of the file. -/
def placeAt (tree : FileTree) (directory : FileId) (name : String) (placed : Placed) :
    FileTree × FileId :=
  let body := match placed.body with
    | .directory entries _ => .directory entries directory
    | body => body
  let (tree, id) := tree.create directory name body placed.mode 0
  let tree := tree.change id fun file => { file with isForeign := placed.isForeign }
  (if body.kind = .directory then tree.countNames directory 0 (· + 1) else tree, id)

/-- The tree with a file under a path from the root, and the directories on the way to it. -/
def place (tree : FileTree) : (names : List String) → FileId → Placed → FileTree
  | [], _, _ => tree
  | [name], directory, placed =>
    match placed.body, (tree.directory? directory).bind fun (entries, _) => entries[name]? with
    | .directory _ _, some _ => tree
    | _, some _ => ((tree.remove directory name 0).placeAt directory name placed).1
    | _, none => (tree.placeAt directory name placed).1
  | name :: names, directory, placed =>
    match (tree.directory? directory).bind fun (entries, _) => entries[name]? with
    | some next => tree.place names next placed
    | none =>
      let (tree, next) := tree.placeAt directory name
        { placed with body := .directory {} directory, mode := 0o755 }
      tree.place names next placed

/-- Everything below a directory, in ascending order; a directory ends in a slash. -/
def listing (tree : FileTree) (directory : FileId) : List String :=
  let rec below : (fuel : Nat) → FileId → (front : String) → List String
    | 0, _, _ => []
    | fuel + 1, id, front =>
      match tree.directory? id with
      | none => []
      | some (entries, _) => entries.toList.flatMap fun (name, id) =>
        let path := front ++ name
        if !tree.isDirectory id then [path]
        else (path ++ "/") :: if tree.permits id .read then below fuel id (path ++ "/") else []
  (below tree.next directory "").mergeSort fun a b => !(b < a)

end FileTree

end Buildwright.Sandbox
