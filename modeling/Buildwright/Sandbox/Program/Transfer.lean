import Buildwright.Sandbox.Program.Files

/-!
# Copying and moving

The programs that put files elsewhere: as copies, under other names, or as links. What is there
already is replaced where that cannot destroy what is being copied.
-/

namespace Buildwright.Sandbox.Program

/-! ### Orders -/

/-- What is done where a file is there already. -/
inductive Overwriting where
  | always
  | asking
  | never
  deriving DecidableEq

/-- When links are followed. -/
inductive Following where
  | all
  | operands
  | nothing
  deriving DecidableEq

/-- What is made of a file. -/
inductive CopyKind where
  | copy
  | move
  | hardLink
  | symbolicLink
  deriving DecidableEq

/-- How what is replaced is named if it is kept. -/
inductive BackupStyle where
  | simple
  | numbered
  /-- With a number if there is a backup with a number. -/
  | existing
  deriving DecidableEq

/-- How files are put elsewhere. -/
structure Transfer where
  kind : CopyKind := .copy
  recursive : Bool := false
  overwriting : Overwriting := .always
  /-- What cannot be opened is removed first. -/
  forced : Bool := false
  /-- What is there is always removed first. -/
  removes : Bool := false
  /-- Only files are replaced that are older. -/
  updates : Bool := false
  verbose : Bool := false
  following : Following := .all
  keepsMode : Bool := false
  keepsTimes : Bool := false
  /-- Nothing but what is known about files is copied. -/
  onlyAttributes : Bool := false
  /-- The end of the names of what is replaced, if it is kept. -/
  backup? : Option String := none
  backups : BackupStyle := .existing
  keepsLinks : Bool := false

/-- What happened while an operand was put elsewhere. -/
structure Progress where
  /-- The directory that was created first, which is not copied into itself. -/
  created? : Option FileId := none
  /-- Where files with several names were copied to. -/
  linked : List (FileId × String) := []
  /-- Files that were created for earlier operands. -/
  made : List FileId := []

/-- What the names of the operand and of its target are. -/
structure TopNames where
  source : String
  target : String

/-- How a file became another one, as it is said. -/
def arrowText (source target : String) (backup? : Option String) : String :=
  quotedName source ++ " -> " ++ quotedName target ++
    match backup? with
    | some backup => " (backup: " ++ quotedName backup ++ ")"
    | none => ""

/-! ### Single files -/

/-- Whether two paths name the same entry of the same directory. -/
def isSameEntry (a b : String) : Work Bool := do
  if lastName a.toList [] ≠ lastName b.toList [] then return false
  let front (path : String) : Work (Except HostFault FileStatus) :=
    Work.ask (.status (String.ofList (frontPath path.toList)) true)
  match ← front a, ← front b with
  | .ok x, .ok y => return x.id = y.id
  | _, _ => return false

/-- Sets what is kept of a file that was copied. -/
def keepAttributes (x : Transfer) (status : FileStatus) (target : String) : Work Unit := do
  if x.keepsTimes then
    let follows := status.kind ≠ .link
    let _ ← Work.ask (.setTimes target follows (some status.accessed) (some status.modified))
  if x.keepsMode && status.kind ≠ .link then
    let _ ← Work.ask (.setMode target status.mode)

/-- Copies bytes from one number to another. -/
def copyBytes (source target : Nat) : (rounds : Nat) → Work (Except HostFault Unit)
  | 0 => return .ok ()
  | rounds + 1 => do
    match ← Work.ask (.read source readUnit) with
    | .error fault => return .error fault
    | .ok bytes =>
      if bytes.isEmpty then return .ok ()
      let written : Except HostFault Unit ←
        (Task.writeBytes target (bytes.size + 1) bytes : Task (Except HostFault Unit))
      match written with
      | .ok _ => copyBytes source target rounds
      | .error fault => return .error fault

/-- Opens the file that a copy is written to. -/
def openCopy (x : Transfer) (fresh : Bool) (mode : Nat) (target : String) :
    Work (Except HostFault Nat) := do
  if fresh then
    match ← Work.ask (.open target { writes := true, creates := true, fresh := true } mode) with
    | .error .isDirectory =>
      return .error (if target.endsWith "/" then .notDirectory else .isDirectory)
    | answer => return answer
  else
    match ← Work.ask (.open target { writes := true, clears := !x.onlyAttributes } 0) with
    | .error fault =>
      if !x.forced then return .error fault
      match ← Work.ask (.unlink target) with
      | .error fault => return .error fault
      | .ok _ =>
        if x.verbose then Work.printLine ("removed " ++ quotedName target)
        Work.ask (.open target { writes := true, creates := true, fresh := true } mode)
    | answer => return answer

/-- Copies a file that holds bytes. -/
def copyRegular (x : Transfer) (fresh : Bool) (status : FileStatus) (source target : String) :
    Work Bool := do
  match ← Work.ask (.open source .read 0) with
  | .error fault =>
    Work.complain ("cannot open " ++ quotedName source ++ " for reading: " ++ fault.reason) 1
    return false
  | .ok from_ =>
    let isDangling : Bool ← if fresh then do
        match ← Work.ask (.status target false) with
        | .ok found => pure (decide (found.kind = .link))
        | .error _ => pure false
      else pure false
    let result ← if isDangling then do
        Work.complain ("not writing through dangling symlink " ++ quotedName target) 1
        pure false
      else do
        match ← openCopy x fresh (status.mode &&& 0o777) target with
        | .error fault =>
          Work.complain ("cannot create regular file " ++ quotedName target ++ ": " ++ fault.reason) 1
          pure false
        | .ok target_ =>
          let copied ← if x.onlyAttributes then pure (.ok ()) else copyBytes from_ target_ manyRounds
          let _ ← Work.ask (.close target_)
          match copied with
          | .ok _ => pure true
          | .error fault =>
            Work.complain ("error copying " ++ quotedName source ++ " to " ++ quotedName target ++
              ": " ++ fault.reason) 1
            pure false
    let _ ← Work.ask (.close from_)
    if result then keepAttributes x status target
    return result

/-- The number of a backup, if a name is that of one. -/
def backupNumber? (base name : String) : Option Nat :=
  let start := (base ++ ".~").toList
  let rest := name.toList.drop start.length
  if !start.isPrefixOf name.toList || rest.getLast? ≠ some '~' then none
  else naturalOf? (String.ofList rest.dropLast)

/-- The name under which something is kept that is replaced. -/
def backupName (style : BackupStyle) (target suffix : String) : Work String := do
  let directory := String.ofList (frontPath target.toList)
  let base := String.ofList (lastName target.toList [])
  let names : List (String × FileKind) ← match style with
    | .simple => pure []
    | _ => do pure ((← Work.ask (.list directory)).toOption.getD [])
  let greatest := (names.filterMap fun (name, _) => backupNumber? base name).foldl max 0
  if style = .numbered || 0 < greatest then
    return target ++ ".~" ++ toString (greatest + 1) ++ "~"
  else return target ++ suffix

/-! ### What is there already -/

/-- What becomes of an operand where something is there already. -/
inductive Meeting where
  /-- It goes on, perhaps as if nothing were there; what was there may be kept under a name. -/
  | goesOn (fresh : Bool) (backup? : Option String)
  | skipped
  | failed

/-- Looks at what is there already. -/
def meet (x : Transfer) (progress : Progress) (isOperand : Bool) (status : FileStatus)
    (source target : String) (there : FileStatus) : Work Meeting := do
  let failed (message : String) : Work Meeting := do
    Work.complain message 1
    return .failed
  let isMoving := decide (x.kind = .move)
  let isDirectory := decide (status.kind = .directory)
  let sourceEntry := (← Work.ask (.status source false)).toOption
  let targetEntry := (← Work.ask (.status target false)).toOption
  let isSameFile := decide (status.id = there.id)
  if x.overwriting ≠ .never || isMoving then
    let entriesAgree := decide ((sourceEntry.map (·.id)) = targetEntry.map (·.id))
    let isSame ← if x.kind = .symbolicLink || x.kind = .hardLink then
        if entriesAgree && x.overwriting ≠ .never then isSameEntry source target else pure false
      else if isMoving then
        if entriesAgree then isSameEntry source target else pure false
      else if isSameFile && !isDirectory then
        if x.removes && !(targetEntry.any (·.kind = .link) && !entriesAgree) then
          isSameEntry source target
        else if x.removes then pure false
        else if x.backup?.isSome then isSameEntry source target
        else pure true
      else pure (isSameFile && isDirectory && !isOperand)
    if isSame && x.overwriting ≠ .never then
      return ← failed (quotedName source ++ " and " ++ quotedName target ++ " are the same file")
  if x.updates && !isDirectory && status.modified ≤ there.modified then return .skipped
  if (isMoving || !isDirectory) && x.overwriting = .never then return .skipped
  if (isMoving || !isDirectory) && x.overwriting = .asking then
    if !(← isAgreed ("overwrite " ++ quotedName target)) then return .skipped
  if there.kind ≠ .directory then
    if isDirectory && !(isMoving && x.backup?.isSome) then
      return ← failed ("cannot overwrite non-directory " ++ quotedName target ++ " with directory " ++
        quotedName source)
    if isOperand && progress.made.contains there.id then
      return ← failed ("will not overwrite just-created " ++ quotedName target ++ " with " ++
        quotedName source)
  if !isDirectory && there.kind = .directory && !(isMoving && x.backup?.isSome) then
    return ← failed ("cannot overwrite directory " ++ quotedName target ++ " with non-directory")
  match x.backup? with
  | some suffix =>
    if !endsInDots target && (isMoving || there.kind ≠ .directory) then
      let name ← backupName x.backups target suffix
      match ← Work.ask (.rename target name) with
      | .ok _ => return .goesOn true (some name)
      | .error fault =>
        return ← failed ("cannot backup " ++ quotedName target ++ ": " ++ fault.reason)
    else return .goesOn false none
  | none =>
    if there.kind ≠ .directory && !isMoving &&
      (x.removes || (x.following = .nothing && status.kind ≠ .regular) ||
        ((x.kind = .symbolicLink || x.kind = .hardLink) && x.forced)) then
      match ← Work.ask (.unlink target) with
      | .ok _ =>
        if x.verbose then Work.printLine ("removed " ++ quotedName target)
        return .goesOn true none
      | .error fault =>
        return ← failed ("cannot remove " ++ quotedName target ++ ": " ++ fault.reason)
    else return .goesOn false none

/-! ### Files and directories -/

/-- What became of an operand. -/
structure Transferred where
  done : Bool
  progress : Progress

/-- Puts what stands at a path elsewhere. -/
def transferAt (x : Transfer) (top : TopNames) : (depth : Nat) → (isOperand : Bool) → Progress →
    (source target : String) → Work Transferred
  | 0, _, progress, _, _ => return ⟨false, progress⟩
  | depth + 1, isOperand, progress, source, target => do
    let failed (message : String) : Work Transferred := do
      Work.complain message 1
      return ⟨false, progress⟩
    let isMoving := decide (x.kind = .move)
    let follows := !isMoving &&
      (x.following = .all || (x.following = .operands && isOperand))
    match ← Work.ask (.status source follows) with
    | .error fault => failed ("cannot stat " ++ quotedName source ++ ": " ++ fault.reason)
    | .ok status =>
      let isDirectory := decide (status.kind = .directory)
      if isDirectory && !x.recursive && !isMoving then
        return ← failed ("-r not specified; omitting directory " ++ quotedName source)
      let followsTarget := status.kind = .regular && x.kind = .copy && !x.removes && x.backup?.isNone
      let there ← Work.ask (.status target followsTarget)
      let meeting ← match there with
        | .ok there => meet x progress isOperand status source target there
        | .error .notFound => pure (.goesOn true none)
        | .error fault =>
          if isMoving then pure (.goesOn true none)
          else do
            Work.complain ("cannot stat " ++ quotedName target ++ ": " ++ fault.reason) 1
            pure .failed
      match meeting with
      | .failed => return ⟨false, progress⟩
      | .skipped => return ⟨true, progress⟩
      | .goesOn fresh backup? =>
        if isMoving then
          match ← Work.ask (.rename source target) with
          | .ok _ =>
            if x.verbose then Work.printLine ("renamed " ++ arrowText source target backup?)
            let made := ((← Work.ask (.status target false)).toOption.map (·.id)).toList
            return ⟨true, { progress with made := made ++ progress.made }⟩
          | .error .invalid =>
            failed ("cannot move " ++ quotedName top.source ++ " to a subdirectory of itself, " ++
              quotedName top.target)
          | .error fault =>
            failed ("cannot move " ++ quotedName source ++ " to " ++ quotedName target ++ ": " ++
              fault.reason)
        else
        if x.verbose && !isDirectory then Work.printLine (arrowText source target backup?)
        if isDirectory then
          if progress.created? = some status.id then
            return ← failed ("cannot copy a directory, " ++ quotedName top.source ++
              ", into itself, " ++ quotedName top.target)
          let made : Except HostFault Unit ←
            if fresh then Work.ask (.makeDirectory target (status.mode ||| 0o700)) else pure (.ok ())
          match made with
          | .error fault =>
            failed ("cannot create directory " ++ quotedName target ++ ": " ++ fault.reason)
          | .ok _ =>
            if fresh && x.verbose then Work.printLine (arrowText source target none)
            let own := ((← Work.ask (.status target true)).toOption).map (·.id)
            let progress := if fresh && progress.created?.isNone then
                { progress with created? := own } else progress
            match ← Work.ask (.list source) with
            | .error fault => failed ("cannot access " ++ quotedName source ++ ": " ++ fault.reason)
            | .ok entries =>
              let rec each : Bool → Progress → List (String × FileKind) → Work Transferred
                | done, progress, [] => return ⟨done, progress⟩
                | done, progress, (name, _) :: others => do
                  let next ← transferAt x top depth false progress (joined source name)
                    (joined target name)
                  each (done && next.done) next.progress others
              let result ← each true progress entries
              if fresh then
                let mask ← currentMask
                if !x.keepsMode && status.mode &&& 0o700 ≠ 0o700 then
                  let _ ← Work.ask (.setMode target (without (status.mode &&& 0o777) mask))
              keepAttributes x status target
              return result
        else
          let created (result : Except HostFault Unit) (what : String) : Work Transferred := do
            match result with
            | .error fault =>
              failed ("cannot create " ++ what ++ " " ++ quotedName target ++
                (if what = "hard link" then " to " ++ quotedName source else "") ++ ": " ++ fault.reason)
            | .ok _ =>
              let made := ((← Work.ask (.status target false)).toOption.map (·.id)).toList
              return ⟨true, { progress with made := made ++ progress.made }⟩
          match x.kind, status.kind with
          | .hardLink, _ => created (← Work.ask (.addName source target follows)) "hard link"
          | .symbolicLink, _ =>
            if !source.startsWith "/" && target.contains '/' && !target.startsWith "./" then
              failed (quotedName target ++
                ": can make relative symbolic links only in current directory")
            else created (← Work.ask (.makeLink source target)) "symbolic link"
          | _, .link =>
            match ← Work.ask (.readLink source) with
            | .error fault =>
              failed ("cannot read symbolic link " ++ quotedName source ++ ": " ++ fault.reason)
            | .ok text =>
              let result ← created (← Work.ask (.makeLink text target)) "symbolic link"
              keepAttributes x status target
              return result
          | _, .channel =>
            if x.recursive then
              created (← Work.ask (.makeChannel target status.mode)) "fifo"
            else return ⟨← copyRegular x fresh status source target, progress⟩
          | _, _ =>
            let earlier? := if x.keepsLinks && 1 < status.names then
                progress.linked.lookup status.id else none
            match earlier? with
            | some earlier => created (← Work.ask (.addName earlier target false)) "hard link"
            | none =>
              let done ← copyRegular x fresh status source target
              let made := ((← Work.ask (.status target true)).toOption.map (·.id)).toList
              return ⟨done, { progress with
                made := made ++ progress.made, linked := (status.id, target) :: progress.linked }⟩

/-! ### Operands -/

/-- The name that an operand gets in a directory. -/
def targetIn (directory source : String) : String :=
  let name := String.ofList (lastName source.toList [])
  if name = ".." then directory else joined directory name

/-- Where operands are put: into a directory, or one of them at a path. -/
inductive Target where
  | directory (path : String)
  | path (path : String)

/-- What the last operand is, if no option says where the others are put. -/
def targetOf (d : Directions) (operands : List String) : Work (List String × Target) := do
  let missing : Work Unit := do
    match operands with
    | [] => Work.mislead "missing file operand" 1
    | [path] =>
      if !d.has "t" then
        Work.mislead ("missing destination file operand after " ++ quotedName path) 1
    | _ => pure ()
  missing
  match d.value? "t" with
  | some directory =>
    if d.has "T" then
      Work.mislead "cannot combine --target-directory (-t) and --no-target-directory (-T)" 1
    match ← Work.ask (.status directory true) with
    | .ok { kind := .directory, .. } => return (operands, .directory directory)
    | .ok _ =>
      Work.abandon ("target directory " ++ quotedName directory ++ ": " ++
        HostFault.notDirectory.reason) 1
    | .error fault =>
      Work.abandon ("target directory " ++ quotedName directory ++ ": " ++ fault.reason) 1
  | none =>
    let last := operands.getLastD ""
    let others := operands.dropLast
    if d.has "T" then
      match operands with
      | _ :: _ :: extra :: _ => refuseOperand extra 1
      | _ => return (others, .path last)
    match ← Work.ask (.status last true) with
    | .ok { kind := .directory, .. } => return (others, .directory last)
    | answer =>
      let fault := match answer with
        | .ok _ => HostFault.notDirectory
        | .error fault => fault
      if 1 < others.length then Work.abandon ("target " ++ quotedName last ++ ": " ++ fault.reason) 1
      return (others, .path last)

/-- Puts operands elsewhere one after another. -/
def transferAll (x : Transfer) (parents : Bool) (operands : List String) (target : Target) :
    Work Unit := do
  let rec each : List (FileId × Bool) → Progress → List String → Work Unit
    | _, _, [] => pure ()
    | seen, progress, source :: others => do
      let path ← match target with
        | .path path => pure path
        | .directory directory =>
          if parents then do
            let path := joined directory (source.dropWhile (· = '/')).toString
            let _ ← makeParents false (parentsOf path)
            pure path
          else pure (targetIn directory source)
      let known ← Work.ask (.status source true)
      let again : Bool := match known with
        | .ok status => seen.any (·.1 = status.id)
        | .error _ => false
      let isDirectory : Bool := match known with
        | .ok status => decide (status.kind = .directory)
        | .error _ => false
      if again && x.kind = .copy && x.backup?.isNone && (!isDirectory || x.recursive) then
        Work.warn ("warning: source " ++ (if isDirectory then "directory" else "file") ++ " " ++
          quotedName source ++ " specified more than once")
        each seen progress others
      else
        let seen := match known with
          | .ok status => (status.id, isDirectory) :: seen
          | .error _ => seen
        let result ← transferAt x ⟨source, path⟩ greatestDepth true
          { progress with created? := none } source path
        each seen result.progress others
  each [] {} operands

/-- The options about what is there already. -/
def overwritingOf (d : Directions) : Overwriting :=
  match d.last? ["f", "i", "n"] with
  | some "i" => .asking
  | some "n" => .never
  | _ => .always

/-- The end of the names of backups, if some are asked for. -/
def backupOf (d : Directions) : Work (Option String × BackupStyle) := do
  let environment := (← read).environment
  let manner := (d.value? "backup").or (environment.lookup "VERSION_CONTROL")
  let suffix := (d.value? "S").getD ((environment.lookup "SIMPLE_BACKUP_SUFFIX").getD "~")
  let isAsked := d.hasAny ["b", "backup", "S"] && !(["none", "off"].contains (manner.getD ""))
  let style : BackupStyle := match manner with
    | some "numbered" | some "t" => .numbered
    | some "simple" | some "never" => .simple
    | _ => .existing
  return (if isAsked then some suffix else none, style)

/-- Copies files. -/
def copyFiles : Work Unit := do
  let d ← Work.directions {
    letters := "abdfHilLnpPrRsTuvxZ", valued := "St"
    names := plainNames [("archive", "a"), ("attributes-only", "o"), ("copy-contents", "c"),
      ("dereference", "L"), ("force", "f"), ("interactive", "i"), ("link", "l"),
      ("no-clobber", "n"), ("no-dereference", "P"), ("no-target-directory", "T"),
      ("one-file-system", "x"), ("parents", "parents"), ("recursive", "r"),
      ("remove-destination", "remove"), ("strip-trailing-slashes", "strip"),
      ("symbolic-link", "s"), ("verbose", "v")] ++
      valuedNames [("suffix", "S"), ("target-directory", "t"), ("no-preserve", "no-preserve"),
        ("sparse", "sparse")] ++
      [{ name := "backup", key := "backup", takes := .perhaps },
        { name := "preserve", key := "preserve", takes := .perhaps },
        { name := "reflink", key := "reflink", takes := .perhaps },
        { name := "update", key := "u", takes := .perhaps },
        { name := "context", key := "Z", takes := .perhaps }] } 1
  let recursive := d.hasAny ["a", "r", "R"]
  let (backup?, backups) ← backupOf d
  let kept := ((d.values "preserve").flatMap fun text => text.splitOn ",") ++
    (if d.options.any fun (key, value?) => key = "p" || (key = "preserve" && value?.isNone) then
      ["mode", "timestamps"] else []) ++ (if d.has "a" then ["all"] else [])
  let dropped := (d.values "no-preserve").flatMap fun text => text.splitOn ","
  let keeps (name : String) : Bool :=
    (kept.contains name || kept.contains "all") && !dropped.contains name && !dropped.contains "all"
  let x : Transfer := {
    kind := match d.last? ["l", "s"] with
      | some "l" => .hardLink
      | some _ => .symbolicLink
      | none => .copy
    recursive, overwriting := overwritingOf d, forced := d.has "f", removes := d.has "remove"
    updates := d.has "u", verbose := d.has "v", onlyAttributes := d.has "o", backup?, backups
    following := match d.last? ["L", "P", "H", "d", "a"] with
      | some "L" => .all
      | some "H" => .operands
      | some _ => .nothing
      | none => if recursive && d.last? ["l"] = none then .nothing else .all
    keepsMode := keeps "mode", keepsTimes := keeps "timestamps"
    keepsLinks := keeps "links" || d.has "d" }
  let operands := if d.has "strip" then
      d.operands.map fun path => String.ofList (withoutLastSlashes path.toList)
    else d.operands
  let (sources, target) ← targetOf d operands
  match target, d.has "parents" with
  | .path _, true => Work.mislead "with --parents, the destination must be a directory" 1
  | _, parents => transferAll x parents sources target

/-- Moves files. -/
def moveFiles : Work Unit := do
  let d ← Work.directions {
    letters := "bfinTuvZ", valued := "St"
    names := plainNames [("force", "f"), ("interactive", "i"), ("no-clobber", "n"),
      ("no-target-directory", "T"), ("strip-trailing-slashes", "strip"), ("verbose", "v"),
      ("context", "Z")] ++ valuedNames [("suffix", "S"), ("target-directory", "t")] ++
      [{ name := "backup", key := "backup", takes := .perhaps },
        { name := "update", key := "u", takes := .perhaps }] } 1
  let (backup?, backups) ← backupOf d
  let x : Transfer := {
    kind := .move, recursive := true, overwriting := overwritingOf d, updates := d.has "u"
    verbose := d.has "v", following := .nothing, backup?, backups }
  let operands := if d.has "strip" then
      d.operands.map fun path => String.ofList (withoutLastSlashes path.toList)
    else d.operands
  let (sources, target) ← targetOf d operands
  transferAll x false sources target

end Buildwright.Sandbox.Program
