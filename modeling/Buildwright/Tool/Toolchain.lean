import Buildwright.Project
import Buildwright.Tool.Job
import Buildwright.Tool.Result

/-!
# Toolchains

A compiler and an archiver as programs of the host. A job is done by compiling the sources one
after another and then making an archive or linking an executable. The first step that fails ends
the job, and the log holds every command that was tried with what it printed.
-/

namespace Buildwright

/-- The programs that do jobs. -/
structure Toolchain where
  compiler : String
  archiver : String
  /-- Flags at the end of every link. -/
  linkFlags : List String := []
  /-- The directory in which the programs run. -/
  workingDir? : Option Path := none
  deriving DecidableEq, Repr

namespace Toolchain

/-- The toolchain of a project. -/
def ofProject (p : Project) : Toolchain where
  compiler := p.manifest.compiler
  archiver := p.manifest.archiver
  linkFlags := p.manifest.tools.linkFlags
  workingDir? := p.root?

/-! ### Command lines -/

/-- The arguments that compile a source to an object file. -/
def compileArgs (job : Job) (source : String) (object : Path) : List String :=
  job.mode.flags ++ job.environment.includeDirs.map ("-I" ++ ·) ++ ["-c", source, "-o", object.text]

/-- The arguments that link object files to an executable. -/
def linkArgs (tc : Toolchain) (job : Job) (objects : List Path) : List String :=
  job.mode.flags ++ objects.map (·.text) ++ ["-o", job.artifact.text] ++
    job.libraries.map (·.text) ++ job.environment.linkFlags ++ tc.linkFlags

/-- The arguments that put object files into an archive. -/
def archiveArgs (job : Job) (objects : List Path) : List String :=
  ["rcs", job.artifact.text] ++ objects.map (·.text)

/-- The command that compiles a source. -/
def compileCommand (tc : Toolchain) (job : Job) (source : String) : Command where
  program := tc.compiler
  args := compileArgs job source (Job.objectPath job.objectDir source)
  workingDir? := tc.workingDir?

/-- The command that builds the artifact from object files. -/
def finalCommand (tc : Toolchain) (job : Job) (objects : List Path) : Command where
  program :=
    match job.target.kind with
    | .library => tc.archiver
    | .test | .program => tc.compiler
  args :=
    match job.target.kind with
    | .library => archiveArgs job objects
    | .test | .program => tc.linkArgs job objects
  workingDir? := tc.workingDir?

/-! ### Doing a job -/

/-- Creates the directory in which a file is to be written. -/
def createParent (tc : Toolchain) (file : Path) : Procedure (Except HostFault Unit) :=
  match file.parent? with
  | some parent => .createDirs ((tc.workingDir?.getD ⟨"."⟩).join parent) .pure
  | none => .pure (.ok ())

/-- Runs one step of a job; the job goes on with the new log only if the step succeeds. -/
def step (command : Command) (log : String) : Procedure (Except ToolResult String) := do
  match ← Procedure.logged command log with
  | (.error fault, log) => return .error (.neverRan fault.message log)
  | (.ok ending, log) =>
    return if ending.isSuccess then .ok log else .error (.failed ending.code? log)

/-- Compiles sources one after another up to the first that fails. -/
def compileAll (tc : Toolchain) (job : Job) : List String → String →
    Procedure (Except ToolResult String)
  | [], log => return .ok log
  | source :: sources, log => do
    match ← tc.createParent (Job.objectPath job.objectDir source) with
    | .error fault => return .error (.neverRan fault.message log)
    | .ok () =>
      match ← step (tc.compileCommand job source) log with
      | .error result => return .error result
      | .ok log => compileAll tc job sources log

/-- Does a job. -/
def build (tc : Toolchain) (job : Job) : Procedure ToolResult := do
  match ← tc.createParent job.artifact with
  | .error fault => return .neverRan fault.message ""
  | .ok () =>
    match ← tc.compileAll job job.target.sources "" with
    | .error result => return result
    | .ok log =>
      let objects := job.target.sources.map (Job.objectPath job.objectDir)
      match ← step (tc.finalCommand job objects) log with
      | .error result => return result
      | .ok log => return .succeeded log

end Toolchain

end Buildwright
