import Buildwright.Build.Run
import Buildwright.CommandLine.Invocation

/-!
# Workspaces

A project that was found and whose graph is in order. Every command begins by opening the workspace,
and everything that is wrong with the targets as a whole comes to light then, before any tool is
started.
-/

namespace Buildwright.CommandLine

/-- Why a command cannot do its work: a message, and what lies behind it. -/
structure Complaint where
  message : String
  causes : List String := []
  deriving DecidableEq, Repr

namespace Complaint

/-- The lines of a cause behind a mark; its further lines are set in by as much. -/
def causeText (mark : String) (cause : String) : String :=
  let between := '\n' :: List.replicate mark.length ' '
  mark ++ String.ofList (between.intercalate (Text.split '\n' cause.toList)) ++ "\n"

/-- The texts of several causes, which are numbered. -/
def numbered (first : Nat) : List String → String
  | [] => ""
  | cause :: causes =>
    let number := toString first
    causeText (String.ofList (List.replicate (5 - number.length) ' ') ++ number ++ ": ") cause ++
      numbered (first + 1) causes

/-- The text of a complaint. -/
def text (c : Complaint) : String :=
  "Error: " ++ c.message ++ "\n" ++
    match c.causes with
    | [] => ""
    | [cause] => "\nCaused by:\n" ++ causeText "    " cause
    | causes => "\nCaused by:\n" ++ numbered 0 causes

end Complaint

/-- A build that cannot start. -/
def complain (e : BuildError) : Complaint := { message := e.message }

/-- A manifest that could not be loaded: what was tried, and what is wrong. A fault of the host is
named once more as the cause of the error. -/
def complainOfManifest (attempt : String) (e : ManifestError) : Complaint where
  message := attempt
  causes := e.message ::
    match e with
    | .unreadable fault => [fault.message]
    | _ => []

/-- A project with its graph, none of whose targets depends on itself. -/
structure Workspace where
  project : Project
  graph : Graph

namespace Workspace

/-- Turns an error into a complaint. -/
def orComplain {α : Type} (result : Except BuildError α) : Except Complaint α :=
  result.mapError complain

/-- The project to work on: that of a given manifest, or of the nearest one. -/
def findProject (env : Environment) (cwd : Path) (manifest? : Option Path) :
    Procedure (Except Complaint Project) :=
  match manifest? with
  | some file => do
    let found ← Project.ofFile file
    return (found.bind (·.withOverrides env)).mapError
      (complainOfManifest ("Failed to load " ++ file.text))
  | none => do
    let found ← Project.search cwd
    return (found.bind (·.withOverrides env)).mapError
      (complainOfManifest "Failed to load keel.toml")

/-- The workspace of a project. The targets must be in order, and the project must have a place. -/
def ofProject (p : Project) : Except Complaint Workspace := do
  if p.root?.isNone then
    throw { message := "could not find keel.toml in the current directory or any parent" }
  let catalog ← orComplain (Catalog.ofManifest p.manifest)
  let graph ← orComplain <|
    Graph.ofCatalog catalog p.manifest.neededHarness? p.manifest.build.includeDirs
  orComplain graph.checkAcyclic
  return { project := p, graph }

/-- The workspace of a given manifest, or of the nearest one. -/
def find (env : Environment) (cwd : Path) (manifest? : Option Path) :
    Procedure (Except Complaint Workspace) := do
  return (← findProject env cwd manifest?).bind ofProject

/-! ### Settings -/

/-- The name of the compile mode: that of the command line, or that of the project. -/
def modeName (w : Workspace) (mode? : Option String) : String :=
  mode?.getD w.project.manifest.mode

/-- The compile mode. -/
def mode (w : Workspace) (mode? : Option String) : Except Complaint Mode :=
  orComplain (Mode.ofName (w.modeName mode?))

/-- The configuration of a build: what the command line does not say comes from the project. A
relative directory stands in the project. -/
def config (w : Workspace) (options : CompileOptions) : Except Complaint BuildConfig := do
  let mode ← w.mode options.mode?
  let project := BuildConfig.ofProject w.project
  let jobs ← match options.jobs? with
    | some 0 => throw { message := "--jobs must be at least 1" }
    | some jobs => pure jobs
    | none => pure project.jobs
  let buildDir :=
    match options.buildDir? with
    | some dir => if dir.isAbsolute then dir else w.project.root.join dir
    | none => project.buildDir
  return { buildDir, jobs, mode }

end Workspace

end Buildwright.CommandLine
