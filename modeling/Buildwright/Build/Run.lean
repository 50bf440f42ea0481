import Buildwright.Build.Crew
import Buildwright.Project
import Buildwright.Tool.Job

/-!
# Builds

Building a plan: targets are handed to a crew when they become ready, until all that were handed
over are done. A failure does not stop the build; it only skips the targets that depend on the one
that failed. The crew and the compiler are parameters, so that a build can be run with programs of
the host as well as with anything else that answers jobs.
-/

namespace Buildwright

/-- What a build is done with: something that does jobs, and a clock in nanoseconds. -/
structure Workshop (m : Type → Type) where
  build : Job → m ToolResult
  now : m Nat

/-- Where to build, how to compile, and how many targets may be built at once. -/
structure BuildConfig where
  buildDir : Path := Manifest.defaultBuildDir
  jobs : Nat := Manifest.defaultJobs
  mode : Mode := .standard
  deriving DecidableEq, Repr, Inhabited

/-- The configuration that a project asks for, with the mode left open. -/
def BuildConfig.ofProject (p : Project) : BuildConfig where
  buildDir := p.buildDir
  jobs := p.manifest.jobs

namespace Build

variable {m : Type → Type} [Monad m]

/-- Builds a target. A target without an artifact is built without asking anyone. -/
def buildTarget (workshop : Workshop m) (g : Graph) (config : BuildConfig) (t : Target) :
    m ToolResult :=
  if t.hasArtifact then
    match Job.ofTarget g config.mode config.buildDir t with
    | .ok job => workshop.build job
    | .error e => pure (.neverRan e.message "")
  else pure (.succeeded "")

/-- Builds the target with a given name and takes the time. -/
def attempt (workshop : Workshop m) (g : Graph) (config : BuildConfig) (name : String) :
    m Completion := do
  let started ← workshop.now
  let result ←
    match g.find name with
    | .ok t => buildTarget workshop g config t
    | .error e => pure (.neverRan e.message "")
  let ended ← workshop.now
  return { name, result, duration := ended - started }

/-- The rest of a build: what is ready is handed to the crew, and with each target that is done
more may become ready. At most `rounds` targets are waited for. -/
def run (crew : Crew m) : (rounds : Nat) → (ready : List String) → Progress → m Progress
  | 0, _, p => pure p
  | rounds + 1, ready, p => do
    ready.forM crew.hand
    match ← crew.next? with
    | none => pure p
    | some done =>
      let (ready, p) := (p.complete done).takeReady
      run crew rounds ready p

/-- Builds a plan. Every planned target must be declared, and the crew has to come together, or
nothing is built at all. Nobody is needed for a plan without targets. -/
def ofPlan (crew : Crew m) (now : m Nat) (g : Graph) (plan : Plan) :
    m (Except BuildError BuildReport) := do
  match Progress.ofPlan g plan with
  | .error e => return .error e
  | .ok p => do
    let started ← now
    if plan.names = [] then
      let ended ← now
      return .ok (p.report (ended - started))
    else
      match ← crew.assemble with
      | .error fault => return .error (.workerPool fault.message)
      | .ok () => do
        let (ready, p) := p.takeReady
        let p ← run crew plan.names.length ready p
        let ended ← now
        return .ok (p.report (ended - started))

/-- Builds a plan with a single worker. -/
def inTurn (workshop : Workshop m) (g : Graph) (config : BuildConfig) (plan : Plan) :
    m (Except BuildError BuildReport) :=
  StateT.run' (ofPlan (.single (attempt workshop g config)) workshop.now g plan) []

/-- How many programs are started at most to build a plan: each source is compiled, and the artifact
is made of what comes of that. -/
def programCount (g : Graph) (plan : Plan) : Nat :=
  (plan.names.filterMap g.get?).foldl (fun n t => n + t.sources.length + 1) 0

/-- Builds a plan on a host, as many targets at once as are allowed. -/
def onHost (workshop : Workshop Procedure) (g : Graph) (config : BuildConfig) (plan : Plan) :
    Procedure (Except BuildError BuildReport) :=
  let crew := .workers config.jobs (programCount g plan) (attempt workshop g config)
  StateT.run' (ofPlan crew workshop.now g plan) {}

end Build

end Buildwright
