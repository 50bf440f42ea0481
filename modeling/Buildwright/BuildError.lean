import Buildwright.Manifest.Rules

/-!
# Structural errors

What keeps a build from starting. Such an error concerns the graph or the settings as a whole, in
contrast to a `Failure`, which concerns one target and leaves the others alone.
-/

namespace Buildwright

/-- Why a build cannot start. -/
inductive BuildError where
  | duplicateName (name : String)
  /-- No target has this name, which perhaps another target refers to. -/
  | unknownTarget (name : String) (referrer? : Option String)
  | missingHarness (name : String)
  /-- Targets that depend on each other in a circle; the first is repeated at the end. -/
  | cycle (path : List String)
  | unknownMode (mode : String)
  | invalidTarget (name kind reason : String)
  | manifest (cause : ManifestError)
  | host (path : Path) (fault : HostFault)
  | workerPool (reason : String)

/-- The text of an error. -/
def BuildError.message : BuildError → String
  | duplicateName name => "Target '" ++ name ++ "' is declared more than once"
  | unknownTarget name referrer? =>
    "Unknown target '" ++ name ++ "'" ++
      ((referrer?.map fun referrer => " (required by '" ++ referrer ++ "')").getD "")
  | missingHarness name => "Test harness target '" ++ name ++ "' is not declared"
  | cycle path => "Circular dependency detected: " ++ " -> ".intercalate path
  | unknownMode mode =>
    "Unknown compile mode '" ++ mode ++ "' (expected one of: debug, opt, release)"
  | invalidTarget name kind reason => "Invalid " ++ kind ++ " target '" ++ name ++ "': " ++ reason
  | manifest cause => "Configuration error: " ++ cause.message
  | host path fault => "I/O error at " ++ path.text ++ ": " ++ fault.message
  | workerPool reason => "Failed to start worker pool: " ++ reason

end Buildwright
