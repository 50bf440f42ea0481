import Buildwright.Host.Fault
import Buildwright.Manifest.Schema
import Buildwright.Text.Parts
import Buildwright.Toml.Document

/-!
# The rules of a manifest

What must hold of a manifest beyond its form, and all that can be wrong with one. Only what the
manifest itself shows is checked here; names and dependencies of targets are for the graph.
-/

namespace Buildwright

/-- What is wrong with a manifest. -/
inductive ManifestError where
  | notFound (path : Path)
  | unreadable (cause : HostFault)
  /-- The text is no TOML, or data of another form. -/
  | malformed (file : Path) (mismatch? : Option Mismatch)
  | invalidValue (field reason : String)
  | invalidVersion (version : String)

/-- The text of an error. -/
def ManifestError.message : ManifestError → String
  | notFound path => "Configuration file not found: " ++ path.text
  | unreadable cause => "Failed to read configuration file: " ++ cause.message
  | malformed file mismatch? =>
    "Invalid TOML syntax in " ++ file.text ++ ": TOML parse error at document level" ++
      ((mismatch?.map fun m => "\n" ++ m.message ++ "\n").getD "\n")
  | invalidValue field reason => "Invalid value for '" ++ field ++ "': " ++ reason
  | invalidVersion version => "Invalid semver version: " ++ version

/-- A rule that a manifest breaks. -/
inductive Violation where
  | emptyPackageName
  | malformedVersion (version : String)
  | noJobs
  /-- A lint filter neither adds nor removes a category. -/
  | unsignedFilter (filter : String)
  | repeatedFilter (filter : String)
  deriving DecidableEq, Repr

/-- A broken rule as an error. -/
def Violation.toError : Violation → ManifestError
  | emptyPackageName => .invalidValue "package.name" "name cannot be empty"
  | malformedVersion version => .invalidVersion version
  | noJobs => .invalidValue "build.jobs" "must be at least 1"
  | unsignedFilter filter =>
    .invalidValue "toolchain.lint_filters" ("filter '" ++ filter ++ "' must start with '+' or '-'")
  | repeatedFilter filter =>
    .invalidValue "toolchain.lint_filters" ("filter '" ++ filter ++ "' listed twice")

/-! ### Versions -/

/-- Whether a text is a version: two or three numbers separated by dots, and perhaps a suffix that
begins with `-` or `+`. -/
def isVersion (version : String) : Bool :=
  let numbers := Text.split '.' (version.toList.takeWhile fun c => c ≠ '-' && c ≠ '+')
  (numbers.length = 2 || numbers.length = 3) &&
    numbers.all fun number => number ≠ [] && number.all Char.isDigit

/-! ### Lint filters -/

/-- Whether a lint filter adds or removes a category. -/
def isSigned (filter : String) : Bool :=
  filter.toList.head? = some '-' || filter.toList.head? = some '+'

/-- The first lint filter that is unsigned or repeats one before it; those in `before` passed. -/
def filterViolation? (before : List String) : List String → Option Violation
  | [] => none
  | filter :: filters =>
    if !isSigned filter then some (.unsignedFilter filter)
    else if filter ∈ before then some (.repeatedFilter filter)
    else filterViolation? (filter :: before) filters

/-! ### Manifests -/

namespace Manifest

/-- The first rule that a package breaks. -/
def packageViolation? (p : Package) : Option Violation :=
  if p.name = "" then some .emptyPackageName
  else if !isVersion p.version then some (.malformedVersion p.version)
  else none

/-- The first rule that a manifest breaks: on the package, the number of jobs and the lint filters,
in this order. -/
def violation? (m : Manifest) : Option Violation :=
  (m.package?.bind packageViolation?).or <|
    (if m.build.jobs? = some 0 then some .noJobs else none).or <|
      filterViolation? [] m.tools.lintFilters

/-- The manifest in a text; `file` is named in errors. -/
def ofText (text : String) (file : Path) : Except ManifestError Manifest :=
  match Toml.read? text with
  | none => .error (.malformed file none)
  | some data =>
    match ofData data with
    | .error mismatch => .error (.malformed file (some mismatch))
    | .ok manifest =>
      match manifest.violation? with
      | some violation => .error violation.toError
      | none => .ok manifest

end Manifest

end Buildwright
