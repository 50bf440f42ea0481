import Buildwright.CommandLine.Grammar
import Buildwright.Project

/-!
# Invocations

What the user asks for: one of the commands with its settings, or a text about the program. The
variable `KEEL_JSON` stands in for the flag `--json` where that is not given.
-/

namespace Buildwright.CommandLine

/-- A command of the program. -/
inductive Verb where
  | build
  | test
  | lint
  | plan
  | env
  | completions
  deriving DecidableEq, Repr

namespace Verb

/-- Every command. -/
def all : List Verb := [.build, .test, .lint, .plan, .env, .completions]

/-- The name of a command. -/
def name : Verb → String
  | build => "build"
  | test => "test"
  | lint => "lint"
  | plan => "plan"
  | env => "env"
  | completions => "completions"

/-- A shorter name of a command. -/
def alias? : Verb → Option String
  | build => some "b"
  | test => some "t"
  | _ => none

/-- The command with a given name. -/
def ofName? (word : String) : Option Verb :=
  all.find? fun verb => verb.name = word || verb.alias? = some word

/-- What a command is for. -/
def purpose : Verb → String
  | build => "Build targets and their dependencies"
  | test => "Build and run test targets"
  | lint => "Run the style checker"
  | plan => "Print the build order"
  | env => "Print the resolved compile and link environment of a target"
  | completions => "Generate shell completion scripts"

end Verb

/-! ### Settings -/

/-- The settings of commands that compile. -/
structure CompileOptions where
  jobs? : Option Nat := none
  mode? : Option String := none
  buildDir? : Option Path := none
  deriving DecidableEq, Repr, Inhabited

/-- What is asked for. -/
inductive Invocation where
  | build (targets : List String) (manifest? : Option Path) (options : CompileOptions)
      (verbose json : Bool)
  | test (targets : List String) (manifest? : Option Path) (options : CompileOptions)
      (verbose json : Bool)
  | lint (files : List String) (all : Bool) (manifest? : Option Path) (verbose json : Bool)
  | plan (targets : List String) (waves : Bool) (manifest? : Option Path) (json : Bool)
  | env (target : String) (mode? : Option String) (manifest? : Option Path) (json : Bool)
  | completions (shell : String)
  /-- A text on the program, or on one of its commands. -/
  | help (verb? : Option Verb)
  | version (verb? : Option Verb)
  deriving DecidableEq, Repr

/-! ### Grammars -/

/-- An option with a path, which may not be empty. -/
def pathOption (long : String) : OptionForm := { long, accepts? := some fun value => value ≠ "" }

/-- The option that names a manifest. -/
def manifestOption : OptionForm := pathOption "manifest-path"

/-- The option that names a compile mode. -/
def modeOption : OptionForm :=
  { long := "mode", short? := some 'm', accepts? := some fun _ => true }

/-- The option for the number of jobs. -/
def jobsOption : OptionForm :=
  { long := "jobs", short? := some 'j', accepts? := some fun value => (count? value.toList).isSome }

/-- The flag for longer texts. -/
def verboseFlag : OptionForm := { long := "verbose", short? := some 'v' }

/-- The flag for JSON. -/
def jsonFlag : OptionForm := { long := "json" }

/-- The shells for which completions can be generated. -/
def shells : List String := ["bash", "elvish", "fish", "powershell", "zsh"]

/-- The form of the command line of a command. -/
def Verb.grammar : Verb → Grammar
  | .build | .test =>
    { options := [manifestOption, jobsOption, modeOption, pathOption "build-dir", verboseFlag,
        jsonFlag] }
  | .lint => { options := [{ long := "all" }, manifestOption, verboseFlag, jsonFlag] }
  | .plan => { options := [{ long := "groups" }, manifestOption, jsonFlag] }
  | .env => { options := [modeOption, manifestOption, jsonFlag], greatestPlain? := some 1 }
  | .completions => { greatestPlain? := some 1, acceptsPlain := shells.contains }

/-! ### Reading -/

/-- The words for no. -/
def negatives : List String := ["n", "no", "f", "false", "off", "0"]

/-- Whether JSON is asked for, by the flag or by the variable. A variable that is no text is a
fault. -/
def wantsJson (env : Environment) (m : Matches) : Option Bool :=
  if m.hasFlag "json" then some true
  else match env.bytes? "KEEL_JSON" with
    | none => some false
    | some bytes => (Text.text? bytes).map fun value =>
      value ≠ "" && !negatives.contains (value.map Char.toLower)

/-- The manifest that was named. -/
def Matches.manifest? (m : Matches) : Option Path := (m.value? "manifest-path").map Path.mk

/-- The settings of a command that compiles. -/
def Matches.compileOptions (m : Matches) : CompileOptions where
  jobs? := (m.value? "jobs").bind fun value => count? value.toList
  mode? := m.value? "mode"
  buildDir? := (m.value? "build-dir").map Path.mk

/-- The invocation of a command. A command that lacks an argument, or has two that exclude each
other, is a fault. -/
def Verb.invocation? (verb : Verb) (env : Environment) (m : Matches) : Option Invocation := do
  let verbose := m.hasFlag "verbose"
  match verb with
  | .build => return .build m.plain m.manifest? m.compileOptions verbose (← wantsJson env m)
  | .test => return .test m.plain m.manifest? m.compileOptions verbose (← wantsJson env m)
  | .lint =>
    if m.hasFlag "all" && m.plain ≠ [] then none
    return .lint m.plain (m.hasFlag "all") m.manifest? verbose (← wantsJson env m)
  | .plan => return .plan m.plain (m.hasFlag "groups") m.manifest? (← wantsJson env m)
  | .env => return .env (← m.plain.head?) (m.value? "mode") m.manifest? (← wantsJson env m)
  | .completions => return .completions (← m.plain.head?)

/-- The invocation behind the word `help`. -/
def helpOn? : List String → Option Invocation
  | [] | ["help"] => some (.help none)
  | [word] => (Verb.ofName? word).map fun verb => .help (some verb)
  | _ => none

/-- What the arguments of the program ask for. -/
def Invocation.ofArgs? (env : Environment) : List String → Option Invocation
  | [] => none
  | "help" :: args => helpOn? args
  | arg :: args =>
    match Shape.of arg with
    | .plain => do
      let verb ← Verb.ofName? arg
      match ← verb.grammar.read args with
      | .help => return .help (some verb)
      | .version => return .version (some verb)
      | .matched found => verb.invocation? env found
    | _ =>
      match ({} : Grammar).read [arg] with
      | some .help => some (.help none)
      | some .version => some (.version none)
      | _ => none

end Buildwright.CommandLine
