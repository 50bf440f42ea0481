import Buildwright.BuildError

/-!
# Compile modes

A compile mode stands for the flags of every compilation and every link. The modes `opt` and
`release` have the same flags; the latter is there for those who ask for it by that name.
-/

namespace Buildwright

/-- How targets are compiled. -/
inductive Mode where
  | debug
  | opt
  | release
  deriving DecidableEq, Repr, Inhabited

namespace Mode

/-- Every mode. -/
def all : List Mode := [.debug, .opt, .release]

/-- The mode that holds unless another is asked for. -/
def standard : Mode := .opt

/-- The name of a mode. -/
def name : Mode → String
  | debug => "debug"
  | opt => "opt"
  | release => "release"

/-- Whether the compiler optimises in a mode. -/
def isOptimized : Mode → Bool
  | debug => false
  | opt | release => true

/-- The mode with a given name. -/
def ofName (word : String) : Except BuildError Mode :=
  match all.find? fun mode => mode.name = word with
  | some mode => .ok mode
  | none => .error (.unknownMode word)

/-- A mode is found under its own name. -/
@[simp]
theorem ofName_name (mode : Mode) : ofName mode.name = .ok mode := by cases mode <;> rfl

/-! ### Flags -/

/-- The flags of every mode. -/
def baseFlags : List String := [
  "--std=c++14",
  "-Wall",
  "-Wextra",
  "-Wno-sign-compare",
  "-fno-omit-frame-pointer",
  "-Wnon-virtual-dtor",
  "-mpopcnt",
  "-msse4.2",
  "-g3",
  "-Woverloaded-virtual",
  "-Wno-char-subscripts",
  "-Werror=deprecated-declarations",
  "-Wa,--compress-debug-sections",
  "-fdiagnostics-color=always",
  "-Werror"]

/-- The further flags of the modes that optimise. Warnings that only assertions prevent are
turned off, since those modes compile without assertions. -/
def optimizedFlags : List String := [
  "-O3",
  "-Wno-unused-function",
  "-Wno-unused-parameter",
  "-Wno-unused-local-typedefs",
  "-Wno-unused-variable"]

/-- The flags of a mode in the order of the command line. -/
def flags (mode : Mode) : List String :=
  baseFlags ++ if mode.isOptimized then optimizedFlags else ["-O0"]

/-- The flags of a mode as they are shown. -/
def flagText (mode : Mode) : String := " ".intercalate mode.flags

end Mode

end Buildwright
