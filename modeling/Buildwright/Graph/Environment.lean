import Buildwright.Graph.Walk
import Buildwright.Text.Distinct

/-!
# Build environments

What a target is compiled and linked with, gathered from everything it depends on. Directories and
flags of a dependency stand before those of its dependents. Libraries stand the other way round,
since a linker resolves what an archive needs from the archives after it.
-/

namespace Buildwright

/-- What a target is compiled and linked with. -/
structure BuildEnvironment where
  includeDirs : List String := []
  linkFlags : List String := []
  /-- The libraries that have an archive, each before those it depends on. -/
  libraries : List String := []
  deriving DecidableEq, Repr, Inhabited

/-- Whether a target is a library with an archive. -/
def Target.isArchive (t : Target) : Bool := t.kind = .library && t.hasArtifact

namespace Graph

/-- The environment of the target `root`, where `members` are it and all it depends on, each after
its dependencies. -/
def environmentOf (g : Graph) (root : Target) (members : List Target) : BuildEnvironment where
  includeDirs := Text.distinct <|
    g.includeDirs ++ members.flatMap (·.globalIncludeDirs) ++ root.localIncludeDirs
  linkFlags := Text.distinct (members.flatMap (·.linkFlags))
  libraries :=
    ((members.filter fun t => t.name ≠ root.name && t.isArchive).map (·.name)).reverse

/-- The environment of the target with a given name. -/
def environment (g : Graph) (name : String) : Except BuildError BuildEnvironment := do
  let names ← g.closure [name]
  let members ← names.mapM g.find
  let root ← g.find name
  return g.environmentOf root members

/-! ### Sources to lint -/

/-- The sources of the targets that satisfy `accept`, in the order of declaration. A source of
several targets is listed where it comes first. -/
def sourcesOf (g : Graph) (accept : Target → Bool) : List String :=
  Text.distinct ((g.targets.toList.filter accept).flatMap (·.sources))

end Graph

/-- Whether the sources of a target are linted unless something else is asked for. -/
def Target.isLinted (t : Target) : Bool := !t.lintExempt

end Buildwright
