import Buildwright.Graph.Walk

/-!
# Plans

The order in which targets are built: each target once, after everything it depends on. A plan can
also be cut into waves, so that the targets of a wave depend only on targets of earlier ones.
-/

namespace Buildwright

/-- Targets in the order in which they are to be built. -/
structure Plan where
  names : List String := []
  deriving DecidableEq, Repr, Inhabited

namespace Plan

/-- Whether a target is planned. -/
def contains (p : Plan) (name : String) : Bool := p.names.contains name

/-- The position of a target in a plan. -/
def position? (p : Plan) (name : String) : Option Nat := p.names.findIdx? (· = name)

end Plan

namespace Graph

/-- Plans the targets with the given names and everything they depend on. -/
def plan (g : Graph) (names : List String) : Except BuildError Plan :=
  (g.closure names).map Plan.mk

/-- Plans every target. -/
def planAll (g : Graph) : Except BuildError Plan := g.plan g.names

/-- Plans some targets, or every target if none is named. -/
def planFor (g : Graph) (names : List String) : Except BuildError Plan :=
  if names = [] then g.planAll else g.plan names

/-- Checks that no target depends on itself, directly or through others. -/
def checkAcyclic (g : Graph) : Except BuildError Unit := g.planAll.map fun _ => ()

end Graph

/-! ### Waves -/

/-- A plan under division into waves. -/
structure Waves where
  /-- In which wave a target is. -/
  levels : Std.TreeMap String Nat := ∅
  /-- The targets of each wave, latest first. -/
  waves : Array (List String) := #[]

namespace Waves

/-- The wave after those of the given dependencies; one without a wave does not count. -/
def levelAfter (w : Waves) (deps : List String) : Nat :=
  ((deps.filterMap fun dep => w.levels[dep]?).map (· + 1)).foldl max 0

/-- Puts a target into the wave after those of its dependencies. -/
def add (g : Graph) (w : Waves) (name : String) : Except BuildError Waves := do
  let target ← g.find name
  let level := w.levelAfter target.deps
  return {
    levels := w.levels.insert name level
    waves :=
      if level < w.waves.size then w.waves.modify level (name :: ·)
      else (w.waves ++ Array.replicate (level - w.waves.size) []).push [name] }

/-- The targets of each wave in the order in which they came. -/
def toLists (w : Waves) : List (List String) := w.waves.toList.map List.reverse

end Waves

/-- Cuts a plan into waves: a target is in the wave after the last of its dependencies, and the
targets of a wave keep their order. -/
def Graph.waves (g : Graph) (p : Plan) : Except BuildError (List (List String)) :=
  (p.names.foldlM (Waves.add g) {}).map Waves.toLists

end Buildwright
