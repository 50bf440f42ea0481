import Buildwright.Target.Catalog

/-!
# Graphs

A catalog that is ready to be built: every dependency is declared, and the tests depend on their
harness if there is one. The include directories of the project belong to it as well.
-/

namespace Buildwright

/-- Targets all of whose dependencies are declared. -/
structure Graph extends Catalog where
  /-- The target on which every test depends. -/
  harness? : Option String := none
  /-- Include directories for every target. -/
  includeDirs : List String := []
  /-- Every dependency is declared. -/
  closed : toCatalog.IsClosed

namespace Graph

/-- The graph of a catalog. A harness must be declared; the tests then depend on it. After that
every dependency must be declared. -/
def ofCatalog (c : Catalog) (harness? : Option String) (includeDirs : List String) :
    Except BuildError Graph := do
  let c ← match harness? with
    | some harness => (c.addHarness harness).map (·.1)
    | none => .ok c
  match dangling : c.danglingReference? with
  | some (dep, referrer) => .error (.unknownTarget dep (some referrer))
  | none =>
    .ok { c with
      harness?, includeDirs, closed := Catalog.danglingReference?_eq_none_iff.1 dangling }

/-- The names of the tests in the order of declaration. -/
def testNames (g : Graph) : List String :=
  (g.targets.toList.filter fun t => t.kind = .test).map (·.name)

end Graph

end Buildwright
