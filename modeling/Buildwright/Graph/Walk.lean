import Buildwright.Counting
import Buildwright.Graph.Basic

/-!
# Walks

A depth-first walk through a graph, from a target to the targets on which it depends, in the order
in which it lists them. A target is finished after all of its dependencies, so that the finished
targets are in an order in which they can be built. The walk keeps its own stack of open targets; a
dependency on an open target closes a circle, and the stack shows it.

The walk ends because every step either opens a target that was not seen before or takes something
from the stack (`Walk.run`).
-/

namespace Buildwright

/-- How far the walk is with a target that it has seen. -/
inductive Mark where
  /-- Its dependencies are being visited. -/
  | opened
  /-- It and everything it depends on has been visited. -/
  | finished
  deriving DecidableEq, Repr

/-- An open target with the dependencies that are still to be looked at. -/
structure Frame where
  target : Target
  rest : List String

/-- The state of a walk. -/
structure Walk where
  marks : Std.TreeMap String Mark := ∅
  /-- The open targets, innermost first. -/
  stack : List Frame := []
  /-- The finished targets, latest first. -/
  finished : List String := []

namespace Walk

/-! ### Steps -/

/-- Opens a target. -/
def push (w : Walk) (t : Target) : Walk :=
  { w with marks := w.marks.insert t.name .opened, stack := ⟨t, t.deps⟩ :: w.stack }

/-- Finishes a target. -/
def finish (w : Walk) (name : String) : Walk :=
  { w with marks := w.marks.insert name .finished, finished := name :: w.finished }

/-- The circle that a dependency on an open target closes: from that target down the stack, and
back to it. -/
def circle (stack : List Frame) (repeated : String) : List String :=
  (stack.reverse.map (·.target.name)).dropWhile (· ≠ repeated) ++ [repeated]

/-! ### Running -/

/-- How many targets have not been seen. -/
def unseen (g : Graph) (marks : Std.TreeMap String Mark) : Nat :=
  g.targets.toList.countP fun t => !marks.contains t.name

/-- How much there is left to do on the stack. -/
def pending (stack : List Frame) : Nat :=
  stack.foldr (fun frame steps => frame.rest.length + 1 + steps) 0

theorem unseen_insert_le (g : Graph) (marks : Std.TreeMap String Mark) (name : String)
    (mark : Mark) : unseen g (marks.insert name mark) ≤ unseen g marks := by
  refine List.countP_mono_left fun t _ h => ?_
  simp_all [Std.TreeMap.contains_insert]

/-- Seeing a target for the first time leaves fewer that have not been seen. -/
theorem unseen_insert_lt {g : Graph} {marks : Std.TreeMap String Mark} {t : Target} {name : String}
    (declared : g.get? name = some t) (fresh : marks[name]? = none) (mark : Mark) :
    unseen g (marks.insert t.name mark) < unseen g marks := by
  obtain ⟨member, rfl⟩ := Catalog.get?_eq_some_iff.1 declared
  refine countP_lt_countP (fun u _ h => ?_) (Array.mem_toList_iff.2 member) ?_ ?_
  · simp_all [Std.TreeMap.contains_insert]
  · rw [Std.TreeMap.contains_eq_isSome_getElem?, fresh]; rfl
  · simp

/-- Goes on until no target is open. -/
def run (g : Graph) (w : Walk) : Except BuildError Walk :=
  match _stack : w.stack with
  | [] => .ok w
  | ⟨t, []⟩ :: frames => run g ({ w with stack := frames }.finish t.name)
  | ⟨t, dep :: rest⟩ :: frames =>
    match _mark : w.marks[dep]? with
    | some .finished => run g { w with stack := ⟨t, rest⟩ :: frames }
    | some .opened => .error (.cycle (circle w.stack dep))
    | none =>
      match _found : g.get? dep with
      | none => .error (.unknownTarget dep none)
      | some next => run g ({ w with stack := ⟨t, rest⟩ :: frames }.push next)
  termination_by (unseen g w.marks, pending w.stack)
  decreasing_by
    · have := unseen_insert_le g w.marks t.name .finished
      simp only [finish, _stack, pending, List.foldr_cons, List.length_nil]
      rcases Nat.lt_or_eq_of_le this with less | same
      · exact Prod.Lex.left _ _ less
      · rw [same]; exact Prod.Lex.right _ (by omega)
    · simp only [_stack, pending, List.foldr_cons, List.length_cons]
      exact Prod.Lex.right _ (by omega)
    · exact Prod.Lex.left _ _ (unseen_insert_lt _found _mark .opened)

/-- Visits a target and everything it depends on, unless it has been seen. -/
def visit (g : Graph) (w : Walk) (name : String) : Except BuildError Walk :=
  if w.marks.contains name then .ok w
  else do run g (w.push (← g.find name))

/-- Visits targets one after another. -/
def visitAll (g : Graph) (names : List String) : Except BuildError Walk :=
  names.foldlM (visit g) {}

end Walk

/-- The targets with the given names and everything they depend on, each after its dependencies. -/
def Graph.closure (g : Graph) (names : List String) : Except BuildError (List String) :=
  (Walk.visitAll g names).map fun w => w.finished.reverse

end Buildwright
