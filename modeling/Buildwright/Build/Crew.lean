import Buildwright.Build.Progress
import Buildwright.Host.Procedure

/-!
# Crews

Who builds targets: a crew is handed targets, in whatever order they become ready, and tells one
after another what became of them. Nothing is said about the order in which they are done. A crew
may also fail to come together, and then it is handed nothing. Two crews are given: a single worker,
and some workers beside each other on one host.
-/

namespace Buildwright

/-- Those who build targets. -/
structure Crew (m : Type → Type) where
  /-- Comes together before anything is handed to it, or tells why it cannot. -/
  assemble : m (Except HostFault Unit)
  /-- Hands a target to the crew. -/
  hand : (name : String) → m Unit
  /-- Waits for a target to be done, if there is one that was handed to the crew and is not. -/
  next? : m (Option Completion)

namespace Crew

/-- A single worker, who takes the targets in the order in which they come. -/
def single {m : Type → Type} [Monad m] (attempt : String → m Completion) :
    Crew (StateT (List String) m) where
  assemble := return .ok ()
  hand name := modify (· ++ [name])
  next? := do
    match ← get with
    | [] => return none
    | name :: names =>
      set names
      return some (← attempt name)

/-! ### Workers beside each other -/

/-- What some workers have before them. -/
structure Benches where
  /-- The targets that nobody has taken yet. -/
  waiting : List String := []
  /-- The programs that workers wait for, and how they go on then. -/
  underway : List (Nat × (Finished → Procedure Completion)) := []
  /-- What became of the targets of which nobody was told yet. -/
  done : List Completion := []

/-- A step of some workers. -/
abbrev Works := StateT Benches Procedure

namespace Works

/-- A worker goes on until the target is done or a program is to be waited for. -/
def goOn (p : Procedure Completion) : Works Unit := do
  match ← (p.advance : Procedure _) with
  | .ended c => modify fun b => { b with done := b.done ++ [c] }
  | .waiting program next =>
    modify fun b => { b with underway := b.underway ++ [(program, next)] }

/-- Lets workers who have nothing to do take targets. -/
def takeUp (jobs : Nat) (attempt : String → Procedure Completion) : List String → Works Unit
  | [] => modify fun b => { b with waiting := [] }
  | name :: names => do
    if (← get).underway.length < jobs then
      goOn (attempt name)
      takeUp jobs attempt names
    else modify fun b => { b with waiting := name :: names }

/-- Waits for a target to be done, for which at most so many programs have to end. -/
def next? (jobs : Nat) (attempt : String → Procedure Completion) :
    (rounds : Nat) → Works (Option Completion)
  | 0 => return none
  | rounds + 1 => do
    takeUp jobs attempt (← get).waiting
    match (← get).done with
    | c :: done =>
      modify fun b => { b with done }
      return some c
    | [] =>
      match ← (Procedure.await .pure : Procedure _) with
      | none => return none
      | some (program, finished) =>
        let b ← get
        set { b with underway := b.underway.filter (·.1 ≠ program) }
        if let some next := b.underway.lookup program then goOn (next finished)
        next? jobs attempt rounds

end Works

/-- Workers beside each other, each of whom builds one target at a time. The host has to provide
them. For all targets together at most so many programs are started. -/
def workers (jobs programs : Nat) (attempt : String → Procedure Completion) : Crew Works where
  assemble := (Procedure.employ (max 1 jobs) .pure : Procedure _)
  hand name := modify fun b => { b with waiting := b.waiting ++ [name] }
  next? := Works.next? (max 1 jobs) attempt (programs + 1)

end Crew

end Buildwright
