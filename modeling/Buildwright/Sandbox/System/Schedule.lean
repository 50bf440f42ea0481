import Buildwright.Sandbox.System.Answer

/-!
# Scheduling

A system goes on with the process whose clock is behind all others. So it shows what happens if each
process has a processor for itself, and always the same.
-/

namespace Buildwright.Sandbox

/-- When a process goes on, if it does by itself. -/
def Running.moment? (p : Running) : Option Moment :=
  if p.stopped then none
  else match p.activity with
    | .ready => some p.clock
    | .sleeping end_ => some end_
    | .blocked _ | .ended _ => none

/-- The process that goes on next. -/
def System.nextProcess? (s : System) : Option Nat :=
  (s.processes.foldl (fun (best? : Option (Nat × Moment)) id p =>
    match p.moment?, best? with
    | none, best? => best?
    | some moment, none => some (id, moment)
    | some moment, some best => if moment < best.2 then some (id, moment) else some best)
    none).map Prod.fst

/-- How long it takes a process to start another one. -/
def forkTime : Nat := 80000

/-- How long it takes until a process that was started does something. -/
def startTime : Nat := 150000

/-- One step of a process. -/
def step (programs : Programs) (id : Nat) : Kernel Unit := do
  let some p ← process? id | return
  let p := match p.activity with
    | .sleeping end_ =>
      { p with activity := .ready, clock := max p.clock end_, woken? := some end_ }
    | _ => p
  modify fun s => { s with now := p.clock }
  match p.next with
  | .ended ending => finish id ending
  | .fork child next =>
    let number ← modifyGet fun s => (s.nextProcess, { s with nextProcess := s.nextProcess + 1 })
    for (_, d) in p.descriptors do
      changeOpening d.opening fun o => { o with users := o.users + 1 }
    let started := { p with
      parent := id, next := child, noted := [], interrupted := false
      clock := p.clock + startTime }
    modify fun s => { s with processes := s.processes.insert number started }
    changeProcess id fun _ => { p with next := next number, clock := p.clock + forkTime }
  | .ask call next =>
    let p := { p with clock := p.clock + call.duration }
    changeProcess id fun _ => p
    match ← perform programs id p call with
    | .answer a => changeProcess id fun p => { p with next := next a }
    | .wait blocker => changeProcess id fun p => { p with activity := .blocked blocker }
    | .pause end_ => changeProcess id fun p => { p with activity := .sleeping end_ }
    | .replaced program => changeProcess id fun p => { p with next := program }
    | .gone => pure ()

/-- Ends all processes. -/
def System.halted (s : System) : System :=
  s.processes.foldl (fun s id p =>
    match p.activity with
    | .ended _ => s
    | _ => (finish id (.signalled 9) s).2) s

/-- Runs a system for at most so many steps, as long as something is to be done. If these are used
up, or if no process goes on by itself any more, all are ended. -/
def System.run (programs : Programs) (goesOn : System → Bool) : (steps : Nat) → System → System
  | 0, s => if goesOn s then s.halted else s
  | steps + 1, s =>
    if !goesOn s then s
    else match s.nextProcess? with
      | some id => System.run programs goesOn steps (step programs id s).2
      | none => s.halted

/-- More steps than anything takes that comes to an end. -/
def manySteps : Nat := 4000000

end Buildwright.Sandbox
