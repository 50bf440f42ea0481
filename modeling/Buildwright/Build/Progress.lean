import Buildwright.Build.Report
import Buildwright.Counting
import Buildwright.Graph.Plan
import Buildwright.Tool.Result
import Std.Data.TreeSet

/-!
# Progress of a build

The state of a build between two events. Each planned target counts the dependencies that are still
to succeed. A target becomes ready when its count reaches zero, and it is skipped when one of its
dependencies fails or is skipped. Nothing here starts a tool: `takeReady` tells what may be
started, `complete` records what became of it.
-/

namespace Buildwright

/-- What became of a target that was started. -/
structure Completion where
  name : String
  result : ToolResult
  duration : Duration := 0

/-- The state of a build. -/
structure Progress where
  /-- The planned targets in their order. -/
  targets : List Target
  /-- The status of each planned target. -/
  status : Std.TreeMap String Status
  /-- How many dependencies of each target are still to succeed, repeats counted. -/
  remaining : Std.TreeMap String Nat
  /-- The targets that depend on each target, in the order of the plan, repeats counted. -/
  dependents : Std.TreeMap String (List String)
  /-- What the tools printed for each finished target, and how long that took. -/
  logs : Std.TreeMap String (String × Duration) := ∅
  failures : List Failure := []
  /-- The targets that may be started, in the order in which they became ready. -/
  ready : List String := []
  /-- Only planned targets have a status. -/
  planned : ∀ name, status.contains name = true → name ∈ targets.map (·.name)

namespace Progress

/-! ### Beginning -/

/-- The dependencies of a target that are planned. -/
def plannedDeps (names : Std.TreeSet String) (t : Target) : List String :=
  t.deps.filter names.contains

/-- Each target under the names of its dependencies. -/
def dependentsOf (names : Std.TreeSet String) (targets : List Target) :
    Std.TreeMap String (List String) :=
  targets.foldr (fun t found =>
    (plannedDeps names t).foldr (fun dep found =>
      found.insert dep (t.name :: found[dep]?.getD [])) found) ∅

/-- Every target is pending. -/
def allPending (targets : List Target) : Std.TreeMap String Status :=
  targets.foldl (fun found t => found.insert t.name .pending) ∅

theorem contains_allPending {targets : List Target} {name : String} :
    (allPending targets).contains name = true ↔ name ∈ targets.map (·.name) := by
  have general : ∀ (ts : List Target) (found : Std.TreeMap String Status),
      (ts.foldl (fun found t => found.insert t.name .pending) found).contains name = true ↔
        found.contains name = true ∨ name ∈ ts.map (·.name) := by
    intro ts
    induction ts with
    | nil => simp
    | cons t ts ih =>
      intro found
      rw [List.foldl_cons, ih, Std.TreeMap.contains_insert, List.map_cons, List.mem_cons]
      simp only [Bool.or_eq_true, beq_iff_eq, Std.compare_eq_iff_eq]
      rw [@eq_comm _ name]
      grind
  simpa [allPending] using general targets ∅

/-- The build of some targets before anything is started. -/
def ofTargets (targets : List Target) : Progress :=
  let names : Std.TreeSet String := Std.TreeSet.ofList (targets.map (·.name))
  { targets
    status := allPending targets
    remaining := targets.foldl (fun found t => found.insert t.name (plannedDeps names t).length) ∅
    dependents := dependentsOf names targets
    ready := (targets.filter fun t => plannedDeps names t = []).map (·.name)
    planned := fun _ h => contains_allPending.1 h }

/-- The build of a plan before anything is started. Every planned target must be declared. -/
def ofPlan (g : Graph) (p : Plan) : Except BuildError Progress :=
  (p.names.mapM g.find).map ofTargets

/-! ### Changing the status -/

/-- Sets the status of a planned target. -/
def setStatus (p : Progress) (name : String) (status : Status) : Progress :=
  if known : p.status.contains name = true then
    { p with
      status := p.status.insert name status
      planned := fun other h => by
        rw [Std.TreeMap.contains_insert, Bool.or_eq_true, beq_iff_eq, Std.compare_eq_iff_eq] at h
        rcases h with rfl | h
        · exact p.planned _ known
        · exact p.planned _ h }
  else p

/-- The status of a target. -/
def status? (p : Progress) (name : String) : Option Status := p.status[name]?

/-- Takes the targets that are ready; they are being built from now on. -/
def takeReady (p : Progress) : List String × Progress :=
  (p.ready, p.ready.foldl (fun p name => p.setStatus name .building) { p with ready := [] })

/-! ### Success -/

/-- Records for one dependent that one of its dependencies succeeded. -/
def release (p : Progress) (dependent : String) : Progress :=
  match p.remaining[dependent]? with
  | none => p
  | some count =>
    let p := { p with remaining := p.remaining.insert dependent (count - 1) }
    if count - 1 = 0 ∧ p.status? dependent = some .pending then
      { p with ready := p.ready ++ [dependent] }
    else p

/-- The targets that depend on a target, in the order of the plan. -/
def dependentsOn (p : Progress) (name : String) : List String := p.dependents[name]?.getD []

/-- Records that a target succeeded. -/
def succeed (p : Progress) (name : String) : Progress :=
  (p.dependentsOn name).foldl release (p.setStatus name .succeeded)

/-! ### Failure -/

/-- The reason for which a target fails that depends on one that failed. -/
def skipReason (dependency : String) : String := "dependency '" ++ dependency ++ "' failed"

/-- Skips one dependent of a target unless it is settled; `skipped` holds those skipped before. -/
def skipOne (dependency : String) : Progress × List String → String → Progress × List String
  | (p, skipped), dependent =>
    if p.status? dependent = some .pending then
      ({ p.setStatus dependent (.skipped dependency) with
          failures := p.failures ++ [.build dependent (skipReason dependency)] },
        skipped ++ [dependent])
    else (p, skipped)

/-- Skips the dependents of a target that are pending, and tells which these are. -/
def skipDirect (p : Progress) (dependency : String) : Progress × List String :=
  (p.dependentsOn dependency).foldl (skipOne dependency) (p, [])

/-- How many planned targets are pending. -/
def pendingCount (p : Progress) : Nat :=
  p.targets.countP fun t => p.status? t.name = some .pending

theorem pendingCount_skipOne (dependency : String) (s : Progress × List String)
    (dependent : String) :
    (skipOne dependency s dependent).1.pendingCount + (skipOne dependency s dependent).2.length ≤
      s.1.pendingCount + s.2.length := by
  obtain ⟨p, skipped⟩ := s
  simp only [skipOne]
  split
  · next pending =>
    have known : p.status.contains dependent = true := by
      rw [Std.TreeMap.contains_eq_isSome_getElem?]
      simp only [status?] at pending
      rw [pending]; rfl
    obtain ⟨t, member, named⟩ := List.mem_map.1 (p.planned _ known)
    have fewer : (p.setStatus dependent (.skipped dependency)).pendingCount < p.pendingCount := by
      simp only [pendingCount, setStatus, known, dite_true, status?]
      refine countP_lt_countP (fun u _ h => ?_) member ?_ ?_
      · simp only [Std.TreeMap.getElem?_insert] at h
        split at h <;> simp_all
      · simpa [named, status?] using pending
      · simp [named]
    show (p.setStatus dependent (.skipped dependency)).pendingCount + _ ≤ _
    rw [List.length_append, List.length_singleton]
    omega
  · exact Nat.le_refl _

theorem pendingCount_skipDirect (p : Progress) (dependency : String) :
    (p.skipDirect dependency).1.pendingCount + (p.skipDirect dependency).2.length ≤
      p.pendingCount := by
  have general : ∀ (names : List String) (s : Progress × List String),
      (names.foldl (skipOne dependency) s).1.pendingCount +
        (names.foldl (skipOne dependency) s).2.length ≤ s.1.pendingCount + s.2.length := by
    intro names
    induction names with
    | nil => simp
    | cons name names ih =>
      exact fun s => Nat.le_trans (ih _) (pendingCount_skipOne _ _ _)
  simpa [skipDirect] using general (p.dependentsOn dependency) (p, [])

/-- Skips all pending targets that depend on those in a queue, directly or through others, nearest
first. -/
def skipFrom (p : Progress) : (queue : List String) → Progress
  | [] => p
  | name :: queue =>
    let next := p.skipDirect name
    skipFrom next.1 (queue ++ next.2)
  termination_by queue => 2 * p.pendingCount + queue.length
  decreasing_by
    have := pendingCount_skipDirect p name
    simp only [List.length_append, List.length_cons]
    omega

/-- Records that a target failed. -/
def fail (p : Progress) (name reason : String) : Progress :=
  let p := p.setStatus name (.failed reason)
  skipFrom { p with failures := p.failures ++ [.build name reason] } [name]

/-! ### Completion -/

/-- Records what became of a target. -/
def complete (p : Progress) (done : Completion) : Progress :=
  let p := if done.result.success then p.succeed done.name else p.fail done.name done.result.reason
  { p with logs := p.logs.insert done.name (done.result.log, done.duration) }

/-- What became of the build, which took some time. -/
def report (p : Progress) (duration : Duration) : BuildReport where
  outcomes := p.targets.map fun t =>
    let (log, duration) := p.logs[t.name]?.getD ("", 0)
    { name := t.name, kind := t.kind, status := (p.status? t.name).getD .pending, log, duration }
  failures := p.failures
  duration

end Progress

end Buildwright
