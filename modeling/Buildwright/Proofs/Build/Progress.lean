import Buildwright.Build.Progress
import Mathlib.Data.List.Count
import Mathlib.Data.List.Nodup

/-!
# What the events of a build change

Each event in the progress of a build, described by what it does to the status of every target, to
the counts of dependencies that are still to succeed, and to the queue of targets that may be
started. Nothing after this module looks into the maps of a `Progress`.
-/

namespace Buildwright.Progress

variable {p q : Progress} {m n : String}

/-- The names of the planned targets. -/
def names (p : Progress) : List String := p.targets.map (·.name)

/-- How many dependencies of a target are still to succeed. -/
def remaining? (p : Progress) (name : String) : Option Nat := p.remaining[name]?

/-- A target failed or was skipped. -/
def Failing (p : Progress) (name : String) : Prop :=
  ∃ s, p.status? name = some s ∧ s.isFailure = true

theorem mem_names_of_status? {s : Status} (h : p.status? n = some s) : n ∈ p.names := by
  refine p.planned n ?_
  rw [Std.TreeMap.contains_eq_isSome_getElem?, Option.isSome_iff_exists]
  exact ⟨s, h⟩

/-- `p.SameWork q`: two states of a build of the same plan, with the same counts and the same
queue. They may differ in what became of the targets. -/
structure SameWork (p q : Progress) : Prop where
  targets : p.targets = q.targets
  dependents : p.dependents = q.dependents
  remaining : p.remaining = q.remaining
  ready : p.ready = q.ready

namespace SameWork

theorem refl (p : Progress) : p.SameWork p := ⟨rfl, rfl, rfl, rfl⟩

theorem trans {r : Progress} (h : p.SameWork q) (h' : q.SameWork r) : p.SameWork r :=
  ⟨h.targets.trans h'.targets, h.dependents.trans h'.dependents, h.remaining.trans h'.remaining,
    h.ready.trans h'.ready⟩

theorem dependentsOn (h : p.SameWork q) (n : String) : p.dependentsOn n = q.dependentsOn n := by
  rw [Progress.dependentsOn, h.dependents]
  rfl

theorem remaining? (h : p.SameWork q) (n : String) : p.remaining? n = q.remaining? n := by
  rw [Progress.remaining?, h.remaining]
  rfl

end SameWork

/-! ### Setting a status -/

theorem sameWork_setStatus (p : Progress) (n : String) (s : Status) :
    (p.setStatus n s).SameWork p := by
  unfold setStatus
  split <;> exact ⟨rfl, rfl, rfl, rfl⟩

/-- Only planned targets have a status that can be set. -/
theorem status?_setStatus (p : Progress) (n m : String) (s : Status) :
    (p.setStatus n s).status? m =
      if n = m then (p.status? m).map fun _ => s else p.status? m := by
  unfold setStatus
  split
  · next known =>
    rw [Std.TreeMap.contains_eq_isSome_getElem?, Option.isSome_iff_exists] at known
    obtain ⟨old, hold⟩ := known
    simp only [status?, Std.TreeMap.getElem?_insert, Std.compare_eq_iff_eq]
    split
    · next h => subst h; rw [hold]; rfl
    · rfl
  · next unknown =>
    have : p.status[n]? = none :=
      Std.TreeMap.getElem?_eq_none_of_contains_eq_false (Bool.eq_false_iff.2 unknown)
    split
    · next h => subst h; simp [status?, this]
    · rfl

/-! ### Taking what is ready -/

theorem sameWork_foldl_setStatus (names : List String) (s : Status) (p : Progress) :
    (names.foldl (fun p n => p.setStatus n s) p).SameWork p := by
  induction names generalizing p with
  | nil => exact .refl p
  | cons n names ih => exact (ih _).trans (sameWork_setStatus p n s)

theorem status?_foldl_setStatus (names : List String) (s : Status) (p : Progress) (m : String) :
    (names.foldl (fun p n => p.setStatus n s) p).status? m =
      if m ∈ names then (p.status? m).map fun _ => s else p.status? m := by
  induction names generalizing p with
  | nil => simp
  | cons n names ih =>
    rw [List.foldl_cons, ih, status?_setStatus]
    by_cases hn : n = m
    · subst hn
      cases p.status? n <;> simp
    · simp [hn, Ne.symm hn]

theorem sameWork_takeReady (p : Progress) : p.takeReady.2.SameWork { p with ready := [] } :=
  sameWork_foldl_setStatus _ _ _

/-- What was ready is being built. -/
theorem status?_takeReady (p : Progress) (m : String) :
    p.takeReady.2.status? m =
      if m ∈ p.ready then (p.status? m).map fun _ => .building else p.status? m :=
  status?_foldl_setStatus _ _ _ m

/-! ### Success -/

theorem release_of_none (h : p.remaining? n = none) : p.release n = p := by
  rw [release, show p.remaining[n]? = none from h]

theorem release_of_some {count : Nat} (h : p.remaining? n = some count) :
    p.release n =
      { p with
        remaining := p.remaining.insert n (count - 1)
        ready :=
          if count - 1 = 0 ∧ p.status? n = some .pending then p.ready ++ [n] else p.ready } := by
  rw [release, show p.remaining[n]? = some count from h]
  by_cases hr : count - 1 = 0 ∧ p.status? n = some .pending
  · rw [if_pos hr]
    exact if_pos hr
  · rw [if_neg hr]
    exact if_neg hr

/-- Releasing a target changes its count and perhaps the queue, and nothing else. -/
theorem release_frame (p : Progress) (n : String) :
    (p.release n).targets = p.targets ∧ (p.release n).dependents = p.dependents ∧
      (p.release n).status? = p.status? := by
  cases h : p.remaining? n with
  | none => rw [release_of_none h]; exact ⟨rfl, rfl, rfl⟩
  | some count => rw [release_of_some h]; exact ⟨rfl, rfl, rfl⟩

theorem remaining?_release (p : Progress) (n m : String) :
    (p.release n).remaining? m =
      (p.remaining? m).map fun count => if n = m then count - 1 else count := by
  cases h : p.remaining? n with
  | none =>
    rw [release_of_none h]
    by_cases hn : n = m
    · subst hn; simp [h]
    · simp [hn]
  | some count =>
    rw [release_of_some h, remaining?]
    simp only [Std.TreeMap.getElem?_insert, Std.compare_eq_iff_eq]
    split
    · next hn => subst hn; simp [h]
    · exact Option.map_id'.symm

theorem foldl_release_frame (names : List String) (p : Progress) :
    (names.foldl release p).targets = p.targets ∧
      (names.foldl release p).dependents = p.dependents ∧
      (names.foldl release p).status? = p.status? := by
  induction names generalizing p with
  | nil => exact ⟨rfl, rfl, rfl⟩
  | cons n names ih =>
    obtain ⟨h₁, h₂, h₃⟩ := ih (p.release n)
    obtain ⟨h₁', h₂', h₃'⟩ := release_frame p n
    exact ⟨h₁.trans h₁', h₂.trans h₂', h₃.trans h₃'⟩

/-- Each release takes one from the count. -/
theorem remaining?_foldl_release (names : List String) (p : Progress) (m : String) :
    (names.foldl release p).remaining? m = (p.remaining? m).map (· - names.count m) := by
  induction names generalizing p with
  | nil => simp
  | cons n names ih =>
    rw [List.foldl_cons, ih, remaining?_release, Option.map_map]
    congr 1
    funext count
    by_cases hn : n = m
    · simp [hn, Nat.sub_sub, Nat.add_comm]
    · simp [hn]

/-- Who becomes ready: the pending targets whose count is used up. None does so twice, as long as no
count is asked for more than it holds. -/
theorem ready_foldl_release (names : List String) (p : Progress)
    (h : ∀ m count, p.remaining? m = some count → names.count m ≤ count) :
    ∃ added, (names.foldl release p).ready = p.ready ++ added ∧ added.Nodup ∧
      ∀ m, m ∈ added ↔
        m ∈ names ∧ p.remaining? m = some (names.count m) ∧ p.status? m = some .pending := by
  induction names generalizing p with
  | nil => exact ⟨[], by simp⟩
  | cons n names ih =>
    have h' : ∀ m count, (p.release n).remaining? m = some count → names.count m ≤ count := by
      intro m count hm
      rw [remaining?_release, Option.map_eq_some_iff] at hm
      obtain ⟨old, hold, rfl⟩ := hm
      have := h m old hold
      rw [List.count_cons] at this
      by_cases hn : n = m
      · simp only [hn, if_true, beq_self_eq_true] at this ⊢; omega
      · simp only [hn, if_false, beq_iff_eq] at this ⊢; omega
    obtain ⟨added, hr, hnodup, hmem⟩ := ih (p.release n) h'
    -- for every other target the first release changes nothing
    have hother : ∀ m, m ≠ n → (m ∈ added ↔ m ∈ n :: names ∧
        p.remaining? m = some ((n :: names).count m) ∧ p.status? m = some .pending) := by
      intro m hmn
      rw [hmem, remaining?_release, (release_frame p n).2.2]
      simp [hmn, Ne.symm hmn]
    rw [List.foldl_cons, hr]
    cases hn : p.remaining? n with
    | none =>
      rw [release_of_none hn]
      refine ⟨added, rfl, hnodup, fun m => ?_⟩
      by_cases hmn : m = n
      · subst hmn
        rw [hmem, remaining?_release, hn]
        simp
      · exact hother m hmn
    | some count =>
      have hle : names.count n + 1 ≤ count := by simpa using h n count hn
      have hself : n ∈ added ↔
          n ∈ names ∧ count = names.count n + 1 ∧ p.status? n = some .pending := by
        rw [hmem, remaining?_release, (release_frame p n).2.2, hn]
        simp only [Option.map_some, if_true, Option.some.injEq]
        refine and_congr_right fun _ => and_congr_left fun _ => ?_
        omega
      rw [release_of_some hn]
      by_cases hready : count - 1 = 0 ∧ p.status? n = some .pending
      · have hzero : names.count n = 0 := by omega
        have hnot : n ∉ added := fun hc => List.count_eq_zero.1 hzero (hself.1 hc).1
        refine ⟨n :: added, by simp [hready], List.nodup_cons.2 ⟨hnot, hnodup⟩, fun m => ?_⟩
        by_cases hmn : m = n
        · subst hmn
          simp only [List.mem_cons, true_or, true_and, true_iff, hn]
          refine ⟨?_, hready.2⟩
          simp only [List.count_cons_self, Option.some.injEq]
          omega
        · rw [List.mem_cons, or_iff_right hmn]
          exact hother m hmn
      · refine ⟨added, by simp only [if_neg hready], hnodup, fun m => ?_⟩
        by_cases hmn : m = n
        · subst hmn
          rw [hself, hn]
          simp only [List.mem_cons, true_or, true_and, List.count_cons_self, Option.some.injEq]
          refine ⟨fun h => h.2, fun h => ⟨?_, h⟩⟩
          by_contra hc
          exact hready ⟨by rw [h.1, List.count_eq_zero.2 hc], h.2⟩
        · exact hother m hmn

/-- A success is recorded for the target itself, and changes no other status. -/
theorem status?_succeed (hn : p.status? n = some .building) (m : String) :
    (p.succeed n).status? m = if n = m then some .succeeded else p.status? m := by
  rw [succeed, (foldl_release_frame _ _).2.2, status?_setStatus]
  split
  · next hm => rw [← hm, hn]; rfl
  · rfl

/-- `p.Succeeds n q`: from `p` to `q` the target `n` has succeeded, every target that depends on it
counts that once for each time it lists it, and those with nothing left to count are ready. -/
structure Succeeds (p : Progress) (n : String) (q : Progress) : Prop where
  targets : q.targets = p.targets
  dependents : q.dependents = p.dependents
  status : ∀ m, q.status? m = if n = m then some .succeeded else p.status? m
  remaining : ∀ m, q.remaining? m = (p.remaining? m).map (· - (p.dependentsOn n).count m)
  ready : ∃ added, q.ready = p.ready ++ added ∧ added.Nodup ∧ ∀ m, m ∈ added ↔
    m ∈ p.dependentsOn n ∧ p.remaining? m = some ((p.dependentsOn n).count m) ∧
      q.status? m = some .pending

namespace Succeeds

/-- A status is an old one, unless it is that of the target that succeeded. -/
theorem cases (h : p.Succeeds n q) {s : Status} (hm : q.status? m = some s) :
    (m = n ∧ s = .succeeded) ∨ (m ≠ n ∧ p.status? m = some s) := by
  rw [h.status] at hm
  split at hm
  · next he =>
    rw [Option.some.injEq] at hm
    exact .inl ⟨he.symm, hm.symm⟩
  · next hne => exact .inr ⟨Ne.symm hne, hm⟩

theorem succeeded_iff (h : p.Succeeds n q) :
    q.status? m = some .succeeded ↔ m = n ∨ p.status? m = some .succeeded := by
  rw [h.status]
  split
  · next he => simp [he]
  · next hne => simp [Ne.symm hne]

/-- A success makes nothing fail, and mends no failure. -/
theorem failing_iff (h : p.Succeeds n q) (hn : p.status? n = some .building) :
    q.Failing m ↔ p.Failing m := by
  unfold Failing
  rw [h.status]
  split
  · next he =>
    subst he
    rw [hn]
    simp [Status.isFailure]
  · rfl

end Succeeds

/-- **Recording a success** releases every target that depends on the one that succeeded, provided
that each of them counts it as often as it lists it. -/
theorem succeed_spec (hn : p.status? n = some .building)
    (hc : ∀ m count, p.remaining? m = some count → (p.dependentsOn n).count m ≤ count) :
    p.Succeeds n (p.succeed n) := by
  have hw := sameWork_setStatus p n .succeeded
  obtain ⟨htargets, hdependents, hstatus⟩ :=
    foldl_release_frame (p.dependentsOn n) (p.setStatus n .succeeded)
  obtain ⟨added, hready, hnodup, hadded⟩ := ready_foldl_release (p.dependentsOn n)
    (p.setStatus n .succeeded) fun m count h => hc m count (hw.remaining? m ▸ h)
  refine ⟨htargets.trans hw.targets, hdependents.trans hw.dependents, status?_succeed hn,
    fun m => ?_, added, hready.trans (congrArg (· ++ added) hw.ready), hnodup, fun m => ?_⟩
  · rw [succeed, remaining?_foldl_release, hw.remaining?]
  · rw [hadded, hw.remaining?, succeed, hstatus]

/-! ### Failure -/

/-- `p.Skips q`: from `p` to `q` some pending targets were skipped, each because of a target that it
depends on and that failed or was skipped. -/
structure Skips (p q : Progress) : Prop extends q.SameWork p where
  status : ∀ m, q.status? m = p.status? m ∨ (p.status? m = some .pending ∧
    ∃ d, q.status? m = some (.skipped d) ∧ m ∈ p.dependentsOn d ∧ q.Failing d)

namespace Skips

theorem refl (p : Progress) : p.Skips p := ⟨.refl p, fun _ => .inl rfl⟩

/-- A target that is not pending keeps its status. -/
theorem status_eq (h : p.Skips q) (hm : p.status? m ≠ some .pending) :
    q.status? m = p.status? m := (h.status m).resolve_right fun hp => hm hp.1

theorem pending (h : p.Skips q) (hm : q.status? m = some .pending) :
    p.status? m = some .pending := by
  rcases h.status m with he | ⟨hp, -⟩
  · rw [← he, hm]
  · exact hp

/-- What failed goes on having failed. -/
theorem failing (h : p.Skips q) (hm : p.Failing m) : q.Failing m := by
  obtain ⟨s, hs, hf⟩ := hm
  refine ⟨s, ?_, hf⟩
  rw [h.status_eq, hs]
  rw [hs]
  rintro ⟨⟩
  cases hf

theorem trans {r : Progress} (h : p.Skips q) (h' : q.Skips r) : p.Skips r := by
  refine ⟨h'.toSameWork.trans h.toSameWork, fun m => ?_⟩
  rcases h'.status m with he | ⟨hp, d, hd, hm, hf⟩
  · rw [he]
    refine (h.status m).imp_right fun ⟨hp, d, hd, hm, hf⟩ => ⟨hp, d, hd, hm, h'.failing hf⟩
  · exact .inr ⟨h.pending hp, d, hd, h.toSameWork.dependentsOn d ▸ hm, hf⟩

end Skips

theorem skipOne_eq (d : String) (p : Progress) (skipped : List String) (n : String) :
    skipOne d (p, skipped) n =
      if p.status? n = some .pending then
        ({ p.setStatus n (.skipped d) with
            failures := p.failures ++ [.build n (skipReason d)] }, skipped ++ [n])
      else (p, skipped) := rfl

theorem skipOne_frame (d : String) (s : Progress × List String) (n : String) :
    (skipOne d s n).1.SameWork s.1 := by
  obtain ⟨p, skipped⟩ := s
  rw [skipOne_eq]
  split
  · have h := sameWork_setStatus p n (.skipped d)
    exact ⟨h.targets, h.dependents, h.remaining, h.ready⟩
  · exact .refl p

theorem status?_skipOne (d : String) (s : Progress × List String) (n m : String) :
    (skipOne d s n).1.status? m =
      if n = m ∧ s.1.status? m = some .pending then some (.skipped d) else s.1.status? m := by
  obtain ⟨p, skipped⟩ := s
  rw [skipOne_eq]
  by_cases hp : p.status? n = some .pending
  · rw [if_pos hp]
    refine (status?_setStatus p n m (.skipped d)).trans ?_
    by_cases hn : n = m
    · subst hn; simp [hp]
    · simp [hn]
  · rw [if_neg hp, if_neg]
    rintro ⟨rfl, hm⟩
    exact hp hm

theorem mem_skipOne (d : String) (s : Progress × List String) (n m : String) :
    m ∈ (skipOne d s n).2 ↔ m ∈ s.2 ∨ (n = m ∧ s.1.status? m = some .pending) := by
  obtain ⟨p, skipped⟩ := s
  rw [skipOne_eq]
  split
  · next hp =>
    simp only [List.mem_append, List.mem_singleton]
    refine or_congr_right ⟨?_, fun h => h.1.symm⟩
    rintro rfl
    exact ⟨rfl, hp⟩
  · next hp =>
    refine (or_iff_left ?_).symm
    rintro ⟨rfl, hm⟩
    exact hp hm

theorem foldl_skipOne (d : String) (names : List String) (s : Progress × List String) :
    (names.foldl (skipOne d) s).1.SameWork s.1 ∧
    (∀ m, (names.foldl (skipOne d) s).1.status? m =
      if m ∈ names ∧ s.1.status? m = some .pending then some (.skipped d) else s.1.status? m) ∧
    ∀ m, m ∈ (names.foldl (skipOne d) s).2 ↔
      m ∈ s.2 ∨ (m ∈ names ∧ s.1.status? m = some .pending) := by
  induction names generalizing s with
  | nil => exact ⟨.refl _, by simp, by simp⟩
  | cons n names ih =>
    obtain ⟨hw, hs, hm⟩ := ih (skipOne d s n)
    refine ⟨hw.trans (skipOne_frame d s n), fun m => ?_, fun m => ?_⟩
    · rw [List.foldl_cons, hs, status?_skipOne]
      by_cases hn : n = m
      · by_cases hp : s.1.status? m = some .pending <;> simp [hn, hp]
      · simp [hn, Ne.symm hn]
    · rw [List.foldl_cons, hm, mem_skipOne, status?_skipOne]
      by_cases hn : n = m
      · by_cases hp : s.1.status? m = some .pending <;> simp [hn, hp]
      · simp [hn, Ne.symm hn]

/-- Skipping the dependents of one target. -/
theorem status?_skipDirect (p : Progress) (d m : String) :
    (p.skipDirect d).1.status? m =
      if m ∈ p.dependentsOn d ∧ p.status? m = some .pending then some (.skipped d)
      else p.status? m := (foldl_skipOne d _ _).2.1 m

theorem mem_skipDirect {d : String} :
    m ∈ (p.skipDirect d).2 ↔ m ∈ p.dependentsOn d ∧ p.status? m = some .pending := by
  simpa [skipDirect] using (foldl_skipOne d (p.dependentsOn d) (p, [])).2.2 m

theorem skips_skipDirect {d : String} (h : p.Failing d) : p.Skips (p.skipDirect d).1 := by
  have hfail : (p.skipDirect d).1.Failing d := by
    obtain ⟨s, hs, hf⟩ := h
    have hp : p.status? d ≠ some .pending := by
      rw [hs]
      rintro ⟨⟩
      cases hf
    exact ⟨s, by rw [status?_skipDirect, if_neg fun h => hp h.2, hs], hf⟩
  refine ⟨(foldl_skipOne d _ _).1, fun m => ?_⟩
  rw [status?_skipDirect]
  split
  · next hm => exact .inr ⟨hm.2, d, rfl, hm.1, hfail⟩
  · exact .inl rfl

/-- `p.PendingBehind queue`: a pending target that depends on a failed one depends on one of the
queue. -/
def PendingBehind (p : Progress) (queue : List String) : Prop :=
  ∀ m d, p.status? m = some .pending → m ∈ p.dependentsOn d → p.Failing d → d ∈ queue

/-- **Skipping from a queue of failed targets** leaves no pending target behind a failed one. -/
theorem skipFrom_spec (p : Progress) (queue : List String) (hq : ∀ n ∈ queue, p.Failing n)
    (hb : p.PendingBehind queue) :
    p.Skips (p.skipFrom queue) ∧ (p.skipFrom queue).PendingBehind [] := by
  fun_induction skipFrom p queue with
  | case1 p => exact ⟨.refl p, hb⟩
  | case2 p d queue next ih =>
    have hs : p.Skips next.1 := skips_skipDirect (hq d (.head _))
    have hskipped : ∀ m ∈ next.2, next.1.Failing m := fun m hm =>
      ⟨.skipped d, (status?_skipDirect p d m).trans (if_pos (mem_skipDirect.1 hm)), rfl⟩
    have hq' : ∀ n ∈ queue ++ next.2, next.1.Failing n := by
      intro n hn
      rcases List.mem_append.1 hn with hn | hn
      · exact hs.failing (hq n (.tail _ hn))
      · exact hskipped n hn
    have hb' : next.1.PendingBehind (queue ++ next.2) := by
      intro m e hm he hf
      have hm' := hs.pending hm
      rw [hs.toSameWork.dependentsOn] at he
      rw [List.mem_append]
      rcases hs.status e with heq | ⟨hp, d', hd', hdep, -⟩
      · -- the failure is an old one, so it was in the queue, and it is not the first
        have hold : p.Failing e := by
          obtain ⟨s, hes, hes'⟩ := hf
          exact ⟨s, heq ▸ hes, hes'⟩
        refine .inl ((List.mem_cons.1 (hb m e hm' he hold)).resolve_left ?_)
        rintro rfl
        have := (status?_skipDirect p e m).symm.trans hm
        rw [if_pos ⟨he, hm'⟩] at this
        cases this
      · -- the target was skipped just now
        have hnew := (status?_skipDirect p d e).symm.trans hd'
        refine .inr (mem_skipDirect.2 ⟨?_, hp⟩)
        by_contra hc
        rw [if_neg fun h => hc h.1, hp] at hnew
        cases hnew
    obtain ⟨hs', hdone⟩ := ih hq' hb'
    exact ⟨hs.trans hs', hdone⟩

/-- `p.Fails n r q`: from `p` to `q` the target `n` has failed for the reason `r`, and of the others
some that were pending were skipped. -/
structure Fails (p : Progress) (n r : String) (q : Progress) : Prop extends q.SameWork p where
  self : q.status? n = some (.failed r)
  other : ∀ m, m ≠ n → q.status? m = p.status? m ∨ (p.status? m = some .pending ∧
    ∃ d, q.status? m = some (.skipped d) ∧ m ∈ p.dependentsOn d ∧ q.Failing d)

namespace Fails

variable {r : String}

/-- A status is an old one, unless it tells of a failure. -/
theorem cases (h : p.Fails n r q) {s : Status} (hm : q.status? m = some s) :
    (m = n ∧ s = .failed r) ∨ (m ≠ n ∧ p.status? m = some s) ∨
      ∃ d, s = .skipped d ∧ m ∈ p.dependentsOn d ∧ q.Failing d := by
  by_cases hmn : m = n
  · subst hmn
    rw [h.self, Option.some.injEq] at hm
    exact .inl ⟨rfl, hm.symm⟩
  · rcases h.other m hmn with he | ⟨-, d, hd, hdep, hf⟩
    · exact .inr (.inl ⟨hmn, he ▸ hm⟩)
    · rw [hd, Option.some.injEq] at hm
      exact .inr (.inr ⟨d, hm.symm, hdep, hf⟩)

theorem pending (h : p.Fails n r q) (hm : q.status? m = some .pending) :
    p.status? m = some .pending := by
  rcases h.cases hm with ⟨-, hs⟩ | ⟨-, hs⟩ | ⟨d, hs, -⟩
  · cases hs
  · exact hs
  · cases hs

/-- What failed before goes on having failed. -/
theorem failing (h : p.Fails n r q) (hm : p.Failing m) : q.Failing m := by
  by_cases hmn : m = n
  · exact ⟨_, hmn ▸ h.self, rfl⟩
  · obtain ⟨s, hs, hf⟩ := hm
    rcases h.other m hmn with he | ⟨hp, -⟩
    · exact ⟨s, he.trans hs, hf⟩
    · rw [hs, Option.some.injEq] at hp
      subst hp
      cases hf

/-- A failure does not touch what succeeded, and makes nothing succeed. -/
theorem succeeded_iff (h : p.Fails n r q) (hn : p.status? n = some .building) :
    q.status? m = some .succeeded ↔ p.status? m = some .succeeded := by
  by_cases hmn : m = n
  · subst hmn
    rw [h.self, hn]
    exact ⟨nofun, nofun⟩
  · rcases h.other m hmn with he | ⟨hp, d, hd, -⟩
    · rw [he]
    · rw [hd, hp]
      exact ⟨nofun, nofun⟩

end Fails

/-- **Recording a failure** skips all pending targets behind the one that failed, provided that
there were none behind those that failed before. -/
theorem fail_spec (r : String) (hn : p.status? n = some .building) (hb : p.PendingBehind []) :
    p.Fails n r (p.fail n r) ∧ (p.fail n r).PendingBehind [] := by
  -- the state in which nothing has been skipped for the failure yet
  obtain ⟨q, hfail, hw, hq⟩ : ∃ q : Progress, p.fail n r = q.skipFrom [n] ∧ q.SameWork p ∧
      ∀ m, q.status? m = if n = m then (p.status? m).map fun _ => .failed r else p.status? m := by
    have hw := sameWork_setStatus p n (.failed r)
    exact ⟨_, rfl, ⟨hw.targets, hw.dependents, hw.remaining, hw.ready⟩,
      fun m => status?_setStatus p n m (.failed r)⟩
  have hself : q.status? n = some (.failed r) := by simp [hq, hn]
  have hother (m : String) (hm : m ≠ n) : q.status? m = p.status? m := by
    rw [hq, if_neg (Ne.symm hm)]
  have hqueue : ∀ m ∈ [n], q.Failing m := fun m hm =>
    ⟨_, List.mem_singleton.1 hm ▸ hself, rfl⟩
  have hbehind : q.PendingBehind [n] := by
    rintro m d hm hd ⟨s, hs, hf⟩
    have hmn : m ≠ n := by
      rintro rfl
      rw [hself] at hm
      cases hm
    rw [List.mem_singleton]
    by_contra hdn
    refine List.not_mem_nil (hb m d ?_ (hw.dependentsOn d ▸ hd) ⟨s, ?_, hf⟩)
    · rw [← hother m hmn, hm]
    · rw [← hother d hdn, hs]
  obtain ⟨hs, hdone⟩ := skipFrom_spec q [n] hqueue hbehind
  rw [hfail]
  refine ⟨{ toSameWork := hs.toSameWork.trans hw, self := ?_, other := fun m hm => ?_ }, hdone⟩
  · rw [hs.status_eq, hself]
    rw [hself]
    exact nofun
  · rw [← hother m hm]
    simpa only [hw.dependentsOn] using hs.status m

/-! ### Completion -/

theorem sameWork_skipFrom (p : Progress) (queue : List String) :
    (p.skipFrom queue).SameWork p := by
  fun_induction skipFrom p queue with
  | case1 p => exact .refl p
  | case2 p d queue next ih => exact ih.trans (foldl_skipOne d _ _).1

/-- What becomes of a target does not change the plan. -/
theorem targets_complete (p : Progress) (done : Completion) :
    (p.complete done).targets = p.targets := by
  unfold Progress.complete
  cases done.result.success with
  | true => exact (foldl_release_frame _ _).1.trans (sameWork_setStatus p _ _).targets
  | false => exact (sameWork_skipFrom _ _).targets.trans (sameWork_setStatus p _ _).targets

end Buildwright.Progress
