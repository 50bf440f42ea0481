import Buildwright.Proofs.Build.Crew

/-!
# The account of failures

A build keeps two records of what went wrong: the status of each target, and the list of failures in
the order in which they came to light. They never drift apart (`Progress.Accounted`): each target
that failed or was skipped has one entry, made when its status was set, and a skipped target has its
entry behind that of the dependency for which it was skipped. So the final report counts the same
failures in both of its parts, and who asks a skipped target for the reason, and then the dependency
that it names, comes to a target that failed by itself (`BuildReport.Accounts`).
-/

namespace Buildwright

open Relation

/-- The failure that a status tells of. -/
def Status.failure? (name : String) : Status → Option Failure
  | .failed reason => some (.build name reason)
  | .skipped dependency => some (.build name (Progress.skipReason dependency))
  | .pending | .building | .succeeded => none

namespace Status

variable {st : Status} {n : String} {f : Failure}

theorem isSome_failure? : (st.failure? n).isSome = st.isFailure := by
  cases st <;> rfl

theorem isFailure_of_failure? (h : st.failure? n = some f) : st.isFailure = true := by
  rw [← isSome_failure? (n := n), h]
  rfl

theorem exists_failure? (h : st.isFailure = true) (n : String) : ∃ f, st.failure? n = some f :=
  Option.isSome_iff_exists.1 (isSome_failure?.trans h)

theorem target?_of_failure? (h : st.failure? n = some f) : f.target? = some n := by
  cases st with
  | pending | building | succeeded => cases h
  | failed | skipped => exact Option.some.inj h ▸ rfl

end Status

namespace Progress

variable {g : Graph} {p q : Progress} {result : String → ToolResult} {n m d : String}

/-! ### One entry for each failure -/

/-- The failures of a build are those that the status of its targets tell of. There is one entry for
each target, and that of a skipped target stands behind that of the dependency it names. -/
structure Accounted (p : Progress) : Prop where
  mem_iff : ∀ f, f ∈ p.failures ↔ ∃ n st, p.status? n = some st ∧ st.failure? n = some f
  nodup : (p.failures.map Failure.target?).Nodup
  behind : ∀ n d, p.status? n = some (.skipped d) →
    [some d, some n].Sublist (p.failures.map Failure.target?)

namespace Accounted

/-- The targets with an entry are those that failed or were skipped. -/
theorem mem_targets_iff (h : p.Accounted) :
    some n ∈ p.failures.map Failure.target? ↔ p.Failing n := by
  rw [List.mem_map]
  constructor
  · rintro ⟨f, hf, ht⟩
    obtain ⟨m, st, hst, hm⟩ := (h.mem_iff f).1 hf
    obtain rfl : m = n := Option.some.inj ((Status.target?_of_failure? hm).symm.trans ht)
    exact ⟨st, hst, Status.isFailure_of_failure? hm⟩
  · rintro ⟨st, hst, hfail⟩
    obtain ⟨f, hf⟩ := Status.exists_failure? hfail n
    exact ⟨f, (h.mem_iff f).2 ⟨n, st, hst, hf⟩, Status.target?_of_failure? hf⟩

/-- What changes neither the entries nor who failed keeps the account. -/
theorem congr (h : p.Accounted) (hf : q.failures = p.failures)
    (hs : ∀ n st, st.isFailure = true → (q.status? n = some st ↔ p.status? n = some st)) :
    q.Accounted := by
  refine ⟨fun f => ?_, hf ▸ h.nodup, fun n d hd => ?_⟩
  · rw [hf, h.mem_iff]
    refine exists_congr fun n => exists_congr fun st => and_congr_left fun hn => ?_
    exact (hs n st (Status.isFailure_of_failure? hn)).symm
  · exact hf ▸ h.behind n d ((hs n _ rfl).1 hd)

/-- **A target that fails or is skipped gets its entry at the end.** -/
theorem add {st : Status} {f : Failure} (h : p.Accounted) (hn : ¬ p.Failing n)
    (hf : st.failure? n = some f) (hd : ∀ d, st = .skipped d → p.Failing d)
    (hs : ∀ m, q.status? m = if n = m then some st else p.status? m)
    (hq : q.failures = p.failures ++ [f]) : q.Accounted := by
  have htargets : q.failures.map Failure.target? = p.failures.map Failure.target? ++ [some n] := by
    rw [hq, List.map_append, List.map_singleton, Status.target?_of_failure? hf]
  refine ⟨fun f' => ?_, ?_, fun m d hm => ?_⟩
  · rw [hq, List.mem_append, List.mem_singleton, h.mem_iff]
    constructor
    · rintro (⟨m, st', hm, hf'⟩ | rfl)
      · have hnm : n ≠ m := by
          rintro rfl
          exact hn ⟨st', hm, Status.isFailure_of_failure? hf'⟩
        exact ⟨m, st', by rw [hs, if_neg hnm, hm], hf'⟩
      · exact ⟨n, st, by rw [hs, if_pos rfl], hf⟩
    · rintro ⟨m, st', hm, hf'⟩
      rw [hs] at hm
      split at hm
      · next hnm =>
        subst hnm
        obtain rfl := Option.some.inj hm
        exact .inr (Option.some.inj (hf'.symm.trans hf))
      · exact .inl ⟨m, st', hm, hf'⟩
  · rw [htargets]
    refine List.nodup_append.2 ⟨h.nodup, List.nodup_singleton _, fun a ha b hb => ?_⟩
    rintro rfl
    exact hn (h.mem_targets_iff.1 (List.mem_singleton.1 hb ▸ ha))
  · rw [htargets]
    rw [hs] at hm
    split at hm
    · next hnm =>
      subst hnm
      have hmem := h.mem_targets_iff.2 (hd d (Option.some.inj hm))
      exact (List.singleton_sublist.2 hmem).append (.refl [some n])
    · exact (h.behind m d hm).trans (List.sublist_append_left _ _)

end Accounted

/-! ### Events that make no entry -/

theorem failures_setStatus (p : Progress) (n : String) (s : Status) :
    (p.setStatus n s).failures = p.failures := by
  unfold setStatus
  split <;> rfl

theorem failures_release (p : Progress) (n : String) : (p.release n).failures = p.failures := by
  cases h : p.remaining? n with
  | none => rw [release_of_none h]
  | some count => rw [release_of_some h]

theorem failures_foldl {f : Progress → String → Progress}
    (hf : ∀ p n, (f p n).failures = p.failures) (names : List String) (p : Progress) :
    (names.foldl f p).failures = p.failures := by
  induction names generalizing p with
  | nil => rfl
  | cons n names ih => exact (ih _).trans (hf p n)

theorem failures_takeReady (p : Progress) : p.takeReady.2.failures = p.failures :=
  failures_foldl (fun p n => failures_setStatus p n _) p.ready _

theorem failures_succeed (p : Progress) (n : String) : (p.succeed n).failures = p.failures :=
  (failures_foldl failures_release _ _).trans (failures_setStatus p n _)

/-! ### Entries stay -/

theorem failures_prefix_skipOne (d : String) (s : Progress × List String) (n : String) :
    s.1.failures <+: (skipOne d s n).1.failures := by
  obtain ⟨p, skipped⟩ := s
  rw [skipOne_eq]
  split
  · exact List.prefix_append _ _
  · exact List.prefix_rfl

theorem failures_prefix_skipFrom (p : Progress) (queue : List String) :
    p.failures <+: (p.skipFrom queue).failures := by
  have general (d : String) (names : List String) (s : Progress × List String) :
      s.1.failures <+: (names.foldl (skipOne d) s).1.failures := by
    induction names generalizing s with
    | nil => exact List.prefix_rfl
    | cons n names ih => exact (failures_prefix_skipOne d s n).trans (ih _)
  fun_induction Progress.skipFrom p queue with
  | case1 p => exact List.prefix_rfl
  | case2 p d queue next ih => exact (general d (p.dependentsOn d) (p, [])).trans ih

theorem failures_prefix_fail (p : Progress) (n r : String) :
    p.failures ++ [.build n r] <+: (p.fail n r).failures := by
  rw [← failures_setStatus p n (.failed r)]
  exact failures_prefix_skipFrom { p.setStatus n (.failed r) with failures := _ } [n]

/-- **An entry once made stays**, whatever becomes of the other targets. -/
theorem failures_prefix_complete (p : Progress) (done : Completion) :
    p.failures <+: (p.complete done).failures := by
  unfold Progress.complete
  cases done.result.success with
  | true => exact (failures_succeed p done.name).symm ▸ List.prefix_rfl
  | false => exact (List.prefix_append _ _).trans (failures_prefix_fail p _ _)

/-- A target that fails makes an entry. -/
theorem failures_complete_ne_nil {done : Completion} (h : done.result.success = false) :
    (p.complete done).failures ≠ [] := by
  unfold Progress.complete
  rw [h]
  exact List.IsPrefix.ne_nil (failures_prefix_fail p _ _) (by simp)

/-! ### Events keep the account -/

/-- Taking what is ready keeps the account. -/
theorem Accounted.takeReady (h : p.Accounted) (hp : p.Sound g result) :
    p.takeReady.2.Accounted := by
  refine h.congr (failures_takeReady p) fun n st hst => ⟨fun hn => ?_, fun hn => ?_⟩
  · refine (hp.counts.status?_of_takeReady hn ?_).2
    rintro rfl
    cases hst
  · refine hp.counts.status?_takeReady_of_ne hn ?_
    rintro rfl
    cases hst

/-- Recording a success keeps the account. -/
theorem Accounted.succeed (h : p.Accounted) (hp : p.Sound g result)
    (hn : p.status? n = some .building) : (p.succeed n).Accounted := by
  refine h.congr (failures_succeed p n) fun m st hst => ?_
  rw [(hp.counts.succeeds hn).status]
  split
  · next hnm =>
    subst hnm
    rw [hn]
    constructor <;> · rintro ⟨⟩; cases hst
  · rfl

/-! ### Failures and what they skip -/

/-- Setting the status of a target that has one. -/
theorem status?_setStatus_of_status? {old : Status} (hn : p.status? n = some old) (st : Status)
    (m : String) : (p.setStatus n st).status? m = if n = m then some st else p.status? m := by
  rw [status?_setStatus]
  split
  · next hnm =>
    rw [← hnm, hn]
    rfl
  · rfl

theorem not_failing_of_status? {st : Status} (hn : p.status? n = some st)
    (hst : st.isFailure = false) : ¬ p.Failing n := by
  rintro ⟨st', hst', hf⟩
  obtain rfl := Option.some.inj (hn.symm.trans hst')
  rw [hst] at hf
  cases hf

/-- A dependent that is skipped gets its entry behind that of the dependency. -/
theorem Accounted.skipOne {s : Progress × List String} (h : s.1.Accounted) (hd : s.1.Failing d)
    (n : String) : (skipOne d s n).1.Accounted ∧ (skipOne d s n).1.Failing d := by
  obtain ⟨p, skipped⟩ := s
  rw [skipOne_eq]
  split
  · next hp =>
    have hn : ¬ p.Failing n := not_failing_of_status? hp rfl
    have hstatus := status?_setStatus_of_status? hp (.skipped d)
    refine ⟨h.add hn rfl ?_ hstatus rfl, ?_⟩
    · rintro d' hd'
      exact Status.skipped.inj hd' ▸ hd
    · obtain ⟨st, hst, hf⟩ := hd
      refine ⟨st, (hstatus d).trans ?_, hf⟩
      rw [if_neg, hst]
      rintro rfl
      exact hn ⟨st, hst, hf⟩
  · exact ⟨h, hd⟩

theorem Accounted.skipDirect (h : p.Accounted) (hd : p.Failing d) :
    (p.skipDirect d).1.Accounted := by
  have general (names : List String) (s : Progress × List String) (h : s.1.Accounted)
      (hd : s.1.Failing d) : (names.foldl (Progress.skipOne d) s).1.Accounted := by
    induction names generalizing s with
    | nil => exact h
    | cons n names ih =>
      obtain ⟨h', hd'⟩ := h.skipOne hd n
      exact ih _ h' hd'
  exact general _ (p, []) h hd

/-- **Skipping from a queue of failed targets keeps the account.** -/
theorem Accounted.skipFrom (queue : List String) (h : p.Accounted)
    (hq : ∀ n ∈ queue, p.Failing n) : (p.skipFrom queue).Accounted := by
  fun_induction Progress.skipFrom p queue with
  | case1 p => exact h
  | case2 p d queue next ih =>
    have hd : p.Failing d := hq d (.head _)
    have hs : p.Skips next.1 := skips_skipDirect hd
    refine ih (h.skipDirect hd) fun n hn => ?_
    rcases List.mem_append.1 hn with hn | hn
    · exact hs.failing (hq n (.tail _ hn))
    · exact ⟨.skipped d, (status?_skipDirect p d n).trans (if_pos (mem_skipDirect.1 hn)), rfl⟩

/-- Recording a failure keeps the account. -/
theorem Accounted.fail (h : p.Accounted) (hn : p.status? n = some .building) (r : String) :
    (p.fail n r).Accounted := by
  have hstatus := status?_setStatus_of_status? hn (.failed r)
  refine Accounted.skipFrom [n] ?_ fun m hm => ?_
  · exact h.add (not_failing_of_status? hn rfl) rfl (fun d hd => by cases hd) hstatus
      (congrArg (· ++ _) (failures_setStatus p n _))
  · obtain rfl := List.mem_singleton.1 hm
    exact ⟨.failed r, (hstatus m).trans (if_pos rfl), rfl⟩

/-- **Recording what became of a target keeps the account.** -/
theorem Accounted.complete (h : p.Accounted) (hp : p.Sound g result) {done : Completion}
    (hn : p.status? done.name = some .building) : (p.complete done).Accounted := by
  have hdone : (if done.result.success then p.succeed done.name
      else p.fail done.name done.result.reason).Accounted := by
    split
    · exact h.succeed hp hn
    · exact h.fail hn _
  exact ⟨hdone.mem_iff, hdone.nodup, hdone.behind⟩

/-- There is nothing to account for when a build begins. -/
theorem accounted_of_pending (hf : p.failures = [])
    (hp : ∀ n st, p.status? n = some st → st = .pending) : p.Accounted := by
  refine ⟨fun f => ?_, by simp [hf], fun n d hd => nomatch hp n _ hd⟩
  rw [hf]
  refine ⟨nofun, fun ⟨n, st, hst, hn⟩ => ?_⟩
  rw [hp n st hst] at hn
  cases hn

end Progress

/-! ### Whole builds -/

namespace Site

variable {g : Graph} {plan : Plan} {result : String → ToolResult} {s s' : Site}

/-- **The account is kept by a whole build.** -/
theorem Sound.accounted_of_steps (h : Sound g result s) (ha : s.progress.Accounted)
    (hs : Steps result s s') : s'.progress.Accounted := by
  induction hs with
  | refl => exact ha
  | tail hs hs' ih =>
    have h' := h.steps hs
    cases hs' with
    | hand => exact ih
    | hear hd hr =>
      have hn := h'.status?_of_mem_inFlight hd
      exact (ih.complete h'.progress hn).takeReady (h'.progress.complete hn hr)

/-- The account is right in every state that a build can reach. -/
theorem Reachable.accounted {requested : List String} (hs : Reachable g plan result s)
    (h : g.plan requested = .ok plan) : s.progress.Accounted := by
  obtain ⟨p, hp, hs⟩ := hs
  obtain ⟨-, hsound, hpending⟩ := Progress.sound_of_ofPlan h hp result
  obtain ⟨ts, -, hts⟩ := map_eq_ok_iff.1 hp
  have ha : p.Accounted := Progress.accounted_of_pending (hts ▸ rfl) hpending
  exact (sound_start hsound hpending).accounted_of_steps (ha.takeReady hsound) hs

end Site

/-! ### Reports -/

namespace BuildReport

/-- `r.Says n st`: the report has an outcome for the target `n`, with the status `st`. -/
def Says (r : BuildReport) (n : String) (st : Status) : Prop :=
  ∃ o ∈ r.outcomes, o.name = n ∧ o.status = st

/-- `r.Blames n d`: the target `n` was skipped because of `d`. -/
def Blames (r : BuildReport) (n d : String) : Prop := r.Says n (.skipped d)

/-- `r.Accounts g names`: the report on a build of the targets `names` accounts for its failures. -/
structure Accounts (r : BuildReport) (g : Graph) (names : List String) : Prop where
  /-- Every target has one outcome. -/
  outcomes : r.outcomes.map (·.name) = names ∧ names.Nodup
  /-- The failures are those that the outcomes tell of, one for each target that failed or was
  skipped. -/
  failures : r.failures.Perm (r.outcomes.filterMap fun o => o.status.failure? o.name)
  /-- There are as many failures as targets that failed or were skipped. -/
  length_failures : r.failures.length = r.failed
  /-- Every target was built, or it failed or was skipped. -/
  succeeded_add_failed : r.succeeded + r.failed = names.length
  /-- The build is a success if every target was built. -/
  isSuccess_iff : r.isSuccess = true ↔ ∀ o ∈ r.outcomes, o.status = .succeeded
  /-- Who was skipped names a dependency of its own that failed or was skipped before. -/
  blamed : ∀ n d, r.Blames n d → g.Needs n d ∧ (∃ st, r.Says d st ∧ st.isFailure = true) ∧
    [some d, some n].Sublist (r.failures.map Failure.target?)
  /-- The blame ends at a target that failed by itself. -/
  origin : ∀ n d, r.Blames n d →
    ∃ f reason, ReflTransGen r.Blames d f ∧ r.Says f (.failed reason)

variable {r : BuildReport}

/-- The failures that outcomes tell of, if there is one outcome for each target. -/
theorem nodup_filterMap_failure? {outcomes : List Outcome} (h : (outcomes.map (·.name)).Nodup) :
    (outcomes.filterMap fun o => o.status.failure? o.name).Nodup := by
  induction outcomes with
  | nil => exact .nil
  | cons o outcomes ih =>
    obtain ⟨ho, h⟩ := List.nodup_cons.1 h
    rw [List.filterMap_cons]
    cases hf : o.status.failure? o.name with
    | none => exact ih h
    | some f =>
      refine List.nodup_cons.2 ⟨fun hmem => ?_, ih h⟩
      obtain ⟨o', ho', hf'⟩ := List.mem_filterMap.1 hmem
      have hname : o'.name = o.name := Option.some.inj <|
        (Status.target?_of_failure? hf').symm.trans (Status.target?_of_failure? hf)
      exact ho (List.mem_map.2 ⟨o', ho', hname⟩)

theorem length_failures_of_perm
    (h : r.failures.Perm (r.outcomes.filterMap fun o => o.status.failure? o.name)) :
    r.failures.length = r.failed := by
  rw [h.length_eq, List.length_filterMap_eq_countP]
  exact List.countP_congr fun o _ => by rw [Status.isSome_failure?]

/-- Every target was built or not, when something has become of each. -/
theorem succeeded_add_failed_of_isTerminal (h : ∀ o ∈ r.outcomes, o.status.isTerminal = true) :
    r.succeeded + r.failed = r.outcomes.length := by
  rw [List.length_eq_countP_add_countP fun o : Outcome => o.status.isSuccess]
  refine congrArg _ (List.countP_congr fun o ho => ?_)
  have hterm := h o ho
  revert hterm
  cases o.status <;> simp [Status.isTerminal, Status.isSuccess, Status.isFailure]

/-- No failure is recorded if and only if every target was built. -/
theorem isSuccess_iff_of_isTerminal (h : ∀ o ∈ r.outcomes, o.status.isTerminal = true)
    (hlength : r.failures.length = r.failed) :
    r.isSuccess = true ↔ ∀ o ∈ r.outcomes, o.status = .succeeded := by
  rw [isSuccess, decide_eq_true_eq, ← List.length_eq_zero_iff, hlength, failed, List.countP_eq_zero]
  refine forall₂_congr fun o ho => ?_
  have hterm := h o ho
  revert hterm
  cases o.status <;> simp [Status.isTerminal, Status.isSuccess, Status.isFailure]

end BuildReport

theorem Progress.names_report (p : Progress) (duration : Duration) :
    (p.report duration).outcomes.map (·.name) = p.names := by
  rw [Progress.report, List.map_map]
  rfl

namespace Site.Sound

variable {g : Graph} {result : String → ToolResult} {s : Site} {n : String}

/-- The report on a build at rest says what became of each target. -/
theorem says_report_iff (h : Sound g result s) (hr : s.ready = []) (hf : s.inFlight = [])
    (duration : Duration) {st : Status} :
    (s.progress.report duration).Says n st ↔ s.progress.status? n = some st := by
  constructor
  · rintro ⟨o, ho, rfl, rfl⟩
    obtain ⟨t, ht, rfl⟩ := List.mem_map.1 ho
    obtain ⟨st, hst, -⟩ :=
      Progress.isDone_iff.1 (h.isDone_of_rest hr hf t.name (List.mem_map.2 ⟨t, ht, rfl⟩))
    show s.progress.status? t.name = some ((s.progress.status? t.name).getD .pending)
    rw [hst]
    rfl
  · intro hst
    obtain ⟨t, ht, rfl⟩ := List.mem_map.1 (Progress.mem_names_of_status? hst)
    refine ⟨_, List.mem_map.2 ⟨t, ht, rfl⟩, rfl, ?_⟩
    show (s.progress.status? t.name).getD .pending = st
    rw [hst]
    rfl

/-- Something has become of each target in the report on a build at rest. -/
theorem isTerminal_report (h : Sound g result s) (hr : s.ready = []) (hf : s.inFlight = [])
    (duration : Duration) :
    ∀ o ∈ (s.progress.report duration).outcomes, o.status.isTerminal = true := by
  intro o ho
  have hst := (h.says_report_iff hr hf duration).1 ⟨o, ho, rfl, rfl⟩
  obtain ⟨st, hst', hterm⟩ :=
    Progress.isDone_iff.1 (h.isDone_of_rest hr hf _ (Progress.mem_names_of_status? hst))
  exact Option.some.inj (hst.symm.trans hst') ▸ hterm

/-- Who asks a target that failed or was skipped, and then the dependency that it names, comes to a
target that failed by itself. -/
theorem exists_origin (h : Sound g result s) (hn : s.progress.Failing n) :
    ∃ f reason, ReflTransGen (fun a b => s.progress.status? a = some (.skipped b)) n f ∧
      s.progress.status? f = some (.failed reason) := by
  obtain ⟨st, hst, hfail⟩ := hn
  refine h.progress.settled.induction (P := fun n => s.progress.Failing n → ∃ f reason,
      ReflTransGen (fun a b => s.progress.status? a = some (.skipped b)) n f ∧
        s.progress.status? f = some (.failed reason))
    (fun n _ ih => ?_) n (List.mem_reverse.2 (Progress.mem_names_of_status? hst)) ⟨st, hst, hfail⟩
  rintro ⟨st, hst, hfail⟩
  cases st with
  | pending | building | succeeded => cases hfail
  | failed reason => exact ⟨n, reason, .refl, hst⟩
  | skipped d =>
    obtain ⟨hneed, hd⟩ := h.progress.skipped n d hst
    obtain ⟨f, reason, hdf, hf⟩ := ih d hneed hd
    exact ⟨f, reason, .head hst hdf, hf⟩

/-- The failures of a build at rest are those that the outcomes of its report tell of. -/
theorem failures_perm (h : Sound g result s) (ha : s.progress.Accounted) (hr : s.ready = [])
    (hf : s.inFlight = []) (duration : Duration) :
    (s.progress.report duration).failures.Perm
      ((s.progress.report duration).outcomes.filterMap fun o => o.status.failure? o.name) := by
  have htold {n : String} {st : Status} :
      (s.progress.report duration).Says n st ↔ s.progress.status? n = some st :=
    h.says_report_iff hr hf duration
  have hnames : ((s.progress.report duration).outcomes.map (·.name)).Nodup := by
    rw [Progress.names_report]
    exact List.nodup_reverse.1 h.progress.settled.nodup
  refine (List.perm_ext_iff_of_nodup (.of_map Failure.target? ha.nodup)
    (BuildReport.nodup_filterMap_failure? hnames)).2 fun f => ?_
  rw [List.mem_filterMap]
  refine (ha.mem_iff f).trans ⟨?_, ?_⟩
  · rintro ⟨n, st, hst, hn⟩
    obtain ⟨o, ho, rfl, rfl⟩ := htold.2 hst
    exact ⟨o, ho, hn⟩
  · rintro ⟨o, ho, hn⟩
    exact ⟨_, _, htold.1 ⟨o, ho, rfl, rfl⟩, hn⟩

/-- **The report on a build at rest accounts for its failures.** -/
theorem report_accounts (h : Sound g result s) (ha : s.progress.Accounted) (hr : s.ready = [])
    (hf : s.inFlight = []) (duration : Duration) :
    (s.progress.report duration).Accounts g s.progress.names := by
  have htold {n : String} {st : Status} :
      (s.progress.report duration).Says n st ↔ s.progress.status? n = some st :=
    h.says_report_iff hr hf duration
  have hperm := h.failures_perm ha hr hf duration
  have hlength := BuildReport.length_failures_of_perm hperm
  have hdone := h.isTerminal_report hr hf duration
  refine ⟨⟨Progress.names_report _ _, List.nodup_reverse.1 h.progress.settled.nodup⟩, hperm,
    hlength, ?_, BuildReport.isSuccess_iff_of_isTerminal hdone hlength, fun n d hn => ?_,
    fun n d hn => ?_⟩
  · rw [BuildReport.succeeded_add_failed_of_isTerminal hdone, ← Progress.names_report _ duration,
      List.length_map]
  · obtain ⟨hneed, st, hst, hfail⟩ := h.progress.skipped n d (htold.1 hn)
    exact ⟨hneed, ⟨st, htold.2 hst, hfail⟩, ha.behind n d (htold.1 hn)⟩
  · obtain ⟨f, reason, hdf, hf⟩ := h.exists_origin (h.progress.skipped n d (htold.1 hn)).2
    exact ⟨f, reason, ReflTransGen.mono (fun _ _ hab => htold.2 hab) _ _ hdf, htold.2 hf⟩

end Site.Sound

/-- Every report with which a build can end accounts for its failures. -/
theorem Site.Reachable.accounts {g : Graph} {requested : List String} {plan : Plan}
    {result : String → ToolResult} {s : Site} (hs : s.Reachable g plan result)
    (h : g.plan requested = .ok plan) (hr : s.ready = []) (hf : s.inFlight = [])
    (duration : Duration) : (s.progress.report duration).Accounts g plan.names := by
  obtain ⟨hsound, hnames⟩ := hs.sound h
  exact hnames ▸ hsound.report_accounts (hs.accounted h) hr hf duration

namespace Build

variable {g : Graph} {requested : List String} {plan : Plan}

/-- **A build accounts for its failures.** Whatever the tools give and in whichever order the crew
is done with the targets, the report holds one failure for each target that failed or was skipped
and none for any other, so that its counts agree; a target that was skipped names a dependency of
its own that failed or was skipped before it, and the blame ends at a target that failed by
itself. -/
theorem failures_accounted (h : g.plan requested = .ok plan) (result : String → ToolResult) :
    (∀ site, Site.Reachable g plan result site → site.ready = [] → site.inFlight = [] →
      ∀ duration, (site.progress.report duration).Accounts g plan.names) ∧
    ∀ {m : Type → Type} [Monad m] {σ : Type} (e : Execution m σ) (crew : Crew m) (now : m Nat)
      (inFlight : σ → List String), crew.Reliable now e result inFlight →
        ∀ s, inFlight s = [] → ∃ report s',
          e.run (ofPlan crew now g plan) s = (.ok report, s') ∧ report.Accounts g plan.names := by
  refine ⟨fun site hs hr hf => hs.accounts h hr hf, fun e crew now inFlight hc s hs => ?_⟩
  obtain ⟨site, duration, s', hrun, hreach, hr, hf⟩ := hc.ofPlan_reachable h hs
  exact ⟨_, s', hrun, hreach.accounts h hr hf duration⟩

/-- Everything can be built except for the two sides of a diamond. -/
def noSide (name : String) : ToolResult :=
  if name = "b" ∨ name = "c" then .failed (some 1) "" else .succeeded ""

/-- Neither side of a diamond can be built. The program above them is skipped as soon as the first
of them failed, and the other one does not add to that. -/
theorem failures_of_diamond :
    ∃ report s', Graph.diamond.plan ["a"] = .ok ⟨["d", "b", "c", "a"]⟩ ∧
      ((Execution.ofId Unit).withState (List String)).run
        (ofPlan (.single fun n => (pure { name := n, result := noSide n } : Id Completion))
          (liftM (0 : Id Nat)) Graph.diamond ⟨["d", "b", "c", "a"]⟩) ([], ()) = (.ok report, s') ∧
      report.Accounts Graph.diamond ["d", "b", "c", "a"] ∧
      report.failures = [.build "b" "exit status 1", .build "a" "dependency 'b' failed",
        .build "c" "exit status 1"] := by
  have hc : (Crew.single fun n => (pure { name := n, result := noSide n } : Id Completion)).Reliable
      (liftM (0 : Id Nat)) ((Execution.ofId Unit).withState (List String)) noSide (·.1) :=
    Crew.reliable_single 0 (.ofId Unit) (fun n _ => rfl) fun n _ => rfl
  obtain ⟨-, hcrew⟩ := failures_accounted Graph.plan_diamond noSide
  obtain ⟨report, s', hrun, hreport⟩ := hcrew _ _ _ _ hc ([], ()) rfl
  have hfailures : (((Execution.ofId Unit).withState (List String)).run
      (ofPlan (.single fun n => (pure { name := n, result := noSide n } : Id Completion))
        (liftM (0 : Id Nat)) Graph.diamond ⟨["d", "b", "c", "a"]⟩) ([], ())).1.toOption.map
        (fun r => r.failures) = some [.build "b" "exit status 1",
          .build "a" "dependency 'b' failed", .build "c" "exit status 1"] := by decide +kernel
  rw [hrun] at hfailures
  exact ⟨report, s', Graph.plan_diamond, hrun, hreport, Option.some.inj hfailures⟩

end Build

end Buildwright
