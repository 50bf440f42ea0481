import Buildwright.Proofs.Build.Counters
import Buildwright.Proofs.Build.Floor

/-!
# The loop of a build

A site tells what may happen in a build, the loop what does happen with a given crew. Each of its
rounds is made of events of the site (`Crew.Serves.run_brings`), and so what holds of a site in
every order of events holds of the loop after any number of rounds, whoever does the work: nothing
is built too early, twice or in vain (`Build.run_safe`), the counts are exact (`Build.run_exact`),
and where a target is being built, its libraries are there (`Build.run_libraries`).

What the crew is handed is no part of what the loop returns. It is written down by a crew that does
the same as another one and keeps notes (`Crew.noted`). Likewise a crew is asked what it has given
to the toolchain (`Crew.Diligent`).
-/

namespace Buildwright

open Relation

namespace Crew

variable {m : Type → Type} [Monad m] {σ : Type} {e : Execution m σ} {crew : Crew m} {now : m Nat}
  {result : String → ToolResult} {inFlight : σ → List String}

/-! ### Notes on what is handed over -/

/-- A crew that keeps notes of what it is handed. -/
def noted (crew : Crew m) : Crew (StateT (List String) m) where
  assemble := liftM crew.assemble
  hand name := do
    modify (· ++ [name])
    liftM (crew.hand name)
  next? := liftM crew.next?

section Noted

variable {notes : List String} {s : σ}

theorem run_noted_hand (n : String) :
    (e.withState (List String)).run (crew.noted.hand n) (notes, s) =
      ((), notes ++ [n], (e.run (crew.hand n) s).2) := by
  simp [noted, Execution.withState, e.run_bind, e.run_pure]

/-- Handing over some targets adds these to the notes. -/
theorem run_noted_forM (notes ready : List String) (s : σ) :
    (e.withState (List String)).run (ready.forM crew.noted.hand) (notes, s) =
      ((), notes ++ ready, (e.run (ready.forM crew.hand) s).2) := by
  induction ready generalizing notes s with
  | nil => rw [Execution.run_forM_nil, Execution.run_forM_nil, List.append_nil]
  | cons n ready ih =>
    rw [Execution.run_forM_cons, Execution.run_forM_cons, run_noted_hand, ih, List.append_assoc,
      List.singleton_append]

/-- **Notes change nothing**: the loop comes to the same with them as without. -/
theorem run_noted (rounds : Nat) (ready : List String) (p : Progress) :
    ∃ notes', (e.withState (List String)).run (Build.run crew.noted rounds ready p) (notes, s) =
      ((e.run (Build.run crew rounds ready p) s).1, notes',
        (e.run (Build.run crew rounds ready p) s).2) := by
  induction rounds generalizing ready p notes s with
  | zero =>
    rw [Build.run, Build.run, e.run_pure]
    exact ⟨notes, (e.withState (List String)).run_pure p (notes, s)⟩
  | succ rounds ih =>
    have hhand : ((e.withState (List String)).run (ready.forM crew.noted.hand) (notes, s)).2 =
        (notes ++ ready, (e.run (ready.forM crew.hand) s).2) :=
      congrArg Prod.snd (run_noted_forM notes ready s)
    obtain ⟨x, s', hnext⟩ : ∃ x s',
      e.run crew.next? (e.run (ready.forM crew.hand) s).2 = (x, s') := ⟨_, _, rfl⟩
    have hnoted : (e.withState (List String)).run crew.noted.next?
        (notes ++ ready, (e.run (ready.forM crew.hand) s).2) = (x, notes ++ ready, s') := by
      rw [noted, e.run_withState_lift, hnext]
    cases x with
    | none =>
      rw [Build.run_of_none hhand hnoted, Build.run_of_none rfl hnext]
      exact ⟨notes ++ ready, rfl⟩
    | some done =>
      rw [Build.run_of_some hhand hnoted, Build.run_of_some rfl hnext]
      exact ih _ _

theorem rests_noted {notes' : List String} {s' : σ}
    (h : crew.noted.Rests (e.withState (List String)) (notes, s) (notes', s')) :
    notes' = notes := by
  rcases h with h | h
  · exact congrArg Prod.fst h
  · rw [noted, e.run_withState_lift] at h
    exact (congrArg (·.2.1) h).symm

end Noted

/-- What a reliable crew does are events of a site, and its notes tell what was handed over. -/
theorem Reliable.serves_noted (hc : crew.Reliable now e result inFlight) :
    crew.noted.Serves (liftM now) (e.withState (List String)) result (Site.Step result)
      fun s site => (inFlight s.2).Perm site.inFlight ∧ s.1 = site.handed where
  step _ _ hs := hs
  assemble s site hf := by
    obtain ⟨s', hassemble, hperm⟩ := hc.serves.assemble s.2 site hf.1
    exact ⟨(s.1, s'), by rw [noted, e.run_withState_lift, hassemble], hperm, hf.2⟩
  hand s p n ready flying handed hf := by
    obtain ⟨hevent, hperm⟩ := hc.serves.hand s.2 p n ready flying handed hf.1
    rw [run_noted_hand]
    exact ⟨hevent, hperm, congrArg (· ++ [n]) hf.2⟩
  idle s site hf hnil := by
    rw [noted, e.run_withState_lift]
    exact hc.serves.idle s.2 site hf.1 hnil
  next s site hf hready hne := by
    obtain ⟨done, s', hnext, hd, hr, hevent, hperm⟩ := hc.serves.next s.2 site hf.1 hready hne
    exact ⟨done, (s.1, s'), by rw [noted, e.run_withState_lift, hnext], hd, hr, hevent, hperm, hf.2⟩
  clock s site hf := by
    rw [e.run_withState_lift]
    exact ⟨hc.serves.clock s.2 site hf.1, hf.2⟩

/-! ### What is given to the toolchain -/

section Diligent

variable {m : Type → Type} [Monad m] {σ : Type} {e : Execution m σ} {crew : Crew m} {now : m Nat}
  {inFlight : σ → List String} {g : Graph} {config : BuildConfig} {tool : Job → ToolResult}
  {given : σ → List Job}

/-- What a reliable crew promises that builds with a toolchain. So far the toolchain was given the
jobs `given s`, and what it was given it has for good. Whatever target the crew tells of, the
toolchain was given the job of that. -/
structure Diligent (crew : Crew m) (now : m Nat) (e : Execution m σ) (g : Graph)
    (config : BuildConfig) (tool : Job → ToolResult) (inFlight : σ → List String)
    (given : σ → List Job) : Prop
    extends crew.Reliable now e (Build.resultOf g config tool) inFlight where
  given_assemble : ∀ s, given s ⊆ given (e.run crew.assemble s).2
  given_hand : ∀ n s, given s ⊆ given (e.run (crew.hand n) s).2
  given_next : ∀ s, given s ⊆ given (e.run crew.next? s).2
  given_clock : ∀ s, given s ⊆ given (e.run now s).2
  given_told : ∀ s done s', e.run crew.next? s = (some done, s') →
    ∀ t, g.get? done.name = some t → Build.jobsOf g config t ⊆ given s'

/-- What a diligent crew does are events of a site, and the toolchain was given the jobs of all that
was built. -/
theorem Diligent.serves (hc : crew.Diligent now e g config tool inFlight given) :
    crew.Serves now e (Build.resultOf g config tool)
      (Site.Step (Build.resultOf g config tool)) fun s site =>
        (inFlight s).Perm site.inFlight ∧
          Floor.Sound g config tool { site, jobs := given s } where
  step _ _ hs := hs
  assemble s site hf := by
    obtain ⟨s', hassemble, hperm⟩ := hc.toReliable.serves.assemble s site hf.1
    have hgiven := hc.given_assemble s
    rw [hassemble] at hgiven
    exact ⟨s', hassemble, hperm, hf.2.with_more hgiven⟩
  hand s p n ready flying handed hf := by
    obtain ⟨hevent, hperm⟩ := hc.toReliable.serves.hand s p n ready flying handed hf.1
    exact ⟨hevent, hperm, hf.2.hand.with_more (hc.given_hand n s)⟩
  idle s site hf := hc.toReliable.serves.idle s site hf.1
  next s site hf hready hne := by
    obtain ⟨done, s', hnext, hd, hr, hevent, hperm⟩ :=
      hc.toReliable.serves.next s site hf.1 hready hne
    refine ⟨done, s', hnext, hd, hr, hevent, hperm, ?_⟩
    obtain ⟨t, ht⟩ := hf.2.exists_target hd
    have hgiven := hc.given_next s
    rw [hnext] at hgiven
    exact (hf.2.told hd hr ht).with_more
      (List.append_subset.2 ⟨hgiven, hc.given_told s done s' hnext t ht⟩)
  clock s site hf :=
    ⟨hc.toReliable.serves.clock s site hf.1, hf.2.with_more (hc.given_clock s)⟩

theorem Diligent.given_rests {s s' : σ} (hc : crew.Diligent now e g config tool inFlight given)
    (h : crew.Rests e s s') : given s ⊆ given s' := by
  rcases h with rfl | h
  · exact List.Subset.refl _
  · have hgiven := hc.given_next s
    rwa [h] at hgiven

/-- Building a target adds its job to the record. -/
theorem run_attempt_recording (n : String) (s : List Job × Unit) :
    ((Execution.ofId Unit).withState (List Job)).run
        (Build.attempt (Build.recording tool) g config n) s =
      ({ name := n, result := Build.resultOf g config tool n },
        s.1 ++ (g.get? n).elim [] (Build.jobsOf g config), ()) := by
  cases ht : g.get? n with
  | none =>
    simp only [Build.attempt, Build.resultOf, Catalog.find, ht]
    exact congrArg (fun jobs => ((_ : Completion), jobs, ())) (List.append_nil s.1).symm
  | some t =>
    have hrun : (Build.attempt (Build.recording tool) g config n).run s.1 =
        ({ name := n, result := Build.resultOf g config tool n }, s.1 ++ Build.jobsOf g config t) :=
      Build.run_attempt_recording ht s.1
    exact congrArg (fun r : Completion × List Job => (r.1, r.2, ())) hrun

/-- A single worker whose toolchain keeps a record is diligent. -/
theorem diligent_single (g : Graph) (config : BuildConfig) (tool : Job → ToolResult) :
    (single (Build.attempt (Build.recording tool) g config)).Diligent
      (liftM (pure 0 : StateM (List Job) Nat))
      (((Execution.ofId Unit).withState (List Job)).withState (List String)) g config tool (·.1)
      (·.2.1) where
  toReliable := reliable_single _ _ (fun n s => by rw [run_attempt_recording])
    fun n s => by rw [run_attempt_recording]
  given_assemble s := List.Subset.refl _
  given_hand n s := List.Subset.refl _
  given_next s := by
    obtain ⟨_ | ⟨n, names⟩, jobs⟩ := s
    · exact List.Subset.refl _
    · rw [run_next_single, run_attempt_recording]
      exact List.subset_append_left _ _
  given_clock s := List.Subset.refl _
  given_told s done s' hnext t ht := by
    obtain ⟨_ | ⟨n, names⟩, jobs⟩ := s
    · cases hnext
    · rw [run_next_single, run_attempt_recording] at hnext
      obtain ⟨hdone, rfl⟩ := Prod.mk.inj hnext
      obtain rfl := Option.some.inj hdone
      rw [ht]
      exact List.subset_append_right _ _

end Diligent

end Crew

/-! ### Any number of rounds -/

namespace Build

variable {m : Type → Type} [Monad m] {σ : Type} {e : Execution m σ} {crew : Crew m} {now : m Nat}
  {result : String → ToolResult} {inFlight : σ → List String} {g : Graph} {plan : Plan}
  {requested : List String} {p : Progress} {s : σ}

/-- **The loop builds nothing too early, twice or in vain.** After any number of rounds of any
reliable crew, a target is being built, was built or failed only if everything that it depends on
has succeeded. However many rounds follow, no target has been handed to the crew twice, what became
of a target has stayed as it was, and none that was skipped has been handed to the crew. -/
theorem run_safe (h : g.plan requested = .ok plan) (hp : Progress.ofPlan g plan = .ok p)
    (hc : crew.Reliable now e result inFlight) (hs : inFlight s = []) (rounds more : Nat) :
    ∃ q notes t q' notes' t',
      (e.withState (List String)).run (run crew.noted rounds p.takeReady.1 p.takeReady.2) ([], s) =
        (q, notes, t) ∧
      (e.withState (List String)).run (run crew.noted (rounds + more) p.takeReady.1 p.takeReady.2)
        ([], s) = (q', notes', t') ∧
      (∀ n st, q.status? n = some st → st.isStarted = true →
        ∀ d, g.DependsOn n d → q.status? d = some .succeeded) ∧
      notes'.Nodup ∧
      ∀ n st, q.status? n = some st → st.isTerminal = true →
        q'.status? n = some st ∧ (∀ d, st = .skipped d → n ∉ notes') := by
  have hfits : (inFlight s).Perm (Site.start p).inFlight := hs ▸ .refl _
  obtain ⟨site, site', ⟨notes, t⟩, ⟨notes', t'⟩, hrun, hrun', hfurther⟩ :=
    hc.serves_noted.run_brings_further (s := ([], s)) rounds more ⟨hfits, rfl⟩
  obtain ⟨hsound, -⟩ := Site.Reachable.sound ⟨p, hp, hrun.events⟩ h
  have hsound' := hsound.steps hfurther
  obtain ⟨⟨given, _⟩, ⟨-, hgiven⟩, hrests⟩ := hrun'.fits
  obtain rfl : notes' = site'.handed := (Crew.rests_noted hrests).trans hgiven
  refine ⟨_, notes, t, _, _, t', hrun.run, hrun'.run, fun n st hst hn d hd => ?_,
    hsound'.handed_nodup, fun n st hst hterm => ?_⟩
  · exact hsound.succeeded_of_dependsOn ⟨st, hst, hn⟩ hd
  · have hst' := hsound.status?_of_steps hfurther hst hterm
    exact ⟨hst', fun d hd => hsound'.not_mem_handed_of_skipped (hd ▸ hst')⟩

/-- **The counts of the loop are exact.** After any number of rounds of any reliable crew, and also
after it is recorded what became of any target that is being built then, each planned target counts
the places at which it lists a dependency that has not succeeded, the lists of dependents fit, and
the queue holds what is ready. Whenever one is taken from a count, there is one to take. -/
theorem run_exact (h : g.plan requested = .ok plan) (hp : Progress.ofPlan g plan = .ok p)
    (hc : crew.Reliable now e result inFlight) (hs : inFlight s = []) (rounds : Nat) :
    ∃ q s', e.run (run crew rounds p.takeReady.1 p.takeReady.2) s = (q, s') ∧
      q.names = plan.names ∧ q.IsExact g ∧
      ∀ done : Completion, q.status? done.name = some .building →
        done.result = result done.name →
        (q.complete done).IsExact g ∧
        ∀ m q', q.Decrements done.name m q' → ∃ count, q'.remaining? m = some (count + 1) := by
  have hfits : (inFlight s).Perm (Site.start p).inFlight := hs ▸ .refl _
  obtain ⟨site, s', hrun, hsteps⟩ := hc.run_exists_steps rounds hfits
  obtain ⟨hsound, hnames⟩ := Site.Reachable.sound ⟨p, hp, hsteps⟩ h
  refine ⟨_, s', hrun, hnames, hsound.progress.isExact, fun done hn hr => ⟨?_, fun m q' hq' => ?_⟩⟩
  · exact (hsound.progress.complete hn hr).isExact
  · exact hsound.progress.counts.remaining?_of_decrements hn hq'

/-- **In the loop a target is built when its libraries are there.** After any number of rounds of
any diligent crew, each target that is being built is planned and declared. If it has an artifact,
then its environment can be found and it is built by its job, whoever does that. The libraries of
this job are planned, have succeeded and were given to the toolchain, and the job names one path for
each. -/
theorem run_libraries {config : BuildConfig} {tool : Job → ToolResult} {given : σ → List Job}
    (h : g.plan requested = .ok plan) (hp : Progress.ofPlan g plan = .ok p)
    (hc : crew.Diligent now e g config tool inFlight given) (hs : inFlight s = []) (rounds : Nat) :
    ∃ q s', e.run (run crew rounds p.takeReady.1 p.takeReady.2) s = (q, s') ∧
      ∀ n, q.status? n = some .building → n ∈ plan.names ∧ ∃ t, g.get? n = some t ∧
        (t.hasArtifact = true → ∃ job, g.environment n = .ok job.environment ∧
          Job.ofTarget g config.mode config.buildDir t = .ok job ∧
          (∀ {m : Type → Type} [Monad m] (workshop : Workshop m),
            buildTarget workshop g config t = workshop.build job) ∧
          job.HasLibraries g plan config tool q (given s')) := by
  have hfits : (inFlight s).Perm (Site.start p).inFlight := hs ▸ .refl _
  have hstart : Floor.Sound g config tool { site := .start p } := Floor.sound_start h hp
  obtain ⟨site, s', hrun⟩ :=
    hc.serves.run_brings rounds ⟨hfits, hstart.with_more (List.nil_subset (given s))⟩
  obtain ⟨-, hnames⟩ := Site.Reachable.sound ⟨p, hp, hrun.events⟩ h
  obtain ⟨s₁, ⟨-, hsound⟩, hrests⟩ := hrun.fits
  have hsound' : Floor.Sound g config tool { site, jobs := given s' } :=
    hsound.with_more (hc.given_rests hrests)
  refine ⟨_, s', hrun.run, fun n hn => ?_⟩
  obtain ⟨hplan, t, ht, hjob⟩ := hsound'.exists_job_of_building hnames h hn
  refine ⟨hplan, t, ht, fun hart => ?_⟩
  obtain ⟨job, henv, hjob, hlibs⟩ := hjob hart
  exact ⟨job, henv, hjob, fun workshop => buildTarget_of_job workshop hart hjob, hlibs⟩

end Build

end Buildwright
