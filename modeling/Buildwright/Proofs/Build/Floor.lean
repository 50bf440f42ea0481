import Buildwright.Proofs.Build.Outcome
import Buildwright.Proofs.Graph.Environment

/-!
# Workers and the toolchain

A site tells which targets the crew has, but not what the crew does with them. On the floor the
workers are looked at as well (`Floor.Step`): at any moment some worker builds a target that was
handed to the crew, with a toolchain that writes down the jobs it was given, and at any later moment
the coordinator hears of it. That takes no order of events away and adds none
(`Floor.exists_reachable_iff`). The resolver asks for everything that a target depends on, while the
scheduler counts direct dependencies only; `Floor.Sound` joins the two. Whenever a target is built,
its job can be made, and each library that the job names was built in a job of its own before
(`Floor.libraries_built`).
-/

namespace Buildwright

open Relation

namespace Build

variable {g : Graph} {config : BuildConfig} {tool : Job → ToolResult} {n : String} {t : Target}
  {job : Job} {jobs : List Job}

/-! ### A toolchain that keeps a record -/

/-- A workshop in which each job comes to what `tool` says, and is written down. -/
def recording (tool : Job → ToolResult) : Workshop (StateM (List Job)) where
  build job := modifyGet fun jobs => (tool job, jobs ++ [job])
  now := pure 0

/-- The jobs that are given to the toolchain to build a target: one or none. -/
def jobsOf (g : Graph) (config : BuildConfig) (t : Target) : List Job :=
  if t.hasArtifact then (Job.ofTarget g config.mode config.buildDir t).toOption.toList else []

theorem jobsOf_of_job (h : t.hasArtifact = true)
    (hj : Job.ofTarget g config.mode config.buildDir t = .ok job) : jobsOf g config t = [job] := by
  rw [jobsOf, h, hj]
  rfl

/-- Keeping a record changes nothing of what comes of a target. -/
theorem run_buildTarget_recording (g : Graph) (config : BuildConfig) (tool : Job → ToolResult)
    (t : Target) (jobs : List Job) :
    (buildTarget (recording tool) g config t).run jobs =
      (buildTarget (workshopOf tool) g config t, jobs ++ jobsOf g config t) := by
  unfold buildTarget jobsOf
  split
  · cases Job.ofTarget g config.mode config.buildDir t with
    | error e =>
      rw [Except.toOption, Option.toList, List.append_nil]
      rfl
    | ok job => rfl
  · rw [List.append_nil]
    rfl

theorem run_attempt_recording (h : g.get? n = some t) (jobs : List Job) :
    (attempt (recording tool) g config n).run jobs =
      ({ name := n, result := resultOf g config tool n }, jobs ++ jobsOf g config t) := by
  rw [resultOf_eq h, attempt, Graph.find_of_get? h]
  change (({ name := n, result := ((buildTarget (recording tool) g config t).run jobs).1 } :
    Completion), ((buildTarget (recording tool) g config t).run jobs).2) = _
  rw [run_buildTarget_recording]

/-- The job of a target is made of its environment. -/
theorem environment_of_job (h : g.get? n = some t)
    (hj : Job.ofTarget g config.mode config.buildDir t = .ok job) :
    g.environment n = .ok job.environment ∧
      job.libraries =
        (job.environment.libraries.filterMap g.get?).map (·.artifact config.buildDir) := by
  rw [Job.ofTarget, Graph.name_of_get? h] at hj
  obtain ⟨env, henv, hj⟩ := bind_eq_ok_iff.1 hj
  obtain rfl := Except.ok.inj hj
  exact ⟨henv, rfl⟩

/-- When all of some targets are declared, there is one path for each. -/
theorem forall₂_artifact (buildDir : Path) {names : List String}
    (h : ∀ n ∈ names, ∃ t, g.get? n = some t) :
    List.Forall₂ (fun n path => ∃ t, g.get? n = some t ∧ path = t.artifact buildDir) names
      ((names.filterMap g.get?).map (·.artifact buildDir)) := by
  induction names with
  | nil => exact .nil
  | cons n names ih =>
    obtain ⟨t, ht⟩ := h n (.head _)
    rw [List.filterMap_cons_some ht, List.map_cons]
    exact .cons ⟨t, ht, rfl⟩ (ih fun m hm => h m (.tail _ hm))

end Build

/-- The libraries of a job are there when the progress of a build is `p` and `jobs` were given to
the toolchain: each of them is planned, has succeeded, and was itself given to the toolchain, which
made it; and the job names one path for each of them, in their order. -/
structure Job.HasLibraries (job : Job) (g : Graph) (plan : Plan) (config : BuildConfig)
    (tool : Job → ToolResult) (p : Progress) (jobs : List Job) : Prop where
  built : ∀ lib ∈ job.environment.libraries,
    lib ∈ plan.names ∧ p.status? lib = some .succeeded ∧
      ∃ l made, g.get? lib = some l ∧ Job.ofTarget g config.mode config.buildDir l = .ok made ∧
        made ∈ jobs ∧ (tool made).success = true
  paths : List.Forall₂
    (fun lib path => ∃ l, g.get? lib = some l ∧ path = l.artifact config.buildDir)
    job.environment.libraries job.libraries

/-! ### The floor -/

/-- A building site with its workers. -/
structure Floor where
  site : Site
  /-- What became of the targets that a worker is done with and the coordinator has not heard of. -/
  done : List Completion := []
  /-- The jobs that were given to the toolchain so far. -/
  jobs : List Job := []

namespace Floor

open Build

variable {g : Graph} {plan : Plan} {config : BuildConfig} {tool : Job → ToolResult} {f f' : Floor}
  {m n : String}

/-- The floor after a worker has built a target. -/
def work (g : Graph) (config : BuildConfig) (tool : Job → ToolResult) (f : Floor) (name : String) :
    Floor where
  site := f.site
  done := f.done ++ [((attempt (recording tool) g config name).run f.jobs).1]
  jobs := ((attempt (recording tool) g config name).run f.jobs).2

/-- The floor after the coordinator heard of a target. -/
def hear (f : Floor) (c : Completion) : Floor where
  site := f.site.hear c
  done := f.done.filter (·.name ≠ c.name)
  jobs := f.jobs

/-- One event on the floor, when `tool` is what comes of each job. -/
inductive Step (g : Graph) (config : BuildConfig) (tool : Job → ToolResult) :
    Floor → Floor → Prop where
  /-- The next target is handed to the crew. -/
  | hand {p n ready inFlight handed done jobs} : Step g config tool
      ⟨⟨p, n :: ready, inFlight, handed⟩, done, jobs⟩
      ⟨⟨p, ready, inFlight ++ [n], handed ++ [n]⟩, done, jobs⟩
  /-- A worker builds some target that the crew has and that was not built yet. -/
  | work {f : Floor} {n : String} : n ∈ f.site.inFlight → n ∉ f.done.map (·.name) →
      Step g config tool f (f.work g config tool n)
  /-- The coordinator hears of some target that was built, and how long it took. -/
  | hear {f : Floor} {c : Completion} {duration : Duration} : c ∈ f.done →
      Step g config tool f (f.hear { c with duration := duration })

theorem Step.hand_of_ready {ready : List String} (h : f.site.ready = n :: ready) :
    Step g config tool f
      { f with site := { f.site with
          ready := ready
          inFlight := f.site.inFlight ++ [n]
          handed := f.site.handed ++ [n] } } := by
  obtain ⟨⟨p, _, inFlight, handed⟩, done, jobs⟩ := f
  subst h
  exact .hand

/-- Any number of events. -/
abbrev Steps (g : Graph) (config : BuildConfig) (tool : Job → ToolResult) : Floor → Floor → Prop :=
  ReflTransGen (Step g config tool)

/-- The states in which the floor can be while a plan is built. -/
def Reachable (g : Graph) (plan : Plan) (config : BuildConfig) (tool : Job → ToolResult)
    (f : Floor) : Prop :=
  ∃ p, Progress.ofPlan g plan = .ok p ∧ Steps g config tool { site := .start p } f

theorem work_eq {t : Target} (h : g.get? n = some t) :
    f.work g config tool n =
      { site := f.site
        done := f.done ++ [{ name := n, result := resultOf g config tool n }]
        jobs := f.jobs ++ jobsOf g config t } := by
  rw [work, run_attempt_recording h]

theorem Step.work_of_resultOf {t : Target} {r : ToolResult} (hn : n ∈ f.site.inFlight)
    (hnew : n ∉ f.done.map (·.name)) (ht : g.get? n = some t)
    (hr : resultOf g config tool n = r) :
    Step g config tool f
      { site := f.site
        done := f.done ++ [{ name := n, result := r }]
        jobs := f.jobs ++ jobsOf g config t } := by
  rw [← hr, ← work_eq ht]
  exact .work hn hnew

/-! ### The invariant -/

/-- A worker is done with a target, whether or not the coordinator has heard of it. -/
def Worked (f : Floor) (n : String) : Prop :=
  n ∈ f.done.map (·.name) ∨
    ∃ st, f.site.progress.status? n = some st ∧ st.isTerminal = true ∧ st.isStarted = true

/-- What is true on the floor after each event. -/
structure Sound (g : Graph) (config : BuildConfig) (tool : Job → ToolResult) (f : Floor) :
    Prop where
  site : f.site.Sound g (resultOf g config tool)
  done : ∀ c ∈ f.done, c.name ∈ f.site.inFlight ∧ c.result = resultOf g config tool c.name
  given : ∀ n, f.Worked n → ∀ t, g.get? n = some t → ∀ job ∈ jobsOf g config t, job ∈ f.jobs

namespace Sound

/-- A target that the crew has is declared. -/
theorem exists_target (h : Sound g config tool f) (hn : n ∈ f.site.inFlight) :
    ∃ t, g.get? n = some t := by
  have hb := h.site.status?_of_mem_inFlight hn
  obtain ⟨t, -, -, ht⟩ := h.site.progress.exists_target (Progress.mem_names_of_status? hb)
  exact ⟨t, ht⟩

theorem hand {p n ready inFlight handed done jobs}
    (h : Sound g config tool ⟨⟨p, n :: ready, inFlight, handed⟩, done, jobs⟩) :
    Sound g config tool ⟨⟨p, ready, inFlight ++ [n], handed ++ [n]⟩, done, jobs⟩ where
  site := h.site.hand
  done c hc := ⟨List.mem_append_left _ (h.done c hc).1, (h.done c hc).2⟩
  given := h.given

theorem work (h : Sound g config tool f) (hn : n ∈ f.site.inFlight) :
    Sound g config tool (f.work g config tool n) := by
  obtain ⟨t, ht⟩ := h.exists_target hn
  rw [work_eq ht]
  refine ⟨h.site, fun c hc => ?_, fun m hm u hu job hj => ?_⟩
  · rcases List.mem_append.1 hc with hc | hc
    · exact h.done c hc
    · obtain rfl := List.mem_singleton.1 hc
      exact ⟨hn, rfl⟩
  · rw [Worked, List.map_append, List.mem_append] at hm
    rcases hm with (hm | hm) | hm
    · exact List.mem_append_left _ (h.given m (.inl hm) u hu job hj)
    · obtain rfl : m = n := List.mem_singleton.1 hm
      obtain rfl : t = u := Option.some.inj (ht.symm.trans hu)
      exact List.mem_append_right _ hj
    · exact List.mem_append_left _ (h.given m (.inr hm) u hu job hj)

/-- Hearing of a target does not add to those that a worker is done with. -/
theorem worked_of_hear (h : Sound g config tool f) {c : Completion} (hc : c ∈ f.done)
    {duration : Duration} (hm : (f.hear { c with duration := duration }).Worked m) :
    f.Worked m := by
  obtain ⟨hd, hr⟩ := h.done c hc
  have hn := h.site.status?_of_mem_inFlight hd
  rcases hm with hm | ⟨st, hst, hterm, hstart⟩
  · exact .inl ((List.filter_sublist.map _).subset hm)
  by_cases hmc : m = c.name
  · exact .inl (hmc ▸ List.mem_map.2 ⟨c, hc, rfl⟩)
  · have hq : Progress.Sound g (resultOf g config tool)
        (f.site.progress.complete { c with duration := duration }) :=
      h.site.progress.complete hn hr
    have hst' := (hq.counts.status?_of_takeReady hst (by rintro rfl; cases hterm)).2
    rcases h.site.progress.status?_complete_of_ne hn hmc with he | ⟨-, d, hd⟩
    · exact .inr ⟨st, he ▸ hst', hterm, hstart⟩
    · obtain rfl := Option.some.inj (hst'.symm.trans hd)
      cases hstart

theorem hear (h : Sound g config tool f) {c : Completion} (hc : c ∈ f.done)
    (duration : Duration) : Sound g config tool (f.hear { c with duration := duration }) := by
  obtain ⟨hd, hr⟩ := h.done c hc
  refine ⟨h.site.hear hd hr, fun c' hc' => ?_, fun m hm => h.given m (h.worked_of_hear hc hm)⟩
  obtain ⟨hc', hne⟩ := List.mem_filter.1 hc'
  obtain ⟨hd', hr'⟩ := h.done c' hc'
  exact ⟨(List.mem_erase_of_ne (of_decide_eq_true hne)).2 hd', hr'⟩

/-- Building a target and hearing of it at once. -/
theorem told {s : Site} {jobs : List Job} {c : Completion} {t : Target}
    (h : Sound g config tool { site := s, jobs }) (hn : c.name ∈ s.inFlight)
    (hr : c.result = resultOf g config tool c.name) (ht : g.get? c.name = some t) :
    Sound g config tool { site := s.hear c, jobs := jobs ++ jobsOf g config t } := by
  obtain ⟨n, r, duration⟩ := c
  obtain rfl : r = resultOf g config tool n := hr
  have hwork := h.work hn
  rw [work_eq ht] at hwork
  simpa [Floor.hear] using hwork.hear (.head _) duration

/-- The toolchain may have been given more. -/
theorem with_more {s : Site} {jobs jobs' : List Job} (h : Sound g config tool { site := s, jobs })
    (hjobs : jobs ⊆ jobs') : Sound g config tool { site := s, jobs := jobs' } where
  site := h.site
  done := h.done
  given n hn t ht job hj := hjobs (h.given n hn t ht job hj)

/-- **Each event keeps the invariant.** -/
theorem step (h : Sound g config tool f) (hs : Step g config tool f f') :
    Sound g config tool f' := by
  cases hs with
  | hand => exact h.hand
  | work hn => exact h.work hn
  | hear hc => exact h.hear hc _

/-- **A whole build keeps what each event keeps.** -/
theorem steps (h : Sound g config tool f) (hs : Steps g config tool f f') :
    Sound g config tool f' := by
  induction hs with
  | refl => exact h
  | tail _ hs ih => exact ih.step hs

/-- On the floor nothing happens to the site that could not happen without workers. -/
theorem site_steps (h : Sound g config tool f) (hs : Steps g config tool f f') :
    Site.Steps (resultOf g config tool) f.site f'.site := by
  induction hs with
  | refl => exact .refl
  | tail hs hs' ih =>
    cases hs' with
    | hand => exact ih.tail .hand
    | work => exact ih
    | hear hc =>
      obtain ⟨hd, hr⟩ := (h.steps hs).done _ hc
      exact ih.tail (.hear hd hr)

/-- Whatever can happen to a site can happen on the floor, with each target built just before the
coordinator hears of it. -/
theorem exists_steps (h : Sound g config tool f) (hf : f.done = []) {s : Site}
    (hs : Site.Steps (resultOf g config tool) f.site s) :
    ∃ f', Steps g config tool f f' ∧ f'.site = s ∧ f'.done = [] := by
  induction hs with
  | refl => exact ⟨f, .refl, rfl, hf⟩
  | tail _ hs ih =>
    obtain ⟨⟨s, done, jobs⟩, hsteps, rfl, rfl⟩ := ih
    cases hs with
    | hand => exact ⟨_, hsteps.tail .hand, rfl, rfl⟩
    | @hear _ c hn hr =>
      obtain ⟨n, r, duration⟩ := c
      obtain rfl : r = resultOf g config tool n := hr
      obtain ⟨t, ht⟩ := (h.steps hsteps).exists_target hn
      have hwork : Step g config tool ⟨s, [], jobs⟩
          ⟨s, [{ name := n, result := resultOf g config tool n }], jobs ++ jobsOf g config t⟩ :=
        .work_of_resultOf hn List.not_mem_nil ht rfl
      exact ⟨_, (hsteps.tail hwork).tail (.hear (.head _)), rfl, by simp [Floor.hear]⟩

end Sound

/-- The invariant holds when nothing has been built. -/
theorem sound_start {requested : List String} (h : g.plan requested = .ok plan) {p : Progress}
    (hp : Progress.ofPlan g plan = .ok p) : Sound g config tool { site := .start p } := by
  obtain ⟨-, hsound, hpending⟩ := Progress.sound_of_ofPlan h hp (resultOf g config tool)
  refine ⟨Site.sound_start hsound hpending, nofun, fun n hn => ?_⟩
  rcases hn with hn | ⟨st, hst, hterm, -⟩
  · cases hn
  · obtain ⟨-, hst⟩ := hsound.counts.status?_of_takeReady hst (by rintro rfl; cases hterm)
    obtain rfl := hpending n st hst
    cases hterm

variable {requested : List String}

/-- **The invariant holds in every state that the floor can reach.** -/
theorem Reachable.sound (hf : Reachable g plan config tool f) (h : g.plan requested = .ok plan) :
    Sound g config tool f ∧ f.site.progress.names = plan.names := by
  obtain ⟨p, hp, hs⟩ := hf
  have hstart : Sound g config tool { site := .start p } := sound_start h hp
  exact ⟨hstart.steps hs, (Site.Reachable.sound ⟨p, hp, hstart.site_steps hs⟩ h).2⟩

/-- **Workers change nothing of the order of events**: on the floor, the site can be in the same
states as without it. -/
theorem exists_reachable_iff (h : g.plan requested = .ok plan) {s : Site} :
    (∃ f, Reachable g plan config tool f ∧ f.site = s) ↔
      Site.Reachable g plan (resultOf g config tool) s := by
  constructor
  · rintro ⟨f, ⟨p, hp, hs⟩, rfl⟩
    exact ⟨p, hp, (sound_start h hp).site_steps hs⟩
  · rintro ⟨p, hp, hs⟩
    obtain ⟨f, hsteps, hsite, -⟩ := (sound_start h hp).exists_steps rfl hs
    exact ⟨f, ⟨p, hp, hsteps⟩, hsite⟩

namespace Sound

/-- Each library of a target that is being built was built. -/
theorem library_built (hsound : Sound g config tool f)
    (hnames : f.site.progress.names = plan.names) (h : g.plan requested = .ok plan)
    (hn : f.site.progress.status? n = some .building) {env : BuildEnvironment}
    (henv : g.environment n = .ok env) {lib : String} (hlib : lib ∈ env.libraries) :
    lib ∈ plan.names ∧ f.site.progress.status? lib = some .succeeded ∧
      ∃ l job, g.get? lib = some l ∧ Job.ofTarget g config.mode config.buildDir l = .ok job ∧
        job ∈ f.jobs ∧ (tool job).success = true := by
  obtain ⟨hdep, l, hl, hkind⟩ := (Graph.mem_libraries_iff henv).1 hlib
  have hst : f.site.progress.status? lib = some .succeeded :=
    hsound.site.succeeded_of_dependsOn ⟨_, hn, rfl⟩ hdep
  have hplan : lib ∈ plan.names := hnames ▸ Progress.mem_names_of_status? hst
  obtain ⟨job, hjob⟩ := exists_job config h hplan hl
  have hart : l.hasArtifact = true := by
    rw [← Bool.not_eq_false, Target.hasArtifact_eq_false_iff]
    exact fun hc => hkind.2 hc.2
  refine ⟨hplan, hst, l, job, hl, hjob, ?_, ?_⟩
  · exact hsound.given lib (.inr ⟨_, hst, rfl, rfl⟩) l hl job (jobsOf_of_job hart hjob ▸ .head _)
  · have hgood := hsound.site.progress.succeeded lib hst
    rwa [resultOf_eq hl, buildTarget_of_job _ hart hjob] at hgood

/-- A target that is being built is planned and declared. If it has an artifact, then its job can be
made, and the libraries of the job are there. -/
theorem exists_job_of_building (hsound : Sound g config tool f)
    (hnames : f.site.progress.names = plan.names) (h : g.plan requested = .ok plan)
    (hn : f.site.progress.status? n = some .building) :
    n ∈ plan.names ∧ ∃ t, g.get? n = some t ∧ (t.hasArtifact = true →
      ∃ job, g.environment n = .ok job.environment ∧
        Job.ofTarget g config.mode config.buildDir t = .ok job ∧
        job.HasLibraries g plan config tool f.site.progress f.jobs) := by
  have hmem := Progress.mem_names_of_status? hn
  obtain ⟨t, -, -, ht⟩ := hsound.site.progress.exists_target hmem
  refine ⟨hnames ▸ hmem, t, ht, fun _ => ?_⟩
  obtain ⟨job, hjob⟩ := exists_job config h (hnames ▸ hmem) ht
  obtain ⟨henv, hlibs⟩ := environment_of_job ht hjob
  have hbuilt {lib : String} (hlib : lib ∈ job.environment.libraries) :=
    hsound.library_built hnames h hn henv hlib
  refine ⟨job, henv, hjob, fun lib hlib => hbuilt hlib, ?_⟩
  rw [hlibs]
  refine forall₂_artifact config.buildDir fun lib hlib => ?_
  obtain ⟨-, -, l, -, hl, -⟩ := hbuilt hlib
  exact ⟨l, hl⟩

end Sound

/-- **A target is built when its libraries are there.** Whatever the tools give and in whichever
order the workers build and the coordinator hears of it, a target that the crew has is planned and
declared, and if it has an artifact, then its environment can be found and its job is what the
toolchain is given, with no other outcome than what the toolchain makes of it. Each library of the
environment is planned, has succeeded, and was itself given to the toolchain, which made it; and the
job names one path for each of them, in their order. -/
theorem libraries_built (h : g.plan requested = .ok plan) (hf : Reachable g plan config tool f)
    (hn : n ∈ f.site.inFlight) :
    n ∈ plan.names ∧ ∃ t, g.get? n = some t ∧ (t.hasArtifact = true →
      ∃ env job, g.environment n = .ok env ∧
        Job.ofTarget g config.mode config.buildDir t = .ok job ∧ job.environment = env ∧
        (attempt (recording tool) g config n).run f.jobs =
          ({ name := n, result := tool job }, f.jobs ++ [job]) ∧
        (∀ lib ∈ env.libraries,
          lib ∈ plan.names ∧ f.site.progress.status? lib = some .succeeded ∧
            ∃ l made, g.get? lib = some l ∧
              Job.ofTarget g config.mode config.buildDir l = .ok made ∧ made ∈ f.jobs ∧
              (tool made).success = true) ∧
        List.Forall₂ (fun lib path => ∃ l, g.get? lib = some l ∧ path = l.artifact config.buildDir)
          env.libraries job.libraries) := by
  obtain ⟨hsound, hnames⟩ := hf.sound h
  obtain ⟨hplan, t, ht, hjob⟩ :=
    hsound.exists_job_of_building hnames h (hsound.site.status?_of_mem_inFlight hn)
  refine ⟨hplan, t, ht, fun hart => ?_⟩
  obtain ⟨job, henv, hjob, hlibs⟩ := hjob hart
  refine ⟨job.environment, job, henv, hjob, rfl, ?_, hlibs.built, hlibs.paths⟩
  rw [run_attempt_recording ht, jobsOf_of_job hart hjob, resultOf_eq ht,
    buildTarget_of_job _ hart hjob]
  rfl

/-- A program that needs a library through a library of headers is built after both of them. Only
the first of them was given to the toolchain, and only that one is linked. -/
theorem libraries_built_layered :
    ∃ f job, Graph.layered.plan ["g"] = .ok ⟨["c", "h", "g"]⟩ ∧
      Reachable Graph.layered ⟨["c", "h", "g"]⟩ {} (fun _ => .succeeded "") f ∧
      f.site.inFlight = ["g"] ∧ f.jobs.map (·.target.name) = ["c"] ∧
      Graph.layered.environment "g" = .ok { libraries := ["c"] } ∧
      (attempt (recording fun _ => .succeeded "") Graph.layered {} "g").run f.jobs =
        ({ name := "g", result := .succeeded "" }, f.jobs ++ [job]) ∧
      f.site.progress.status? "c" = some .succeeded ∧
      List.Forall₂ (fun lib path => ∃ l, Graph.layered.get? lib = some l ∧
        path = l.artifact ({} : BuildConfig).buildDir) ["c"] job.libraries := by
  let tool : Job → ToolResult := fun _ => .succeeded ""
  let c : Target := { name := "c", kind := .library, sources := ["c.c"] }
  let h : Target := { name := "h", kind := .library, headers := ["h.h"], deps := ["c"] }
  let p : Target := { name := "g", kind := .program, sources := ["g.c"], deps := ["h"] }
  have hc : resultOf Graph.layered {} tool "c" = .succeeded "" := by cbv
  have hh : resultOf Graph.layered {} tool "h" = .succeeded "" := by cbv
  have hp : Graph.layered.plan ["g"] = .ok ⟨["c", "h", "g"]⟩ := by cbv
  have henv : Graph.layered.environment "g" = .ok { libraries := ["c"] } := by cbv
  let made := jobsOf Graph.layered {} c
  let jobs := made ++ jobsOf Graph.layered {} h
  have hjobs : (jobsOf Graph.layered {} c ++ jobsOf Graph.layered {} h).map (·.target.name) =
      ["c"] := by cbv
  let s₀ : Site := .start (.ofTargets [c, h, p])
  let s₁ : Site := { s₀ with ready := [], inFlight := ["c"], handed := ["c"] }
  have h₁ : Step Graph.layered {} tool ⟨s₀, [], []⟩ ⟨s₁, [], []⟩ := .hand_of_ready (by decide)
  have h₂ : Step Graph.layered {} tool ⟨s₁, [], []⟩
      ⟨s₁, [{ name := "c", result := .succeeded "" }], made⟩ :=
    .work_of_resultOf (.head _) List.not_mem_nil rfl hc
  let s₂ : Site := s₁.hear { name := "c", result := .succeeded "" }
  have h₃ : Step Graph.layered {} tool ⟨s₁, [{ name := "c", result := .succeeded "" }], made⟩
      ⟨s₂, [], made⟩ := .hear (c := { name := "c", result := .succeeded "" }) (.head _)
  let s₃ : Site := { s₂ with ready := [], inFlight := ["h"], handed := ["c", "h"] }
  have h₄ : Step Graph.layered {} tool ⟨s₂, [], made⟩ ⟨s₃, [], made⟩ :=
    .hand_of_ready (by decide)
  have h₅ : Step Graph.layered {} tool ⟨s₃, [], made⟩
      ⟨s₃, [{ name := "h", result := .succeeded "" }], jobs⟩ :=
    .work_of_resultOf (.head _) List.not_mem_nil rfl hh
  let s₄ : Site := s₃.hear { name := "h", result := .succeeded "" }
  have h₆ : Step Graph.layered {} tool ⟨s₃, [{ name := "h", result := .succeeded "" }], jobs⟩
      ⟨s₄, [], jobs⟩ := .hear (c := { name := "h", result := .succeeded "" }) (.head _)
  let s₅ : Site := { s₄ with ready := [], inFlight := ["g"], handed := ["c", "h", "g"] }
  have h₇ : Step Graph.layered {} tool ⟨s₄, [], jobs⟩ ⟨s₅, [], jobs⟩ := .hand_of_ready (by decide)
  have hf : Reachable Graph.layered ⟨["c", "h", "g"]⟩ {} tool ⟨s₅, [], jobs⟩ :=
    ⟨_, rfl, .head h₁ <| .head h₂ <| .head h₃ <| .head h₄ <| .head h₅ <| .head h₆ <| .single h₇⟩
  obtain ⟨-, t, ht, hbuilt⟩ := libraries_built hp hf (.head _)
  obtain rfl : { name := "g", kind := .program, sources := ["g.c"], deps := ["h"] } = t :=
    Option.some.inj ht
  obtain ⟨env, job, henv', -, -, hrun, hlibs, hpaths⟩ := hbuilt rfl
  obtain rfl := Except.ok.inj (henv.symm.trans henv')
  exact ⟨⟨s₅, [], jobs⟩, job, hp, hf, rfl, hjobs, henv, hrun, (hlibs "c" (.head _)).2.1, hpaths⟩

end Floor

end Buildwright
