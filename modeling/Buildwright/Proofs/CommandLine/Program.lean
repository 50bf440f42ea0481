import Buildwright.CommandLine.Program
import Buildwright.Proofs.Build.Tests
import Buildwright.Proofs.CommandLine.Workspace

/-!
# Complaints come before deeds

A command complains about what it was given, or it does its work and tells with its exit code how
that went. It never does both: finding the project only looks at files, whatever can be wrong with
the graph, the requests and the settings is found out before the first target is built, and behind
that nothing is left that could fail. In particular the names of tests are looked up a second time
when the tests are run, and cannot be unknown then (`CommandLine.exists_runs`).
-/

namespace Buildwright

variable {σ : Type} {host : Host σ} {s : σ}

/-! ### Finding a project -/

theorem Manifest.deeds_load (file : Path) : (load file).deeds host s = [] := by
  rw [load, Procedure.deeds]
  split
  split
  · rfl
  · rfl
  · split <;> rfl

theorem Project.deeds_search (dir : Path) : (search dir).deeds host s = [] := by
  induction dir using search.induct generalizing s with
  | case1 dir ih =>
    rw [search, Procedure.deeds]
    split
    next present s' _ =>
    cases present with
    | true => simp [Manifest.deeds_load]
    | false =>
      dsimp only
      split
      · next above habove => exact ih above habove
      · rfl

theorem Project.deeds_ofFile (file : Path) : (ofFile file).deeds host s = [] := by
  simp [ofFile, Manifest.deeds_load]

/-! ### Building -/

/-- A host carries out procedures. -/
def Execution.ofHost (host : Host σ) : Execution Procedure σ where
  run p s := p.runOn host s
  run_pure _ _ := rfl
  run_bind p f s := Procedure.runOn_bind host p f s

section WithState

variable {τ α β : Type}

/-- What a procedure with a state of its own comes to. -/
theorem runOn_run' (p : StateT τ Procedure α) (t : τ) :
    ((p.run' t).runOn host s).1 = (((Execution.ofHost host).withState τ).run p (t, s)).1 := by
  simp [StateT.run', StateT.run, Execution.withState, Execution.ofHost]

theorem runOn_run_lift (p : Procedure α) (t : τ) :
    ((liftM p : StateT τ Procedure α).run t).runOn host s =
      (((p.runOn host s).1, t), (p.runOn host s).2) :=
  Procedure.runOn_bind host p (fun a => Pure.pure (a, t)) s

theorem deeds_run' (p : StateT τ Procedure α) (t : τ) :
    (p.run' t).deeds host s = (p.run t).deeds host s :=
  (Procedure.deeds_bind host (p.run t) (fun a => Pure.pure a.1) s).trans (List.append_nil _)

theorem deeds_run_bind (p : StateT τ Procedure α) (f : α → StateT τ Procedure β) (t : τ) :
    ((p >>= f).run t).deeds host s = (p.run t).deeds host s ++
      ((f ((p.run t).runOn host s).1.1).run ((p.run t).runOn host s).1.2).deeds host
        ((p.run t).runOn host s).2 :=
  Procedure.deeds_bind host (p.run t) (fun a => (f a.1).run a.2) s

theorem deeds_run_lift (p : Procedure α) (t : τ) :
    ((liftM p : StateT τ Procedure α).run t).deeds host s = p.deeds host s :=
  (Procedure.deeds_bind host p (fun a => Pure.pure (a, t)) s).trans (List.append_nil _)

end WithState

namespace Build

variable {g : Graph} {config : BuildConfig} {plan : Plan} {p : Progress}
  {workshop : Workshop Procedure} {fault : HostFault} {s' : σ}

/-- Workers beside each other come together if the host provides them. -/
theorem run_assemble_workers (jobs programs : Nat) (attempt : String → Procedure Completion)
    (t : Crew.Benches × σ) :
    ((Execution.ofHost host).withState Crew.Benches).run
        (Crew.workers jobs programs attempt).assemble t =
      ((host.employ (max 1 jobs) t.2).1, t.1, (host.employ (max 1 jobs) t.2).2) :=
  (Execution.ofHost host).run_withState_lift _ t.1 t.2

/-- Looking at the clock leaves alone what workers have before them. -/
theorem snd_run_now (workshop : Workshop Procedure) (t : Crew.Benches × σ) :
    (((Execution.ofHost host).withState Crew.Benches).run (liftM workshop.now) t).2 =
      (t.1, (workshop.now.runOn host t.2).2) :=
  congrArg Prod.snd ((Execution.ofHost host).run_withState_lift workshop.now t.1 t.2)

/-- A build whose workers the host does not provide ends with an error, and nothing is done. -/
theorem onHost_of_fault (h : Progress.ofPlan g plan = .ok p) (hne : plan.names ≠ [])
    (hnow : workshop.now.deeds host s = [])
    (hemploy : host.employ (max 1 config.jobs) (workshop.now.runOn host s).2 = (.error fault, s')) :
    ((onHost workshop g config plan).runOn host s).1 = .error (.workerPool fault.message) ∧
      (onHost workshop g config plan).deeds host s = [] := by
  constructor
  · rw [onHost, runOn_run', ofPlan_of_fault h hne]
    rw [snd_run_now, run_assemble_workers, hemploy]
  · rw [onHost, deeds_run', ofPlan, h]
    simp only [hne, if_false, deeds_run_bind, deeds_run_lift, runOn_run_lift, hnow,
      Crew.workers, Procedure.runOn, hemploy]
    rfl

/-- A build whose workers the host provides ends with a report, and so does one that needs none. -/
theorem onHost_of_provided (h : Progress.ofPlan g plan = .ok p)
    (hprovided : plan.names ≠ [] →
      ∃ s', host.employ (max 1 config.jobs) (workshop.now.runOn host s).2 = (.ok (), s')) :
    ∃ report, ((onHost workshop g config plan).runOn host s).1 = .ok report := by
  obtain ⟨t, hbegins⟩ : ∃ t, (Crew.workers config.jobs (programCount g plan)
      (attempt workshop g config)).Begins ((Execution.ofHost host).withState _) plan
        (((Execution.ofHost host).withState _).run (liftM workshop.now) ({}, s)).2 t := by
    rw [snd_run_now]
    unfold Crew.Begins
    split
    · exact ⟨_, rfl⟩
    · next hne =>
      obtain ⟨s', hemploy⟩ := hprovided hne
      rw [run_assemble_workers, hemploy]
      exact ⟨_, rfl⟩
  exact ⟨_, (runOn_run' _ _).trans (congrArg Prod.fst (ofPlan_of_run h hbegins rfl))⟩

/-- A build ends with a report unless it does not begin. -/
theorem onHost_ends (g : Graph) (config : BuildConfig) (plan : Plan)
    (hnow : workshop.now.deeds host s = []) :
    (onHost workshop g config plan).Ends host s fun _ => True := by
  cases hp : Progress.ofPlan g plan with
  | error e =>
    rw [onHost, ofPlan, hp]
    exact .error e
  | ok p =>
    obtain ⟨answer, s', hemploy⟩ : ∃ answer s',
      host.employ (max 1 config.jobs) (workshop.now.runOn host s).2 = (answer, s') := ⟨_, _, rfl⟩
    by_cases hfault : plan.names ≠ [] ∧ ∃ fault, answer = .error fault
    · obtain ⟨hne, fault, rfl⟩ := hfault
      exact .inl ⟨_, onHost_of_fault hp hne hnow hemploy⟩
    · have hprovided : plan.names ≠ [] →
          ∃ s', host.employ (max 1 config.jobs) (workshop.now.runOn host s).2 = (.ok (), s') := by
        intro hne
        cases answer with
        | error fault => exact absurd ⟨hne, fault, rfl⟩ hfault
        | ok => exact ⟨s', hemploy⟩
      obtain ⟨report, hreport⟩ := onHost_of_provided hp hprovided
      exact .inr ⟨report, hreport, trivial⟩

end Build

namespace CommandLine

/-- Looking for a project changes nothing. -/
theorem Workspace.deeds_find (env : Environment) (cwd : Path) (manifest? : Option Path) :
    (find env cwd manifest?).deeds host s = [] := by
  rw [find, Procedure.deeds_bind]
  cases manifest? with
  | none => simp [findProject, Project.deeds_search]
  | some file => simp [findProject, Project.deeds_ofFile]

/-! ### Commands -/

variable {g : Graph} {targets tests : List String}

theorem buildPlan_ends (w : Workspace) (config : BuildConfig) (plan : Plan) :
    (buildPlan w config plan).Ends host s fun _ => True := by
  refine (Build.onHost_ends w.graph config plan rfl).bind ?_ ?_
  · exact fun e => ⟨_, rfl⟩
  · exact fun report s _ => ⟨report, rfl, trivial⟩

theorem reportBuild_ends (w : Workspace) (targets : List String) (options : CompileOptions) :
    (reportBuild w targets options).Ends host s fun r => r.summary = Summary.ofBuild r.build := by
  rw [reportBuild]
  split
  · exact .error _
  · refine (buildPlan_ends w _ _).bind (fun c => ⟨c, rfl⟩) fun build s _ => ⟨_, rfl, rfl⟩

theorem isTest_of_checkTest {n : String} (h : checkTest g n = .ok ()) :
    ∃ t, g.get? n = some t ∧ t.kind = .test := by
  obtain ⟨t, ht, h⟩ := bind_eq_ok_iff.1 h
  rw [Workspace.orComplain, mapError_eq_ok_iff, Catalog.find] at ht
  split at ht
  · next found hget =>
    obtain rfl := Except.ok.inj ht
    refine ⟨found, hget, ?_⟩
    by_contra hk
    simp [hk, throw, throwThe, MonadExceptOf.throw] at h
  · cases ht

theorem areTests_of_testsToRun (h : testsToRun g targets = .ok tests) :
    ∀ n ∈ tests, ∃ t, g.get? n = some t ∧ t.kind = .test := by
  simp only [testsToRun] at h
  generalize (if targets = [] then g.testNames else targets) = named at h
  split at h
  · cases h
  · obtain ⟨⟨⟩, hall, h⟩ := bind_eq_ok_iff.1 h
    obtain rfl := Except.ok.inj h
    exact fun n hn => isTest_of_checkTest (forM_eq_ok_iff.1 hall n hn)

/-- Tests that passed the checks of a command can be run. -/
theorem exists_runs (h : testsToRun g targets = .ok tests) (bench : TestBench Procedure)
    (buildDir : Path) (report : BuildReport) {τ : Type} (host : Host τ) (s : τ) :
    ∃ runs, ((TestRun.all bench g buildDir report tests).runOn host s).1 = .ok runs := by
  obtain ⟨found, hfound, -⟩ := TestRun.exists_tests fun n hn =>
    areTests_of_testsToRun h n (Text.mem_distinct.1 hn)
  rw [TestRun.all, hfound]
  exact ⟨_, by rw [Procedure.runOn_map]⟩

theorem reportTests_ends (w : Workspace) (targets : List String) (options : CompileOptions) :
    (reportTests w targets options).Ends host s fun r =>
      r.summary = (Summary.ofBuild r.build).recordTests r.tests := by
  rw [reportTests]
  split
  · exact .error _
  · next tests plan config hsettled =>
    obtain ⟨_, htests, hsettled⟩ := bind_eq_ok_iff.1 hsettled
    obtain ⟨_, -, hsettled⟩ := bind_eq_ok_iff.1 hsettled
    obtain ⟨_, -, ⟨⟩⟩ := bind_eq_ok_iff.1 hsettled
    refine (buildPlan_ends w config plan).bind (fun c => ⟨c, rfl⟩) fun build s _ => ?_
    obtain ⟨runs, hruns⟩ := exists_runs htests (testBench w.project) config.buildDir build host s
    dsimp only
    rw [Procedure.runOn_bind, hruns]
    exact ⟨_, rfl, rfl⟩

/-! ### Reports -/

/-- `Reports host s env cwd invocation summary`: what is asked for leads to a report on what the
tools gave, and `summary` is the summary of this report. -/
inductive Reports (host : Host σ) (s : σ) (env : Environment) (cwd : Path) :
    Invocation → Summary → Prop
  /-- The report on a build. -/
  | build {targets manifest? options verbose json w s' report} :
      (Workspace.find env cwd manifest?).runOn host s = (.ok w, s') →
      ((reportBuild w targets options).runOn host s').1 = .ok report →
      Reports host s env cwd (.build targets manifest? options verbose json)
        (Summary.ofBuild report.build)
  /-- The report on a build and on the tests that were run behind it. -/
  | test {targets manifest? options verbose json w s' report} :
      (Workspace.find env cwd manifest?).runOn host s = (.ok w, s') →
      ((reportTests w targets options).runOn host s').1 = .ok report →
      Reports host s env cwd (.test targets manifest? options verbose json)
        ((Summary.ofBuild report.build).recordTests report.tests)
  /-- What the linter found. -/
  | lint {files all manifest? verbose json w s' result} :
      (Workspace.find env cwd manifest?).runOn host s = (.ok w, s') →
      ((lintFiles w (filesToLint w.graph files all)).runOn host s').1 = result →
      Reports host s env cwd (.lint files all manifest? verbose json)
        (({} : Summary).recordLint result)

/-- `a.Tells summaries`: the exit code is that of one of these summaries. -/
def Answer.Tells (a : Answer) (summaries : Summary → Prop) : Prop :=
  ∃ summary, summaries summary ∧ a.exitCode = summary.exitCode

/-- A command that shows a report takes its exit code from the summary of the report. -/
theorem tells_of_report {p : Procedure (Except Complaint RunReport)} {shown : RunReport → Answer}
    {summary : RunReport → Summary} {summaries : Summary → Prop}
    (h : p.Ends host s fun r => r.summary = summary r)
    (hcode : ∀ r, (shown r).exitCode = r.summary.exitCode)
    (hsummaries : ∀ r, (p.runOn host s).1 = .ok r → summaries (summary r)) :
    (do return (← p).map shown : Procedure (Except Complaint Answer)).Ends host s
      (Answer.Tells · summaries) := by
  rcases h.map shown with herror | ⟨a, ha, r, hr, hsummary, rfl⟩
  · exact .inl herror
  · exact .inr ⟨_, ha, summary r, hsummaries r hr, (hcode r).trans (by rw [hsummary])⟩

/-- Checking files never fails, and neither does showing what the linter found. -/
theorem runLint_ends (w : Workspace) (console : Console) (files : List String) (all json : Bool)
    {summaries : Summary → Prop}
    (h : summaries (({} : Summary).recordLint
      ((lintFiles w (filesToLint w.graph files all)).runOn host s).1)) :
    (runLint w console files all json).Ends host s (Answer.Tells · summaries) := by
  rw [Procedure.Ends, runLint, Procedure.runOn_bind]
  refine .inr ⟨_, rfl, _, h, ?_⟩
  split <;> rfl

/-! ### The program -/

/-- Standard error stays empty exactly if there is an answer: every complaint has a text. -/
theorem stderr_ofResult_eq_iff {r : Except Complaint Answer} :
    (Output.ofResult r).stderr = "" ↔ ∃ a, r = .ok a := by
  cases r with
  | ok a => simp [Output.ofResult]
  | error c => simp [Output.ofResult, Complaint.text]

/-- `IsPrudent host s summaries p`: a procedure that ends with something on standard error has done
nothing before, and one that has done something ends with the exit code of one of the summaries. -/
structure IsPrudent (host : Host σ) (s : σ) (summaries : Summary → Prop) (p : Procedure Output) :
    Prop where
  deeds_eq_nil : (p.runOn host s).1.stderr ≠ "" → p.deeds host s = []
  exists_summary : p.deeds host s ≠ [] →
    ∃ summary, summaries summary ∧ (p.runOn host s).1.exitCode = summary.exitCode

namespace IsPrudent

variable {summaries : Summary → Prop}

theorem of_deeds {p : Procedure Output} (h : p.deeds host s = []) : IsPrudent host s summaries p :=
  ⟨fun _ => h, fun hne => absurd h hne⟩

/-- What is prudent stays so behind a procedure that does nothing. -/
theorem bind {α : Type} {p : Procedure α} {f : α → Procedure Output} (hp : p.deeds host s = [])
    (hf : IsPrudent host (p.runOn host s).2 summaries (f (p.runOn host s).1)) :
    IsPrudent host s summaries (p >>= f) where
  deeds_eq_nil h := by
    rw [Procedure.deeds_bind, hp, List.nil_append]
    rw [Procedure.runOn_bind] at h
    exact hf.deeds_eq_nil h
  exists_summary h := by
    rw [Procedure.deeds_bind, hp, List.nil_append] at h
    rw [Procedure.runOn_bind]
    exact hf.exists_summary h

/-- A command that ends well is prudent when its result is shown. -/
theorem of_ends {p : Procedure (Except Complaint Answer)}
    (h : p.Ends host s (Answer.Tells · summaries)) :
    IsPrudent host s summaries (Output.ofResult <$> p) := by
  have hdeeds : (Output.ofResult <$> p).deeds host s = p.deeds host s :=
    (Procedure.deeds_bind host p (fun r => Pure.pure (Output.ofResult r)) s).trans (by simp)
  constructor <;> rw [hdeeds, Procedure.runOn_map]
  · intro hne
    rcases h with ⟨_, -, hp⟩ | ⟨a, ha, -⟩
    · exact hp
    · exact absurd (stderr_ofResult_eq_iff.2 ⟨a, ha⟩) hne
  · intro hne
    rcases h with ⟨_, -, hp⟩ | ⟨a, ha, summary, hsummary, hcode⟩
    · exact absurd hp hne
    · exact ⟨summary, hsummary, by rw [ha]; exact hcode⟩

end IsPrudent

/-- A command that does nothing or ends well is prudent. -/
theorem inWorkspace_isPrudent (env : Environment) (cwd : Path) (manifest? : Option Path)
    {work : Workspace → Procedure (Except Complaint Answer)} {summaries : Summary → Prop}
    (h : ∀ w s', (Workspace.find env cwd manifest?).runOn host s = (.ok w, s') →
      (work w).deeds host s' = [] ∨ (work w).Ends host s' (Answer.Tells · summaries)) :
    IsPrudent host s summaries (inWorkspace env cwd manifest? work) := by
  refine .bind (Workspace.deeds_find env cwd manifest?) ?_
  split
  · exact .of_deeds rfl
  · next w hw =>
    rcases h w _ (Prod.ext hw rfl) with h | h
    · exact .of_deeds (by simp [h])
    · exact .of_ends h

theorem run_isPrudent {σ : Type} (host : Host σ) (s : σ) (env : Environment) (cwd : Path)
    (invocation : Invocation) :
    IsPrudent host s (Reports host s env cwd invocation) (invocation.run env cwd) := by
  cases invocation with
  | build targets _ options _ json =>
    refine inWorkspace_isPrudent _ _ _ fun w s' hw => .inr ?_
    exact tells_of_report (reportBuild_ends w targets options) (fun r => by split <;> rfl)
      fun r hr => .build hw hr
  | test targets _ options _ json =>
    refine inWorkspace_isPrudent _ _ _ fun w s' hw => .inr ?_
    exact tells_of_report (reportTests_ends w targets options) (fun r => by split <;> rfl)
      fun r hr => .test hw hr
  | lint files all =>
    refine inWorkspace_isPrudent _ _ _ fun w s' hw => .inr ?_
    exact runLint_ends w _ files all _ (.lint hw rfl)
  | plan => exact inWorkspace_isPrudent _ _ _ fun w s' _ => .inl rfl
  | env => exact inWorkspace_isPrudent _ _ _ fun w s' _ => .inl rfl
  | completions | help | version => exact .of_deeds rfl

/-- **Complaints come before deeds.** Whatever the arguments, the environment and the files are, and
whatever the tools do: if the program ends with a complaint, then it has not started any program and
has not made any directory, and if it has done one of these, then its exit code is that of the
summary of the report that it has made. In particular, once the names of tests have passed the
checks of a command, nothing can go wrong with them when the tests are run, however the build went.
-/
theorem complaints_precede_deeds (args : List String) (env : Environment) (cwd : Path) :
    (∀ {σ : Type} (host : Host σ) (s : σ),
      IsPrudent host s (fun summary => ∃ invocation, Invocation.ofArgs? env args = some invocation ∧
        Reports host s env cwd invocation summary) (runProgram args env cwd)) ∧
    ∀ {g : Graph} {targets tests : List String}, testsToRun g targets = .ok tests →
      ∀ (bench : TestBench Procedure) (buildDir : Path) (report : BuildReport) {σ : Type}
        (host : Host σ) (s : σ),
        ∃ runs, ((TestRun.all bench g buildDir report tests).runOn host s).1 = .ok runs := by
  refine ⟨fun host s => ?_, exists_runs⟩
  rw [runProgram]
  split
  · next invocation hargs =>
    obtain ⟨hdeeds, hsummary⟩ := run_isPrudent host s env cwd invocation
    exact ⟨hdeeds, fun hne => (hsummary hne).imp fun _ h => ⟨⟨invocation, hargs, h.1⟩, h.2⟩⟩
  · exact .of_deeds rfl

open Workspace in
/-- A test that is not declared is complained about. -/
theorem stderr_sample :
    ((runProgram ["test", "ghost"] {} ⟨"/srv/src"⟩).runOn sampleHost ()).1.stderr ≠ "" := by
  obtain ⟨g, hg, hacyclic⟩ := Graph.exists_isOf_iff.2 isSound_sample
  have hfind := (find_eq_ok_iff findProject_sample).2
    (ofProject_eq_ok_iff (w := ⟨sample, g⟩).2 ⟨rfl, rfl, hg, hacyclic⟩)
  have hghost : g.find "ghost" = .error (.unknownTarget "ghost" none) := by
    refine Graph.find_of_contains_eq_false ?_
    rw [← Bool.not_eq_true, hg.contains_iff]
    decide
  have hcheck : checkTest g "ghost" = .error (complain (.unknownTarget "ghost" none)) := by
    rw [checkTest, hghost]
    rfl
  have htests : testsToRun g ["ghost"] = .error (complain (.unknownTarget "ghost" none)) := by
    simp [testsToRun, hcheck]
  have hargs : Invocation.ofArgs? {} ["test", "ghost"] =
      some (.test ["ghost"] none {} false false) := by decide +kernel
  have hwork (console : Console) (s : Unit) :
      ((runTests ⟨sample, g⟩ console ["ghost"] {} false).runOn sampleHost s).1 =
        .error (complain (.unknownTarget "ghost" none)) := by
    rw [runTests, reportTests]
    simp only [htests]
    rfl
  rw [runProgram, hargs]
  dsimp only [Invocation.run]
  rw [inWorkspace, Procedure.runOn_bind, hfind]
  dsimp only
  rw [Procedure.runOn_bind, hwork, Procedure.runOn_pure]
  exact fun h => nomatch stderr_ofResult_eq_iff.1 h

/-- A test that is not declared is complained about, and nothing is done. -/
theorem complaints_precede_deeds_sample :
    ((runProgram ["test", "ghost"] {} ⟨"/srv/src"⟩).runOn Workspace.sampleHost ()).1.stderr ≠ "" ∧
    (runProgram ["test", "ghost"] {} ⟨"/srv/src"⟩).deeds Workspace.sampleHost () = [] ∧
    testsToRun TestRun.probedGraph ["u"] = .ok ["u"] ∧
    ∃ runs, ((TestRun.all (testBench Workspace.sample) TestRun.probedGraph ⟨"build"⟩ {} ["u"]).runOn
      Workspace.sampleHost ()).1 = .ok runs := by
  obtain ⟨hprudent, hruns⟩ := complaints_precede_deeds ["test", "ghost"] {} ⟨"/srv/src"⟩
  have htests : testsToRun TestRun.probedGraph ["u"] = .ok ["u"] := by cbv
  exact ⟨stderr_sample, (hprudent _ _).deeds_eq_nil stderr_sample, htests,
    hruns htests (testBench Workspace.sample) ⟨"build"⟩ {} Workspace.sampleHost ()⟩

end CommandLine

end Buildwright
