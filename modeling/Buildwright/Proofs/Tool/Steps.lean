import Buildwright.Proofs.Tool.Events
import Buildwright.Tool.Toolchain
import Mathlib.Data.List.Infix

/-!
# The steps of a job

A toolchain has a list of steps for each job: the directory of the artifact, then for each source
the directory of its object file and the compiler, and at the end the archiver or the linker
(`Toolchain.steps`). It takes them in turn until one of them fails (`Toolchain.build_eq`). What that
comes to is said without any assumption on the host or on the programs
(`Toolchain.build_carriesOut`).
-/

namespace Buildwright

namespace Job

/-- The object files of a job, one for each source. -/
def objects (job : Job) : List Path := job.target.sources.map (objectPath job.objectDir)

end Job

namespace Toolchain

open Procedure

/-! ### Steps -/

/-- What is done to have the directory of a file. -/
def directorySteps (tc : Toolchain) (file : Path) : List Deed :=
  (file.parent?.map fun parent => .createDirs ((tc.workingDir?.getD ⟨"."⟩).join parent)).toList

/-- What is done to compile a source. -/
def compileSteps (tc : Toolchain) (job : Job) (source : String) : List Deed :=
  tc.directorySteps (Job.objectPath job.objectDir source) ++ [.start (tc.compileCommand job source)]

/-- All that a job takes. -/
def steps (tc : Toolchain) (job : Job) : List Deed :=
  tc.directorySteps job.artifact ++ job.target.sources.flatMap (tc.compileSteps job) ++
    [.start (tc.finalCommand job job.objects)]

theorem inTurn_directorySteps (tc : Toolchain) (file : Path) (log : String) :
    inTurn (tc.directorySteps file) log = (do
      match ← tc.createParent file with
      | .error fault => return .error (.neverRan fault.message log)
      | .ok () => return .ok log) := by
  rw [createParent, directorySteps]
  cases file.parent? with
  | none => rfl
  | some parent =>
    refine congrArg (createDirs _) (funext fun answer => ?_)
    cases answer with
    | error fault =>
      change Procedure.pure (Except.error (ToolResult.neverRan fault.message (log ++ ""))) = _
      rw [String.append_empty]
      rfl
    | ok =>
      change Procedure.pure (Except.ok (log ++ "")) = _
      rw [String.append_empty]
      rfl

theorem step_eq (command : Command) (log : String) :
    step command log = inTurn [.start command] log := (inTurn_start command log).symm

theorem compileAll_eq (tc : Toolchain) (job : Job) (sources : List String) (log : String) :
    tc.compileAll job sources log = inTurn (sources.flatMap (tc.compileSteps job)) log := by
  induction sources generalizing log with
  | nil => rfl
  | cons source sources ih =>
    rw [List.flatMap_cons, compileSteps, inTurn_append, inTurn_append, inTurn_directorySteps,
      compileAll]
    simp only [bind_assoc, ← step_eq]
    refine congrArg _ (funext fun answer => ?_)
    cases answer with
    | error fault => rfl
    | ok =>
      refine congrArg (step (tc.compileCommand job source) log >>= ·) (funext fun answer => ?_)
      cases answer with
      | error result => rfl
      | ok log => exact ih log

/-- A toolchain takes the steps of a job in turn. -/
theorem build_eq (tc : Toolchain) (job : Job) :
    tc.build job = (do
      let last ← inTurn (tc.steps job) ""
      return .ofLast last) := by
  rw [steps, inTurn_append, inTurn_append, inTurn_directorySteps, build]
  simp only [bind_assoc, ← step_eq, ← compileAll_eq]
  refine congrArg _ (funext fun answer => ?_)
  cases answer with
  | error fault => rfl
  | ok =>
    refine congrArg (tc.compileAll job job.target.sources "" >>= ·) (funext fun answer => ?_)
    cases answer with
    | error result => rfl
    | ok log =>
      refine congrArg (step (tc.finalCommand job job.objects) log >>= ·) (funext fun answer => ?_)
      cases answer <;> rfl

end Toolchain

/-! ### Programs of a job -/

namespace Job

variable (job : Job) (events : List Event)

/-- The programs that were started for the sources of a job, one for each. -/
def compiles : List Event := (events.filter (·.deed.isStart)).take job.target.sources.length

/-- The programs that were started behind these. -/
def finals : List Event := (events.filter (·.deed.isStart)).drop job.target.sources.length

theorem compiles_append_finals :
    job.compiles events ++ job.finals events = events.filter (·.deed.isStart) :=
  List.take_append_drop _ _

/-- Whether every source was compiled. -/
def AllCompiled : Prop :=
  (job.compiles events).length = job.target.sources.length ∧
    ∀ e ∈ job.compiles events, e.succeeded = true

variable {job events}

theorem finals_ne_nil_iff_length : job.finals events ≠ [] ↔
    job.target.sources.length < (events.filter (·.deed.isStart)).length := by
  rw [finals, Ne, List.drop_eq_nil_iff, Nat.not_le]

theorem length_compiles (h : job.finals events ≠ []) :
    (job.compiles events).length = job.target.sources.length := by
  rw [compiles, List.length_take, Nat.min_eq_left (finals_ne_nil_iff_length.1 h).le]

end Job

namespace Toolchain

open Procedure

variable {tc : Toolchain} {job : Job} {events : List Event}

theorem filter_directorySteps (tc : Toolchain) (file : Path) :
    (tc.directorySteps file).filter Deed.isStart = [] := by
  unfold directorySteps
  cases file.parent? <;> rfl

theorem filter_flatMap_compileSteps (tc : Toolchain) (job : Job) (sources : List String) :
    (sources.flatMap (tc.compileSteps job)).filter Deed.isStart =
      sources.map fun source => .start (tc.compileCommand job source) := by
  induction sources with
  | nil => rfl
  | cons source sources ih =>
    rw [List.flatMap_cons, List.filter_append, ih, compileSteps, List.filter_append,
      filter_directorySteps]
    rfl

theorem filter_steps (tc : Toolchain) (job : Job) : (tc.steps job).filter Deed.isStart =
    (job.target.sources.map fun source => .start (tc.compileCommand job source)) ++
      [.start (tc.finalCommand job job.objects)] := by
  rw [steps, List.filter_append, List.filter_append, filter_directorySteps,
    filter_flatMap_compileSteps]
  rfl

theorem length_starts (events : List Event) : (events.filter (·.deed.isStart)).length =
    ((events.map (·.deed)).filter Deed.isStart).length := by
  rw [List.filter_map, List.length_map]
  rfl

/-- The programs of a job are started in order. -/
theorem starts_inOrder (h : events.map (·.deed) <+: tc.steps job) :
    (events.filter (·.deed.isStart)).map (·.deed) <+:
      (job.target.sources.map fun source => .start (tc.compileCommand job source)) ++
        [.start (tc.finalCommand job job.objects)] := by
  have hstarts := h.filter Deed.isStart
  rwa [filter_steps, List.filter_map] at hstarts

theorem compiles_inOrder (h : events.map (·.deed) <+: tc.steps job) :
    (job.compiles events).map (·.deed) <+:
      job.target.sources.map fun source => .start (tc.compileCommand job source) := by
  have htake := (starts_inOrder h).take job.target.sources.length
  rwa [← List.map_take, List.take_left' (List.length_map _)] at htake

theorem finals_inOrder (h : events.map (·.deed) <+: tc.steps job) :
    (job.finals events).map (·.deed) <+: [.start (tc.finalCommand job job.objects)] := by
  have hdrop := (starts_inOrder h).drop job.target.sources.length
  rwa [← List.map_drop, List.drop_left' (List.length_map _)] at hdrop

/-- The last command is run exactly if all steps are taken. -/
theorem finals_ne_nil_iff_all (h : events.map (·.deed) <+: tc.steps job) :
    job.finals events ≠ [] ↔ events.map (·.deed) = tc.steps job := by
  rw [Job.finals_ne_nil_iff_length, length_starts]
  constructor
  · intro hlt
    rcases List.prefix_concat_iff.1 h with hall | hbefore
    · exact hall
    · have hle := (hbefore.filter Deed.isStart).length_le
      rw [List.filter_append, filter_directorySteps, filter_flatMap_compileSteps, List.nil_append,
        List.length_map] at hle
      exact absurd hlt (Nat.not_lt.2 hle)
  · intro hall
    rw [hall, filter_steps]
    simp

/-- What comes before the last command has succeeded. -/
theorem allCompiled_of_finals (h : DoneInTurn (tc.steps job) events)
    (hfinals : job.finals events ≠ []) :
    job.AllCompiled events ∧ ∀ e ∈ events, e.deed.isStart = false → e.succeeded = true := by
  refine ⟨⟨Job.length_compiles hfinals, fun e he => ?_⟩, fun e he hstart => ?_⟩
  · obtain ⟨last, hlast⟩ := List.exists_mem_of_ne_nil _ hfinals
    have hstarts := h.goesOn.filter (·.deed.isStart)
    rw [← job.compiles_append_finals, List.pairwise_append] at hstarts
    exact hstarts.2.2 e he last hlast
  · obtain ⟨init, _, rfl, -, hlast⟩ :=
      List.map_eq_append_iff.1 ((finals_ne_nil_iff_all h.order).1 hfinals)
    obtain ⟨last, rfl, hdeed⟩ := List.map_eq_singleton_iff.1 hlast
    rcases List.mem_append.1 he with he | he
    · exact (List.pairwise_append.1 h.goesOn).2.2 e he last (List.mem_singleton_self last)
    · obtain rfl := List.mem_singleton.1 he
      simp [hdeed, Deed.isStart] at hstart

/-- If every source is compiled and the last command is not run, then in the end a directory could
not be made. -/
theorem exists_of_allCompiled (h : DoneInTurn (tc.steps job) events)
    (hall : job.AllCompiled events) (hfinals : job.finals events = []) :
    ∃ e ∈ events.getLast?, e.deed.isStart = false ∧ e.succeeded = false := by
  have hnot : events.map (·.deed) ≠ tc.steps job := fun heq =>
    (finals_ne_nil_iff_all h.order).2 heq hfinals
  obtain ⟨e, hlast, hfailed⟩ := h.stops.resolve_left hnot
  refine ⟨e, hlast, eq_false_of_ne_true fun hstart => ?_, hfailed⟩
  have hmem : e ∈ job.compiles events ++ job.finals events := by
    rw [job.compiles_append_finals]
    exact List.mem_filter.2 ⟨List.mem_of_getLast? hlast, hstart⟩
  rw [hfinals, List.append_nil] at hmem
  simp [hall.2 e hmem] at hfailed

theorem finals_ne_nil_iff (h : DoneInTurn (tc.steps job) events) :
    job.finals events ≠ [] ↔ job.AllCompiled events ∧
      ∀ e ∈ events, e.deed.isStart = false → e.succeeded = true := by
  refine ⟨allCompiled_of_finals h, fun ⟨hall, hdirs⟩ hfinals => ?_⟩
  obtain ⟨e, hlast, hstart, hfailed⟩ := exists_of_allCompiled h hall hfinals
  simp [hdirs e (List.mem_of_getLast? hlast) hstart] at hfailed

/-- Behind the last source no directory is asked for any more. -/
theorem finals_ne_nil_iff_allCompiled (h : DoneInTurn (tc.steps job) events)
    (hsources : job.target.sources ≠ []) : job.finals events ≠ [] ↔ job.AllCompiled events := by
  refine ⟨fun hf => (allCompiled_of_finals h hf).1, fun hall hfinals => ?_⟩
  obtain ⟨e, hlast, hstart, -⟩ := exists_of_allCompiled h hall hfinals
  obtain ⟨init, source, hinit⟩ := (List.eq_nil_or_concat _).resolve_left hsources
  have hcount : (events.filter (·.deed.isStart)).length = job.target.sources.length := by
    rw [← job.compiles_append_finals, hfinals, List.append_nil, hall.1]
  have hsteps : tc.steps job =
      (tc.directorySteps job.artifact ++ init.flatMap (tc.compileSteps job) ++
        tc.directorySteps (Job.objectPath job.objectDir source)) ++
        [.start (tc.compileCommand job source)] ++ [.start (tc.finalCommand job job.objects)] := by
    simp [steps, hinit, compileSteps]
  have horder := h.order
  rw [hsteps, List.prefix_concat_iff, List.prefix_concat_iff, ← hsteps] at horder
  rcases horder with heq | heq | hbefore
  · exact (finals_ne_nil_iff_all h.order).2 heq hfinals
  · have hdeed := congrArg List.getLast? heq
    rw [List.getLast?_map, Option.mem_def.1 hlast, List.getLast?_concat] at hdeed
    simp [Option.some.inj hdeed, Deed.isStart] at hstart
  · have hle := (hbefore.filter Deed.isStart).length_le
    rw [← length_starts, hcount, List.filter_append, List.filter_append, filter_directorySteps,
      filter_directorySteps, filter_flatMap_compileSteps, hinit] at hle
    simp at hle

end Toolchain

/-- What is built has sources: without, an executable is refused, and a library has no artifact. -/
theorem Target.sources_ne_nil {t : Target} (hdefect : t.defect? = none)
    (hartifact : t.hasArtifact = true) : t.sources ≠ [] := by
  intro hsources
  rw [hasArtifact, hsources] at hartifact
  rw [defect?, hsources] at hdefect
  cases hkind : t.kind with
  | library => simp [hkind, Kind.isExecutable] at hartifact
  | test | program =>
    rw [hkind] at hdefect
    split at hdefect <;> cases hdefect

/-! ### The whole job -/

namespace Toolchain

open Procedure

variable {tc : Toolchain} {job : Job} {events : List Event}

/-- `tc.CarriesOut job events result`: the events are those of a job, and the result tells of
them. -/
structure CarriesOut (tc : Toolchain) (job : Job) (events : List Event) (result : ToolResult) :
    Prop extends DoneInTurn (tc.steps job) events where
  /-- The sources are compiled in their order, -/
  compiles : (job.compiles events).map (·.deed) <+:
    job.target.sources.map fun source => .start (tc.compileCommand job source)
  /-- all of them unless something fails. -/
  compiles_all : (job.compiles events).length = job.target.sources.length ∨
    ∃ e ∈ events.getLast?, e.succeeded = false
  /-- The archiver or the linker is run at most once, -/
  finals : job.finals events = [] ∨
    (job.finals events).map (·.deed) = [.start (tc.finalCommand job job.objects)]
  /-- namely if every source was compiled, of which there must be one. -/
  finals_iff : job.target.sources ≠ [] → (job.finals events ≠ [] ↔ job.AllCompiled events)
  /-- What holds of a job without sources as well: no directory may fail. -/
  finals_iff_directories : job.finals events ≠ [] ↔ job.AllCompiled events ∧
    ∀ e ∈ events, e.deed.isStart = false → e.succeeded = true
  /-- The job succeeds if all steps do. -/
  success : result.success = true ↔
    events.map (·.deed) = tc.steps job ∧ ∀ e ∈ events, e.succeeded = true
  /-- Its result is that of the last event, -/
  ends : ∀ e ∈ events.getLast?, result = e.result result.log
  /-- with what all of them left in the log. -/
  log : result.log = String.join (events.map (·.printed))
  printed : ∀ e ∈ events, e.Prints e.printed
  /-- Output that is text stands there as it is. -/
  verbatim : ∀ e ∈ events, ∀ command finished out err,
    e = { deed := .start command, answer := .ok (some finished) } →
      finished.stdout = Text.utf8 out → finished.stderr = Text.utf8 err →
        e.printed = "$ " ++ command.line ++ "\n" ++ out ++ err

theorem carriesOut {last : Except ToolResult String} (h : TookTurns (tc.steps job) "" events last) :
    tc.CarriesOut job events (.ofLast last) where
  toDoneInTurn := h.doneInTurn
  compiles := compiles_inOrder h.doneInTurn.order
  compiles_all := h.doneInTurn.stops.imp_left fun heq =>
    Job.length_compiles ((finals_ne_nil_iff_all h.doneInTurn.order).2 heq)
  finals := by
    have hfinals : _ <+: [] ++ [Deed.start (tc.finalCommand job job.objects)] :=
      finals_inOrder h.doneInTurn.order
    rcases List.prefix_concat_iff.1 hfinals with heq | hnil
    · exact .inr heq
    · exact .inl (List.map_eq_nil_iff.1 (List.prefix_nil.1 hnil))
  finals_iff := finals_ne_nil_iff_allCompiled h.doneInTurn
  finals_iff_directories := finals_ne_nil_iff h.doneInTurn
  success := ToolResult.success_ofLast_iff h
  ends := ToolResult.ofLast_eq h
  log := by rw [ToolResult.log_ofLast h, String.empty_append]
  printed := fun e _ => e.prints_printed
  verbatim := by
    rintro _ - command finished out err rfl hout herr
    exact (Event.prints_printed _).eq_of_utf8 hout herr

/-- **What a toolchain does.** For each job, on each host, and whatever the programs come to: the
directory of the artifact is made first, and that of each object file before its source is compiled.
The sources are compiled in their order up to the first step that fails, and the archiver or the
linker is run once, with the objects of all sources in their order, exactly if every source was
compiled and no directory failed; if there are sources, the former says it all. The result is a
success exactly if every step was one, and on every path its log holds the line and the output of
every program that was tried. -/
theorem build_carriesOut (tc : Toolchain) (job : Job) {σ : Type} (host : Host σ) (s : σ) :
    tc.CarriesOut job ((tc.build job).history host s) ((tc.build job).runOn host s).1 ∧
    (∀ source, (tc.compileCommand job source).program = tc.compiler ∧
      ["-c", source, "-o", (Job.objectPath job.objectDir source).text] <:+
        (tc.compileCommand job source).args) ∧
    (job.target.kind = .library →
      (tc.finalCommand job job.objects).program = tc.archiver ∧
      (tc.finalCommand job job.objects).args =
        ["rcs", job.artifact.text] ++ job.objects.map (·.text)) ∧
    (job.target.kind ≠ .library →
      (tc.finalCommand job job.objects).program = tc.compiler ∧
      (tc.finalCommand job job.objects).args =
        job.mode.flags ++ job.objects.map (·.text) ++ ["-o", job.artifact.text] ++
          job.libraries.map (·.text) ++ job.environment.linkFlags ++ tc.linkFlags) := by
  refine ⟨?_, fun source => ⟨rfl, List.suffix_append _ _⟩, fun hkind => ?_, fun hkind => ?_⟩
  · rw [build_eq, history_bind, history_pure, List.append_nil, runOn_bind, runOn_pure]
    exact carriesOut (inTurn_tookTurns host s (tc.steps job) "")
  · rw [finalCommand, hkind]
    exact ⟨rfl, rfl⟩
  · rw [finalCommand]
    cases hk : job.target.kind with
    | library => exact absurd hk hkind
    | test | program => exact ⟨rfl, rfl⟩

/-! ### Without directories -/

/-- A host on which every program ends well and no directory can be made. -/
def crampedHost : Host Unit where
  isPresent _ s := (false, s)
  readFile _ s := (.error .notFound, s)
  createDirs _ s := (.error .noSpace, s)
  start _ s := (.ok { ending := .exited 0, stdout := [], stderr := [] }, s)
  begin _ s := (.error .notFound, s)
  await s := (none, s)
  employ _ s := (.ok (), s)
  clock s := (0, s)

/-- The job of an archive. -/
def archiveOf (sources : List String) : Job where
  target := { name := "a", kind := .library, sources }
  environment := {}
  mode := .debug
  artifact := ⟨"build/a.a"⟩
  objectDir := ⟨"build/.objs/a"⟩
  libraries := []

/-- **A directory comes before the sources.** Where the directory of the artifact cannot be made, a
job without sources has all of them compiled, and still the archiver is not run; and of a job with a
source this is not compiled, though nothing failed at a source. -/
theorem not_started_without_directory :
    let tc : Toolchain := { compiler := "cc", archiver := "ar" }
    let events (job : Job) : List Event := (tc.build job).history crampedHost ()
    ((archiveOf []).AllCompiled (events (archiveOf [])) ∧
      (archiveOf []).finals (events (archiveOf [])) = []) ∧
    (archiveOf ["a.c"]).compiles (events (archiveOf ["a.c"])) = [] ∧
    ∀ e ∈ events (archiveOf ["a.c"]), e.deed.isStart = false := by
  have hevents (sources : List String) :
      (build { compiler := "cc", archiver := "ar" } (archiveOf sources)).history crampedHost () =
        [{ deed := .createDirs ⟨"./build"⟩, answer := .error .noSpace }] := by cbv
  simp only [hevents]
  exact ⟨⟨⟨rfl, by simp [Job.compiles, archiveOf]⟩, rfl⟩, rfl, by simp [Deed.isStart]⟩

end Toolchain

end Buildwright
