import Buildwright.CommandLine.Program
import Buildwright.Proofs.CommandLine.Workspace
import Buildwright.Proofs.Manifest.Jobs
import Buildwright.Proofs.Project.Search

/-!
# Where the settings of a build come from

The compile mode, the number of jobs and the build directory can be set in three places: on the
command line, in a variable of the environment and in the manifest. The places are read one after
the other, by functions that know nothing of each other and that refuse different things: a manifest
refuses zero jobs and integers of more than 64 bits, a variable everything that does not ask for a
number of jobs (`Manifest.AsksFor`), the command line zero jobs. That all of this comes to one rule
for each setting, whatever is said of the others, is `CommandLine.Workspace.config_by_precedence`.
-/

namespace Buildwright

/-- The setting that holds: that of a flag, or else that of a variable that is exported, or else
that which the manifest declares, or else the default. -/
def settled {α : Type} : (flag? exported? declared? : Option α) → (default : α) → α
  | some a, _, _, _ => a
  | none, some a, _, _ => a
  | none, none, some a, _ => a
  | none, none, none, default => default

theorem settled_eq {α : Type} (flag? exported? declared? : Option α) (default : α) :
    settled flag? exported? declared? default =
      flag?.getD ((exported?.or declared?).getD default) := by
  cases flag? <;> cases exported? <;> cases declared? <;> rfl

/-- What holds of a setting wherever it is made holds of the one that is taken. -/
theorem settled_induction {α : Type} {P : α → Prop} {flag? exported? declared? : Option α}
    {default : α} (hflag : ∀ a, flag? = some a → P a) (hexported : ∀ a, exported? = some a → P a)
    (hdeclared : ∀ a, declared? = some a → P a) (hdefault : P default) :
    P (settled flag? exported? declared? default) := by
  unfold settled
  split
  · exact hflag _ rfl
  · exact hexported _ rfl
  · exact hdeclared _ rfl
  · exact hdefault

/-! ### Variables -/

theorem count?_eq_some_iff {cs : List Char} {n : Nat} : count? cs = some n ↔
    ∃ digits, (cs = digits ∨ cs = '+' :: digits) ∧ digits ≠ [] ∧
      (∀ c ∈ digits, c.isDigit = true) ∧ Toml.numeral 10 digits = n ∧ n ≤ greatestCount := by
  constructor
  · intro h
    unfold count? at h
    obtain ⟨⟨hne, hall, hle⟩, hn⟩ := Option.ite_none_right_eq_some.1 h
    obtain rfl := Option.some.inj hn
    refine ⟨_, ?_, hne, List.all_eq_true.1 hall, rfl, hle⟩
    split
    · exact .inr rfl
    · exact .inl rfl
  · rintro ⟨digits, rfl | rfl, hne, hall, rfl, hle⟩
    · rw [count?, if_pos ⟨hne, List.all_eq_true.2 hall, hle⟩]
      -- a plus sign is no digit
      rintro rest rfl
      exact absurd (hall '+' (.head _)) (by decide)
    · exact if_pos ⟨hne, List.all_eq_true.2 hall, hle⟩

namespace Manifest

variable {value : String} {n : Nat} {env : Environment} {m m' : Manifest}

/-- `AsksFor value n`: without the blanks around it, the value of a variable is the number `n` in
decimal digits, perhaps behind a plus sign. The number is not zero and has 64 bits. -/
def AsksFor (value : String) (n : Nat) : Prop :=
  ∃ digits, (Text.trim value.toList = digits ∨ Text.trim value.toList = '+' :: digits) ∧
    digits ≠ [] ∧ (∀ c ∈ digits, c.isDigit = true) ∧ Toml.numeral 10 digits = n ∧
    1 ≤ n ∧ n < UInt64.size

theorem asksFor_iff :
    AsksFor value n ↔ (count? (Text.trim value.toList)).filter (0 < ·) = some n := by
  rw [Option.filter_eq_some_iff, count?_eq_some_iff, decide_eq_true_iff]
  constructor
  · rintro ⟨digits, hform, hne, hall, hn, hpos, hlt⟩
    exact ⟨⟨digits, hform, hne, hall, hn, Nat.le_of_lt_succ hlt⟩, hpos⟩
  · rintro ⟨⟨digits, hform, hne, hall, hn, hle⟩, hpos⟩
    exact ⟨digits, hform, hne, hall, hn, hpos, Nat.lt_succ_of_le hle⟩

theorem jobsFromVariable_eq_ok_iff : jobsFromVariable value = .ok n ↔ AsksFor value n := by
  rw [asksFor_iff, jobsFromVariable]
  split
  · next h => rw [h, Except.ok.injEq, Option.some.injEq]
  · next h => simp [h]

/-- A value that asks for no number of jobs is an error. -/
theorem jobsFromVariable_of_not_asksFor (h : ∀ n, ¬ AsksFor value n) : jobsFromVariable value =
    .error (.invalidValue jobsVariable ("'" ++ value ++ "' is not a positive integer")) := by
  unfold jobsFromVariable
  split
  · next jobs hjobs => exact absurd (asksFor_iff.2 hjobs) (h jobs)
  · rfl

/-- The number of jobs that the variable asks for, if it is set to a text. -/
def AskedJobs (env : Environment) (asked? : Option Nat) : Prop :=
  Option.Rel AsksFor (env.text? jobsVariable) asked?

theorem AskedJobs.range {asked? : Option Nat} (h : AskedJobs env asked?) (hn : asked? = some n) :
    1 ≤ n ∧ n < UInt64.size := by
  unfold AskedJobs at h
  generalize env.text? jobsVariable = value? at h
  subst hn
  cases h with
  | some hasks =>
    obtain ⟨_, -, -, -, -, hrange⟩ := hasks
    exact hrange

/-- The manifest with what variables are set to in place of what it says itself: the compile mode,
the number of jobs, the build directory and the compiler, and nothing else. -/
def overridden (env : Environment) (asked? : Option Nat) (m : Manifest) : Manifest :=
  { m with
    build := { m.build with
      mode? := (env.text? "KEEL_MODE").or m.build.mode?
      jobs? := asked?.or m.build.jobs?
      output? := ((env.text? "KEEL_BUILD_DIR").map Path.mk).or m.build.output? }
    tools := { m.tools with compiler? := (env.text? "KEEL_CXX").or m.tools.compiler? } }

theorem withOverrides_eq_ok_iff : m.withOverrides env = .ok m' ↔
    ∃ asked?, AskedJobs env asked? ∧ m' = m.overridden env asked? := by
  simp only [withOverrides, bind_eq_ok_iff, mapM_option_eq_ok_iff, jobsFromVariable_eq_ok_iff,
    Except.ok.injEq, eq_comm (a := m')]
  rfl

theorem withOverrides_of_not_asksFor (hvalue : env.text? jobsVariable = some value)
    (h : ∀ n, ¬ AsksFor value n) : m.withOverrides env =
      .error (.invalidValue jobsVariable ("'" ++ value ++ "' is not a positive integer")) := by
  rw [withOverrides, hvalue]
  change (some <$> jobsFromVariable value) >>= _ = _
  rw [jobsFromVariable_of_not_asksFor h]
  rfl

end Manifest

/-! ### Directories and modes -/

/-- Where a directory is if a relative one stands in `root`. -/
def Path.under (root dir : Path) : Path := if dir.isAbsolute then dir else root.join dir

theorem Project.buildDir_eq_under {p : Project} {root : Path} (h : p.root? = some root) :
    p.buildDir = root.under p.manifest.buildDir := by
  rw [buildDir, h, Path.under, Path.isRelative]
  cases p.manifest.buildDir.isAbsolute <;> rfl

theorem Mode.ofName_eq_ok_iff {word : String} {mode : Mode} :
    ofName word = .ok mode ↔ mode.name = word := by
  refine ⟨fun h => ?_, fun h => h ▸ ofName_name mode⟩
  unfold ofName at h
  split at h
  · next found hfound =>
    obtain rfl := Except.ok.inj h
    simpa using List.find?_some hfound
  · cases h

namespace CommandLine.Workspace

variable {σ : Type} {host : Host σ} {s : σ} {env : Environment} {cwd : Path}
  {manifest? : Option Path} {found p : Project} {w : Workspace}

/-! ### The project before variables are read -/

/-- The project of a given manifest, or of the nearest one, as the manifest has it. -/
def located (cwd : Path) : (manifest? : Option Path) → Procedure (Except ManifestError Project)
  | some file => Project.ofFile file
  | none => Project.search cwd

/-- What is said to have been tried if the manifest cannot be used. -/
def attempt : (manifest? : Option Path) → String
  | some file => "Failed to load " ++ file.text
  | none => "Failed to load keel.toml"

theorem findProject_of_located (env : Environment)
    (read : ((located cwd manifest?).runOn host s).1 = .ok found) :
    ((findProject env cwd manifest?).runOn host s).1 =
      (found.withOverrides env).mapError (complainOfManifest (attempt manifest?)) := by
  cases manifest? with
  | some file =>
    change ((Project.ofFile file).runOn host s).1 = _ at read
    rw [findProject, Procedure.runOn_bind, read]
    rfl
  | none =>
    change ((Project.search cwd).runOn host s).1 = _ at read
    rw [findProject, Procedure.runOn_bind, read]
    rfl

/-- A manifest that was located is one that was accepted, or it is empty. -/
theorem accepted_of_located (read : ((located cwd manifest?).runOn host s).1 = .ok found) :
    found.manifest = {} ∨ ∃ text file, Manifest.ofText text file = .ok found.manifest := by
  cases manifest? with
  | some file =>
    rw [located, Project.ofFile, Procedure.runOn_bind, Manifest.load_eq] at read
    obtain ⟨m, hm, rfl⟩ := map_eq_ok_iff.1 read
    obtain ⟨text, htext⟩ := Manifest.exists_ofText_of_ofRead hm
    exact .inr ⟨text, file, htext⟩
  | none =>
    obtain ⟨_, _, _, -, -, ⟨-, hrun⟩ | ⟨_, _, -, _, _, _, -, -, hrun⟩⟩ :=
      Project.search_cases host cwd s
    · rw [located, hrun] at read
      exact .inl (Except.ok.inj read ▸ rfl)
    · rw [located, hrun] at read
      obtain ⟨m, hm, rfl⟩ := map_eq_ok_iff.1 read
      obtain ⟨text, htext⟩ := Manifest.exists_ofText_of_ofRead hm
      exact .inr ⟨text, _, htext⟩

theorem jobs_of_located (read : ((located cwd manifest?).runOn host s).1 = .ok found) {n : Nat}
    (hn : found.manifest.build.jobs? = some n) : 1 ≤ n ∧ n < UInt64.size := by
  rcases accepted_of_located read with hempty | ⟨text, file, htext⟩
  · rw [hempty] at hn
    cases hn
  · obtain ⟨hpos, -, hle⟩ := Manifest.jobs_of_ofText htext hn
    have hmax : Int64.maxValue.toInt < UInt64.size := by decide
    exact ⟨hpos, by omega⟩

/-- A workspace belongs to the project that was located, with the overrides of the variables. -/
theorem project_of_find (read : ((located cwd manifest?).runOn host s).1 = .ok found)
    (opened : ((find env cwd manifest?).runOn host s).1 = .ok w) :
    found.root?.isSome = true ∧
      ∃ m, found.manifest.withOverrides env = .ok m ∧ w.project = { found with manifest := m } := by
  rw [find, Procedure.runOn_bind, findProject_of_located env read] at opened
  obtain ⟨p, hp, hw⟩ := bind_eq_ok_iff.1 opened
  obtain ⟨m, hm, rfl⟩ := map_eq_ok_iff.1 (mapError_eq_ok_iff.1 hp)
  obtain ⟨hplaced, hproject, -⟩ := ofProject_eq_ok_iff.1 hw
  exact ⟨hplaced, m, hm, hproject⟩

/-! ### Configurations -/

variable {options : CompileOptions} {config : BuildConfig}

theorem mode_eq_ok_iff {mode? : Option String} {mode : Mode} :
    w.mode mode? = .ok mode ↔ mode.name = mode?.getD w.project.manifest.mode := by
  rw [Workspace.mode, orComplain, mapError_eq_ok_iff, Mode.ofName_eq_ok_iff, modeName]

/-- When a workspace has a configuration, and which: the mode has to be known, and the command line
must not ask for zero jobs. -/
theorem config_eq_ok_iff {root : Path} (hroot : w.project.root? = some root) :
    w.config options = .ok config ↔
      config.mode.name = options.mode?.getD w.project.manifest.mode ∧ options.jobs? ≠ some 0 ∧
        config.jobs = options.jobs?.getD w.project.manifest.jobs ∧
        config.buildDir = root.under (options.buildDir?.getD w.project.manifest.buildDir) := by
  -- once the directory and the number of jobs are known, the mode alone is open
  have hmade (dir : Path) (jobs : Nat) : (∃ mode, w.mode options.mode? = .ok mode ∧
      (Except.ok { buildDir := dir, jobs, mode } : Except Complaint BuildConfig) = .ok config) ↔
      config.mode.name = options.mode?.getD w.project.manifest.mode ∧
        config.jobs = jobs ∧ config.buildDir = dir := by
    simp only [mode_eq_ok_iff]
    constructor
    · rintro ⟨mode, hname, ⟨⟩⟩
      exact ⟨hname, rfl, rfl⟩
    · rintro ⟨hname, rfl, rfl⟩
      exact ⟨config.mode, hname, rfl⟩
  have hdir := Project.buildDir_eq_under hroot
  have hplace : w.project.root = root := by
    rw [Project.root, hroot, Option.getD_some]
  unfold Workspace.config
  rw [bind_eq_ok_iff]
  rcases options.jobs? with _ | _ | jobs
  · cases options.buildDir? with
    | none => exact (hmade _ _).trans (by simp [BuildConfig.ofProject, hdir])
    | some dir => exact (hmade _ _).trans (by simp [BuildConfig.ofProject, hplace, Path.under])
  · refine iff_of_false ?_ fun h => h.2.1 rfl
    rintro ⟨_, -, h⟩
    cases h
  · cases options.buildDir? with
    | none => exact (hmade _ _).trans (by simp [BuildConfig.ofProject, hdir])
    | some dir => exact (hmade _ _).trans (by simp [hplace, Path.under])

/-- The number of jobs that the command line asks for has 64 bits. -/
theorem jobs_of_compileOptions {line : Matches} {n : Nat}
    (h : line.compileOptions.jobs? = some n) : n < UInt64.size := by
  obtain ⟨value, -, hcount⟩ := Option.bind_eq_some_iff.1 h
  obtain ⟨_, -, -, -, -, hle⟩ := count?_eq_some_iff.1 hcount
  exact Nat.lt_succ_of_le hle

/-- The configuration for which flags, variables and a manifest settle on a mode, a number of jobs
and a build directory, each by itself. -/
structure IsSettled (config : BuildConfig) (options : CompileOptions) (env : Environment)
    (asked? : Option Nat) (m : Manifest) (root : Path) : Prop where
  mode : config.mode.name =
    settled options.mode? (env.text? "KEEL_MODE") m.build.mode? Manifest.defaultMode
  jobs : config.jobs = settled options.jobs? asked? m.build.jobs? Manifest.defaultJobs
  buildDir : config.buildDir = root.under
    (settled options.buildDir? ((env.text? "KEEL_BUILD_DIR").map Path.mk) m.build.output?
      Manifest.defaultBuildDir)

/-- **The settings of a build come from the first place that makes them.** In a workspace for the
project that was located, the mode of a build is the one of the command line, or else that of the
variable, or else that of the manifest, or else the default; so are the number of jobs and the build
directory, each of them whatever is said of the others. The directory stands in the directory of the
project unless it is absolute, wherever it was set. The number of jobs is not zero and has 64 bits.
What the workspace takes from variables are these settings and the compiler; in all else it is as
the manifest says. And a variable for the number of jobs that asks for none is an error, whatever
the command is and whatever its flags say. -/
theorem config_by_precedence (env : Environment) (line : Matches)
    (read : ((located cwd line.manifest?).runOn host s).1 = .ok found) :
    (∀ w config, ((find env cwd line.manifest?).runOn host s).1 = .ok w →
      w.config line.compileOptions = .ok config →
      ∃ root asked?, found.root? = some root ∧ Manifest.AskedJobs env asked? ∧
        IsSettled config line.compileOptions env asked? found.manifest root ∧
        1 ≤ config.jobs ∧ config.jobs < UInt64.size ∧
        w.project = { found with manifest := found.manifest.overridden env asked? }) ∧
    ∀ value, env.text? Manifest.jobsVariable = some value → (∀ n, ¬ Manifest.AsksFor value n) →
      ∀ work, ((inWorkspace env cwd line.manifest? work).runOn host s).1 =
        .ofResult (.error (complainOfManifest (attempt line.manifest?)
          (.invalidValue Manifest.jobsVariable
            ("'" ++ value ++ "' is not a positive integer")))) := by
  constructor
  · intro w config opened configured
    obtain ⟨hplaced, m, hm, hproject⟩ := project_of_find read opened
    obtain ⟨root, hroot⟩ := Option.isSome_iff_exists.1 hplaced
    obtain ⟨asked?, hasked, rfl⟩ := Manifest.withOverrides_eq_ok_iff.1 hm
    have hwroot : w.project.root? = some root := hproject ▸ hroot
    obtain ⟨hmode, hzero, hjobs, hdir⟩ := (config_eq_ok_iff hwroot).1 configured
    rw [hproject] at hmode hjobs hdir
    have hsettled : IsSettled config line.compileOptions env asked? found.manifest root := by
      constructor
      · rw [settled_eq]
        exact hmode
      · rw [settled_eq]
        exact hjobs
      · rw [settled_eq]
        exact hdir
    have hrange : 1 ≤ config.jobs ∧ config.jobs < UInt64.size := by
      rw [hsettled.jobs]
      refine settled_induction (fun n hn => ?_) (fun n => hasked.range)
        (fun n => jobs_of_located read) (by decide)
      exact ⟨Nat.one_le_iff_ne_zero.2 fun h => hzero (h ▸ hn), jobs_of_compileOptions hn⟩
    exact ⟨root, asked?, hroot, hasked, hsettled, hrange.1, hrange.2, hproject⟩
  · intro value hvalue hnone work
    have hfound := findProject_of_located env read
    rw [Project.withOverrides, Manifest.withOverrides_of_not_asksFor hvalue hnone] at hfound
    rw [inWorkspace, Procedure.runOn_bind, find, Procedure.runOn_bind, hfound]
    rfl

/-- A command line that names a manifest and asks for three jobs. -/
def threeJobs : Matches := { values := [("manifest-path", "/srv/keel.toml"), ("jobs", "3")] }

/-- Variables that ask for a mode, for seven jobs and for a relative build directory. -/
def exported : Environment where
  entries := [("KEEL_MODE", Text.utf8 "debug"), ("KEEL_JOBS", Text.utf8 " +7 "),
    ("KEEL_BUILD_DIR", Text.utf8 "out")]

/-- A variable that asks for zero jobs. -/
def noJobs : Environment := { entries := [("KEEL_JOBS", Text.utf8 "0")] }

theorem isSound_overridden (env : Environment) (asked? : Option Nat) :
    (({} : Manifest).overridden env asked?).IsSound where
  valid := nofun
  distinct := .nil
  harness := by
    rintro (⟨_, h, -⟩ | h)
    · cases h
    · cases h
  closed := nofun
  acyclic a ha := by
    obtain ⟨_, ⟨_, h, -⟩, -⟩ := Relation.TransGen.head'_iff.1 ha
    cases h

theorem located_threeJobs :
    ((located ⟨"."⟩ threeJobs.manifest?).runOn Project.emptyHost ()).1 =
      .ok (Project.bare ⟨"/srv/keel.toml"⟩) := Project.ofFile_emptyHost _

/-- With these variables a workspace opens for an empty manifest. -/
theorem find_exported :
    ∃ w, ((find exported ⟨"."⟩ threeJobs.manifest?).runOn Project.emptyHost ()).1 = .ok w ∧
      w.project.manifest = ({} : Manifest).overridden exported (some 7) ∧
      w.project.root? = some ⟨"/srv"⟩ := by
  obtain ⟨g, hg, hacyclic⟩ := Graph.exists_isOf_iff.2 (isSound_overridden exported (some 7))
  have hasked : Manifest.AskedJobs exported (some 7) := by
    have hvalue : exported.text? Manifest.jobsVariable = some " +7 " := by decide +kernel
    rw [Manifest.AskedJobs, hvalue]
    exact .some ⟨['7'], .inr (by decide), List.cons_ne_nil _ _, List.forall_mem_singleton.2 rfl,
      rfl, by decide, by decide⟩
  have hfound := findProject_of_located exported located_threeJobs
  rw [Project.withOverrides, Manifest.withOverrides_eq_ok_iff.2 ⟨some 7, hasked, rfl⟩] at hfound
  refine ⟨⟨_, g⟩, (find_eq_ok_iff hfound).2 (ofProject_eq_ok_iff.2 ⟨rfl, rfl, hg, hacyclic⟩), ?_⟩
  exact ⟨rfl, rfl⟩

/-- The mode and the directory are taken from the variables, the number of jobs from the flag. If
the variable asks for zero jobs, the flag does not help. -/
theorem config_by_precedence_flag :
    ((located ⟨"."⟩ threeJobs.manifest?).runOn Project.emptyHost ()).1 =
      .ok (Project.bare ⟨"/srv/keel.toml"⟩) ∧
    (∃ w config, ((find exported ⟨"."⟩ threeJobs.manifest?).runOn Project.emptyHost ()).1 = .ok w ∧
      w.config threeJobs.compileOptions = .ok config ∧
      config.mode.name = "debug" ∧ config.jobs = 3 ∧ config.buildDir = ⟨"/srv/out"⟩) ∧
    ∀ work, ((inWorkspace noJobs ⟨"."⟩ threeJobs.manifest? work).runOn Project.emptyHost ()).1 =
      .ofResult (.error (complainOfManifest "Failed to load /srv/keel.toml"
        (.invalidValue "KEEL_JOBS" "'0' is not a positive integer"))) := by
  obtain ⟨w, hw, hmanifest, hroot⟩ := find_exported
  have hconfig : w.config threeJobs.compileOptions =
      .ok { mode := .debug, jobs := 3, buildDir := ⟨"/srv/out"⟩ } := by
    rw [config_eq_ok_iff hroot, hmanifest]
    decide +kernel
  obtain ⟨root, asked?, hplace, -, hsettled, -⟩ :=
    (config_by_precedence exported threeJobs located_threeJobs).1 w _ hw hconfig
  obtain rfl : ⟨"/srv"⟩ = root := Option.some.inj hplace
  refine ⟨located_threeJobs, ⟨w, _, hw, hconfig, hsettled.mode.trans (by decide +kernel), ?_,
    hsettled.buildDir.trans (by decide +kernel)⟩, fun work => ?_⟩
  · have hjobs : threeJobs.compileOptions.jobs? = some 3 := by decide
    rw [hsettled.jobs, hjobs]
    rfl
  · have hvalue : noJobs.text? Manifest.jobsVariable = some "0" := by decide +kernel
    have hnone (n : Nat) : ¬ Manifest.AsksFor "0" n := by
      have hfilter : (count? (Text.trim "0".toList)).filter (0 < ·) = none := by decide
      rw [Manifest.asksFor_iff, hfilter]
      exact nofun
    exact (config_by_precedence noJobs threeJobs located_threeJobs).2 "0" hvalue hnone work

end CommandLine.Workspace

end Buildwright
