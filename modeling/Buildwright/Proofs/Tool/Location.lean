import Buildwright.CommandLine.Commands
import Buildwright.Proofs.Build.Outputs
import Buildwright.Proofs.Fallible
import Buildwright.Proofs.Procedure

/-!
# Where tools find the files of a build

A relative build directory stands in the directory of the project, and so do the tools: they run
there, and read the paths that they are given from there. The path of an artifact begins with the
directory of the project already. It is therefore resolved twice by a toolchain, and three times by
a launcher of tests, which puts the directory in front once more. This does no harm if the path is
absolute or if the directory of the project is that of the caller, and only then
(`Project.artifact_resolved_once_iff`). A manifest that is named by a relative path through another
directory is enough for artifacts to get lost (`Project.artifact_misplaced`).
-/

namespace Buildwright

/-- Where a path leads that is read by the program of a command: the program reads it from the
directory in which it runs. -/
def Command.reads (c : Command) (p : Path) : Path :=
  match c.workingDir? with
  | some dir => dir.join p
  | none => p

/-! ### Launching tests -/

namespace TestLauncher

/-- The command that runs an executable. -/
def command (l : TestLauncher) (artifact : Path) : Command where
  program := (l.program artifact).text
  args := []
  workingDir? := l.workingDir?

/-- A launcher does nothing but run this command. -/
theorem run_eq_logged (l : TestLauncher) (artifact : Path) : l.run artifact = do
    match ← Procedure.logged (l.command artifact) "" with
    | (.error fault, _) => return .error fault
    | (.ok ending, log) => return .ok (.ofEnding ending log) := rfl

/-- The file that is started for an executable. -/
def started (l : TestLauncher) (artifact : Path) : Path :=
  (l.command artifact).reads ⟨(l.command artifact).program⟩

/-- A launcher puts its directory in front of an executable, and the host does so again. -/
theorem place_started (dir artifact : Path) :
    (({ workingDir? := some dir } : TestLauncher).started artifact).place =
      dir.place.join (dir.place.join artifact.place) := by
  change (dir.join (if artifact.isRelative = true then dir.join artifact else artifact)).place = _
  rw [Path.place_join]
  split
  · rw [Path.place_join]
  · next h =>
    have ha : artifact.place.rooted = true := by simpa [Path.isRelative] using h
    rw [Place.join_of_rooted ha, Place.join_of_rooted ha]

end TestLauncher

namespace Project

variable {σ : Type} {host : Host σ} {s : σ} {file artifact : Path} {env : Environment}
  {found p : Project}

/-! ### The directory of a project -/

/-- A project belongs to the directory of its manifest. -/
theorem root?_of_ofFile (h : ((ofFile file).runOn host s).1 = .ok p) : p.root? = file.parent? := by
  rw [ofFile, Procedure.runOn_bind] at h
  obtain ⟨m, -, rfl⟩ := map_eq_ok_iff.1 h
  rfl

/-- What the environment overrides does not move a project. -/
theorem root?_of_withOverrides (h : found.withOverrides env = .ok p) : p.root? = found.root? := by
  obtain ⟨m, -, rfl⟩ := map_eq_ok_iff.1 h
  rfl

/-- Where the build directory leads. -/
theorem place_buildDir (p : Project) :
    p.buildDir.place = p.root.place.join p.manifest.buildDir.place := by
  rw [buildDir, root]
  cases p.root? with
  | none => simp
  | some dir =>
    simp only [Option.getD_some]
    split
    · exact Path.place_join _ _
    · next h => exact (Place.join_of_rooted (by simpa [Path.isRelative] using h)).symm

/-- The directory of a project is the root's or the caller's own exactly if the path of the manifest
is absolute or has no directory in it. -/
theorem rooted_or_here_iff (h : p.root? = file.parent?) :
    (p.root.place.rooted = true ∨ p.root.place = .here) ↔
      file.isAbsolute = true ∨ file.place.steps.length ≤ 1 := by
  rw [root, h]
  cases hp : file.parent? with
  | none => simp [Path.steps_of_parent?_eq_none hp]
  | some dir =>
    rw [Option.getD_some, Path.place_parent? hp]
    cases hf : file.isAbsolute with
    | true => simp
    | false =>
      rw [Place.here, Place.mk.injEq, ← List.length_eq_zero_iff, List.length_dropLast]
      simpa using Nat.sub_eq_zero_iff_le

/-! ### Artifacts -/

/-- `p.Anchored file t`: the path of an artifact leads to the same place from everywhere, or the
project is read from where the caller stands. -/
def Anchored (p : Project) (file : Path) (t : Target) : Prop :=
  t.output.isAbsolute = true ∨ p.manifest.buildDir.isAbsolute = true ∨
    file.isAbsolute = true ∨ file.place.steps.length ≤ 1

theorem rooted_artifact_or_here_iff (h : p.root? = file.parent?) (t : Target) :
    ((t.artifact p.buildDir).place.rooted = true ∨ p.root.place = .here) ↔ p.Anchored file t := by
  rw [Target.artifact_eq_join, Path.place_join, place_buildDir, Anchored,
    ← rooted_or_here_iff h]
  simp [or_assoc]

/-- What a tool of the project reads from its directory. -/
theorem place_reads (objects : List Path) (job : Job) (artifact : Path) :
    (((Toolchain.ofProject p).finalCommand job objects).reads artifact).place =
      p.root.place.join artifact.place := by
  change (match p.root? with | some dir => dir.join artifact | none => artifact).place = _
  rw [root]
  cases p.root? with
  | none => simp
  | some dir => exact Path.place_join _ _

/-- **When artifacts are resolved once.** The toolchain of a project that was loaded from a manifest
writes an artifact to where the build directory says, and a launcher of tests starts the file that
stands there, exactly if the path of the artifact is anchored: it is absolute because the path of
the manifest, the setting of the build directory or the name of the target is, or no directory
stands in front of the name of the manifest. -/
theorem artifact_resolved_once_iff (loaded : ((ofFile file).runOn host s).1 = .ok found)
    (settled : found.withOverrides env = .ok p)
    {g : Graph} {mode : Mode} {t : Target} {job : Job}
    (made : Job.ofTarget g mode p.buildDir t = .ok job) (objects : List Path) :
    ((((Toolchain.ofProject p).finalCommand job objects).reads job.artifact).place =
        (t.artifact p.buildDir).place ↔ p.Anchored file t) ∧
    ((({ workingDir? := some p.root } : TestLauncher).started (t.artifact p.buildDir)).place =
        (t.artifact p.buildDir).place ↔ p.Anchored file t) := by
  have hroot : p.root? = file.parent? :=
    (root?_of_withOverrides settled).trans (root?_of_ofFile loaded)
  obtain ⟨_, -, hjob⟩ := bind_eq_ok_iff.1 made
  obtain rfl := Except.ok.inj hjob
  rw [place_reads, TestLauncher.place_started, Place.join_eq_right_iff,
    Place.join_join_eq_right_iff, rooted_artifact_or_here_iff hroot]
  exact ⟨.rfl, .rfl⟩

/-- A host on which every file is empty. -/
def emptyHost : Host Unit where
  isPresent _ s := (true, s)
  readFile _ s := (.ok [], s)
  createDirs _ s := (.ok (), s)
  start _ s := (.error .notFound, s)
  begin _ s := (.error .notFound, s)
  await s := (none, s)
  employ _ s := (.ok (), s)
  clock s := (0, s)

/-- The project of a manifest that says nothing. -/
def bare (file : Path) : Project := { manifest := {}, root? := file.parent? }

/-- An empty text is a document without entries. -/
theorem read?_empty : Toml.read? "" = some (.table []) := by
  have hcount : (Toml.statements? "".toList).map List.length = some 0 := by decide +kernel
  obtain ⟨found, hfound, hlength⟩ := Option.map_eq_some_iff.1 hcount
  obtain rfl := List.length_eq_zero_iff.1 hlength
  rw [Toml.read?, hfound]
  rfl

theorem ofFile_emptyHost (file : Path) :
    ((ofFile file).runOn emptyHost ()).1 = .ok (bare file) := by
  have hload : (Manifest.load file).runOn emptyHost () = (Manifest.ofText "" file, ()) := rfl
  have htext : Manifest.ofText "" file = .ok {} := by
    rw [Manifest.ofText, read?_empty]
    rfl
  rw [ofFile, Procedure.runOn_bind, hload, htext]
  rfl

/-- A test that stands alone. -/
def unit : Target := { name := "unit", kind := .test, sources := ["unit.c"] }

/-- The graph of this test. -/
def lone : Graph where
  toCatalog := (default : Catalog).push unit (by decide) (by decide)
  closed := Catalog.danglingReference?_eq_none_iff.1 (by decide)

/-- The job of building the test. -/
def unitJob (p : Project) : Job where
  target := unit
  environment := {}
  mode := .opt
  artifact := unit.artifact p.buildDir
  objectDir := Job.objectDirOf p.buildDir unit
  libraries := []

theorem ofTarget_unit (p : Project) :
    Job.ofTarget lone .opt p.buildDir unit = .ok (unitJob p) := by
  have h : lone.environment "unit" = .ok {} := by cbv
  rw [Job.ofTarget, unit, h]
  rfl

/-- With an absolute path to the manifest, what is built is what is run. -/
theorem artifact_resolved_once_of_absolute :
    ((ofFile ⟨"/srv/keel.toml"⟩).runOn emptyHost ()).1 = .ok (bare ⟨"/srv/keel.toml"⟩) ∧
    (bare ⟨"/srv/keel.toml"⟩).withOverrides {} = .ok (bare ⟨"/srv/keel.toml"⟩) ∧
    Job.ofTarget lone .opt (bare ⟨"/srv/keel.toml"⟩).buildDir unit =
      .ok (unitJob (bare ⟨"/srv/keel.toml"⟩)) ∧
    (((Toolchain.ofProject (bare ⟨"/srv/keel.toml"⟩)).finalCommand
        (unitJob (bare ⟨"/srv/keel.toml"⟩)) []).reads
          (unitJob (bare ⟨"/srv/keel.toml"⟩)).artifact).place =
      (unit.artifact (bare ⟨"/srv/keel.toml"⟩).buildDir).place ∧
    (({ workingDir? := some (bare ⟨"/srv/keel.toml"⟩).root } : TestLauncher).started
        (unit.artifact (bare ⟨"/srv/keel.toml"⟩).buildDir)).place =
      (unit.artifact (bare ⟨"/srv/keel.toml"⟩).buildDir).place := by
  have loaded := ofFile_emptyHost ⟨"/srv/keel.toml"⟩
  have settled : (bare ⟨"/srv/keel.toml"⟩).withOverrides {} = .ok (bare ⟨"/srv/keel.toml"⟩) := rfl
  have made := ofTarget_unit (bare ⟨"/srv/keel.toml"⟩)
  have anchored : (bare ⟨"/srv/keel.toml"⟩).Anchored ⟨"/srv/keel.toml"⟩ unit :=
    .inr (.inr (.inl (by decide)))
  obtain ⟨written, started⟩ := artifact_resolved_once_iff loaded settled made []
  exact ⟨loaded, settled, made, written.2 anchored, started.2 anchored⟩

/-- With a relative path through a directory, the test is neither written to where the build
directory says nor looked for where it is written. -/
theorem artifact_misplaced :
    ((ofFile ⟨"proj/keel.toml"⟩).runOn emptyHost ()).1 = .ok (bare ⟨"proj/keel.toml"⟩) ∧
    (bare ⟨"proj/keel.toml"⟩).withOverrides {} = .ok (bare ⟨"proj/keel.toml"⟩) ∧
    Job.ofTarget lone .opt (bare ⟨"proj/keel.toml"⟩).buildDir unit =
      .ok (unitJob (bare ⟨"proj/keel.toml"⟩)) ∧
    unit.artifact (bare ⟨"proj/keel.toml"⟩).buildDir = ⟨"proj/build/unit"⟩ ∧
    ((Toolchain.ofProject (bare ⟨"proj/keel.toml"⟩)).finalCommand
      (unitJob (bare ⟨"proj/keel.toml"⟩)) []).reads (unitJob (bare ⟨"proj/keel.toml"⟩)).artifact =
        ⟨"proj/proj/build/unit"⟩ ∧
    ({ workingDir? := some (bare ⟨"proj/keel.toml"⟩).root } : TestLauncher).started
      (unit.artifact (bare ⟨"proj/keel.toml"⟩).buildDir) = ⟨"proj/proj/proj/build/unit"⟩ ∧
    (⟨"proj/proj/build/unit"⟩ : Path).place ≠ (⟨"proj/build/unit"⟩ : Path).place ∧
    (⟨"proj/proj/proj/build/unit"⟩ : Path).place ≠ (⟨"proj/build/unit"⟩ : Path).place := by
  refine ⟨ofFile_emptyHost _, rfl, ofTarget_unit _, ?_, ?_, ?_, by decide, by decide⟩
  all_goals cbv

end Project

end Buildwright
