import Buildwright.CommandLine.Workspace
import Buildwright.Proofs.Graph.Manifest
import Buildwright.Proofs.Project.Search
import Buildwright.Proofs.Tool.Location

/-!
# What opening a workspace settles

A workspace can be opened for a project exactly if its manifest is sound (`Manifest.IsSound`). After
that nothing can be wrong with the targets any more: every declared target has an environment, the
tests depend on the harness, and a plan fails only because a name is asked for that is not declared.
-/

namespace Buildwright

variable {g : Graph} {names : List String} {n : String}

/-! ### Graphs without circles -/

namespace Graph

/-- Without circles only the names that are not declared cannot be planned. -/
theorem faulty_iff_of_checkAcyclic (h : g.checkAcyclic = .ok ()) :
    g.Faulty n ↔ g.contains n = false := by
  refine or_iff_left ?_
  rintro ⟨a, -, ha⟩
  exact checkAcyclic_eq_ok_iff.1 h a ha

/-- Without circles every declared target has an environment. -/
theorem exists_environment (h : g.checkAcyclic = .ok ()) (hn : g.contains n = true) :
    ∃ env, g.environment n = .ok env := by
  refine exists_environment_of_not_faulty ?_
  simp [faulty_iff_of_checkAcyclic h, hn]

/-- Without circles the first name that is not declared is all that can be wrong with requests. -/
theorem plan_of_checkAcyclic (h : g.checkAcyclic = .ok ()) (names : List String) :
    ((∃ p, g.plan names = .ok p) ↔ ∀ n ∈ names, g.contains n = true) ∧
    ∀ e, g.plan names = .error e → ∃ before n after, names = before ++ n :: after ∧
      (∀ r ∈ before, g.contains r = true) ∧ g.contains n = false ∧ e = .unknownTarget n none := by
  have hfaulty (n : String) : ¬ g.Faulty n ↔ g.contains n = true := by
    rw [faulty_iff_of_checkAcyclic h, Bool.not_eq_false]
  simp only [exists_plan_iff, hfaulty, true_and]
  intro e he
  obtain ⟨before, n, after, hnames, hb, hf⟩ := fault_of_plan he
  have hn := (faulty_iff_of_checkAcyclic h).1 hf.faulty
  refine ⟨before, n, after, hnames, fun r hr => (hfaulty r).1 (hb r hr), hn, ?_⟩
  cases hf with
  | unknown _ => rfl
  | circle hc =>
    rw [hn] at hc
    cases hc

/-- If no name is given, every declared one is asked for. -/
theorem planFor_of_checkAcyclic (h : g.checkAcyclic = .ok ()) (names : List String) :
    ((∃ p, g.planFor names = .ok p) ↔ ∀ n ∈ names, g.contains n = true) ∧
    ∀ e, g.planFor names = .error e → ∃ before n after, names = before ++ n :: after ∧
      (∀ r ∈ before, g.contains r = true) ∧ g.contains n = false ∧ e = .unknownTarget n none := by
  by_cases hnames : names = []
  · obtain ⟨p, hp⟩ := (plan_of_checkAcyclic h g.names).1.2 fun n hn => Catalog.mem_names_iff.1 hn
    subst hnames
    have hall : g.planFor [] = .ok p := hp
    simp [hall]
  · rw [planFor, if_neg hnames]
    exact plan_of_checkAcyclic h names

end Graph

/-! ### Workspaces -/

namespace Project

/-- Without a manifest in a directory and those above it, the project is an empty one. -/
theorem eq_of_search {σ : Type} {host : Host σ} {s : σ} {dir : Path} {p : Project}
    (h : ((search dir).runOn host s).1 = .ok p) (unplaced : p.root? = none) :
    p = { manifest := {}, root? := none } := by
  obtain ⟨_, _, _, -, -, ⟨-, hrun⟩ | ⟨_, _, -, _, _, _, -, -, hrun⟩⟩ := search_cases host dir s
  · rw [hrun] at h
    exact (Except.ok.inj h).symm
  · -- a file was found, in the directory of the project
    rw [hrun] at h
    obtain ⟨m, -, rfl⟩ := map_eq_ok_iff.1 h
    cases unplaced

end Project

namespace CommandLine.Workspace

variable {σ : Type} {host : Host σ} {s : σ} {env : Environment} {cwd : Path}
  {manifest? : Option Path} {p : Project} {w : Workspace}

theorem ofProject_eq_ok_iff : ofProject p = .ok w ↔ p.root?.isSome = true ∧ w.project = p ∧
    w.graph.IsOf p.manifest ∧ w.graph.checkAcyclic = .ok () := by
  rw [ofProject]
  cases hroot : p.root? with
  | none => simp [bind_eq_ok_iff, throw, throwThe, MonadExceptOf.throw]
  | some root =>
    simp only [Option.isNone_some, Bool.false_eq_true, if_false, bind_eq_ok_iff, orComplain,
      mapError_eq_ok_iff, Option.isSome_some, true_and, Graph.IsOf]
    constructor
    · rintro ⟨c, hc, g, hg, ⟨⟩, hacyclic, ⟨⟩⟩
      exact ⟨rfl, ⟨c, hc, hg⟩, hacyclic⟩
    · rintro ⟨rfl, ⟨c, hc, hg⟩, hacyclic⟩
      exact ⟨c, hc, w.graph, hg, (), hacyclic, rfl⟩

/-- A workspace is opened for the project that was found. -/
theorem find_eq_ok_iff (read : ((findProject env cwd manifest?).runOn host s).1 = .ok p) :
    ((find env cwd manifest?).runOn host s).1 = .ok w ↔ ofProject p = .ok w := by
  rw [find, Procedure.runOn_bind, read]
  rfl

/-- A project has no place only if no manifest was found in the directory of the caller and those
above it, or if the path that was given for a manifest names no file. -/
theorem unplaced_cases (read : ((findProject env cwd manifest?).runOn host s).1 = .ok p)
    (unplaced : p.root? = none) :
    (manifest? = none ∧ Manifest.withOverrides env {} = .ok p.manifest) ∨
      ∃ file, manifest? = some file ∧ file.place.steps = [] := by
  cases manifest? with
  | none =>
    rw [findProject, Procedure.runOn_bind] at read
    obtain ⟨found, hfound, hp⟩ := bind_eq_ok_iff.1 (mapError_eq_ok_iff.1 read)
    rw [Project.root?_of_withOverrides hp] at unplaced
    obtain ⟨m, hm, rfl⟩ := map_eq_ok_iff.1 hp
    obtain rfl := Project.eq_of_search hfound unplaced
    exact .inl ⟨rfl, hm⟩
  | some file =>
    rw [findProject, Procedure.runOn_bind] at read
    obtain ⟨found, hfound, hp⟩ := bind_eq_ok_iff.1 (mapError_eq_ok_iff.1 read)
    rw [Project.root?_of_withOverrides hp, Project.root?_of_ofFile hfound] at unplaced
    exact .inr ⟨file, rfl, Path.steps_of_parent?_eq_none unplaced⟩

/-- **Opening a workspace settles every question about the targets as a whole.** For a project with
a place, which every one has whose manifest was read (`unplaced_cases`), a workspace can be opened
exactly if the manifest is sound. Every test but the harness then depends on the harness, every
declared target has an environment, and a plan can be made exactly if all names that are asked for
are declared; otherwise the error names the first one that is not. -/
theorem find_settles (read : ((findProject env cwd manifest?).runOn host s).1 = .ok p)
    (placed : p.root?.isSome = true) :
    ((∃ w, ((find env cwd manifest?).runOn host s).1 = .ok w) ↔ p.manifest.IsSound) ∧
    ∀ w, ((find env cwd manifest?).runOn host s).1 = .ok w →
      w.project = p ∧ w.graph.IsOf p.manifest ∧
      (∀ d ∈ p.manifest.targets, d.kind = .test → d.name ≠ p.manifest.harness →
        w.graph.Needs d.name p.manifest.harness) ∧
      (∀ n ∈ p.manifest.names, ∃ env, w.graph.environment n = .ok env) ∧
      ∀ names, ((∃ plan, w.graph.planFor names = .ok plan) ↔
          ∀ n ∈ names, n ∈ p.manifest.names) ∧
        ∀ e, w.graph.planFor names = .error e → ∃ before n after, names = before ++ n :: after ∧
          (∀ r ∈ before, r ∈ p.manifest.names) ∧ n ∉ p.manifest.names ∧
            e = .unknownTarget n none := by
  simp only [find_eq_ok_iff read, ofProject_eq_ok_iff]
  refine ⟨?_, ?_⟩
  · rw [← Graph.exists_isOf_iff]
    constructor
    · rintro ⟨w, -, -, hw⟩
      exact ⟨w.graph, hw⟩
    · rintro ⟨g, hg⟩
      exact ⟨⟨p, g⟩, placed, rfl, hg⟩
  · rintro w ⟨-, hproject, hgraph, hacyclic⟩
    refine ⟨hproject, hgraph, fun d hd hk hne => ?_, fun n hn => ?_, fun names => ?_⟩
    · exact hgraph.needs_iff.2 ⟨d, hd, rfl, .inr ⟨hk, hne, rfl⟩⟩
    · exact Graph.exists_environment hacyclic (hgraph.contains_iff.2 hn)
    · simpa [← hgraph.contains_iff] using Graph.planFor_of_checkAcyclic hacyclic names

/-- The text of a manifest with a test and its harness. -/
def sampleText : String :=
  "[build]\nharness = \"h\"\n[[target]]\nkind = \"test\"\nname = \"t\"\nsources = [\"t.c\"]\n" ++
    "[[target]]\nkind = \"library\"\nname = \"h\"\nheaders = [\"h.h\"]\n"

/-- A host that has this manifest and no other file. -/
def sampleHost : Host Unit where
  isPresent path s := (path = ⟨"/srv/keel.toml"⟩, s)
  readFile path s :=
    (if path = ⟨"/srv/keel.toml"⟩ then .ok (Text.utf8 sampleText) else .error .notFound, s)
  createDirs _ s := (.error .notFound, s)
  start _ s := (.error .notFound, s)
  begin _ s := (.error .notFound, s)
  await s := (none, s)
  employ _ s := (.ok (), s)
  clock s := (0, s)

/-- The project of this manifest. -/
def sample : Project where
  manifest :=
    { build := { harness? := some "h" }
      targets := [
        .test { name := "t", sources := ["t.c"] },
        .library { name := "h", headers := ["h.h"] } []] }
  root? := some ⟨"/srv"⟩

/-- The test needs the harness, and that is all. -/
theorem needs_sample {a b : String} (h : sample.manifest.Needs a b) : a = "t" ∧ b = "h" := by
  obtain ⟨d, hd, rfl, hb⟩ := h
  rcases List.mem_pair.1 hd with rfl | rfl
  · obtain hb | ⟨-, -, rfl⟩ := hb
    · cases hb
    · exact ⟨rfl, rfl⟩
  · obtain hb | ⟨hk, -⟩ := hb
    · cases hb
    · cases hk

theorem isSound_sample : sample.manifest.IsSound where
  valid := by
    rintro d hd
    rcases List.mem_pair.1 hd with rfl | rfl
    · exact ⟨by decide, .inl (by decide)⟩
    · exact ⟨by decide, .inr (by decide)⟩
  distinct := by decide
  harness _ := by decide
  closed := by decide
  acyclic a ha := by
    obtain ⟨b, hab, -⟩ := Relation.TransGen.head'_iff.1 ha
    obtain ⟨c, -, hca⟩ := Relation.TransGen.tail'_iff.1 ha
    have heq := (needs_sample hab).1.symm.trans (needs_sample hca).2
    exact absurd heq (by decide)

/-- The project is found from below its directory. -/
theorem findProject_sample :
    ((findProject {} ⟨"/srv/src"⟩ none).runOn sampleHost ()).1 = .ok sample :=
  toOption_eq_some_iff.1 (by decide +kernel)

/-- Below the directory of the manifest the workspace can be opened. -/
theorem find_settles_sample :
    ((findProject {} ⟨"/srv/src"⟩ none).runOn sampleHost ()).1 = .ok sample ∧
    sample.root?.isSome = true ∧
    ∃ w, ((find {} ⟨"/srv/src"⟩ none).runOn sampleHost ()).1 = .ok w ∧
      w.graph.Needs "t" "h" ∧ (∃ env, w.graph.environment "t" = .ok env) ∧
      w.graph.planFor ["h", "x", "t", "y"] = .error (.unknownTarget "x" none) := by
  obtain ⟨hiff, hopened⟩ := find_settles findProject_sample rfl
  obtain ⟨w, hw⟩ := hiff.2 isSound_sample
  obtain ⟨-, -, hharness, henv, hplans⟩ := hopened w hw
  have hneeds : w.graph.Needs "t" "h" := hharness _ (.head _) rfl (by decide)
  refine ⟨findProject_sample, rfl, w, hw, hneeds, henv "t" (by decide), ?_⟩
  obtain ⟨hplan, herror⟩ := hplans ["h", "x", "t", "y"]
  cases he : w.graph.planFor ["h", "x", "t", "y"] with
  | ok plan => exact absurd (hplan.1 ⟨plan, he⟩ "x" (by decide)) (by decide)
  | error e =>
    obtain ⟨before, n, after, hnames, hb, hn, rfl⟩ := herror e he
    match before with
    | [] =>
      obtain ⟨rfl, -⟩ := List.cons.inj hnames
      exact absurd (by decide) hn
    | [_] =>
      obtain ⟨-, hnames⟩ := List.cons.inj hnames
      obtain ⟨rfl, -⟩ := List.cons.inj hnames
      rfl
    | _ :: second :: _ =>
      obtain ⟨-, hnames⟩ := List.cons.inj hnames
      obtain ⟨rfl, -⟩ := List.cons.inj hnames
      exact absurd (hb "x" (by simp)) (by decide)

end CommandLine.Workspace

end Buildwright
