import Buildwright.Proofs.Graph.Plan
import Buildwright.Proofs.Place
import Buildwright.Tool.Job

/-!
# The files of a build

Where the artifacts and the object files of a build stand, and when two of them are the same file.
An artifact is named after its target, with `.a` behind the name of a library; an object file is
named after its target and its source. That names are distinct is not enough to keep the files
apart. `Graph.artifactsApart_iff` and `Graph.objectsApart_iff` say for every graph what is: first
for names of any form, which may be absolute or hold idle components, and then for names that are
written plainly. In the second case artifacts meet only if an executable bears the name of an
archive (`Graph.artifacts_clash`), and object files only if the name of one target continues that of
another one (`Graph.objects_clash`).
-/

namespace Buildwright

variable {t u : Target} {source other : String} {buildDir : Path}

/-! ### Artifacts -/

namespace Target

/-- The artifact of a target as seen from the build directory. -/
def output (t : Target) : Path :=
  match t.kind with
  | .library => ⟨t.name ++ ".a"⟩
  | .test | .program => ⟨t.name⟩

theorem artifact_eq_join (t : Target) (buildDir : Path) :
    t.artifact buildDir = buildDir.join t.output := by
  cases h : t.kind <;> simp [artifact, output, h]

theorem output_of_isExecutable (h : t.kind.isExecutable = true) : t.output = ⟨t.name⟩ := by
  cases hk : t.kind <;> simp_all [output, Kind.isExecutable]

theorem output_of_isArchive (h : t.isArchive = true) : t.output = ⟨t.name ++ ".a"⟩ := by
  simp_all [output, isArchive]

/-- What has an artifact is an executable or an archive. -/
theorem hasArtifact_iff :
    t.hasArtifact = true ↔ t.kind.isExecutable = true ∨ t.isArchive = true := by
  cases hk : t.kind <;> simp [hasArtifact, isArchive, Kind.isExecutable, hk]

/-- Targets of different names have the same output only if one of them is a library, and the other
one an executable with the name of its archive. -/
theorem namesakes_of_output_eq (hn : t.name ≠ u.name) (ht : t.hasArtifact = true)
    (hu : u.hasArtifact = true) (h : t.output = u.output) :
    (t.isArchive = true ∧ u.kind.isExecutable = true ∧ u.name = t.name ++ ".a") ∨
      u.isArchive = true ∧ t.kind.isExecutable = true ∧ t.name = u.name ++ ".a" := by
  rcases hasArtifact_iff.1 ht with ht | ht <;> rcases hasArtifact_iff.1 hu with hu | hu
  · rw [output_of_isExecutable ht, output_of_isExecutable hu] at h
    exact absurd (Path.mk.inj h) hn
  · rw [output_of_isExecutable ht, output_of_isArchive hu] at h
    exact .inr ⟨hu, ht, Path.mk.inj h⟩
  · rw [output_of_isArchive ht, output_of_isExecutable hu] at h
    exact .inl ⟨ht, hu, (Path.mk.inj h).symm⟩
  · rw [output_of_isArchive ht, output_of_isArchive hu] at h
    exact absurd ((String.append_left_inj ".a").1 (Path.mk.inj h)) hn

/-- The name of a target is a plain path. -/
def HasPlainName (t : Target) : Prop := (⟨t.name⟩ : Path).IsPlain

instance (t : Target) : Decidable t.HasPlainName := inferInstanceAs (Decidable (Path.IsPlain _))

theorem output_isPlain (h : t.HasPlainName) : t.output.IsPlain := by
  have hlibrary : (⟨t.name ++ ".a"⟩ : Path) = .ofChars ((⟨t.name⟩ : Path).chars ++ ['.', 'a']) :=
    Path.ext_chars (by rw [Path.chars_ofChars]; exact String.toList_append)
  cases hk : t.kind with
  | library =>
    rw [output, hk]
    exact hlibrary ▸ h.append (by decide) (by decide)
  | test | program =>
    rw [output, hk]
    exact h

end Target

theorem name_append_ne (name : String) : name ≠ name ++ ".a" := by
  intro h
  have := congrArg String.length h
  rw [String.length_append] at this
  simp at this

namespace Graph

/-- Targets of different names do not write the same artifact. -/
def ArtifactsApart (g : Graph) (buildDir : Path) : Prop :=
  ∀ t ∈ g.targets, ∀ u ∈ g.targets, t.name ≠ u.name → t.hasArtifact = true →
    u.hasArtifact = true → (t.artifact buildDir).place ≠ (u.artifact buildDir).place

/-- **When artifacts are kept apart.** Targets of different names write different artifacts exactly
if no two of their outputs meet in the build directory. If all names are written plainly, then this
is so exactly if no executable has the name of a library with `.a` behind it. -/
theorem artifactsApart_iff (g : Graph) (buildDir : Path) :
    (g.ArtifactsApart buildDir ↔ ∀ t ∈ g.targets, ∀ u ∈ g.targets, t.name ≠ u.name →
      t.hasArtifact = true → u.hasArtifact = true → ¬ buildDir.Meet t.output u.output) ∧
    ((∀ t ∈ g.targets, t.HasPlainName) →
      (g.ArtifactsApart buildDir ↔ ∀ t ∈ g.targets, ∀ u ∈ g.targets, t.isArchive = true →
        u.kind.isExecutable = true → u.name ≠ t.name ++ ".a")) := by
  simp only [ArtifactsApart, Target.artifact_eq_join, Ne, ← Path.place_join_eq_iff]
  refine ⟨trivial, fun hplain => ?_⟩
  constructor
  · intro h t ht u hu ha hb he
    have hn : t.name ≠ u.name := he ▸ name_append_ne t.name
    refine h t ht u hu hn (Target.hasArtifact_iff.2 (.inr ha))
      (Target.hasArtifact_iff.2 (.inl hb)) ?_
    rw [Target.output_of_isArchive ha, Target.output_of_isExecutable hb, he]
  · intro h t ht u hu hn ha hb he
    rw [Path.IsPlain.place_join_inj (Target.output_isPlain (hplain t ht))
      (Target.output_isPlain (hplain u hu))] at he
    rcases Target.namesakes_of_output_eq hn ha hb he with ⟨ha, hb, he⟩ | ⟨hb, ha, he⟩
    · exact h t ht u hu ha hb he
    · exact h u hu t ht hb ha he

theorem artifacts_apart_of_diamond :
    (∀ t ∈ diamond.targets, t.HasPlainName) ∧ diamond.ArtifactsApart ⟨"build"⟩ := by
  have hplain : ∀ t ∈ diamond.targets, t.HasPlainName := by decide
  exact ⟨hplain, ((artifactsApart_iff diamond ⟨"build"⟩).2 hplain).2 (by decide)⟩

/-- A library, and a program with the name of its archive. -/
def namesakes : Graph where
  toCatalog :=
    ((default : Catalog).push
      { name := "core", kind := .library, sources := ["core.c"] } (by decide) (by decide)).push
      { name := "core.a", kind := .program, sources := ["main.c"] } (by decide) (by decide)
  closed := Catalog.danglingReference?_eq_none_iff.1 (by decide)

/-- Two workers may write one artifact at the same time: the library and the program stand in one
wave. -/
theorem artifacts_clash :
    (∃ t ∈ namesakes.targets, ∃ u ∈ namesakes.targets, t.name ≠ u.name ∧ t.hasArtifact = true ∧
      u.hasArtifact = true ∧ t.artifact ⟨"build"⟩ = u.artifact ⟨"build"⟩) ∧
    namesakes.waves ⟨["core", "core.a"]⟩ = .ok [["core", "core.a"]] :=
  ⟨⟨namesakes.targets[0], Array.getElem_mem _, namesakes.targets[1], Array.getElem_mem _,
    by decide, by decide, by decide, by cbv⟩, by cbv⟩

end Graph

/-! ### Object files -/

namespace Job

/-- The object file of a source as seen from the directory of its target. -/
def mirror (source : String) : Path :=
  .ofChars (withoutDots (source.toList.dropWhile (· = '/')) ++ ['.', 'o'])

/-- An object file as seen from the directory of all object files. -/
def objectName (t : Target) (source : String) : Path := (⟨t.name⟩ : Path).join (mirror source)

/-- The place of an object file. -/
theorem place_objectPath (buildDir : Path) (t : Target) (source : String) :
    (objectPath (objectDirOf buildDir t) source).place =
      ((buildDir.join ⟨".objs"⟩).join (objectName t source)).place := by
  rw [objectPath, objectDirOf, objectName]
  simp only [Path.place_join, Place.join_assoc]
  rfl

/-- A source is written plainly: as a plain path without two dots in a row. -/
def IsPlainSource (source : String) : Prop :=
  (⟨source⟩ : Path).IsPlain ∧ ¬ ['.', '.'] <:+: source.toList

instance (source : String) : Decidable (IsPlainSource source) :=
  inferInstanceAs (Decidable (_ ∧ _))

theorem withoutDots_eq_self {cs : List Char} (h : ¬ ['.', '.'] <:+: cs) : withoutDots cs = cs := by
  fun_induction withoutDots cs with
  | case1 rest => exact absurd ⟨[], rest, rfl⟩ h
  | case2 c rest _ ih =>
    rw [ih fun hr => h (hr.trans (List.suffix_cons c rest).isInfix)]
  | case3 => rfl

/-- The object file of a plain source bears its name. -/
theorem mirror_eq (h : IsPlainSource source) :
    mirror source = .ofChars ((⟨source⟩ : Path).chars ++ ['.', 'o']) := by
  have hhead : source.toList.dropWhile (· = '/') = source.toList := by
    have := h.1.isAbsolute_eq_false
    rw [Path.isAbsolute_eq, decide_eq_false_iff_not] at this
    cases hs : source.toList with
    | nil => rfl
    | cons c cs =>
      rw [Path.chars, hs] at this
      rw [List.dropWhile_cons_of_neg (by simpa using this)]
  rw [mirror, hhead, withoutDots_eq_self h.2, Path.chars]

theorem objectName_isPlain (ht : t.HasPlainName) (hs : IsPlainSource source) :
    (objectName t source).IsPlain := by
  rw [objectName, mirror_eq hs]
  exact ht.join (hs.1.append (by decide) (by decide))

/-- The characters of an object file are those of the name of its target and of its source. -/
theorem chars_objectName (ht : t.HasPlainName) (hs : IsPlainSource source) :
    (objectName t source).chars = (t.name ++ "/" ++ source).toList ++ ['.', 'o'] := by
  rw [objectName, mirror_eq hs, ht.chars_join (hs.1.append (by decide) (by decide)),
    Path.chars_ofChars]
  simp [Path.chars]

/-- Object files of plain sources of targets with plain names are the same exactly if the names of
target and source are so, put together. -/
theorem place_join_objectName_inj (base : Path) (ht : t.HasPlainName) (hs : IsPlainSource source)
    (hu : u.HasPlainName) (hr : IsPlainSource other) :
    (base.join (objectName t source)).place = (base.join (objectName u other)).place ↔
      t.name ++ "/" ++ source = u.name ++ "/" ++ other := by
  rw [(objectName_isPlain ht hs).place_join_inj (objectName_isPlain hu hr)]
  refine ⟨fun h => String.toList_inj.1 ?_, fun h => Path.ext_chars ?_⟩
  · have := congrArg Path.chars h
    rw [chars_objectName ht hs, chars_objectName hu hr] at this
    exact List.append_cancel_right this
  · rw [chars_objectName ht hs, chars_objectName hu hr, h]

end Job

namespace Graph

/-- Different sources, be they of one target or of two, do not have the same object file. -/
def ObjectsApart (g : Graph) (buildDir : Path) : Prop :=
  ∀ t ∈ g.targets, ∀ s ∈ t.sources, ∀ u ∈ g.targets, ∀ r ∈ u.sources, (t.name, s) ≠ (u.name, r) →
    (Job.objectPath (Job.objectDirOf buildDir t) s).place ≠
      (Job.objectPath (Job.objectDirOf buildDir u) r).place

/-- **When object files are kept apart.** Different sources have different object files exactly if
no two of their names meet in the directory of all object files. If the targets and the sources are
named plainly, then the sources of one target never get in each other's way, and those of two
targets do exactly if one name and source put together are the same text as the other ones. -/
theorem objectsApart_iff (g : Graph) (buildDir : Path) :
    (g.ObjectsApart buildDir ↔ ∀ t ∈ g.targets, ∀ s ∈ t.sources, ∀ u ∈ g.targets, ∀ r ∈ u.sources,
      (t.name, s) ≠ (u.name, r) →
        ¬ (buildDir.join ⟨".objs"⟩).Meet (Job.objectName t s) (Job.objectName u r)) ∧
    ((∀ t ∈ g.targets, t.HasPlainName ∧ ∀ s ∈ t.sources, Job.IsPlainSource s) →
      (g.ObjectsApart buildDir ↔ ∀ t ∈ g.targets, ∀ s ∈ t.sources, ∀ u ∈ g.targets,
        ∀ r ∈ u.sources, t.name ≠ u.name → t.name ++ "/" ++ s ≠ u.name ++ "/" ++ r)) := by
  simp only [ObjectsApart, Job.place_objectPath, Ne, ← Path.place_join_eq_iff]
  refine ⟨trivial, fun hplain => ?_⟩
  have hsame {t} (ht : t ∈ g.targets) {s} (hs : s ∈ t.sources) {u} (hu : u ∈ g.targets) {r}
      (hr : r ∈ u.sources) := Job.place_join_objectName_inj (buildDir.join ⟨".objs"⟩)
    (hplain t ht).1 ((hplain t ht).2 s hs) (hplain u hu).1 ((hplain u hu).2 r hr)
  constructor
  · intro h t ht s hs u hu r hr hn he
    exact h t ht s hs u hu r hr (fun hp => hn (Prod.mk.inj hp).1) ((hsame ht hs hu hr).2 he)
  · intro h t ht s hs u hu r hr hn he
    have he := (hsame ht hs hu hr).1 he
    by_cases hname : t.name = u.name
    · rw [hname] at he
      exact hn (by rw [hname, (String.append_right_inj _).1 he])
    · exact h t ht s hs u hu r hr hname he

theorem objects_apart_of_diamond :
    (∀ t ∈ diamond.targets, t.HasPlainName ∧ ∀ s ∈ t.sources, Job.IsPlainSource s) ∧
      diamond.ObjectsApart ⟨"build"⟩ := by
  have hplain : ∀ t ∈ diamond.targets, t.HasPlainName ∧ ∀ s ∈ t.sources, Job.IsPlainSource s := by
    decide
  exact ⟨hplain, ((objectsApart_iff diamond ⟨"build"⟩).2 hplain).2 (by decide)⟩

/-- A library whose name is the front of another one's, and sources that make up for the rest. -/
def nested : Graph where
  toCatalog :=
    ((default : Catalog).push
      { name := "net", kind := .library, sources := ["http/parser.c", "../a.c", "__/a.c"] }
        (by decide) (by decide)).push
      { name := "net/http", kind := .library, sources := ["parser.c"] } (by decide) (by decide)
  closed := Catalog.danglingReference?_eq_none_iff.1 (by decide)

/-- Sources of two targets share an object file, and so do two sources of one target. -/
theorem objects_clash :
    (∃ t ∈ nested.targets, ∃ u ∈ nested.targets, t.name ≠ u.name ∧
      ∃ s ∈ t.sources, ∃ r ∈ u.sources, Job.objectPath (Job.objectDirOf ⟨"build"⟩ t) s =
        Job.objectPath (Job.objectDirOf ⟨"build"⟩ u) r) ∧
    ∃ t ∈ nested.targets, ∃ s ∈ t.sources, ∃ r ∈ t.sources, s ≠ r ∧
      Job.objectPath (Job.objectDirOf ⟨"build"⟩ t) s =
        Job.objectPath (Job.objectDirOf ⟨"build"⟩ t) r :=
  ⟨⟨nested.targets[0], Array.getElem_mem _, nested.targets[1], Array.getElem_mem _,
    by decide, "http/parser.c", by decide, "parser.c", by decide, by cbv⟩,
    nested.targets[0], Array.getElem_mem _, "../a.c", by decide, "__/a.c", by decide, by decide,
    by cbv⟩

end Graph

end Buildwright
