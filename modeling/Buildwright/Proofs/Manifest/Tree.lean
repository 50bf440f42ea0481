import Buildwright.Manifest.Rules
import Buildwright.Proofs.Manifest.Record

/-!
# Manifests are read as they are written

Each section of a manifest is a record that is written field by field: what is left out is what the
blank record has anyway, and what is required is there. The proofs of this name, for each field, the
record `b` with what has been written up to there. Hence a section is read back whatever the
order of its keys, and so are the declarations, whose kind is looked up under its own key before the
others are read (`Declaration.ofData_of_rearranged`), and whole manifests
(`Manifest.ofData_of_rearranged_toData`).
-/

namespace Buildwright

open Record Record.Field

/-! ### Sections -/

theorem Package.record_isIndependent : record.IsIndependent where
  nodup_keys := by decide
  commutes := by simp [record, requiredText, optionalText, commutes_reading]

theorem Package.written (p : Package) : record.Writes p p.toData := by
  refine ⟨_, ?_,
    .cons (b := { name := p.name, version := "" }) (.requiredText p.name) <|
    .cons (b := { name := p.name, version := p.version }) (.requiredText p.version) <|
    .optionalText p.description? (fun s? => { p with description? := s? }) rfl fun _ => rfl⟩
  simp [toData]

theorem BuildSettings.record_isIndependent : record.IsIndependent where
  nodup_keys := by decide
  commutes := by simp [record, optionalText, texts, commutes_reading]

theorem BuildSettings.written (b : BuildSettings) : record.Writes b b.toData := by
  refine ⟨_, ?_,
    .cons (b := { output? := b.output? })
      (.ifSome (fun path => .text path.text) b.output?
        (fun p? => { output? := p? : BuildSettings }) (by simp [reading]) rfl
        fun _ _ hd => hd.eq_text ▸ rfl) <|
    .cons (b := { output? := b.output?, jobs? := b.jobs? })
      (.ifSome (fun n => .integer (n : Nat)) b.jobs?
        (fun n? => { output? := b.output?, jobs? := n? : BuildSettings }) (by simp [reading]) rfl
        fun _ _ hd => hd.eq_integer ▸ rfl) <|
    .cons (b := { output? := b.output?, jobs? := b.jobs?, mode? := b.mode? })
      (.optionalText b.mode?
        (fun s? => { output? := b.output?, jobs? := b.jobs?, mode? := s? : BuildSettings }) rfl
        fun _ => rfl) <|
    .cons (b := { b with includeDirs := [] })
      (.optionalText b.harness? (fun s? => { b with harness? := s?, includeDirs := [] }) rfl
        fun _ => rfl) <|
    .texts rfl⟩
  -- the number of jobs is made an integer before the entry is
  have hjobs : (b.jobs?.bind fun n : Nat => some ("jobs", Data.integer n)) =
      b.jobs?.map fun n : Nat => ("jobs", Data.integer n) := by
    cases b.jobs? <;> rfl
  simp [toData, DataEntries.optional, reading, Function.comp_def, hjobs]

theorem ToolSettings.record_isIndependent : record.IsIndependent where
  nodup_keys := by decide
  commutes := by simp [record, optionalText, texts, commutes_reading]

theorem ToolSettings.written (t : ToolSettings) : record.Writes t t.toData := by
  refine ⟨_, ?_,
    .cons (b := { compiler? := t.compiler? })
      (.optionalText t.compiler? (fun s? => { compiler? := s? : ToolSettings }) rfl fun _ => rfl) <|
    .cons (b := { compiler? := t.compiler?, archiver? := t.archiver? })
      (.optionalText t.archiver?
        (fun s? => { compiler? := t.compiler?, archiver? := s? : ToolSettings }) rfl
        fun _ => rfl) <|
    .cons (b := { t with linter? := none, lintFilters := [] }) (.texts rfl) <|
    .cons (b := { t with lintFilters := [] })
      (.optionalText t.linter? (fun s? => { t with linter? := s?, lintFilters := [] }) rfl
        fun _ => rfl) <|
    .texts rfl⟩
  simp [toData]

/-! ### Declarations -/

theorem Contents.fields_commute : (firstFields ++ lastFields).Pairwise Commutes := by
  simp [firstFields, lastFields, requiredText, texts, commutes_reading]

theorem Declaration.binaryRecord_isIndependent : binaryRecord.IsIndependent where
  nodup_keys := by decide
  commutes := Contents.fields_commute

theorem Declaration.libraryRecord_isIndependent : libraryRecord.IsIndependent where
  nodup_keys := by decide
  commutes := by
    rw [libraryRecord, List.perm_middle.pairwise_iff fun h => symm h, ← List.map_append,
      List.pairwise_cons, List.forall_mem_map, List.pairwise_map]
    exact ⟨fun f _ => commutes_onFirst f, Contents.fields_commute.imp Commutes.onFirst⟩

/-- The contents of a declaration before the directories that a library exports. -/
theorem Contents.written_first (c : Contents) {sources : DataEntries}
    (h : sources = DataEntries.nonempty "sources" c.sources ∨
      sources = [("sources", Data.texts c.sources)]) :
    Written firstFields {}
      ([("name", .text c.name)] ++ (sources ++ (DataEntries.nonempty "headers" c.headers ++
        DataEntries.nonempty "local_include_dirs" c.localIncludeDirs)))
      { c with linkFlags := [], deps := [], lintExempt := false } := by
  refine .cons (b := { name := c.name }) (.requiredText c.name) <|
    .cons (b := { name := c.name, sources := c.sources }) ?_ <|
    .cons (b := { name := c.name, sources := c.sources, headers := c.headers }) (.texts rfl) <|
    .texts rfl
  obtain rfl | rfl := h
  · exact .texts rfl
  · exact .allTexts c.sources

/-- The contents of a declaration after the directories that a library exports. -/
theorem Contents.written_last (c : Contents) :
    Written lastFields { c with linkFlags := [], deps := [], lintExempt := false }
      (DataEntries.nonempty "link_flags" c.linkFlags ++ (DataEntries.nonempty "deps" c.deps ++
        if c.lintExempt then [("lint_exempt", .boolean true)] else [])) c := by
  refine .cons (b := { c with deps := [], lintExempt := false }) (.texts rfl) <|
    .cons (b := { c with lintExempt := false }) (.texts rfl) ?_
  obtain ⟨_, _, _, _, _, _, _ | _⟩ := c
  · exact .leftOut nofun (.nil _)
  · exact .entry (fun _ hd => hd.eq_boolean ▸ rfl) (.nil _)

namespace Declaration

theorem written_binary (c : Contents) : Written binaryRecord.fields binaryRecord.blank
    (c.entries [("sources", Data.texts c.sources)] []) c := by
  have h : Written binaryRecord.fields binaryRecord.blank _ c :=
    (c.written_first (.inr rfl)).append c.written_last
  simpa [Contents.entries] using h

theorem written_library (c : Contents) (dirs : List String) :
    Written libraryRecord.fields libraryRecord.blank
      (c.entries (DataEntries.nonempty "sources" c.sources)
        (DataEntries.nonempty "global_include_dirs" dirs)) (c, dirs) := by
  have hfirst := (c.written_first (.inl rfl)).onFirst ([] : List String)
  have hlast := c.written_last.onFirst dirs
  have h : Written libraryRecord.fields libraryRecord.blank _ (c, dirs) :=
    hfirst.append (.cons (.texts rfl) hlast)
  simpa [Contents.entries] using h

theorem kind_notMem_keys (d : Declaration) : "kind" ∉ d.entries.map Prod.fst := by
  have hbinary (c : Contents) := (written_binary c).keys_sublist.subset
  cases d with
  | library c dirs =>
    exact fun h => absurd ((written_library c dirs).keys_sublist.subset h) (by decide)
  | test c | program c => exact fun h => absurd (hbinary c h) (by decide)

theorem ofFields_of_rearranged (d : Declaration) {others : DataEntries}
    (h : d.entries.Rearranged others) : ofFields d.kind (fun r => r.readTable others) = .ok d := by
  cases d with
  | library c dirs =>
    have hread := (written_library c dirs).readTable_eq libraryRecord_isIndependent h
    exact map_eq_ok_iff.2 ⟨(c, dirs), hread, rfl⟩
  | test c | program c =>
    have hread := (written_binary c).readTable_eq binaryRecord_isIndependent h
    exact map_eq_ok_iff.2 ⟨c, hread, rfl⟩

/-- **A declaration is read as it was written**, wherever its keys stand: its kind is found under
its own key, and what is left are the fields of that kind. -/
theorem ofData_of_rearranged (decl : Declaration) {d : Data} (h : decl.toData.Rearranged d) :
    ofData d = .ok decl := by
  obtain ⟨others, rfl, hothers⟩ := h.exists_table
  obtain ⟨tag, htag, hlookup, hfields⟩ := hothers.exists_lookup decl.kind_notMem_keys
  obtain rfl := htag.eq_text
  have hkind : Kind.ofData (.text decl.kind.name) = .ok decl.kind := by
    rw [Kind.ofData, Data.asText, bind_eq_ok_iff]
    exact ⟨_, rfl, by rw [Kind.ofName?_name]⟩
  have hread := ofFields_of_rearranged decl hfields
  simp only [ofData, Data.entries?, hlookup]
  exact bind_eq_ok_iff.2 ⟨decl.kind, hkind, hread⟩

end Declaration

/-! ### Manifests -/

namespace Manifest

theorem record_isIndependent : record.IsIndependent where
  nodup_keys := by decide
  commutes := by simp [record, commutes_reading]

theorem written (m : Manifest) : record.Writes m m.toData := by
  have hpackage (p : Package) (d : Data) (hd : p.toData.Rearranged d) :
      Package.record.read d = .ok p := p.written.read_eq Package.record_isIndependent hd
  have hbuild (d : Data) (hd : m.build.toData.Rearranged d) :
      BuildSettings.record.read d = .ok m.build :=
    m.build.written.read_eq BuildSettings.record_isIndependent hd
  have htools (d : Data) (hd : m.tools.toData.Rearranged d) :
      ToolSettings.record.read d = .ok m.tools :=
    m.tools.written.read_eq ToolSettings.record_isIndependent hd
  have htargets (d : Data) (hd : (Data.list (m.targets.map Declaration.toData)).Rearranged d) :
      d.asList Declaration.ofData = .ok m.targets :=
    Data.asList_of_rearranged (fun decl _ => decl.ofData_of_rearranged) hd
  refine ⟨_, ?_,
    .cons (b := { package? := m.package? })
      (.ifSome Package.toData m.package? (fun p? => { package? := p? : Manifest })
        (by simp [reading]) rfl fun p d hd => set_reading (hpackage p d hd) _) <|
    .entry (b := { package? := m.package?, build := m.build }) (d := m.build.toData)
      (fun d hd => set_reading (hbuild d hd) _) <|
    .entry (b := { m with targets := [] }) (d := m.tools.toData)
      (fun d hd => set_reading (htools d hd) _) <|
    .ifNot (p := m.targets = []) (d := .list (m.targets.map Declaration.toData))
      (by simp [reading]) (fun h => by rw [← h])
      fun d hd => set_reading (htargets d hd) _⟩
  simp [toData, reading]

/-- **Manifests are read as they were written.** A manifest that breaks no rule is written as a
tree from which, with the keys of its tables in any order, the same manifest is read, and it still
breaks no rule; and any declaration is read from its own tree likewise. -/
theorem ofData_of_rearranged_toData {m : Manifest} (hm : m.violation? = none) :
    (∀ d, m.toData.Rearranged d → ∃ m', ofData d = .ok m' ∧ m' = m ∧ m'.violation? = none) ∧
      ∀ (decl : Declaration) d, decl.toData.Rearranged d → Declaration.ofData d = .ok decl := by
  have hread (d : Data) (hd : m.toData.Rearranged d) : ofData d = .ok m :=
    m.written.read_eq record_isIndependent hd
  exact ⟨fun d hd => ⟨m, hread d hd, rfl, hm⟩, fun decl d => decl.ofData_of_rearranged⟩

/-- A manifest with a library and its test. -/
def sample : Manifest where
  package? := some { name := "p", version := "1.0" }
  build := { jobs? := some 2 }
  tools := { lintFilters := ["-a"] }
  targets := [.library { name := "a" } ["i"], .test { name := "t", deps := ["a"] }]

/-- The same manifest as data, with the keys of every table in reverse. -/
def reversedSample : Data :=
  .table [
    ("target", .list [
      .table [("global_include_dirs", .texts ["i"]), ("name", .text "a"),
        ("kind", .text "library")],
      .table [("deps", .texts ["a"]), ("sources", .texts []), ("name", .text "t"),
        ("kind", .text "test")]]),
    ("toolchain", .table [("lint_filters", .texts ["-a"])]),
    ("build", .table [("jobs", .integer 2)]),
    ("package", .table [("version", .text "1.0"), ("name", .text "p")])]

theorem ofData_reversedSample : sample.violation? = none ∧
    sample.toData.Rearranged reversedSample ∧
      ∃ m', ofData reversedSample = .ok m' ∧ m' = sample ∧ m'.violation? = none := by
  have hm : sample.violation? = none := by decide
  have hreverse {entries : List (String × Data)} :
      (Data.table entries).Rearranged (.table entries.reverse) :=
    .table (List.forall₂_same.2 fun e _ => .refl e) (List.reverse_perm entries).symm
  have hd : sample.toData.Rearranged reversedSample := by
    refine .table (.cons (.under _ hreverse) <| .cons (.under _ (.same _)) <|
      .cons (.under _ (.same _)) <| .cons (.under _ (.list ?_)) .nil) (List.reverse_perm _).symm
    exact .cons hreverse (.cons hreverse .nil)
  exact ⟨hm, hd, (ofData_of_rearranged_toData hm).1 _ hd⟩

end Manifest

end Buildwright
