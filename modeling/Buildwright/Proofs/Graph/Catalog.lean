import Buildwright.Proofs.Graph.Manifest
import Buildwright.Text.Distinct

/-!
# What a catalog holds

A catalog keeps its targets twice: in the order of declaration, and behind an index from names to
positions. Declaring a target changes both, adding a harness only the first, and either call may
fail. A catalog behaves all the same like a plain list of targets (`Catalog.Holds`), whatever the
calls were and whichever of them failed: in `Call.onList` the same calls are made on a list that is
searched from its beginning. After a call one has the catalog that its edit leaves behind, also if
it fails (`Catalog.after`). The catalog of a manifest holds what is declared there, and the graph of
a catalog what the catalog holds, apart from the harness (`Catalog.holds_after_calls`).
-/

namespace Buildwright

namespace Catalog

variable {c c' : Catalog} {t : Target} {n harness : String} {e : BuildError}

/-! ### Lists of targets -/

/-- `c.Holds ts`: the catalog holds the targets `ts` in this order. They have distinct names and can
be built, and each of them is found under its name and at its position. -/
structure Holds (c : Catalog) (ts : List Target) : Prop where
  targets : c.targets.toList = ts
  distinct : (ts.map (·.name)).Nodup
  valid : ∀ t ∈ ts, Text.isBlankText t.name = false ∧
    (t.sources ≠ [] ∨ t.kind = .library ∧ t.headers ≠ [])
  find_ok : ∀ n t, c.find n = .ok t ↔ t ∈ ts ∧ t.name = n
  find_error : ∀ n e, c.find n = .error e ↔
    n ∉ ts.map (·.name) ∧ e = .unknownTarget n none
  position : ∀ n i, c.position? n = some i ↔ (ts.map (·.name))[i]? = some n

theorem find_eq_ok_iff : c.find n = .ok t ↔ c.get? n = some t := by
  rw [find]
  split <;> simp_all

theorem find_eq_error_iff :
    c.find n = .error e ↔ c.contains n = false ∧ e = .unknownTarget n none := by
  have hcontains : c.contains n = false ↔ c.get? n = none := by
    rw [← Bool.not_eq_true, contains_iff_get?]
    exact ⟨fun h => Option.eq_none_iff_forall_ne_some.2 fun t ht => h ⟨t, ht⟩, fun h => by simp [h]⟩
  rw [find, hcontains]
  split
  · next h => simp [h]
  · next h => simpa [h] using eq_comm

/-- **Every catalog holds its targets.** -/
theorem holds_targets (c : Catalog) : c.Holds c.targets.toList where
  targets := rfl
  distinct := c.nodup_names
  valid t ht := Target.defect?_eq_none_iff.1 (c.defect?_eq_none t (Array.mem_toList_iff.1 ht))
  find_ok n t := by rw [find_eq_ok_iff, get?_eq_some_iff, Array.mem_toList_iff]
  find_error n e := by
    rw [find_eq_error_iff, ← Bool.not_eq_true, ← mem_names_iff]
    rfl
  position n i := by
    rw [position?, c.positions_iff, List.getElem?_map, Array.getElem?_toList]

/-! ### Calls -/

/-- A call that may change a catalog. -/
inductive Call where
  | declare (t : Target)
  | addHarness (harness : String)

namespace Call

/-- The edit that a call makes. -/
def edit : Call → Edit Unit
  | .declare t => .declare t
  | .addHarness harness => discard (.addHarness harness)

/-- The catalog that a call makes of another one, or the error with which it fails. -/
def answer (c : Catalog) (call : Call) : Except BuildError Catalog :=
  (call.edit.result c).map (·.1)

/-- The same call on a list of targets. -/
def onList (ts : List Target) : Call → Except BuildError (List Target)
  | .declare t =>
    match t.defect? with
    | some defect => .error (.invalidTarget t.name t.kind.name defect.message)
    | none =>
      if t.name ∈ ts.map (·.name) then .error (.duplicateName t.name) else .ok (ts ++ [t])
  | .addHarness harness =>
    if harness ∈ ts.map (·.name) then .ok (ts.map (·.withHarness harness))
    else .error (.missingHarness harness)

/-- The target that a call declares, if it can be built. -/
def sound? : Call → Option Target
  | .declare t => if t.defect? = none then some t else none
  | .addHarness _ => none

end Call

/-- The catalog that a call leaves behind, whether it fails or not. -/
def after (c : Catalog) (call : Call) : Catalog :=
  match call.edit.run c with
  | .ok _ c' | .error _ c' => c'

/-- The list after a call. -/
def Call.afterList (ts : List Target) (call : Call) : List Target :=
  (call.onList ts).toOption.getD ts

/-- The catalog after some calls on an empty one. -/
def afterAll (calls : List Call) : Catalog := calls.foldl after default

/-- The list after some calls on an empty one. -/
def Call.listAfterAll (calls : List Call) : List Target := calls.foldl afterList []

/-- A declaration fails at a defect, and otherwise at a name that is taken. -/
theorem declare_eq_error_iff : c.declare t = .error e ↔
    (∃ defect, t.defect? = some defect ∧
      e = .invalidTarget t.name t.kind.name defect.message) ∨
    (t.defect? = none ∧ t.name ∈ c.names ∧ e = .duplicateName t.name) := by
  rw [mem_names_iff]
  cases hd : t.defect? with
  | some defect => simpa [declare_of_defect hd] using eq_comm
  | none =>
    cases hf : c.contains t.name with
    | true => simpa [declare_of_taken hd hf] using eq_comm
    | false => simp [declare_of_free hd hf]

theorem Call.answer_declare (c : Catalog) (t : Target) :
    Call.answer c (.declare t) = c.declare t := rfl

theorem Call.answer_addHarness (c : Catalog) (harness : String) :
    Call.answer c (.addHarness harness) = (c.addHarness harness).map (·.1) := by
  rw [answer, edit, Edit.result, Edit.run_discard, Catalog.addHarness, Edit.result]
  cases (Edit.addHarness harness).run c <;> rfl

/-- **A call does with a catalog what it does with a list**, down to the error. -/
theorem map_answer (c : Catalog) (call : Call) :
    (call.answer c).map (·.targets.toList) = call.onList c.targets.toList := by
  have hnames (n : String) : n ∈ c.targets.toList.map (·.name) ↔ c.contains n = true :=
    mem_names_iff
  cases call with
  | declare t =>
    rw [Call.answer_declare]
    simp only [Call.onList, hnames]
    cases hd : t.defect? with
    | some defect => rw [declare_of_defect hd]; rfl
    | none =>
      cases hf : c.contains t.name with
      | true => rw [declare_of_taken hd hf]; rfl
      | false =>
        rw [declare_of_free hd hf]
        exact congrArg Except.ok Array.toList_push
  | addHarness harness =>
    rw [Call.answer_addHarness]
    simp only [Call.onList, hnames]
    cases hd : c.contains harness with
    | true =>
      rw [addHarness_of_contains hd]
      exact congrArg Except.ok Array.toList_map
    | false => rw [addHarness_of_undeclared hd]; rfl

/-- **A call that fails leaves the catalog as it was**: whatever it writes, it writes after its
checks. -/
theorem Call.isAtomic_edit (call : Call) : call.edit.IsAtomic := by
  cases call with
  | declare t => exact Edit.isAtomic_declare t
  | addHarness harness => exact (Edit.isAtomic_addHarness harness).discard

theorem after_of_error {call : Call} (h : call.answer c = .error e) : c.after call = c := by
  rw [Call.answer, Edit.result] at h
  rw [after]
  split at h
  · cases h
  · next hrun =>
    rw [hrun]
    exact call.isAtomic_edit c _ _ hrun

theorem after_of_ok {call : Call} (h : call.answer c = .ok c') : c.after call = c' := by
  rw [Call.answer, Edit.result] at h
  rw [after]
  split at h
  · next hrun =>
    rw [hrun]
    exact Except.ok.inj h
  · cases h

theorem targets_after (c : Catalog) (call : Call) :
    (c.after call).targets.toList = call.afterList c.targets.toList := by
  rw [Call.afterList, ← map_answer]
  cases h : call.answer c with
  | ok c' => rw [after_of_ok h]; rfl
  | error e => rw [after_of_error h]; rfl

/-! ### Runs -/

/-- **A run of calls** does with a catalog what it does with a list. -/
theorem targets_foldl_after (c : Catalog) (calls : List Call) :
    (calls.foldl after c).targets.toList = calls.foldl Call.afterList c.targets.toList := by
  induction calls generalizing c with
  | nil => rfl
  | cons call calls ih => rw [List.foldl_cons, List.foldl_cons, ih, targets_after]

/-- What a run adds to the names of a list: those that are declared for something that can be built,
each when this happens for the first time. -/
theorem names_foldl_afterList (calls : List Call) (ts : List Target) (seen : Std.TreeSet String)
    (hseen : ∀ n, seen.contains n = true ↔ n ∈ ts.map (·.name)) :
    (calls.foldl Call.afterList ts).map (·.name) =
      ts.map (·.name) ++ Text.distinctFrom seen ((calls.filterMap Call.sound?).map (·.name)) := by
  induction calls generalizing ts seen with
  | nil => simp [Text.distinctFrom]
  | cons call calls ih =>
    rw [List.foldl_cons]
    cases call with
    | addHarness harness =>
      have hnames : (Call.afterList ts (.addHarness harness)).map (·.name) = ts.map (·.name) := by
        rw [Call.afterList, Call.onList]
        split
        · simp [Except.toOption]
        · rfl
      rw [ih _ seen fun n => by rw [hseen, hnames], hnames]
      rfl
    | declare t =>
      cases hd : t.defect? with
      | some defect =>
        have hafter : Call.afterList ts (.declare t) = ts := by
          simp [Call.afterList, Call.onList, hd, Except.toOption]
        have hsound : Call.sound? (.declare t) = none := by simp [Call.sound?, hd]
        rw [hafter, ih ts seen hseen, List.filterMap_cons_none hsound]
      | none =>
        have hsound : Call.sound? (.declare t) = some t := if_pos hd
        rw [List.filterMap_cons_some hsound, List.map_cons, Text.distinctFrom]
        by_cases hn : t.name ∈ ts.map (·.name)
        · have hafter : Call.afterList ts (.declare t) = ts := by
            rw [Call.afterList, Call.onList, hd]
            simp only [hn, if_true, Except.toOption, Option.getD_none]
          rw [hafter, ih ts seen hseen, if_pos ((hseen _).2 hn)]
        · have hafter : Call.afterList ts (.declare t) = ts ++ [t] := by
            rw [Call.afterList, Call.onList, hd]
            simp only [hn, if_false, Except.toOption, Option.getD_some]
          rw [hafter, ih (ts ++ [t]) (seen.insert t.name), if_neg ((hseen _).not.2 hn)]
          · simp
          · intro n
            rw [Std.TreeSet.contains_insert, Bool.or_eq_true, beq_iff_eq, Std.compare_eq_iff_eq,
              hseen, List.map_append, List.mem_append, List.map_singleton, List.mem_singleton,
              or_comm, @eq_comm _ n]

/-! ### Manifests -/

variable {m : Manifest}

/-- **Where a manifest is refused**: at the first declaration that is not valid or whose name is
taken. -/
theorem ofManifest_eq_error_iff : ofManifest m = .error e ↔
    ∃ before d after, m.targets = before ++ d :: after ∧ (∀ b ∈ before, b.IsValid) ∧
      (before.map (·.name)).Nodup ∧
      ((∃ defect, (Target.ofDeclaration d).defect? = some defect ∧
          e = .invalidTarget d.name d.kind.name defect.message) ∨
        (d.IsValid ∧ d.name ∈ before.map (·.name) ∧ e = .duplicateName d.name)) := by
  rw [ofManifest, foldlM_eq_error_iff]
  refine exists_congr fun before => exists_congr fun d => exists_congr fun after => ?_
  rw [exists_and_left]
  refine and_congr_right fun _ => ?_
  -- what stands before the declaration is a manifest of its own
  have hlast (c : Catalog) (hc : ofManifest { m with targets := before } = .ok c) :
      c.declare (.ofDeclaration d) = .error e ↔
        (∃ defect, (Target.ofDeclaration d).defect? = some defect ∧
          e = .invalidTarget d.name d.kind.name defect.message) ∨
        (d.IsValid ∧ d.name ∈ before.map (·.name) ∧ e = .duplicateName d.name) := by
    rw [declare_eq_error_iff, names_of_ofManifest hc, Target.defect?_ofDeclaration_eq_none_iff]
    rfl
  have htaken : (∃ c, ofManifest { m with targets := before } = .ok c) ↔
      (∀ b ∈ before, b.IsValid) ∧ (before.map (·.name)).Nodup := exists_ofManifest_iff
  constructor
  · rintro ⟨c, hc, he⟩
    obtain ⟨hvalid, hdistinct⟩ := htaken.1 ⟨c, hc⟩
    exact ⟨hvalid, hdistinct, (hlast c hc).1 he⟩
  · rintro ⟨hvalid, hdistinct, he⟩
    obtain ⟨c, hc⟩ := htaken.2 ⟨hvalid, hdistinct⟩
    exact ⟨c, hc, (hlast c hc).2 he⟩

/-! ### Graphs -/

/-- A harness changes nothing of a target but its dependencies, and those only if it is a test that
lacks the harness. -/
theorem withHarness_cases (t : Target) (harness : String) :
    t.withHarness harness = t ∨ (t.kind = .test ∧ t.name ≠ harness ∧ harness ∉ t.deps ∧
      t.withHarness harness = { t with deps := t.deps ++ [harness] }) := by
  rw [Target.withHarness]
  split
  · next h =>
    simp only [Target.lacksHarness, Bool.and_eq_true, decide_eq_true_eq, Bool.not_eq_true',
      List.contains_eq_mem, decide_eq_false_iff_not] at h
    exact .inr ⟨h.1.1, h.1.2, h.2, rfl⟩
  · exact .inl rfl

/-- The targets of a list with a harness, if there is to be one. -/
def listWithHarness? (ts : List Target) (harness? : Option String) : List Target :=
  harness?.elim ts fun harness => ts.map (·.withHarness harness)

/-- The graph of a catalog has its index, and its targets with the harness. -/
theorem holds_ofCatalog {g : Graph} {harness? : Option String} {dirs : List String}
    (h : Graph.ofCatalog c harness? dirs = .ok g) : g.positions = c.positions ∧
      g.toCatalog.Holds (listWithHarness? c.targets.toList harness?) := by
  obtain ⟨⟨-, hg⟩, -⟩ := Graph.ofCatalog_eq_ok_iff.1 h
  have htargets : g.targets.toList = listWithHarness? c.targets.toList harness? := by
    rw [hg]
    cases harness? with
    | none => rfl
    | some harness => exact Array.toList_map
  refine ⟨?_, htargets ▸ g.holds_targets⟩
  rw [hg]
  cases harness? <;> rfl

/-! ### Catalogs as lists -/

/-- **A catalog is as good as a list**, whatever the calls were that it comes of and whichever of
them failed. A call does with it what it does with the list, and one that fails changes nothing. The
names are those that were declared for something that can be built, in the order in which this first
happened. A manifest is refused at its first declaration that is not valid or whose name is taken,
where the former comes before the latter; otherwise its catalog holds what is declared. The graph of
a catalog has its index and its targets, apart from a harness behind the dependencies of the tests
that lack it. -/
theorem holds_after_calls :
    (∀ calls : List Call,
      (afterAll calls).Holds (Call.listAfterAll calls) ∧
      (Call.listAfterAll calls).map (·.name) =
        Text.distinct ((calls.filterMap Call.sound?).map (·.name)) ∧
      ∀ call : Call,
        (call.answer (afterAll calls)).map (·.targets.toList) =
          call.onList (Call.listAfterAll calls) ∧
        ∀ e, call.answer (afterAll calls) = .error e →
          afterAll (calls ++ [call]) = afterAll calls) ∧
    (∀ m : Manifest,
      ((∃ c, ofManifest m = .ok c) ↔ (∀ d ∈ m.targets, d.IsValid) ∧ m.names.Nodup) ∧
      (∀ c, ofManifest m = .ok c → c.Holds (m.targets.map .ofDeclaration)) ∧
      ∀ e, ofManifest m = .error e ↔
        ∃ before d after, m.targets = before ++ d :: after ∧ (∀ b ∈ before, b.IsValid) ∧
          (before.map (·.name)).Nodup ∧
          ((∃ defect, (Target.ofDeclaration d).defect? = some defect ∧
              e = .invalidTarget d.name d.kind.name defect.message) ∨
            (d.IsValid ∧ d.name ∈ before.map (·.name) ∧ e = .duplicateName d.name))) ∧
    (∀ (c : Catalog) (harness? : Option String) (dirs : List String) (g : Graph),
      Graph.ofCatalog c harness? dirs = .ok g → g.positions = c.positions ∧
        g.toCatalog.Holds (listWithHarness? c.targets.toList harness?)) ∧
    ∀ (t : Target) (harness : String), t.withHarness harness = t ∨
      (t.kind = .test ∧ t.name ≠ harness ∧ harness ∉ t.deps ∧
        t.withHarness harness = { t with deps := t.deps ++ [harness] }) := by
  refine ⟨fun calls => ?_, fun m => ⟨exists_ofManifest_iff, fun c hc => ?_,
    fun e => ofManifest_eq_error_iff⟩, fun c harness? dirs g => holds_ofCatalog, withHarness_cases⟩
  · have htargets : (afterAll calls).targets.toList = Call.listAfterAll calls :=
      targets_foldl_after default calls
    refine ⟨htargets ▸ holds_targets _, ?_, fun call => ⟨htargets ▸ map_answer _ call, ?_⟩⟩
    · exact names_foldl_afterList calls [] ∅ (by simp)
    · intro e he
      rw [afterAll, List.foldl_append]
      exact after_of_error he
  · exact targets_of_ofManifest hc ▸ c.holds_targets

/-- The harness is asked for before it is declared, and a name is declared again. -/
example : (afterAll [
      .addHarness "h",
      .declare { name := "t", kind := .test, sources := ["t.c"] },
      .declare { name := "h", kind := .library, sources := ["h.c"] },
      .declare { name := "t", kind := .program, sources := ["u.c"] },
      .addHarness "h"]).targets.toList =
    [{ name := "t", kind := .test, sources := ["t.c"], deps := ["h"] },
      { name := "h", kind := .library, sources := ["h.c"] }] := by decide +kernel

end Catalog

end Buildwright
