import Buildwright.Graph.Environment
import Buildwright.Proofs.Fallible
import Buildwright.Proofs.Graph.Walk

/-!
# Plans

What planning gives for every list of requests: an order of building that holds exactly what the
requests reach, or the first request that cannot be planned together with what is wrong with it.
-/

namespace Buildwright.Graph

variable {g : Graph} {names : List String} {p : Plan}

/-! ### Closures -/

/-- What a closure finishes, latest first, is in order and is what the requests reach. -/
theorem settled_of_closure {l : List String} (h : g.closure names = .ok l) :
    g.Settled l.reverse ∧ ∀ m, m ∈ l ↔ ∃ n ∈ names, g.Reaches n m := by
  obtain ⟨w, hw, rfl⟩ := map_eq_ok_iff.1 h
  obtain ⟨hrest, hiff⟩ := Walk.visitAll_ok names (Walk.atRest_empty g) hw
  refine ⟨by simpa using hrest.settled, fun m => ?_⟩
  rw [List.mem_reverse, hiff]
  simp

/-- A closure fails at the first faulty request. -/
theorem fault_of_closure {e : BuildError} (h : g.closure names = .error e) :
    ∃ before root after, names = before ++ root :: after ∧ (∀ r ∈ before, ¬ g.Faulty r) ∧
      Walk.Fault g root e :=
  Walk.visitAll_error names (Walk.atRest_empty g) (map_eq_error_iff.1 h)

theorem plan_eq_ok_iff : g.plan names = .ok p ↔ g.closure names = .ok p.names := by
  rw [plan, map_eq_ok_iff]
  constructor
  · rintro ⟨l, hl, rfl⟩
    exact hl
  · exact fun h => ⟨p.names, h, rfl⟩

theorem plan_eq_error_iff {e : BuildError} :
    g.plan names = .error e ↔ g.closure names = .error e := map_eq_error_iff

/-- The targets of a plan, latest first, are in order. -/
theorem settled_of_plan (h : g.plan names = .ok p) : g.Settled p.names.reverse :=
  (settled_of_closure (plan_eq_ok_iff.1 h)).1

/-- A plan holds what the requests reach. -/
theorem mem_plan_iff (h : g.plan names = .ok p) {m : String} :
    m ∈ p.names ↔ ∃ n ∈ names, g.Reaches n m :=
  (settled_of_closure (plan_eq_ok_iff.1 h)).2 m

/-- Requests can be planned exactly if none of them is faulty. -/
theorem exists_plan_iff : (∃ p, g.plan names = .ok p) ↔ ∀ n ∈ names, ¬ g.Faulty n := by
  constructor
  · rintro ⟨p, hp⟩ n hn
    have hm : n ∈ p.names.reverse := List.mem_reverse.2 ((mem_plan_iff hp).2 ⟨n, hn, .refl⟩)
    exact (settled_of_plan hp).not_faulty hm
  · intro h
    cases hc : g.closure names with
    | ok l => exact ⟨⟨l⟩, plan_eq_ok_iff.2 hc⟩
    | error e =>
      obtain ⟨before, root, after, rfl, -, hf⟩ := fault_of_closure hc
      exact absurd hf.faulty (h root (by simp))

/-- **Planning is sound and complete.** A list of requests can be planned exactly if every request
is declared and reaches no circle. A plan then holds exactly what the requests reach, each target
once, and after everything that it depends on. -/
theorem plan_sound_and_complete (g : Graph) (names : List String) :
    ((∃ p, g.plan names = .ok p) ↔
      (∀ n ∈ names, g.contains n = true) ∧
        ¬ ∃ n ∈ names, ∃ m, g.Reaches n m ∧ g.DependsOn m m) ∧
    ∀ p, g.plan names = .ok p →
      (∀ m, m ∈ p.names ↔ ∃ n ∈ names, g.Reaches n m) ∧ p.names.Nodup ∧
        ∀ m ∈ p.names, ∀ d, g.Needs m d →
          ∃ i j, p.position? d = some i ∧ p.position? m = some j ∧ i < j := by
  refine ⟨?_, fun p hp => ⟨fun m => mem_plan_iff hp, ?_, fun m hm d hd => ?_⟩⟩
  · rw [exists_plan_iff]
    constructor
    · intro h
      refine ⟨fun n hn => ?_, fun ⟨n, hn, hc⟩ => h n hn (.inr hc)⟩
      exact Bool.not_eq_false _ ▸ fun hf => h n hn (.inl hf)
    · rintro ⟨hd, hc⟩ n hn (hf | hf)
      · rw [hd n hn] at hf
        cases hf
      · exact hc ⟨n, hn, hf⟩
  · exact List.nodup_reverse.1 (settled_of_plan hp).nodup
  · simpa using (settled_of_plan hp).position_lt (List.mem_reverse.2 hm) hd

/-- A program that lists one of its two libraries twice; both of them need a library of headers. -/
def diamond : Graph where
  toCatalog :=
    ((((default : Catalog).push
      { name := "d", kind := .library, headers := ["d.h"] } (by decide) (by decide)).push
      { name := "b", kind := .library, sources := ["b.c"], deps := ["d"] }
        (by decide) (by decide)).push
      { name := "c", kind := .library, sources := ["c.c"], deps := ["d"] }
        (by decide) (by decide)).push
      { name := "a", kind := .program, sources := ["a.c"], deps := ["b", "c", "b"] }
        (by decide) (by decide)
  closed := Catalog.danglingReference?_eq_none_iff.1 (by decide)

theorem plan_diamond : diamond.plan ["a"] = .ok ⟨["d", "b", "c", "a"]⟩ := by cbv

/-! ### Errors -/

theorem mapM_find_of_forall {l : List String} (h : ∀ n ∈ l, g.contains n = true) :
    ∃ ts, l.mapM g.find = .ok ts ∧ ts.map (·.name) = l ∧ ∀ t ∈ ts, g.get? t.name = some t := by
  induction l with
  | nil => exact ⟨[], rfl, rfl, by simp⟩
  | cons n l ih =>
    obtain ⟨t, ht⟩ := Catalog.contains_iff_get?.1 (h n (.head _))
    obtain ⟨ts, hts, hnames, hdecl⟩ := ih fun m hm => h m (.tail _ hm)
    have hname := name_of_get? ht
    refine ⟨t :: ts, ?_, by rw [List.map_cons, hname, hnames], fun u hu => ?_⟩
    · rw [List.mapM_cons, find_of_get? ht, hts]
      rfl
    · rcases List.mem_cons.1 hu with rfl | hu
      · exact hname ▸ ht
      · exact hdecl u hu

/-- The environment of a target fails only where its closure fails. -/
theorem environment_eq_error_iff {name : String} {e : BuildError} :
    g.environment name = .error e ↔ g.closure [name] = .error e := by
  rw [environment, bind_eq_error_iff, or_iff_left]
  rintro ⟨l, hc, h⟩
  obtain ⟨hs, hm⟩ := settled_of_closure hc
  have hdecl : ∀ n ∈ l, g.contains n = true := fun n hn => hs.contains (List.mem_reverse.2 hn)
  have hroot : name ∈ l := (hm name).2 ⟨name, by simp, .refl⟩
  obtain ⟨ts, hts, -, -⟩ := mapM_find_of_forall hdecl
  obtain ⟨t, ht⟩ := Catalog.contains_iff_get?.1 (hdecl name hroot)
  rw [hts, find_of_get? ht] at h
  cases h

/-- A target that is not faulty has an environment. -/
theorem exists_environment_of_not_faulty {name : String} (h : ¬ g.Faulty name) :
    ∃ env, g.environment name = .ok env := by
  obtain ⟨p, hp⟩ := exists_plan_iff.2 (List.forall_mem_singleton.2 h)
  cases he : g.environment name with
  | ok env => exact ⟨env, rfl⟩
  | error e =>
    rw [environment_eq_error_iff, plan_eq_ok_iff.1 hp] at he
    cases he

theorem exists_environment_of_mem_plan (h : g.plan names = .ok p) {name : String}
    (hn : name ∈ p.names) : ∃ env, g.environment name = .ok env :=
  exists_environment_of_not_faulty ((settled_of_plan h).not_faulty (List.mem_reverse.2 hn))

/-- An error of planning is that of the first faulty request. -/
theorem fault_of_plan {e : BuildError} (h : g.plan names = .error e) :
    ∃ before root after, names = before ++ root :: after ∧ (∀ r ∈ before, ¬ g.Faulty r) ∧
      Walk.Fault g root e := fault_of_closure (plan_eq_error_iff.1 h)

/-- **Planning fails with what is wrong with the first faulty request.** If the request is not
declared, the error names it and no target that refers to it. Otherwise the error shows a circle
that the request reaches: a walk along dependencies from a target back to it that meets no other
target twice. In particular no dependency is ever reported as unknown. The environment of a target
cannot be found exactly if the target cannot be planned, and the error is the same. -/
theorem plan_error_of_first_fault {e : BuildError} (h : g.plan names = .error e) :
    (∃ before r after, names = before ++ r :: after ∧
      (∀ n ∈ before, g.contains n = true ∧ ¬ g.Circular n) ∧
      ((g.contains r = false ∧ e = .unknownTarget r none) ∨
        g.contains r = true ∧ g.Circular r ∧ ∃ n₀ rest,
          e = .cycle (n₀ :: rest ++ [n₀]) ∧ (n₀ :: rest).Nodup ∧
          (n₀ :: rest ++ [n₀]).IsChain g.Needs ∧ g.Reaches r n₀)) ∧
    (∀ name referrer?, e = .unknownTarget name referrer? →
      name ∈ names ∧ referrer? = none ∧ ∀ a, ¬ g.Needs a name) ∧
    ∀ name e', g.environment name = .error e' ↔ g.plan [name] = .error e' := by
  obtain ⟨before, r, after, rfl, hb, hf⟩ := fault_of_plan h
  refine ⟨⟨before, r, after, rfl, fun n hn => ?_, ?_⟩, ?_, fun name e' => ?_⟩
  · have := not_or.1 (hb n hn)
    exact ⟨by simpa using this.1, this.2⟩
  · cases hf with
    | unknown hn => exact .inl ⟨hn, rfl⟩
    | circle hr hc ha hreach =>
      obtain ⟨n₀, rest, rfl, hnodup⟩ := hc.closed
      obtain rfl := Option.some.inj ha
      exact .inr ⟨hr, ⟨_, hreach, by obtain ⟨_, hm, hd⟩ := hc.dependsOn; simp_all⟩,
        n₀, rest, rfl, hnodup, hc.chain, hreach⟩
  · rintro name referrer? rfl
    cases hf with
    | unknown hn =>
      refine ⟨by simp, rfl, fun a ha => ?_⟩
      rw [ha.contains_right] at hn
      cases hn
  · rw [environment_eq_error_iff, plan_eq_error_iff]

/-- A program that needs a circle of three libraries, beside a library that needs nothing. -/
def ring : Graph where
  toCatalog :=
    (((((default : Catalog).push
      { name := "a", kind := .program, sources := ["a.c"], deps := ["b"] }
        (by decide) (by decide)).push
      { name := "b", kind := .library, sources := ["b.c"], deps := ["c"] }
        (by decide) (by decide)).push
      { name := "c", kind := .library, sources := ["c.c"], deps := ["d"] }
        (by decide) (by decide)).push
      { name := "d", kind := .library, sources := ["d.c"], deps := ["b"] }
        (by decide) (by decide)).push
      { name := "e", kind := .library, sources := ["e.c"] } (by decide) (by decide)
  closed := Catalog.danglingReference?_eq_none_iff.1 (by decide)

/-- The circle is reported, and not the request behind it that is not declared. -/
theorem plan_ring_error :
    ring.plan ["e", "a", "z"] = .error (.cycle ["b", "c", "d", "b"]) ∧
    (∃ before r after, ["e", "a", "z"] = before ++ r :: after ∧
      (∀ n ∈ before, ring.contains n = true ∧ ¬ ring.Circular n) ∧
      ((ring.contains r = false ∧
          BuildError.cycle ["b", "c", "d", "b"] = .unknownTarget r none) ∨
        ring.contains r = true ∧ ring.Circular r ∧ ∃ n₀ rest,
          BuildError.cycle ["b", "c", "d", "b"] = .cycle (n₀ :: rest ++ [n₀]) ∧
          (n₀ :: rest).Nodup ∧ (n₀ :: rest ++ [n₀]).IsChain ring.Needs ∧ ring.Reaches r n₀)) ∧
    ∀ name e, ring.environment name = .error e ↔ ring.plan [name] = .error e := by
  have h : ring.plan ["e", "a", "z"] = .error (.cycle ["b", "c", "d", "b"]) := by cbv
  obtain ⟨hfirst, -, henv⟩ := plan_error_of_first_fault h
  exact ⟨h, hfirst, henv⟩

end Buildwright.Graph
