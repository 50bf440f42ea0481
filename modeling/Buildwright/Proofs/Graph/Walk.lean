import Buildwright.Proofs.Graph.Dependency
import Mathlib.Data.List.Nodup
import Mathlib.Data.List.TakeWhile

/-!
# What a walk keeps

The depth-first walk as a relation between its states (`Step`), and the invariant that carries it
(`Sound`): the marks say which targets are open and which are finished, every open target lists the
one that is open above it as the dependency before its next one, and the finished targets are in an
order of building. A walk can only get stuck at a dependency on an open target, and the stack then
holds a circle (`Stuck.isCircle`). The walks of several roots are put together in `visitAll_ok` and
`visitAll_error`.
-/

namespace Buildwright.Walk

open Relation

variable {g : Graph} {w w' : Walk}

/-! ### Steps -/

/-- One round of the walk. -/
inductive Step (g : Graph) : Walk → Walk → Prop where
  /-- No dependency is left: the target is finished. -/
  | finish {marks t frames finished} :
      Step g ⟨marks, ⟨t, []⟩ :: frames, finished⟩
        ⟨marks.insert t.name .finished, frames, t.name :: finished⟩
  /-- The next dependency has been finished before. -/
  | skip {marks t dep rest frames finished} : marks[dep]? = some .finished →
      Step g ⟨marks, ⟨t, dep :: rest⟩ :: frames, finished⟩ ⟨marks, ⟨t, rest⟩ :: frames, finished⟩
  /-- The next dependency is opened. -/
  | enter {marks t dep rest frames finished next} : marks[dep]? = none → g.get? dep = some next →
      Step g ⟨marks, ⟨t, dep :: rest⟩ :: frames, finished⟩
        ⟨marks.insert next.name .opened, ⟨next, next.deps⟩ :: ⟨t, rest⟩ :: frames, finished⟩

/-- Any number of rounds. -/
abbrev Steps (g : Graph) : Walk → Walk → Prop := ReflTransGen (Step g)

/-- The walk cannot go on, for the given reason. -/
inductive Stuck (g : Graph) : Walk → BuildError → Prop where
  /-- The next dependency is open. -/
  | circle {marks t dep rest frames finished} : marks[dep]? = some .opened →
      Stuck g ⟨marks, ⟨t, dep :: rest⟩ :: frames, finished⟩
        (.cycle (circle (⟨t, dep :: rest⟩ :: frames) dep))
  /-- The next dependency is not declared. -/
  | unknown {marks t dep rest frames finished} : marks[dep]? = none → g.get? dep = none →
      Stuck g ⟨marks, ⟨t, dep :: rest⟩ :: frames, finished⟩ (.unknownTarget dep none)

/-- A walk goes on until no target is open or it is stuck. -/
theorem run_cases (g : Graph) (w : Walk) :
    (∃ w', run g w = .ok w' ∧ Steps g w w' ∧ w'.stack = []) ∨
      ∃ e w', run g w = .error e ∧ Steps g w w' ∧ Stuck g w' e := by
  have head {w₁ w₂ : Walk} (h : Step g w₁ w₂)
      (ih : (∃ w', run g w₂ = .ok w' ∧ Steps g w₂ w' ∧ w'.stack = []) ∨
        ∃ e w', run g w₂ = .error e ∧ Steps g w₂ w' ∧ Stuck g w' e) :
      (∃ w', run g w₂ = .ok w' ∧ Steps g w₁ w' ∧ w'.stack = []) ∨
        ∃ e w', run g w₂ = .error e ∧ Steps g w₁ w' ∧ Stuck g w' e := by
    rcases ih with ⟨w', hr, hs, hn⟩ | ⟨e, w', hr, hs, hk⟩
    · exact .inl ⟨w', hr, .head h hs, hn⟩
    · exact .inr ⟨e, w', hr, .head h hs, hk⟩
  fun_induction run g w with
  | case1 w hs => exact .inl ⟨w, rfl, .refl, hs⟩
  | case2 w t frames hs ih =>
    obtain ⟨marks, stack, finished⟩ := w
    subst hs
    exact head .finish ih
  | case3 w t dep rest frames hs hm ih =>
    obtain ⟨marks, stack, finished⟩ := w
    subst hs
    exact head (.skip hm) ih
  | case4 w t dep rest frames hs hm =>
    obtain ⟨marks, stack, finished⟩ := w
    subst hs
    exact .inr ⟨_, _, rfl, .refl, .circle hm⟩
  | case5 w t dep rest frames hs hm hf =>
    obtain ⟨marks, stack, finished⟩ := w
    subst hs
    exact .inr ⟨_, _, rfl, .refl, .unknown hm hf⟩
  | case6 w t dep rest frames hs hm next hf ih =>
    obtain ⟨marks, stack, finished⟩ := w
    subst hs
    exact head (.enter hm hf) ih

/-! ### The invariant -/

/-- The names of the open targets, innermost first. -/
def opened (w : Walk) : List String := w.stack.map (·.target.name)

/-- `Linked g done above? frames`: the frames of open targets, innermost first, where `above?` is
open above all of them. What a target lists in front of that one is in `done`. -/
inductive Linked (g : Graph) (done : List String) : Option String → List Frame → Prop where
  /-- There is nothing below the first root. -/
  | nil {above?} : Linked g done above? []
  /-- A target below the one that it made the walk open. -/
  | cons {above? t rest frames} (seen : List String) : g.get? t.name = some t →
      t.deps = seen ++ above?.toList ++ rest → (∀ d ∈ seen, d ∈ done) →
      Linked g done (some t.name) frames → Linked g done above? (⟨t, rest⟩ :: frames)

namespace Linked

variable {done : List String} {above? : Option String} {frames : List Frame}

theorem mono {more : List String} (hm : ∀ d ∈ done, d ∈ more) (h : Linked g done above? frames) :
    Linked g more above? frames := by
  induction h with
  | nil => exact .nil
  | cons seen ht hd hs _ ih => exact .cons seen ht hd (fun d h => hm d (hs d h)) ih

/-- The target that is open above the frames is finished. -/
theorem finish {a : String} (h : Linked g done (some a) frames) :
    Linked g (a :: done) none frames := by
  cases h with
  | nil => exact .nil
  | cons seen ht hd hs hf =>
    refine .cons (seen ++ [a]) ht (by simpa using hd) ?_
      (hf.mono fun d h => List.mem_cons_of_mem a h)
    intro d h
    rcases List.mem_append.1 h with h | h
    · exact List.mem_cons_of_mem a (hs d h)
    · exact List.mem_singleton.1 h ▸ List.mem_cons_self

/-- Each open target is a dependency of the one below it. -/
theorem isChain (h : Linked g done above? frames) :
    (frames.map (·.target.name)).IsChain fun a b => g.Needs b a := by
  induction h with
  | nil => exact .nil
  | cons _ _ _ _ hf ih =>
    cases hf with
    | nil => exact .singleton _
    | cons _ hu hd _ _ => exact .cons_cons ⟨_, hu, by simp [hd]⟩ ih

end Linked

/-- What is true of a walk after each round. -/
structure Sound (g : Graph) (w : Walk) : Prop where
  opened_iff : ∀ n, w.marks[n]? = some .opened ↔ n ∈ w.opened
  finished_iff : ∀ n, w.marks[n]? = some .finished ↔ n ∈ w.finished
  nodup : w.opened.Nodup
  linked : Linked g w.finished none w.stack
  settled : g.Settled w.finished

theorem sound_empty (g : Graph) : Sound g {} where
  opened_iff n := by simp [opened]
  finished_iff n := by simp
  nodup := List.nodup_nil
  linked := .nil
  settled := .nil

namespace Sound

/-- A target without a mark is neither open nor finished. -/
theorem not_mem_of_unmarked (h : Sound g w) {n : String} (hn : w.marks[n]? = none) :
    n ∉ w.opened ∧ n ∉ w.finished := by
  rw [← h.opened_iff, ← h.finished_iff, hn]
  exact ⟨nofun, nofun⟩

/-- No target is open and finished. -/
theorem not_mem_finished (h : Sound g w) {n : String} (hn : n ∈ w.opened) : n ∉ w.finished := by
  rw [← h.opened_iff] at hn
  rw [← h.finished_iff, hn]
  exact nofun

end Sound

/-- The dependency in front of the cursor of the innermost target. -/
theorem Sound.needs {marks t dep rest frames finished}
    (h : Sound g ⟨marks, ⟨t, dep :: rest⟩ :: frames, finished⟩) : g.Needs t.name dep := by
  cases h.linked with
  | cons _ ht hd _ _ => exact ⟨t, ht, by simp [hd]⟩

theorem Sound.finish {marks t frames finished}
    (h : Sound g ⟨marks, ⟨t, []⟩ :: frames, finished⟩) :
    Sound g ⟨marks.insert t.name .finished, frames, t.name :: finished⟩ := by
  have hnd : t.name ∉ frames.map (·.target.name) ∧ (frames.map (·.target.name)).Nodup := by
    simpa [opened] using h.nodup
  have hnf := h.not_mem_finished (n := t.name) (.head _)
  constructor
  · intro n
    have := h.opened_iff n
    simp only [opened, List.map_cons, List.mem_cons] at this
    simp only [opened, Std.TreeMap.getElem?_insert, Std.compare_eq_iff_eq]
    split
    · next hn => subst hn; simpa using hnd.1
    · next hn => rw [this]; simp [Ne.symm hn]
  · intro n
    have := h.finished_iff n
    simp only [Std.TreeMap.getElem?_insert, Std.compare_eq_iff_eq, List.mem_cons]
    split
    · next hn => simp [hn]
    · next hn => simpa [Ne.symm hn] using this
  · exact hnd.2
  · cases h.linked with
    | cons _ _ _ _ hf => exact hf.finish
  · cases h.linked with
    | cons _ ht hd hs _ => exact .cons ht (by simpa [hd] using hs) hnf h.settled

theorem Sound.skip {marks t dep rest frames finished}
    (h : Sound g ⟨marks, ⟨t, dep :: rest⟩ :: frames, finished⟩)
    (hm : marks[dep]? = some .finished) : Sound g ⟨marks, ⟨t, rest⟩ :: frames, finished⟩ := by
  refine ⟨h.opened_iff, h.finished_iff, h.nodup, ?_, h.settled⟩
  cases h.linked with
  | cons seen ht hd hs hf =>
    refine .cons (seen ++ [dep]) ht (by simpa using hd) (fun d h' => ?_) hf
    rcases List.mem_append.1 h' with h' | h'
    · exact hs d h'
    · exact List.mem_singleton.1 h' ▸ (h.finished_iff dep).1 hm

theorem Sound.enter {marks t dep rest frames finished next}
    (h : Sound g ⟨marks, ⟨t, dep :: rest⟩ :: frames, finished⟩) (hm : marks[dep]? = none)
    (hf : g.get? dep = some next) :
    Sound g
      ⟨marks.insert next.name .opened, ⟨next, next.deps⟩ :: ⟨t, rest⟩ :: frames, finished⟩ := by
  obtain rfl : next.name = dep := Graph.name_of_get? hf
  obtain ⟨hno, hnf⟩ := h.not_mem_of_unmarked hm
  constructor
  · intro n
    have := h.opened_iff n
    simp only [opened, List.map_cons] at this
    simp only [opened, Std.TreeMap.getElem?_insert, Std.compare_eq_iff_eq, List.map_cons]
    split
    · next hn => simp [hn]
    · next hn => rw [this]; simp [Ne.symm hn]
  · intro n
    simp only [Std.TreeMap.getElem?_insert, Std.compare_eq_iff_eq]
    split
    · next hn => subst hn; simpa using hnf
    · exact h.finished_iff n
  · exact List.nodup_cons.2 ⟨hno, h.nodup⟩
  · refine .cons [] hf (by simp) (by simp) ?_
    cases h.linked with
    | cons seen ht hd hs hl => exact .cons seen ht (by simpa using hd) hs hl
  · exact h.settled

/-- **Each round keeps the invariant.** -/
theorem Sound.step (h : Sound g w) (hs : Step g w w') : Sound g w' := by
  cases hs with
  | finish => exact h.finish
  | skip hm => exact h.skip hm
  | enter hm hf => exact h.enter hm hf

/-! ### Getting stuck -/

theorem circle_eq_dropWhile (w : Walk) (dep : String) :
    circle w.stack dep = w.opened.reverse.dropWhile (· ≠ dep) ++ [dep] := by
  rw [circle, List.map_reverse]
  rfl

/-- What the walk reports as a circle is one, and it goes through the repeated target. -/
theorem Sound.isCircle {marks t dep rest frames finished}
    (h : Sound g ⟨marks, ⟨t, dep :: rest⟩ :: frames, finished⟩) (hm : marks[dep]? = some .opened) :
    g.IsCircle (circle (⟨t, dep :: rest⟩ :: frames) dep) ∧
      (circle (⟨t, dep :: rest⟩ :: frames) dep).head? = some dep := by
  rw [circle_eq_dropWhile ⟨marks, ⟨t, dep :: rest⟩ :: frames, finished⟩]
  -- the open targets, outermost first, from the repeated one on
  generalize hlist : opened ⟨marks, ⟨t, dep :: rest⟩ :: frames, finished⟩ = names
  have hmem : dep ∈ names.reverse := List.mem_reverse.2 (hlist ▸ (h.opened_iff dep).1 hm)
  have hne : names.reverse.dropWhile (· ≠ dep) ≠ [] := by
    intro hn
    simpa using List.dropWhile_eq_nil_iff.1 hn dep hmem
  obtain ⟨a, cut, hcut⟩ := List.exists_cons_of_ne_nil hne
  obtain rfl : a = dep := by
    have := List.head?_dropWhile_not (· ≠ dep) names.reverse
    rw [hcut] at this
    simpa using this
  have hsuffix : a :: cut <:+ names.reverse := hcut ▸ List.dropWhile_suffix _
  have hchain : names.reverse.IsChain g.Needs :=
    List.isChain_reverse.2 (hlist ▸ h.linked.isChain)
  have hlast : ∀ x ∈ (a :: cut).getLast?, g.Needs x a := by
    intro x hx
    have hx' : x ∈ names.reverse.getLast? := by
      obtain ⟨before, hb⟩ := hsuffix
      rw [← hb, List.getLast?_append_of_ne_nil _ (by simp)]
      exact hx
    rw [List.getLast?_reverse, ← hlist] at hx'
    exact Option.mem_some.1 hx' ▸ h.needs
  rw [hcut]
  refine ⟨⟨?_, a, cut, rfl, ?_⟩, rfl⟩
  · refine (hchain.suffix hsuffix).append (.singleton a) fun x hx y hy => ?_
    obtain rfl : a = y := by simpa using hy
    exact hlast x hx
  · exact hsuffix.sublist.nodup (List.nodup_reverse.2 (hlist ▸ h.nodup))

/-! ### The walk from one root -/

/-- A walk on the way from `root`, begun when the targets of `old` were finished. -/
structure From (g : Graph) (root : String) (old : List String) (w : Walk) : Prop extends
    Sound g w where
  reaches : ∀ n ∈ w.opened, g.Reaches root n
  root_mem : root ∈ w.opened ∨ root ∈ w.finished
  grown : ∃ new, w.finished = new ++ old ∧ ∀ n ∈ new, g.Reaches root n

variable {root : String} {old : List String}

/-- Each round leads from targets that the root reaches to others. -/
theorem From.step (h : From g root old w) (hs : Step g w w') : From g root old w' := by
  refine { toSound := h.toSound.step hs, reaches := ?_, root_mem := ?_, grown := ?_ }
  · cases hs with
    | finish => exact fun n hn => h.reaches n (.tail _ hn)
    | skip => exact h.reaches
    | enter hm hf =>
      intro n hn
      rcases List.mem_cons.1 hn with rfl | hn
      · exact (h.reaches _ (.head _)).tail (Graph.name_of_get? hf ▸ h.needs)
      · exact h.reaches n hn
  · cases hs with
    | finish =>
      rcases h.root_mem with hr | hr
      · rcases List.mem_cons.1 hr with rfl | hr
        · exact .inr (.head _)
        · exact .inl hr
      · exact .inr (.tail _ hr)
    | skip => exact h.root_mem
    | enter => exact h.root_mem.imp_left (.tail _)
  · obtain ⟨new, hn, hr⟩ := h.grown
    cases hs with
    | @finish _ t _ _ =>
      refine ⟨t.name :: new, congrArg (t.name :: ·) hn, fun n h' => ?_⟩
      rcases List.mem_cons.1 h' with rfl | h'
      · exact h.reaches _ (.head _)
      · exact hr n h'
    | skip => exact ⟨new, hn, hr⟩
    | enter => exact ⟨new, hn, hr⟩

/-- **A whole walk keeps what each round keeps.** -/
theorem From.steps (h : From g root old w) (hs : Steps g w w') : From g root old w' := by
  induction hs with
  | refl => exact h
  | tail _ hs ih => exact ih.step hs

/-- Opening the first target of a walk. -/
theorem Sound.from_push {t : Target} (h : Sound g w) (hw : w.stack = []) (ht : g.get? root = some t)
    (hm : w.marks[root]? = none) : From g root w.finished (w.push t) := by
  obtain rfl : t.name = root := Graph.name_of_get? ht
  obtain ⟨marks, stack, finished⟩ := w
  subst hw
  obtain ⟨-, hnf⟩ := h.not_mem_of_unmarked hm
  have hopened : (push ⟨marks, [], finished⟩ t).opened = [t.name] := rfl
  have hs : Sound g (push ⟨marks, [], finished⟩ t) := by
    refine ⟨fun n => ?_, fun n => ?_, List.nodup_singleton _,
      .cons [] ht (by simp) (by simp) .nil, h.settled⟩
    · have := h.opened_iff n
      simp only [opened, List.map_nil] at this
      rw [hopened, List.mem_singleton]
      simp only [push, Std.TreeMap.getElem?_insert, Std.compare_eq_iff_eq]
      split
      · next hn => simp [hn]
      · next hn => rw [this]; simp [Ne.symm hn]
    · simp only [push, Std.TreeMap.getElem?_insert, Std.compare_eq_iff_eq]
      split
      · next hn => subst hn; simpa using hnf
      · exact h.finished_iff n
  refine { toSound := hs, reaches := ?_, root_mem := .inl (.head _), grown := ⟨[], rfl, by simp⟩ }
  intro n hn
  obtain rfl : n = t.name := List.mem_singleton.1 hn
  exact .refl

/-! ### Visiting roots -/

/-- `Fault g name e`: the error that a walk from a faulty name gives. -/
inductive Fault (g : Graph) (name : String) : BuildError → Prop where
  /-- The name is not declared. -/
  | unknown : g.contains name = false → Fault g name (.unknownTarget name none)
  /-- A circle can be reached; it is shown from one of its targets to the same. -/
  | circle {path a} : g.contains name = true → g.IsCircle path → path.head? = some a →
      g.Reaches name a → Fault g name (.cycle path)

theorem Fault.faulty {name : String} {e : BuildError} (h : Fault g name e) : g.Faulty name := by
  cases h with
  | unknown hn => exact .inl hn
  | circle _ hc ha hr =>
    obtain ⟨a, ha', hd⟩ := hc.dependsOn
    rw [ha, Option.some.injEq] at ha'
    exact .inr ⟨a, ha' ▸ hr, hd⟩

/-- A walk that is stuck has found a circle. -/
theorem From.fault {e : BuildError} (h : From g root old w) (hr : g.contains root = true)
    (hs : Stuck g w e) : Fault g root e := by
  cases hs with
  | circle hm =>
    obtain ⟨hc, hd⟩ := h.isCircle hm
    exact .circle hr hc hd (h.reaches _ ((h.opened_iff _).1 hm))
  | unknown _ hf =>
    have := h.needs.contains_right
    rw [Graph.contains_eq_false_iff.2 hf] at this
    cases this

/-- The state between two roots: nothing is open, and the finished targets are in order. -/
structure AtRest (g : Graph) (w : Walk) : Prop extends Sound g w where
  stack_eq_nil : w.stack = []

theorem atRest_empty (g : Graph) : AtRest g {} := ⟨sound_empty g, rfl⟩

/-- Between two roots the targets that have a mark are finished. -/
theorem AtRest.mem_finished_iff (h : AtRest g w) {n : String} :
    n ∈ w.finished ↔ w.marks.contains n = true := by
  rw [← h.finished_iff, Std.TreeMap.contains_eq_isSome_getElem?, Option.isSome_iff_exists]
  refine ⟨fun hm => ⟨_, hm⟩, fun ⟨mark, hm⟩ => ?_⟩
  cases mark with
  | opened =>
    have := (h.opened_iff n).1 hm
    rw [opened, h.stack_eq_nil] at this
    cases this
  | finished => exact hm

/-- Visiting a root finishes what it reaches, or shows what is wrong with it. -/
theorem visit_cases (h : AtRest g w) (root : String) :
    (∃ w' new, visit g w root = .ok w' ∧ AtRest g w' ∧ w'.finished = new ++ w.finished ∧
      (∀ n ∈ new, g.Reaches root n) ∧ root ∈ w'.finished) ∨
    ∃ e, visit g w root = .error e ∧ Fault g root e := by
  unfold visit
  by_cases hm : w.marks.contains root = true
  · rw [if_pos hm]
    exact .inl ⟨w, [], rfl, h, rfl, by simp, h.mem_finished_iff.2 hm⟩
  rw [if_neg hm]
  cases hf : g.get? root with
  | none =>
    have hn := Graph.contains_eq_false_iff.2 hf
    rw [Graph.find_of_contains_eq_false hn]
    exact .inr ⟨_, rfl, .unknown hn⟩
  | some t =>
    have hmark : w.marks[root]? = none :=
      Std.TreeMap.getElem?_eq_none_of_contains_eq_false (Bool.eq_false_iff.2 hm)
    have hfrom := h.from_push h.stack_eq_nil hf hmark
    rw [Graph.find_of_get? hf]
    rcases run_cases g (w.push t) with ⟨w', hr, hs, hn⟩ | ⟨e, w', hr, hs, hk⟩
    · have h' := hfrom.steps hs
      obtain ⟨new, hnew, hreach⟩ := h'.grown
      refine .inl ⟨w', new, hr, ⟨h'.toSound, hn⟩, hnew, hreach, ?_⟩
      exact h'.root_mem.resolve_left (by simp [opened, hn])
    · exact .inr ⟨e, hr, (hfrom.steps hs).fault (Catalog.contains_iff_get?.2 ⟨t, hf⟩) hk⟩

/-- Visiting roots one after another finishes exactly what they reach. -/
theorem visitAll_ok (roots : List String) (h : AtRest g w)
    (hr : roots.foldlM (visit g) w = .ok w') :
    AtRest g w' ∧ ∀ n, n ∈ w'.finished ↔ n ∈ w.finished ∨ ∃ r ∈ roots, g.Reaches r n := by
  induction roots generalizing w with
  | nil =>
    obtain rfl : w = w' := Except.ok.inj hr
    exact ⟨h, by simp⟩
  | cons root roots ih =>
    rw [List.foldlM_cons] at hr
    rcases visit_cases h root with ⟨w₁, new, hv, h₁, hnew, hreach, hroot⟩ | ⟨e, hv, -⟩
    · rw [hv] at hr
      obtain ⟨h', hiff⟩ := ih h₁ hr
      refine ⟨h', fun n => ?_⟩
      rw [hiff, List.exists_mem_cons_iff, ← or_assoc]
      refine or_congr_left ⟨fun hn => ?_, ?_⟩
      · rw [hnew, List.mem_append] at hn
        exact hn.symm.imp_right (hreach n)
      · rintro (hn | hn)
        · exact hnew ▸ List.mem_append_right _ hn
        · exact h₁.settled.mem_of_reaches hroot hn
    · rw [hv] at hr
      cases hr

/-- The first faulty root ends a walk with what is wrong with it. -/
theorem visitAll_error {e : BuildError} (roots : List String) (h : AtRest g w)
    (hr : roots.foldlM (visit g) w = .error e) :
    ∃ before root after, roots = before ++ root :: after ∧ (∀ r ∈ before, ¬ g.Faulty r) ∧
      Fault g root e := by
  induction roots generalizing w with
  | nil => cases hr
  | cons root roots ih =>
    rw [List.foldlM_cons] at hr
    rcases visit_cases h root with ⟨w₁, new, hv, h₁, -, -, hroot⟩ | ⟨e', hv, hfault⟩
    · rw [hv] at hr
      obtain ⟨before, r, after, rfl, hb, hfault⟩ := ih h₁ hr
      refine ⟨root :: before, r, after, rfl, fun n hn => ?_, hfault⟩
      rcases List.mem_cons.1 hn with rfl | hn
      · exact h₁.settled.not_faulty hroot
      · exact hb n hn
    · rw [hv] at hr
      cases hr
      exact ⟨[], root, roots, rfl, by simp, hfault⟩

end Buildwright.Walk
