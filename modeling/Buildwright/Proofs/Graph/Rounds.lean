import Buildwright.Proofs.Graph.Manifest
import Buildwright.Proofs.Graph.Recursion
import Buildwright.Proofs.Text
import Mathlib.Data.List.Nodup
import Mathlib.Data.List.Perm.Basic

/-!
# The rounds of a walk

What a walk looks like in front of each of its rounds, and how many rounds there are. `Walk.Comes`
follows the visits of a list of roots round by round. In front of every round the marks, the stack
and the finished targets are in step (`Walk.InStep`), so that a dependency on an open target is
always found on the stack. The measure is `Walk.work`: it counts what is left to do for the open
targets and all there is to do for those that have not been seen. Opening a target moves its share
from the second part to the first, and each round lowers the whole by exactly one
(`Walk.Sound.work_step`), whatever the graph looks like. So the visits come to an end, and the
rounds up to any moment can be read off the work that is left (`Walk.Comes.rounds_add_work`).
-/

namespace Buildwright

/-! ### Cursors -/

namespace Frame

/-- How many of the dependencies of an open target have been looked at. -/
def cursor (f : Frame) : Nat := f.target.deps.length - f.rest.length

/-- `f.OpenedBy below`: the target of `f` is the dependency right in front of the cursor of
`below`. -/
def OpenedBy (f below : Frame) : Prop :=
  0 < below.cursor ∧ below.target.deps[below.cursor - 1]? = some f.target.name

theorem cursor_eq_length {t : Target} {read rest : List String} (h : t.deps = read ++ rest) :
    cursor ⟨t, rest⟩ = read.length := by
  rw [cursor, h, List.length_append, Nat.add_sub_cancel]

/-- The dependencies that are left are those behind the cursor. -/
theorem rest_eq_drop {t : Target} {read rest : List String} (h : t.deps = read ++ rest) :
    rest = t.deps.drop (cursor ⟨t, rest⟩) := by
  rw [cursor_eq_length h, h, List.drop_left]

theorem openedBy_of_deps_eq {f : Frame} {t : Target} {read rest : List String}
    (h : t.deps = read ++ [f.target.name] ++ rest) : f.OpenedBy ⟨t, rest⟩ := by
  rw [OpenedBy, cursor_eq_length h, List.length_append, List.length_singleton,
    Nat.add_sub_cancel, h]
  exact ⟨Nat.succ_pos _, by simp⟩

end Frame

/-- One round for each target, and one for each dependency that it lists. -/
def Graph.extent (g : Graph) : Nat :=
  g.targets.toList.foldr (fun t rounds => t.deps.length + 1 + rounds) 0

namespace Walk

variable {g : Graph} {w w' : Walk} {roots left : List String} {rounds : Nat}

/-! ### Marks, stack and order -/

/-- The marks, the stack and the finished targets are in step. -/
structure InStep (g : Graph) (w : Walk) : Prop where
  /-- Open are the targets of exactly one frame. -/
  opened_iff : ∀ n, w.marks[n]? = some .opened ↔ w.stack.countP (·.target.name = n) = 1
  /-- No target has two frames. -/
  frame_unique : ∀ n, w.stack.countP (·.target.name = n) ≤ 1
  finished_iff : ∀ n, w.marks[n]? = some .finished ↔ n ∈ w.finished
  /-- No target is finished twice. -/
  finished_once : ∀ n ∈ w.finished, w.finished.count n = 1
  /-- What a finished target depends on is finished. -/
  deps_finished : ∀ n ∈ w.finished, ∃ t, g.get? n = some t ∧
    ∀ d ∈ t.deps, w.marks[d]? = some .finished
  /-- The frames are those of declared targets, and what is left of their dependencies stands behind
  the cursor. -/
  frames : ∀ f ∈ w.stack, g.get? f.target.name = some f.target ∧
    f.rest = f.target.deps.drop f.cursor
  /-- Each open target was opened by the one below it. -/
  chain : w.stack.IsChain Frame.OpenedBy

namespace Linked

variable {done : List String} {above? : Option String} {stack : List Frame}

theorem frames (h : Linked g done above? stack) : ∀ f ∈ stack,
    g.get? f.target.name = some f.target ∧ f.rest = f.target.deps.drop f.cursor := by
  induction h with
  | nil => exact nofun
  | cons _ ht hd _ _ ih =>
    intro f hf
    rcases List.mem_cons.1 hf with rfl | hf
    · exact ⟨ht, Frame.rest_eq_drop hd⟩
    · exact ih f hf

theorem chain (h : Linked g done above? stack) : stack.IsChain Frame.OpenedBy := by
  induction h with
  | nil => exact .nil
  | cons _ _ _ _ hf ih =>
    cases hf with
    | nil => exact .singleton _
    | cons _ _ hd _ _ => exact .cons_cons (Frame.openedBy_of_deps_eq hd) ih

end Linked

theorem countP_stack (w : Walk) (n : String) :
    w.stack.countP (·.target.name = n) = w.opened.count n := by
  rw [opened, List.count, List.countP_map]
  rfl

/-- What the rounds of a walk keep puts it in step. -/
theorem Sound.inStep (h : Sound g w) : InStep g w where
  opened_iff n := by
    rw [countP_stack, h.opened_iff]
    exact ⟨List.count_eq_one_of_mem h.nodup, fun hn => List.one_le_count_iff.1 hn.ge⟩
  frame_unique n := by
    rw [countP_stack]
    exact List.nodup_iff_count_le_one.1 h.nodup n
  finished_iff := h.finished_iff
  finished_once n hn := List.count_eq_one_of_mem h.settled.nodup hn
  deps_finished n hn := by
    obtain ⟨t, ht⟩ := Catalog.contains_iff_get?.1 (h.settled.contains hn)
    refine ⟨t, ht, fun d hd => (h.finished_iff d).2 ?_⟩
    exact h.settled.mem_of_needs hn ⟨t, ht, hd⟩
  frames := h.linked.frames
  chain := h.linked.chain

/-! ### Finding a circle by its place -/

/-- The place of an open target on the stack, counted from the bottom. -/
def place? (stack : List Frame) (name : String) : Option Nat :=
  stack.reverse.findIdx? (·.target.name = name)

/-- The circle that a dependency on an open target closes, from the place of that target on. A
target that is not on the stack would have the place `fallback`. -/
def circleFrom (fallback : Nat) (stack : List Frame) (repeated : String) : List String :=
  (stack.reverse.drop ((place? stack repeated).getD fallback)).map (·.target.name) ++ [repeated]

/-- A target that is open has a place on the stack, and the circle starts there. -/
theorem InStep.place?_eq_some (h : InStep g w) {name : String}
    (hm : w.marks[name]? = some .opened) : ∃ i, place? w.stack name = some i ∧
      ∀ fallback, circleFrom fallback w.stack name = circle w.stack name := by
  have hpos : 0 < w.stack.countP (·.target.name = name) := by
    rw [(h.opened_iff name).1 hm]
    exact Nat.one_pos
  obtain ⟨f, hf, hname⟩ := List.countP_pos_iff.1 hpos
  have hsome : (place? w.stack name).isSome := by
    rw [place?, List.findIdx?_isSome, List.any_eq_true]
    exact ⟨f, List.mem_reverse.2 hf, hname⟩
  obtain ⟨i, hi⟩ := Option.isSome_iff_exists.1 hsome
  refine ⟨i, hi, fun fallback => ?_⟩
  have hidx : i = w.stack.reverse.findIdx (·.target.name = name) := by
    rw [List.findIdx_eq_getD_findIdx?]
    rw [place?] at hi
    rw [hi, Option.getD_some]
  rw [circleFrom, hi, Option.getD_some, circle, List.dropWhile_map,
    List.dropWhile_eq_drop_findIdx_not, hidx]
  simp

/-! ### What is left to do -/

/-- The frames that the targets without a mark would get. -/
def unopened (g : Graph) (marks : Std.TreeMap String Mark) : List Frame :=
  (g.targets.toList.filter fun t => !marks.contains t.name).map fun t => ⟨t, t.deps⟩

/-- What is left to do for the open targets, and all there is to do for those without a mark. -/
def work (g : Graph) (w : Walk) : Nat := pending w.stack + pending (unopened g w.marks)

theorem pending_cons (f : Frame) (stack : List Frame) :
    pending (f :: stack) = f.rest.length + 1 + pending stack := rfl

theorem pending_of_perm {stack stack' : List Frame} (h : stack.Perm stack') :
    pending stack = pending stack' := by
  induction h with
  | nil => rfl
  | cons f _ ih => rw [pending_cons, pending_cons, ih]
  | swap f f' stack =>
    simp only [pending_cons]
    omega
  | trans _ _ ih ih' => exact ih.trans ih'

/-- Before anything is opened, everything is left to do. -/
theorem work_empty (g : Graph) : work g {} = g.extent := by
  have hall : g.targets.toList.filter (fun t => !(∅ : Std.TreeMap String Mark).contains t.name) =
      g.targets.toList := List.filter_eq_self.2 fun t _ => by simp
  rw [work, Graph.extent, unopened, hall]
  simp [pending, List.foldr_map]

/-- A further mark for a target that has one already does not matter. -/
theorem unopened_insert_of_contains {marks : Std.TreeMap String Mark} {name : String}
    (h : marks.contains name = true) (mark : Mark) :
    unopened g (marks.insert name mark) = unopened g marks := by
  refine congrArg (List.map _) (List.filter_congr fun t _ => ?_)
  rw [Std.TreeMap.contains_insert, Text.compare_beq_eq]
  by_cases ht : t.name = name
  · simp [ht, h]
  · simp [ht]

/-- A target that is seen for the first time is one of those without a mark no more. -/
theorem unopened_perm {marks : Std.TreeMap String Mark} {t : Target}
    (ht : g.get? t.name = some t) (hm : marks[t.name]? = none) (mark : Mark) :
    (unopened g marks).Perm (⟨t, t.deps⟩ :: unopened g (marks.insert t.name mark)) := by
  have hmem : t ∈ g.targets.toList := Array.mem_toList_iff.2 (Catalog.get?_eq_some_iff.1 ht).1
  have hfresh : marks.contains t.name = false := by
    rw [Std.TreeMap.contains_eq_isSome_getElem?, hm]
    rfl
  have hnodup : g.targets.toList.Nodup := .of_map _ g.nodup_names
  have hrest : (g.targets.toList.filter fun u => !(marks.insert t.name mark).contains u.name) =
      (g.targets.toList.filter fun u => !marks.contains u.name).erase t := by
    rw [(hnodup.filter _).erase_eq_filter, List.filter_filter]
    refine List.filter_congr fun u hu => ?_
    have hname : u.name = t.name ↔ u = t := by
      refine ⟨fun h => ?_, fun h => h ▸ rfl⟩
      have hget : g.get? u.name = some u :=
        Catalog.get?_eq_some_iff.2 ⟨Array.mem_toList_iff.1 hu, rfl⟩
      exact Option.some.inj (hget.symm.trans (h ▸ ht))
    rw [Std.TreeMap.contains_insert, Text.compare_beq_eq, Bool.not_or]
    by_cases h : u = t
    · simp [h]
    · simp [h, hname]
  rw [unopened, unopened, hrest]
  exact (List.perm_cons_erase (List.mem_filter.2 ⟨hmem, by simp [hfresh]⟩)).map _

/-- Opening a target leaves as much to do as before. -/
theorem work_push {t : Target} (ht : g.get? t.name = some t) (hm : w.marks[t.name]? = none) :
    work g (w.push t) = work g w := by
  have hperm := pending_of_perm (unopened_perm ht hm .opened)
  rw [pending_cons] at hperm
  change pending (⟨t, t.deps⟩ :: w.stack) + pending (unopened g (w.marks.insert t.name .opened)) =
    pending w.stack + pending (unopened g w.marks)
  rw [pending_cons, hperm]
  omega

/-- **Each round leaves exactly one less to do.** -/
theorem Sound.work_step (h : Sound g w) (hs : Step g w w') : work g w' + 1 = work g w := by
  cases hs with
  | @finish marks t frames finished =>
    have hmark : marks.contains t.name = true := by
      rw [Std.TreeMap.contains_eq_isSome_getElem?, (h.opened_iff t.name).2 (.head _)]
      rfl
    simp only [work, unopened_insert_of_contains hmark, pending_cons, List.length_nil]
    omega
  | skip =>
    simp only [work, pending_cons, List.length_cons]
    omega
  | @enter marks t dep rest frames finished next hm hf =>
    obtain rfl : next.name = dep := Graph.name_of_get? hf
    -- the round moves the cursor and opens the dependency
    have hpush : work g (push ⟨marks, ⟨t, rest⟩ :: frames, finished⟩ next) =
        work g ⟨marks, ⟨t, rest⟩ :: frames, finished⟩ := work_push hf hm
    rw [push] at hpush
    rw [hpush]
    simp only [work, pending_cons, List.length_cons]
    omega

/-! ### Visiting several roots -/

/-- `Comes g roots rounds w left`: while `roots` are visited one after another, the walk comes to
`w` after so many rounds, with the roots `left` still to be visited. -/
inductive Comes (g : Graph) (roots : List String) : Nat → Walk → List String → Prop where
  /-- No root has been visited. -/
  | start : Comes g roots 0 {} roots
  /-- A root that has been seen is passed by. -/
  | pass {n : Nat} {w : Walk} {root : String} {left : List String} :
      Comes g roots n w (root :: left) → w.stack = [] → w.marks.contains root = true →
      Comes g roots n w left
  /-- A root that has not been seen is opened. -/
  | begin {n : Nat} {w : Walk} {root : String} {left : List String} {t : Target} :
      Comes g roots n w (root :: left) → w.stack = [] → w.marks.contains root = false →
      g.get? root = some t → Comes g roots n (w.push t) left
  /-- The walk goes round once more. -/
  | round {n : Nat} {w w' : Walk} {left : List String} :
      Comes g roots n w left → Step g w w' → Comes g roots (n + 1) w' left

/-- `Ends g w left r`: the visits are over in `w`, with the roots `left` still to be visited, and
`r` is what they come to. -/
inductive Ends (g : Graph) : Walk → List String → Except BuildError Walk → Prop where
  /-- Every root has been visited. -/
  | done {w : Walk} : w.stack = [] → Ends g w [] (.ok w)
  /-- The next root is not declared. -/
  | unknown {w : Walk} {root : String} {left : List String} :
      w.stack = [] → w.marks.contains root = false → g.get? root = none →
      Ends g w (root :: left) (.error (.unknownTarget root none))
  /-- The next dependency is open. -/
  | circle {w : Walk} {t : Target} {dep : String} {rest left : List String} {frames : List Frame} :
      w.stack = ⟨t, dep :: rest⟩ :: frames → w.marks[dep]? = some .opened →
      Ends g w left (.error (.cycle (circleFrom 0 w.stack dep)))

theorem run_of_stack_eq_nil (h : w.stack = []) : run g w = .ok w := by
  obtain ⟨marks, stack, finished⟩ := w
  obtain rfl : stack = [] := h
  rw [run]

/-- When nothing is open, the next of the roots is visited. -/
theorem run_bind_visits (h : w.stack = []) (root : String) (left : List String) :
    run g w >>= (root :: left).foldlM (visit g) = visit g w root >>= left.foldlM (visit g) := by
  rw [run_of_stack_eq_nil h]
  rfl

namespace Comes

/-- In front of every round the walk is sound. -/
theorem sound (h : Comes g roots rounds w left) : Sound g w := by
  induction h with
  | start => exact sound_empty g
  | pass _ _ _ ih => exact ih
  | begin _ hw hm ht ih =>
    have hmark := Std.TreeMap.getElem?_eq_none_of_contains_eq_false hm
    exact (ih.from_push hw ht hmark).toSound
  | round _ hs ih => exact ih.step hs

/-- What has been done and what is left to do are all there is to do. -/
theorem rounds_add_work (h : Comes g roots rounds w left) : rounds + work g w = g.extent := by
  induction h with
  | start => rw [Nat.zero_add, work_empty]
  | pass _ _ _ ih => exact ih
  | begin _ _ hm ht ih =>
    obtain rfl := Graph.name_of_get? ht
    rw [work_push ht (Std.TreeMap.getElem?_eq_none_of_contains_eq_false hm), ih]
  | round h hs ih =>
    have := h.sound.work_step hs
    omega

/-- What the visits come to is what the walk comes to from here, with the roots that are left. -/
theorem visitAll_eq (h : Comes g roots rounds w left) :
    visitAll g roots = run g w >>= left.foldlM (visit g) := by
  induction h with
  | start =>
    rw [run_of_stack_eq_nil rfl]
    rfl
  | pass _ hw hm ih =>
    rw [ih, run_bind_visits hw, run_of_stack_eq_nil hw, visit, if_pos hm]
  | begin _ hw hm ht ih =>
    rw [ih, run_bind_visits hw, visit, if_neg (Bool.eq_false_iff.1 hm), Graph.find_of_get? ht]
    rfl
  | round _ hs ih => rw [ih, run_eq_of_step hs]

/-- The visits come to what they end with. -/
theorem visitAll_of_ends {r : Except BuildError Walk} (h : Comes g roots rounds w left)
    (he : Ends g w left r) : visitAll g roots = r := by
  rw [h.visitAll_eq]
  cases he with
  | done hw =>
    rw [run_of_stack_eq_nil hw]
    rfl
  | unknown hw hm hn =>
    rw [run_bind_visits hw, visit, if_neg (Bool.eq_false_iff.1 hm),
      Graph.find_of_contains_eq_false (Graph.contains_eq_false_iff.2 hn)]
    rfl
  | circle hw hm =>
    obtain ⟨_, -, hcircle⟩ := h.sound.inStep.place?_eq_some hm
    obtain ⟨marks, stack, finished⟩ := w
    obtain rfl := hw
    rw [hcircle, run_of_stuck (.circle hm)]
    rfl

/-- The visits are over, or they go on with less to do. -/
theorem ends_or_goes_on (h : Comes g roots rounds w left) :
    (∃ r, Ends g w left r) ∨ ∃ rounds' w' left', Comes g roots rounds' w' left' ∧
      left'.length + work g w' < left.length + work g w := by
  obtain ⟨marks, stack, finished⟩ := w
  match stack, left with
  | [], [] => exact .inl ⟨_, .done rfl⟩
  | [], root :: left =>
    cases hm : marks.contains root with
    | true => exact .inr ⟨_, _, _, h.pass rfl hm, by simp⟩
    | false =>
      cases ht : g.get? root with
      | none => exact .inl ⟨_, .unknown rfl hm ht⟩
      | some t =>
        obtain rfl := Graph.name_of_get? ht
        refine .inr ⟨_, _, _, h.begin rfl hm ht, ?_⟩
        rw [work_push ht (Std.TreeMap.getElem?_eq_none_of_contains_eq_false hm)]
        simp
  | ⟨t, []⟩ :: frames, left =>
    have := h.sound.work_step .finish
    exact .inr ⟨_, _, _, h.round .finish, by omega⟩
  | ⟨t, dep :: rest⟩ :: frames, left =>
    cases hm : marks[dep]? with
    | some mark =>
      cases mark with
      | opened => exact .inl ⟨_, .circle rfl hm⟩
      | finished =>
        have := h.sound.work_step (.skip hm)
        exact .inr ⟨_, _, _, h.round (.skip hm), by omega⟩
    | none =>
      -- a dependency of a declared target is declared
      obtain ⟨next, hf⟩ := Catalog.contains_iff_get?.1 h.sound.needs.contains_right
      have := h.sound.work_step (.enter hm hf)
      exact .inr ⟨_, _, _, h.round (.enter hm hf), by omega⟩

/-- From wherever the visits have come to, they come to an end. -/
theorem exists_ends (h : Comes g roots rounds w left) :
    ∃ rounds w left r, Comes g roots rounds w left ∧ Ends g w left r := by
  induction hn : left.length + work g w using Nat.strong_induction_on
    generalizing rounds w left with
  | _ n ih =>
    rcases h.ends_or_goes_on with ⟨r, he⟩ | ⟨rounds', w', left', h', hlt⟩
    · exact ⟨rounds, w, left, r, h, he⟩
    · exact ih _ (hn ▸ hlt) h' rfl

end Comes

/-- **A walk stays in step and ends.** Whatever the graph looks like, the visits of any roots come
to an end. Up to there the marks, the stack and the finished targets are in step in front of every
round, and every round does one of the things that there are to do: as many as there are targets and
dependencies. A dependency on an open target is found on the stack, so that the circle which is
reported never starts at a place that stands in for a missing one. -/
theorem visits_stay_in_step (g : Graph) (roots : List String) :
    (∃ rounds w left r, Comes g roots rounds w left ∧ Ends g w left r ∧ visitAll g roots = r) ∧
    ∀ rounds w left, Comes g roots rounds w left →
      InStep g w ∧ rounds + work g w = g.extent ∧
      visitAll g roots = run g w >>= left.foldlM (visit g) ∧
      ∀ t dep rest frames, w.stack = ⟨t, dep :: rest⟩ :: frames → w.marks[dep]? = some .opened →
        ∃ i, place? w.stack dep = some i ∧ ∀ fallback,
          g.closure roots = .error (.cycle (circleFrom fallback w.stack dep)) := by
  constructor
  · have hstart : Comes g roots 0 {} roots := .start
    obtain ⟨rounds, w, left, r, h, he⟩ := hstart.exists_ends
    exact ⟨rounds, w, left, r, h, he, h.visitAll_of_ends he⟩
  · intro rounds w left h
    refine ⟨h.sound.inStep, h.rounds_add_work, h.visitAll_eq, fun t dep rest frames hw hm => ?_⟩
    obtain ⟨i, hi, hcircle⟩ := h.sound.inStep.place?_eq_some hm
    refine ⟨i, hi, fun fallback => ?_⟩
    rw [Graph.closure, h.visitAll_of_ends (.circle hw hm), hcircle, hcircle]
    rfl

/-- A program that lists one library twice, and behind it one of two libraries that need each
other. -/
def tangled : Graph where
  toCatalog :=
    ((((default : Catalog).push
      { name := "app", kind := .program, sources := ["app.c"], deps := ["log", "log", "net"] }
        (by decide) (by decide)).push
      { name := "log", kind := .library, sources := ["log.c"] } (by decide) (by decide)).push
      { name := "net", kind := .library, sources := ["net.c"], deps := ["io"] }
        (by decide) (by decide)).push
      { name := "io", kind := .library, sources := ["io.c"], deps := ["net"] }
        (by decide) (by decide)
  closed := Catalog.danglingReference?_eq_none_iff.1 (by decide)

/-- The second of these libraries finds the first one open, in the middle of the stack: what is
reported does not start at the bottom. -/
theorem visits_of_tangled : ∃ w t,
    Comes tangled ["log", "app"] 5 w [] ∧ InStep tangled w ∧
    5 + work tangled w = tangled.extent ∧
    w.opened = ["io", "net", "app"] ∧ w.finished = ["log"] ∧
    w.stack.head? = some ⟨t, ["net"]⟩ ∧ w.marks["net"]? = some .opened ∧
    place? w.stack "net" = some 1 ∧
    (∀ fallback, tangled.closure ["log", "app"] =
      .error (.cycle (circleFrom fallback w.stack "net"))) ∧
    circleFrom 0 w.stack "net" = ["net", "io", "net"] := by
  have hstart : Comes tangled ["log", "app"] 0 {} ["log", "app"] := .start
  have hlog := (hstart.begin rfl (by cbv) (by rfl)).round .finish
  have happ := hlog.begin rfl (by cbv) (by rfl)
  have hskips := (happ.round (.skip (by cbv))).round (.skip (by cbv))
  have hnet := hskips.round (.enter (by cbv) (by rfl))
  have hio := hnet.round (.enter (by cbv) (by rfl))
  obtain ⟨hstep, hwork, -, hcircle⟩ := (visits_stay_in_step tangled ["log", "app"]).2 _ _ _ hio
  have hopen := (hstep.opened_iff "net").2 (by decide)
  obtain ⟨i, hi, hclosure⟩ := hcircle _ _ _ _ rfl hopen
  exact ⟨_, _, hio, hstep, hwork, rfl, rfl, rfl, hopen, by cbv, hclosure, by cbv⟩

end Walk

end Buildwright
