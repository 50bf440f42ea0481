import Buildwright.Proofs.Build.Outcome
import Buildwright.Proofs.Graph.Waves

/-!
# Builds wave by wave

The waves of a plan and the order in which its targets are handed to a crew come of two passes that
know nothing of each other: the former go by the longest walk from a target, the latter by the
moment at which the last of its dependencies has succeeded. They agree if the crew is done with
targets in the order in which it was handed them (`Crew.Orderly`). Targets are handed over wave by
wave then, whichever of them fail and whatever is skipped for that (`Build.ordered_by_waves`).

The reason is in one step (`Site.InWaves.hear`). What succeeded was handed over before the first
target that the crew still has, so that it is in no later wave than that one. Therefore all that the
crew has is in the wave of the first target or in the next one, and what becomes ready through the
first target is in the next one.
-/

namespace Buildwright

open Relation

/-! ### Depths of planned targets -/

namespace Graph

variable {g : Graph} {names : List String} {depth : String → Nat} {n : String} {k : Nat}

/-- A planned target with dependencies is one deeper than one of them. -/
theorem Settled.depth_cases (h : g.Settled names.reverse)
    (hdepth : ∀ n ∈ names, g.HasDepth n (depth n)) (hn : n ∈ names) :
    depth n = 0 ∨ ∃ d, g.Needs n d ∧ depth n = depth d + 1 := by
  refine (hdepth n hn).eq_zero_or_exists_needs.imp_right ?_
  rintro ⟨d, m, hneed, hm, heq⟩
  have hd := List.mem_reverse.1 (h.mem_of_needs (List.mem_reverse.2 hn) hneed)
  exact ⟨d, hneed, heq.trans (congrArg (· + 1) (hm.unique (hdepth d hd)))⟩

theorem Settled.depth_le (h : g.Settled names.reverse)
    (hdepth : ∀ n ∈ names, g.HasDepth n (depth n)) (hn : n ∈ names)
    (hdeps : ∀ d, g.Needs n d → depth d ≤ k) : depth n ≤ k + 1 := by
  rcases h.depth_cases hdepth hn with hzero | ⟨d, hneed, heq⟩
  · omega
  · have := hdeps d hneed
    omega

theorem Settled.depth_lt (h : g.Settled names.reverse)
    (hdepth : ∀ n ∈ names, g.HasDepth n (depth n)) (hn : n ∈ names) {d : String}
    (hneed : g.Needs n d) : depth d < depth n :=
  have hd := List.mem_reverse.1 (h.mem_of_needs (List.mem_reverse.2 hn) hneed)
  (hdepth n hn).lt_of_dependsOn (hdepth d hd) (.single hneed)

end Graph

/-! ### Events in turn -/

namespace Site

variable {g : Graph} {depth : String → Nat} {result : String → ToolResult} {s s' : Site}

/-- One event of a build whose crew is done with targets in the order in which it was handed them.
All that is ready is handed over first. -/
inductive Turn (result : String → ToolResult) : Site → Site → Prop where
  /-- The next target is handed to the crew. -/
  | hand {p n ready inFlight handed} :
      Turn result ⟨p, n :: ready, inFlight, handed⟩ ⟨p, ready, inFlight ++ [n], handed ++ [n]⟩
  /-- The coordinator hears of the first target that the crew has. -/
  | hear {s : Site} {done : Completion} {rest : List String} : s.ready = [] →
      s.inFlight = done.name :: rest → done.result = result done.name →
      Turn result s (s.hear done)

theorem Turn.step (h : Turn result s s') : Step result s s' := by
  cases h with
  | hand => exact .hand
  | hear _ hfirst hr => exact .hear (hfirst ▸ .head _) hr

/-- `s.InWaves g depth`: the targets were handed over, and will be, by increasing depth, and the
crew has the last ones of them. -/
structure InWaves (g : Graph) (depth : String → Nat) (s : Site) : Prop where
  hasDepth : ∀ n ∈ s.progress.names, g.HasDepth n (depth n)
  ordered : (s.handed ++ s.ready).Pairwise (depth · ≤ depth ·)
  queued : s.inFlight <:+ s.handed

namespace InWaves

/-- What is ready at the beginning depends on nothing. -/
theorem start {p : Progress} (h : p.Sound g result)
    (hpending : ∀ n st, p.status? n = some st → st = .pending)
    (hdepth : ∀ n ∈ p.names, g.HasDepth n (depth n)) : (start p).InWaves g depth := by
  have hnames : (Site.start p).progress.names = p.names :=
    congrArg (List.map _) (Progress.sameWork_takeReady p).targets
  have hzero (n : String) (hn : n ∈ p.ready) : depth n = 0 := by
    have hmem := Progress.mem_names_of_status? ((h.mem_ready_iff n).1 hn).1
    refine (h.settled.depth_cases hdepth hmem).resolve_right ?_
    rintro ⟨d, hneed, -⟩
    cases hpending d _ (h.succeeded_of_ready hn hneed)
  refine ⟨hnames ▸ hdepth, ?_, List.nil_suffix⟩
  exact List.pairwise_of_forall_mem_list fun a ha b _ => (hzero a ha).trans_le (Nat.zero_le _)

theorem hand {p n ready inFlight handed} (h : InWaves g depth ⟨p, n :: ready, inFlight, handed⟩) :
    InWaves g depth ⟨p, ready, inFlight ++ [n], handed ++ [n]⟩ := by
  obtain ⟨older, holder⟩ := h.queued
  refine ⟨h.hasDepth, ?_, ⟨older, ?_⟩⟩
  · have hordered := h.ordered
    rwa [List.append_cons] at hordered
  · rw [← List.append_assoc]
    exact congrArg (· ++ [n]) holder

section First

variable {n x y : String} {rest : List String} {done : Completion}

/-- What succeeded was handed over before the first target that the crew has. -/
theorem depth_le_of_succeeded (h : Sound g result s) (hw : s.InWaves g depth)
    (hready : s.ready = []) (hfirst : s.inFlight = n :: rest)
    (hx : s.progress.status? x = some .succeeded) : depth x ≤ depth n := by
  obtain ⟨older, holder⟩ := hw.queued
  have hordered := hw.ordered
  have hhanded : x ∈ s.handed := (h.handed_iff x).2 ⟨hready ▸ List.not_mem_nil, _, hx, rfl⟩
  rw [hready, List.append_nil, ← holder, hfirst] at hordered
  rw [← holder] at hhanded
  rcases List.mem_append.1 hhanded with hold | hflying
  · exact (List.pairwise_append.1 hordered).2.2 x hold n List.mem_cons_self
  · rw [h.status?_of_mem_inFlight hflying] at hx
    cases hx

/-- Nothing that was handed over is more than one deeper than the first target that the crew has,
for what it depends on has succeeded. -/
theorem depth_le_of_handed (h : Sound g result s) (hw : s.InWaves g depth)
    (hready : s.ready = []) (hfirst : s.inFlight = n :: rest) (hy : y ∈ s.handed) :
    depth y ≤ depth n + 1 := by
  obtain ⟨-, st, hst, hstarted⟩ := (h.handed_iff y).1 hy
  have hmem := Progress.mem_names_of_status? hst
  refine h.progress.settled.depth_le hw.hasDepth hmem fun d hd => ?_
  exact depth_le_of_succeeded h hw hready hfirst (h.progress.started y st hst hstarted d hd)

/-- What becomes ready through the first target is exactly one deeper. -/
theorem depth_of_mem_ready (h : Sound g result s) (hw : s.InWaves g depth)
    (hready : s.ready = []) (hfirst : s.inFlight = done.name :: rest)
    (hr : done.result = result done.name) (hx : x ∈ (s.progress.complete done).ready) :
    depth x = depth done.name + 1 := by
  have hn := h.status?_of_mem_inFlight (hfirst ▸ List.mem_cons_self : done.name ∈ s.inFlight)
  have hq := h.progress.complete hn hr
  have hset := h.progress.settled
  have hmem : x ∈ s.progress.names := by
    have := Progress.mem_names_of_status? ((hq.mem_ready_iff x).1 hx).1
    rwa [Progress.names, s.progress.targets_complete] at this
  have hneed := h.progress.needs_of_mem_ready hn hr h.taken hx
  refine Nat.le_antisymm (hset.depth_le hw.hasDepth hmem fun d hd => ?_)
    (hset.depth_lt hw.hasDepth hmem hneed)
  rcases h.progress.succeeded_of_complete hn (hq.succeeded_of_ready hx hd) with rfl | hd
  · exact Nat.le_refl _
  · exact depth_le_of_succeeded h hw hready hfirst hd

/-- **Hearing of the first target** keeps the order: what becomes ready is at least as deep as all
that was handed over, and all of it is equally deep. -/
theorem hear (h : Sound g result s) (hw : s.InWaves g depth) (hready : s.ready = [])
    (hfirst : s.inFlight = done.name :: rest) (hr : done.result = result done.name) :
    (s.hear done).InWaves g depth := by
  have hnew (x : String) (hx : x ∈ (s.progress.complete done).ready) :
      depth x = depth done.name + 1 := depth_of_mem_ready h hw hready hfirst hr hx
  obtain ⟨older, holder⟩ := hw.queued
  refine ⟨?_, ?_, ⟨older ++ [done.name], ?_⟩⟩
  · rw [Progress.names, targets_hear]
    exact hw.hasDepth
  · have hordered := hw.ordered
    rw [hready, List.append_nil] at hordered
    show (s.handed ++ (s.ready ++ (s.progress.complete done).ready)).Pairwise _
    rw [hready, List.nil_append]
    refine List.pairwise_append.2 ⟨hordered, ?_, fun y hy x hx => ?_⟩
    · exact List.pairwise_of_forall_mem_list fun x hx y hy => (hnew x hx).trans_le (hnew y hy).ge
    · rw [hnew x hx]
      exact depth_le_of_handed h hw hready hfirst hy
  · show older ++ [done.name] ++ s.inFlight.erase done.name = s.handed
    rw [← holder, hfirst, List.erase_cons_head, List.append_assoc]
    rfl

end First

/-- **Each event in turn keeps the order.** -/
theorem turn (h : Sound g result s) (hw : s.InWaves g depth) (ht : Turn result s s') :
    s'.InWaves g depth := by
  cases ht with
  | hand => exact hw.hand
  | hear hready hfirst hr => exact hear h hw hready hfirst hr

/-- **A whole build in turn keeps the order.** -/
theorem turns (h : Sound g result s) (hw : s.InWaves g depth)
    (ht : ReflTransGen (Turn result) s s') : s'.InWaves g depth := by
  induction ht with
  | refl => exact hw
  | tail hs ht ih =>
    have hsteps : Steps result s _ := ReflTransGen.mono (fun _ _ => Turn.step) _ _ hs
    exact turn (h.steps hsteps) ih ht

/-- The build of a plan in turn, from its beginning. -/
theorem of_plan {requested : List String} {plan : Plan} {p : Progress}
    (h : g.plan requested = .ok plan) (hp : Progress.ofPlan g plan = .ok p)
    (hdepth : ∀ n ∈ plan.names, g.HasDepth n (depth n))
    (ht : ReflTransGen (Turn result) (Site.start p) s) : s.InWaves g depth := by
  obtain ⟨hnames, hsound, hpending⟩ := Progress.sound_of_ofPlan h hp result
  have hstart : (Site.start p).InWaves g depth :=
    InWaves.start hsound hpending (hnames.symm ▸ hdepth)
  exact hstart.turns (sound_start hsound hpending) ht

end InWaves

/-- What was handed over in a build at rest: all that depends on good results only. -/
theorem Sound.mem_handed_iff (h : Sound g result s) (hr : s.ready = []) (hf : s.inFlight = [])
    {n : String} : n ∈ s.handed ↔
      n ∈ s.progress.names ∧ ∀ d, g.DependsOn n d → (result d).success = true := by
  rw [h.handed_iff, hr, and_iff_right List.not_mem_nil]
  constructor
  · rintro ⟨st, hst, hs⟩
    exact ⟨Progress.mem_names_of_status? hst, fun d hd =>
      h.progress.succeeded d (h.succeeded_of_dependsOn ⟨st, hst, hs⟩ hd)⟩
  · rintro ⟨hn, hdeps⟩
    obtain ⟨st, hst, hterm⟩ := Progress.isDone_iff.1 (h.isDone_of_rest hr hf n hn)
    refine ⟨st, hst, ?_⟩
    cases st with
    | pending | building => cases hterm
    | succeeded | failed => rfl
    | skipped d =>
      obtain ⟨hneed, e, he, hbad⟩ := h.bad_of_skipped hst
      rw [hdeps e (TransGen.head' hneed he)] at hbad
      cases hbad

end Site

/-! ### Crews that keep the order -/

namespace Crew

variable {m : Type → Type} [Monad m] {σ : Type} {e : Execution m σ} {crew : Crew m} {now : m Nat}
  {result : String → ToolResult} {queue handed : σ → List String} {s s' : σ}

/-- What a crew promises that is done with targets in the order in which it was handed them. In the
state `s` it has the targets `queue s`, and so far it was handed the targets `handed s`. It comes
together. Whoever waits hears of the first one, with the result that belongs to it. To look at the
clock changes nothing. -/
structure Orderly (crew : Crew m) (now : m Nat) (e : Execution m σ)
    (result : String → ToolResult) (queue handed : σ → List String) : Prop where
  assemble : ∀ s, ∃ s', e.run crew.assemble s = (.ok (), s') ∧
    queue s' = queue s ∧ handed s' = handed s
  hand : ∀ n s, queue (e.run (crew.hand n) s).2 = queue s ++ [n] ∧
    handed (e.run (crew.hand n) s).2 = handed s ++ [n]
  idle : ∀ s, queue s = [] → ∃ s', e.run crew.next? s = (none, s') ∧
    queue s' = [] ∧ handed s' = handed s
  next : ∀ s n names, queue s = n :: names → ∃ done s', e.run crew.next? s = (some done, s') ∧
    done.name = n ∧ done.result = result n ∧ queue s' = names ∧ handed s' = handed s
  clock : ∀ s, queue (e.run now s).2 = queue s ∧ handed (e.run now s).2 = handed s

namespace Orderly

/-- **What an orderly crew does are events in turn.** -/
theorem serves (hc : crew.Orderly now e result queue handed) :
    crew.Serves now e result (Site.Turn result) fun s site =>
      queue s = site.inFlight ∧ handed s = site.handed where
  step _ _ ht := ht.step
  assemble s site hf := by
    obtain ⟨s', hassemble, hqueue, hhanded⟩ := hc.assemble s
    exact ⟨s', hassemble, hqueue.trans hf.1, hhanded.trans hf.2⟩
  hand s p n ready flying given hf := by
    obtain ⟨hqueue, hhanded⟩ := hc.hand n s
    exact ⟨.hand, hqueue.trans (congrArg (· ++ [n]) hf.1),
      hhanded.trans (congrArg (· ++ [n]) hf.2)⟩
  idle s site hf hnil := by
    obtain ⟨s', hnext, -⟩ := hc.idle s (hf.1.trans hnil)
    rw [hnext]
  next s site hf hready hne := by
    obtain ⟨n, names, hfirst⟩ := List.exists_cons_of_ne_nil hne
    obtain ⟨done, s', hnext, rfl, hr, hqueue, hhanded⟩ := hc.next s n names (hf.1.trans hfirst)
    refine ⟨done, s', hnext, hfirst ▸ List.mem_cons_self, hr, .hear hready hfirst hr, ?_,
      hhanded.trans hf.2⟩
    rw [hqueue, Site.hear, hfirst, List.erase_cons_head]
  clock s site hf := ⟨(hc.clock s).1.trans hf.1, (hc.clock s).2.trans hf.2⟩

/-- At the end of a build the crew has nothing, and nothing more was handed to it. -/
theorem of_rests (hc : crew.Orderly now e result queue handed) (hq : queue s = [])
    (hs : crew.Rests e s s') : queue s' = [] ∧ handed s' = handed s := by
  rcases hs with rfl | hs
  · exact ⟨hq, rfl⟩
  · obtain ⟨s'', hnext, hqueue, hhanded⟩ := hc.idle s hq
    obtain rfl : s' = s'' := by rw [hs] at hnext; exact congrArg Prod.snd hnext
    exact ⟨hqueue, hhanded⟩

/-- The build of a plan ends with a report, made in a state to which events in turn lead and in
which nothing is left to be done. What the crew was handed is what was handed over. -/
theorem ofPlan_turns {g : Graph} {requested : List String} {plan : Plan}
    (hc : crew.Orderly now e result queue handed) (h : g.plan requested = .ok plan)
    (hq : queue s = []) (hh : handed s = []) :
    ∃ p site duration s', Progress.ofPlan g plan = .ok p ∧
      e.run (Build.ofPlan crew now g plan) s = (.ok (site.progress.report duration), s') ∧
      ReflTransGen (Site.Turn result) (Site.start p) site ∧ site.ready = [] ∧
      site.inFlight = [] ∧ queue s' = [] ∧ handed s' = site.handed := by
  obtain ⟨p, site, duration, s₁, s₂, hp, hrun, hturns, hr, hf, ⟨hq₁, hh₁⟩, hrests⟩ :=
    hc.serves.ofPlan_events h (s := s) fun _ => ⟨hq, hh⟩
  obtain ⟨hq₂, hh₂⟩ := hc.of_rests (hq₁.trans hf) hrests
  obtain ⟨hq', hh'⟩ := hc.clock s₂
  exact ⟨p, site, duration, _, hp, hrun, hturns, hr, hf, hq'.trans hq₂,
    hh'.trans (hh₂.trans hh₁)⟩

end Orderly

/-- **A single worker is orderly.** What was handed over is what was taken up, in the order of the
notes `taken`, and behind it what is still waiting. -/
theorem orderly_single {attempt : String → m Completion} (time : m Nat) (e : Execution m σ)
    (taken : σ → List String) (hname : ∀ n s, (e.run (attempt n) s).1.name = n)
    (hresult : ∀ n s, (e.run (attempt n) s).1.result = result n)
    (htaken : ∀ n s, taken (e.run (attempt n) s).2 = taken s ++ [n])
    (htime : ∀ s, taken (e.run time s).2 = taken s) :
    (single attempt).Orderly (liftM time) (e.withState (List String)) result (·.1)
      fun s => taken s.2 ++ s.1 where
  assemble s := ⟨s, (e.withState (List String)).run_pure _ s, rfl, rfl⟩
  hand n s := by
    rw [run_hand_single]
    exact ⟨rfl, (List.append_assoc _ _ _).symm⟩
  idle := by
    rintro ⟨names, s⟩ rfl
    exact ⟨_, run_next_single_nil s, rfl, rfl⟩
  next := by
    rintro ⟨_, s⟩ n names rfl
    refine ⟨(e.run (attempt n) s).1, (names, (e.run (attempt n) s).2), run_next_single n names s,
      hname n s, hresult n s, rfl, ?_⟩
    simp [htaken]
  clock s := by
    rw [e.run_withState_lift, htime]
    exact ⟨rfl, rfl⟩

/-- A single worker who takes a note of each target that is taken up. -/
def noting (result : String → ToolResult) : Crew (StateT (List String) (StateT (List String) Id)) :=
  single fun n => do
    modify (· ++ [n])
    return { name := n, result := result n }

theorem orderly_noting (result : String → ToolResult) :
    (noting result).Orderly (liftM (pure 0 : StateT (List String) Id Nat))
      (((Execution.ofId Unit).withState (List String)).withState (List String)) result (·.1)
      fun s => s.2.1 ++ s.1 :=
  orderly_single _ _ Prod.fst (fun _ _ => rfl) (fun _ _ => rfl) (fun _ _ => rfl) fun _ => rfl

end Crew

/-! ### Waves and the order of a build -/

namespace Graph

/-- `NotLater waves a b`: each of the two targets is in exactly one wave, and the wave of `a` is not
later than that of `b`. -/
def NotLater (waves : List (List String)) (a b : String) : Prop :=
  ∃ i j, (∀ k, StandsIn waves k a ↔ k = i) ∧ (∀ k, StandsIn waves k b ↔ k = j) ∧ i ≤ j

/-- A program that lists two libraries, the first of which needs another one. -/
def lopsided : Graph where
  toCatalog :=
    ((((default : Catalog).push
      { name := "k", kind := .library, sources := ["k.c"] } (by decide) (by decide)).push
      { name := "l", kind := .library, sources := ["l.c"], deps := ["k"] }
        (by decide) (by decide)).push
      { name := "m", kind := .library, sources := ["m.c"] } (by decide) (by decide)).push
      { name := "p", kind := .program, sources := ["p.c"], deps := ["l", "m"] }
        (by decide) (by decide)
  closed := Catalog.danglingReference?_eq_none_iff.1 (by decide)

end Graph

namespace Build

variable {g : Graph} {requested : List String} {plan : Plan}

/-- **Targets are built wave by wave.** Whatever the tools give, a crew that is done with targets in
the order in which it was handed them is never handed a target of a later wave before one of an
earlier wave. It is handed every planned target that depends on good results only, and each of them
once; the others are skipped. -/
theorem ordered_by_waves (h : g.plan requested = .ok plan) (result : String → ToolResult) :
    ∃ waves, g.waves plan = .ok waves ∧
      ∀ {m : Type → Type} [Monad m] {σ : Type} (e : Execution m σ) (crew : Crew m) (now : m Nat)
        (queue handed : σ → List String), crew.Orderly now e result queue handed →
          ∀ s, queue s = [] → handed s = [] → ∃ report s',
            e.run (ofPlan crew now g plan) s = (.ok report, s') ∧ queue s' = [] ∧
            (handed s').Pairwise (Graph.NotLater waves) ∧ (handed s').Nodup ∧
            ∀ n, n ∈ handed s' ↔
              n ∈ plan.names ∧ ∀ d, g.DependsOn n d → (result d).success = true := by
  obtain ⟨waves, hwaves, hlayers⟩ := Graph.exists_waves h
  refine ⟨waves, hwaves, fun e crew now queue handed hc s hq hh => ?_⟩
  choose! depth hdepth using fun n (hn : n ∈ plan.names) => hlayers.exists_standsIn hn
  obtain ⟨p, site, duration, s', hp, hrun, hturns, hr, hf, hq', hh'⟩ := hc.ofPlan_turns h hq hh
  have hreach : Site.Reachable g plan result site := ⟨p, hp, hc.serves.steps_of_events hturns⟩
  obtain ⟨hsound, hnames⟩ := hreach.sound h
  have hmem (n : String) : n ∈ site.handed ↔
      n ∈ plan.names ∧ ∀ d, g.DependsOn n d → (result d).success = true :=
    hnames ▸ hsound.mem_handed_iff hr hf
  have hwave (n : String) (hn : n ∈ site.handed) (k : Nat) :
      Graph.StandsIn waves k n ↔ k = depth n :=
    hlayers.standsIn_iff (hdepth n ((hmem n).1 hn).1)
  have hordered : site.handed.Pairwise (depth · ≤ depth ·) := by
    have hw : site.InWaves g depth :=
      .of_plan h hp (fun n hn => hlayers.hasDepth _ n (hdepth n hn)) hturns
    have hordered := hw.ordered
    rwa [hr, List.append_nil] at hordered
  rw [← hh'] at hmem hwave hordered
  refine ⟨_, s', hrun, hq', ?_, hh' ▸ hsound.handed_nodup, hmem⟩
  exact hordered.imp_of_mem fun ha hb hab => ⟨_, _, hwave _ ha, hwave _ hb, hab⟩

/-- The second library is planned behind the first one and built before it. The first one fails, and
the program is skipped. -/
theorem ordered_by_waves_lopsided :
    Graph.lopsided.plan ["p"] = .ok ⟨["k", "l", "m", "p"]⟩ ∧
    Graph.lopsided.waves ⟨["k", "l", "m", "p"]⟩ = .ok [["k", "m"], ["l"], ["p"]] ∧
    ∃ report, (((Execution.ofId Unit).withState (List String)).withState (List String)).run
        (ofPlan (.noting (Site.allBut "l")) (liftM (pure 0 : StateT (List String) Id Nat))
          Graph.lopsided ⟨["k", "l", "m", "p"]⟩) ([], [], ()) =
        (.ok report, [], ["k", "m", "l"], ()) ∧
      ["k", "m", "l"].Pairwise (Graph.NotLater [["k", "m"], ["l"], ["p"]]) ∧
      ∀ n, n ∈ ["k", "m", "l"] ↔ n ∈ ["k", "l", "m", "p"] ∧
        ∀ d, Graph.lopsided.DependsOn n d → (Site.allBut "l" d).success = true := by
  have hplan : Graph.lopsided.plan ["p"] = .ok ⟨["k", "l", "m", "p"]⟩ := by cbv
  have hwaves : Graph.lopsided.waves ⟨["k", "l", "m", "p"]⟩ = .ok [["k", "m"], ["l"], ["p"]] := rfl
  obtain ⟨waves, hw, hcrew⟩ := ordered_by_waves hplan (Site.allBut "l")
  obtain rfl := Except.ok.inj (hwaves.symm.trans hw)
  obtain ⟨report, s', hrun, -, horder, -, hmem⟩ :=
    hcrew _ _ _ _ _ (Crew.orderly_noting (Site.allBut "l")) ([], [], ()) rfl rfl
  obtain rfl : s' = ([], ["k", "m", "l"], ()) := by
    refine (congrArg Prod.snd hrun).symm.trans ?_
    decide +kernel
  exact ⟨hplan, hwaves, report, hrun, horder, hmem⟩

end Build

end Buildwright
