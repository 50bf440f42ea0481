import Buildwright.Build.Run
import Buildwright.Proofs.Build.Site

/-!
# What a crew promises

A crew is free in the order in which it is done with targets and in what it keeps in mind, and it
may work in any monad that can be carried out (`Execution`). A build relies on no more than
`Crew.Reliable`: the crew comes together, and who has been handed a target is done with it sooner or
later. Then the crew does nothing that is not an event of the site (`Crew.Serves`). From that alone
the loop of a build goes through events of the site only, and it goes on until nothing is left to be
done (`Crew.Serves.run_events`). A single worker is such a crew (`Crew.reliable_single`).
-/

namespace Buildwright

open Relation

/-! ### Executions -/

/-- A way to carry out the computations of a monad, each one from a state to a value and the next
state. -/
structure Execution (m : Type → Type) [Monad m] (σ : Type) where
  run {α : Type} : m α → σ → α × σ
  run_pure {α : Type} (a : α) (s : σ) : run (pure a) s = (a, s)
  run_bind {α β : Type} (x : m α) (f : α → m β) (s : σ) :
    run (x >>= f) s = run (f (run x s).1) (run x s).2

namespace Execution

variable {m : Type → Type} [Monad m] {σ : Type}

/-- Values are carried out in any state, and leave it as it is. -/
def ofId (σ : Type) : Execution Id σ where
  run a s := (a, s)
  run_pure _ _ := rfl
  run_bind _ _ _ := rfl

/-- Computations with one more state. -/
def withState (e : Execution m σ) (τ : Type) : Execution (StateT τ m) (τ × σ) where
  run x s :=
    ((e.run (x.run s.1) s.2).1.1, (e.run (x.run s.1) s.2).1.2, (e.run (x.run s.1) s.2).2)
  run_pure a s := by simp [e.run_pure]
  run_bind x f s := by simp [e.run_bind]

/-- What is only passed on leaves the state beside it as it is. -/
theorem run_withState_lift (e : Execution m σ) {τ α : Type} (x : m α) (t : τ) (s : σ) :
    (e.withState τ).run (liftM x) (t, s) = ((e.run x s).1, t, (e.run x s).2) := by
  simp [withState, e.run_bind, e.run_pure]

theorem run_forM_nil (e : Execution m σ) (f : String → m Unit) (s : σ) :
    e.run (([] : List String).forM f) s = ((), s) :=
  e.run_pure () s

theorem run_forM_cons (e : Execution m σ) (f : String → m Unit) (n : String) (names : List String)
    (s : σ) : e.run ((n :: names).forM f) s = e.run (names.forM f) (e.run (f n) s).2 :=
  e.run_bind _ _ s

end Execution

variable {m : Type → Type} [Monad m] {σ : Type} {e : Execution m σ} {crew : Crew m} {now : m Nat}
  {rounds : Nat} {ready : List String} {p : Progress} {s s₁ s₂ : σ}

/-! ### Rounds of the loop -/

namespace Build

/-- The loop ends when the crew has nothing more to tell. -/
theorem run_of_none (hh : (e.run (ready.forM crew.hand) s).2 = s₁)
    (hn : e.run crew.next? s₁ = (none, s₂)) :
    e.run (run crew (rounds + 1) ready p) s = (p, s₂) := by
  rw [run, e.run_bind, hh, e.run_bind, hn]
  exact e.run_pure p s₂

/-- The loop goes on with what a target that is done makes ready. -/
theorem run_of_some {done : Completion} (hh : (e.run (ready.forM crew.hand) s).2 = s₁)
    (hn : e.run crew.next? s₁ = (some done, s₂)) :
    e.run (run crew (rounds + 1) ready p) s =
      e.run (run crew rounds (p.complete done).takeReady.1 (p.complete done).takeReady.2) s₂ := by
  rw [run, e.run_bind, hh, e.run_bind, hn]

end Build

/-- `crew.Begins e plan s s₀`: how a build comes from the state `s` to its loop. The crew has to
come together, unless nothing is planned. -/
def Crew.Begins (crew : Crew m) (e : Execution m σ) (plan : Plan) (s s₀ : σ) : Prop :=
  if plan.names = [] then s₀ = s else e.run crew.assemble s = (.ok (), s₀)

namespace Build

variable {g : Graph} {plan : Plan} {s₀ : σ}

/-- A build looks at the clock before and after its loop. -/
theorem ofPlan_of_run {q : Progress} (hp : Progress.ofPlan g plan = .ok p)
    (hbegins : crew.Begins e plan (e.run now s).2 s₀)
    (hrun : e.run (run crew plan.names.length p.takeReady.1 p.takeReady.2) s₀ = (q, s₁)) :
    e.run (ofPlan crew now g plan) s =
      (.ok (q.report ((e.run now s₁).1 - (e.run now s).1)), (e.run now s₁).2) := by
  rw [Crew.Begins] at hbegins
  rw [ofPlan, hp, e.run_bind]
  split at hbegins
  · next hnil =>
    -- the report on no targets is the same before and behind a loop without rounds
    subst hbegins
    obtain rfl : p = .ofTargets [] := by
      rw [Progress.ofPlan, hnil] at hp
      exact (Except.ok.inj hp).symm
    rw [hnil, List.length_nil, run, e.run_pure] at hrun
    obtain ⟨rfl, rfl⟩ := Prod.mk.inj hrun
    simp only [hnil, if_true, e.run_bind, e.run_pure]
    rfl
  · next hne => simp only [hne, if_false, e.run_bind, e.run_pure, hbegins, hrun]

/-- A build whose crew does not come together ends with an error. -/
theorem ofPlan_of_fault {fault : HostFault} (hp : Progress.ofPlan g plan = .ok p)
    (hne : plan.names ≠ [])
    (hassemble : e.run crew.assemble (e.run now s).2 = (.error fault, s₀)) :
    e.run (ofPlan crew now g plan) s = (.error (.workerPool fault.message), s₀) := by
  rw [ofPlan, hp, e.run_bind]
  simp only [hne, if_false, e.run_bind, e.run_pure, hassemble]

end Build

namespace Crew

variable {result : String → ToolResult} {inFlight : σ → List String}

/-! ### Crews and sites -/

/-- What a crew does while its state fits the site: it comes together, whatever it is handed, and
whatever is heard of it, is an event of the site, and its state goes on fitting the site. It has
nothing to tell only if it has no targets. -/
structure Serves (crew : Crew m) (now : m Nat) (e : Execution m σ) (result : String → ToolResult)
    (Event : Site → Site → Prop) (Fits : σ → Site → Prop) : Prop where
  step : ∀ site site', Event site site' → Site.Step result site site'
  assemble : ∀ s site, Fits s site → ∃ s', e.run crew.assemble s = (.ok (), s') ∧ Fits s' site
  hand : ∀ s p n ready flying handed, Fits s ⟨p, n :: ready, flying, handed⟩ →
    Event ⟨p, n :: ready, flying, handed⟩ ⟨p, ready, flying ++ [n], handed ++ [n]⟩ ∧
      Fits (e.run (crew.hand n) s).2 ⟨p, ready, flying ++ [n], handed ++ [n]⟩
  idle : ∀ s site, Fits s site → site.inFlight = [] → (e.run crew.next? s).1 = none
  next : ∀ s site, Fits s site → site.ready = [] → site.inFlight ≠ [] →
    ∃ done s', e.run crew.next? s = (some done, s') ∧ done.name ∈ site.inFlight ∧
      done.result = result done.name ∧ Event site (site.hear done) ∧ Fits s' (site.hear done)
  clock : ∀ s site, Fits s site → Fits (e.run now s).2 site

/-- The state after a build: the crew has told of everything, and perhaps it was asked once more. -/
def Rests (crew : Crew m) (e : Execution m σ) (s s' : σ) : Prop :=
  s' = s ∨ e.run crew.next? s = (none, s')

namespace Serves

variable {g : Graph} {site : Site} {Event : Site → Site → Prop} {Fits : σ → Site → Prop}

theorem steps_of_events {site' : Site} (hc : crew.Serves now e result Event Fits)
    (hs : ReflTransGen Event site site') : Site.Steps result site site' :=
  ReflTransGen.mono hc.step _ _ hs

/-- The build of a plan gets to its loop. -/
theorem exists_begins (hc : crew.Serves now e result Event Fits) (plan : Plan) (hf : Fits s site) :
    ∃ s₀, crew.Begins e plan s s₀ ∧ Fits s₀ site := by
  unfold Begins
  split
  · exact ⟨s, rfl, hf⟩
  · exact hc.assemble s site hf

/-- Handing over all that is ready. -/
theorem forM_hand (hc : crew.Serves now e result Event Fits) (p : Progress)
    (ready flying handed : List String) (hf : Fits s ⟨p, ready, flying, handed⟩) :
    ReflTransGen Event ⟨p, ready, flying, handed⟩ ⟨p, [], flying ++ ready, handed ++ ready⟩ ∧
      Fits (e.run (ready.forM crew.hand) s).2 ⟨p, [], flying ++ ready, handed ++ ready⟩ := by
  induction ready generalizing s flying handed with
  | nil =>
    rw [e.run_forM_nil, List.append_nil, List.append_nil]
    exact ⟨.refl, hf⟩
  | cons n ready ih =>
    obtain ⟨hevent, hf⟩ := hc.hand s p n ready flying handed hf
    obtain ⟨hevents, hf⟩ := ih (flying ++ [n]) (handed ++ [n]) hf
    rw [e.run_forM_cons]
    simp only [List.append_assoc, List.singleton_append] at hevents hf
    exact ⟨.head (by simpa using hevent) hevents, hf⟩

/-- **One round of the loop**: all that is ready is handed over. Then the loop ends if the crew has
nothing, and otherwise it goes on with what a target that is done makes ready. -/
theorem run_round (hc : crew.Serves now e result Event Fits) (hf : Fits s site) :
    ∃ site' s₁ s', ReflTransGen Event site site' ∧ site'.progress = site.progress ∧
      ((site'.ready = [] ∧ site'.inFlight = [] ∧ Fits s₁ site' ∧ crew.Rests e s₁ s' ∧
          ∀ rounds, e.run (Build.run crew (rounds + 1) site.ready site.progress) s =
            (site'.progress, s')) ∨
        ∃ done, done.name ∈ site'.inFlight ∧ done.result = result done.name ∧
          Event site' (site'.hear done) ∧ Fits s' (site'.hear done) ∧
          ∀ rounds, e.run (Build.run crew (rounds + 1) site.ready site.progress) s =
            e.run (Build.run crew rounds (site'.hear done).ready (site'.hear done).progress)
              s') := by
  obtain ⟨p, ready, flying, handed⟩ := site
  obtain ⟨hevents, hf⟩ := hc.forM_hand p ready flying handed hf
  generalize hhand : (e.run (ready.forM crew.hand) s).2 = s₁ at hf
  by_cases hnil : flying ++ ready = []
  · obtain ⟨x, s₂, hnext⟩ : ∃ x s₂, e.run crew.next? s₁ = (x, s₂) := ⟨_, _, rfl⟩
    obtain rfl : x = none := by simpa [hnext] using hc.idle s₁ _ hf hnil
    exact ⟨_, s₁, s₂, hevents, rfl,
      .inl ⟨rfl, hnil, hf, .inr hnext, fun _ => Build.run_of_none hhand hnext⟩⟩
  · obtain ⟨done, s₂, hnext, hd, hr, hevent, hf⟩ := hc.next s₁ _ hf rfl hnil
    exact ⟨_, s₁, s₂, hevents, rfl,
      .inr ⟨done, hd, hr, hevent, hf, fun _ => Build.run_of_some hhand hnext⟩⟩

/-- Some rounds of the loop bring a site to another one, through events only. -/
structure Brings (crew : Crew m) (e : Execution m σ) (Event : Site → Site → Prop)
    (Fits : σ → Site → Prop) (rounds : Nat) (s : σ) (site site' : Site) (s' : σ) : Prop where
  run : e.run (Build.run crew rounds site.ready site.progress) s = (site'.progress, s')
  events : ReflTransGen Event site site'
  fits : ∃ s₁, Fits s₁ site' ∧ crew.Rests e s₁ s'

theorem Brings.of_round {rounds : Nat} {site₁ site' : Site} {s' : σ}
    (hevents : ReflTransGen Event site site₁)
    (hrun : e.run (Build.run crew (rounds + 1) site.ready site.progress) s =
      e.run (Build.run crew rounds site₁.ready site₁.progress) s₁)
    (h : Brings crew e Event Fits rounds s₁ site₁ site' s') :
    Brings crew e Event Fits (rounds + 1) s site site' s' :=
  ⟨hrun.trans h.run, hevents.trans h.events, h.fits⟩

/-- The loop of a build goes through events only. -/
theorem run_brings (hc : crew.Serves now e result Event Fits) (rounds : Nat) (hf : Fits s site) :
    ∃ site' s', Brings crew e Event Fits rounds s site site' s' := by
  induction rounds generalizing site s with
  | zero => exact ⟨site, s, e.run_pure _ s, .refl, s, hf, .inl rfl⟩
  | succ rounds ih =>
    obtain ⟨site₁, s₁, s₂, hevents, -,
      ⟨-, -, hf, hrests, hrun⟩ | ⟨done, -, -, hevent, hf, hrun⟩⟩ := hc.run_round hf
    · exact ⟨site₁, s₂, hrun rounds, hevents, s₁, hf, hrests⟩
    · obtain ⟨site', s', h⟩ := ih hf
      exact ⟨site', s', .of_round (hevents.tail hevent) (hrun rounds) h⟩

/-- With more rounds the loop goes on from where it was. -/
theorem run_brings_further (hc : crew.Serves now e result Event Fits) (rounds more : Nat)
    (hf : Fits s site) :
    ∃ site₁ site₂ s₁ s₂, Brings crew e Event Fits rounds s site site₁ s₁ ∧
      Brings crew e Event Fits (rounds + more) s site site₂ s₂ ∧
      ReflTransGen Event site₁ site₂ := by
  induction rounds generalizing site s with
  | zero =>
    obtain ⟨site₂, s₂, h⟩ := hc.run_brings more hf
    rw [Nat.zero_add]
    exact ⟨site, site₂, s, s₂, ⟨e.run_pure _ s, .refl, s, hf, .inl rfl⟩, h, h.events⟩
  | succ rounds ih =>
    rw [Nat.add_right_comm]
    obtain ⟨site₁, s₁, s₂, hevents, -,
      ⟨-, -, hf, hrests, hrun⟩ | ⟨done, -, -, hevent, hf, hrun⟩⟩ := hc.run_round hf
    · exact ⟨site₁, site₁, s₂, s₂, ⟨hrun rounds, hevents, s₁, hf, hrests⟩,
        ⟨hrun (rounds + more), hevents, s₁, hf, hrests⟩, .refl⟩
    · obtain ⟨site', site'', s', s'', h, h', hfurther⟩ := ih hf
      have hbefore := hevents.tail hevent
      exact ⟨site', site'', s', s'', .of_round hbefore (hrun rounds) h,
        .of_round hbefore (hrun (rounds + more)) h', hfurther⟩

/-- **The loop of a build** with enough rounds ends when nothing is left to be handed over and the
crew has nothing. -/
theorem run_events (hc : crew.Serves now e result Event Fits) (rounds : Nat)
    (h : site.Sound g result) (hf : Fits s site) (hu : site.progress.undone ≤ rounds) :
    ∃ site' s₁ s', e.run (Build.run crew rounds site.ready site.progress) s =
        (site'.progress, s') ∧ ReflTransGen Event site site' ∧ site'.ready = [] ∧
      site'.inFlight = [] ∧ Fits s₁ site' ∧ crew.Rests e s₁ s' := by
  induction rounds generalizing site s with
  | zero =>
    obtain ⟨hr, hfl⟩ := h.busy.rest_of_undone (Nat.le_zero.1 hu)
    exact ⟨site, s, s, e.run_pure _ s, .refl, hr, hfl, hf, .inl rfl⟩
  | succ rounds ih =>
    obtain ⟨site₁, s₁, s₂, hevents, hsame,
      ⟨hr, hfl, hf, hrest, hrun⟩ | ⟨done, hd, hr, hevent, hf, hrun⟩⟩ := hc.run_round hf
    · exact ⟨site₁, s₁, s₂, hrun rounds, hevents, hr, hfl, hf, hrest⟩
    · have h₁ := h.steps (hc.steps_of_events hevents)
      have hfewer := hsame ▸ h₁.undone_hear_lt hd hr
      obtain ⟨site', s₃, s', hrest, hevents', hfinal⟩ := ih (h₁.hear hd hr) hf (by omega)
      exact ⟨site', s₃, s', (hrun rounds).trans hrest, hevents.trans (.head hevent hevents'),
        hfinal⟩

/-- The build of a plan ends with a report, made in a state that events lead to and in which nothing
is left to be done. -/
theorem ofPlan_events {requested : List String} {plan : Plan}
    (hc : crew.Serves now e result Event Fits) (h : g.plan requested = .ok plan)
    (hs : ∀ p, Fits s (Site.start p)) :
    ∃ p site duration s₁ s', Progress.ofPlan g plan = .ok p ∧
      e.run (Build.ofPlan crew now g plan) s =
        (.ok (site.progress.report duration), (e.run now s').2) ∧
      ReflTransGen Event (Site.start p) site ∧ site.ready = [] ∧ site.inFlight = [] ∧
      Fits s₁ site ∧ crew.Rests e s₁ s' := by
  obtain ⟨p, hp, hnames, hsound, hpending⟩ := Progress.sound_ofPlan h result
  have hstart := Site.sound_start hsound hpending
  have hrounds : (Site.start p).progress.undone ≤ plan.names.length :=
    hnames ▸ Site.undone_start_le p
  obtain ⟨s₀, hbegins, hf⟩ := hc.exists_begins plan (hc.clock s _ (hs p))
  obtain ⟨site, s₁, s', hrun, hevents, hfinal⟩ :=
    hc.run_events plan.names.length hstart hf hrounds
  exact ⟨p, site, (e.run now s').1 - (e.run now s).1, s₁, s', hp,
    Build.ofPlan_of_run hp hbegins hrun, hevents, hfinal⟩

end Serves

/-- What a crew promises that has the targets `inFlight s` in the state `s`. It comes together. A
target that is handed over is one of them from then on. As long as there are any, whoever waits
hears of one of them, with the result that belongs to it. To look at the clock changes nothing. -/
structure Reliable (crew : Crew m) (now : m Nat) (e : Execution m σ)
    (result : String → ToolResult) (inFlight : σ → List String) : Prop where
  assemble : ∀ s, ∃ s', e.run crew.assemble s = (.ok (), s') ∧ inFlight s' = inFlight s
  hand : ∀ n s, (inFlight (e.run (crew.hand n) s).2).Perm (n :: inFlight s)
  idle : ∀ s, inFlight s = [] → (e.run crew.next? s).1 = none
  next : ∀ s, inFlight s ≠ [] → ∃ done s', e.run crew.next? s = (some done, s') ∧
    done.name ∈ inFlight s ∧ done.result = result done.name ∧
    (inFlight s').Perm ((inFlight s).erase done.name)
  clock : ∀ s, inFlight (e.run now s).2 = inFlight s

namespace Reliable

variable {g : Graph} {site : Site}

/-- **Whatever a reliable crew does is an event of the site.** -/
theorem serves (hc : crew.Reliable now e result inFlight) :
    crew.Serves now e result (Site.Step result) fun s site => (inFlight s).Perm site.inFlight where
  step _ _ hs := hs
  assemble s site hf := by
    obtain ⟨s', hassemble, hsame⟩ := hc.assemble s
    exact ⟨s', hassemble, hsame ▸ hf⟩
  hand s p n ready flying handed hf :=
    ⟨.hand, (hc.hand n s).trans ((hf.cons n).trans (List.perm_append_singleton n flying).symm)⟩
  idle s site hf hnil := hc.idle s (List.perm_nil.1 (hnil ▸ hf))
  next s site hf _ hne := by
    have hne' : inFlight s ≠ [] := fun hnil => hne (List.perm_nil.1 (hnil ▸ hf).symm)
    obtain ⟨done, s', hnext, hd, hr, herase⟩ := hc.next s hne'
    have hd' := hf.mem_iff.1 hd
    exact ⟨done, s', hnext, hd', hr, .hear hd' hr, herase.trans (hf.erase done.name)⟩
  clock s site hf := (hc.clock s).symm ▸ hf

/-- One round of the loop. -/
theorem run_round (hc : crew.Reliable now e result inFlight)
    (hf : (inFlight s).Perm site.inFlight) :
    ∃ site' s', Site.Steps result site site' ∧ site'.progress = site.progress ∧
      ((site'.ready = [] ∧ site'.inFlight = [] ∧
          ∀ rounds, e.run (Build.run crew (rounds + 1) site.ready site.progress) s =
            (site'.progress, s')) ∨
        ∃ done, done.name ∈ site'.inFlight ∧ done.result = result done.name ∧
          (inFlight s').Perm (site'.hear done).inFlight ∧
          ∀ rounds, e.run (Build.run crew (rounds + 1) site.ready site.progress) s =
            e.run (Build.run crew rounds (site'.hear done).ready (site'.hear done).progress)
              s') := by
  obtain ⟨site', _, s', hsteps, hsame, hround⟩ := hc.serves.run_round hf
  refine ⟨site', s', hsteps, hsame, ?_⟩
  rcases hround with ⟨hr, hfl, -, -, hrun⟩ | ⟨done, hd, hr, -, hf, hrun⟩
  · exact .inl ⟨hr, hfl, hrun⟩
  · exact .inr ⟨done, hd, hr, hf, hrun⟩

/-- The loop of a build goes through events of the site only. -/
theorem run_exists_steps (hc : crew.Reliable now e result inFlight) (rounds : Nat)
    (hf : (inFlight s).Perm site.inFlight) :
    ∃ site' s', e.run (Build.run crew rounds site.ready site.progress) s = (site'.progress, s') ∧
      Site.Steps result site site' := by
  obtain ⟨site', s', h⟩ := hc.serves.run_brings rounds hf
  exact ⟨site', s', h.run, h.events⟩

/-- The build of a plan ends with a report, made in a state that the build can reach and in which
nothing is left to be done. -/
theorem ofPlan_reachable {requested : List String} {plan : Plan}
    (hc : crew.Reliable now e result inFlight) (h : g.plan requested = .ok plan)
    (hs : inFlight s = []) :
    ∃ site duration s', e.run (Build.ofPlan crew now g plan) s =
        (.ok (site.progress.report duration), s') ∧ Site.Reachable g plan result site ∧
      site.ready = [] ∧ site.inFlight = [] := by
  obtain ⟨p, site, duration, -, s', hp, hrun, hsteps, hr, hf, -⟩ :=
    hc.serves.ofPlan_events h (s := s) fun _ => hs ▸ .refl _
  exact ⟨site, duration, _, hrun, ⟨p, hp, hsteps⟩, hr, hf⟩

end Reliable

/-! ### A single worker -/

section Single

variable {attempt : String → m Completion}

/-- For a single worker the target waits behind the others. -/
theorem run_hand_single (n : String) (names : List String) (s : σ) :
    (e.withState (List String)).run ((single attempt).hand n) (names, s) =
      ((), names ++ [n], s) := by
  simp [single, Execution.withState, e.run_pure]

/-- A single worker for whom no target waits has nothing to tell. -/
theorem run_next_single_nil (s : σ) :
    (e.withState (List String)).run (single attempt).next? ([], s) = (none, [], s) := by
  simp [single, Execution.withState, e.run_pure, e.run_bind]

/-- A single worker builds the target that waits longest, and tells of it. -/
theorem run_next_single (n : String) (names : List String) (s : σ) :
    (e.withState (List String)).run (single attempt).next? (n :: names, s) =
      (some (e.run (attempt n) s).1, names, (e.run (attempt n) s).2) := by
  simp [single, Execution.withState, e.run_pure, e.run_bind]

/-- **A single worker is reliable.** -/
theorem reliable_single (time : m Nat) (e : Execution m σ)
    (hname : ∀ n s, (e.run (attempt n) s).1.name = n)
    (hresult : ∀ n s, (e.run (attempt n) s).1.result = result n) :
    (single attempt).Reliable (liftM time) (e.withState (List String)) result (·.1) where
  assemble s := ⟨s, (e.withState (List String)).run_pure _ s, rfl⟩
  hand n s := by
    rw [run_hand_single]
    exact List.perm_append_singleton n s.1
  idle := by
    rintro ⟨names, s⟩ rfl
    rw [run_next_single_nil]
  next s hn := by
    obtain ⟨names, s⟩ := s
    obtain ⟨n, names, rfl⟩ := List.exists_cons_of_ne_nil hn
    refine ⟨(e.run (attempt n) s).1, (names, (e.run (attempt n) s).2), run_next_single n names s,
      ?_, ?_, ?_⟩
    · rw [hname]
      exact .head _
    · rw [hname, hresult]
    · rw [hname]
      simp
  clock s := by rw [e.run_withState_lift]

end Single

end Crew

/-- The build of a plan by a single worker, where the tools give `result` and nobody looks at the
clock. -/
def Build.alone (result : String → ToolResult) (g : Graph) (plan : Plan) :
    Except BuildError BuildReport :=
  (((Execution.ofId Unit).withState (List String)).run
    (ofPlan (.single fun n => (pure { name := n, result := result n } : Id Completion))
      (liftM (0 : Id Nat)) g plan) ([], ())).1

/-- What every reliable crew comes to, a single worker comes to. -/
theorem Build.exists_alone {result : String → ToolResult} {g : Graph} {plan : Plan}
    {P : BuildReport → Prop}
    (h : ∀ {m : Type → Type} [Monad m] {σ : Type} (e : Execution m σ) (crew : Crew m) (now : m Nat)
      (inFlight : σ → List String), crew.Reliable now e result inFlight →
        ∀ s, inFlight s = [] → ∃ report s',
          e.run (ofPlan crew now g plan) s = (.ok report, s') ∧ P report) :
    ∃ report, alone result g plan = .ok report ∧ P report := by
  have hc : (Crew.single fun n => (pure { name := n, result := result n } : Id Completion)).Reliable
      (liftM (0 : Id Nat)) ((Execution.ofId Unit).withState (List String)) result (·.1) :=
    Crew.reliable_single 0 (.ofId Unit) (fun _ _ => rfl) fun _ _ => rfl
  obtain ⟨report, s', hrun, hreport⟩ := h _ _ _ _ hc ([], ()) rfl
  exact ⟨report, congrArg Prod.fst hrun, hreport⟩

end Buildwright
