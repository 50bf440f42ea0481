/-!
# Computations that may fail

Taking apart a result that is a value or an error: what a step of a longer computation gave can be
read off what the whole gave, a loop whose rounds come to the same comes to the same, and so does
one whose rounds change places where they can.
-/

namespace Buildwright

variable {ε ε' α β : Type} {x : Except ε α}

theorem map_eq_ok_iff {f : α → β} {b : β} : x.map f = .ok b ↔ ∃ a, x = .ok a ∧ f a = b := by
  cases x with
  | error e => exact ⟨nofun, nofun⟩
  | ok a => simp [Except.map]

theorem map_eq_error_iff {f : α → β} {e : ε} : x.map f = .error e ↔ x = .error e := by
  cases x with
  | error e' => simp [Except.map]
  | ok a => exact ⟨nofun, nofun⟩

theorem mapError_eq_ok_iff {f : ε → ε'} {a : α} : x.mapError f = .ok a ↔ x = .ok a := by
  cases x with
  | error e => exact ⟨nofun, nofun⟩
  | ok b => exact ⟨fun h => congrArg _ (Except.ok.inj h), fun h => congrArg _ (Except.ok.inj h)⟩

theorem toOption_eq_some_iff {a : α} : x.toOption = some a ↔ x = .ok a := by
  cases x <;> simp [Except.toOption]

theorem bind_eq_ok_iff {f : α → Except ε β} {b : β} :
    x >>= f = .ok b ↔ ∃ a, x = .ok a ∧ f a = .ok b := by
  cases x with
  | error e => exact ⟨nofun, nofun⟩
  | ok a => simp [bind, Except.bind]

theorem bind_eq_error_iff {f : α → Except ε β} {e : ε} :
    x >>= f = .error e ↔ x = .error e ∨ ∃ a, x = .ok a ∧ f a = .error e := by
  cases x with
  | error e' => simp [bind, Except.bind]
  | ok a => simp [bind, Except.bind]

/-- A loop of checks passes exactly if each of them does. -/
theorem forM_eq_ok_iff {f : α → Except ε Unit} {l : List α} :
    l.forM f = .ok () ↔ ∀ a ∈ l, f a = .ok () := by
  induction l with
  | nil => exact iff_of_true rfl nofun
  | cons a l ih =>
    rw [List.forall_mem_cons, ← ih]
    change f a >>= (fun _ => l.forM f) = .ok () ↔ _
    rw [bind_eq_ok_iff]
    exact ⟨fun ⟨(), ha, hl⟩ => ⟨ha, hl⟩, fun ⟨ha, hl⟩ => ⟨(), ha, hl⟩⟩

/-- A loop fails at the first item that it cannot deal with. -/
theorem foldlM_eq_error_iff {f : β → α → Except ε β} {l : List α} {b : β} {e : ε} :
    l.foldlM f b = .error e ↔ ∃ before a after b', l = before ++ a :: after ∧
      before.foldlM f b = .ok b' ∧ f b' a = .error e := by
  induction l generalizing b with
  | nil => exact ⟨nofun, fun ⟨before, a, after, b', hl, _⟩ => by simp at hl⟩
  | cons a l ih =>
    rw [List.foldlM_cons, bind_eq_error_iff]
    constructor
    · rintro (ha | ⟨b₁, ha, hl⟩)
      · exact ⟨[], a, l, b, rfl, rfl, ha⟩
      · obtain ⟨before, a', after, b', rfl, hbefore, he⟩ := ih.1 hl
        exact ⟨a :: before, a', after, b', rfl, bind_eq_ok_iff.2 ⟨b₁, ha, hbefore⟩, he⟩
    · rintro ⟨before, a', after, b', hl, hbefore, he⟩
      cases before with
      | nil =>
        obtain ⟨rfl, rfl⟩ := List.cons.inj hl
        obtain rfl := Except.ok.inj hbefore
        exact .inl he
      | cons _ before =>
        obtain ⟨rfl, rfl⟩ := List.cons.inj hl
        obtain ⟨b₁, ha, hbefore⟩ := bind_eq_ok_iff.1 hbefore
        exact .inr ⟨b₁, ha, ih.2 ⟨before, a', after, b', rfl, hbefore, he⟩⟩

/-- What is done to each item of a list fails at the first item that it fails for. -/
theorem mapM_of_error {f : α → Except ε β} {before after : List α} {a : α} {e : ε}
    (hbefore : ∀ b ∈ before, ∃ y, f b = .ok y) (ha : f a = .error e) :
    (before ++ a :: after).mapM f = .error e := by
  induction before with
  | nil =>
    rw [List.nil_append, List.mapM_cons, ha]
    rfl
  | cons b before ih =>
    obtain ⟨y, hy⟩ := hbefore b (.head _)
    rw [List.cons_append, List.mapM_cons, hy, bind_eq_error_iff]
    refine .inr ⟨y, rfl, bind_eq_error_iff.2 (.inl ?_)⟩
    exact ih fun c hc => hbefore c (.tail _ hc)

/-- What is done to a value that may be missing succeeds with what it gives for the value. -/
theorem mapM_option_eq_ok_iff {f : α → Except ε β} {a? : Option α}
    {b? : Option β} : a?.mapM f = .ok b? ↔ Option.Rel (fun a b => f a = .ok b) a? b? := by
  cases a? with
  | none =>
    change Except.ok none = Except.ok b? ↔ _
    constructor
    · rintro ⟨⟩
      exact .none
    · rintro ⟨⟩
      rfl
  | some a =>
    change (f a).map some = .ok b? ↔ _
    rw [map_eq_ok_iff]
    constructor
    · rintro ⟨b, hb, rfl⟩
      exact .some hb
    · intro h
      cases h with
      | some hb => exact ⟨_, hb, rfl⟩

/-- Two loops that do the same with each item of a list do the same with the list. -/
theorem foldlM_congr {f f' : β → α → Except ε β} {l : List α}
    (h : ∀ a ∈ l, ∀ b, f b a = f' b a) (b : β) : l.foldlM f b = l.foldlM f' b := by
  induction l generalizing b with
  | nil => rfl
  | cons a l ih =>
    rw [List.foldlM_cons, List.foldlM_cons, h a (.head _)]
    exact congrArg _ (funext fun b => ih (fun a ha => h a (.tail _ ha)) b)

/-- A loop whose rounds go on from a changed state as they do from the state itself ends with the
changed end. -/
theorem foldlM_map {f : β → α → Except ε β} {change : β → β} {l : List α}
    (h : ∀ a ∈ l, ∀ b, f (change b) a = (f b a).map change) (b : β) :
    l.foldlM f (change b) = (l.foldlM f b).map change := by
  induction l generalizing b with
  | nil => rfl
  | cons a l ih =>
    rw [List.foldlM_cons, List.foldlM_cons, h a (.head _)]
    cases f b a with
    | error e => rfl
    | ok b' => exact ih (fun a ha => h a (.tail _ ha)) b'

/-- A loop comes to its end and keeps what each of its rounds keeps. -/
theorem exists_foldlM_eq_ok {f : β → α → Except ε β} {P : β → Prop} {l : List α}
    (h : ∀ a ∈ l, ∀ b, P b → ∃ b', f b a = .ok b' ∧ P b') {b : β} (hb : P b) :
    ∃ b', l.foldlM f b = .ok b' ∧ P b' := by
  induction l generalizing b with
  | nil => exact ⟨b, rfl, hb⟩
  | cons a l ih =>
    obtain ⟨b₁, hf, hb₁⟩ := h a (.head _) b hb
    obtain ⟨b', hl, hb'⟩ := ih (fun a ha => h a (.tail _ ha)) hb₁
    exact ⟨b', bind_eq_ok_iff.2 ⟨b₁, hf, hl⟩, hb'⟩

/-- A loop keeps what each of its rounds keeps. -/
theorem foldlM_keeps {f : β → α → Except ε β} {P : β → Prop} {l : List α}
    (h : ∀ a ∈ l, ∀ b b', P b → f b a = .ok b' → P b') {b b' : β} (hb : P b)
    (hl : l.foldlM f b = .ok b') : P b' := by
  induction l generalizing b with
  | nil => exact Except.ok.inj hl ▸ hb
  | cons a l ih =>
    rw [List.foldlM_cons] at hl
    obtain ⟨b₁, hfirst, hl⟩ := bind_eq_ok_iff.1 hl
    exact ih (fun a ha => h a (.tail _ ha)) (h a (.head _) b b₁ hb hfirst) hl

/-- A loop does the same in another order if any two of its rounds can change places. -/
theorem foldlM_eq_ok_iff_of_perm {f : β → α → Except ε β} {l l' : List α} (h : l.Perm l')
    (hcomm : ∀ x ∈ l, ∀ y ∈ l, ∀ b c, f b x >>= (f · y) = .ok c ↔ f b y >>= (f · x) = .ok c)
    {b c : β} : l.foldlM f b = .ok c ↔ l'.foldlM f b = .ok c := by
  induction h generalizing b with
  | nil => rfl
  | cons x _ ih =>
    simp only [List.foldlM_cons, bind_eq_ok_iff]
    have ih (b : β) := ih (fun y hy z hz => hcomm y (.tail _ hy) z (.tail _ hz)) (b := b)
    simp only [ih]
  | swap x y l =>
    have hassoc (u v : α) : (v :: u :: l).foldlM f b = .ok c ↔
        ∃ b', f b v >>= (f · u) = .ok b' ∧ l.foldlM f b' = .ok c := by
      simp only [List.foldlM_cons, ← bind_assoc, bind_eq_ok_iff]
    simp only [hassoc, hcomm y (.head _) x (.tail _ (.head _))]
  | trans h _ ih ih' =>
    exact (ih hcomm).trans (ih' fun x hx y hy => hcomm x (h.mem_iff.2 hx) y (h.mem_iff.2 hy))

end Buildwright
