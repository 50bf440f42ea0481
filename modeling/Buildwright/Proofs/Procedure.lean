import Buildwright.Host.Procedure

/-!
# Running procedures

What a host does with procedures that are put together: it runs one after the other, and the second
one meets the machine as the first one left it. What a procedure does to the machine on the way are
its deeds; those of two procedures stand one behind the other. Its history tells the deeds with what
the host answered to each. A procedure that may end with an error ends well if no deed comes before
the error (`Procedure.Ends`).
-/

namespace Buildwright

/-- Something that changes the machine: a directory is asked for, or a program is started. To look
at files or at the clock changes nothing, and neither does waiting. -/
inductive Deed where
  | createDirs (path : Path)
  | start (command : Command)
  deriving DecidableEq, Repr

/-- A deed with the answer to it: why nothing came of it, or what the program left behind if it was
waited for. -/
structure Event where
  deed : Deed
  answer : Except HostFault (Option Finished)

namespace Procedure

variable {σ α β ε ε' : Type} {host : Host σ} {s : σ}

theorem bind_assoc {γ : Type} (p : Procedure α) (f : α → Procedure β) (f' : β → Procedure γ) :
    p >>= f >>= f' = p >>= fun a => f a >>= f' := by
  change (p.bind f).bind f' = p.bind fun a => (f a).bind f'
  induction p with
  | pure a => rfl
  | isPresent path next ih => exact congrArg (isPresent path) (funext ih)
  | readFile path next ih => exact congrArg (readFile path) (funext ih)
  | createDirs path next ih => exact congrArg (createDirs path) (funext ih)
  | start command next ih => exact congrArg (start command) (funext ih)
  | begin command next ih => exact congrArg (begin command) (funext ih)
  | await next ih => exact congrArg await (funext ih)
  | employ workers next ih => exact congrArg (employ workers) (funext ih)
  | clock next ih => exact congrArg clock (funext ih)

/-- A host runs one procedure after the other. -/
@[simp]
theorem runOn_bind (host : Host σ) (p : Procedure α) (f : α → Procedure β) (s : σ) :
    (p >>= f).runOn host s = (f (p.runOn host s).1).runOn host (p.runOn host s).2 := by
  change (p.bind f).runOn host s = _
  induction p generalizing s with
  | pure a => rfl
  | isPresent path next ih => exact ih _ _
  | readFile path next ih => exact ih _ _
  | createDirs path next ih => exact ih _ _
  | start command next ih => exact ih _ _
  | begin command next ih => exact ih _ _
  | await next ih => exact ih _ _
  | employ workers next ih => exact ih _ _
  | clock next ih => exact ih _ _

@[simp]
theorem runOn_pure (host : Host σ) (a : α) (s : σ) :
    (Pure.pure a : Procedure α).runOn host s = (a, s) := rfl

@[simp]
theorem runOn_map (host : Host σ) (f : α → β) (p : Procedure α) (s : σ) :
    (f <$> p).runOn host s = (f (p.runOn host s).1, (p.runOn host s).2) :=
  runOn_bind host p (fun a => Pure.pure (f a)) s

/-! ### Deeds -/

/-- What a procedure does on a host, in order, whether or not it succeeds. -/
def deeds (host : Host σ) : Procedure α → σ → List Deed
  | .pure _, _ => []
  | .isPresent path next, s => let (answer, s) := host.isPresent path s; (next answer).deeds host s
  | .readFile path next, s => let (answer, s) := host.readFile path s; (next answer).deeds host s
  | .createDirs path next, s =>
    let (answer, s) := host.createDirs path s
    .createDirs path :: (next answer).deeds host s
  | .start command next, s =>
    let (answer, s) := host.start command s
    .start command :: (next answer).deeds host s
  | .begin command next, s =>
    let (answer, s) := host.begin command s
    .start command :: (next answer).deeds host s
  | .await next, s => let (answer, s) := host.await s; (next answer).deeds host s
  | .employ workers next, s => let (answer, s) := host.employ workers s; (next answer).deeds host s
  | .clock next, s => let (answer, s) := host.clock s; (next answer).deeds host s

@[simp]
theorem deeds_pure (host : Host σ) (a : α) (s : σ) :
    (Pure.pure a : Procedure α).deeds host s = [] := rfl

/-- The deeds of two procedures stand one behind the other. -/
@[simp]
theorem deeds_bind (host : Host σ) (p : Procedure α) (f : α → Procedure β) (s : σ) :
    (p >>= f).deeds host s =
      p.deeds host s ++ (f (p.runOn host s).1).deeds host (p.runOn host s).2 := by
  change (p.bind f).deeds host s = _
  induction p generalizing s with
  | pure a => rfl
  | isPresent path next ih => exact ih _ _
  | readFile path next ih => exact ih _ _
  | createDirs path next ih => exact congrArg (_ :: ·) (ih _ _)
  | start command next ih => exact congrArg (_ :: ·) (ih _ _)
  | begin command next ih => exact congrArg (_ :: ·) (ih _ _)
  | await next ih => exact ih _ _
  | employ workers next ih => exact ih _ _
  | clock next ih => exact ih _ _

/-! ### Histories -/

/-- What a procedure does on a host, with the answers, in order. -/
def history (host : Host σ) : Procedure α → σ → List Event
  | .pure _, _ => []
  | .isPresent path next, s =>
    let (answer, s) := host.isPresent path s
    (next answer).history host s
  | .readFile path next, s => let (answer, s) := host.readFile path s; (next answer).history host s
  | .createDirs path next, s =>
    let (answer, s) := host.createDirs path s
    { deed := .createDirs path, answer := answer.map fun _ => none } :: (next answer).history host s
  | .start command next, s =>
    let (answer, s) := host.start command s
    { deed := .start command, answer := answer.map some } :: (next answer).history host s
  | .begin command next, s =>
    let (answer, s) := host.begin command s
    { deed := .start command, answer := answer.map fun _ => none } :: (next answer).history host s
  | .await next, s => let (answer, s) := host.await s; (next answer).history host s
  | .employ workers next, s =>
    let (answer, s) := host.employ workers s
    (next answer).history host s
  | .clock next, s => let (answer, s) := host.clock s; (next answer).history host s

@[simp]
theorem history_pure (host : Host σ) (a : α) (s : σ) :
    (Pure.pure a : Procedure α).history host s = [] := rfl

/-- The histories of two procedures stand one behind the other. -/
@[simp]
theorem history_bind (host : Host σ) (p : Procedure α) (f : α → Procedure β) (s : σ) :
    (p >>= f).history host s =
      p.history host s ++ (f (p.runOn host s).1).history host (p.runOn host s).2 := by
  change (p.bind f).history host s = _
  induction p generalizing s with
  | pure a => rfl
  | isPresent path next ih => exact ih _ _
  | readFile path next ih => exact ih _ _
  | createDirs path next ih => exact congrArg (_ :: ·) (ih _ _)
  | start command next ih => exact congrArg (_ :: ·) (ih _ _)
  | begin command next ih => exact congrArg (_ :: ·) (ih _ _)
  | await next ih => exact ih _ _
  | employ workers next ih => exact ih _ _
  | clock next ih => exact ih _ _

/-- A history tells every deed. -/
theorem map_deed_history (host : Host σ) (p : Procedure α) (s : σ) :
    (p.history host s).map (·.deed) = p.deeds host s := by
  induction p generalizing s with
  | pure a => rfl
  | isPresent path next ih => exact ih _ _
  | readFile path next ih => exact ih _ _
  | createDirs path next ih => exact congrArg (_ :: ·) (ih _ _)
  | start command next ih => exact congrArg (_ :: ·) (ih _ _)
  | begin command next ih => exact congrArg (_ :: ·) (ih _ _)
  | await next ih => exact ih _ _
  | employ workers next ih => exact ih _ _
  | clock next ih => exact ih _ _

/-! ### Errors at the beginning -/

/-- `p.Ends host s good`: the procedure ends with an error before it has done anything, or with a
good value. -/
def Ends (p : Procedure (Except ε α)) (host : Host σ) (s : σ) (good : α → Prop) : Prop :=
  (∃ e, (p.runOn host s).1 = .error e ∧ p.deeds host s = []) ∨
    ∃ a, (p.runOn host s).1 = .ok a ∧ good a

namespace Ends

variable {p : Procedure (Except ε α)} {good : α → Prop} {good' : β → Prop}

theorem error (e : ε) : Ends (Pure.pure (.error e)) host s good := .inl ⟨e, rfl, rfl⟩

/-- A procedure that ends well is followed by one that passes errors on, and that succeeds behind a
good value. -/
theorem bind {f : Except ε α → Procedure (Except ε' β)} (h : p.Ends host s good)
    (herror : ∀ e, ∃ e', f (.error e) = Pure.pure (.error e'))
    (hok : ∀ a s, good a → ∃ b, ((f (.ok a)).runOn host s).1 = .ok b ∧ good' b) :
    (p >>= f).Ends host s good' := by
  rcases h with ⟨e, he, hdeeds⟩ | ⟨a, ha, hgood⟩
  · obtain ⟨e', he'⟩ := herror e
    exact .inl ⟨e', by simp [he, he'], by simp [he, he', hdeeds]⟩
  · obtain ⟨b, hb, hgood'⟩ := hok a (p.runOn host s).2 hgood
    exact .inr ⟨b, by simpa [ha] using hb, hgood'⟩

/-- Behind a procedure that ends well, its value may be made into another one. -/
theorem map (h : p.Ends host s good) (f : α → β) :
    (do return (← p).map f : Procedure (Except ε β)).Ends host s fun b =>
      ∃ a, (p.runOn host s).1 = .ok a ∧ good a ∧ b = f a := by
  rcases h with ⟨e, he, hdeeds⟩ | ⟨a, ha, hgood⟩
  · exact .inl ⟨e, by simp [he, Except.map], by simp [hdeeds]⟩
  · exact .inr ⟨f a, by simp [ha, Except.map], a, ha, hgood, rfl⟩

end Ends

end Procedure

end Buildwright
