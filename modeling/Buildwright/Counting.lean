/-!
# Counting

Loops that settle one item after another end because fewer and fewer items are open.
-/

namespace Buildwright

/-- Fewer items satisfy a stronger condition, if one of them satisfies only the weaker. -/
theorem countP_lt_countP {α : Type} {p q : α → Bool} {items : List α}
    (stronger : ∀ a ∈ items, p a = true → q a = true) {a : α} (member : a ∈ items)
    (weak : q a = true) (strong : p a = false) : items.countP p < items.countP q := by
  induction items with
  | nil => cases member
  | cons b items ih =>
    have tail : ∀ c ∈ items, p c = true → q c = true := fun c h => stronger c (.tail _ h)
    have head := stronger b (.head _)
    rw [List.countP_cons, List.countP_cons]
    rcases List.mem_cons.1 member with rfl | member
    · have := List.countP_mono_left tail
      simp [weak, strong]; omega
    · have := ih tail member
      cases hp : p b <;> cases hq : q b <;> simp_all
      omega

end Buildwright
