/-!
# Readers

A reader takes something from the front of a text and leaves a shorter text. That every success
makes progress is part of its type, so that repetition ends, and the combinators below build
larger readers without another word about termination. A reader that fails leaves no trace.
-/

namespace Buildwright.Text

/-- What is left of a text after something was read from it. -/
abbrev Rest (cs : List Char) := { rest : List Char // rest.length < cs.length }

/-- What is left of a text after something was perhaps skipped. -/
abbrev Tail (cs : List Char) := { rest : List Char // rest.length ≤ cs.length }

/-- Takes an `α` from the front of a text, or fails. -/
def Reader (α : Type) := (cs : List Char) → Option (α × Rest cs)

/-- Passes over the front of a text, perhaps over nothing. -/
def Skipper := (cs : List Char) → Tail cs

namespace Reader

variable {α β γ : Type}

/-- Reads a character that satisfies `p`. -/
def satisfy (p : Char → Bool) : Reader Char
  | [] => none
  | c :: cs => if p c then some (c, ⟨cs, Nat.lt_succ_self _⟩) else none

/-- Reads the character `c`. -/
def char (c : Char) : Reader Char := satisfy (· = c)

/-- Always fails. -/
def fail : Reader α := fun _ => none

/-- Applies `f` to what was read, and fails where it gives nothing. -/
def filterMap (f : α → Option β) (p : Reader α) : Reader β := fun cs =>
  (p cs).bind fun (a, rest) => (f a).map (·, rest)

/-- Applies `f` to what was read. -/
def map (f : α → β) (p : Reader α) : Reader β := filterMap (fun a => some (f a)) p

/-- Reads with `p`, then with the reader that its result selects. -/
def bind (p : Reader α) (q : α → Reader β) : Reader β := fun cs =>
  (p cs).bind fun (a, ⟨rest, h⟩) =>
    (q a rest).map fun (b, ⟨rest', h'⟩) => (b, ⟨rest', Nat.lt_trans h' h⟩)

/-- Reads with `p` and, where that fails, with `q`. -/
def orElse (p q : Reader α) : Reader α := fun cs => (p cs).or (q cs)

/-- Reads with the reader that the text itself selects. -/
def byFront (choose : List Char → Reader α) : Reader α := fun cs => choose cs cs

/-- Reads with `q` behind `p` and keeps what `q` read. -/
def andThen (p : Reader α) (q : Reader β) : Reader β := p.bind fun _ => q

/-- Reads with `p` only where the text after it satisfies `ok`. -/
def ifRest (ok : List Char → Bool) (p : Reader α) : Reader α := fun cs =>
  (p cs).filter fun (_, rest) => ok rest.1

/-- Reads with `p` behind what `skip` passes over. -/
def skipBefore (skip : Skipper) (p : Reader α) : Reader α := fun cs =>
  let ⟨rest, h⟩ := skip cs
  (p rest).map fun (a, ⟨rest', h'⟩) => (a, ⟨rest', Nat.lt_of_lt_of_le h' h⟩)

/-- Passes over what `skip` does after reading with `p`. -/
def skipAfter (skip : Skipper) (p : Reader α) : Reader α := fun cs =>
  (p cs).map fun (a, ⟨rest, h⟩) =>
    let ⟨rest', h'⟩ := skip rest
    (a, ⟨rest', Nat.lt_of_le_of_lt h' h⟩)

/-! ### Repetition -/

/-- Reads with `p` as often as it succeeds. -/
def many (p : Reader α) (cs : List Char) : List α × Tail cs :=
  match p cs with
  | none => ([], ⟨cs, Nat.le_refl _⟩)
  | some (a, ⟨rest, h⟩) =>
    let (as, ⟨rest', h'⟩) := many p rest
    (a :: as, ⟨rest', Nat.le_of_lt (Nat.lt_of_le_of_lt h' h)⟩)
  termination_by cs.length

/-- Passes over everything that `p` can read one after another. -/
def skipMany (p : Reader α) : Skipper := fun cs => (many p cs).2

/-- Reads with `p` as often as it succeeds, then with the reader that the results select. -/
def manyThen (p : Reader α) (q : List α → Reader β) : Reader β := fun cs =>
  let (as, ⟨rest, h⟩) := many p cs
  (q as rest).map fun (b, ⟨rest', h'⟩) => (b, ⟨rest', Nat.lt_of_lt_of_le h' h⟩)

/-- Reads with `p`, then with `q` as often as it succeeds. -/
def thenMany (p : Reader α) (q : Reader β) : Reader (α × List β) := fun cs =>
  (p cs).map fun (a, ⟨rest, h⟩) =>
    let (bs, ⟨rest', h'⟩) := many q rest
    ((a, bs), ⟨rest', Nat.lt_of_le_of_lt h' h⟩)

/-- Reads with `p` at least once. -/
def many1 (p : Reader α) : Reader (List α) := (thenMany p p).map fun (a, as) => a :: as

/-- Reads with `p` a given number of times, at least once. -/
def exactly (p : Reader α) : (count : Nat) → Reader (List α)
  | 0 => fail
  | 1 => p.map ([·])
  | count + 1 => p.bind fun a => (exactly p count).map (a :: ·)

/-- Reads one or more items with separators between them. -/
def sepBy1 (item : Reader α) (separator : Reader β) : Reader (List α) :=
  (thenMany item (separator.andThen item)).map fun (a, as) => a :: as

/-- Reads with `p` if it succeeds, then with the reader that the result selects. -/
def optionalThen (p : Reader α) (q : Option α → Reader β) : Reader β := fun cs =>
  match p cs with
  | none => q none cs
  | some (a, ⟨rest, h⟩) =>
    (q (some a) rest).map fun (b, ⟨rest', h'⟩) => (b, ⟨rest', Nat.lt_trans h' h⟩)

/-- Reads the whole of a text: nothing may be left. -/
def all? (p : Reader α) (cs : List Char) : Option α :=
  (p cs).bind fun (a, rest) => if rest.1 = [] then some a else none

end Reader

end Buildwright.Text
