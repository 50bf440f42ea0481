import Buildwright.BuildError
import Buildwright.Target.Basic
import Std.Data.TreeMap

/-!
# Catalogs

The declared targets in the order of their declaration, with an index from names to positions. The
type of a catalog holds what every declaration keeps: the index finds exactly the declared names,
so that no name is declared twice, and no target has a defect. A catalog is changed by edits
(`Catalog.Edit`), which check and write in turn and may fail on the way.
-/

namespace Buildwright

/-- Checks that a target has no defect. -/
def Target.check (t : Target) : Except BuildError Unit :=
  match t.defect? with
  | some defect => .error (.invalidTarget t.name t.kind.name defect.message)
  | none => .ok ()

/-- Declared targets under distinct names. -/
structure Catalog where
  targets : Array Target := #[]
  /-- Where the target with a given name stands. -/
  positions : Std.TreeMap String Nat := ∅
  /-- The index finds exactly the names of the targets. -/
  positions_iff : ∀ (name : String) (i : Nat),
    positions[name]? = some i ↔ targets[i]?.map (fun t : Target => t.name) = some name := by simp
  /-- Every target can be built. -/
  defect?_eq_none : ∀ t ∈ targets, t.defect? = none := by simp

namespace Catalog

instance : Inhabited Catalog := ⟨{}⟩

/-- Whether a name is declared. -/
def contains (c : Catalog) (name : String) : Bool := c.positions.contains name

/-- The position of a name in the order of declaration. -/
def position? (c : Catalog) (name : String) : Option Nat := c.positions[name]?

/-- The target with a given name. -/
def get? (c : Catalog) (name : String) : Option Target :=
  (c.position? name).bind fun i => c.targets[i]?

/-- The declared names in order. -/
def names (c : Catalog) : List String := c.targets.toList.map (·.name)

/-! ### Looking up -/

theorem contains_iff_position? {c : Catalog} {name : String} :
    c.contains name = true ↔ ∃ i, c.position? name = some i := by
  rw [contains, Std.TreeMap.contains_eq_isSome_getElem?, Option.isSome_iff_exists]
  rfl

/-- A name leads to the target that has it. -/
theorem get?_eq_some_iff {c : Catalog} {name : String} {t : Target} :
    c.get? name = some t ↔ t ∈ c.targets ∧ t.name = name := by
  constructor
  · intro h
    obtain ⟨i, position, found⟩ := Option.bind_eq_some_iff.1 h
    have := (c.positions_iff name i).1 position
    rw [found] at this
    exact ⟨Array.mem_of_getElem? found, Option.some.inj this⟩
  · rintro ⟨member, rfl⟩
    obtain ⟨i, found⟩ := Array.mem_iff_getElem?.1 member
    have := (c.positions_iff t.name i).2 (by rw [found]; rfl)
    exact Option.bind_eq_some_iff.2 ⟨i, this, found⟩

/-- A name is declared exactly if a target has it. -/
theorem contains_iff_exists {c : Catalog} {name : String} :
    c.contains name = true ↔ ∃ t ∈ c.targets, t.name = name := by
  rw [contains_iff_position?]
  constructor
  · rintro ⟨i, position⟩
    obtain ⟨t, found, named⟩ := Option.map_eq_some_iff.1 ((c.positions_iff name i).1 position)
    exact ⟨t, Array.mem_of_getElem? found, named⟩
  · rintro ⟨t, member, rfl⟩
    obtain ⟨i, found⟩ := Array.mem_iff_getElem?.1 member
    exact ⟨i, (c.positions_iff _ i).2 (by rw [found]; rfl)⟩

theorem contains_iff_get? {c : Catalog} {name : String} :
    c.contains name = true ↔ ∃ t, c.get? name = some t := by
  simp only [contains_iff_exists, get?_eq_some_iff]

/-! ### Declaring -/

/-- The catalog with one more target, which has no defect and a name that is still free. -/
def push (c : Catalog) (t : Target) (sound : t.defect? = none) (free : c.contains t.name = false) :
    Catalog where
  targets := c.targets.push t
  positions := c.positions.insert t.name c.targets.size
  positions_iff name i := by
    have absent : ∀ j : Nat, c.targets[j]?.map (fun t : Target => t.name) ≠ some t.name := by
      intro j taken
      have := contains_iff_position?.2 ⟨j, (c.positions_iff t.name j).2 taken⟩
      simp [free] at this
    simp only [Std.TreeMap.getElem?_insert, Std.compare_eq_iff_eq, Array.getElem?_push]
    split
    · next same =>
      subst same
      split
      · next last => simp [last]
      · next other =>
        exact ⟨fun h => absurd (Option.some.inj h).symm other, fun h => absurd h (absent i)⟩
    · next distinct =>
      split
      · next last =>
        subst last
        have past : c.targets[c.targets.size]? = none := by simp
        rw [c.positions_iff, past]
        simp [distinct]
      · exact c.positions_iff name i
  defect?_eq_none u member := by
    rcases Array.mem_push.1 member with member | rfl
    · exact c.defect?_eq_none u member
    · exact sound

/-- The target with a given name, or the error that there is none. -/
def find (c : Catalog) (name : String) : Except BuildError Target :=
  match c.get? name with
  | some t => .ok t
  | none => .error (.unknownTarget name none)

/-! ### Edits -/

/-- A computation on a catalog that may fail. What was written before it failed stays written. -/
abbrev Edit := EStateM BuildError Catalog

namespace Edit

/-- What an edit makes of a catalog, where nobody looks at a catalog that was left behind by an edit
that failed. -/
def result {α : Type} (edit : Edit α) (c : Catalog) : Except BuildError (Catalog × α) :=
  match edit.run c with
  | .ok a c => .ok (c, a)
  | .error e _ => .error e

/-- Declares a target. One with a defect is refused before a name that is taken. -/
def declare (t : Target) : Edit Unit := do
  match sound : t.defect? with
  | some defect => throw (.invalidTarget t.name t.kind.name defect.message)
  | none =>
    let c ← get
    if taken : c.contains t.name then throw (.duplicateName t.name)
    else set (c.push t sound (Bool.not_eq_true _ ▸ taken))

end Edit

/-- The catalog with one more target, if that can be declared. -/
def declare (c : Catalog) (t : Target) : Except BuildError Catalog :=
  ((Edit.declare t).result c).map (·.1)

/-- Declares the targets of a manifest in order. -/
def ofManifest (m : Manifest) : Except BuildError Catalog :=
  m.targets.foldlM (fun c d => c.declare (.ofDeclaration d)) {}

/-! ### The harness -/

/-- The catalog with a harness behind the dependencies of one target, if that is a test that lacks
it. -/
def withHarnessAt (c : Catalog) (harness : String) (i : Nat) : Catalog where
  targets := c.targets.modify i (·.withHarness harness)
  positions := c.positions
  positions_iff name j := by
    rw [c.positions_iff, Array.getElem?_modify]
    split
    · rw [Option.map_map]
      simp [Function.comp_def]
    · rfl
  defect?_eq_none u member := by
    obtain ⟨j, found⟩ := Array.mem_iff_getElem?.1 member
    rw [Array.getElem?_modify] at found
    split at found
    · obtain ⟨t, declared, rfl⟩ := Option.map_eq_some_iff.1 found
      rw [Target.defect?_withHarness]
      exact c.defect?_eq_none t (Array.mem_of_getElem? declared)
    · exact c.defect?_eq_none u (Array.mem_of_getElem? found)

namespace Edit

/-- Makes the tests among the first `n` targets depend on a harness, one after the other, and tells
how many dependencies that added. -/
def addHarnessUpTo (harness : String) : (n : Nat) → Edit Nat
  | 0 => return 0
  | n + 1 => do
    let added ← addHarnessUpTo harness n
    let c ← get
    if c.targets[n]?.any (·.lacksHarness harness) then
      set (c.withHarnessAt harness n)
      return added + 1
    return added

/-- Makes every test depend on a harness, which must be declared, and tells how many dependencies
that added. -/
def addHarness (harness : String) : Edit Nat := do
  let c ← get
  if c.contains harness then addHarnessUpTo harness c.targets.size
  else throw (.missingHarness harness)

end Edit

/-- The catalog with a harness for every test, and how many dependencies that added. -/
def addHarness (c : Catalog) (harness : String) : Except BuildError (Catalog × Nat) :=
  (Edit.addHarness harness).result c

/-! ### References -/

/-- The first dependency that is not declared, with the target that has it. -/
def danglingReference? (c : Catalog) : Option (String × String) :=
  c.targets.toList.findSome? fun t => (t.deps.find? (!c.contains ·)).map (·, t.name)

/-- Whether every dependency is declared. -/
def IsClosed (c : Catalog) : Prop := ∀ t ∈ c.targets, ∀ dep ∈ t.deps, c.contains dep = true

/-- A catalog without a dangling reference is closed. -/
theorem danglingReference?_eq_none_iff {c : Catalog} :
    c.danglingReference? = none ↔ c.IsClosed := by
  simp [danglingReference?, IsClosed]

/-- Checks that every dependency is declared. -/
def checkReferences (c : Catalog) : Except BuildError Unit :=
  match c.danglingReference? with
  | some (dep, referrer) => .error (.unknownTarget dep (some referrer))
  | none => .ok ()

end Catalog

end Buildwright
