import Buildwright.Project
import Buildwright.Proofs.Fallible
import Buildwright.Proofs.Place
import Buildwright.Proofs.Procedure
import Mathlib.Data.List.Infix

/-!
# The search for a manifest

Without a manifest on the command line the program looks for one from a directory upwards. The
directories in question are known beforehand (`Path.upwards`): the one where the search starts, its
parent, the parent of that, and so on. There are no more of them than the path has characters, and
one, so that the search comes to an end; they lead to the places that are left when one step after
the other is dropped (`Path.map_place_upwards`).

The first of these directories in which the file is there settles the search, whether or not the
file turns out to be a manifest (`Project.search_uses_nearest`). What a host is asked is told by the
states that it goes through: a host may remember every request in its state, and the state in which
the search leaves it is the one behind the requests that are named here and no others.
-/

namespace Buildwright

/-! ### Directories from one upwards -/

namespace Path

variable {p q : Path}

/-- A directory and those above it, as far as the text of the path leads. -/
def upwards (p : Path) : List Path :=
  p :: match _h : p.parent? with
    | some above => above.upwards
    | none => []
  termination_by p.chars.length
  decreasing_by exact length_parent?_lt _h

theorem upwards_of_parent? (h : p.parent? = some q) : p.upwards = p :: q.upwards := by
  rw [upwards]
  split
  · next above habove =>
    obtain rfl := Option.some.inj (habove.symm.trans h)
    rfl
  · next hnone => simp [hnone] at h

theorem upwards_of_parent?_eq_none (h : p.parent? = none) : p.upwards = [p] := by
  rw [upwards]
  split
  · next above habove => simp [habove] at h
  · rfl

/-- There are no more directories upwards than a path has characters, and one. -/
theorem length_upwards_le (p : Path) : p.upwards.length ≤ p.chars.length + 1 := by
  induction p using upwards.induct with
  | case1 p ih =>
    cases h : p.parent? with
    | none => simp [upwards_of_parent?_eq_none h]
    | some above =>
      have hless := length_parent?_lt h
      have habove := ih above h
      rw [upwards_of_parent? h, List.length_cons]
      omega

/-- A path with a parent and no steps is a `.`, and the empty path stands above it. -/
theorem parent?_of_steps_eq_nil (h : p.parent? = some q) (hs : p.place.steps = []) :
    p.isAbsolute = false ∧ q = ofChars [] := by
  have hself := place_ofChars_start p.chars List.prefix_rfl
  rw [List.take_append_drop, ofChars_chars] at hself
  rcases parent?_cases h with ⟨kept, gap, last, trail, hsplit, -, hlast, -, -⟩ | ⟨-, hdot, hq⟩
  · -- a component that leads somewhere is a step
    have hmem : last ∈ p.place.steps := by
      rw [hself]
      exact List.mem_filter.2 ⟨hsplit ▸ by simp, by simp [hlast]⟩
    simp [hs] at hmem
  · exact ⟨by simp [isAbsolute_eq, hdot], hq⟩

/-- **Where the directories upwards lead**: to the beginnings of the path, the longest one first. A
relative path that begins with a `.` comes to the place where its reader stands a second time. -/
theorem map_place_upwards (p : Path) : ∃ again,
    p.upwards.map place = p.place.steps.inits.reverse.map (Place.mk p.isAbsolute) ++ again ∧
      (again = [] ∨ p.isAbsolute = false ∧ again = [Place.here]) := by
  induction p using upwards.induct with
  | case1 p ih =>
    cases h : p.parent? with
    | none =>
      refine ⟨[], ?_, .inl rfl⟩
      rw [upwards_of_parent?_eq_none h, steps_of_parent?_eq_none h]
      simp [place, show stepsOf p.chars = [] from steps_of_parent?_eq_none h]
    | some above =>
      have hplace := place_parent? h
      rw [upwards_of_parent? h, List.map_cons]
      by_cases hs : p.place.steps = []
      · obtain ⟨hrelative, rfl⟩ := parent?_of_steps_eq_nil h hs
        refine ⟨[Place.here], ?_, .inr ⟨hrelative, rfl⟩⟩
        rw [upwards_of_parent?_eq_none (by decide), hs]
        simp [place, hrelative, show stepsOf p.chars = [] from hs, isAbsolute_eq, Place.here]
      · obtain ⟨again, hagain, hcases⟩ := ih above h
        have habsolute : above.isAbsolute = p.isAbsolute := congrArg Place.rooted hplace
        rw [habsolute] at hagain hcases
        refine ⟨again, ?_, hcases⟩
        have hinits := List.inits_append p.place.steps.dropLast [p.place.steps.getLast hs]
        rw [List.dropLast_append_getLast] at hinits
        rw [hagain, hplace, hinits]
        simp [List.dropLast_append_getLast hs]
        rfl

end Path

/-! ### Reading a manifest -/

namespace Manifest

/-- The manifest in a file, from the answer to the request to read it. -/
def ofRead (file : Path) : Except HostFault Text.Bytes → Except ManifestError Manifest
  | .error .notFound => .error (.notFound file)
  | .error fault => .error (.unreadable fault)
  | .ok bytes =>
    match Text.text? bytes with
    | none => .error (.unreadable .notText)
    | some text => ofText text file

/-- A file is read once, and the answer settles which manifest it is. -/
theorem load_eq (file : Path) :
    load file = .readFile file fun answer => .pure (ofRead file answer) := by
  rw [load]
  congr
  funext answer
  cases answer with
  | error fault => cases fault <;> rfl
  | ok bytes =>
    dsimp only [ofRead]
    cases Text.text? bytes <;> rfl

/-- A manifest in a file is one that its text was accepted as. -/
theorem exists_ofText_of_ofRead {file : Path} {m : Manifest} {answer : Except HostFault Text.Bytes}
    (h : ofRead file answer = .ok m) : ∃ text, ofText text file = .ok m := by
  unfold ofRead at h
  split at h
  · cases h
  · cases h
  · split at h
    · cases h
    · exact ⟨_, h⟩

end Manifest

/-! ### The search -/

namespace Project

variable {σ : Type} {host : Host σ}

/-- `Passes host dirs s s'`: there is no manifest in any of the directories, and a host that is
asked about one after the other in the state `s` is left in the state `s'`. -/
inductive Passes (host : Host σ) : List Path → σ → σ → Prop
  | nil {s : σ} : Passes host [] s s
  | cons {dir : Path} {dirs : List Path} {s s₁ s' : σ}
      (absent : host.isPresent (dir.join ⟨Manifest.fileName⟩) s = (false, s₁))
      (further : Passes host dirs s₁ s') : Passes host (dir :: dirs) s s'

/-- `Takes host dir s result`: there is a file for a manifest in the directory. It is read, and what
it says is the project of the directory or the error. -/
def Takes (host : Host σ) (dir : Path) (s : σ) (result : Except ManifestError Project × σ) : Prop :=
  ∃ s₁ answer s₂, host.isPresent (dir.join ⟨Manifest.fileName⟩) s = (true, s₁) ∧
    host.readFile (dir.join ⟨Manifest.fileName⟩) s₁ = (answer, s₂) ∧
    result = ((Manifest.ofRead (dir.join ⟨Manifest.fileName⟩) answer).map
      fun manifest => { manifest, root? := some dir }, s₂)

/-- A search passes by directories until it takes the file in one of them, or until there is no
other one. -/
theorem search_cases (host : Host σ) (dir : Path) (s : σ) : ∃ passed rest s',
    dir.upwards = passed ++ rest ∧ Passes host passed s s' ∧
      ((rest = [] ∧
          (search dir).runOn host s = (.ok { manifest := {}, root? := none }, s')) ∨
        ∃ d above, rest = d :: above ∧ Takes host d s' ((search dir).runOn host s)) := by
  induction dir using search.induct generalizing s with
  | case1 dir ih =>
    rw [search, Procedure.runOn]
    cases hasked : host.isPresent (dir.join ⟨Manifest.fileName⟩) s with
    | mk present s₁ =>
      cases present with
      | true =>
        refine ⟨[], dir.upwards, s, rfl, .nil, .inr ?_⟩
        rw [Path.upwards]
        refine ⟨_, _, rfl, s₁, _, _, hasked, rfl, ?_⟩
        dsimp only
        rw [Procedure.runOn_bind, Manifest.load_eq]
        rfl
      | false =>
        dsimp only
        split
        · next above habove =>
          obtain ⟨passed, rest, s', hdirs, hpasses, hend⟩ := ih above habove s₁
          refine ⟨dir :: passed, rest, s', ?_, .cons hasked hpasses, hend⟩
          rw [Path.upwards_of_parent? habove, hdirs, List.cons_append]
        · next hnone =>
          refine ⟨[dir], [], s₁, ?_, .cons hasked .nil, .inl ⟨rfl, rfl⟩⟩
          rw [Path.upwards_of_parent?_eq_none hnone, List.append_nil]

/-- **A search uses the nearest manifest.** From a directory it goes through the ones above, of
which there are no more than the path has characters: they lead to where the path leads without its
last steps. It passes by those in which the file for a manifest is not there. The first one in
which it is there settles the search. Its file is read, and nothing is asked any more: the project
belongs to this directory, or the fault of the file is the error. If the file is in none of them,
the project is empty and belongs to no directory. -/
theorem search_uses_nearest (host : Host σ) (dir : Path) (s : σ) :
    dir.upwards.length ≤ dir.chars.length + 1 ∧
    (∃ again, dir.upwards.map Path.place =
        dir.place.steps.inits.reverse.map (Place.mk dir.isAbsolute) ++ again ∧
      (again = [] ∨ dir.isAbsolute = false ∧ again = [Place.here])) ∧
    ((Passes host dir.upwards s ((search dir).runOn host s).2 ∧
        ((search dir).runOn host s).1 = .ok { manifest := {}, root? := none }) ∨
      ∃ passed nearest above s', dir.upwards = passed ++ nearest :: above ∧
        Passes host passed s s' ∧ Takes host nearest s' ((search dir).runOn host s)) := by
  refine ⟨Path.length_upwards_le dir, Path.map_place_upwards dir, ?_⟩
  obtain ⟨passed, rest, s', hdirs, hpasses, ⟨rfl, hrun⟩ | ⟨nearest, above, rfl, htakes⟩⟩ :=
    search_cases host dir s
  · rw [List.append_nil] at hdirs
    rw [hrun, hdirs]
    exact .inl ⟨hpasses, rfl⟩
  · exact .inr ⟨passed, nearest, above, s', hdirs, hpasses, htakes⟩

end Project

end Buildwright
