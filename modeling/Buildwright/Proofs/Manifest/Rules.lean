import Buildwright.Manifest.Rules
import Buildwright.Proofs.Fallible
import Buildwright.Proofs.Place
import Mathlib.Data.List.Nodup

/-!
# Which manifests are valid

The rules of a manifest, said without the order in which they are checked (`Manifest.IsValid`), and
the first of them that a manifest breaks (`Manifest.FirstBreaks`). A version is a word of the
grammar

    D+ '.' D+ [ '.' D+ ] [ ('-' | '+') any characters ]

with decimal digits `D` (`Version.IsWord`). It is checked without a grammar, by cutting a text first
at a sign and then at its dots; that both come to the same is `isVersion_iff`. The lint filters are
gone through from front to back, where two rules may be broken at each place; which one is reported
is `filterViolation?_eq_some_iff`.
-/

namespace Buildwright

/-- A sign: what a lint filter and the suffix of a version begin with. -/
def IsSign (c : Char) : Prop := c = '-' ∨ c = '+'

instance : DecidablePred IsSign := fun _ => inferInstanceAs (Decidable (_ ∨ _))

/-! ### Versions -/

namespace Version

/-- `D+`. -/
structure IsNumber (cs : List Char) : Prop where
  ne_nil : cs ≠ []
  digit : ∀ c ∈ cs, '0' ≤ c ∧ c ≤ '9'

/-- `D+ '.' D+ [ '.' D+ ]`. -/
inductive IsRelease : List Char → Prop where
  | two {major minor : List Char} : IsNumber major → IsNumber minor →
      IsRelease (major ++ '.' :: minor)
  | three {major minor patch : List Char} : IsNumber major → IsNumber minor → IsNumber patch →
      IsRelease (major ++ '.' :: (minor ++ '.' :: patch))

/-- `[ ('-' | '+') any characters ]`. -/
inductive IsSuffix : List Char → Prop where
  | none : IsSuffix []
  | some {sign : Char} {rest : List Char} : IsSign sign → IsSuffix (sign :: rest)

/-- A word of the grammar of versions. -/
def IsWord (cs : List Char) : Prop :=
  ∃ release suffix, cs = release ++ suffix ∧ IsRelease release ∧ IsSuffix suffix

variable {cs : List Char}

theorem isNumber_iff : IsNumber cs ↔ (cs ≠ [] && cs.all Char.isDigit) = true := by
  have hdigit (c : Char) : c.isDigit = true ↔ '0' ≤ c ∧ c ≤ '9' := by
    simp [Char.isDigit, Char.le_def]
  simp only [Bool.and_eq_true, decide_eq_true_eq, List.all_eq_true, hdigit]
  exact ⟨fun h => ⟨h.ne_nil, h.digit⟩, fun h => ⟨h.1, h.2⟩⟩

theorem IsNumber.dot_not_mem (h : IsNumber cs) : '.' ∉ cs := by
  intro hc
  have := (h.digit _ hc).1
  exact absurd this (by decide)

theorem IsNumber.not_isSign (h : IsNumber cs) {c : Char} (hc : c ∈ cs) : ¬ IsSign c := by
  have hd := (h.digit c hc).1
  rintro (rfl | rfl) <;> exact absurd hd (by decide)

/-- A release has two or three parts between its dots, and each of them is a number. -/
theorem isRelease_iff : IsRelease cs ↔
    ((Text.split '.' cs).length = 2 ∨ (Text.split '.' cs).length = 3) ∧
      ∀ part ∈ Text.split '.' cs, IsNumber part := by
  constructor
  · intro h
    cases h with
    | two ha hb =>
      rw [Text.split_append_cons, Text.split_of_not_mem ha.dot_not_mem,
        Text.split_of_not_mem hb.dot_not_mem]
      simp [ha, hb]
    | three ha hb hc =>
      rw [Text.split_append_cons, Text.split_append_cons, Text.split_of_not_mem ha.dot_not_mem,
        Text.split_of_not_mem hb.dot_not_mem, Text.split_of_not_mem hc.dot_not_mem]
      simp [ha, hb, hc]
  · rintro ⟨hlength, hparts⟩
    have htext := Text.join_split '.' cs
    match hsplit : Text.split '.' cs with
    | [] | [_] | _ :: _ :: _ :: _ :: _ => simp [hsplit] at hlength
    | [a, b] =>
      rw [hsplit] at hparts htext
      rw [← htext]
      exact .two (hparts a (by simp)) (hparts b (by simp))
    | [a, b, c] =>
      rw [hsplit] at hparts htext
      rw [← htext]
      exact .three (hparts a (by simp)) (hparts b (by simp)) (hparts c (by simp))

theorem IsRelease.not_isSign (h : IsRelease cs) {c : Char} (hc : c ∈ cs) : ¬ IsSign c := by
  have hdot : ¬ IsSign '.' := by decide
  cases h with
  | two ha hb =>
    simp only [List.mem_append, List.mem_cons] at hc
    rcases hc with hc | rfl | hc
    · exact ha.not_isSign hc
    · exact hdot
    · exact hb.not_isSign hc
  | three ha hb hd =>
    simp only [List.mem_append, List.mem_cons] at hc
    rcases hc with hc | rfl | hc | rfl | hc
    · exact ha.not_isSign hc
    · exact hdot
    · exact hb.not_isSign hc
    · exact hdot
    · exact hd.not_isSign hc

/-- What is left of a text from its first sign on is a suffix. -/
theorem isSuffix_dropWhile (cs : List Char) :
    IsSuffix (cs.dropWhile fun c => c ≠ '-' && c ≠ '+') := by
  cases hrest : cs.dropWhile fun c => c ≠ '-' && c ≠ '+' with
  | nil => exact .none
  | cons sign rest =>
    have hsign := List.head?_dropWhile_not (fun c => c ≠ '-' && c ≠ '+') cs
    rw [hrest] at hsign
    refine .some ?_
    by_contra hc
    simp_all [IsSign]

/-- Up to its first sign, a release with a suffix behind it is the release. -/
theorem IsRelease.takeWhile_append {release suffix : List Char} (h : IsRelease release)
    (hs : IsSuffix suffix) :
    (release ++ suffix).takeWhile (fun c => c ≠ '-' && c ≠ '+') = release := by
  have hall : ∀ c ∈ release, (decide (c ≠ '-') && decide (c ≠ '+')) = true := by
    intro c hc
    simpa [IsSign] using h.not_isSign hc
  rw [List.takeWhile_append_of_pos hall]
  cases hs with
  | none => simp
  | some hsign =>
    rw [List.takeWhile_cons_of_neg (by rcases hsign with rfl | rfl <;> decide), List.append_nil]

end Version

/-- **Cutting a text apart is reading it by the grammar.** -/
theorem isVersion_iff (version : String) :
    isVersion version = true ↔ Version.IsWord version.toList := by
  have hparts (numbers : List (List Char)) :
      (numbers.all fun number => number ≠ [] && number.all Char.isDigit) = true ↔
        ∀ number ∈ numbers, Version.IsNumber number := by
    simp only [List.all_eq_true, Version.isNumber_iff]
  have hcut : isVersion version = true ↔
      Version.IsRelease (version.toList.takeWhile fun c => c ≠ '-' && c ≠ '+') := by
    rw [isVersion, Bool.and_eq_true, hparts, Version.isRelease_iff, Bool.or_eq_true,
      decide_eq_true_eq, decide_eq_true_eq]
  rw [hcut]
  constructor
  · intro h
    exact ⟨_, _, List.takeWhile_append_dropWhile.symm, h, Version.isSuffix_dropWhile _⟩
  · rintro ⟨release, suffix, htext, hr, hs⟩
    rwa [htext, hr.takeWhile_append hs]

/-! ### Lint filters -/

/-- A lint filter with a sign in front. -/
def HasSign (filter : String) : Prop := ∃ sign rest, filter.toList = sign :: rest ∧ IsSign sign

theorem isSigned_iff {filter : String} : isSigned filter = true ↔ HasSign filter := by
  rw [isSigned, HasSign]
  cases filter.toList with
  | nil => simp
  | cons c cs => simp [IsSign]

/-- Lint filters that say something, each of them once. -/
structure AreValidFilters (filters : List String) : Prop where
  hasSign : ∀ filter ∈ filters, HasSign filter
  nodup : filters.Nodup

/-- `Refuses front filter v`: behind the filters in `front`, which are valid, `v` is what is wrong
with a filter. -/
inductive Refuses (front : List String) (filter : String) : Violation → Prop where
  | unsigned : ¬ HasSign filter → Refuses front filter (.unsignedFilter filter)
  | repeated : HasSign filter → filter ∈ front → Refuses front filter (.repeatedFilter filter)

theorem Refuses.congr {front front' : List String} {filter : String} {v : Violation}
    (h : Refuses front filter v) (hmem : ∀ f, f ∈ front ↔ f ∈ front') :
    Refuses front' filter v := by
  cases h with
  | unsigned hs => exact .unsigned hs
  | repeated hs hf => exact .repeated hs ((hmem _).1 hf)

variable {before filters : List String} {v : Violation}

theorem filterViolation?_eq_none_iff : filterViolation? before filters = none ↔
    AreValidFilters filters ∧ ∀ filter ∈ filters, filter ∉ before := by
  induction filters generalizing before with
  | nil => simp [filterViolation?, AreValidFilters.mk]
  | cons filter filters ih =>
    rw [filterViolation?]
    by_cases hsign : isSigned filter = true
    · by_cases hmem : filter ∈ before
      · simp [hsign, hmem]
      · rw [if_neg (by simp [hsign]), if_neg hmem, ih]
        constructor
        · rintro ⟨⟨hs, hn⟩, hb⟩
          have hnot : filter ∉ filters := fun hc => hb filter hc (.head _)
          refine ⟨⟨?_, List.nodup_cons.2 ⟨hnot, hn⟩⟩, ?_⟩
          · exact List.forall_mem_cons.2 ⟨isSigned_iff.1 hsign, hs⟩
          · exact List.forall_mem_cons.2 ⟨hmem, fun f hf hc => hb f hf (.tail _ hc)⟩
        · rintro ⟨⟨hs, hn⟩, hb⟩
          obtain ⟨hnot, hn⟩ := List.nodup_cons.1 hn
          refine ⟨⟨fun f hf => hs f (.tail _ hf), hn⟩, fun f hf hc => ?_⟩
          rcases List.mem_cons.1 hc with rfl | hc
          · exact hnot hf
          · exact hb f (.tail _ hf) hc
    · rw [if_pos (by simpa using hsign)]
      refine ⟨nofun, fun ⟨h, _⟩ => ?_⟩
      exact absurd (isSigned_iff.2 (h.hasSign filter (.head _))) hsign

/-- Behind valid filters, the first one that is refused is reported. -/
theorem filterViolation?_append_cons {front back : List String} {filter : String}
    (hfront : filterViolation? before front = none) (hf : Refuses (before ++ front) filter v) :
    filterViolation? before (front ++ filter :: back) = some v := by
  induction front generalizing before with
  | nil =>
    rw [List.append_nil] at hf
    cases hf with
    | unsigned h =>
      rw [← isSigned_iff] at h
      simp [filterViolation?, h]
    | repeated h hm =>
      rw [← isSigned_iff] at h
      simp [filterViolation?, h, hm]
  | cons first front ih =>
    rw [filterViolation?] at hfront
    split at hfront
    · cases hfront
    · next hsign =>
      split at hfront
      · cases hfront
      · next hmem =>
        rw [List.cons_append, filterViolation?, if_neg hsign, if_neg hmem]
        refine ih hfront (hf.congr fun f => ?_)
        simp only [List.mem_append, List.mem_cons]
        tauto

theorem exists_of_filterViolation? (h : filterViolation? before filters = some v) :
    ∃ front filter back, filters = front ++ filter :: back ∧
      filterViolation? before front = none ∧ Refuses (before ++ front) filter v := by
  induction filters generalizing before with
  | nil => cases h
  | cons filter filters ih =>
    rw [filterViolation?] at h
    split at h
    · next hsign =>
      obtain rfl := Option.some.inj h
      rw [Bool.not_eq_true', ← Bool.not_eq_true, isSigned_iff] at hsign
      exact ⟨[], filter, filters, rfl, rfl, .unsigned hsign⟩
    · next hsign =>
      split at h
      · next hmem =>
        obtain rfl := Option.some.inj h
        rw [Bool.not_eq_true', Bool.not_eq_false, isSigned_iff] at hsign
        exact ⟨[], filter, filters, rfl, rfl, .repeated hsign (by simpa using hmem)⟩
      · next hmem =>
        obtain ⟨front, found, back, rfl, hfront, hf⟩ := ih h
        refine ⟨filter :: front, found, back, rfl, ?_, hf.congr fun f => ?_⟩
        · rw [filterViolation?, if_neg hsign, if_neg hmem, hfront]
        · simp only [List.cons_append, List.mem_append, List.mem_cons]
          tauto

/-- **The first filter that is refused is the one that is reported.** -/
theorem filterViolation?_eq_some_iff : filterViolation? [] filters = some v ↔
    ∃ front filter back, filters = front ++ filter :: back ∧ AreValidFilters front ∧
      Refuses front filter v := by
  constructor
  · intro h
    obtain ⟨front, filter, back, hsplit, hfront, hf⟩ := exists_of_filterViolation? h
    exact ⟨front, filter, back, hsplit, (filterViolation?_eq_none_iff.1 hfront).1, hf⟩
  · rintro ⟨front, filter, back, rfl, hfront, hf⟩
    refine filterViolation?_append_cons (filterViolation?_eq_none_iff.2 ⟨hfront, ?_⟩) hf
    exact fun f _ => List.not_mem_nil

/-! ### Manifests -/

/-- A package that has a name and a version. -/
structure Package.IsValid (p : Package) : Prop where
  name : p.name ≠ ""
  version : Version.IsWord p.version.toList

namespace Manifest

variable {m : Manifest} {p : Package}

/-- `m.IsValid`: a manifest keeps all rules. -/
structure IsValid (m : Manifest) : Prop where
  package : ∀ p, m.package? = some p → p.IsValid
  jobs : m.build.jobs? ≠ some 0
  filters : AreValidFilters m.tools.lintFilters

/-- `m.FirstBreaks v`: of the rules that a manifest breaks, `v` is the first one. -/
inductive FirstBreaks (m : Manifest) : Violation → Prop where
  | name {p : Package} : m.package? = some p → p.name = "" → FirstBreaks m .emptyPackageName
  | version {p : Package} : m.package? = some p → p.name ≠ "" →
      ¬ Version.IsWord p.version.toList → FirstBreaks m (.malformedVersion p.version)
  | jobs : (∀ p, m.package? = some p → p.IsValid) → m.build.jobs? = some 0 →
      FirstBreaks m .noJobs
  | filter {front back : List String} {filter : String} {v : Violation} :
      (∀ p, m.package? = some p → p.IsValid) → m.build.jobs? ≠ some 0 →
      m.tools.lintFilters = front ++ filter :: back → AreValidFilters front →
      Refuses front filter v → FirstBreaks m v

theorem packageViolation?_eq_none_iff : packageViolation? p = none ↔ p.IsValid := by
  rw [packageViolation?]
  by_cases hname : p.name = ""
  · rw [if_pos hname]
    exact ⟨nofun, fun h => absurd hname h.name⟩
  · rw [if_neg hname]
    split
    · next hversion =>
      rw [Bool.not_eq_true', ← Bool.not_eq_true, isVersion_iff] at hversion
      exact ⟨nofun, fun h => absurd h.version hversion⟩
    · next hversion =>
      rw [Bool.not_eq_true', Bool.not_eq_false, isVersion_iff] at hversion
      exact ⟨fun _ => ⟨hname, hversion⟩, fun _ => rfl⟩

theorem violation?_eq_none_iff : m.violation? = none ↔ m.IsValid := by
  simp only [violation?, Option.or_eq_none_iff, filterViolation?_eq_none_iff,
    Option.bind_eq_none_iff, packageViolation?_eq_none_iff]
  constructor
  · rintro ⟨hpackage, hjobs, hfilters, -⟩
    refine ⟨hpackage, ?_, hfilters⟩
    intro hc
    rw [if_pos hc] at hjobs
    cases hjobs
  · rintro ⟨hpackage, hjobs, hfilters⟩
    exact ⟨hpackage, if_neg hjobs, hfilters, fun f _ => List.not_mem_nil⟩

/-- The rules behind those on the package, when these are kept. -/
theorem violation?_of_package (h : ∀ p, m.package? = some p → p.IsValid) : m.violation? =
    if m.build.jobs? = some 0 then some .noJobs else filterViolation? [] m.tools.lintFilters := by
  have hnone : m.package?.bind packageViolation? = none :=
    Option.bind_eq_none_iff.2 fun p hp => packageViolation?_eq_none_iff.2 (h p hp)
  rw [violation?, hnone, Option.none_or]
  split <;> rfl

theorem violation?_of_firstBreaks {v : Violation} (h : m.FirstBreaks v) :
    m.violation? = some v := by
  cases h with
  | name hp hname => simp [violation?, hp, packageViolation?, hname]
  | version hp hname hversion =>
    rw [← isVersion_iff, Bool.not_eq_true] at hversion
    simp [violation?, hp, packageViolation?, hname, hversion]
  | jobs hpackage hjobs => rw [violation?_of_package hpackage, if_pos hjobs]
  | filter hpackage hjobs hsplit hfront hf =>
    rw [violation?_of_package hpackage, if_neg hjobs]
    exact filterViolation?_eq_some_iff.2 ⟨_, _, _, hsplit, hfront, hf⟩

/-- A manifest that is not valid breaks some rule first. -/
theorem exists_firstBreaks (h : ¬ m.IsValid) : ∃ v, m.FirstBreaks v := by
  by_cases hpackage : ∀ p, m.package? = some p → p.IsValid
  · by_cases hjobs : m.build.jobs? = some 0
    · exact ⟨_, .jobs hpackage hjobs⟩
    · obtain ⟨v, hv⟩ := Option.ne_none_iff_exists'.1 (mt violation?_eq_none_iff.1 h)
      rw [violation?_of_package hpackage, if_neg hjobs] at hv
      obtain ⟨front, filter, back, hsplit, hfront, hf⟩ := filterViolation?_eq_some_iff.1 hv
      exact ⟨v, .filter hpackage hjobs hsplit hfront hf⟩
  · push Not at hpackage
    obtain ⟨p, hp, hinvalid⟩ := hpackage
    by_cases hname : p.name = ""
    · exact ⟨_, .name hp hname⟩
    · exact ⟨_, .version hp hname fun hversion => hinvalid ⟨hname, hversion⟩⟩

/-- What is reported is the first rule that is broken. -/
theorem violation?_eq_some_iff {v : Violation} : m.violation? = some v ↔ m.FirstBreaks v := by
  refine ⟨fun h => ?_, violation?_of_firstBreaks⟩
  have hinvalid : ¬ m.IsValid := by
    rw [← violation?_eq_none_iff, h]
    exact nofun
  obtain ⟨w, hw⟩ := exists_firstBreaks hinvalid
  obtain rfl : w = v := Option.some.inj ((violation?_of_firstBreaks hw).symm.trans h)
  exact hw

end Manifest

/-- The error of a broken rule tells which rule that is, and what breaks it. -/
theorem Violation.toError_injective : Function.Injective Violation.toError := by
  have hne (f f' : String) : "filter '" ++ f ++ "' must start with '+' or '-'" ≠
      "filter '" ++ f' ++ "' listed twice" := by
    intro h
    have h := congrArg (fun s => s.toList.getLast?) h
    simp [String.toList_append, List.getLast?_cons, List.getLast?_append] at h
  intro v v' h
  cases v <;> cases v' <;> simp [toError] at h
  · rfl
  · rw [h]
  · rfl
  · rw [h]
  · exact absurd h (hne _ _)
  · exact absurd h.symm (hne _ _)
  · rw [h]

/-- **A manifest is refused exactly if it breaks a rule, and for the first one that it breaks.** It
is valid if its package, if there is one, has a name and a version of the grammar, if the number of
jobs is not zero, and if all lint filters have a sign and no two are equal. Otherwise the rule that
is reported is the first broken one in the order name, version, jobs, filters; among the filters it
is that of the first one that is refused, which is asked for its sign before anything else. The
error says which rule that is. -/
theorem Manifest.violation?_tells_first (m : Manifest) :
    (m.violation? = none ↔ m.IsValid) ∧ (∀ v, m.violation? = some v ↔ m.FirstBreaks v) ∧
      Function.Injective Violation.toError :=
  ⟨violation?_eq_none_iff, fun _ => violation?_eq_some_iff, Violation.toError_injective⟩

end Buildwright
