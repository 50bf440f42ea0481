import Buildwright.Build.ReportJson
import Buildwright.Proofs.Json

/-!
# What the text of a report tells

The text of a report tells everything about a run but the parts of a millisecond: two reports have
the same text exactly if they agree when their durations are given in whole milliseconds
(`RunReport.text_eq_iff`). Logs and lists of tests that are empty are left out of the text, and what
is written of a test depends on how it ended; in each case the members that are written show what
was left out, since their keys differ.
-/

namespace Buildwright

/-! ### Durations -/

/-- An outcome with its duration in milliseconds. -/
def Outcome.inMilliseconds (o : Outcome) : Outcome :=
  { o with duration := o.duration.milliseconds }

/-- A verdict with its duration in milliseconds. -/
def TestVerdict.inMilliseconds : TestVerdict → TestVerdict
  | passed duration => passed duration.milliseconds
  | failed reason duration => failed reason duration.milliseconds
  | notBuilt reason => notBuilt reason

/-- What became of a test, with its duration in milliseconds. -/
def TestRun.inMilliseconds (r : TestRun) : TestRun :=
  { r with verdict := r.verdict.inMilliseconds }

/-- The report of a build with its durations in milliseconds. -/
def BuildReport.inMilliseconds (r : BuildReport) : BuildReport where
  outcomes := r.outcomes.map Outcome.inMilliseconds
  failures := r.failures
  duration := r.duration.milliseconds

/-- The report of a run with its durations in milliseconds. -/
def RunReport.inMilliseconds (r : RunReport) : RunReport where
  build := r.build.inMilliseconds
  tests := r.tests.map TestRun.inMilliseconds
  summary := r.summary

/-! ### Values -/

namespace Json

theorem count_inj {m n : Nat} : count m = count n ↔ m = n := by
  rw [count, count, number.injEq, Int.natCast_inj]

/-- A text that is left out when it is empty is not lost. -/
theorem nonemptyText_inj {key s t : String} :
    nonemptyText key s = nonemptyText key t ↔ s = t := by
  unfold nonemptyText
  split_ifs with hs ht ht
  · simp [hs, ht]
  · simpa [hs] using Ne.symm ht
  · simpa [ht] using hs
  · simp

/-- Lists of values can be told apart if their items can. -/
theorem map_eq_map_iff {α β : Type} {f : α → Json} {view : α → β}
    (h : ∀ a b, f a = f b ↔ view a = view b) (as bs : List α) :
    as.map f = bs.map f ↔ as.map view = bs.map view := by
  induction as generalizing bs with
  | nil => cases bs <;> simp
  | cons a as ih => cases bs <;> simp [h, ih]

end Json

theorem Kind.name_inj {k l : Kind} : k.name = l.name ↔ k = l := by
  refine ⟨fun h => ?_, congrArg _⟩
  exact Option.some.inj ((ofName?_name k).symm.trans ((congrArg ofName? h).trans (ofName?_name l)))

theorem Failure.toJson_inj {f f' : Failure} : f.toJson = f'.toJson ↔ f = f' := by
  cases f <;> cases f' <;> simp [toJson, phase, Phase.name, target?, reason]

theorem Failure.map_toJson_inj {fs fs' : List Failure} :
    fs.map toJson = fs'.map toJson ↔ fs = fs' :=
  (List.map_injective_iff.2 fun _ _ => toJson_inj.1).eq_iff

theorem Status.toJson_inj {s s' : Status} : s.toJson = s'.toJson ↔ s = s' := by
  cases s <;> cases s' <;> simp [toJson]

theorem Outcome.toJson_eq_iff {o o' : Outcome} :
    o.toJson = o'.toJson ↔ o.inMilliseconds = o'.inMilliseconds := by
  simp [toJson, inMilliseconds, Json.nonemptyText_inj, Json.count_inj, Kind.name_inj,
    Status.toJson_inj]

theorem BuildReport.toJson_eq_iff {r r' : BuildReport} :
    r.toJson = r'.toJson ↔ r.inMilliseconds = r'.inMilliseconds := by
  have houtcomes := Json.map_eq_map_iff (@Outcome.toJson_eq_iff) r.outcomes r'.outcomes
  simp [toJson, inMilliseconds, houtcomes, Failure.map_toJson_inj, Json.count_inj]

/-- The members of a verdict show how a test ended and where they end. -/
theorem TestVerdict.members_append_inj {v v' : TestVerdict} {xs ys : List (String × Json)} :
    v.members ++ xs = v'.members ++ ys ↔ v.inMilliseconds = v'.inMilliseconds ∧ xs = ys := by
  cases v <;> cases v' <;> simp [members, inMilliseconds, Json.count_inj, and_assoc]

theorem TestRun.toJson_eq_iff {r r' : TestRun} :
    r.toJson = r'.toJson ↔ r.inMilliseconds = r'.inMilliseconds := by
  simp [toJson, inMilliseconds, TestVerdict.members_append_inj, Json.nonemptyText_inj]

theorem Summary.toJson_inj {s s' : Summary} : s.toJson = s'.toJson ↔ s = s' := by
  have hlint {p q : Option Bool} :
      (p.map Json.bool).getD .null = (q.map Json.bool).getD .null ↔ p = q := by
    cases p <;> cases q <;> simp
  cases s
  cases s'
  simp [toJson, Failure.map_toJson_inj, hlint, Json.count_inj]

/-! ### Reports -/

theorem RunReport.toJson_eq_iff {r r' : RunReport} :
    r.toJson = r'.toJson ↔ r.inMilliseconds = r'.inMilliseconds := by
  have htests := Json.map_eq_map_iff (@TestRun.toJson_eq_iff) r.tests r'.tests
  simp only [toJson, inMilliseconds]
  split_ifs with ht ht' ht'
  · simp [ht, ht', BuildReport.toJson_eq_iff, Summary.toJson_inj]
  · simp [ht, ht']
  · simp [ht, ht']
  · simp [htests, BuildReport.toJson_eq_iff, Summary.toJson_inj]

/-- **The text of a report tells all but the parts of a millisecond.** Two reports have the same
text exactly if everything in them is equal when durations are given in whole milliseconds, at most
the greatest number of 64 bits. -/
theorem RunReport.text_eq_iff (r r' : RunReport) :
    r.text = r'.text ↔ r.inMilliseconds = r'.inMilliseconds := by
  rw [text, text, Json.pretty_injective.eq_iff, toJson_eq_iff]

end Buildwright
