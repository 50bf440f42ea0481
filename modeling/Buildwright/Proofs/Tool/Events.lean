import Buildwright.Proofs.Bytes
import Buildwright.Proofs.Procedure
import Buildwright.Tool.Result

/-!
# Deeds in turn

A tool that takes several steps does one after another until one fails (`Procedure.inTurn`).
Whatever the host answers, the events are then those of a beginning of the steps, all but the last
of them have succeeded, and nothing but a failure ends them early (`DoneInTurn`). The result is that
of the last event, and its log holds what every event leaves there (`ToolResult.log_ofLast`).
-/

namespace Buildwright

/-! ### Events -/

namespace Event

/-- Whether a deed was done; a program that was waited for has to end well. -/
def succeeded (e : Event) : Bool :=
  match e.answer with
  | .error _ => false
  | .ok none => true
  | .ok (some finished) => finished.ending.isSuccess

/-- What a deed leaves in a log: a program leaves its line and what it printed. -/
def printed (e : Event) : String :=
  match e.deed with
  | .createDirs _ => ""
  | .start command =>
    "$ " ++ command.line ++ "\n" ++
      match e.answer with
      | .ok (some finished) =>
        String.ofList (Text.decodeLossy finished.stdout) ++
          String.ofList (Text.decodeLossy finished.stderr)
      | _ => ""

/-- The result of a tool whose last event this is. -/
def result (e : Event) (log : String) : ToolResult :=
  match e.answer with
  | .error fault => .neverRan fault.message log
  | .ok none => .succeeded log
  | .ok (some finished) => .ofEnding finished.ending log

@[simp]
theorem success_result (e : Event) (log : String) : (e.result log).success = e.succeeded := by
  unfold result succeeded
  split <;> rfl

@[simp]
theorem log_result (e : Event) (log : String) : (e.result log).log = log := by
  unfold result
  split <;> rfl

theorem result_of_succeeded {e : Event} (h : e.succeeded = true) (log : String) :
    e.result log = .succeeded log := by
  unfold succeeded at h
  unfold result
  split
  · next heq => simp [heq] at h
  · rfl
  · next finished heq =>
    rw [heq] at h
    have hcode : finished.ending.code? = some 0 := of_decide_eq_true h
    simp only [ToolResult.ofEnding, ToolResult.succeeded, h, hcode]

/-- `e.Prints text`: what a deed leaves in a log is nothing for a directory, and for a program its
line with what is read of its output. -/
inductive Prints : Event → String → Prop
  | directory {path : Path} {answer} : Prints { deed := .createDirs path, answer } ""
  | line {command : Command} {answer} : (∀ finished, answer ≠ .ok (some finished)) →
      Prints { deed := .start command, answer } ("$ " ++ command.line ++ "\n")
  | output {command : Command} {finished : Finished} {out err : String} :
      Text.Reads finished.stdout out.toList → Text.Reads finished.stderr err.toList →
      Prints { deed := .start command, answer := .ok (some finished) }
        ("$ " ++ command.line ++ "\n" ++ out ++ err)

theorem prints_printed (e : Event) : e.Prints e.printed := by
  obtain ⟨deed, answer⟩ := e
  cases deed with
  | createDirs path => exact .directory
  | start command =>
    rcases answer with fault | _ | finished
    · have hline : Prints { deed := .start command, answer := .error fault } _ := .line nofun
      simpa [printed] using hline
    · have hline : Prints { deed := .start command, answer := .ok none } _ := .line nofun
      simpa [printed] using hline
    · have hout := Text.decodeLossy_reads finished.stdout
      have herr := Text.decodeLossy_reads finished.stderr
      rw [← String.toList_ofList (l := Text.decodeLossy _)] at hout herr
      have houtput : Prints { deed := .start command, answer := .ok (some finished) } _ :=
        .output hout herr
      simpa [printed, String.append_assoc] using houtput

/-- Output that is text is printed as it is. -/
theorem Prints.eq_of_utf8 {command : Command} {finished : Finished} {text out err : String}
    (h : Prints { deed := .start command, answer := .ok (some finished) } text)
    (hout : finished.stdout = Text.utf8 out) (herr : finished.stderr = Text.utf8 err) :
    text = "$ " ++ command.line ++ "\n" ++ out ++ err := by
  cases h with
  | line hnone => exact absurd rfl (hnone finished)
  | output hreadsOut hreadsErr =>
    rw [hout, Text.reads_utf8_iff] at hreadsOut
    rw [herr, Text.reads_utf8_iff] at hreadsErr
    rw [String.toList_inj.1 hreadsOut, String.toList_inj.1 hreadsErr]

end Event

/-! ### Single deeds -/

namespace Deed

/-- Whether a program is started. -/
def isStart : Deed → Bool
  | createDirs _ => false
  | start _ => true

/-- Does a deed. -/
def carryOut : Deed → Procedure Event
  | createDirs path => .createDirs path fun answer =>
      .pure { deed := createDirs path, answer := answer.map fun _ => none }
  | start command => .start command fun answer =>
      .pure { deed := start command, answer := answer.map some }

variable {σ : Type} (host : Host σ) (s : σ) (d : Deed)

@[simp]
theorem deed_carryOut : (d.carryOut.runOn host s).1.deed = d := by cases d <;> rfl

@[simp]
theorem history_carryOut : d.carryOut.history host s = [(d.carryOut.runOn host s).1] := by
  cases d <;> rfl

end Deed

/-! ### Several deeds -/

namespace Procedure

/-- Does one deed after another until one fails, with what they leave behind a log. -/
def inTurn : List Deed → String → Procedure (Except ToolResult String)
  | [], log => return .ok log
  | deed :: deeds, log => do
    let e ← deed.carryOut
    if e.succeeded then inTurn deeds (log ++ e.printed)
    else return .error (e.result (log ++ e.printed))

theorem inTurn_append (deeds deeds' : List Deed) (log : String) :
    inTurn (deeds ++ deeds') log = (do
      match ← inTurn deeds log with
      | .error result => return .error result
      | .ok log => inTurn deeds' log) := by
  induction deeds generalizing log with
  | nil => rfl
  | cons deed deeds ih =>
    rw [List.cons_append, inTurn, inTurn, bind_assoc]
    congr 1
    funext e
    split
    · exact ih _
    · rfl

/-- To start a program and put its line and output behind a log is to do this deed. -/
theorem inTurn_start (command : Command) (log : String) :
    inTurn [.start command] log = (do
      match ← logged command log with
      | (.error fault, log) => return .error (.neverRan fault.message log)
      | (.ok ending, log) =>
        return if ending.isSuccess then .ok log else .error (.failed ending.code? log)) := by
  refine congrArg (start command) (funext fun answer => ?_)
  cases answer with
  | error fault =>
    change Procedure.pure (Except.error (ToolResult.neverRan fault.message
      (log ++ ("$ " ++ command.line ++ "\n" ++ "")))) = _
    simp only [String.append_assoc, String.append_empty]
    rfl
  | ok finished =>
    have hprinted :
        log ++ Event.printed { deed := .start command, answer := .ok (some finished) } =
          log ++ "$ " ++ command.line ++ "\n" ++ String.ofList (Text.decodeLossy finished.stdout) ++
            String.ofList (Text.decodeLossy finished.stderr) := by
      simp only [Event.printed, String.append_assoc]
    change (if finished.ending.isSuccess = true then Procedure.pure (Except.ok (log ++ Event.printed
          { deed := .start command, answer := .ok (some finished) }))
        else Procedure.pure (Except.error (ToolResult.ofEnding finished.ending (log ++ Event.printed
          { deed := .start command, answer := .ok (some finished) })))) =
      Procedure.pure (if finished.ending.isSuccess = true then Except.ok _
        else Except.error (ToolResult.failed finished.ending.code? _))
    rw [hprinted, ToolResult.ofEnding, ToolResult.failed]
    cases finished.ending.isSuccess <;> rfl

/-- `TookTurns deeds log events last`: deeds that are done in turn behind a log have these events,
and come to this end. -/
inductive TookTurns : List Deed → String → List Event → Except ToolResult String → Prop
  | done {log} : TookTurns [] log [] (.ok log)
  | failed {e : Event} {deeds log} : e.succeeded = false →
      TookTurns (e.deed :: deeds) log [e] (.error (e.result (log ++ e.printed)))
  | next {e : Event} {deeds log events last} : e.succeeded = true →
      TookTurns deeds (log ++ e.printed) events last →
      TookTurns (e.deed :: deeds) log (e :: events) last

theorem inTurn_tookTurns {σ : Type} (host : Host σ) (s : σ) (deeds : List Deed) (log : String) :
    TookTurns deeds log ((inTurn deeds log).history host s)
      ((inTurn deeds log).runOn host s).1 := by
  induction deeds generalizing log s with
  | nil => exact .done
  | cons deed deeds ih =>
    have hdeed := Deed.deed_carryOut host s deed
    rw [inTurn, history_bind, runOn_bind, Deed.history_carryOut]
    generalize (deed.carryOut.runOn host s).1 = e at *
    subst hdeed
    split
    · next h => exact .next h (ih _ _)
    · next h => exact .failed (eq_false_of_ne_true h)

end Procedure

/-- `DoneInTurn deeds events`: deeds are done in turn. -/
structure DoneInTurn (deeds : List Deed) (events : List Event) : Prop where
  /-- They are done in their order, -/
  order : events.map (·.deed) <+: deeds
  /-- each one behind successes only, -/
  goesOn : events.Pairwise fun e _ => e.succeeded = true
  /-- and all of them unless one fails. -/
  stops : events.map (·.deed) = deeds ∨ ∃ e ∈ events.getLast?, e.succeeded = false

variable {deeds : List Deed} {log : String} {events : List Event} {last : Except ToolResult String}

theorem Procedure.TookTurns.doneInTurn (h : TookTurns deeds log events last) :
    DoneInTurn deeds events := by
  induction h with
  | done => exact ⟨List.prefix_refl _, .nil, .inl rfl⟩
  | failed he => exact ⟨List.prefix_append [_] _, List.pairwise_singleton _ _, .inr ⟨_, rfl, he⟩⟩
  | next he _ ih =>
    refine ⟨(List.prefix_cons_inj _).2 ih.order, .cons (fun _ _ => he) ih.goesOn, ?_⟩
    rcases ih.stops with hall | ⟨e, hlast, hfailed⟩
    · exact .inl (congrArg (_ :: ·) hall)
    · exact .inr ⟨e, by rw [List.getLast?_cons, hlast]; rfl, hfailed⟩

/-! ### Results -/

namespace ToolResult

open Procedure (TookTurns)

/-- The result of a tool whose steps came to this end. -/
def ofLast : Except ToolResult String → ToolResult
  | .error result => result
  | .ok log => .succeeded log

/-- On every path, what all events leave stands in the log. -/
theorem log_ofLast (h : TookTurns deeds log events last) :
    (ofLast last).log = log ++ String.join (events.map (·.printed)) := by
  induction h with
  | done => simp [ofLast, succeeded]
  | failed => simp [ofLast]
  | next _ _ ih => rw [ih, List.map_cons, String.join_cons, String.append_assoc]

theorem success_ofLast_iff (h : TookTurns deeds log events last) :
    (ofLast last).success = true ↔
      events.map (·.deed) = deeds ∧ ∀ e ∈ events, e.succeeded = true := by
  induction h with
  | done => simp [ofLast, succeeded]
  | failed he => simp [ofLast, he]
  | next he _ ih => simp [ih, he]

theorem ofLast_eq (h : TookTurns deeds log events last) :
    ∀ e ∈ events.getLast?, ofLast last = e.result (ofLast last).log := by
  induction h with
  | done => simp
  | failed =>
    rintro e ⟨⟩
    simp [ofLast]
  | @next e _ _ events _ he h ih =>
    cases events with
    | nil =>
      cases h
      rintro e ⟨⟩
      exact (e.result_of_succeeded he _).symm
    | cons e' events =>
      intro e hlast
      rw [List.getLast?_cons_cons] at hlast
      exact ih e hlast

end ToolResult

end Buildwright
