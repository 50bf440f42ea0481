import Buildwright.Build.Summary
import Buildwright.Host.Procedure

/-!
# Console output

Results as lines of text for people to read, in colours if the console shows them.
-/

namespace Buildwright.CommandLine

/-! ### Colours -/

/-- The sequence that begins a style, given by its codes. -/
def styleStart (codes : String) : List Char := '\x1b' :: '[' :: codes.toList ++ ['m']

/-- The sequence that ends every style. -/
def styleEnd : List Char := ['\x1b', '[', '0', 'm']

/-- A text in which a style goes on behind every end of a style. -/
def resumed (start : List Char) : List Char → List Char
  | '\x1b' :: '[' :: '0' :: 'm' :: rest => styleEnd ++ start ++ resumed start rest
  | c :: rest => c :: resumed start rest
  | [] => []

/-- How lines are written. -/
structure Console where
  colored : Bool
  /-- Whether the logs of what succeeded are shown as well. -/
  verbose : Bool
  deriving DecidableEq, Repr

/-- Whether the console shows colours: only if a variable forces them and none forbids them, since
the output may go anywhere. -/
def wantsColor (env : Environment) : Bool :=
  (env.text? "CLICOLOR_FORCE").any (· ≠ "0") &&
    (env.text? "KEEL_NO_COLOR").isNone && (env.text? "NO_COLOR").isNone

namespace Console

/-- A text in a style. -/
def paint (c : Console) (codes text : String) : String :=
  if c.colored then
    String.ofList (styleStart codes ++ resumed (styleStart codes) text.toList ++ styleEnd)
  else text

/-- A text with blanks before it up to nine characters. -/
def aligned (text : String) : String :=
  String.ofList (List.replicate (9 - text.length) ' ') ++ text

/-- The word that begins a line. -/
def label (c : Console) (codes text : String) : String := c.paint codes (aligned text)

/-- The label for success. -/
def good (c : Console) (text : String) : String := c.label "1;32" text

/-- The label for failure. -/
def bad (c : Console) (text : String) : String := c.label "1;31" text

/-! ### Logs -/

/-- A line without the carriage return at its end. -/
def withoutReturn (line : List Char) : List Char :=
  if line.getLast? = some '\r' then line.dropLast else line

/-- The lines of a text. A line end at the end begins no further line, and a carriage return belongs
to the line feed behind it. -/
def linesOf (text : String) : List String :=
  let parts := Text.split '\n' text.toList
  let unended := parts.getLast?.getD []
  let lines := parts.dropLast.map withoutReturn ++ if unended = [] then [] else [unended]
  lines.map String.ofList

/-- The lines of a log, set in. -/
def logLines (c : Console) (log : String) : List String :=
  (linesOf log).map fun line => "    " ++ c.paint "2" line

/-- The log of something that failed, or of anything if the user wants to see it. -/
def shownLog (c : Console) (failed : Bool) (log : String) : List String :=
  if c.verbose || failed then c.logLines log else []

/-! ### Durations -/

/-- A whole number of hundredths as a decimal with two places. -/
def hundredths (n : Nat) : String :=
  toString (n / 100) ++ "." ++ (if n % 100 < 10 then "0" else "") ++ toString (n % 100)

/-- A duration in the greatest unit of which it has at least one, with two places. -/
def duration (d : Duration) : String :=
  let inUnit (unit : Nat) (name : String) : String :=
    hundredths ((200 * d + unit) / (2 * unit)) ++ name
  if 1000000000 ≤ d then inUnit 1000000000 "s"
  else if 1000000 ≤ d then inUnit 1000000 "ms"
  else if 1000 ≤ d then inUnit 1000 "µs"
  else inUnit 1 "ns"

/-- A duration between brackets. -/
def timed (d : Duration) : String := " (" ++ duration d ++ ")"

/-! ### Results -/

/-- The line of an outcome. -/
def outcomeLine (c : Console) (o : Outcome) : String :=
  match o.status with
  | .succeeded => c.good "Built" ++ " " ++ o.name ++ timed o.duration
  | .failed reason => c.bad "FAILED" ++ " " ++ o.name ++ ": " ++ reason
  | .skipped dependency =>
    c.label "1;33" "Skipped" ++ " " ++ o.name ++ " (dependency '" ++ dependency ++ "' failed)"
  | .pending | .building => c.label "33" "Unfinished" ++ " " ++ o.name

/-- Whether an outcome's log is always shown. -/
def isFailed : Status → Bool
  | .failed _ => true
  | _ => false

/-- The lines of a build: one for each target, with the logs of failures. -/
def buildLines (c : Console) (r : BuildReport) : List String :=
  r.outcomes.flatMap fun o => c.outcomeLine o :: c.shownLog (isFailed o.status) o.log

/-- The line of a test. -/
def testLine (c : Console) (r : TestRun) : String :=
  match r.verdict with
  | .passed d => c.good "PASS" ++ " " ++ r.target ++ timed d
  | .failed reason d => c.bad "FAIL" ++ " " ++ r.target ++ ": " ++ reason ++ timed d
  | .notBuilt reason => c.bad "FAIL" ++ " " ++ r.target ++ ": " ++ reason

/-- The lines of several tests, with the logs of failures. -/
def testLines (c : Console) (runs : List TestRun) : List String :=
  runs.flatMap fun r => c.testLine r :: c.shownLog (!r.verdict.isPass) r.log

/-- The lines of a linter that checked a number of files. -/
def lintLines (c : Console) (files : Nat) : LintResult → List String
  | .ok log => (c.good "Linted" ++ " " ++ toString files ++ " files") :: c.shownLog false log
  | .error failure => [c.bad "FAILED" ++ " " ++ failure.message]

/-- A number of failures, which stands out unless it is zero. -/
def failureCount (c : Console) (n : Nat) : String :=
  if n = 0 then toString n else c.paint "1;31" (toString n)

/-- The parts of the line of counts. -/
def counts (c : Console) (s : Summary) : List String :=
  ("build: " ++ c.paint "32" (toString s.built) ++ " ok, " ++ c.failureCount s.buildFailed ++
      " failed") ::
    (if 0 < s.testsPassed + s.testsFailed then
      ["test: " ++ c.paint "32" (toString s.testsPassed) ++ " passed, " ++
        c.failureCount s.testsFailed ++ " failed"]
    else []) ++
    match s.lintPassed? with
    | some true => ["lint: " ++ c.paint "32" "ok"]
    | some false => ["lint: " ++ c.paint "31" "failed"]
    | none => []

/-- The lines of a summary: a rule, the counts, and every failure. -/
def summaryLines (c : Console) (s : Summary) : List String :=
  ["", String.ofList (List.replicate 50 '─'), "; ".intercalate (c.counts s)] ++
    if s.failures = [] then []
    else ["", c.paint "1;31" "Failures:"] ++ s.failures.map fun failure =>
      "  [" ++ failure.phase.name ++ "] " ++ failure.message

end Console

end Buildwright.CommandLine
