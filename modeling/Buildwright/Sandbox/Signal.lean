import Buildwright.Sandbox.Digits

/-!
# Names of signals

The signals that processes send each other are numbered; these are their names.
-/

namespace Buildwright.Sandbox

/-- The names of the signals up to the ones that mean nothing by themselves. -/
def plainSignals : List String :=
  ["EXIT", "HUP", "INT", "QUIT", "ILL", "TRAP", "ABRT", "BUS", "FPE", "KILL", "USR1", "SEGV",
    "USR2", "PIPE", "ALRM", "TERM", "16", "CHLD", "CONT", "STOP", "TSTP", "TTIN", "TTOU", "URG",
    "XCPU", "XFSZ", "VTALRM", "PROF", "WINCH", "I" ++ "O", "PWR", "SYS"]

/-- The names of all signals. -/
def signalNames : List String :=
  let numbered (front : String) (sign : String) (n : Nat) : String :=
    if n = 0 then front else front ++ sign ++ toString n
  plainSignals ++ ["32", "33"] ++ (List.range 16).map (numbered "RTMIN" "+") ++
    (List.range 15).reverse.map (numbered "RTMAX" "-")

/-- The number of signals. -/
def signalCount : Nat := 65

/-- The name of a signal. -/
def signalName (signal : Nat) : String := signalNames[signal]?.getD (toString signal)

/-- The number of a signal that is given by its number or name. -/
def signalOf? (extended : Bool) (text : String) : Option Nat :=
  match naturalOf? text with
  | some n => if n < signalCount then some n else none
  | none =>
    let name := text.map Char.toUpper
    let name := if extended && name.startsWith "SIG" then (name.drop 3).toString else name
    signalNames.findIdx? (· = name)

/-- The signal about a child that ended. -/
def childSignal : Nat := 17

end Buildwright.Sandbox
