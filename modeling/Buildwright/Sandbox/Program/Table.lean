import Buildwright.Sandbox.Program.Character
import Buildwright.Sandbox.Program.Editing.Run
import Buildwright.Sandbox.Program.Field
import Buildwright.Sandbox.Program.Launching
import Buildwright.Sandbox.Program.Listing
import Buildwright.Sandbox.Program.Order
import Buildwright.Sandbox.Program.Portion
import Buildwright.Sandbox.Program.Repetition
import Buildwright.Sandbox.Program.Search
import Buildwright.Sandbox.Program.Series
import Buildwright.Sandbox.Program.Show
import Buildwright.Sandbox.Program.Transfer
import Buildwright.Sandbox.Program.Valuation
import Buildwright.Sandbox.Shell.Program
import Buildwright.Sandbox.System.Start

/-!
# Installed programs

The programs that come with a machine, by their names.
-/

namespace Buildwright.Sandbox

open Program

/-- A program that does a work, with the code for what cannot be written and what it says then. -/
def working (work : Work Unit) (faultCode : Nat := 1) (faultText : String := "write error") :
    Launch → Process :=
  work.process faultCode faultText

/-- How the programs for parts of texts say that something could not be written. -/
def outputFault : String := "error writing 'standard output'"

/-- The programs that come with a machine. -/
def installedPrograms : List (String × (Launch → Process)) := [
  ("true", working (end_ 0)), ("false", working (end_ 1)), ("echo", working echo),
  ("printf", working printByFormat), ("test", working askCondition 2),
  ("[", working askCondition 2), ("pwd", working printDirectory),
  ("printenv", working printVariables 2), ("basename", working printLastNames),
  ("dirname", working printFronts), ("yes", working repeatLine), ("sleep", working sleep),
  ("cat", working showTexts), ("tee", working copyInput),
  ("head", working printStarts 1 outputFault), ("tail", working printEnds 1 outputFault),
  ("wc", working printCounts),
  ("sort", working sortLines 2 "write failed: 'standard output'"), ("uniq", working showDistinct),
  ("cut", working showParts), ("tr", working changeCharacters), ("seq", working countUp),
  ("expr", working printValue 3), ("env", working launchWith 125),
  ("grep", working (searchLines .basic) 2), ("sed", working editLines 4 "couldn't flush stdout"),
  ("chmod", working changeModes), ("mkdir", working makeDirectories),
  ("rmdir", working removeDirectories), ("rm", working removeFiles), ("touch", working touchFiles),
  ("cp", working copyFiles), ("mv", working moveFiles), ("ls", working listFiles 2),
  ("sh", Shell.shellProcess .plain), ("dash", Shell.shellProcess .plain),
  ("bash", Shell.shellProcess .extended)]

/-- The program with a name. -/
def programNamed : Programs := fun name => installedPrograms.lookup name

end Buildwright.Sandbox
