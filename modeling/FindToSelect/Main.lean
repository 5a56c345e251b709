import FindToSelect.Console

/-!
# The program

The outer layer: it reads the settings file, the arguments and the standard input, and prints the
lines that `FindToSelect.Console` gives for them, in a session after each line of input.
-/

namespace FindToSelect.Console

/-- Prints a line on its stream. -/
def Line.print : Line → IO Unit
  | .out text => do
    IO.println text
    (← IO.getStdout).flush
  | .err text => IO.eprintln text

/-- What stands at the path of the settings file. -/
def readSettingsFile : IO Settings.File := do
  try
    return .content (← IO.FS.readBinFile settingsPath)
  catch
    | .noFileOrDirectory _ _ _ => return .missing
    | _ => return .directory

/-- Reads the lines of a session and prints the output of each, until the session ends, and gives
the exit code. -/
partial def sessionLoop (naming : Naming) : IO UInt32 := do
  let line ← (← IO.getStdin).getLine
  if line.isEmpty then return 0
  match meantLine line.toList with
  | none => return brokenOff.toUInt32
  | some line =>
    match step naming line with
    | none => return 0
    | some (naming, lines) => do
      lines.forM Line.print
      sessionLoop naming

/-- Runs the program on its arguments and gives its exit code. -/
def start (arguments : List String) : IO UInt32 := do
  match startSettings (← readSettingsFile) with
  | .error _ =>
    loadFailure.print
    return 1
  | .ok settings =>
    let naming := namingOf settings arguments
    match queriesOf arguments with
    | [] =>
      banner.forM Line.print
      sessionLoop naming
    | queries =>
      queries.forM fun query => (answer naming query).print
      return 0

end FindToSelect.Console

def main (arguments : List String) : IO UInt32 :=
  FindToSelect.Console.start arguments
