import FrameSpans.CommandLine.Arguments
import FrameSpans.CommandLine.Report

/-!
# The command line program

Dissects the frame given on the command line and prints its report. With more verbosity the log of
the dissection is shown as well.
-/

namespace FrameSpans.CommandLine

/-- The log lines that are shown at a verbosity. -/
def Report.logLines (report : Report) (verbosity : UInt8) : List String :=
  let records := report.events.filterMap Event.log?
  let shown := if verbosity = 0 then []
    else if verbosity = 1 then records.filter (·.level == .debug)
    else records
  shown.map LogRecord.line

end FrameSpans.CommandLine

open FrameSpans CommandLine in
/-- Runs the program. -/
def main (arguments : List String) : IO UInt32 := do
  let stderr ← IO.getStderr
  match parse arguments with
  | .error error =>
    stderr.putStrLn error.message
    return (if error = .helpRequested ∨ error = .versionRequested then 0 else 1)
  | .ok settings =>
    match run settings with
    | .error error =>
      stderr.putStrLn ("[-] " ++ error.message)
      return 1
    | .ok report =>
      for line in report.logLines settings.verbosity do
        stderr.putStrLn line
      match report.text? with
      | none => return 1
      | some text =>
        IO.print text
        return 0
