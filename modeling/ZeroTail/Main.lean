import ZeroTail.Report

/-!
# The command line

Prints the report on the arguments and leaves with its exit code.
-/

/-- Report on the fixture that the arguments ask for. -/
def main (arguments : List String) : IO UInt32 := do
  let outcome := ZeroTail.Report.ofArguments arguments
  (← IO.getStdout).putStr outcome.output
  (← IO.getStderr).putStr outcome.errors
  return outcome.exitCode
