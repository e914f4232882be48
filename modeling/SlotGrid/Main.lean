import SlotGrid.CommandLine

/-!
# The program

Prints what a run of the command line leaves behind: its output, the part of its
log that the environment asks for, and its exit code.
-/

open SlotGrid

/-- The variable that says which records of the log are shown. -/
def filterVariable : String := "RUST_LOG"

/-- Warnings and errors are shown unless the variable is set. -/
def defaultFilter : Log.Filter := [⟨"", some .warn⟩]

def main (arguments : List String) : IO UInt32 := do
  let given ← IO.getEnv filterVariable
  let filter := (given.map Log.Filter.ofText).getD defaultFilter
  let outcome := CommandLine.run arguments
  IO.eprint (filter.text outcome.records)
  IO.print outcome.output
  return outcome.exitCode.toUInt32
