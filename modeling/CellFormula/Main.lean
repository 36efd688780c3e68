import CellFormula.CommandLine

/-! # The program -/

/-- Run the command that the arguments name, print what it leaves behind and give its exit code. -/
def main (args : List String) : IO UInt32 := do
  let outcome := CellFormula.CommandLine.run args
  IO.print outcome.stdout
  IO.eprint outcome.stderr
  return outcome.exitCode.toUInt32
