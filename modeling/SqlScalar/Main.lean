import SqlScalar.CommandLine

/-! # Main program -/

open SqlScalar

/-- Prints the report that the arguments ask for. -/
def main (arguments : List String) : IO UInt32 := do
  let response := CommandLine.respond arguments
  for line in response.output do
    IO.println line
  if response.complaint != "" then
    IO.eprintln response.complaint
  return response.exitCode
