import Provision.Script.Run

/-!
The registration example as a program: it prints what its two kinds of runs give.
-/

namespace Provision

/-- The case that runs the example once. -/
def exampleCase : Script.Case :=
  ⟨[], [⟨false, .library "main" [] [], none, none⟩], false⟩

end Provision

/-- Prints what the example prints. -/
def main : IO Unit := do
  for result in Provision.exampleCase.run do
    IO.print result.printed
