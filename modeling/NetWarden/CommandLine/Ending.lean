import NetWarden.Failure

/-!
# How a command ends

A command ends with an exit code, the text it writes to its output, and the lines that it writes
beside it, which tell what was done and at last why the command failed, if it did.
-/

namespace NetWarden.CommandLine

/-- How a command ends. -/
structure Ending where
  /-- The exit code. -/
  exitCode : UInt8 := 0
  /-- The text on the output. -/
  output : String := ""
  /-- The lines beside the output. -/
  notes : List String := []
  /-- Why the command failed, if it did. -/
  failure : Option Failure := none
deriving DecidableEq, Repr, Inhabited

namespace Ending

/-- A command that did what it was to do. -/
def done (output : String) (notes : List String) : Ending := { output, notes }

/-- A command that failed after writing a text and notes. -/
def failed (output : String) (notes : List String) (f : Failure) : Ending :=
  { exitCode := 1, output, notes, failure := some f }

/-- All lines beside the output: the notes, then the failure. -/
def lines (e : Ending) : List String :=
  e.notes ++ match e.failure with
    | some f => f.lines
    | none => []

end Ending

end NetWarden.CommandLine
