import NetWarden.Format
import NetWarden.Text.Split

/-!
# Failures of a command

A command fails for a chain of causes, the outermost first: what was to be done, and why it could
not be. The innermost cause may be one that only the reader of a format or the keeper of a file
could put into words; such a cause is kept as a `FileFault`.

`Failure.lines` is the chain as it is shown: a single inner cause is indented, several are numbered.
-/

namespace NetWarden

/-- What may be wrong with a file. -/
inductive FileFault where
  /-- The file cannot be read or written. -/
  | inaccessible
  /-- The text of the file is no such document. -/
  | unreadable (format : Format)
deriving DecidableEq, Repr

/-- What is wrong with a file, in words. -/
def FileFault.message : FileFault → String
  | .inaccessible => "the file cannot be accessed"
  | .unreadable .json => "the text is not the JSON that is expected"
  | .unreadable .yaml => "the text is not the YAML that is expected"

/-- One cause of a failure. -/
inductive Cause where
  /-- A cause that is told in words. -/
  | told (text : String)
  /-- A fault of a file, with the words in front of it. -/
  | fault (before : String) (f : FileFault)
deriving DecidableEq, Repr

/-- A cause in words. -/
def Cause.message : Cause → String
  | told text => text
  | fault before f => before ++ f.message

/-- Why a command failed. -/
structure Failure where
  /-- The outermost cause. -/
  outermost : Cause
  /-- The causes of it, each that of the one before it. -/
  inner : List Cause := []
deriving DecidableEq, Repr

namespace Failure

/-- A failure for one cause, told in words. -/
def of (text : String) : Failure := ⟨.told text, []⟩

/-- A failure because of a file. -/
def ofFault (f : FileFault) : Failure := ⟨.fault "" f, []⟩

/-- All causes, the outermost first. -/
def causes (f : Failure) : List Cause := f.outermost :: f.inner

/-- A failure told as the cause of another. -/
def within (text : String) (f : Failure) : Failure := ⟨.told text, f.causes⟩

/-- The failure of a chain of causes told in words; the first is the outermost. -/
def ofChain (first : String) (rest : List String) : Failure := ⟨.told first, rest.map .told⟩

/-! ### How a failure is shown -/

/-- The lines of a text. -/
def textLines (s : String) : List String := (Text.splitOn '\n' s.toList).map String.ofList

/-- The lines of a text, with something in front of the first and of the others. -/
def hung (first others : String) (s : String) : List String :=
  match textLines s with
  | [] => []
  | line :: lines => (first ++ line) :: lines.map (others ++ ·)

/-- What stands in front of the first line of an inner cause, with its number if it has one. -/
def lead : Option Nat → String
  | none => "    "
  | some n =>
    let shown := Text.digits n
    String.ofList (List.replicate (5 - shown.length) ' ') ++ shown ++ ": "

/-- What stands in front of the other lines of an inner cause. -/
def hangingLead : Option Nat → String
  | none => "    "
  | some _ => "       "

/-- The lines of an inner cause, with its number if it has one. -/
def causeLines (number : Option Nat) (c : Cause) : List String :=
  hung (lead number) (hangingLead number) c.message

/-- The numbers of the inner causes; a single one has none. -/
def numbers (f : Failure) : List (Option Nat) :=
  if f.inner.length ≤ 1 then f.inner.map fun _ ↦ none
  else (List.range f.inner.length).map some

/-- The lines of a failure: the outermost cause, and below it the inner ones. -/
def lines (f : Failure) : List String :=
  hung "Error: " "" f.outermost.message ++
    if f.inner.isEmpty then []
    else ["", "Caused by:"] ++ (List.zipWith causeLines f.numbers f.inner).flatten

end Failure

end NetWarden
