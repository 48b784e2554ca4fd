import NetWarden.Text.Blank
import NetWarden.Text.Numeral
import NetWarden.Text.Split

/-!
# Filters of log messages

Which messages are logged is said by a list of directives between commas: a level, the source of
messages, a span in brackets, and after an equals sign the level for these. A level has a name, in
letters of either case, or a number up to five.

Nothing is logged here; but a text that is no such list is rejected, and this is where it is told.
-/

namespace NetWarden.CommandLine

/-- Why a text is no filter of messages. -/
inductive LogFilterFault where
  /-- A directive has not the form of one. -/
  | malformed
  /-- There is no such level. -/
  | unknownLevel
deriving DecidableEq, Repr

namespace LogFilter

/-- The names of the levels. -/
def levelNames : List String := ["off", "error", "warn", "info", "debug", "trace"]

/-- Whether a text names a level. -/
def isLevel (cs : List Char) : Bool :=
  match Text.unsigned? (UInt64.size - 1) cs with
  | some n => decide (n ≤ 5)
  | none => cs.isEmpty || levelNames.contains (String.ofList (cs.map Char.toLower))

/-- Whether the level after an equals sign is one; without a level, all messages are meant. -/
def checkLevel (cs : List Char) : Except LogFilterFault Unit :=
  if isLevel cs then .ok () else .error .unknownLevel

/-- What may follow a span: nothing, or a level. -/
def checkAfterSpan : List Char → Except LogFilterFault Unit
  | [] => .ok ()
  | '=' :: level => checkLevel level
  | _ => .error .malformed

/-- What follows the opening bracket of a span. -/
def checkSpan (cs : List Char) : Except LogFilterFault Unit :=
  match Text.splitOnce ']' cs with
  | some (_, rest) => checkAfterSpan rest
  | none => .error .malformed

/-- What follows the start of a source or level. -/
def checkSource : List Char → Except LogFilterFault Unit
  | [] => .ok ()
  | '=' :: level => checkLevel level
  | '[' :: span => checkSpan span
  | _ :: rest => checkSource rest

/-- Whether a directive may begin with a character. -/
def mayBegin (c : Char) : Bool := c.isAlphanum || c == '-' || c == ':' || c == '_' || 127 < c.toNat

/-- Checks a directive. -/
def checkDirective (cs : List Char) : Except LogFilterFault Unit :=
  match Text.trimChars cs with
  | [] => .error .malformed
  | '[' :: span => checkSpan span
  | c :: rest => if mayBegin c then checkSource rest else .error .malformed

/-- Checks a list of directives; empty ones do not count. -/
def check (s : String) : Except LogFilterFault Unit :=
  ((Text.splitOn ',' s.toList).filter fun d ↦ !d.isEmpty).forM checkDirective

end LogFilter

end NetWarden.CommandLine
