import NetWarden.RuleQuery

/-!
# Which rules to remove

Of each direction an action removes the rules that it was given, all rules of the groups that these
belong to, or the rules of those groups that entries describe by their attributes. A direction for
which nothing is said is left alone.
-/

namespace NetWarden

/-- Which rules of a direction to remove. -/
inductive Removal where
  /-- The rules that the action was given. -/
  | matched
  /-- All rules of the groups that they belong to. -/
  | all
  /-- The rules of those groups that one of the queries selects. -/
  | explicit (queries : List RuleQuery)
deriving DecidableEq, Repr

namespace Removal

/-- The query of an entry, which has attributes enough. -/
def checkEntry (d : Direction) (v : Json) : Checked RuleQuery := do
  let b ← Checked.block d.name v
  if b.size < minRemovalAttributes then throw (.invalidRemoval d (.tooFew b.size))
  RuleQuery.ofAttributes d b

/-- The removal that a value gives. -/
def check (d : Direction) (v : Json) : Checked Removal :=
  match v with
  | .str s =>
    if s = "matched" then .ok .matched
    else if s = "all" then .ok .all
    else .error (.invalidRemoval d (.noRemoval v))
  | .arr entries => .explicit <$> entries.mapM (checkEntry d)
  | _ => .error (.invalidRemoval d (.noRemoval v))

end Removal

/-- Which rules to remove, for each direction; `none` leaves it alone. -/
abbrev RemovalPlan := ByDirection (Option Removal)

namespace RemovalPlan

/-- Nothing is removed. -/
def none : RemovalPlan := .both Option.none

/-- The rules that the action was given, in both directions. -/
def matched : RemovalPlan := .both (some .matched)

end RemovalPlan

end NetWarden
