import NetWarden.Matching

/-!
# Notes on what matched

While filters run, a note is made of every rule that matched one: under the group of the rule, in
the list of the filter's direction. A rule is noted once in a list; whether it is there is seen by
its id, so a second rule with the same id is not noted and the first stays.
-/

namespace NetWarden

/-- The rules of one group that matched, by the direction of the filter. -/
abbrev GroupMatches := ByDirection (List Rule)

namespace GroupMatches

/-- Nothing matched. -/
def none : GroupMatches := .both []

/-- A field with rules, left out without any. -/
def rulesField (rules : List Rule) : Option Json :=
  if rules.isEmpty then Option.none else some (.arr (rules.map Rule.toJson))

/-- The record of the matches of a group. -/
def toJson (m : GroupMatches) : Json :=
  .record [("MatchedIngress", rulesField m.ingress), ("MatchedEgress", rulesField m.egress)]

/-- The matches of a record. -/
def read? {σ : Type} [Source σ] (s : σ) : Option GroupMatches := do
  let f ← Source.fields? ["MatchedIngress", "MatchedEgress"] s
  return {
    ingress := ← f.defaulted "MatchedIngress" []
    egress := ← f.defaulted "MatchedEgress" [] }

instance : Readable GroupMatches := ⟨read?⟩

end GroupMatches

/-- The notes on all groups, by their ids. -/
structure MatchNotes where
  /-- The matches of each group that has a note. -/
  groups : Dictionary GroupMatches := .empty
deriving DecidableEq, Repr

namespace MatchNotes

/-- The rules noted under a group in a list. -/
def matched (n : MatchNotes) (groupId : String) (d : Direction) : List Rule :=
  match n.groups.get? groupId with
  | some m => m.get d
  | none => []

/-- Whether a rule with this id is noted under a group in a list. -/
def isNoted (n : MatchNotes) (r : Rule) (d : Direction) : Bool :=
  (n.matched r.groupId d).any fun s ↦ s.id == r.id

/-- The notes after a rule matched a filter of a direction. -/
def note (n : MatchNotes) (r : Rule) (d : Direction) : MatchNotes :=
  if n.isNoted r d then n
  else
    let m := (n.groups.get? r.groupId).getD .none
    ⟨n.groups.insert r.groupId (m.set d (m.get d ++ [r]))⟩

/-- The notes after several rules matched, in order. -/
def noteAll (n : MatchNotes) (found : List (Rule × Direction)) : MatchNotes :=
  found.foldl (fun n f ↦ n.note f.1 f.2) n

/-- The number of notes. -/
def size (n : MatchNotes) : Nat :=
  n.groups.values.foldr (fun m count ↦ m.ingress.length + m.egress.length + count) 0

/-- Whether there are no notes. -/
def isEmpty (n : MatchNotes) : Bool := n.size == 0

/-- Everything noted: the groups in order, in each what came in before what went out. -/
def toList (n : MatchNotes) : List (Rule × Direction) :=
  n.groups.values.flatMap fun m ↦ Direction.all.flatMap fun d ↦ (m.get d).map (·, d)

/-- The notes on rules with one of these ids, and no others. -/
def keepOnly (n : MatchNotes) (ids : List String) : MatchNotes :=
  MatchNotes.noteAll ⟨.empty⟩ (n.toList.filter fun f ↦ ids.contains f.1.id)

/-- The record of the notes. -/
def toJson (n : MatchNotes) : Json := .obj (n.groups.entries.map fun e ↦ (e.1, e.2.toJson))

instance : Readable MatchNotes := ⟨fun s ↦ (Readable.read? s).map MatchNotes.mk⟩

end MatchNotes

namespace RuleFilter

/-- The rules that match a filter, in order, and the notes after them. -/
def selectNoting (f : RuleFilter) (rules : List Rule) (n : MatchNotes) : List Rule × MatchNotes :=
  let selected := rules.filter f.admits
  (selected, n.noteAll (selected.map (·, f.direction)))

end RuleFilter

end NetWarden
