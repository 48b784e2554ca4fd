import NetWarden.FlowLog
import NetWarden.Group
import NetWarden.MatchNotes
import NetWarden.NetworkPort
import NetWarden.Policy.Basic

/-!
# The resources of a run

A run works on resources of one kind, in the order of the store. A filter gives a verdict on each of
them, and the verdicts, in the same order, are the *mask* by which some are kept.
-/

namespace NetWarden

/-- Resources of one kind. -/
inductive ResourceSet where
  /-- Rules. -/
  | rules (items : List Rule)
  /-- Groups. -/
  | groups (items : List Group)
  /-- Flow logs. -/
  | flowLogs (items : List FlowLog)
  /-- Network ports. -/
  | ports (items : List NetworkPort)
deriving DecidableEq, Repr

/-- The elements of a list whose verdict in a mask is true. -/
def keepMasked {α : Type} (items : List α) (mask : List Bool) : List α :=
  ((items.zip mask).filter Prod.snd).map Prod.fst

namespace ResourceSet

/-- The kind of the resources. -/
def kind : ResourceSet → ResourceKind
  | .rules _ => .rule
  | .groups _ => .group
  | .flowLogs _ => .flowLog
  | .ports _ => .port

/-- The number of resources. -/
def size : ResourceSet → Nat
  | .rules items => items.length
  | .groups items => items.length
  | .flowLogs items => items.length
  | .ports items => items.length

/-- The records of the resources, which filters by a value look at. -/
def toJsons : ResourceSet → List Json
  | .rules items => items.map Rule.toJson
  | .groups items => items.map Group.toJson
  | .flowLogs items => items.map FlowLog.toJson
  | .ports items => items.map NetworkPort.toJson

/-- The resources whose verdict in a mask is true. -/
def keep (mask : List Bool) : ResourceSet → ResourceSet
  | .rules items => .rules (keepMasked items mask)
  | .groups items => .groups (keepMasked items mask)
  | .flowLogs items => .flowLogs (keepMasked items mask)
  | .ports items => .ports (keepMasked items mask)

/-- The rules among the resources. -/
def ruleItems : ResourceSet → List Rule
  | .rules items => items
  | _ => []

end ResourceSet

namespace PolicyFilter

mutual

/-- The rules that match a filter of rules anywhere in a filter, each with the direction of the
filter that it matches, in the order in which the filters stand. Every filter is looked at, whatever
the others say. -/
def matchesIn (rules : List Rule) : PolicyFilter → List (Rule × Direction)
  | .rules f => (rules.filter f.admits).map (·, f.direction)
  | .anyOf fs => allMatchesIn rules fs
  | .allOf fs => allMatchesIn rules fs
  | .unattached => []
  | .value _ => []

/-- The matches of several filters, one after the other. -/
def allMatchesIn (rules : List Rule) : List PolicyFilter → List (Rule × Direction)
  | [] => []
  | f :: fs => matchesIn rules f ++ allMatchesIn rules fs

end

end PolicyFilter

end NetWarden
