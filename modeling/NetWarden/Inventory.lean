import NetWarden.FlowLog
import NetWarden.Group
import NetWarden.NetworkPort
import NetWarden.Rule

/-!
# Inventories

All resources of a project at one time: its groups with their rules, its ports and its flow logs,
each in the order of the store. An inventory is kept in a file as JSON or YAML; a file that is to
hold one has no other fields than these.
-/

namespace NetWarden

/-- The resources of a project. -/
structure Inventory where
  /-- The security groups. -/
  groups : List Group := []
  /-- The rules of the groups. -/
  rules : List Rule := []
  /-- The network ports. -/
  ports : List NetworkPort := []
  /-- The flow logs. -/
  flowLogs : List FlowLog := []
deriving DecidableEq, Repr, Inhabited

namespace Inventory

/-- Whether there are no resources. -/
def isEmpty (i : Inventory) : Bool :=
  i.groups.isEmpty && i.rules.isEmpty && i.ports.isEmpty && i.flowLogs.isEmpty

/-- The fields of an inventory's record. -/
def fieldNames : List String := ["security_groups", "security_group_rules", "ports", "flow_logs"]

/-- The record of an inventory. -/
def toJson (i : Inventory) : Json :=
  .obj [("security_groups", .arr (i.groups.map Group.toJson)),
    ("security_group_rules", .arr (i.rules.map Rule.toJson)),
    ("ports", .arr (i.ports.map NetworkPort.toJson)),
    ("flow_logs", .arr (i.flowLogs.map FlowLog.toJson))]

/-- The inventory of a record. -/
def read? {σ : Type} [Source σ] (s : σ) : Option Inventory := do
  let f ← Source.closedFields? fieldNames s
  return {
    groups := ← f.defaulted "security_groups" []
    rules := ← f.defaulted "security_group_rules" []
    ports := ← f.defaulted "ports" []
    flowLogs := ← f.defaulted "flow_logs" [] }

instance : Readable Inventory := ⟨read?⟩

end Inventory

end NetWarden
