import NetWarden.Store.Basic

/-!
# What the calls do

The calls of a store, each as the change it makes. Listing changes nothing. Deleting takes away the
first record with the id, and with a group all rules that name it. Switching a flow log changes
nothing else of it. Creating adds to the end, with the next ids of the supply.
-/

namespace NetWarden

/-- The list with the first element changed that passes a test, and that element after the change.
-/
def changeFirst {α : Type} (test : α → Bool) (change : α → α) : List α → Option (α × List α)
  | [] => none
  | a :: rest =>
    if test a then some (change a, change a :: rest)
    else (changeFirst test change rest).map fun r ↦ (r.1, a :: r.2)

/-- The list without the first element that passes a test, if there is one. -/
def dropFirst? {α : Type} (test : α → Bool) (items : List α) : Option (List α) :=
  if items.any test then some (items.eraseP test) else none

namespace Store

/-- The next ids of resources, as many as there are templates, each with its template. -/
def withIds {α : Type} (s : Store) (templates : List α) : List (String × α) :=
  templates.mapIdx fun k t ↦ (s.supply.resource (s.created + k + 1), t)

/-- The rules that a query selects. -/
def listRules (query : RuleQuery) : Attempt (List Rule) :=
  attempt (.listRules query) fun s ↦ some (s.inventory.rules.filter query.selects, s)

/-- Deletes a rule. -/
def deleteRule (id : String) : Attempt Unit :=
  attempt (.deleteRule id) fun s ↦ do
    let rules ← dropFirst? (fun (r : Rule) ↦ r.id == id) s.inventory.rules
    some ((), s.update fun i ↦ { i with rules })

/-- Creates rules in a group, whether or not the group is there. -/
def createRules (groupId : String) (templates : List RuleTemplate) : Attempt (List Rule) :=
  attempt (.createRules groupId templates) fun s ↦
    let rules := (s.withIds templates).map fun t ↦ t.2.toRule t.1 groupId
    some (rules,
      { s.update fun i ↦ { i with rules := i.rules ++ rules } with
        created := s.created + templates.length })

/-- All groups. -/
def listGroups : Attempt (List Group) :=
  attempt .listGroups fun s ↦ some (s.inventory.groups, s)

/-- Deletes a group and its rules. -/
def deleteGroup (id : String) : Attempt Unit :=
  attempt (.deleteGroup id) fun s ↦ do
    let groups ← dropFirst? (fun (g : Group) ↦ g.id == id) s.inventory.groups
    some ((), s.update fun i ↦
      { i with groups, rules := i.rules.filter fun r ↦ r.groupId != id })

/-- The ports that are bound to one of these groups. -/
def listPorts (groupIds : List String) : Attempt (List NetworkPort) :=
  attempt (.listPorts groupIds) fun s ↦
    some (s.inventory.ports.filter fun p ↦ p.groupIds.any groupIds.contains, s)

/-- All ports. -/
def listAllPorts : Attempt (List NetworkPort) :=
  attempt .listAllPorts fun s ↦ some (s.inventory.ports, s)

/-- All flow logs. -/
def listFlowLogs : Attempt (List FlowLog) :=
  attempt .listFlowLogs fun s ↦ some (s.inventory.flowLogs, s)

/-- Switches a flow log on or off. -/
def updateFlowLog (id : String) (adminState : Bool) : Attempt FlowLog :=
  attempt (.updateFlowLog id adminState) fun s ↦ do
    let (changed, flowLogs) ←
      changeFirst (fun (f : FlowLog) ↦ f.id == id) ({ · with adminState }) s.inventory.flowLogs
    some (changed, s.update fun i ↦ { i with flowLogs })

/-- Deletes a flow log. -/
def deleteFlowLog (id : String) : Attempt Unit :=
  attempt (.deleteFlowLog id) fun s ↦ do
    let flowLogs ← dropFirst? (fun (f : FlowLog) ↦ f.id == id) s.inventory.flowLogs
    some ((), s.update fun i ↦ { i with flowLogs })

/-- Creates a flow log for a target. -/
def createFlowLog (resourceType resourceId : String) (template : FlowLogTemplate) :
    Attempt FlowLog :=
  attempt (.createFlowLog resourceType resourceId template) fun s ↦
    let flowLog := template.toFlowLog (s.supply.resource (s.created + 1)) resourceType resourceId
    some (flowLog,
      { s.update fun i ↦ { i with flowLogs := i.flowLogs ++ [flowLog] } with
        created := s.created + 1 })

end Store

end NetWarden
