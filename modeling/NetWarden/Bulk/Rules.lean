import NetWarden.Bulk.Outcome
import NetWarden.Removal

/-!
# Adding and removing rules

The actions on rules. Each is given rules, and what it does stays within the groups that these
belong to: a removal of all rules of a direction or of rules described by their attributes asks only
for rules of those groups, and asks for nothing if there are none, since a query without groups asks
for the rules of all groups.

A removal works through what comes in and then what goes out. In each direction it first finds the
rules, then deletes them one by one; a rule that several entries describe is deleted once. An
addition makes one call for each group, for the templates of both directions together.
-/

namespace NetWarden

/-- The groups that rules belong to, each once, in order. -/
def affectedGroups (rules : List Rule) : List String := sortedDistinct (rules.map Rule.groupId)

namespace Bulk

/-- Deletes a rule. -/
def deleteRule (r : Rule) : StoreM (Outcome Rule) := do
  return (← Outcome.of r.id .deleteRule (Store.deleteRule r.id)).map fun _ ↦ r

/-- Deletes rules one by one. -/
def deleteEach (rules : List Rule) : StoreM (List (Outcome Rule)) := rules.mapM deleteRule

/-- Deletes all given rules. -/
def deleteRules (rules : List Rule) : StoreM (BulkResult Rule) := do
  return .ofOutcomes (← deleteEach rules)

/-- Lists rules of a direction. -/
def listRules (d : Direction) (query : RuleQuery) : StoreM (Outcome (List Rule)) :=
  Outcome.of d.name .listRules (Store.listRules query)

/-- The rules that queries find, each once, and the queries that failed. -/
def found (listings : List (Outcome (List Rule))) : List FailureRecord × List Rule :=
  (listings.filterMap Outcome.failure?,
    distinctOn Rule.id [] (listings.filterMap Outcome.value?).flatten)

/-- The rules of a direction to remove, and the queries for them that failed. -/
def targets (rules : List Rule) (d : Direction) (removal : Removal) :
    StoreM (List FailureRecord × List Rule) := do
  let groupIds := affectedGroups rules
  match removal with
  | .matched => return ([], rules.filter fun r ↦ r.direction == d)
  | .all =>
    if groupIds.isEmpty then return ([], [])
    else
      match ← listRules d (.ofGroups groupIds d) with
      | .ok rules => return ([], rules)
      | .error f => return ([f], [])
  | .explicit queries =>
    if groupIds.isEmpty then return ([], [])
    else return found (← queries.mapM fun q ↦ listRules d (q.inGroups groupIds))

/-- Removes the rules of a direction that a plan names. -/
def removeDirection (rules : List Rule) (plan : RemovalPlan) (d : Direction) :
    StoreM (List (Outcome Rule)) := do
  match plan.get d with
  | none => return []
  | some removal =>
    let (failed, toRemove) ← targets rules d removal
    let deleted ← deleteEach toRemove
    return failed.map Except.error ++ deleted

/-- Removes the rules that a plan names. -/
def removeRules (rules : List Rule) (plan : RemovalPlan) : StoreM (BulkResult Rule) := do
  return .ofOutcomes (← Direction.all.mapM (removeDirection rules plan)).flatten

/-- Creates rules in a group. -/
def addToGroup (templates : List RuleTemplate) (groupId : String) :
    StoreM (Outcome (List Rule)) :=
  Outcome.of groupId .createRules (Store.createRules groupId templates)

/-- Creates rules in each group; a group that is named again gets no more. -/
def addRules (groupIds : List String) (templates : RuleTemplates) : StoreM (BulkResult Rule) := do
  if templates.isEmpty then return .none
  else
    let created ← (distinctOn id [] groupIds).mapM (addToGroup templates.toList)
    return ⟨(created.filterMap Outcome.value?).flatten, created.filterMap Outcome.failure?⟩

/-- Adds rules to the groups of the given ones, then removes what a plan names: what was added and
what was removed. -/
def setRules (rules : List Rule) (add : RuleTemplates) (plan : RemovalPlan) :
    StoreM (BulkResult Rule × BulkResult Rule) := do
  let added ← addRules (affectedGroups rules) add
  let removed ← removeRules rules plan
  return (added, removed)

end Bulk

end NetWarden
