import NetWarden.Bulk.FlowLogs
import NetWarden.Policy.Filter
import NetWarden.Removal

/-!
# The actions of a policy

What a policy does to the resources that its filters keep. An action that has nothing but a `type`
may be written as that word alone. Removing rules is about the rules it is given, unless it says
otherwise for a direction; setting rules leaves alone what it says nothing about.
-/

namespace NetWarden

/-- A checked action. -/
inductive PolicyAction where
  /-- The resources are deleted. -/
  | delete
  /-- Rules are removed. -/
  | removeRules (plan : RemovalPlan)
  /-- Rules are added, then others removed. -/
  | setRules (add : RuleTemplates) (remove : RemovalPlan)
  /-- Flow logs are changed. -/
  | setFlowLog (change : FlowLogChange)
deriving DecidableEq, Repr

namespace PolicyAction

/-- What a key says about a direction, if it is there. -/
def forDirection {α : Type} (b : Block) (key : String) (d : Direction)
    (check : Direction → Json → Checked α) : Checked (Option α) :=
  Block.optional b key fun _ v ↦ check d v

/-- An action that removes rules. -/
def removeRulesOf (b : Block) : Checked PolicyAction := do
  Block.allowOnly b ["type", "ingress", "egress"] .removeRulesAction
  let ingress ← forDirection b "ingress" .ingress Removal.check
  let egress ← forDirection b "egress" .egress Removal.check
  return .removeRules ⟨some (ingress.getD .matched), some (egress.getD .matched)⟩

/-- An action that adds and removes rules. -/
def setRulesOf (b : Block) : Checked PolicyAction := do
  Block.allowOnly b ["type", "add-ingress", "add-egress", "remove-ingress", "remove-egress"]
    .setRulesAction
  let addIngress ← forDirection b "add-ingress" .ingress RuleTemplates.check
  let removeIngress ← forDirection b "remove-ingress" .ingress Removal.check
  let addEgress ← forDirection b "add-egress" .egress RuleTemplates.check
  let removeEgress ← forDirection b "remove-egress" .egress Removal.check
  return .setRules ⟨addIngress.getD [], addEgress.getD []⟩ ⟨removeIngress, removeEgress⟩

/-- The templates of new flow logs. -/
def checkTemplates (key : String) (v : Json) : Checked (List FlowLogTemplate) := do
  (← Checked.found key .list v v.items?).mapM fun entry ↦ do
    FlowLogTemplate.ofAttributes (← Checked.block key entry)

/-- An action on flow logs. The attributes of new ones are looked at only if any are created. -/
def setFlowLogOf (b : Block) : Checked PolicyAction := do
  Block.allowOnly b ["type", "action", "create-attrs"] .setFlowLogAction
  let change ← Checked.text "action" (← Block.required b "action" .setFlowLogAction)
  if change = FlowLogChange.enable.name then return .setFlowLog .enable
  else if change = FlowLogChange.disable.name then return .setFlowLog .disable
  else if change = FlowLogChange.delete.name then return .setFlowLog .delete
  else if change = "create" then
    return .setFlowLog (.create ((← Block.optional b "create-attrs" checkTemplates).getD []))
  else throw (.invalidValue "action" (.choice .flowLogChange change))

/-- The action of a block. -/
def ofBlock (b : Block) : Checked PolicyAction := do
  let kind ← Checked.text "type" (← Block.required b "type" .action)
  if kind = "delete" then do
    Block.allowOnly b ["type"] .deleteAction
    return .delete
  else if kind = "remove-rules" then removeRulesOf b
  else if kind = "set-rules" then setRulesOf b
  else if kind = "set-flow-log" then setFlowLogOf b
  else throw (.invalidValue "type" (.unknownAction kind))

/-- The action of a value. -/
def ofJson : Json → Checked PolicyAction
  | .str s => ofBlock (PolicyFilter.blockOfWord s)
  | v => do ofBlock (← Checked.block "actions" v)

/-- The name of an action. -/
def name : PolicyAction → String
  | .delete => "delete"
  | .removeRules _ => "remove-rules"
  | .setRules .. => "set-rules"
  | .setFlowLog _ => "set-flow-log"

/-- Whether an action is about resources of a kind. -/
def supports (kind : ResourceKind) : PolicyAction → Bool
  | .delete => kind == .rule || kind == .group
  | .removeRules _ => kind == .rule
  | .setRules .. => kind == .rule
  | .setFlowLog _ => kind == .flowLog

end PolicyAction

end NetWarden
