import NetWarden.Validation

/-!
# Queries for rules

What a store is asked for when it lists rules: every attribute that is set must be the rule's own. A
query without groups asks for the rules of all groups, so a query without anything asks for all
rules.
-/

namespace NetWarden

/-- What rules are asked for. -/
structure RuleQuery where
  /-- The groups, to one of which a rule must belong; any group if there are none. -/
  groupIds : List String := []
  /-- The direction of the rule. -/
  direction : Option Direction := none
  /-- The id of the rule. -/
  id : Option String := none
  /-- The protocol. -/
  protocol : Option String := none
  /-- What people wrote about the rule. -/
  description : Option String := none
  /-- The group of the other end. -/
  remoteGroupId : Option String := none
  /-- Whether the traffic may pass. -/
  action : Option RuleAction := none
  /-- The addresses at the other end. -/
  remotePrefix : Option String := none
  /-- The place of the rule among the others. -/
  priority : Option Int64 := none
  /-- The family of addresses. -/
  ethertype : Option String := none
  /-- The address group of the other end. -/
  remoteAddressGroupId : Option String := none
deriving DecidableEq, Repr, Inhabited

namespace RuleQuery

/-- The attributes that a query takes. -/
def attributes : List String :=
  ["id", "protocol", "description", "remote_group_id", "action", "remote_ip_prefix", "priority",
    "ethertype", "remote_address_group_id"]

/-- All rules of a direction in groups. -/
def ofGroups (groupIds : List String) (d : Direction) : RuleQuery :=
  { groupIds, direction := some d }

/-- The query for the rules of a direction that have the given attributes. -/
def ofAttributes (d : Direction) (b : Block) : Checked RuleQuery := do
  Block.allowOnly b attributes (.removalEntry d)
  let action ← Block.optional b "action" RuleAction.check
  let description ← Block.optional b "description" Checked.text
  let ethertype ← Block.optional b "ethertype" Checked.text
  let id ← Block.optional b "id" Checked.text
  let priority ← Block.optional b "priority" Checked.writtenInteger
  let protocol ← Block.optional b "protocol" Checked.text
  let remoteAddressGroupId ← Block.optional b "remote_address_group_id" Checked.text
  let remoteGroupId ← Block.optional b "remote_group_id" Checked.text
  let remotePrefix ← Block.optional b "remote_ip_prefix" Checked.text
  return {
    direction := some d, id, protocol, description, remoteGroupId, action, remotePrefix, priority
    ethertype, remoteAddressGroupId }

/-- The same query in these groups. -/
def inGroups (q : RuleQuery) (groupIds : List String) : RuleQuery := { q with groupIds }

/-- Whether an attribute is not asked for, or is stated just so. -/
def agrees {α : Type} [BEq α] (wanted stated : Option α) : Bool :=
  match wanted with
  | none => true
  | some w => stated == some w

/-- Whether a rule is asked for. -/
def selects (q : RuleQuery) (r : Rule) : Bool :=
  (q.groupIds.isEmpty || q.groupIds.contains r.groupId) &&
    agrees q.direction (some r.direction) &&
    agrees q.id (some r.id) &&
    agrees q.protocol r.protocol &&
    agrees q.description r.description &&
    agrees q.remoteGroupId r.remoteGroupId &&
    agrees q.action r.action &&
    agrees q.remotePrefix r.remotePrefix &&
    agrees q.priority r.priority &&
    agrees q.ethertype r.ethertype &&
    agrees q.remoteAddressGroupId r.remoteAddressGroupId

/-- The fields of a query's record. -/
def fieldNames : List String := ["security_group_ids", "direction"] ++ attributes

/-- The record of a query. -/
def toJson (q : RuleQuery) : Json :=
  .record [
    ("security_group_ids",
      if q.groupIds.isEmpty then none else some (.arr (q.groupIds.map .str))),
    ("direction", Json.optionalText (q.direction.map Direction.name)),
    ("id", Json.optionalText q.id), ("protocol", Json.optionalText q.protocol),
    ("description", Json.optionalText q.description),
    ("remote_group_id", Json.optionalText q.remoteGroupId),
    ("action", Json.optionalText (q.action.map RuleAction.name)),
    ("remote_ip_prefix", Json.optionalText q.remotePrefix),
    ("priority", Json.optionalInt q.priority), ("ethertype", Json.optionalText q.ethertype),
    ("remote_address_group_id", Json.optionalText q.remoteAddressGroupId)]

/-- The query of a record. -/
def read? {σ : Type} [Source σ] (s : σ) : Option RuleQuery := do
  let f ← Source.fields? fieldNames s
  return {
    groupIds := ← f.defaulted "security_group_ids" []
    direction := ← f.optional "direction"
    id := ← f.optional "id"
    protocol := ← f.optional "protocol"
    description := ← f.optional "description"
    remoteGroupId := ← f.optional "remote_group_id"
    action := ← f.optional "action"
    remotePrefix := ← f.optional "remote_ip_prefix"
    priority := ← f.optional "priority"
    ethertype := ← f.optional "ethertype"
    remoteAddressGroupId := ← f.optional "remote_address_group_id" }

instance : Readable RuleQuery := ⟨read?⟩

@[simp] theorem agrees_none {α : Type} [BEq α] (stated : Option α) :
    agrees none stated = true :=
  rfl

end RuleQuery

end NetWarden
