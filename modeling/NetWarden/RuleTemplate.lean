import NetWarden.Validation

/-!
# Templates of new rules

What a new rule is to state. A policy gives it as attributes, at least one; what they leave out is
up to the store. The ports may be a number, since a rule with one port is the commonest of all.
-/

namespace NetWarden

/-- What a new rule is to state. -/
structure RuleTemplate where
  /-- The direction of the traffic. -/
  direction : Direction
  /-- What people wrote about the rule. -/
  description : Option String := none
  /-- The family of addresses. -/
  ethertype : Option String := none
  /-- The protocol. -/
  protocol : Option String := none
  /-- The ports. -/
  multiport : Option String := none
  /-- The addresses at the other end. -/
  remotePrefix : Option String := none
  /-- The group of the other end. -/
  remoteGroupId : Option String := none
  /-- The address group of the other end. -/
  remoteAddressGroupId : Option String := none
  /-- Whether the traffic may pass. -/
  action : Option RuleAction := none
  /-- The place of the rule among the others. -/
  priority : Option Int64 := none
deriving DecidableEq, Repr, Inhabited

namespace RuleTemplate

/-- The attributes that a template takes. -/
def attributes : List String :=
  ["description", "ethertype", "protocol", "multiport", "remote_ip_prefix", "remote_group_id",
    "remote_address_group_id", "action", "priority"]

/-- Ports as a text, or a whole number as the text that writes it. -/
def checkPorts (key : String) (v : Json) : Checked String :=
  match Checked.int64? v with
  | some n => .ok (Text.integer n.toInt)
  | none => Checked.text key v

/-- The template that attributes give. -/
def ofAttributes (d : Direction) (b : Block) : Checked RuleTemplate := do
  Block.allowOnly b attributes (.newRule d)
  if b.isEmpty then throw (.invalidValue ("add-" ++ d.name) .noAttributes)
  let action ← Block.optional b "action" RuleAction.check
  let description ← Block.optional b "description" Checked.text
  let ethertype ← Block.optional b "ethertype" Checked.text
  let multiport ← Block.optional b "multiport" checkPorts
  let priority ← Block.optional b "priority" Checked.writtenInteger
  let protocol ← Block.optional b "protocol" Checked.text
  let remoteAddressGroupId ← Block.optional b "remote_address_group_id" Checked.text
  let remoteGroupId ← Block.optional b "remote_group_id" Checked.text
  let remotePrefix ← Block.optional b "remote_ip_prefix" Checked.text
  return {
    direction := d, description, ethertype, protocol, multiport, remotePrefix, remoteGroupId
    remoteAddressGroupId, action, priority }

/-- The fields of a template's record. -/
def fieldNames : List String := "direction" :: attributes

/-- The record of a template. -/
def toJson (t : RuleTemplate) : Json :=
  .record [("direction", Json.text t.direction.name),
    ("description", Json.optionalText t.description), ("ethertype", Json.optionalText t.ethertype),
    ("protocol", Json.optionalText t.protocol), ("multiport", Json.optionalText t.multiport),
    ("remote_ip_prefix", Json.optionalText t.remotePrefix),
    ("remote_group_id", Json.optionalText t.remoteGroupId),
    ("remote_address_group_id", Json.optionalText t.remoteAddressGroupId),
    ("action", Json.optionalText (t.action.map RuleAction.name)),
    ("priority", Json.optionalInt t.priority)]

/-- The template of a record. -/
def read? {σ : Type} [Source σ] (s : σ) : Option RuleTemplate := do
  let f ← Source.fields? fieldNames s
  return {
    direction := ← f.required "direction"
    description := ← f.optional "description"
    ethertype := ← f.optional "ethertype"
    protocol := ← f.optional "protocol"
    multiport := ← f.optional "multiport"
    remotePrefix := ← f.optional "remote_ip_prefix"
    remoteGroupId := ← f.optional "remote_group_id"
    remoteAddressGroupId := ← f.optional "remote_address_group_id"
    action := ← f.optional "action"
    priority := ← f.optional "priority" }

instance : Readable RuleTemplate := ⟨read?⟩

/-- The rule that a template makes in a group: what it leaves open is of the family `IPv4`, of
priority one and allows the traffic. -/
def toRule (t : RuleTemplate) (id groupId : String) : Rule where
  id := id
  groupId := groupId
  direction := t.direction
  protocol := t.protocol
  ethertype := some (t.ethertype.getD "IPv4")
  remotePrefix := t.remotePrefix
  remoteGroupId := t.remoteGroupId
  remoteAddressGroupId := t.remoteAddressGroupId
  multiport := t.multiport
  priority := some (t.priority.getD 1)
  action := some (t.action.getD .allow)
  description := t.description

end RuleTemplate

/-- The rules to add, for each direction. -/
abbrev RuleTemplates := ByDirection (List RuleTemplate)

namespace RuleTemplates

/-- No rules to add. -/
def none : RuleTemplates := .both []

/-- Whether there are no rules to add. -/
def isEmpty (t : RuleTemplates) : Bool := t.ingress.isEmpty && t.egress.isEmpty

/-- All rules to add: what comes in before what goes out. -/
def toList (t : RuleTemplates) : List RuleTemplate := t.ingress ++ t.egress

/-- The templates that the value of an `add-` key gives. -/
def check (d : Direction) (v : Json) : Checked (List RuleTemplate) := do
  let key := "add-" ++ d.name
  (← Checked.found key .ruleList v v.items?).mapM fun entry ↦ do
    RuleTemplate.ofAttributes d (← Checked.block key entry)

end RuleTemplates

end NetWarden
