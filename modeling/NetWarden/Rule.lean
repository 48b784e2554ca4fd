import NetWarden.Direction

/-!
# Security group rules

A rule allows or denies traffic in one direction for the members of a security group. What a rule
does not state is `none`: it says nothing about the traffic there, and whoever asks for such a field
decides what that means. No protocol means any protocol, which can also be stated, as `-1`.
-/

namespace NetWarden

/-- Whether a rule lets traffic pass. -/
inductive RuleAction where
  /-- The traffic may pass. -/
  | allow
  /-- The traffic is blocked. -/
  | deny
deriving DecidableEq, Repr, Inhabited

namespace RuleAction

/-- The name of what a rule does. -/
def name : RuleAction → String
  | .allow => "allow"
  | .deny => "deny"

/-- What a rule with this name does. -/
def named? (s : String) : Option RuleAction :=
  if s = "allow" then some .allow else if s = "deny" then some .deny else none

instance : Readable RuleAction := ⟨Readable.choice? named?⟩

@[simp] theorem named?_name (a : RuleAction) : named? a.name = some a := by cases a <;> decide

end RuleAction

/-- What stands for any protocol, any port and any address. -/
def anyMark : String := "-1"

/-- A security group rule. -/
structure Rule where
  /-- The rule's own id. -/
  id : String
  /-- The id of the group that the rule belongs to. -/
  groupId : String
  /-- The direction of the traffic. -/
  direction : Direction
  /-- The protocol; without one, any. -/
  protocol : Option String := none
  /-- The family of addresses. -/
  ethertype : Option String := none
  /-- The addresses at the other end. -/
  remotePrefix : Option String := none
  /-- The group of the other end. -/
  remoteGroupId : Option String := none
  /-- The address group of the other end. -/
  remoteAddressGroupId : Option String := none
  /-- The ports, as `Ports` reads them. -/
  multiport : Option String := none
  /-- The place of the rule among the others. -/
  priority : Option Int64 := none
  /-- Whether the traffic may pass. -/
  action : Option RuleAction := none
  /-- What people wrote about the rule. -/
  description : Option String := none
deriving DecidableEq, Repr, Inhabited

namespace Rule

/-- The protocol, with the mark for any protocol where none is stated. -/
def effectiveProtocol (r : Rule) : String := r.protocol.getD anyMark

/-- Whether the other end is the rule's own group. -/
def isSelfReference (r : Rule) : Bool := r.remoteGroupId == some r.groupId

/-- The fields of a rule's record. -/
def fieldNames : List String :=
  ["id", "security_group_id", "direction", "protocol", "ethertype", "remote_ip_prefix",
    "remote_group_id", "remote_address_group_id", "multiport", "priority", "action", "description"]

/-- The record of a rule. -/
def toJson (r : Rule) : Json :=
  .record [("id", Json.text r.id), ("security_group_id", Json.text r.groupId),
    ("direction", Json.text r.direction.name), ("protocol", Json.optionalText r.protocol),
    ("ethertype", Json.optionalText r.ethertype),
    ("remote_ip_prefix", Json.optionalText r.remotePrefix),
    ("remote_group_id", Json.optionalText r.remoteGroupId),
    ("remote_address_group_id", Json.optionalText r.remoteAddressGroupId),
    ("multiport", Json.optionalText r.multiport), ("priority", Json.optionalInt r.priority),
    ("action", Json.optionalText (r.action.map RuleAction.name)),
    ("description", Json.optionalText r.description)]

/-- The rule of a record. -/
def read? {σ : Type} [Source σ] (s : σ) : Option Rule := do
  let f ← Source.fields? fieldNames s
  return {
    id := ← f.required "id"
    groupId := ← f.required "security_group_id"
    direction := ← f.required "direction"
    protocol := ← f.optional "protocol"
    ethertype := ← f.optional "ethertype"
    remotePrefix := ← f.optional "remote_ip_prefix"
    remoteGroupId := ← f.optional "remote_group_id"
    remoteAddressGroupId := ← f.optional "remote_address_group_id"
    multiport := ← f.optional "multiport"
    priority := ← f.optional "priority"
    action := ← f.optional "action"
    description := ← f.optional "description" }

instance : Readable Rule := ⟨read?⟩

end Rule

end NetWarden
