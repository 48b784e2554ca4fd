import NetWarden.Ports
import NetWarden.Validation

/-!
# Filters of rules

The block of an `ingress` or `egress` filter, checked and put into its types. The block states a
direction as its `type`, how the results of its keys are combined, and what is asked of a rule, one
key for each question. Where a key takes a list, a single value stands for the list with that value;
only the protocols must be a list.

The keys are checked independently of each other, in the order of the dictionary, after the
direction: `RuleFilter.ofBlock` reads each of them on its own.
-/

namespace NetWarden

/-- How the results for one rule are combined. -/
inductive MatchOperator where
  /-- All must hold. -/
  | and
  /-- One must hold. -/
  | or
deriving DecidableEq, Repr, Inhabited

/-- The operator with a name. -/
def MatchOperator.named? (s : String) : Option MatchOperator :=
  if s = "and" then some .and else if s = "or" then some .or else none

/-- What is asked of the addresses at the other end. -/
inductive AddressCriterion where
  /-- The rule limits no addresses. -/
  | unlimited
  /-- The rule states just these addresses. -/
  | exactly (addresses : String)
deriving DecidableEq, Repr

/-- A checked filter of rules. A question that is not asked is `none`; for ports, it has no ports.
-/
structure RuleFilter where
  /-- The direction that a rule must have. -/
  direction : Direction
  /-- How the results are combined. -/
  operator : MatchOperator := .and
  /-- The addresses at the other end. -/
  addresses : Option AddressCriterion := none
  /-- The protocols, one of which a rule must have. -/
  protocols : Option (List String) := none
  /-- The ports, all of which a rule must open. -/
  inPorts : List PortNumber := []
  /-- The ports, none of which a rule may open. -/
  notInPorts : List PortNumber := []
  /-- Whether the other end is the rule's own group. -/
  selfReference : Option Bool := none
  /-- The ids, one of which a rule must have. -/
  ruleIds : Option (List String) := none
  /-- The groups, to one of which a rule must belong. -/
  groupIds : Option (List String) := none
  /-- The descriptions, one of which a rule must have. -/
  descriptions : Option (List String) := none
  /-- The families of addresses, one of which a rule must have. -/
  ethertypes : Option (List String) := none
  /-- The priorities, one of which a rule must have. -/
  priorities : Option (List Int64) := none
  /-- What a rule may do to the traffic. -/
  actions : Option (List RuleAction) := none
  /-- The groups, one of which must be the other end. -/
  remoteGroupIds : Option (List String) := none
  /-- The address groups, one of which must be the other end. -/
  remoteAddressGroupIds : Option (List String) := none
deriving DecidableEq, Repr

namespace RuleFilter

/-! ### The keys of a filter block -/

/-- The keys that a filter block may have. -/
def keys : List String :=
  ["type", "match-operator", "RemoteIpPrefix", "Protocols", "InPorts", "NotInPorts",
    "SelfReference", "SGRuleIds", "SecurityGroupIds", "Descriptions", "Ethertypes", "Priorities",
    "Action", "SGReferenceIds", "AGReferenceIds"]

/-- The protocols that have a name. -/
def protocolNames : List String := [anyMark, "tcp", "udp", "icmp", "icmpv6"]

/-- The families of addresses. -/
def ethertypeNames : List String := ["IPv4", "IPv6", "ipv4", "ipv6"]

/-! ### The values of the keys -/

/-- An operator. -/
def checkOperator (key : String) (v : Json) : Checked MatchOperator := do
  let s ← Checked.text key v
  match MatchOperator.named? s with
  | some op => .ok op
  | none => .error (.invalidValue key (.choice .operator s))

/-- Addresses, or the mark for any as a text or a number. -/
def checkAddresses (key : String) (v : Json) : Checked AddressCriterion :=
  match v with
  | .str s => .ok (if s = anyMark then .unlimited else .exactly s)
  | v => if v.int? = some (-1) then .ok .unlimited else Checked.wrong key .addresses v

/-- A protocol by its name or its number, which is kept as a text. -/
def checkProtocol (key : String) (v : Json) : Checked String :=
  match v with
  | .str s => if protocolNames.contains s then .ok s else Checked.wrong key .protocol v
  | .int _ | .float _ => do return Text.integer (← Checked.integer key v).toInt
  | v => Checked.wrong key .protocol v

/-- A list of protocols. -/
def checkProtocols (key : String) (v : Json) : Checked (List String) := do
  (← Checked.found key .list v v.items?).mapM (checkProtocol key)

/-- The port with a number. -/
def port? (v : Json) : Option PortNumber := do
  let i ← v.int?
  if 0 ≤ i ∧ i ≤ 65535 then some (UInt16.ofNat i.toNat) else none

/-- Ports, of which one need not be in a list. -/
def checkPorts (key : String) (v : Json) : Checked (List PortNumber) :=
  (Checked.oneOrMore v).mapM fun item ↦ Checked.found key .port item (port? item)

/-- Families of addresses, of which one need not be in a list. -/
def checkEthertypes (key : String) (v : Json) : Checked (List String) := do
  let names ← Checked.texts key v
  match names.find? fun n ↦ !ethertypeNames.contains n with
  | some n => .error (.invalidValue key (.choice .ethertype n))
  | none => .ok names

/-- What rules may do, of which one need not be in a list. All must be texts before any is looked
up. -/
def checkActions (key : String) (v : Json) : Checked (List RuleAction) := do
  (← Checked.texts key v).mapM RuleAction.parse

/-- The direction that a block states. -/
def checkDirection (b : Block) : Checked Direction := do
  Direction.parse (← Checked.text "type" (← Block.required b "type" (.ruleFilter none)))

/-- What a block is, for the message about its keys. -/
def blockKind (b : Block) : BlockKind :=
  .ruleFilter (do (← Dictionary.get? b "type").str?)

/-! ### The filter of a block -/

/-- The filter of a block. -/
def ofBlock (b : Block) : Checked RuleFilter := do
  Block.allowOnly b keys (blockKind b)
  let direction ← checkDirection b
  let remoteAddressGroupIds ← Block.optional b "AGReferenceIds" Checked.texts
  let actions ← Block.optional b "Action" checkActions
  let descriptions ← Block.optional b "Descriptions" Checked.texts
  let ethertypes ← Block.optional b "Ethertypes" checkEthertypes
  let inPorts ← Block.optional b "InPorts" checkPorts
  let notInPorts ← Block.optional b "NotInPorts" checkPorts
  let priorities ← Block.optional b "Priorities" Checked.integers
  let protocols ← Block.optional b "Protocols" checkProtocols
  let addresses ← Block.optional b "RemoteIpPrefix" checkAddresses
  let remoteGroupIds ← Block.optional b "SGReferenceIds" Checked.texts
  let ruleIds ← Block.optional b "SGRuleIds" Checked.texts
  let groupIds ← Block.optional b "SecurityGroupIds" Checked.texts
  let selfReference ← Block.optional b "SelfReference" Checked.boolean
  let operator ← Block.optional b "match-operator" checkOperator
  return {
    direction, operator := operator.getD .and, addresses, protocols
    inPorts := inPorts.getD [], notInPorts := notInPorts.getD []
    selfReference, ruleIds, groupIds, descriptions, ethertypes, priorities, actions
    remoteGroupIds, remoteAddressGroupIds }

/-- The filter of a value, which must be a block. -/
def ofJson (v : Json) : Checked RuleFilter := do
  ofBlock (← Checked.found "type" .filterMapping v v.block?)

/-- Whether the filter asks for ports. -/
def asksPorts (f : RuleFilter) : Bool := !f.inPorts.isEmpty || !f.notInPorts.isEmpty

end RuleFilter

end NetWarden
