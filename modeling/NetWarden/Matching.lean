import NetWarden.RuleFilter

/-!
# Whether a rule matches a filter

A filter asks a rule up to thirteen questions, the *predicates*. The direction is always asked, any
other only if the filter has something to compare with; `RuleFilter.verdict` is `none` for a
question that is not asked. The answers are combined as the filter says, and no answer at all is
never a match.

A field that a rule does not state is not in any list. Two questions see more in an absent field: no
protocol means any, and a rule without addresses is what the filter for unlimited ones looks for.
-/

namespace NetWarden

/-- A question that a filter may ask of a rule. -/
inductive Predicate where
  /-- Has the rule the direction? -/
  | direction
  /-- Has it the addresses? -/
  | addresses
  /-- Is its id listed? -/
  | ruleIds
  /-- Is its group listed? -/
  | groupIds
  /-- Is its description listed? -/
  | descriptions
  /-- Is its family of addresses listed? -/
  | ethertypes
  /-- Is its priority listed? -/
  | priorities
  /-- Is the group of the other end listed? -/
  | remoteGroupIds
  /-- Is the address group of the other end listed? -/
  | remoteAddressGroupIds
  /-- Is its protocol listed? -/
  | protocols
  /-- Does it open the ports it should, and none that it should not? -/
  | ports
  /-- Is the other end its own group, or not? -/
  | selfReference
  /-- Is what it does listed? -/
  | actions
deriving DecidableEq, Repr

/-- The predicates in the order in which they are asked. -/
def Predicate.all : List Predicate :=
  [.direction, .addresses, .ruleIds, .groupIds, .descriptions, .ethertypes, .priorities,
    .remoteGroupIds, .remoteAddressGroupIds, .protocols, .ports, .selfReference, .actions]

/-- Results combined; none at all combine to a failure, whatever the operator. -/
def MatchOperator.combine (op : MatchOperator) (results : List Bool) : Bool :=
  !results.isEmpty &&
    match op with
    | .and => results.all id
    | .or => results.any id

namespace RuleFilter

/-- Whether a field is stated and listed; not asked without a list. -/
def listed {α : Type} [BEq α] (wanted : Option (List α)) (stated : Option α) : Option Bool :=
  wanted.map fun items ↦ stated.any items.contains

/-- Whether a rule limits its addresses as asked. -/
def addressesMatch (stated : Option String) : AddressCriterion → Bool
  | .unlimited => stated == none || stated == some anyMark
  | .exactly addresses => stated == some addresses

/-- Whether a rule opens all the ports it should and none that it should not. A rule that opens all
ports satisfies any that it should open and never one that it should not. -/
def portsMatch (f : RuleFilter) (coverage : PortCoverage) : Bool :=
  if coverage.isAll then !f.inPorts.isEmpty && f.notInPorts.isEmpty
  else f.inPorts.all coverage.covers && f.notInPorts.all fun p ↦ !coverage.covers p

/-- The answer to a question about a rule, if the filter asks it. -/
def verdict (f : RuleFilter) (r : Rule) : Predicate → Option Bool
  | .direction => some (r.direction == f.direction)
  | .addresses => f.addresses.map (addressesMatch r.remotePrefix)
  | .ruleIds => listed f.ruleIds (some r.id)
  | .groupIds => listed f.groupIds (some r.groupId)
  | .descriptions => listed f.descriptions r.description
  | .ethertypes => listed f.ethertypes r.ethertype
  | .priorities => listed f.priorities r.priority
  | .remoteGroupIds => listed f.remoteGroupIds r.remoteGroupId
  | .remoteAddressGroupIds => listed f.remoteAddressGroupIds r.remoteAddressGroupId
  | .protocols => f.protocols.map fun ps ↦ ps.contains r.effectiveProtocol
  | .ports => if f.asksPorts then some (f.portsMatch r.ports) else none
  | .selfReference => f.selfReference.map fun wanted ↦ wanted == r.isSelfReference
  | .actions => listed f.actions r.action

/-- The answers about a rule, in the order asked. -/
def answers (f : RuleFilter) (r : Rule) : List Bool := Predicate.all.filterMap (f.verdict r)

/-- Whether a rule matches. -/
def admits (f : RuleFilter) (r : Rule) : Bool := f.operator.combine (f.answers r)

end RuleFilter

end NetWarden
