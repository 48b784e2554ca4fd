import NetWarden.Policy.Kind
import NetWarden.Policy.ValueFilter
import NetWarden.RuleFilter

/-!
# The filters of a policy

A filter is one of rules, the one of groups without ports, one by a value, or a combination of
filters: one of several must hold, or all of them. A combination has no other key than `or` or
`and`; any other filter has a `type`, and one that has nothing else may be written as that word
alone.

Each filter is about resources of some kinds only, a combination about those that all its parts are
about.
-/

namespace NetWarden

/-- A checked filter. -/
inductive PolicyFilter where
  /-- The rules that match. -/
  | rules (f : RuleFilter)
  /-- The groups without ports. -/
  | unattached
  /-- The resources that have a value. -/
  | value (f : ValueFilter)
  /-- The resources for which one of the filters holds. -/
  | anyOf (filters : List PolicyFilter)
  /-- The resources for which all of the filters hold. -/
  | allOf (filters : List PolicyFilter)
deriving Repr, Inhabited

namespace PolicyFilter

/-- The filter of a block that is no combination. -/
def ofBlock (b : Block) : Checked PolicyFilter := do
  let kind ← Checked.text "type" (← Block.required b "type" .filter)
  if kind = Direction.ingress.name ∨ kind = Direction.egress.name then
    .rules <$> RuleFilter.ofBlock b
  else if kind = "unattached" then do
    Block.allowOnly b ["type"] .unattachedFilter
    return .unattached
  else if kind = "value" then .value <$> ValueFilter.ofBlock b
  else throw (.invalidValue "type" (.unknownFilter kind))

/-- The block that a word alone stands for. -/
def blockOfWord (s : String) : Block := .singleton "type" (.str s)

mutual

/-- The filter of a value. -/
def ofJson : Json → Checked PolicyFilter
  | .obj [("or", .arr items)] => .anyOf <$> ofItems items
  | .obj [("and", .arr items)] => .allOf <$> ofItems items
  | .obj [("or", v)] => Checked.wrong "or" .filterList v
  | .obj [("and", v)] => Checked.wrong "and" .filterList v
  | .str s => ofBlock (blockOfWord s)
  | v => do ofBlock (← Checked.block "filters" v)

/-- The filters of several values. -/
def ofItems : List Json → Checked (List PolicyFilter)
  | [] => .ok []
  | v :: vs => do
    let f ← ofJson v
    let fs ← ofItems vs
    return f :: fs

end

/-- The name of a filter. -/
def name : PolicyFilter → String
  | .rules f => f.direction.name
  | .unattached => "unattached"
  | .value _ => "value"
  | .anyOf _ => "or"
  | .allOf _ => "and"

mutual

/-- Whether a filter is about resources of a kind. -/
def supports (kind : ResourceKind) : PolicyFilter → Bool
  | .rules _ => kind == .rule
  | .unattached => kind == .group
  | .value _ => true
  | .anyOf fs => allSupport kind fs
  | .allOf fs => allSupport kind fs

/-- Whether all filters are about resources of a kind. -/
def allSupport (kind : ResourceKind) : List PolicyFilter → Bool
  | [] => true
  | f :: fs => supports kind f && allSupport kind fs

end

end PolicyFilter

end NetWarden
