import NetWarden.Direction
import NetWarden.Json.Printer
import NetWarden.Rule

/-!
# What can be wrong with a block

The blocks of a policy are checked before anything is done with them. A `ValidationError` is the
cause of a rejection: keys that a block does not have, a value that its key does not take, a key
that is missing, or a removal that could select too much. `ValidationError.message` is the only
place where these causes are put into words.

Unknown keys are all told at once, in order, before any value is looked at.
-/

namespace NetWarden

/-- What a block is, where its keys are wrong. -/
inductive BlockKind where
  /-- A filter of rules, with the direction it states if it states a text. -/
  | ruleFilter (kind : Option String)
  /-- A filter of any kind. -/
  | filter
  /-- A filter of groups without ports. -/
  | unattachedFilter
  /-- A filter by a value. -/
  | valueFilter
  /-- An action of any kind. -/
  | action
  /-- The action that deletes. -/
  | deleteAction
  /-- The action that removes rules. -/
  | removeRulesAction
  /-- The action that adds and removes rules. -/
  | setRulesAction
  /-- The action on flow logs. -/
  | setFlowLogAction
  /-- The attributes of new flow logs. -/
  | newFlowLog
  /-- The attributes of a new rule. -/
  | newRule (d : Direction)
  /-- The attributes of rules to remove. -/
  | removalEntry (d : Direction)
deriving DecidableEq, Repr

/-- What a block is, in words. -/
def BlockKind.message : BlockKind → String
  | .ruleFilter (some kind) => kind ++ " filter"
  | .ruleFilter none => "security group rule filter"
  | .filter => "filter"
  | .unattachedFilter => "unattached filter"
  | .valueFilter => "value filter"
  | .action => "action"
  | .deleteAction => "delete action"
  | .removeRulesAction => "remove-rules action"
  | .setRulesAction => "set-rules action"
  | .setFlowLogAction => "set-flow-log action"
  | .newFlowLog => "set-flow-log create-attrs"
  | .newRule d => "add-" ++ d.name ++ " rule"
  | .removalEntry d => "remove-" ++ d.name ++ " entry"

/-- What a value should have been. -/
inductive Shape where
  /-- A mapping. -/
  | mapping
  /-- A mapping that is a filter. -/
  | filterMapping
  /-- A text. -/
  | text
  /-- A whole number in its bounds. -/
  | integer
  /-- A truth value. -/
  | boolean
  /-- A list. -/
  | list
  /-- A list of filters. -/
  | filterList
  /-- A list of attributes of rules. -/
  | ruleList
  /-- Addresses, or the mark for any. -/
  | addresses
  /-- A port number. -/
  | port
  /-- A protocol. -/
  | protocol
deriving DecidableEq, Repr

/-- What a value should have been, in words. -/
def Shape.message : Shape → String
  | .mapping => "a mapping"
  | .filterMapping => "a filter mapping"
  | .text => "a string"
  | .integer => "an integer"
  | .boolean => "a boolean"
  | .list => "a list"
  | .filterList => "a list of filters"
  | .ruleList => "a list of rule attributes"
  | .addresses => "a CIDR string or -1"
  | .port => "a port between 0 and 65535"
  | .protocol => "one of [\"-1\", \"tcp\", \"udp\", \"icmp\", \"icmpv6\"] or an integer"

/-- The names among which a text should have been. -/
inductive Choice where
  /-- The directions. -/
  | direction
  /-- What a rule does. -/
  | ruleAction
  /-- How results are combined. -/
  | operator
  /-- The families of addresses. -/
  | ethertype
  /-- What is done to flow logs. -/
  | flowLogChange
deriving DecidableEq, Repr

/-- The names of a choice, in words. -/
def Choice.message : Choice → String
  | .direction => "'ingress' or 'egress'"
  | .ruleAction => "'allow' or 'deny'"
  | .operator => "'and' or 'or'"
  | .ethertype => "one of [\"IPv4\", \"IPv6\", \"ipv4\", \"ipv6\"]"
  | .flowLogChange => "'enable', 'disable', 'create' or 'delete'"

/-- Why a key does not take a value. -/
inductive Reason where
  /-- The value should have had another shape. -/
  | shape (expected : Shape) (got : Json)
  /-- The text should have been one of several names. -/
  | choice (expected : Choice) (got : String)
  /-- No such traffic can be logged. -/
  | traffic
  /-- A new rule states nothing. -/
  | noAttributes
  /-- There is no such filter. -/
  | unknownFilter (name : String)
  /-- There is no such action. -/
  | unknownAction (name : String)
  /-- There is no such comparison. -/
  | unknownOperator (name : String)
  /-- There are no such resources. -/
  | unknownResource (name : String)
  /-- A comparison with the items of a list has no list. -/
  | needsList

/-- Why a key does not take a value, in words. -/
def Reason.message : Reason → String
  | .shape expected got => "expected " ++ expected.message ++ ", got " ++ got.compact
  | .choice expected got => "expected " ++ expected.message ++ ", got '" ++ got ++ "'"
  | .traffic => "expected 'all', 'accept' or 'reject'"
  | .noAttributes => "rule templates need at least one attribute"
  | .unknownFilter name => "unknown filter '" ++ name ++ "'"
  | .unknownAction name => "unknown action '" ++ name ++ "'"
  | .unknownOperator name => "unsupported operator '" ++ name ++ "'"
  | .unknownResource name => "unsupported resource '" ++ name ++ "'"
  | .needsList => "'in' and 'not-in' need a list"

/-- The number of attributes that an entry of a removal needs, so that one loose attribute cannot
select all rules of a group. -/
def minRemovalAttributes : Nat := 2

/-- Why a removal is refused. -/
inductive RemovalReason where
  /-- An entry has too few attributes. -/
  | tooFew (count : Nat)
  /-- The value is no removal. -/
  | noRemoval (got : Json)

/-- Why a removal is refused, in words. -/
def RemovalReason.message : RemovalReason → String
  | .tooFew count =>
    "each entry needs at least " ++ Text.digits minRemovalAttributes ++ " attributes, got " ++
      Text.digits count
  | .noRemoval got =>
    "expected 'matched', 'all' or a list of rule attributes, got " ++ got.compact

/-- Why a block is rejected. -/
inductive ValidationError where
  /-- The block has keys that it does not take. -/
  | unknownKeys (keys : List String) (on : BlockKind)
  /-- A key does not take its value. -/
  | invalidValue (key : String) (reason : Reason)
  /-- A key is missing. -/
  | missingKey (key : String) (on : BlockKind)
  /-- A removal is refused. -/
  | invalidRemoval (direction : Direction) (reason : RemovalReason)

/-- Why a block is rejected, in words. -/
def ValidationError.message : ValidationError → String
  | .unknownKeys keys on => "Unknown keys " ++ ", ".intercalate keys ++ " on " ++ on.message
  | .invalidValue key reason => "Invalid value for '" ++ key ++ "': " ++ reason.message
  | .missingKey key on => "Missing required key '" ++ key ++ "' on " ++ on.message
  | .invalidRemoval d reason => "Invalid removal spec for " ++ d.name ++ ": " ++ reason.message

/-- What is checked: a value, or why it is rejected. -/
abbrev Checked (α : Type) := Except ValidationError α

namespace Checked

/-- A rejection because of a value's shape. -/
def wrong {α : Type} (key : String) (expected : Shape) (got : Json) : Checked α :=
  .error (.invalidValue key (.shape expected got))

/-- The value that was found, or a rejection because of its shape. -/
def found {α : Type} (key : String) (expected : Shape) (got : Json) (a : Option α) : Checked α :=
  match a with
  | some a => .ok a
  | none => wrong key expected got

/-- A text. -/
def text (key : String) (v : Json) : Checked String := found key .text v v.str?

/-- A truth value. -/
def boolean (key : String) (v : Json) : Checked Bool := found key .boolean v v.bool?

/-- The number of a whole number in its bounds. -/
def int64? (v : Json) : Option Int64 := do Text.toInt64? (← v.int?)

/-- A whole number in its bounds. -/
def integer (key : String) (v : Json) : Checked Int64 := found key .integer v (int64? v)

/-- A whole number in its bounds, which a text may write. -/
def writtenInteger (key : String) (v : Json) : Checked Int64 :=
  found key .integer v <|
    match v with
    | .str s => Text.int64? (Text.trimChars s.toList)
    | _ => int64? v

/-- A block. -/
def block (key : String) (v : Json) : Checked Block := found key .mapping v v.block?

/-- The items of a list, or the value itself as the only one. -/
def oneOrMore : Json → List Json
  | .arr items => items
  | v => [v]

/-- Texts, of which one need not be in a list. -/
def texts (key : String) (v : Json) : Checked (List String) := (oneOrMore v).mapM (text key)

/-- Whole numbers, of which one need not be in a list. -/
def integers (key : String) (v : Json) : Checked (List Int64) := (oneOrMore v).mapM (integer key)

end Checked

namespace Block

/-- The keys of a block that are not among the given ones, in order. -/
def unknownKeys (b : Block) (allowed : List String) : List String :=
  Dictionary.keys b |>.filter fun k ↦ !allowed.contains k

/-- A block with no other keys than these. -/
def allowOnly (b : Block) (allowed : List String) (on : BlockKind) : Checked Unit :=
  match unknownKeys b allowed with
  | [] => .ok ()
  | keys => .error (.unknownKeys keys on)

/-- The value of a key, which must be there. -/
def required (b : Block) (key : String) (on : BlockKind) : Checked Json :=
  match Dictionary.get? b key with
  | some v => .ok v
  | none => .error (.missingKey key on)

/-- What a key says if it is there. -/
def optional {α : Type} (b : Block) (key : String) (check : String → Json → Checked α) :
    Checked (Option α) :=
  match Dictionary.get? b key with
  | some v => some <$> check key v
  | none => .ok none

end Block

/-- The direction with a name. -/
def Direction.parse (s : String) : Checked Direction :=
  match named? s with
  | some d => .ok d
  | none => .error (.invalidValue "direction" (.choice .direction s))

/-- What a rule with this name does. -/
def RuleAction.parse (s : String) : Checked RuleAction :=
  match named? s with
  | some a => .ok a
  | none => .error (.invalidValue "action" (.choice .ruleAction s))

/-- What a rule does, under a key. -/
def RuleAction.check (key : String) (v : Json) : Checked RuleAction := do
  parse (← Checked.text key v)

end NetWarden
