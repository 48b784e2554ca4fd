import NetWarden.Json.Pointer
import NetWarden.Validation

/-!
# Filters by a value

A filter that looks at one value in the record of a resource and compares it. The value is named by
the keys that lead to it, with points between them. What is not there and what is `null` are alike:
there is nothing to compare. The texts `absent` and `present`, compared for equality, ask whether
there is.
-/

namespace NetWarden

/-- How a value is compared. -/
inductive ValueOperator where
  /-- It is the given one. -/
  | eq
  /-- It is not the given one. -/
  | ne
  /-- It is among the given ones. -/
  | isIn
  /-- It is not among the given ones. -/
  | notIn
deriving DecidableEq, Repr

/-- The operator with a name. -/
def ValueOperator.named? (s : String) : Option ValueOperator :=
  if s = "eq" ∨ s = "equal" then some .eq
  else if s = "ne" ∨ s = "not-equal" then some .ne
  else if s = "in" then some .isIn
  else if s = "not-in" ∨ s = "ni" then some .notIn
  else none

/-- A checked filter by a value. -/
structure ValueFilter where
  /-- The keys that lead to the value, with points between them. -/
  key : String
  /-- How the value is compared. -/
  operator : ValueOperator
  /-- What it is compared with. -/
  value : Json
deriving Repr

namespace ValueFilter

/-- An operator. -/
def checkOperator (key : String) (v : Json) : Checked ValueOperator := do
  let s ← Checked.text key v
  match ValueOperator.named? s with
  | some op => .ok op
  | none => .error (.invalidValue key (.unknownOperator s))

/-- Whether an operator compares with the items of a list. -/
def takesList : ValueOperator → Bool
  | .isIn | .notIn => true
  | .eq | .ne => false

/-- The filter of a block. -/
def ofBlock (b : Block) : Checked ValueFilter := do
  Block.allowOnly b ["type", "key", "value", "op"] .valueFilter
  let key ← Checked.text "key" (← Block.required b "key" .valueFilter)
  let value := (Dictionary.get? b "value").getD .null
  let operator := (← Block.optional b "op" checkOperator).getD .eq
  if takesList operator ∧ value.items?.isNone then throw (.invalidValue "value" .needsList)
  return { key, operator, value }

/-- The pointer that a filter's key stands for: a slash in the key parts it as well. -/
def pointer (f : ValueFilter) : List Char := '/' :: Text.replace ['.'] ['/'] f.key.toList

/-- The value that the filter looks at, if there is one. -/
def actual? (f : ValueFilter) (resource : Json) : Option Json :=
  (resource.part? f.pointer).filter fun v ↦ !v.isNull

/-- Whether a record has the value asked for. -/
def admits (f : ValueFilter) (resource : Json) : Bool :=
  let actual := f.actual? resource
  match f.operator, f.value with
  | .eq, .str "absent" => actual.isNone
  | .eq, .str "present" => actual.isSome
  | .eq, expected => actual.any fun v ↦ v.same expected
  | .ne, expected => !actual.any fun v ↦ v.same expected
  | .isIn, .arr items => actual.any fun v ↦ v.isIn items
  | .notIn, .arr items => !actual.any fun v ↦ v.isIn items
  | _, _ => false

end ValueFilter

end NetWarden
