import NetWarden.Decimal.Binary64
import NetWarden.Dictionary

/-!
# Free-form values

The values that a document may hold where its form is not laid down: the filters and actions of a
policy, the value that a filter compares with, and the form in which a record is shown.

A number is whole or has a fraction, as it was written; the two are never the same value, so `1` and
`1.0` differ. `Json.same` is when two values are one value. It is finer than meaning and coarser
than the representation in one point only: the two zeros with a fraction are one number.

The fields of an object stand in the order in which they are shown. An object read from a document
is a `Block`, whose keys are in code-point order.
-/

namespace NetWarden

/-- A free-form value. -/
inductive Json where
  /-- The absent value. -/
  | null
  /-- A truth value. -/
  | bool (b : Bool)
  /-- A whole number. -/
  | int (i : Int)
  /-- A number written with a fraction or an exponent. -/
  | float (x : Binary64)
  /-- A text. -/
  | str (s : String)
  /-- A list of values. -/
  | arr (items : List Json)
  /-- An object: named values, in the order in which they are shown. -/
  | obj (fields : List (String × Json))
deriving Repr, Inhabited

/-- A block of a policy document: an object whose keys are in order. -/
abbrev Block := Dictionary Json

namespace Json

/-- The object of a block. -/
def ofBlock (b : Block) : Json := .obj b.entries

/-- The entries of an object as a block. -/
def block? : Json → Option Block
  | .obj fields => some (Dictionary.ofList fields)
  | _ => none

/-- The text of a text. -/
def str? : Json → Option String
  | .str s => some s
  | _ => none

/-- The truth value of a truth value. -/
def bool? : Json → Option Bool
  | .bool b => some b
  | _ => none

/-- The number of a whole number. -/
def int? : Json → Option Int
  | .int i => some i
  | _ => none

/-- The items of a list. -/
def items? : Json → Option (List Json)
  | .arr items => some items
  | _ => none

/-- Whether a value is the absent one. -/
def isNull : Json → Bool
  | .null => true
  | _ => false

/-! ### Equality -/

mutual

/-- Whether two values are one value. -/
def same : Json → Json → Bool
  | .null, .null => true
  | .bool a, .bool b => a == b
  | .int a, .int b => a == b
  | .float x, .float y => x.same y
  | .str s, .str t => s == t
  | .arr xs, .arr ys => sameItems xs ys
  | .obj fs, .obj gs => sameFields fs gs
  | _, _ => false

/-- Whether two lists have the same items in the same order. -/
def sameItems : List Json → List Json → Bool
  | [], [] => true
  | x :: xs, y :: ys => same x y && sameItems xs ys
  | _, _ => false

/-- Whether two objects have the same fields in the same order. -/
def sameFields : List (String × Json) → List (String × Json) → Bool
  | [], [] => true
  | (k, x) :: fs, (l, y) :: gs => k == l && same x y && sameFields fs gs
  | _, _ => false

end

/-- A list holds a value that is the same as the given one. -/
def isIn (v : Json) (items : List Json) : Bool := items.any v.same

/-! ### Records as objects -/

/-- The fields that are set, without those that are not. -/
def record (fields : List (String × Option Json)) : Json :=
  .obj (fields.filterMap fun f ↦ f.2.map (Prod.mk f.1))

/-- A field that holds a text. -/
def text (s : String) : Option Json := some (.str s)

/-- A field that holds a text or is not set. -/
def optionalText (s : Option String) : Option Json := s.map .str

/-- A field that holds a whole number or is not set. -/
def optionalInt (i : Option Int64) : Option Json := i.map fun n ↦ .int n.toInt

end Json

end NetWarden
