import NetWarden.Source
import NetWarden.Yaml.Document
import NetWarden.Yaml.Scalar

/-!
# Reading records from YAML

A place in a YAML document, as a source of records. A text is whatever scalar stands at the place,
letter by letter, so `0x10` and `~` are texts where a text is wanted. A truth value or a number must
be bare. A bare scalar that is empty or a word for the absent value leaves an optional field unset,
and an empty one stands for a list without items and a record without fields.

Keys are read letter by letter too, and are compared as texts. An alias is read as the node it
stands for. Lists and mappings may be entered 128 deep, which also ends the reading of a node that
is part of itself; what no record declares is passed over and may be as deep as it likes.
-/

namespace NetWarden.Yaml

/-- A place in a document. -/
structure Place where
  /-- The document, for its aliases. -/
  document : Document
  /-- The node at the place. -/
  node : Node
  /-- The number of lists and mappings that may still be entered, one inside the other. -/
  depth : Nat

namespace Document

/-- The node that a node stands for. No alias has an anchor, so one look-up is enough. -/
def resolve? (d : Document) : Node → Option Node
  | .alias number => d.target? number
  | node => some node

/-- The text of a key. -/
def keyText? (d : Document) (key : Node) : Option String := do
  match ← d.resolve? key with
  | .scalar text _ _ => some text
  | _ => none

/-- A tag of the document's own. -/
def isOwnTag (tag : Option String) : Bool :=
  match tag with
  | some t => t.toList.head? == some '!'
  | none => false

/-- The free-form value of a node, entered to a depth. Of a repeated key the last entry stays. -/
def value? (d : Document) : Nat → Node → Option Json
  | depth, node => do
    match ← d.resolve? node, depth with
    | .scalar text style tag, _ => scalarValue? text style tag
    | .sequence tag items, depth + 1 =>
      if isOwnTag tag then none
      else do some (.arr (← items.mapM fun item ↦ d.value? depth item))
    | .mapping tag entries, depth + 1 =>
      if isOwnTag tag then none
      else do
        let es ← entries.mapM fun e ↦ do some (← d.keyText? e.1, ← d.value? depth e.2)
        some (.ofBlock (Dictionary.ofList es))
    | _, _ => none

end Document

namespace Place

/-- The start of a document; one without a root is read as an empty scalar. -/
def start (d : Document) : Place := ⟨d, d.root.getD .blank, 128⟩

/-- The place of a node one level deeper. -/
def inside (p : Place) (node : Node) : Place := { p with node, depth := p.depth - 1 }

/-- The node that the place stands for. -/
def resolved? (p : Place) : Option Node := p.document.resolve? p.node

/-- A scalar without text, which stands for nothing at all. -/
def isBlank (text : String) (style : Style) : Bool := text.isEmpty && style == .plain

/-- Whether a scalar may be read as more than a text: it is bare, or a literal block with the tag.
-/
def isReadable (style : Style) (tag : Option String) (name : String) : Bool :=
  style == .plain || style == .literal && tag == some (coreTag name)

/-- Any scalar. -/
def text? (p : Place) : Option String := do
  match ← p.resolved? with
  | .scalar text _ _ => some text
  | _ => none

/-- A word for a truth value. -/
def bool? (p : Place) : Option Bool := do
  match ← p.resolved? with
  | .scalar text style tag => if isReadable style tag "bool" then truth? text else none
  | _ => none

/-- A whole number in its bounds. -/
def int64? (p : Place) : Option Int64 := do
  match ← p.resolved? with
  | .scalar text style tag =>
    if isReadable style tag "int" then do Text.toInt64? (← whole? text) else none
  | _ => none

/-- A name: a scalar, or a tag of the document's own on nothing. -/
def name? (p : Place) : Option String := do
  match ← p.resolved? with
  | .scalar text style tag =>
    match tag.map String.toList with
    | some ('!' :: name) =>
      if style = .plain ∧ (text.isEmpty ∨ isNullWord text) then some (String.ofList name) else none
    | _ => some text
  | _ => none

/-- A bare scalar that is empty or a word for the absent value is not set, and neither is one whose
tag says so; all else is. -/
def set? (p : Place) : Option (Option Place) := do
  match ← p.resolved? with
  | .scalar text .plain none =>
    if text.isEmpty || isNullWord text then some none else some (some p)
  | .scalar text .plain (some tag) =>
    if tag = coreTag "null" then if isNullWord text then some none else none
    else some (some p)
  | _ => some (some p)

/-- The items of a list. -/
def items? (p : Place) : Option (List Place) := do
  match ← p.resolved? with
  | .sequence _ items => if 0 < p.depth then some (items.map p.inside) else none
  | .scalar text style _ => if isBlank text style then some [] else none
  | _ => none

/-- The entries of a mapping under the texts of their keys. -/
def entries? (p : Place) : Option (List (String × Place)) := do
  match ← p.resolved? with
  | .mapping _ entries =>
    if 0 < p.depth then
      entries.mapM fun e ↦ (p.document.keyText? e.1).map fun key ↦ (key, p.inside e.2)
    else none
  | .scalar text style _ => if isBlank text style then some [] else none
  | _ => none

/-- The fields of a record: a mapping in which no declared field is repeated. -/
def fields? (declared : List String) (p : Place) : Option (Fields Place) := do
  let es ← p.entries?
  let known := es.filter fun e ↦ declared.contains e.1
  if (known.map Prod.fst).Nodup then some ⟨known, decide (known.length < es.length)⟩ else none

/-- The free-form value at a place. -/
def value? (p : Place) : Option Json := p.document.value? p.depth p.node

instance : Source Place :=
  ⟨text?, bool?, int64?, name?, set?, items?, fields?, entries?, value?⟩

end Place

end Yaml

/-- A value read from a YAML text. -/
def Readable.ofYamlText? {α : Type} [Readable α] (text : String) : Option α := do
  Readable.read? (Yaml.Place.start (← Yaml.Document.read? text))

end NetWarden
