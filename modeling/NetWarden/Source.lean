import NetWarden.Json.Written

/-!
# Reading records

Records are read from documents of two formats, and the formats differ in what they let pass: a text
may be a bare word in one and needs quotes in the other, a list may stand for a record in one only.
A `Source` is a place in a document of a format; its operations say what that place holds if a text,
a number, a list or a record is wanted there. The records themselves are read once for all sources.

A field of a record is *required*, *optional* (absent and unset are alike) or *defaulted* (absent
gives the default, but a value that is there must be one). Fields that a record does not declare are
passed over, unless the record is closed. Why a record could not be read is never told, so reading
gives an `Option`.
-/

namespace NetWarden

/-- The fields of a record: those it declares, each at most once, and whether there are others. -/
structure Fields (σ : Type) where
  /-- The declared fields that are there. -/
  known : List (String × σ)
  /-- Whether a field is there that the record does not declare. -/
  hasOthers : Bool

/-- A place in a document, read as what is wanted there. Each operation gives nothing if the place
does not hold such a value. -/
class Source (σ : Type) where
  /-- A text. -/
  text? : σ → Option String
  /-- A truth value. -/
  bool? : σ → Option Bool
  /-- A whole number in a 64-bit signed place. -/
  int64? : σ → Option Int64
  /-- One of several names. -/
  name? : σ → Option String
  /-- The place itself if it is set. -/
  set? : σ → Option (Option σ)
  /-- The items of a list. -/
  items? : σ → Option (List σ)
  /-- The fields of a record that declares these names in this order. -/
  fields? : List String → σ → Option (Fields σ)
  /-- The entries of a dictionary. -/
  entries? : σ → Option (List (String × σ))
  /-- A free-form value. -/
  value? : σ → Option Json

/-- How a value of a type is read, from a document of any format. -/
class Readable (α : Type) where
  /-- The value at a place. -/
  read? : {σ : Type} → [Source σ] → σ → Option α

namespace Readable

variable {α β σ : Type}

instance : Readable String := ⟨Source.text?⟩

instance : Readable Bool := ⟨Source.bool?⟩

instance : Readable Int64 := ⟨Source.int64?⟩

instance : Readable Json := ⟨Source.value?⟩

/-- The items of a list, all of them read. -/
def items? [Readable α] [Source σ] (s : σ) : Option (List α) := do
  (← Source.items? s).mapM read?

instance [Readable α] : Readable (List α) := ⟨items?⟩

/-- A dictionary, all of whose entries are read. -/
def entries? [Readable α] [Source σ] (s : σ) : Option (Dictionary α) := do
  let es ← (← Source.entries? s).mapM fun e ↦ (read? e.2).map (Prod.mk e.1)
  some (Dictionary.ofList es)

instance [Readable α] : Readable (Dictionary α) := ⟨entries?⟩

/-- A value chosen by its name among several. -/
def choice? [Source σ] (named : String → Option α) (s : σ) : Option α := do
  named (← Source.name? s)

end Readable

namespace Fields

variable {α σ : Type}

/-- The place of a field. -/
def get? (f : Fields σ) (name : String) : Option σ := Dictionary.lookupIn name f.known

/-- A field that must be there. -/
def required [Readable α] [Source σ] (f : Fields σ) (name : String) : Option α := do
  Readable.read? (← f.get? name)

/-- A field that may be absent or unset. -/
def optional [Readable α] [Source σ] (f : Fields σ) (name : String) : Option (Option α) :=
  match f.get? name with
  | none => some none
  | some s => do
    match ← Source.set? s with
    | none => some none
    | some s => (Readable.read? s).map some

/-- A field that stands for a default when it is absent. -/
def defaulted [Readable α] [Source σ] (f : Fields σ) (name : String) (default : α) : Option α :=
  match f.get? name with
  | none => some default
  | some s => Readable.read? s

end Fields

namespace Source

variable {σ : Type} [Source σ]

/-- The fields of a record that may have no others than it declares. -/
def closedFields? (declared : List String) (s : σ) : Option (Fields σ) := do
  let fields ← fields? declared s
  if fields.hasOthers then none else some fields

end Source

/-! ### JSON texts as sources -/

/-- A place in a JSON text, with the number of levels that may be entered below it. -/
structure Json.Place where
  /-- What stands at the place. -/
  node : Json.Written
  /-- The number of lists and objects that may still be entered, one inside the other. -/
  depth : Nat

namespace Json.Place

/-- The start of a text. A text may be read 127 levels deep. -/
def start (w : Json.Written) : Place := ⟨w, 127⟩

/-- A place one level deeper, if a level may be entered. -/
def inside (p : Place) (w : Json.Written) : Place := ⟨w, p.depth - 1⟩

mutual

/-- Whether the lists and objects of a text are nested no deeper than a number of levels. -/
def fits (depth : Nat) : Json.Written → Bool
  | .arr items => decide (0 < depth) && fitItems (depth - 1) items
  | .obj fields => decide (0 < depth) && fitFields (depth - 1) fields
  | _ => true

/-- Whether every item is nested no deeper than a number of levels. -/
def fitItems (depth : Nat) : List Json.Written → Bool
  | [] => true
  | w :: ws => fits depth w && fitItems depth ws

/-- Whether every field is nested no deeper than a number of levels. -/
def fitFields (depth : Nat) : List (Option String × Json.Written) → Bool
  | [] => true
  | (_, w) :: fs => fits depth w && fitFields depth fs

end

/-- A text in quotes. -/
def text? (p : Place) : Option String :=
  match p.node with
  | .str s => s
  | _ => none

/-- The word `true` or `false`. -/
def bool? (p : Place) : Option Bool :=
  match p.node with
  | .bool b => some b
  | _ => none

/-- A whole number in its bounds; never one with a fraction, nor one in quotes. -/
def int64? (p : Place) : Option Int64 :=
  match p.node with
  | .number (.whole i) => Text.toInt64? i
  | _ => none

/-- A name: a text, or an object whose only field has that name and no value. -/
def name? (p : Place) : Option String :=
  match p.node with
  | .str s => s
  | .obj [(key, .null)] => if 0 < p.depth then key else none
  | _ => none

/-- Whatever is not `null` is set. -/
def set? (p : Place) : Option (Option Place) :=
  match p.node with
  | .null => some none
  | _ => some (some p)

/-- The items of a list. -/
def items? (p : Place) : Option (List Place) :=
  match p.node with
  | .arr items => if 0 < p.depth then some (items.map p.inside) else none
  | _ => none

/-- The fields of an object under their keys; nothing if a key has no text. -/
def entries? (p : Place) : Option (List (String × Place)) :=
  match p.node with
  | .obj fields =>
    if 0 < p.depth then fields.mapM fun f ↦ f.1.map fun key ↦ (key, p.inside f.2) else none
  | _ => none

/-- Whether no two entries have one key. -/
def distinctKeys (es : List (String × Place)) : Bool := (es.map Prod.fst).Nodup

/-- The fields of a record: an object in which no declared field is repeated, or a list of their
values in the order declared, whose end may be missing. -/
def fields? (declared : List String) (p : Place) : Option (Fields Place) :=
  match p.node with
  | .arr _ => do
    let items ← p.items?
    if items.length ≤ declared.length then some ⟨declared.zip items, false⟩ else none
  | _ => do
    let es ← p.entries?
    let known := es.filter fun e ↦ declared.contains e.1
    if distinctKeys known then some ⟨known, decide (known.length < es.length)⟩ else none

/-- The free-form value of a place. -/
def value? (p : Place) : Option Json := if fits p.depth p.node then p.node.value? else none

instance : Source Place :=
  ⟨text?, bool?, int64?, name?, set?, items?, fields?, entries?, value?⟩

end Json.Place

/-- A value read from a JSON text. -/
def Readable.ofJsonText? {α : Type} [Readable α] (text : String) : Option α := do
  Readable.read? (Json.Place.start (← Json.Written.read? text))

/-- A value read from a free-form value. -/
def Readable.ofJson? {α : Type} [Readable α] (v : Json) : Option α :=
  Readable.read? (Json.Place.start (.ofJson v))

end NetWarden
