import NetWarden.Json.Number

/-!
# JSON texts

A text as it was written: the items and fields in their order, a repeated field as often as it
stands there. What a text means depends on what is wanted of it, and a part that nobody asks for is
held to the grammar alone: there a number may be past every number, and an escape may name half of a
surrogate pair. Such parts are kept here as `tooLarge` and `none`, so that whoever reads a value
from the text can refuse them.

`Written.read?` reads a whole text, with blanks around it and nothing else.
-/

namespace NetWarden.Json

/-- A text as it was written. -/
inductive Written where
  /-- The absent value. -/
  | null
  /-- A truth value. -/
  | bool (b : Bool)
  /-- A number. -/
  | number (n : Number)
  /-- A text, or nothing if its escapes name half of a surrogate pair. -/
  | str (s : Option String)
  /-- The items of a list. -/
  | arr (items : List Written)
  /-- The fields of an object, in the order written. -/
  | obj (fields : List (Option String × Written))
deriving Repr, Inhabited

namespace Written

/-- A blank of a text. -/
def isBlank (c : Char) : Bool := c == ' ' || c == '\n' || c == '\t' || c == '\r'

/-- The text without the blanks at its start. -/
def skipBlanks (cs : List Char) : List Char := cs.dropWhile isBlank

/-! ### Texts in quotes -/

/-- The number of four digits in base sixteen. -/
def fourDigits (a b c d : Char) : Option Nat := do
  let a ← Text.digitValue? a
  let b ← Text.digitValue? b
  let c ← Text.digitValue? c
  let d ← Text.digitValue? d
  some (((a * 16 + b) * 16 + c) * 16 + d)

/-- The character of an escape of one letter. -/
def escaped? (c : Char) : Option Char :=
  match c with
  | '"' => some '"'
  | '\\' => some '\\'
  | '/' => some '/'
  | 'b' => some '\x08'
  | 'f' => some '\x0c'
  | 'n' => some '\n'
  | 'r' => some '\r'
  | 't' => some '\t'
  | _ => none

/-- The code units of a text in quotes, the first quote already passed, and what follows the second.
An escape by number gives its unit even if it is half of a pair. -/
def units : List Char → Option (List Nat × List Char)
  | [] => none
  | '"' :: rest => some ([], rest)
  | '\\' :: 'u' :: a :: b :: c :: d :: rest => do
    let n ← fourDigits a b c d
    let (ns, after) ← units rest
    some (n :: ns, after)
  | '\\' :: c :: rest => do
    let e ← escaped? c
    let (ns, after) ← units rest
    some (e.toNat :: ns, after)
  | c :: rest =>
    if c.toNat < 0x20 then none
    else do
      let (ns, after) ← units rest
      some (c.toNat :: ns, after)

/-- The first half of a surrogate pair. -/
def isHigh (n : Nat) : Bool := decide (0xD800 ≤ n) && decide (n < 0xDC00)

/-- The second half of a surrogate pair. -/
def isLow (n : Nat) : Bool := decide (0xDC00 ≤ n) && decide (n < 0xE000)

/-- The characters that code units name, a pair of halves being one; nothing for a lone half. -/
def ofUnits : List Nat → Option (List Char)
  | [] => some []
  | [n] => if isHigh n || isLow n then none else some [Char.ofNat n]
  | n :: m :: rest =>
    if isHigh n then
      if isLow m then
        (ofUnits rest).map (Char.ofNat (0x10000 + (n - 0xD800) * 0x400 + (m - 0xDC00)) :: ·)
      else none
    else if isLow n then none
    else (ofUnits (m :: rest)).map (Char.ofNat n :: ·)

/-- A text in quotes, the first quote already passed. -/
def quotedText (cs : List Char) : Option (Option String × List Char) := do
  let (ns, rest) ← units cs
  some ((ofUnits ns).map String.ofList, rest)

/-! ### Numbers -/

/-- The decimal digits at the start of a text. -/
def digitsAt : List Char → List Nat × List Char
  | [] => ([], [])
  | c :: cs =>
    match Text.digitIn? 10 c with
    | some d =>
      let (ds, rest) := digitsAt cs
      (d :: ds, rest)
    | none => ([], c :: cs)

/-- The digits of a whole part: a zero stands alone. -/
def wholeAt (cs : List Char) : Option (List Nat × List Char) :=
  match digitsAt cs with
  | ([], _) => none
  | (0 :: _ :: _, _) => none
  | found => some found

/-- The digits of a fraction after the point, at least one. -/
def fractionAt : List Char → Option (Option (List Nat) × List Char)
  | '.' :: cs =>
    match digitsAt cs with
    | ([], _) => none
    | (ds, rest) => some (some ds, rest)
  | cs => some (none, cs)

/-- The digits of an exponent, at least one, and whether it is negative. -/
def exponentAt : List Char → Option (Option (Bool × List Nat) × List Char)
  | c :: cs =>
    if c = 'e' ∨ c = 'E' then
      let (down, cs) := match cs with
        | '+' :: cs => (false, cs)
        | '-' :: cs => (true, cs)
        | cs => (false, cs)
      match digitsAt cs with
      | ([], _) => none
      | (ds, rest) => some (some (down, ds), rest)
    else some (none, c :: cs)
  | [] => some (none, [])

/-- A number without its sign. -/
def unsignedAt (negative : Bool) (cs : List Char) : Option (Written × List Char) := do
  let (whole, cs) ← wholeAt cs
  let (fraction, cs) ← fractionAt cs
  let (exponent, cs) ← exponentAt cs
  some (.number (Number.ofDigits negative whole fraction exponent), cs)

/-- A number. -/
def numberAt : List Char → Option (Written × List Char)
  | '-' :: cs => unsignedAt true cs
  | cs => unsignedAt false cs

/-! ### Values -/

mutual

/-- The value at the start of a text and what follows it. -/
def valueAt : Nat → List Char → Option (Written × List Char)
  | 0, _ => none
  | fuel + 1, cs =>
    match skipBlanks cs with
    | '"' :: rest => do
      let (s, rest) ← quotedText rest
      some (.str s, rest)
    | '[' :: rest =>
      match skipBlanks rest with
      | ']' :: rest => some (.arr [], rest)
      | rest => do
        let (items, rest) ← itemsAt fuel rest
        some (.arr items, rest)
    | '\x7b' :: rest =>
      match skipBlanks rest with
      | '\x7d' :: rest => some (.obj [], rest)
      | rest => do
        let (fields, rest) ← fieldsAt fuel rest
        some (.obj fields, rest)
    | 'n' :: 'u' :: 'l' :: 'l' :: rest => some (.null, rest)
    | 't' :: 'r' :: 'u' :: 'e' :: rest => some (.bool true, rest)
    | 'f' :: 'a' :: 'l' :: 's' :: 'e' :: rest => some (.bool false, rest)
    | cs => numberAt cs

/-- The items of a list up to its closing bracket. -/
def itemsAt : Nat → List Char → Option (List Written × List Char)
  | 0, _ => none
  | fuel + 1, cs => do
    let (item, rest) ← valueAt fuel cs
    match skipBlanks rest with
    | ',' :: rest => do
      let (items, rest) ← itemsAt fuel rest
      some (item :: items, rest)
    | ']' :: rest => some ([item], rest)
    | _ => none

/-- The fields of an object up to its closing brace. -/
def fieldsAt : Nat → List Char → Option (List (Option String × Written) × List Char)
  | 0, _ => none
  | fuel + 1, cs =>
    match skipBlanks cs with
    | '"' :: rest => do
      let (key, rest) ← quotedText rest
      match skipBlanks rest with
      | ':' :: rest => do
        let (value, rest) ← valueAt fuel rest
        match skipBlanks rest with
        | ',' :: rest => do
          let (fields, rest) ← fieldsAt fuel rest
          some ((key, value) :: fields, rest)
        | '\x7d' :: rest => some ([(key, value)], rest)
        | _ => none
      | _ => none
    | _ => none

end

/-- A whole text. Every step of the reading passes a character or enters a value, so twice the
length of the text bounds the steps. -/
def read? (text : String) : Option Written := do
  let cs := text.toList
  let (value, rest) ← valueAt (2 * cs.length + 2) cs
  if (skipBlanks rest).isEmpty then some value else none

/-! ### Free-form values -/

mutual

/-- The free-form value of a text; nothing if a part of it has none. Of a repeated field the last
one stays. -/
def value? : Written → Option Json
  | .null => some .null
  | .bool b => some (.bool b)
  | .number (.whole i) => some (.int i)
  | .number (.binary x) => some (.float x)
  | .number .tooLarge => none
  | .str s => s.map .str
  | .arr items => (values? items).map .arr
  | .obj fields => (entries? fields).map fun es ↦ .ofBlock (Dictionary.ofList es)

/-- The free-form values of the items of a list. -/
def values? : List Written → Option (List Json)
  | [] => some []
  | w :: ws => do
    let v ← value? w
    let vs ← values? ws
    some (v :: vs)

/-- The free-form values of the fields of an object. -/
def entries? : List (Option String × Written) → Option (List (String × Json))
  | [] => some []
  | (key, w) :: rest => do
    let key ← key
    let v ← value? w
    let es ← entries? rest
    some ((key, v) :: es)

end

mutual

/-- A free-form value as a text would hold it. -/
def ofJson : Json → Written
  | .null => .null
  | .bool b => .bool b
  | .int i => .number (.whole i)
  | .float x => .number (.binary x)
  | .str s => .str (some s)
  | .arr items => .arr (ofItems items)
  | .obj fields => .obj (ofFields fields)

/-- The items of a list as a text would hold them. -/
def ofItems : List Json → List Written
  | [] => []
  | v :: vs => ofJson v :: ofItems vs

/-- The fields of an object as a text would hold them. -/
def ofFields : List (String × Json) → List (Option String × Written)
  | [] => []
  | (k, v) :: fs => (some k, ofJson v) :: ofFields fs

end

end Written

/-- The free-form value of a text. -/
def read? (text : String) : Option Json := do (← Written.read? text).value?

end NetWarden.Json
