import NetWarden.Json.Basic
import NetWarden.Text.Numeral
import NetWarden.Yaml.Token

/-!
# What a bare scalar says

A scalar without quotes may be the absent value, a truth value or a number; what is none of these is
a text. A whole number has a sign or none, and after `0x`, `0o` and `0b` another base. Digits that
start with a zero are a text, since they could be meant in base eight. A number with a fraction or
an exponent is rounded once to the nearest binary64 number; one past the greatest is a text.
Infinity and the value that is not a number can be written, but no free-form value holds them, so
they are absent.

The tags of the core schema force a meaning upon a scalar, in quotes or not.
-/

namespace NetWarden.Yaml

/-- A tag of the core schema. -/
def coreTag (name : String) : String := "tag:yaml.org,2002:" ++ name

/-- The words for the absent value. -/
def isNullWord (s : String) : Bool := ["null", "Null", "NULL", "~"].contains s

/-- The words for the truth values. -/
def truth? (s : String) : Option Bool :=
  if ["true", "True", "TRUE"].contains s then some true
  else if ["false", "False", "FALSE"].contains s then some false
  else none

/-! ### Whole numbers -/

/-- Digits that start with a zero they do not need, after a sign or none. -/
def isPaddedDigits (cs : List Char) : Bool :=
  let digits := match cs with
    | '-' :: ds => ds
    | '+' :: ds => ds
    | ds => ds
  match digits with
  | '0' :: d :: ds => (d :: ds).all Char.isDigit
  | _ => false

/-- Whether a sign stands in front. -/
def hasSign : List Char → Bool
  | '+' :: _ => true
  | '-' :: _ => true
  | _ => false

/-- The number after `0x`, `0o` or `0b`. -/
def based? : List Char → Option Nat
  | '0' :: 'x' :: ds => Text.number? 16 ds
  | '0' :: 'o' :: ds => Text.number? 8 ds
  | '0' :: 'b' :: ds => Text.number? 2 ds
  | _ => none

/-- The number that digits write, in base ten or in the base they state. -/
def natural? (cs : List Char) : Option Nat :=
  match based? cs with
  | some n => some n
  | none => if isPaddedDigits cs then none else Text.number? 10 cs

/-- A whole number. -/
def whole? (s : String) : Option Int :=
  match s.toList with
  | '+' :: cs => if hasSign cs then none else (natural? cs).map Int.ofNat
  | '-' :: cs => (natural? cs).map fun n ↦ -Int.ofNat n
  | cs => (natural? cs).map Int.ofNat

/-! ### Numbers with a fraction or an exponent -/

/-- The words for infinity and for the value that is not a number. -/
def isUnbounded (s : String) : Bool :=
  [".inf", ".Inf", ".INF", "+.inf", "+.Inf", "+.INF", "-.inf", "-.Inf", "-.INF", ".nan", ".NaN",
    ".NAN"].contains s

/-- The exponent at the end of a decimal, if there is one: a sign or none and digits. -/
def exponent? : List Char → Option Int
  | [] => some 0
  | c :: cs => if c = 'e' ∨ c = 'E' then Text.integer? cs else none

/-- A decimal without its sign: digits, of which some may follow a point, and an exponent or none.
-/
def decimal? (negative : Bool) (cs : List Char) : Option Binary64 := do
  let whole := cs.takeWhile Char.isDigit
  let rest := cs.dropWhile Char.isDigit
  let (fraction, rest) := match rest with
    | '.' :: rest => (rest.takeWhile Char.isDigit, rest.dropWhile Char.isDigit)
    | rest => ([], rest)
  let digits ← Text.number? 10 (whole ++ fraction)
  let exponent ← exponent? rest
  Binary64.ofDecimal negative digits (exponent - Int.ofNat fraction.length)

/-- A number with a fraction or an exponent. -/
def binary? (s : String) : Option Binary64 :=
  match s.toList with
  | '+' :: cs => if hasSign cs then none else decimal? false cs
  | '-' :: cs => decimal? true cs
  | cs => decimal? false cs

/-! ### Scalars as free-form values -/

/-- A whole number as a free-form value: none past 64 bits. Past 128 bits the scalar counts as no
whole number at all. -/
def wholeValue? (i : Int) : Option Json :=
  if Int64.minValue.toInt ≤ i ∧ i < Int.ofNat UInt64.size then some (.int i) else none

/-- Whether a number fits 128 bits, with a sign or without. -/
def fitsWide (i : Int) : Bool :=
  decide (-Int.ofNat (Nat.pow 2 127) ≤ i) && decide (i < Int.ofNat (Nat.pow 2 128))

/-- What a bare scalar says. -/
def bareValue? (s : String) : Option Json :=
  if s.isEmpty || isNullWord s then some .null
  else
    match truth? s, (whole? s).filter fitsWide with
    | some b, _ => some (.bool b)
    | none, some i => wholeValue? i
    | none, none =>
      if isPaddedDigits s.toList then some (.str s)
      else if isUnbounded s then some .null
      else
        match binary? s with
        | some x => some (.float x)
        | none => some (.str s)

/-- What a scalar says, forced by its tag. A tag of the document's own has no meaning here. -/
def scalarValue? (text : String) (style : Style) (tag : Option String) : Option Json :=
  match tag with
  | none => if style = .plain then bareValue? text else some (.str text)
  | some t =>
    if t.toList.head? = some '!' then none
    else if t = coreTag "bool" then (truth? text).map .bool
    else if t = coreTag "int" then do wholeValue? (← (whole? text).filter fitsWide)
    else if t = coreTag "float" then
      if isUnbounded text then some .null else (binary? text).map .float
    else if t = coreTag "null" then if isNullWord text then some .null else none
    else some (.str text)

end NetWarden.Yaml
