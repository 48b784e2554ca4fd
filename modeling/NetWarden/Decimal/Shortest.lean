import NetWarden.Decimal.Binary64

/-!
# The shortest decimal of a number

The decimal with the fewest digits that reads back as the number, and of those the nearest to it. A
decimal reads back if it lies in the *interval* of reals that round to the number: half a unit to
either side, a quarter below a power of two, and the ends themselves if the significand is even.

For one digit, two digits and so on up to seventeen, the two neighbours of the number on that
decimal grid are tried; a grid with a point in the interval has one of them there. Seventeen digits
always suffice.

`DecimalLayout` is how such a decimal is written out: `plain` has a point and at least one digit on
either side of it from `10 ^ (-5)` up to `10 ^ 16`, and an exponent beyond.
-/

namespace NetWarden

namespace Binary64

/-- The ends of the interval that rounds to a number, and the number itself, in quarters of its
unit; the last part says whether the ends belong to the interval. -/
def interval (x : Binary64) : Nat × Nat × Nat × Bool :=
  let m := x.significand
  let low := if m = Nat.pow 2 52 ∧ minExponent < x.exponent then 4 * m - 1 else 4 * m - 2
  (low, 4 * m, 4 * m + 2, m % 2 == 0)

/-- `q / 4 * 2 ^ exponent` in units of `10 ^ power`, as a ratio. -/
def inTens (q : Nat) (exponent power : Int) : Nat × Nat :=
  let two : Nat × Nat := match exponent with
    | .ofNat e => (Nat.pow 2 e, 1)
    | .negSucc e => (1, Nat.pow 2 (e + 1))
  let ten : Nat × Nat := match power with
    | .ofNat p => (1, Nat.pow 10 p)
    | .negSucc p => (Nat.pow 10 (p + 1), 1)
  (q * two.1 * ten.1, 4 * two.2 * ten.2)

/-- Whether `digits * 10 ^ power` rounds to the number. -/
def readsBack (x : Binary64) (digits : Nat) (power : Int) : Bool :=
  let (low, _, high, closed) := x.interval
  let (ln, ld) := inTens low x.exponent power
  let (hn, hd) := inTens high x.exponent power
  if closed then decide (ln ≤ digits * ld) && decide (digits * hd ≤ hn)
  else decide (ln < digits * ld) && decide (digits * hd < hn)

/-- The nearer of the two neighbours of the number among the multiples of `10 ^ power`, if one of
them rounds to the number. -/
def onGrid? (x : Binary64) (power : Int) : Option Nat :=
  let (n, d) := inTens (4 * x.significand) x.exponent power
  let below := n / d
  match x.readsBack below power, x.readsBack (below + 1) power with
  | true, true => some (roundHalfEven n d)
  | true, false => some below
  | false, true => some (below + 1)
  | false, false => none

/-- The power of ten of the first digit of a positive number. -/
def leadingPower (x : Binary64) : Int :=
  let (n, d) := x.ratio
  let guess : Int := Int.ofNat (Nat.toDigits 10 n).length - Int.ofNat (Nat.toDigits 10 d).length
  let reached (p : Int) : Bool :=
    match p with
    | .ofNat p => decide (d * Nat.pow 10 p ≤ n)
    | .negSucc p => decide (d ≤ n * Nat.pow 10 (p + 1))
  if reached guess then guess else guess - 1

/-- The first of the powers whose grid has a point that reads back, with that point. -/
def firstGrid (x : Binary64) : List Int → Nat × Int
  | [] => (0, 0)
  | p :: ps =>
    match x.onGrid? p with
    | some digits => (digits, p)
    | none => x.firstGrid ps

/-- Digits without zeros at their end, with the power of ten of the last one. -/
def stripZeros : Nat → Nat × Int → Nat × Int
  | 0, s => s
  | fuel + 1, (digits, power) =>
    if digits ≠ 0 ∧ digits % 10 = 0 then stripZeros fuel (digits / 10, power + 1)
    else (digits, power)

/-- The shortest decimal that reads back as the number: its digits, and the power of ten of the last
of them. Zero has the one digit zero. -/
def shortest (x : Binary64) : Nat × Int :=
  if x.isZero then (0, 0)
  else
    let top := x.leadingPower
    stripZeros 20 (x.firstGrid ((List.range 17).map fun k ↦ top - Int.ofNat k))

end Binary64

/-- Where a written decimal changes from plain digits to an exponent. -/
structure DecimalLayout where
  /-- Numbers below `10 ^ plainBelow` are written without an exponent. -/
  plainBelow : Int
  /-- Numbers from `10 ^ plainFrom` on are written without an exponent. -/
  plainFrom : Int

namespace DecimalLayout

/-- The layout of documents and messages. -/
def plain : DecimalLayout := ⟨16, -5⟩

/-- A run of zeros. -/
def zeros (n : Int) : String := String.ofList (List.replicate n.toNat '0')

/-- A positive decimal `digits * 10 ^ power`: with a point and a digit on either side of it, or as
one digit, the rest after a point if there is any, and the exponent. -/
def writePositive (layout : DecimalLayout) (digits : Nat) (power : Int) : String :=
  let shown := toString digits
  let length : Int := Int.ofNat shown.length
  let point := length + power
  if 0 ≤ power ∧ point ≤ layout.plainBelow then shown ++ zeros power ++ ".0"
  else if 0 < point ∧ point ≤ layout.plainBelow then
    String.ofList (shown.toList.take point.toNat) ++ "." ++
      String.ofList (shown.toList.drop point.toNat)
  else if layout.plainFrom < point ∧ point ≤ 0 then "0." ++ zeros (-point) ++ shown
  else
    let exponent := "e" ++ toString (point - 1)
    if length = 1 then shown ++ exponent
    else
      String.ofList (shown.toList.take 1) ++ "." ++ String.ofList (shown.toList.drop 1) ++ exponent

/-- A number in a layout. -/
def write (layout : DecimalLayout) (x : Binary64) : String :=
  let (digits, power) := x.shortest
  let sign := if x.negative then "-" else ""
  if x.isZero then sign ++ "0.0" else sign ++ layout.writePositive digits power

end DecimalLayout

end NetWarden
