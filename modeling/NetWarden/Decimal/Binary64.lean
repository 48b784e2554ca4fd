/-!
# Finite binary64 numbers

The numbers with a fraction or an exponent in a document: a sign, a significand below `2 ^ 53` and a
power of two. Every number that the library makes is *canonical*: the significand is at least
`2 ^ 52` unless the power is the least one, `2 ^ (-1074)`, so equal numbers are equal structures but
for the two zeros.

Arithmetic is exact rounding. `ofRatio` gives the number nearest to a ratio of naturals, a tie going
to the even significand, or nothing if the ratio is too large; product, quotient and the reading of
a decimal are ratios handed to it. There is no infinity and no value that is not a number.
-/

namespace NetWarden

/-- A finite binary64 number: `± significand * 2 ^ exponent`. -/
structure Binary64 where
  /-- Whether the number has a minus sign; zero may have one too. -/
  negative : Bool
  /-- The digits of the number in base two. -/
  significand : Nat
  /-- The power of two that the significand is multiplied by. -/
  exponent : Int
deriving DecidableEq, Repr, Inhabited

namespace Binary64

/-- The least power of two of a number. -/
def minExponent : Int := -1074

/-- The greatest power of two of a number. -/
def maxExponent : Int := 971

/-- Zero with a sign. -/
def zero (negative : Bool) : Binary64 := ⟨negative, 0, minExponent⟩

/-- Whether a number is one of the two zeros. -/
def isZero (x : Binary64) : Bool := x.significand == 0

/-- The number with the other sign. -/
def neg (x : Binary64) : Binary64 := { x with negative := !x.negative }

/-- The same number: the zeros are one number, all else is compared as it stands. -/
def same (x y : Binary64) : Bool := x.isZero && y.isZero || decide (x = y)

/-- `num / den` as a ratio to the unit `2 ^ exponent`. -/
def inUnits (num den : Nat) (exponent : Int) : Nat × Nat :=
  match exponent with
  | .ofNat e => (num, den * Nat.pow 2 e)
  | .negSucc e => (num * Nat.pow 2 (e + 1), den)

/-- The nearest natural to a ratio; a half goes to the even one. -/
def roundHalfEven (num den : Nat) : Nat :=
  let q := num / den
  let r := num % den
  if 2 * r < den then q
  else if den < 2 * r then q + 1
  else if q % 2 = 0 then q else q + 1

/-- The power of two that leaves a positive ratio 53 binary digits before the point. -/
def exponentOf (num den : Nat) : Int :=
  let guess : Int := Int.ofNat num.log2 - Int.ofNat den.log2 - 53
  let above (e : Int) : Bool :=
    let (n, d) := inUnits num den e
    decide (Nat.pow 2 53 ≤ n / d)
  let fitted := if above (guess + 1) then guess + 2 else if above guess then guess + 1 else guess
  max minExponent fitted

/-- The number nearest to `num / den`, a tie going to the even significand. Nothing if the ratio
rounds past the greatest number or the denominator is zero. -/
def ofRatio (negative : Bool) (num den : Nat) : Option Binary64 :=
  if den = 0 then none
  else if num = 0 then some (zero negative)
  else
    let e := exponentOf num den
    let (n, d) := inUnits num den e
    let m := roundHalfEven n d
    let (m, e) := if m = Nat.pow 2 53 then (Nat.pow 2 52, e + 1) else (m, e)
    if maxExponent < e then none else some ⟨negative, m, e⟩

/-- The ratio of naturals that a number is, its sign apart. -/
def ratio (x : Binary64) : Nat × Nat :=
  match x.exponent with
  | .ofNat e => (x.significand * Nat.pow 2 e, 1)
  | .negSucc e => (x.significand, Nat.pow 2 (e + 1))

/-- The product, rounded. -/
def mul (x y : Binary64) : Option Binary64 :=
  let (a, b) := x.ratio
  let (c, d) := y.ratio
  ofRatio (x.negative != y.negative) (a * c) (b * d)

/-- The quotient, rounded; nothing for a divisor that is zero. -/
def div (x y : Binary64) : Option Binary64 :=
  let (a, b) := x.ratio
  let (c, d) := y.ratio
  ofRatio (x.negative != y.negative) (a * d) (b * c)

/-- A natural number, rounded. -/
def ofNat (n : Nat) : Option Binary64 := ofRatio false n 1

/-- The number nearest to `± digits * 10 ^ exponent`. An exponent so far out that the decimal is
past every number, or below half of the least one, is decided by the count of digits alone. -/
def ofDecimal (negative : Bool) (digits : Nat) (exponent : Int) : Option Binary64 :=
  let places : Int := Int.ofNat (Nat.toDigits 10 digits).length
  if digits = 0 then some (zero negative)
  else if 400 < places + exponent then none
  else if places + exponent < -400 then some (zero negative)
  else
    match exponent with
    | .ofNat e => ofRatio negative (digits * Nat.pow 10 e) 1
    | .negSucc e => ofRatio negative digits (Nat.pow 10 (e + 1))

end Binary64

end NetWarden
