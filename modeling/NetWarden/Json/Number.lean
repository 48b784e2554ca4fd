import NetWarden.Json.Basic
import NetWarden.Text.Numeral

/-!
# Numbers of a JSON text

A number without fraction and exponent is whole if it lies between `-2 ^ 63` and `2 ^ 64 - 1`; every
other number, and `-0`, is a binary64 number.

Such a number is not rounded once but in two steps. Its digits are collected in a 64-bit
*significand* as long as they fit; digits of the whole part that do not fit only raise the power of
ten, and digits of the fraction that do not fit are dropped. Then the significand is rounded, and
the rounded value is multiplied or divided by the rounded power of ten. A value past the greatest
number is no number at all, so the reader refuses it where a number is wanted.
-/

namespace NetWarden.Json

/-- A number of a text. -/
inductive Number where
  /-- A whole number. -/
  | whole (i : Int)
  /-- A number with a fraction or an exponent, or a whole one that is too long. -/
  | binary (x : Binary64)
  /-- A number past the greatest one. -/
  | tooLarge
deriving DecidableEq, Repr

namespace Number

/-- The greatest significand. -/
def maxSignificand : Nat := UInt64.size - 1

/-- The bound on a written exponent, past which it counts as overflowing. -/
def maxExponent : Nat := 2147483647

/-- The rounded power of ten, for exponents up to 308. -/
def powerOfTen (n : Nat) : Option Binary64 := Binary64.ofDecimal false 1 n

/-- `x / 10 ^ n`, by steps of `10 ^ 308` that each round. Zero stays zero. -/
def scaledDown : Nat → Binary64 → Nat → Option Binary64
  | 0, x, _ => some x
  | fuel + 1, x, n =>
    if n ≤ 308 then do x.div (← powerOfTen n)
    else if x.isZero then some x
    else do scaledDown fuel (← x.div (← powerOfTen 308)) (n - 308)

/-- `± significand * 10 ^ exponent`, in two roundings. -/
def ofParts (negative : Bool) (significand : Nat) (exponent : Int) : Number :=
  let value : Option Binary64 := do
    let x ← Binary64.ofNat significand
    match exponent with
    | .ofNat n =>
      if n ≤ 308 then do x.mul (← powerOfTen n)
      else if x.isZero then some x
      else none
    | .negSucc n => scaledDown 8 x (n + 1)
  match value with
  | some x => .binary (if negative then x.neg else x)
  | none => .tooLarge

/-- Digits collected in a significand as long as they fit, with the count of those that do not. -/
def collect : Nat → List Nat → Nat × Nat
  | significand, [] => (significand, 0)
  | significand, d :: ds =>
    if significand * 10 + d ≤ maxSignificand then collect (significand * 10 + d) ds
    else (significand, ds.length + 1)

/-- The exponent that digits write, if it does not overflow. -/
def exponent? (ds : List Nat) : Option Nat :=
  let n := ds.foldl (fun n d ↦ n * 10 + d) 0
  if n ≤ maxExponent then some n else none

/-- The number of a text with the given digits: of the whole part, of the fraction if there is one,
and of the exponent with its sign if there is one. -/
def ofDigits (negative : Bool) (whole : List Nat) (fraction : Option (List Nat))
    (exponent : Option (Bool × List Nat)) : Number :=
  let (significand, surplus) := collect 0 whole
  match fraction, exponent with
  | none, none =>
    if surplus = 0 then
      if negative then
        if significand = 0 ∨ Nat.pow 2 63 < significand then ofParts true significand 0
        else .whole (-Int.ofNat significand)
      else .whole (Int.ofNat significand)
    else ofParts negative significand (Int.ofNat surplus)
  | _, _ =>
    let places := fraction.getD []
    let (significand, dropped) := collect significand places
    let start : Int := Int.ofNat surplus - Int.ofNat (places.length - dropped)
    match exponent with
    | none => ofParts negative significand start
    | some (down, ds) =>
      match exponent? ds with
      | some n =>
        ofParts negative significand (if down then start - Int.ofNat n else start + Int.ofNat n)
      | none =>
        if significand ≠ 0 ∧ !down then .tooLarge else .binary (.zero negative)

end Number

end NetWarden.Json
