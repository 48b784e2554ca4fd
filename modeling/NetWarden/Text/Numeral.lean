import NetWarden.Text.Blank

/-!
# Numerals

Whole numbers as people write them in ports, priorities and documents. A numeral is a run of
digits of a base, at least one, with leading zeros allowed; a sign may stand in front of it, and
nothing may stand between. A numeral that names a number outside the bounds of its place is
refused, never wrapped.

The readers take `List Char`; blanks around a numeral are for the caller to trim.
-/

namespace NetWarden.Text

/-- The value of a digit in base 16: the letters count from ten, in either case. -/
def digitValue? (c : Char) : Option Nat :=
  if '0' ≤ c ∧ c ≤ '9' then some (c.toNat - '0'.toNat)
  else if 'a' ≤ c ∧ c ≤ 'f' then some (c.toNat - 'a'.toNat + 10)
  else if 'A' ≤ c ∧ c ≤ 'F' then some (c.toNat - 'A'.toNat + 10)
  else none

/-- The digit's value if it is a digit of the base, which is at most 16. -/
def digitIn? (base : Nat) (c : Char) : Option Nat :=
  (digitValue? c).filter fun v ↦ decide (v < base)

/-- The number that digits continue: every digit shifts what stands before it by one place. -/
def continueNumber (base : Nat) (start : Nat) : List Char → Option Nat
  | [] => some start
  | c :: cs =>
    match digitIn? base c with
    | some v => continueNumber base (base * start + v) cs
    | none => none

/-- The number that a run of digits names; the empty run names none. -/
def number? (base : Nat) (cs : List Char) : Option Nat :=
  if cs.isEmpty then none else continueNumber base 0 cs

/-- A decimal numeral without a minus sign, up to a bound. A plus sign may stand in front. -/
def unsigned? (bound : Nat) : List Char → Option Nat
  | '+' :: cs => (number? 10 cs).filter fun n ↦ decide (n ≤ bound)
  | cs => (number? 10 cs).filter fun n ↦ decide (n ≤ bound)

/-- The number in a 64-bit signed place, if it fits one. -/
def toInt64? (i : Int) : Option Int64 :=
  if Int64.minValue.toInt ≤ i ∧ i ≤ Int64.maxValue.toInt then some (Int64.ofInt i) else none

/-- A decimal numeral with a sign or none. -/
def integer? : List Char → Option Int
  | '+' :: cs => (number? 10 cs).map Int.ofNat
  | '-' :: cs => (number? 10 cs).map fun n ↦ -Int.ofNat n
  | cs => (number? 10 cs).map Int.ofNat

/-- A decimal numeral with a sign or none, in a 64-bit signed place. -/
def int64? (cs : List Char) : Option Int64 := do toInt64? (← integer? cs)

/-- The decimal digits of a number, as they are written. -/
def digits (n : Nat) : String := toString n

/-- A number with its minus sign, as it is written. -/
def integer (i : Int) : String := toString i

/-- Every number in a 64-bit place fits one, and is what it was. -/
@[simp] theorem toInt64?_toInt (n : Int64) : toInt64? n.toInt = some n := by
  have hlow : Int64.minValue.toInt ≤ n.toInt := Int64.minValue_le_toInt n
  have hhigh : n.toInt ≤ Int64.maxValue.toInt := Int64.toInt_le n
  rw [toInt64?, if_pos ⟨hlow, hhigh⟩, Int64.ofInt_toInt]

end NetWarden.Text
