import NetWarden.Store.Basic
import NetWarden.Text.Quoted

/-!
# Identifiers

New resources and failed calls are named by identifiers of 128 bits, written in base sixteen in five
groups, with the marks of a random identifier in the places kept for them. The n-th identifier of a
seed is the seed moved on by n steps, so one seed never gives an identifier twice before all have
been given.
-/

namespace NetWarden

/-- The lowest digits of a number in base sixteen, the highest of them first. -/
def lowHexadecimal (width n : Nat) : String :=
  String.ofList (Text.paddedHexadecimal width (n % Nat.pow 16 width))

/-- The identifier of a number of 122 bits. -/
def identifier (n : Nat) : String :=
  "-".intercalate
    [lowHexadecimal 8 (n / Nat.pow 2 90), lowHexadecimal 4 (n / Nat.pow 2 74),
      "4" ++ lowHexadecimal 3 (n / Nat.pow 2 62),
      lowHexadecimal 4 (0x8000 + n / Nat.pow 2 48 % Nat.pow 2 14), lowHexadecimal 12 n]

/-- A supply of identifiers. Those of calls start halfway around from those of resources. -/
def IdSupply.ofSeed (seed : Nat) : IdSupply where
  resource n := identifier (seed + n)
  request n := identifier (seed + Nat.pow 2 121 + n)

end NetWarden
