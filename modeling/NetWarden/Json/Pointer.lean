import NetWarden.Json.Basic
import NetWarden.Text.Numeral
import NetWarden.Text.Split

/-!
# Looking up a part of a value

A pointer names a part of a value by the keys and the positions that lead to it, each after a slash.
In a key, `~1` stands for a slash and `~0` for a tilde, in this order. A position is written without
a sign and without a leading zero. The empty pointer names the value itself.
-/

namespace NetWarden.Json

/-- A key or a position of a pointer, its escapes read. -/
def pointerStep (cs : List Char) : List Char :=
  Text.replace ['~', '0'] ['~'] (Text.replace ['~', '1'] ['/'] cs)

/-- The position that a step writes. -/
def position? (cs : List Char) : Option Nat :=
  match cs with
  | '+' :: _ => none
  | '0' :: _ :: _ => none
  | cs => Text.number? 10 cs

/-- The part of a value that a step leads to. -/
def child? (v : Json) (step : List Char) : Option Json :=
  match v with
  | .arr items => do items[← position? step]?
  | .obj fields => Dictionary.lookupIn (String.ofList step) fields
  | _ => none

/-- The part of a value that a pointer names. -/
def part? (v : Json) (pointer : List Char) : Option Json :=
  match pointer with
  | [] => some v
  | '/' :: rest => (Text.splitOn '/' rest).foldlM (fun v step ↦ v.child? (pointerStep step)) v
  | _ => none

end NetWarden.Json
