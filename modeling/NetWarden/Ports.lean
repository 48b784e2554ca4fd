import NetWarden.Rule
import NetWarden.Text.Split

/-!
# The ports that a rule opens

A rule states its ports as items between commas: a port number, or a range from one number to
another, both of which belong to it. Blanks around items and numbers do not count. An item that is
no number and no range opens nothing, wherever it stands, and so does a range whose ends are in the
wrong order; nothing of that is ever an error. A rule that states no ports, or states the mark for
any, opens all.

`PortCoverage.covers` is what all this comes to: the set of ports that a rule opens.
-/

namespace NetWarden

/-- A port number. -/
abbrev PortNumber := UInt16

/-- A well-formed item of a list of ports. -/
inductive PortItem where
  /-- One port. -/
  | single (port : PortNumber)
  /-- All ports from one to another. -/
  | range (low high : PortNumber) (le : low ≤ high)
deriving DecidableEq, Repr

namespace PortItem

/-- Whether an item opens a port. -/
def opens (port : PortNumber) : PortItem → Bool
  | single p => p == port
  | range low high _ => decide (low ≤ port) && decide (port ≤ high)

/-- The port of a single item. -/
def single? : PortItem → Option PortNumber
  | single p => some p
  | range .. => none

/-- The ends of a range. -/
def range? : PortItem → Option (PortNumber × PortNumber)
  | single _ => none
  | range low high _ => some (low, high)

end PortItem

/-- The port with a numeral, blanks around it not counted. -/
def portNumber? (cs : List Char) : Option PortNumber :=
  (Text.unsigned? 65535 (Text.trimChars cs)).map UInt16.ofNat

/-- The item that characters write, if they write one. -/
def portItem? (cs : List Char) : Option PortItem :=
  match Text.splitOnce '-' cs with
  | none => (portNumber? cs).map .single
  | some (low, high) => do
    let low ← portNumber? low
    let high ← portNumber? high
    if le : low ≤ high then some (.range low high le) else none

/-- The ports that a rule opens. -/
inductive PortCoverage where
  /-- All ports. -/
  | all
  /-- The ports of a list of items. -/
  | listed (items : List PortItem)
deriving DecidableEq, Repr

namespace PortCoverage

/-- The ports that a statement opens, or none of it. -/
def parse (multiport : Option String) : PortCoverage :=
  match multiport.map Text.trim with
  | none => .all
  | some raw =>
    if raw = "" ∨ raw = anyMark then .all
    else .listed ((Text.splitOn ',' raw.toList).filterMap portItem?)

/-- Whether all ports are open because nothing limits them. -/
def isAll : PortCoverage → Bool
  | all => true
  | listed _ => false

/-- Whether a port is open. -/
def covers (port : PortNumber) : PortCoverage → Bool
  | all => true
  | listed items => items.any (·.opens port)

/-- The ports that stand on their own, each once, in order. -/
def singles : PortCoverage → List PortNumber
  | all => []
  | listed items => ((items.filterMap PortItem.single?).mergeSort (decide <| · ≤ ·)).eraseDups

/-- The ranges in the order stated. -/
def ranges : PortCoverage → List (PortNumber × PortNumber)
  | all => []
  | listed items => items.filterMap PortItem.range?

end PortCoverage

/-- The ports that a rule opens. -/
def Rule.ports (r : Rule) : PortCoverage := .parse r.multiport

end NetWarden
