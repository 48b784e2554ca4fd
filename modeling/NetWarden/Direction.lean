import NetWarden.Source

/-!
# Directions of traffic

Traffic comes in or goes out, and much of the library is the same for both: the rules that matched,
the rules to add and the rules to remove are kept for each direction. `ByDirection` is such a pair.
-/

namespace NetWarden

/-- The direction of the traffic that a rule is about. -/
inductive Direction where
  /-- Traffic that comes in. -/
  | ingress
  /-- Traffic that goes out. -/
  | egress
deriving DecidableEq, Repr, Inhabited

namespace Direction

/-- Both directions, in the order in which they are worked through. -/
def all : List Direction := [.ingress, .egress]

/-- The name of a direction. -/
def name : Direction → String
  | .ingress => "ingress"
  | .egress => "egress"

/-- The direction with a name. -/
def named? (s : String) : Option Direction :=
  if s = "ingress" then some .ingress else if s = "egress" then some .egress else none

instance : Readable Direction := ⟨Readable.choice? named?⟩

@[simp] theorem named?_name (d : Direction) : named? d.name = some d := by cases d <;> decide

@[simp] theorem mem_all (d : Direction) : d ∈ all := by cases d <;> decide

end Direction

/-- Something for each direction. -/
structure ByDirection (α : Type) where
  /-- What there is for traffic that comes in. -/
  ingress : α
  /-- What there is for traffic that goes out. -/
  egress : α
deriving DecidableEq, Repr

namespace ByDirection

variable {α β : Type}

/-- The same for both directions. -/
def both (a : α) : ByDirection α := ⟨a, a⟩

/-- What there is for a direction. -/
def get (x : ByDirection α) : Direction → α
  | .ingress => x.ingress
  | .egress => x.egress

/-- With something else for one direction. -/
def set (x : ByDirection α) (d : Direction) (a : α) : ByDirection α :=
  match d with
  | .ingress => { x with ingress := a }
  | .egress => { x with egress := a }

@[simp] theorem get_both (a : α) (d : Direction) : (both a).get d = a := by cases d <;> rfl

@[simp] theorem get_set_self (x : ByDirection α) (d : Direction) (a : α) :
    (x.set d a).get d = a := by
  cases d <;> rfl

theorem get_set_of_ne (x : ByDirection α) {d e : Direction} (a : α) (h : e ≠ d) :
    (x.set d a).get e = x.get e := by
  cases d <;> cases e <;> first | rfl | exact absurd rfl h

end ByDirection

end NetWarden
