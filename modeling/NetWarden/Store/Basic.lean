import NetWarden.Inventory
import NetWarden.Store.Call

/-!
# The store

A store of network resources, kept in memory. Besides the resources it has *faults*: a call whose
operation and key a fault names fails, and changes nothing. The fault for the very key goes before
one for any key, and of several for one key the latest counts. A call also fails if it is to change
something that is not there.

Every call goes through `Store.attempt`, which looks for faults, lets the call act, and adds it to
the log. New ids come from a supply, one after the other; so do the ids of calls that fail.
-/

namespace NetWarden

/-- Where new ids come from. -/
structure IdSupply where
  /-- The id of the n-th new resource, counted from one. -/
  resource : Nat → String
  /-- The id of the n-th call that fails, counted from one. -/
  request : Nat → String

/-- Calls of an operation with a key are to fail. -/
structure Fault where
  /-- The operation. -/
  operation : Operation
  /-- The key, or the one that stands for any. -/
  key : String
  /-- The status code of the failure. -/
  status : StatusCode
  /-- What the store says about it. -/
  reason : String
deriving DecidableEq, Repr

/-- A store. -/
structure Store where
  /-- The resources. -/
  inventory : Inventory
  /-- The faults, the latest first. -/
  faults : List Fault := []
  /-- Where new ids come from. -/
  supply : IdSupply
  /-- The number of resources created so far. -/
  created : Nat := 0
  /-- The number of calls that failed so far. -/
  failures : Nat := 0
  /-- The calls so far, in order. -/
  log : List CallRecord := []

namespace Store

/-- The fault of an operation for just this key. -/
def faultAt (s : Store) (op : Operation) (key : String) : Option Fault :=
  s.faults.find? fun f ↦ f.operation == op && f.key == key

/-- The fault that a call meets. -/
def fault? (s : Store) (call : Call) : Option Fault :=
  (s.faultAt call.operation call.key).or (s.faultAt call.operation Call.anyKey)

/-- Lets calls of an operation with a key fail from now on. -/
def addFault (s : Store) (f : Fault) : Store := { s with faults := f :: s.faults }

/-- Without faults. -/
def clearFaults (s : Store) : Store := { s with faults := [] }

/-- A call that fails. -/
def refuse {α : Type} (s : Store) (call : Call) (status : StatusCode) (reason : String) :
    Except TransportError α × Store :=
  let e : TransportError := ⟨status, s.supply.request (s.failures + 1), reason⟩
  (.error e, { s with failures := s.failures + 1, log := s.log ++ [⟨call, some e⟩] })

/-- A call that succeeds. -/
def answer {α : Type} (s : Store) (call : Call) (a : α) : Except TransportError α × Store :=
  (.ok a, { s with log := s.log ++ [⟨call, none⟩] })

/-- A call: it fails if it meets a fault or if what it is to change is not there, and else acts. -/
def attempt {α : Type} (call : Call) (act : Store → Option (α × Store)) (s : Store) :
    Except TransportError α × Store :=
  match s.fault? call with
  | some f => s.refuse call f.status f.reason
  | none =>
    match act s with
    | some (a, s) => s.answer call a
    | none => s.refuse call 404 call.notFound

/-- A store with the resources of an inventory. -/
def ofInventory (inventory : Inventory) (supply : IdSupply) : Store := { inventory, supply }

/-- Changes the resources. -/
def update (s : Store) (f : Inventory → Inventory) : Store := { s with inventory := f s.inventory }

/-- Adds a rule. -/
def insertRule (s : Store) (r : Rule) : Store := s.update fun i ↦ { i with rules := i.rules ++ [r] }

/-- Adds a group. -/
def insertGroup (s : Store) (g : Group) : Store :=
  s.update fun i ↦ { i with groups := i.groups ++ [g] }

/-- Adds a port. -/
def insertPort (s : Store) (p : NetworkPort) : Store :=
  s.update fun i ↦ { i with ports := i.ports ++ [p] }

/-- Adds a flow log. -/
def insertFlowLog (s : Store) (f : FlowLog) : Store :=
  s.update fun i ↦ { i with flowLogs := i.flowLogs ++ [f] }

end Store

/-- A step that makes calls to a store. -/
abbrev StoreM := StateM Store

/-- A step that is one call. -/
abbrev Attempt (α : Type) := StoreM (Except TransportError α)

end NetWarden
