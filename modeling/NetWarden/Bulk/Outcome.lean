import NetWarden.Store.Calls

/-!
# Outcomes of many calls

An action makes a call for each of many resources and goes on when one fails. Its *outcomes* are
what came of each, in order: a resource, or a `FailureRecord` that says which call failed and about
what. The result of an action parts the two and keeps the order within each.
-/

namespace NetWarden

/-- A call that failed, put down to what it was about. -/
structure FailureRecord where
  /-- The rule, group, flow log or target that the call was about; for a listing, the direction. -/
  resourceId : String
  /-- The operation of the call. -/
  operation : Operation
  /-- The status code of the failure. -/
  status : StatusCode
  /-- The id by which the store knows the call. -/
  requestId : String
  /-- What the store says about it. -/
  reason : String
deriving DecidableEq, Repr

namespace FailureRecord

/-- The record of a failure of a call about something. -/
def of (resourceId : String) (operation : Operation) (e : TransportError) : FailureRecord :=
  ⟨resourceId, operation, e.status, e.requestId, e.reason⟩

/-- A failure as it is reported. -/
def toJson (f : FailureRecord) : Json :=
  .obj [("resource_id", .str f.resourceId), ("operation", .str f.operation.name),
    ("status_code", .int f.status.toNat), ("request_id", .str f.requestId),
    ("reason", .str f.reason)]

end FailureRecord

/-- What came of one call: a value, or a failure. -/
abbrev Outcome (α : Type) := Except FailureRecord α

namespace Outcome

variable {α β : Type}

/-- The value of an outcome. -/
def value? : Outcome α → Option α
  | .ok a => some a
  | .error _ => none

/-- The failure of an outcome. -/
def failure? : Outcome α → Option FailureRecord
  | .ok _ => none
  | .error f => some f

/-- A call whose failure is put down to something. -/
def of (resourceId : String) (operation : Operation) (call : Attempt α) : StoreM (Outcome α) := do
  match ← call with
  | .ok a => return .ok a
  | .error e => return .error (.of resourceId operation e)

end Outcome

/-- What came of an action: what it worked for, and what failed. -/
structure BulkResult (α : Type) where
  /-- What the action worked for, in order. -/
  succeeded : List α
  /-- What failed, in order. -/
  failed : List FailureRecord
deriving DecidableEq, Repr

namespace BulkResult

variable {α : Type}

/-- The result of outcomes. -/
def ofOutcomes (outcomes : List (Outcome α)) : BulkResult α :=
  ⟨outcomes.filterMap Outcome.value?, outcomes.filterMap Outcome.failure?⟩

/-- Nothing was done. -/
def none : BulkResult α := ⟨[], []⟩

/-- Two lists of a result under names. -/
def fields (toJson : α → Json) (succeeded failed : String) (r : BulkResult α) :
    List (String × Json) :=
  [(succeeded, .arr (r.succeeded.map toJson)), (failed, .arr (r.failed.map FailureRecord.toJson))]

end BulkResult

/-- The elements whose keys are not among those seen, each key once. -/
def distinctOn {α : Type} (key : α → String) : List String → List α → List α
  | _, [] => []
  | seen, a :: rest =>
    if seen.contains (key a) then distinctOn key seen rest
    else a :: distinctOn key (key a :: seen) rest

/-- The texts of a list in order, each once. -/
def sortedDistinct (texts : List String) : List String :=
  (Dictionary.ofList (texts.map fun t ↦ (t, ()))).keys

end NetWarden
