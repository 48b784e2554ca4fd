import NetWarden.Bulk.Outcome
import NetWarden.Proofs.Store.Effects

/-!
# What is told of calls

The outcome of a call is its answer with the failure put down to something, and nothing else comes
between a call and its outcome. `Store.faultRecords` is **the other side of the failures that an
action tells**: it says what must be told, from the calls and the faults alone.
-/

namespace NetWarden

open StoreM

namespace Outcome

variable {α : Type} (resourceId : String) (op : Operation) (call : Attempt α) (s : Store)

@[simp] theorem result_of : result (Outcome.of resourceId op call) s =
    (call.result s).mapError (FailureRecord.of resourceId op) := by
  rw [Outcome.of, result_bind]
  rcases call.result s with e | a <;> rfl

@[simp] theorem after_of : after (Outcome.of resourceId op call) s = call.after s := by
  rw [Outcome.of, after_bind]
  rcases call.result s with e | a <;> rfl

/-- A call made for something tells this, unless a fault holds the call. -/
theorem value?_of_attempt {act : Store → Option (Unit × Store)} {c : Call} (a : α)
    (hact : ∃ t, act s = some ((), t)) :
    value? (result (do
      return (← Outcome.of resourceId op (Store.attempt c act)).map fun _ ↦ a) s) =
        if s.permits c then some a else none := by
  obtain ⟨t, ht⟩ := hact
  rw [result_bind, result_pure, Outcome.result_of]
  rcases hp : s.permits c with - | -
  · obtain ⟨f, hf⟩ := Store.exists_fault_of_not_permits hp
    rw [Store.result_attempt_of_fault hf]
    rfl
  · rw [Store.result_attempt_of_act (Store.fault?_of_permits hp) ht]
    rfl

theorem value?_eq_some_iff {o : Outcome α} {a : α} : o.value? = some a ↔ o = .ok a := by
  rcases o with f | b
  · constructor <;> intro h <;> cases h
  · constructor <;> intro h <;> cases h <;> rfl

theorem mem_values_iff {outcomes : List (Outcome α)} {a : α} :
    a ∈ outcomes.filterMap value? ↔ .ok a ∈ outcomes := by
  rw [List.mem_filterMap]
  simp only [value?_eq_some_iff, exists_eq_right]

section

variable (a : α) (f : FailureRecord) (outcomes : List (Outcome α))

@[simp] theorem values_ok_cons : List.filterMap value? (.ok a :: outcomes) =
    a :: outcomes.filterMap value? := rfl

@[simp] theorem values_error_cons : List.filterMap value? (.error f :: outcomes) =
    outcomes.filterMap value? := rfl

@[simp] theorem failures_ok_cons : List.filterMap failure? (.ok a :: outcomes) =
    outcomes.filterMap failure? := rfl

@[simp] theorem failures_error_cons : List.filterMap failure? (.error f :: outcomes) =
    f :: outcomes.filterMap failure? := rfl

end

end Outcome

namespace Store

variable {s t : Store}

/-- The records of those calls that meet a fault, each call put down to what it is about. They are
numbered on from `n` failures before. -/
def faultRecords (s : Store) : Nat → List (String × Call) → List FailureRecord
  | _, [] => []
  | n, c :: cs =>
    match s.fault? c.2 with
    | some f =>
      ⟨c.1, c.2.operation, f.status, s.supply.request (n + 1), f.reason⟩ ::
        s.faultRecords (n + 1) cs
    | none => s.faultRecords n cs

theorem faultRecords_singleton_of_fault {c : String × Call} {f : Fault}
    (h : s.fault? c.2 = some f) (n : Nat) : s.faultRecords n [c] =
      [⟨c.1, c.2.operation, f.status, s.supply.request (n + 1), f.reason⟩] := by
  simp only [faultRecords, h]

/-- Calls that meet no fault are not told. -/
theorem faultRecords_of_permits {cs : List (String × Call)}
    (h : ∀ c ∈ cs, s.permits c.2 = true) (n : Nat) : s.faultRecords n cs = [] := by
  induction cs with
  | nil => rfl
  | cons c cs ih =>
    simp only [faultRecords, fault?_of_permits (h c List.mem_cons_self)]
    exact ih fun d hd ↦ h d (List.mem_cons_of_mem _ hd)

theorem SameSetting.faultRecords_eq (h : SameSetting s t) (n : Nat) (cs : List (String × Call)) :
    t.faultRecords n cs = s.faultRecords n cs := by
  induction cs generalizing n with
  | nil => rfl
  | cons c cs ih => simp only [faultRecords, h.fault?_eq, h.supply, ih]

theorem faultRecords_append (n : Nat) (cs ds : List (String × Call)) :
    s.faultRecords n (cs ++ ds) =
      s.faultRecords n cs ++ s.faultRecords (n + (s.faultRecords n cs).length) ds := by
  induction cs generalizing n with
  | nil => rfl
  | cons c cs ih =>
    rw [List.cons_append, faultRecords, faultRecords]
    split
    · rw [ih, List.cons_append, List.length_cons]
      congr 3
      omega
    · exact ih n

end Store

end NetWarden
