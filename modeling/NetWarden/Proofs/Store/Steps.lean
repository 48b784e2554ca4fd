import NetWarden.Store.Basic

/-!
# Steps as functions of the store

A step that makes calls is run from a store. Two functions say all of it: `StoreM.result`, what the
step gives, and `StoreM.after`, the store that it leaves. Both go through `pure`, `bind` and `map`
by computation, so a proof about a step never opens the monad.

Two more things are needed everywhere else:

* **Relations that steps keep.** `StoreM.Keeps r x` says that `x` leads from any store to one that
  is related to it. If the relation is reflexive and transitive, what each step for an element of a
  list keeps is kept by all of them (`Keeps.mapM`).
* **Steps that may end early.** A step of a run is one that may end with an error. What it gives is
  the result of its `run`, and `result_run_bind_eq_ok_iff` takes two of them apart.
-/

namespace NetWarden

namespace StoreM

variable {α β ε : Type}

/-- What a step gives if it begins at a store. -/
def result (x : StoreM α) (s : Store) : α := (x.run s).run.1

/-- The store that a step leaves. -/
def after (x : StoreM α) (s : Store) : Store := (x.run s).run.2

section

variable (x : StoreM α) (s : Store)

@[simp] theorem result_pure (a : α) : result (pure a) s = a := rfl

@[simp] theorem after_pure (a : α) : after (pure a) s = s := rfl

@[simp] theorem result_bind (f : α → StoreM β) :
    result (x >>= f) s = result (f (x.result s)) (x.after s) := rfl

@[simp] theorem after_bind (f : α → StoreM β) :
    after (x >>= f) s = after (f (x.result s)) (x.after s) := rfl

@[simp] theorem result_map (f : α → β) : result (f <$> x) s = f (x.result s) := rfl

@[simp] theorem after_map (f : α → β) : after (f <$> x) s = x.after s := rfl

end

/-! ### Steps for each element of a list -/

section

variable (f : α → StoreM β) (s : Store)

@[simp] theorem result_mapM_cons (a : α) (as : List α) :
    result ((a :: as).mapM f) s = (f a).result s :: result (as.mapM f) ((f a).after s) := by
  rw [List.mapM_cons]
  rfl

@[simp] theorem after_mapM_cons (a : α) (as : List α) :
    after ((a :: as).mapM f) s = after (as.mapM f) ((f a).after s) := by
  rw [List.mapM_cons]
  rfl

end

/-- What each step gives from any store holds of all that they give together. -/
theorem forall_mem_result_mapM {p : β → Prop} {f : α → StoreM β} (as : List α)
    (hf : ∀ a ∈ as, ∀ s, p ((f a).result s)) (s : Store) : ∀ b ∈ result (as.mapM f) s, p b := by
  induction as generalizing s with
  | nil => exact fun b hb ↦ absurd hb List.not_mem_nil
  | cons a as ih =>
    rw [result_mapM_cons, List.forall_mem_cons]
    exact ⟨hf a List.mem_cons_self s, ih (fun b hb ↦ hf b (List.mem_cons_of_mem _ hb)) _⟩

/-! ### Relations that steps keep -/

/-- Wherever a step begins, the store that it leaves is related to the one it began at. -/
def Keeps (r : Store → Store → Prop) (x : StoreM α) : Prop := ∀ s, r s (x.after s)

namespace Keeps

variable {r : Store → Store → Prop}

theorem map {x : StoreM α} (hx : Keeps r x) (f : α → β) : Keeps r (f <$> x) := hx

theorem bind {x : StoreM α} {f : α → StoreM β} (hx : Keeps r x)
    (htrans : ∀ {s t u}, r s t → r t u → r s u) (hf : ∀ a, Keeps r (f a)) : Keeps r (x >>= f) :=
  fun s ↦ htrans (hx s) (hf _ _)

/-- What is made of an answer makes no more calls. -/
theorem and_pure {x : StoreM α} (hx : Keeps r x) (f : α → β) :
    Keeps r (x >>= fun a ↦ pure (f a)) := hx

/-- **What each step keeps, all of them together keep.** -/
theorem mapM (hrefl : ∀ s, r s s) (htrans : ∀ {s t u}, r s t → r t u → r s u)
    {f : α → StoreM β} (as : List α) (hf : ∀ a ∈ as, Keeps r (f a)) : Keeps r (as.mapM f) := by
  induction as with
  | nil => exact hrefl
  | cons a as ih =>
    intro s
    rw [after_mapM_cons]
    exact htrans (hf a List.mem_cons_self s)
      (ih (fun b hb ↦ hf b (List.mem_cons_of_mem _ hb)) _)

end Keeps

/-! ### Steps that may end early -/

section

variable {x : ExceptT ε StoreM α} {f : α → ExceptT ε StoreM β} {s : Store}

theorem result_run_bind_of_ok {a : α} (h : result x.run s = .ok a) :
    result (x >>= f).run s = result (f a).run (after x.run s) := by
  rw [ExceptT.run_bind, result_bind, h]

theorem after_run_bind_of_ok {a : α} (h : result x.run s = .ok a) :
    after (x >>= f).run s = after (f a).run (after x.run s) := by
  rw [ExceptT.run_bind, after_bind, h]

theorem result_run_bind_of_error {e : ε} (h : result x.run s = .error e) :
    result (x >>= f).run s = .error e := by
  rw [ExceptT.run_bind, result_bind, h]
  rfl

theorem after_run_bind_of_error {e : ε} (h : result x.run s = .error e) :
    after (x >>= f).run s = after x.run s := by
  rw [ExceptT.run_bind, after_bind, h]
  rfl

/-- **Two steps succeed if the first one does, and the second from where the first one ended.** -/
theorem result_run_bind_eq_ok_iff {b : β} : result (x >>= f).run s = .ok b ↔
    ∃ a, result x.run s = .ok a ∧ result (f a).run (after x.run s) = .ok b := by
  rcases h : result x.run s with e | a
  · rw [result_run_bind_of_error h]
    constructor
    · intro hb
      cases hb
    · rintro ⟨a, ha, -⟩
      cases ha
  · rw [result_run_bind_of_ok h]
    constructor
    · exact fun hb ↦ ⟨a, rfl, hb⟩
    · rintro ⟨a', ha, hb⟩
      cases ha
      exact hb

end

end StoreM

end NetWarden
