import Mathlib.Data.List.Nodup
import NetWarden.Proofs.Store.Effects

/-!
# The supply of ids

New resources are named by the ids of a supply, one after the other, and a store counts how many it
has taken. `Store.TakesIds` says of two stores that **just these ids were taken in between, in their
order**; it goes on from step to step (`TakesIds.append`), and a step that creates nothing takes
none (`SameSupply`). `StoreM.Takes` says it of a step that tells in its result what it has taken.

Nothing is known of the ids of a supply but what is asked for where it is needed. They are *new* if
none that the supply has still to give is in use (`Supplies`), and they are *different* if it gives
none twice (`SuppliesOnce`). Both last: what is taken later is a part of what was still to come.
-/

namespace NetWarden

open StoreM

variable {α β ε ε' : Type}

namespace Store

variable {s t u : Store} {ids ids' : List String} {id : String}

/-- The next ids of the supply, in order. -/
def nextIds (s : Store) (n : Nat) : List String :=
  (List.range n).map fun k ↦ s.supply.resource (s.created + k + 1)

/-- The supply has still to give this id. -/
def Supplies (s : Store) (id : String) : Prop := ∃ n, s.created < n ∧ s.supply.resource n = id

/-- The supply gives no id twice from now on. -/
def SuppliesOnce (s : Store) : Prop :=
  ∀ m n, s.created < m → s.created < n → s.supply.resource m = s.supply.resource n → m = n

@[simp] theorem length_nextIds (s : Store) (n : Nat) : (s.nextIds n).length = n := by
  rw [nextIds, List.length_map, List.length_range]

theorem mem_nextIds {n : Nat} :
    id ∈ s.nextIds n ↔ ∃ k < n, s.supply.resource (s.created + k + 1) = id := by
  rw [nextIds, List.mem_map]
  exact exists_congr fun k ↦ and_congr_left' List.mem_range

/-- Between two stores just these ids were taken from the supply. -/
structure TakesIds (s t : Store) (ids : List String) : Prop extends SameSetting s t where
  /-- The ids are counted. -/
  created : t.created = s.created + ids.length
  /-- They are the next ones. -/
  ids_eq : ids = s.nextIds ids.length

/-- Between two stores no id was taken. -/
abbrev SameSupply (s t : Store) : Prop := TakesIds s t []

namespace TakesIds

theorem refl (s : Store) : SameSupply s s := ⟨.refl s, rfl, rfl⟩

/-- **What is taken in two steps is taken in their order.** -/
theorem append (h : TakesIds s t ids) (h' : TakesIds t u ids') : TakesIds s u (ids ++ ids') where
  toSameSetting := h.toSameSetting.trans h'.toSameSetting
  created := by rw [h'.created, h.created, List.length_append, Nat.add_assoc]
  ids_eq := by
    have hrest : t.nextIds ids'.length = (List.range ids'.length).map fun k ↦
        s.supply.resource (s.created + (ids.length + k) + 1) := by
      rw [nextIds, h.supply, h.created]
      simp only [Nat.add_assoc]
    rw [nextIds, List.length_append, List.range_add, List.map_append, List.map_map]
    exact congrArg₂ (· ++ ·) h.ids_eq (h'.ids_eq.trans hrest)

theorem trans (h : SameSupply s t) (h' : SameSupply t u) : SameSupply s u := h.append h'

/-- What is taken was still to come. -/
theorem supplies_of_mem (h : TakesIds s t ids) (hid : id ∈ ids) : s.Supplies id := by
  rw [h.ids_eq, mem_nextIds] at hid
  obtain ⟨k, -, hk⟩ := hid
  exact ⟨s.created + k + 1, by omega, hk⟩

/-- What is still to come afterwards was still to come before. -/
theorem supplies_of_after (h : TakesIds s t ids) (hid : t.Supplies id) : s.Supplies id := by
  obtain ⟨n, hn, hid⟩ := hid
  rw [h.created] at hn
  rw [h.supply] at hid
  exact ⟨n, by omega, hid⟩

theorem suppliesOnce (h : TakesIds s t ids) (hs : s.SuppliesOnce) : t.SuppliesOnce := by
  intro m n hm hn heq
  rw [h.created] at hm hn
  rw [h.supply] at heq
  exact hs m n (by omega) (by omega) heq

/-- What is taken does not come again. -/
theorem not_supplies_of_mem (h : TakesIds s t ids) (hs : s.SuppliesOnce) (hid : id ∈ ids) :
    ¬ t.Supplies id := by
  rintro ⟨n, hn, hres⟩
  rw [h.ids_eq, mem_nextIds] at hid
  obtain ⟨k, hk, rfl⟩ := hid
  rw [h.created] at hn
  rw [h.supply] at hres
  have := hs n (s.created + k + 1) (by omega) (by omega) hres
  omega

/-- **What is taken is taken once.** -/
theorem nodup (h : TakesIds s t ids) (hs : s.SuppliesOnce) : ids.Nodup := by
  rw [h.ids_eq, nextIds, List.nodup_map_iff_inj_on List.nodup_range]
  intro k _ k' _ heq
  have := hs _ _ (by omega) (by omega) heq
  omega

end TakesIds

theorem Unchanged.sameSupply (h : Unchanged s t) : SameSupply s t :=
  ⟨h.toSameSetting, h.created, rfl⟩

end Store

open Store

/-! ### Steps that take ids -/

/-- The ids that an answer tells; a failure tells none. -/
def answeredIds (ids : α → List String) : Except ε α → List String
  | .ok a => ids a
  | .error _ => []

theorem answeredIds_mapError (ids : α → List String) (f : ε → ε') (x : Except ε α) :
    answeredIds ids (x.mapError f) = answeredIds ids x := by
  rcases x with e | a <;> rfl

namespace StoreM

/-- Wherever a step begins, it takes just the ids that its result tells. -/
def Takes (ids : α → List String) (x : StoreM α) : Prop :=
  ∀ s : Store, s.TakesIds (x.after s) (ids (x.result s))

/-- **All steps together take what each of them takes**, one after the other. -/
theorem Takes.mapM {ids : β → List String} {f : α → StoreM β} (hf : ∀ a, Takes ids (f a))
    (as : List α) : Takes (List.flatMap ids) (as.mapM f) := by
  induction as with
  | nil => exact TakesIds.refl
  | cons a as ih =>
    intro s
    rw [after_mapM_cons, result_mapM_cons]
    exact (hf a s).append (ih _)

end StoreM

/-! ### Calls -/

namespace Store

variable {call : Call} {act : Store → Option (α × Store)}

/-- **A call takes the ids of what it creates**, and a refused call takes none. -/
theorem takes_attempt {ids : α → List String}
    (hact : ∀ s a t, act s = some (a, t) → s.TakesIds t (ids a)) :
    Takes (answeredIds ids) (attempt call act) := by
  intro s
  rcases hf : s.fault? call with - | f
  · rcases ha : act s with - | ⟨a, t⟩
    · rw [result_attempt_of_not_act hf ha, after_attempt_of_not_act hf ha]
      exact ⟨⟨rfl, rfl⟩, rfl, rfl⟩
    · rw [result_attempt_of_act hf ha, after_attempt_of_act hf ha]
      exact ⟨⟨(hact s a t ha).faults, (hact s a t ha).supply⟩, (hact s a t ha).created,
        (hact s a t ha).ids_eq⟩
  · rw [result_attempt_of_fault hf, after_attempt_of_fault hf]
    exact ⟨⟨rfl, rfl⟩, rfl, rfl⟩

/-- A call that only changes the resources takes no id. -/
theorem sameSupply_attempt
    (hact : ∀ s a t, act s = some (a, t) → ∃ f, t = s.update f) :
    Keeps SameSupply (attempt call act) := by
  refine keeps_attempt (fun _ _ ↦ ⟨⟨rfl, rfl⟩, rfl, rfl⟩) fun s a t h ↦ ?_
  obtain ⟨f, rfl⟩ := hact s a t h
  exact ⟨⟨rfl, rfl⟩, rfl, rfl⟩

theorem sameSupply_deleteRule (id : String) : Keeps SameSupply (deleteRule id) :=
  sameSupply_attempt fun s a t h ↦ by
    obtain ⟨rules, -, h⟩ := Option.bind_eq_some_iff.mp h
    cases h
    exact ⟨_, rfl⟩

theorem sameSupply_deleteGroup (id : String) : Keeps SameSupply (deleteGroup id) :=
  sameSupply_attempt fun s a t h ↦ by
    obtain ⟨groups, -, h⟩ := Option.bind_eq_some_iff.mp h
    cases h
    exact ⟨_, rfl⟩

theorem sameSupply_updateFlowLog (id : String) (adminState : Bool) :
    Keeps SameSupply (updateFlowLog id adminState) :=
  sameSupply_attempt fun s a t h ↦ by
    obtain ⟨⟨changed, flowLogs⟩, -, h⟩ := Option.bind_eq_some_iff.mp h
    cases h
    exact ⟨_, rfl⟩

theorem sameSupply_deleteFlowLog (id : String) : Keeps SameSupply (deleteFlowLog id) :=
  sameSupply_attempt fun s a t h ↦ by
    obtain ⟨flowLogs, -, h⟩ := Option.bind_eq_some_iff.mp h
    cases h
    exact ⟨_, rfl⟩

/-- The rules that are created have the next ids, in the order of their templates. -/
theorem takes_createRules (groupId : String) (templates : List RuleTemplate) :
    Takes (answeredIds (List.map Rule.id)) (createRules groupId templates) :=
  takes_attempt fun s a t h ↦ by
    cases h
    have hids : ((s.withIds templates).map fun t ↦ t.2.toRule t.1 groupId).map Rule.id =
        s.nextIds templates.length := by
      refine List.ext_getElem (by simp [withIds]) fun k hk hk' ↦ ?_
      simp [withIds, nextIds, RuleTemplate.toRule]
    refine ⟨⟨rfl, rfl⟩, ?_, ?_⟩
    · rw [hids, length_nextIds]
    · rw [hids, length_nextIds]

theorem takes_createFlowLog (resourceType resourceId : String) (template : FlowLogTemplate) :
    Takes (answeredIds fun f ↦ [f.id]) (createFlowLog resourceType resourceId template) :=
  takes_attempt fun s a t h ↦ by
    cases h
    exact ⟨⟨rfl, rfl⟩, rfl, rfl⟩

end Store

/-! ### A supply that counts

The n-th id has n strokes, so no id comes twice, and what has other signs is never given. -/

/-- A supply that counts in strokes. -/
def IdSupply.strokes : IdSupply where
  resource n := String.ofList (List.replicate n '|')
  request n := String.ofList (List.replicate n '|')

theorem Store.suppliesOnce_of_strokes {s : Store} (hs : s.supply = .strokes) : s.SuppliesOnce := by
  intro m n _ _ heq
  simp only [hs, IdSupply.strokes] at heq
  have hlength := congrArg List.length (String.ofList_inj.mp heq)
  rwa [List.length_replicate, List.length_replicate] at hlength

theorem Store.not_supplies_of_strokes {s : Store} (hs : s.supply = .strokes) {id : String}
    (hid : id.toList.any (· != '|') = true) : ¬ s.Supplies id := by
  rintro ⟨n, -, rfl⟩
  obtain ⟨c, hc, hne⟩ := List.any_eq_true.mp hid
  simp only [hs, IdSupply.strokes, String.toList_ofList] at hc
  exact bne_iff_ne.mp hne (List.eq_of_mem_replicate hc)

end NetWarden
