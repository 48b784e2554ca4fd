import NetWarden.Run.Basic

/-!
# Resources one by one

The resources of a run as a list of things of one type, so that a test of one resource says which of
a set are kept, whatever their kind is.

A mask is a list of verdicts that is matched with the resources by place. Here is why nothing can be
misplaced: **the mask of a test keeps what passes the test** (`ResourceSet.keep_map_toList`), and
the masks of a combination, joined place by place, are the mask of the joined tests (`anyMask_map`,
`allMask_map`).
-/

namespace NetWarden

/-- A resource of any kind. -/
inductive Resource where
  /-- A rule. -/
  | rule (r : Rule)
  /-- A group. -/
  | group (g : Group)
  /-- A flow log. -/
  | flowLog (f : FlowLog)
  /-- A network port. -/
  | port (p : NetworkPort)
deriving DecidableEq, Repr

/-- The record of a resource. -/
def Resource.toJson : Resource → Json
  | .rule r => r.toJson
  | .group g => g.toJson
  | .flowLog f => f.toJson
  | .port p => p.toJson

/-! ### Sets of resources -/

namespace ResourceSet

/-- The resources of a set, in order. -/
def toList : ResourceSet → List Resource
  | .rules items => items.map .rule
  | .groups items => items.map .group
  | .flowLogs items => items.map .flowLog
  | .ports items => items.map .port

/-- The resources of a set that pass a test. -/
def filter (test : Resource → Bool) : ResourceSet → ResourceSet
  | .rules items => .rules (items.filter fun r ↦ test (.rule r))
  | .groups items => .groups (items.filter fun g ↦ test (.group g))
  | .flowLogs items => .flowLogs (items.filter fun f ↦ test (.flowLog f))
  | .ports items => .ports (items.filter fun p ↦ test (.port p))

/-- The groups among the resources. -/
def groupItems : ResourceSet → List Group
  | .groups items => items
  | _ => []

/-- All resources of a kind in an inventory. -/
def ofInventory (kind : ResourceKind) (i : Inventory) : ResourceSet :=
  match kind with
  | .rule => .rules i.rules
  | .group => .groups i.groups
  | .flowLog => .flowLogs i.flowLogs
  | .port => .ports i.ports

variable (rs : ResourceSet) (test test' : Resource → Bool)

@[simp] theorem kind_filter : (rs.filter test).kind = rs.kind := by cases rs <;> rfl

@[simp] theorem kind_keep (mask : List Bool) : (rs.keep mask).kind = rs.kind := by
  cases rs <;> rfl

@[simp] theorem kind_ofInventory (kind : ResourceKind) (i : Inventory) :
    (ofInventory kind i).kind = kind := by
  cases kind <;> rfl

theorem length_toList : rs.toList.length = rs.size := by
  cases rs <;> simp [toList, size]

theorem toJsons_eq_map : rs.toJsons = rs.toList.map Resource.toJson := by
  cases rs <;> simp [toJsons, toList, Resource.toJson]

theorem filter_filter : (rs.filter test).filter test' = rs.filter fun r ↦ test r && test' r := by
  cases rs <;> simp [filter, Bool.and_comm]

theorem filter_congr {test test' : Resource → Bool} (h : ∀ r ∈ rs.toList, test r = test' r) :
    rs.filter test = rs.filter test' := by
  cases rs <;>
    exact congrArg _ (List.filter_congr fun a ha ↦ h _ (List.mem_map_of_mem ha))

theorem filter_true : rs.filter (fun _ ↦ true) = rs := by
  cases rs <;> simp [filter]

theorem mem_groupItems {rs : ResourceSet} {g : Group} (h : .group g ∈ rs.toList) :
    g ∈ rs.groupItems := by
  cases rs with
  | groups items =>
    obtain ⟨u, hu, hug⟩ := List.mem_map.mp h
    cases hug
    exact hu
  | _ =>
    obtain ⟨_, _, h⟩ := List.mem_map.mp h
    cases h

theorem groupItems_ne_nil_iff {rs : ResourceSet} (h : rs.kind = .group) :
    rs.groupItems ≠ [] ↔ rs.size ≠ 0 := by
  cases rs with
  | groups items => exact not_congr List.length_eq_zero_iff.symm
  | _ => cases h

theorem groupItems_filter_sublist : (rs.filter test).groupItems.Sublist rs.groupItems := by
  cases rs with
  | groups items => exact List.filter_sublist
  | _ => exact .slnil

theorem ruleItems_filter_sublist : (rs.filter test).ruleItems.Sublist rs.ruleItems := by
  cases rs with
  | rules items => exact List.filter_sublist
  | _ => exact .slnil

/-- **The mask of a test keeps what passes it.** -/
theorem keep_map_toList : rs.keep (rs.toList.map test) = rs.filter test := by
  have hkeep : ∀ {α : Type} (items : List α) (p : α → Bool),
      keepMasked items (items.map p) = items.filter p := by
    intro α items p
    induction items with
    | nil => rfl
    | cons a as ih =>
      rcases hp : p a with - | -
      · rw [List.filter_cons_of_neg (by simp [hp]), ← ih]
        simp [keepMasked, hp]
      · rw [List.filter_cons_of_pos hp, ← ih]
        simp [keepMasked, hp]
  cases rs <;> simp only [keep, toList, filter, List.map_map, hkeep] <;> rfl

end ResourceSet

/-! ### Masks of combinations -/

namespace Run

/-- Masks of tests on the same items are joined item by item. -/
theorem foldl_zipWith_map {α : Type} (op : Bool → Bool → Bool) (items : List α)
    (tests : List (α → Bool)) (start : α → Bool) :
    (tests.map fun t ↦ items.map t).foldl (List.zipWith op) (items.map start) =
      items.map fun a ↦ tests.foldl (fun b t ↦ op b (t a)) (start a) := by
  induction tests generalizing start with
  | nil => rfl
  | cons t tests ih =>
    have hzip : List.zipWith op (items.map start) (items.map t) =
        items.map fun a ↦ op (start a) (t a) := by
      rw [List.zipWith_map, List.zipWith_self]
    rw [List.map_cons, List.foldl_cons, hzip, ih]
    rfl

theorem anyMask_map {α : Type} (items : List α) (tests : List (α → Bool)) :
    anyMask items.length (tests.map fun t ↦ items.map t) =
      items.map fun a ↦ tests.any fun t ↦ t a := by
  have hstart : List.replicate items.length false = items.map fun _ ↦ false := by
    rw [List.map_const']
  have hfold : ∀ (a : α) (b : Bool), tests.foldl (fun b t ↦ b || t a) b =
      (b || tests.any fun t ↦ t a) := by
    intro a b
    induction tests generalizing b with
    | nil => rw [List.foldl_nil, List.any_nil, Bool.or_false]
    | cons t tests ih => rw [List.foldl_cons, ih, List.any_cons, Bool.or_assoc]
  rw [anyMask, hstart, foldl_zipWith_map]
  exact List.map_congr_left fun a _ ↦ (hfold a false).trans (Bool.false_or _)

theorem allMask_map {α : Type} (items : List α) (tests : List (α → Bool)) :
    allMask items.length (tests.map fun t ↦ items.map t) =
      items.map fun a ↦ tests.all fun t ↦ t a := by
  have hstart : List.replicate items.length true = items.map fun _ ↦ true := by
    rw [List.map_const']
  have hfold : ∀ (a : α) (b : Bool), tests.foldl (fun b t ↦ b && t a) b =
      (b && tests.all fun t ↦ t a) := by
    intro a b
    induction tests generalizing b with
    | nil => rw [List.foldl_nil, List.all_nil, Bool.and_true]
    | cons t tests ih => rw [List.foldl_cons, ih, List.all_cons, Bool.and_assoc]
  rw [allMask, hstart, foldl_zipWith_map]
  exact List.map_congr_left fun a _ ↦ (hfold a true).trans (Bool.true_and _)

end Run

end NetWarden
