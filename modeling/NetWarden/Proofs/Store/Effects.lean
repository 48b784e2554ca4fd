import NetWarden.Proofs.Store.Steps
import NetWarden.Store.Calls

/-!
# What calls change

A call is refused or it acts. A refusal counts the failure, puts down the call, and changes nothing
else; a call that acts is put down after the change. `keeps_attempt` turns this into the rule by
which every frame property of a call is shown: it must hold of a refusal and of what the call does.

Two frames are used throughout.

* `SameSetting`: the faults and the supply of ids. Calls do not touch them, so whether a call is
  refused can be read off the store at the beginning of a run.
* `Unchanged`: everything but the record of calls. It is what **listings** keep.
-/

namespace NetWarden.Store

open StoreM

variable {α : Type} {s t u : Store} {call : Call}

/-- Whether no fault stands in the way of a call. -/
def permits (s : Store) (c : Call) : Bool := (s.fault? c).isNone

/-- Whether all calls of an operation are refused, whatever their keys. -/
def blocks (s : Store) (op : Operation) : Bool := (s.faultAt op Call.anyKey).isSome

theorem fault?_of_permits (h : s.permits call = true) : s.fault? call = none :=
  Option.isNone_iff_eq_none.mp h

theorem exists_fault_of_not_permits (h : s.permits call = false) : ∃ f, s.fault? call = some f := by
  rcases hf : s.fault? call with - | f
  · rw [permits, hf] at h
    exact absurd h (by decide)
  · exact ⟨f, rfl⟩

/-- **A call is permitted if no fault names its operation** with its key or the one for any. -/
theorem permits_eq_all (s : Store) (c : Call) : s.permits c =
    s.faults.all fun f ↦ f.operation != c.operation || f.key != c.key && f.key != Call.anyKey := by
  rw [permits, fault?, Option.isNone_or, faultAt, faultAt, Bool.eq_iff_iff, Bool.and_eq_true,
    Option.isNone_iff_eq_none, Option.isNone_iff_eq_none, List.find?_eq_none, List.find?_eq_none,
    List.all_eq_true]
  constructor
  · rintro ⟨hkey, hany⟩ f hf
    grind [hkey f hf, hany f hf]
  · exact fun h ↦ ⟨fun f hf ↦ by grind [h f hf], fun f hf ↦ by grind [h f hf]⟩

/-- A call whose key is the one for any is refused just if all calls of its operation are. -/
theorem permits_eq_not_blocks (h : call.key = Call.anyKey) :
    s.permits call = !s.blocks call.operation := by
  rw [permits, blocks, fault?, h]
  cases s.faultAt call.operation Call.anyKey <;> rfl

/-- Faults of other operations are none of this one. -/
theorem faultAt_of_faults {op : Operation} (h : ∀ f ∈ s.faults, f.operation ≠ op) (key : String) :
    s.faultAt op key = none := by
  refine List.find?_eq_none.mpr fun f hf hfault ↦ ?_
  rw [Bool.and_eq_true, beq_iff_eq] at hfault
  exact h f hf hfault.1

/-- A call is not held by faults of other operations. -/
theorem permits_of_faults (h : ∀ f ∈ s.faults, f.operation ≠ call.operation) :
    s.permits call = true := by
  rw [permits, fault?, faultAt_of_faults h, faultAt_of_faults h]
  rfl

/-- Without faults no call is held. -/
theorem permits_of_faults_nil (h : s.faults = []) : s.permits call = true :=
  permits_of_faults fun _ hf ↦ absurd (h ▸ hf) List.not_mem_nil

/-- Faults of other operations do not block an operation. -/
theorem blocks_of_faults {op : Operation} (h : ∀ f ∈ s.faults, f.operation ≠ op) :
    s.blocks op = false := by
  rw [blocks, faultAt_of_faults h]
  rfl

/-! ### Frames -/

/-- The faults and the supply of ids are the same. -/
structure SameSetting (s t : Store) : Prop where
  /-- The faults. -/
  faults : t.faults = s.faults
  /-- Where new ids come from. -/
  supply : t.supply = s.supply

namespace SameSetting

theorem refl (s : Store) : SameSetting s s := ⟨rfl, rfl⟩

theorem trans (h : SameSetting s t) (h' : SameSetting t u) : SameSetting s u :=
  ⟨h'.faults.trans h.faults, h'.supply.trans h.supply⟩

theorem fault?_eq (h : SameSetting s t) (c : Call) : t.fault? c = s.fault? c := by
  simp only [fault?, faultAt, h.faults]

theorem permits_eq (h : SameSetting s t) (c : Call) : t.permits c = s.permits c := by
  rw [permits, permits, h.fault?_eq]

theorem blocks_eq (h : SameSetting s t) (op : Operation) : t.blocks op = s.blocks op := by
  simp only [blocks, faultAt, h.faults]

end SameSetting

/-- Nothing but the record of calls is different. -/
structure Unchanged (s t : Store) : Prop extends SameSetting s t where
  /-- The resources. -/
  inventory : t.inventory = s.inventory
  /-- The number of resources created so far. -/
  created : t.created = s.created

namespace Unchanged

theorem refl (s : Store) : Unchanged s s := ⟨.refl s, rfl, rfl⟩

theorem trans (h : Unchanged s t) (h' : Unchanged t u) : Unchanged s u :=
  ⟨h.toSameSetting.trans h'.toSameSetting, h'.inventory.trans h.inventory,
    h'.created.trans h.created⟩

end Unchanged

/-! ### Calls that are refused, and calls that act -/

section

variable {act : Store → Option (α × Store)}

/-- **A call keeps what refusals and its own change keep.** -/
theorem keeps_attempt {r : Store → Store → Prop}
    (hrefuse : ∀ s e, r s { s with failures := s.failures + 1, log := s.log ++ [⟨call, some e⟩] })
    (hact : ∀ s a t, act s = some (a, t) → r s { t with log := t.log ++ [⟨call, none⟩] }) :
    Keeps r (attempt call act) := by
  intro s
  show r s (attempt call act s).2
  rw [attempt]
  split
  · exact hrefuse s _
  · split
    · rename_i h
      exact hact s _ _ h
    · exact hrefuse s _

theorem result_attempt_of_fault {f : Fault} (h : s.fault? call = some f) :
    result (attempt call act) s =
      .error ⟨f.status, s.supply.request (s.failures + 1), f.reason⟩ := by
  show (attempt call act s).1 = _
  rw [attempt, h]
  rfl

theorem after_attempt_of_fault {f : Fault} (h : s.fault? call = some f) :
    after (attempt call act) s =
      { s with
        failures := s.failures + 1
        log := s.log ++
          [⟨call, some ⟨f.status, s.supply.request (s.failures + 1), f.reason⟩⟩] } := by
  show (attempt call act s).2 = _
  rw [attempt, h]
  rfl

theorem result_attempt_of_act {a : α} (h : s.fault? call = none) (ha : act s = some (a, t)) :
    result (attempt call act) s = .ok a := by
  show (attempt call act s).1 = _
  simp only [attempt, h, ha]
  rfl

theorem after_attempt_of_act {a : α} (h : s.fault? call = none) (ha : act s = some (a, t)) :
    after (attempt call act) s = { t with log := t.log ++ [⟨call, none⟩] } := by
  show (attempt call act s).2 = _
  simp only [attempt, h, ha]
  rfl

/-- A call that finds nothing to change is refused. -/
theorem result_attempt_of_not_act (h : s.fault? call = none) (ha : act s = none) :
    result (attempt call act) s =
      .error ⟨404, s.supply.request (s.failures + 1), call.notFound⟩ := by
  show (attempt call act s).1 = _
  simp only [attempt, h, ha]
  rfl

theorem after_attempt_of_not_act (h : s.fault? call = none) (ha : act s = none) :
    after (attempt call act) s =
      { s with
        failures := s.failures + 1
        log := s.log ++
          [⟨call, some ⟨404, s.supply.request (s.failures + 1), call.notFound⟩⟩] } := by
  show (attempt call act s).2 = _
  simp only [attempt, h, ha]
  rfl

/-- **A call that is answered met no fault, and acted.** -/
theorem act_of_result_attempt_eq_ok {a : α} (h : result (attempt call act) s = .ok a) :
    s.permits call = true ∧ ∃ t, act s = some (a, t) := by
  rcases hf : s.fault? call with - | f
  · refine ⟨by rw [permits, hf]; rfl, ?_⟩
    rcases ha : act s with - | ⟨b, t⟩
    · rw [result_attempt_of_not_act hf ha] at h
      cases h
    · rw [result_attempt_of_act hf ha] at h
      cases h
      exact ⟨t, rfl⟩
  · rw [result_attempt_of_fault hf] at h
    cases h

end

/-! ### Listings -/

section

variable (f : Store → α)

/-- **A call that only looks changes nothing.** -/
theorem unchanged_attempt : Keeps Unchanged (attempt call fun s ↦ some (f s, s)) := by
  refine keeps_attempt (fun _ _ ↦ ⟨⟨rfl, rfl⟩, rfl, rfl⟩) ?_
  rintro s a t h
  obtain ⟨-, rfl⟩ := Prod.mk.inj (Option.some.inj h)
  exact ⟨⟨rfl, rfl⟩, rfl, rfl⟩

/-- What a call that only looks gives, if it is not refused. -/
theorem result_attempt_of_permits (h : s.permits call = true) :
    result (attempt call fun s ↦ some (f s, s)) s = .ok (f s) :=
  result_attempt_of_act (fault?_of_permits h) rfl

end

theorem unchanged_listRules (query : RuleQuery) : Keeps Unchanged (listRules query) :=
  unchanged_attempt _

theorem unchanged_listPorts (groupIds : List String) : Keeps Unchanged (listPorts groupIds) :=
  unchanged_attempt _

/-! ### Calls that change resources -/

theorem dropFirst?_of_mem {test : α → Bool} {as : List α} {a : α} (ha : a ∈ as)
    (htest : test a = true) : dropFirst? test as = some (as.eraseP test) :=
  if_pos (List.any_eq_true.mpr ⟨a, ha, htest⟩)

theorem act_deleteRule_of_mem {r : Rule} (hr : r ∈ s.inventory.rules) :
    (do
      let rules ← dropFirst? (fun (q : Rule) ↦ q.id == r.id) s.inventory.rules
      some ((), s.update fun i ↦ { i with rules })) =
      some ((), s.update fun i ↦
        { i with rules := s.inventory.rules.eraseP fun q ↦ q.id == r.id }) := by
  rw [dropFirst?_of_mem hr (by simp)]
  rfl

/-- A rule that is there is deleted if no fault stands in the way. -/
theorem result_deleteRule_of_mem {r : Rule} (hr : r ∈ s.inventory.rules)
    (h : s.permits (.deleteRule r.id) = true) : result (deleteRule r.id) s = .ok () :=
  result_attempt_of_act (fault?_of_permits h) (act_deleteRule_of_mem hr)

theorem after_deleteRule_of_mem {r : Rule} (hr : r ∈ s.inventory.rules)
    (h : s.permits (.deleteRule r.id) = true) :
    after (deleteRule r.id) s =
      { s.update fun i ↦ { i with rules := s.inventory.rules.eraseP fun q ↦ q.id == r.id } with
        log := s.log ++ [⟨.deleteRule r.id, none⟩] } :=
  after_attempt_of_act (fault?_of_permits h) (act_deleteRule_of_mem hr)

end NetWarden.Store
