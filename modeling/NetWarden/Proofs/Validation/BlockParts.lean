import NetWarden.Proofs.Dictionaries
import NetWarden.Proofs.Validation.RuleFilters

/-!
# Parts of a block

A block with some of its keys only (`Dictionary.restrict`), and the filter of such a part: **it has
the fields of those keys and no others** (`RuleFilter.ofBlock_restrict`). A part of an accepted
block is therefore accepted as long as it states the direction.

What a block says under each key is all there is to it, so a block that is written out and read
again is the same block.
-/

namespace NetWarden

namespace Dictionary

variable {α : Type}

/-- The entries under some keys. -/
def restrict (d : Dictionary α) (ks : List String) : Dictionary α :=
  ⟨d.entries.filter fun e ↦ ks.contains e.1, d.sorted.filter _⟩

theorem get?_restrict (d : Dictionary α) (ks : List String) (k : String) :
    (d.restrict ks).get? k = if k ∈ ks then d.get? k else none := by
  refine Option.ext fun v ↦ ?_
  rw [get?_eq_some_iff, restrict, List.mem_filter, ← get?_eq_some_iff, List.contains_iff_mem]
  split <;> simp_all

/-- Equal look-ups under some keys make equal parts. -/
theorem restrict_congr {d e : Dictionary α} {ks ls : List String}
    (h : ∀ k, (if k ∈ ks then d.get? k else none) = if k ∈ ls then e.get? k else none) :
    d.restrict ks = e.restrict ls :=
  ext_get? fun k ↦ by rw [get?_restrict, get?_restrict, h]

end Dictionary

/-- **A block that is written out is read again.** -/
@[simp] theorem Json.block?_ofBlock (b : Block) : (Json.ofBlock b).block? = some b := by
  rw [Json.ofBlock, Json.block?, Dictionary.ofList_entries]

namespace RuleFilter

/-- A filter with the fields of some keys only. The direction always stays. -/
def only (f : RuleFilter) (ks : List String) : RuleFilter where
  direction := f.direction
  operator := if "match-operator" ∈ ks then f.operator else .and
  addresses := if "RemoteIpPrefix" ∈ ks then f.addresses else none
  protocols := if "Protocols" ∈ ks then f.protocols else none
  inPorts := if "InPorts" ∈ ks then f.inPorts else []
  notInPorts := if "NotInPorts" ∈ ks then f.notInPorts else []
  selfReference := if "SelfReference" ∈ ks then f.selfReference else none
  ruleIds := if "SGRuleIds" ∈ ks then f.ruleIds else none
  groupIds := if "SecurityGroupIds" ∈ ks then f.groupIds else none
  descriptions := if "Descriptions" ∈ ks then f.descriptions else none
  ethertypes := if "Ethertypes" ∈ ks then f.ethertypes else none
  priorities := if "Priorities" ∈ ks then f.priorities else none
  actions := if "Action" ∈ ks then f.actions else none
  remoteGroupIds := if "SGReferenceIds" ∈ ks then f.remoteGroupIds else none
  remoteAddressGroupIds := if "AGReferenceIds" ∈ ks then f.remoteAddressGroupIds else none

/-- A key that is left out says nothing. -/
theorem rel_restrict {α : Type} {means : Json → α → Prop} {b : Block} {k : String} {o : Option α}
    (h : Option.Rel means (b.get? k) o) (ks : List String) :
    Option.Rel means ((b.restrict ks).get? k) (if k ∈ ks then o else none) := by
  rw [Dictionary.get?_restrict]
  split
  · exact h
  · exact .none

/-- Where a field has a default, the part has the default without the key. -/
theorem exists_rel_restrict {α : Type} {means : Json → α → Prop} {b : Block} {k : String}
    {a default : α} (h : ∃ o, Option.Rel means (b.get? k) o ∧ a = o.getD default)
    (ks : List String) :
    ∃ o, Option.Rel means ((b.restrict ks).get? k) o ∧
      (if k ∈ ks then a else default) = o.getD default := by
  obtain ⟨o, ho, rfl⟩ := h
  refine ⟨_, rel_restrict ho ks, ?_⟩
  split <;> rfl

/-- **What a part says is what the block says under the keys of the part.** -/
theorem Reads.restrict {b : Block} {f : RuleFilter} (h : Reads b f) {ks : List String}
    (hks : "type" ∈ ks) : Reads (b.restrict ks) (f.only ks) where
  -- the key of the direction is in every part
  direction := by
    obtain ⟨v, hv, hd⟩ := h.direction
    exact ⟨v, by rw [Dictionary.get?_restrict, if_pos hks, hv], hd⟩
  operator := exists_rel_restrict h.operator ks
  addresses := rel_restrict h.addresses ks
  protocols := rel_restrict h.protocols ks
  inPorts := exists_rel_restrict h.inPorts ks
  notInPorts := exists_rel_restrict h.notInPorts ks
  selfReference := rel_restrict h.selfReference ks
  ruleIds := rel_restrict h.ruleIds ks
  groupIds := rel_restrict h.groupIds ks
  descriptions := rel_restrict h.descriptions ks
  ethertypes := rel_restrict h.ethertypes ks
  priorities := rel_restrict h.priorities ks
  actions := rel_restrict h.actions ks
  remoteGroupIds := rel_restrict h.remoteGroupIds ks
  remoteAddressGroupIds := rel_restrict h.remoteAddressGroupIds ks

/-- **A part that states the direction is accepted, and its filter has the fields of its keys.** -/
theorem ofBlock_restrict {b : Block} {f : RuleFilter} (h : ofBlock b = .ok f) {ks : List String}
    (hks : "type" ∈ ks) : ofBlock (b.restrict ks) = .ok (f.only ks) := by
  obtain ⟨hknown, hreads⟩ := ofBlock_eq_ok_iff.mp h
  refine ofBlock_eq_ok_iff.mpr ⟨fun k w hw ↦ hknown k w ?_, hreads.restrict hks⟩
  rw [Dictionary.get?_restrict] at hw
  split at hw
  · exact hw
  · cases hw

/-- A filter has no fields but those of its block's keys. -/
theorem only_keys {b : Block} {f : RuleFilter} (h : ofBlock b = .ok f) : f.only b.keys = f := by
  obtain ⟨v, hv, -⟩ := (ofBlock_eq_ok_iff.mp h).2.direction
  have hall : b.restrict b.keys = b := by
    refine Dictionary.ext_get? fun k ↦ ?_
    rw [Dictionary.get?_restrict]
    split
    · rfl
    · rename_i hk
      rw [Dictionary.mem_keys_iff] at hk
      exact (Option.eq_none_iff_forall_ne_some.mpr fun w hw ↦ hk ⟨w, hw⟩).symm
  have hpart := ofBlock_restrict h ((Dictionary.mem_keys_iff b "type").mpr ⟨v, hv⟩)
  rw [hall, h] at hpart
  exact (Except.ok.inj hpart).symm

end RuleFilter

end NetWarden
