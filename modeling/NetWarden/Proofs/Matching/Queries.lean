import NetWarden.Proofs.Bulk.Removal
import NetWarden.Proofs.Records.Fields
import NetWarden.Proofs.Validation.Attributes

/-!
# What queries ask for

A query that was read from attributes asks for the rules that carry them. Whether a rule carries an
attribute is said without queries (`Rule.Carries`): its record holds, under the name of the
attribute, just the value that was written; of priorities only the numbers are compared. What a rule
does not state it does not carry, so a query that names it passes the rule over.

`RuleQuery.Attribute` is what there is to know of an attribute: the field of the query in which it
is kept, and the field of the rule with which it is compared. **A query selects the rules of its
direction that carry all attributes of its block** (`RuleQuery.Reads.selects_iff`), and it has as
many attributes as the block (`RuleQuery.Reads.perm_setAttributes`), so that no attribute is taken
and then lost. Entries of a removal have two at least.
-/

namespace NetWarden

open RuleFilter

/-! ### Attributes that a rule carries -/

/-- A rule carries an attribute that is written so: its record holds this value under the name of
the attribute. Priorities are compared as numbers. -/
def Rule.Carries (r : Rule) (name : String) (v : Json) : Prop :=
  if name = "priority" then ∃ n, r.priority = some n ∧ IsWrittenInteger v n
  else r.toJson.field? name = some v

theorem Rule.field?_priority (r : Rule) :
    r.toJson.field? "priority" = r.priority.map fun n ↦ .int n.toInt :=
  r.field?_toJson "priority"

/-- What a rule does not state it does not carry. -/
theorem Rule.not_carries_of_field?_eq_none {r : Rule} {name : String} {v : Json}
    (h : r.toJson.field? name = none) : ¬ r.Carries name v := by
  rw [Carries]
  split
  · rename_i hname
    subst hname
    rintro ⟨n, hn, -⟩
    rw [field?_priority, hn] at h
    cases h
  · rw [h]
    exact nofun

namespace RuleQuery

/-! ### Attributes that a query has -/

/-- The fields of a query's record, set or not. -/
def fields (q : RuleQuery) : List (String × Option Json) :=
  [("security_group_ids", if q.groupIds.isEmpty then none else some (.arr (q.groupIds.map .str))),
    ("direction", Json.optionalText (q.direction.map Direction.name)),
    ("id", Json.optionalText q.id), ("protocol", Json.optionalText q.protocol),
    ("description", Json.optionalText q.description),
    ("remote_group_id", Json.optionalText q.remoteGroupId),
    ("action", Json.optionalText (q.action.map RuleAction.name)),
    ("remote_ip_prefix", Json.optionalText q.remotePrefix),
    ("priority", Json.optionalInt q.priority), ("ethertype", Json.optionalText q.ethertype),
    ("remote_address_group_id", Json.optionalText q.remoteAddressGroupId)]

theorem field?_toJson (q : RuleQuery) (name : String) :
    q.toJson.field? name = (Dictionary.lookupIn name q.fields).join := by
  have hnodup : (q.fields.map Prod.fst).Nodup := show fieldNames.Nodup by decide
  exact Json.field?_record hnodup name

/-- The attributes that a query has: those that its record holds. -/
def setAttributes (q : RuleQuery) : List String :=
  attributes.filter fun name ↦ (q.toJson.field? name).isSome

section

variable {α : Type} {name : String} {means : Json → α → Prop} {wanted : RuleQuery → Option α}
  {stated : Rule → Option α}

/-- Nothing is asked for, or what the value stands for is stated. -/
theorem agrees_iff_of_rel [BEq α] [LawfulBEq α] {x : Option Json} {wanted stated : Option α}
    (hrel : Option.Rel means x wanted) (hunique : ∀ {v a b}, means v a → means v b → a = b) :
    agrees wanted stated = true ↔ ∀ v, x = some v → ∃ a, stated = some a ∧ means v a := by
  cases hrel with
  | none => simp
  | @some v a hv =>
    simp only [agrees, beq_iff_eq, Option.some.injEq, forall_eq']
    constructor
    · intro hstated
      exact ⟨a, hstated, hv⟩
    · rintro ⟨c, hstated, hc⟩
      rw [hstated, hunique hc hv]

/-- What is known of an attribute: where queries keep it, where rules state it, and that both are
under its name. -/
structure Attribute (name : String) (means : Json → α → Prop) (wanted : RuleQuery → Option α)
    (stated : Rule → Option α) : Prop where
  /-- A value stands for one thing at most. -/
  unique : ∀ {v a b}, means v a → means v b → a = b
  /-- Queries keep what the value stands for. -/
  rel : ∀ {d b q}, Reads d b q → Option.Rel means (b.get? name) (wanted q)
  /-- A query has the attribute just where something is kept. -/
  isSome_field? : ∀ q, (q.toJson.field? name).isSome = (wanted q).isSome
  /-- A rule carries the attribute just where it states what the value stands for. -/
  carries_iff : ∀ r v, r.Carries name v ↔ ∃ a, stated r = some a ∧ means v a

namespace Attribute

/-- An attribute whose values stand for nothing but what is written so. -/
theorem of_write {write : α → Json} (hmeans : ∀ {v a}, means v a ↔ v = write a)
    (hinj : Function.Injective write) (hname : name ≠ "priority")
    (rel : ∀ {d b q}, Reads d b q → Option.Rel means (b.get? name) (wanted q))
    (hquery : ∀ q, (Dictionary.lookupIn name (fields q)).join = (wanted q).map write)
    (hrule : ∀ r, (Dictionary.lookupIn name (Rule.fields r)).join = (stated r).map write) :
    Attribute name means wanted stated where
  unique ha hb := hinj ((hmeans.mp ha).symm.trans (hmeans.mp hb))
  rel := rel
  isSome_field? q := by rw [field?_toJson, hquery, Option.isSome_map]
  carries_iff r v := by
    rw [Rule.Carries, if_neg hname, Rule.field?_toJson, hrule, Option.map_eq_some_iff]
    simp only [hmeans, eq_comm]

theorem of_text {wanted : RuleQuery → Option String} {stated : Rule → Option String}
    (hname : name ≠ "priority")
    (rel : ∀ {d b q}, Reads d b q → Option.Rel IsText (b.get? name) (wanted q))
    (hquery : ∀ q, (Dictionary.lookupIn name (fields q)).join = (wanted q).map .str)
    (hrule : ∀ r, (Dictionary.lookupIn name (Rule.fields r)).join = (stated r).map .str) :
    Attribute name IsText wanted stated :=
  .of_write Iff.rfl (fun _ _ ↦ Json.str.inj) hname rel hquery hrule

theorem id : Attribute "id" IsText RuleQuery.id fun r ↦ some r.id :=
  .of_text (by decide) Reads.id (fun _ ↦ rfl) fun _ ↦ rfl

theorem protocol : Attribute "protocol" IsText RuleQuery.protocol Rule.protocol :=
  .of_text (by decide) Reads.protocol (fun _ ↦ rfl) fun _ ↦ rfl

theorem description : Attribute "description" IsText RuleQuery.description Rule.description :=
  .of_text (by decide) Reads.description (fun _ ↦ rfl) fun _ ↦ rfl

theorem remoteGroupId :
    Attribute "remote_group_id" IsText RuleQuery.remoteGroupId Rule.remoteGroupId :=
  .of_text (by decide) Reads.remoteGroupId (fun _ ↦ rfl) fun _ ↦ rfl

theorem remotePrefix :
    Attribute "remote_ip_prefix" IsText RuleQuery.remotePrefix Rule.remotePrefix :=
  .of_text (by decide) Reads.remotePrefix (fun _ ↦ rfl) fun _ ↦ rfl

theorem ethertype : Attribute "ethertype" IsText RuleQuery.ethertype Rule.ethertype :=
  .of_text (by decide) Reads.ethertype (fun _ ↦ rfl) fun _ ↦ rfl

theorem remoteAddressGroupId : Attribute "remote_address_group_id" IsText
    RuleQuery.remoteAddressGroupId Rule.remoteAddressGroupId :=
  .of_text (by decide) Reads.remoteAddressGroupId (fun _ ↦ rfl) fun _ ↦ rfl

theorem action : Attribute "action" IsAction RuleQuery.action Rule.action := by
  have hmeans {v : Json} {a : RuleAction} : IsAction v a ↔ v = .str a.name := by
    constructor
    · rintro (- | -) <;> rfl
    · rintro rfl
      exact action_named?_eq_some_iff.mp (RuleAction.named?_name a)
  have hinj : Function.Injective fun a : RuleAction ↦ Json.str a.name := by
    intro a b h
    have hnamed := congrArg RuleAction.named? (Json.str.inj h)
    rwa [RuleAction.named?_name, RuleAction.named?_name, Option.some.injEq] at hnamed
  exact .of_write hmeans hinj (by decide) Reads.action (fun _ ↦ Option.map_map ..)
    fun _ ↦ Option.map_map ..

/-- Of a priority only the number counts. -/
theorem priority : Attribute "priority" IsWrittenInteger RuleQuery.priority Rule.priority where
  unique := IsWrittenInteger.unique
  rel := Reads.priority
  isSome_field? q := by
    rw [field?_toJson]
    exact Option.isSome_map
  carries_iff r v := by rw [Rule.Carries, if_pos rfl]

/-- **What is asked for is agreed to just where the rule carries what is written.** -/
theorem agrees_iff [BEq α] [LawfulBEq α] (h : Attribute name means wanted stated) {d : Direction}
    {b : Block} {q : RuleQuery} (hq : Reads d b q) (r : Rule) :
    agrees (wanted q) (stated r) = true ↔ ∀ v, b.get? name = some v → r.Carries name v := by
  simp only [h.carries_iff]
  exact agrees_iff_of_rel (h.rel hq) h.unique

/-- A query has the attribute just where the block has it. -/
theorem isSome_field?_iff (h : Attribute name means wanted stated) {d : Direction} {b : Block}
    {q : RuleQuery} (hq : Reads d b q) :
    (q.toJson.field? name).isSome = true ↔ ∃ v, b.get? name = some v := by
  rw [h.isSome_field?]
  exact isSome_iff_of_rel (h.rel hq)

end Attribute

end

/-! ### Rules that a query selects -/

section

variable {d : Direction} {b : Block} {q : RuleQuery}

/-- What holds of each attribute by its name holds of all that a block of attributes has. -/
theorem forall_get?_iff (hknown : ∀ k w, b.get? k = some w → k ∈ attributes)
    {p : String → Json → Prop} : (∀ k w, b.get? k = some w → p k w) ↔
      ∀ k ∈ attributes, ∀ w, b.get? k = some w → p k w :=
  ⟨fun h k _ ↦ h k, fun h k w hw ↦ h k (hknown k w hw) w hw⟩

/-- **A query selects the rules of its direction that carry all attributes.** -/
theorem Reads.selects_iff (hq : Reads d b q) (hknown : ∀ k w, b.get? k = some w → k ∈ attributes)
    (r : Rule) : q.selects r = true ↔
      r.direction = d ∧ ∀ k w, b.get? k = some w → r.Carries k w := by
  have hdir : agrees q.direction (some r.direction) = true ↔ r.direction = d := by
    rw [hq.direction]
    simp [agrees]
  rw [forall_get?_iff hknown]
  simp only [selects, hq.groupIds, List.isEmpty_nil, Bool.true_or, Bool.true_and, Bool.and_eq_true,
    and_assoc, hdir, Attribute.id.agrees_iff hq, Attribute.protocol.agrees_iff hq,
    Attribute.description.agrees_iff hq, Attribute.remoteGroupId.agrees_iff hq,
    Attribute.action.agrees_iff hq, Attribute.remotePrefix.agrees_iff hq,
    Attribute.priority.agrees_iff hq, Attribute.ethertype.agrees_iff hq,
    Attribute.remoteAddressGroupId.agrees_iff hq, attributes, List.forall_mem_cons,
    List.not_mem_nil, false_imp_iff, implies_true, and_true]

theorem Reads.mem_setAttributes_iff (hq : Reads d b q)
    (hknown : ∀ k w, b.get? k = some w → k ∈ attributes) (name : String) :
    name ∈ q.setAttributes ↔ ∃ w, b.get? name = some w := by
  -- attribute by attribute, each field is set just where its key is there
  have hall : ∀ k ∈ attributes,
      ((q.toJson.field? k).isSome = true ↔ ∃ w, b.get? k = some w) := by
    simp only [attributes, List.forall_mem_cons, List.not_mem_nil, false_imp_iff, implies_true,
      and_true]
    exact ⟨Attribute.id.isSome_field?_iff hq, Attribute.protocol.isSome_field?_iff hq,
      Attribute.description.isSome_field?_iff hq, Attribute.remoteGroupId.isSome_field?_iff hq,
      Attribute.action.isSome_field?_iff hq, Attribute.remotePrefix.isSome_field?_iff hq,
      Attribute.priority.isSome_field?_iff hq, Attribute.ethertype.isSome_field?_iff hq,
      Attribute.remoteAddressGroupId.isSome_field?_iff hq⟩
  rw [setAttributes, List.mem_filter]
  constructor
  · rintro ⟨hname, hset⟩
    exact (hall name hname).mp hset
  · rintro ⟨w, hw⟩
    exact ⟨hknown name w hw, (hall name (hknown name w hw)).mpr ⟨w, hw⟩⟩

/-- **A query has just the attributes of its block.** -/
theorem Reads.perm_setAttributes (hq : Reads d b q)
    (hknown : ∀ k w, b.get? k = some w → k ∈ attributes) : q.setAttributes.Perm b.keys := by
  have hnodup : attributes.Nodup := by decide
  refine (List.perm_ext_iff_of_nodup (hnodup.filter _) (Dictionary.nodup_map_fst b.sorted)).mpr
    fun name ↦ ?_
  exact (hq.mem_setAttributes_iff hknown name).trans (Dictionary.mem_keys_iff b name).symm

end

end RuleQuery

/-! ### Entries of a removal -/

namespace Removal

/-- **What the entries of a removal select.** Of a list that is accepted each entry has a query. It
has the attributes that the entry names, of which there are two at least, and it selects the rules
of the direction that carry all of them: a rule that does not state one of them is not selected.
Put to groups, it selects just those of these rules that belong to one of the groups. -/
theorem selects_of_check {d : Direction} {entries : List Json} {removal : Removal}
    (h : check d (.arr entries) = .ok removal) :
    ∃ queries, removal = .explicit queries ∧
      List.Forall₂ (fun entry q ↦ ∃ b, entry.block? = some b ∧
        q.setAttributes.Perm b.keys ∧ minRemovalAttributes ≤ q.setAttributes.length ∧
        ∀ r : Rule,
          (q.selects r = true ↔ r.direction = d ∧ ∀ k w, b.get? k = some w → r.Carries k w) ∧
          (∀ k w, b.get? k = some w → r.toJson.field? k = none → q.selects r = false) ∧
          ∀ groupIds, groupIds ≠ [] →
            ((q.inGroups groupIds).selects r = true ↔
              r.groupId ∈ groupIds ∧ q.selects r = true)) entries queries := by
  obtain ⟨queries, hqueries, rfl⟩ := map_eq_ok_iff.mp h
  refine ⟨queries, rfl, (mapM_eq_ok_iff.mp hqueries).imp fun entry q hentry ↦ ?_⟩
  obtain ⟨b, hb, henough, hof⟩ := checkEntry_eq_ok_iff.mp hentry
  obtain ⟨hknown, hq⟩ := RuleQuery.ofAttributes_eq_ok_iff.mp hof
  -- the attributes are counted in the block, before the query is read from it
  have hperm := hq.perm_setAttributes hknown
  have hsize : q.setAttributes.length = b.size := hperm.length_eq.trans (List.length_map _)
  refine ⟨b, hb, hperm, hsize ▸ henough, fun r ↦ ⟨hq.selects_iff hknown r, ?_, ?_⟩⟩
  · intro k w hw hfield
    refine Bool.eq_false_iff.mpr fun hsel ↦ ?_
    exact Rule.not_carries_of_field?_eq_none hfield (((hq.selects_iff hknown r).mp hsel).2 k w hw)
  · intro groupIds hgroups
    have hne : groupIds.isEmpty = false := by rw [List.isEmpty_eq_false_iff]; exact hgroups
    rw [RuleQuery.selects_inGroups hq.groupIds hne, Bool.and_eq_true, List.contains_iff_mem]

/-! ### A priority that is written as a text

The entry asks for the number, and a rule without a priority is not selected. -/

/-- An entry with a priority in blanks. -/
def paddedEntry : Json := .obj [("priority", .str " +07 "), ("action", .str "deny")]

theorem selects_of_check_paddedEntry :
    check .ingress (.arr [paddedEntry]) = .ok (.explicit
        [{ direction := some .ingress, priority := some 7, action := some .deny }]) ∧
      ∀ r : Rule, r.priority = none →
        RuleQuery.selects { direction := some .ingress, priority := some 7, action := some .deny }
          r = false := by
  have hcheck : check .ingress (.arr [paddedEntry]) = .ok (.explicit
      [{ direction := some .ingress, priority := some 7, action := some .deny }]) := rfl
  obtain ⟨queries, hqueries, hall⟩ := selects_of_check hcheck
  cases hqueries
  obtain ⟨⟨b, hb, -, -, hsel⟩, -⟩ := List.forall₂_cons.mp hall
  cases hb
  refine ⟨hcheck, fun r hr ↦ (hsel r).2.1 "priority" (.str " +07 ") rfl ?_⟩
  rw [Rule.field?_priority, hr]
  rfl

end Removal

end NetWarden
