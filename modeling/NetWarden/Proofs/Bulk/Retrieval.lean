import NetWarden.Proofs.Bulk.Additions
import NetWarden.Proofs.Matching.Queries
import NetWarden.Proofs.Validation.BlockParts

/-!
# What is created is found

A new rule is described by attributes, and rules are looked for by attributes. The two are read
apart from each other, a rule is made in between, and what is left open is filled in. **Still a rule
that was created is found again by any of the attributes that it was created with**
(`Store.finds_created`), but for the ports, by which no query asks.

Each attribute is carried by the rules that a template makes (`RuleTemplate.Reads.carries`), because
only fields that the template leaves open are filled in.
-/

namespace NetWarden

open RuleFilter Store StoreM

/-- **A rule that states what a value stands for carries the attribute.** -/
theorem RuleQuery.Attribute.carries_of_rel {α : Type} {name : String} {means : Json → α → Prop}
    {wanted : RuleQuery → Option α} {stated : Rule → Option α}
    (h : Attribute name means wanted stated) {b : Block} {o : Option α}
    (hrel : Option.Rel means (b.get? name) o) {r : Rule} (hstated : ∀ a, o = some a → stated r = o)
    {v : Json} (hv : b.get? name = some v) : r.Carries name v := by
  rw [hv] at hrel
  obtain ⟨ha⟩ := hrel
  exact (h.carries_iff r v).mpr ⟨_, hstated _ rfl, ha⟩

namespace RuleTemplate

variable {d : Direction} {b part : Block} {t : RuleTemplate}

/-- **The rules that a template makes carry its attributes**, but for the ports. -/
theorem Reads.carries (h : Reads d b t) {groupId : String} {r : Rule} (hr : t.Makes groupId r) :
    ∀ k ∈ attributes, k ≠ "multiport" → ∀ v, b.get? k = some v → r.Carries k v := by
  -- a default does not replace what is stated
  have hkept {α : Type} {o : Option α} {default : α} (a : α) (ha : o = some a) :
      some (o.getD default) = o := by
    rw [ha, Option.getD_some]
  simp only [attributes, List.forall_mem_cons, List.not_mem_nil, false_imp_iff, implies_true,
    and_true]
  exact ⟨fun _ _ ↦ RuleQuery.Attribute.description.carries_of_rel h.description
      fun _ _ ↦ hr.description,
    fun _ _ ↦ RuleQuery.Attribute.ethertype.carries_of_rel h.ethertype
      fun a ha ↦ hr.ethertype.trans (hkept a ha),
    fun _ _ ↦ RuleQuery.Attribute.protocol.carries_of_rel h.protocol fun _ _ ↦ hr.protocol,
    fun hports ↦ absurd rfl hports,
    fun _ _ ↦ RuleQuery.Attribute.remotePrefix.carries_of_rel h.remotePrefix
      fun _ _ ↦ hr.remotePrefix,
    fun _ _ ↦ RuleQuery.Attribute.remoteGroupId.carries_of_rel h.remoteGroupId
      fun _ _ ↦ hr.remoteGroupId,
    fun _ _ ↦ RuleQuery.Attribute.remoteAddressGroupId.carries_of_rel h.remoteAddressGroupId
      fun _ _ ↦ hr.remoteAddressGroupId,
    fun _ _ ↦ RuleQuery.Attribute.action.carries_of_rel h.action
      fun a ha ↦ hr.action.trans (hkept a ha),
    fun _ _ ↦ RuleQuery.Attribute.priority.carries_of_rel h.priority
      fun n hn ↦ hr.priority.trans (hkept n hn)⟩

/-- **Part of what describes a new rule describes rules to look for**, if it has no ports. What a
template makes of the whole is among these. -/
theorem exists_query (ht : ofAttributes d b = .ok t)
    (hpart : ∀ k v, part.get? k = some v → b.get? k = some v)
    (hports : part.get? "multiport" = none) :
    ∃ q, RuleQuery.ofAttributes d part = .ok q ∧
      ∀ groupId r, t.Makes groupId r → q.selects r = true := by
  obtain ⟨hknown, -, h⟩ := ofAttributes_eq_ok_iff.mp ht
  have hnames (k : String) (v : Json) (hv : part.get? k = some v) :
      k ∈ attributes ∧ k ≠ "multiport" := by
    refine ⟨hknown k v (hpart k v hv), ?_⟩
    rintro rfl
    rw [hports] at hv
    cases hv
  have hasked : ∀ k v, part.get? k = some v → k ∈ RuleQuery.attributes := by
    have hall : ∀ k ∈ attributes, k ≠ "multiport" → k ∈ RuleQuery.attributes := by decide
    exact fun k v hv ↦ hall k (hnames k v hv).1 (hnames k v hv).2
  have stands {α : Type} {means : Json → α → Prop} {k : String} {o : Option α}
      (hrel : Option.Rel means (b.get? k) o) : ∃ o', Option.Rel means (part.get? k) o' :=
    exists_rel_iff.mpr fun v hv ↦ exists_rel_iff.mp ⟨o, hrel⟩ v (hpart k v hv)
  -- no new rule is given an id
  have hid : part.get? "id" = none := Option.eq_none_iff_forall_ne_some.mpr fun v hv ↦
    absurd (hnames "id" v hv).1 (by decide)
  obtain ⟨ds, hds⟩ := stands h.description
  obtain ⟨et, het⟩ := stands h.ethertype
  obtain ⟨p, hp⟩ := stands h.protocol
  obtain ⟨ad, had⟩ := stands h.remotePrefix
  obtain ⟨sg, hsg⟩ := stands h.remoteGroupId
  obtain ⟨ag, hag⟩ := stands h.remoteAddressGroupId
  obtain ⟨ac, hac⟩ := stands h.action
  obtain ⟨n, hn⟩ := stands h.priority
  have hq : RuleQuery.Reads d part ⟨[], some d, none, p, ds, sg, ac, ad, n, et, ag⟩ :=
    ⟨rfl, rfl, hid ▸ .none, hp, hds, hsg, hac, had, hn, het, hag⟩
  refine ⟨_, RuleQuery.ofAttributes_eq_ok_iff.mpr ⟨hasked, hq⟩, fun groupId r hr ↦ ?_⟩
  refine (hq.selects_iff hasked r).mpr ⟨hr.direction.trans h.direction, fun k v hv ↦ ?_⟩
  exact h.carries hr k (hnames k v hv).1 (hnames k v hv).2 v (hpart k v hv)

end RuleTemplate

namespace Store

/-- **Where no fault stands in the way, a template makes one rule.** It is put after those that were
there. -/
theorem exists_makes_createRules {s : Store} {groupId : String} (h : s.canCreate groupId = true)
    (t : RuleTemplate) :
    ∃ r, t.Makes groupId r ∧ (createRules groupId [t]).result s = .ok [r] ∧
      ((createRules groupId [t]).after s).inventory.rules = s.inventory.rules ++ [r] ∧
      SameSetting s ((createRules groupId [t]).after s) := by
  have hfault := fault?_of_permits ((s.permits_createRules groupId [t]).trans h)
  refine ⟨_, t.makes_toRule _ _, result_attempt_of_act hfault rfl, ?_, ?_⟩
  · rw [createRules, after_attempt_of_act hfault rfl]
    rfl
  · rw [createRules, after_attempt_of_act hfault rfl]
    exact ⟨rfl, rfl⟩

/-- **What is created is found by what it was created with.** Attributes that describe a new rule
describe rules to look for, all of them or any part, as long as no ports are among them; two or more
are an entry of a removal as well. A rule that a template of such attributes makes is selected by
the query, in all groups and in any groups among which its own is. So it is among the rules that are
listed then. -/
theorem finds_created {d : Direction} {b part : Block} {t : RuleTemplate}
    (ht : RuleTemplate.ofAttributes d b = .ok t)
    (hpart : ∀ k v, part.get? k = some v → b.get? k = some v)
    (hports : part.get? "multiport" = none) :
    ∃ q, RuleQuery.ofAttributes d part = .ok q ∧
      (minRemovalAttributes ≤ part.size →
        Removal.check d (.arr [.ofBlock part]) = .ok (.explicit [q])) ∧
      ∀ (s : Store) (groupId : String), s.canCreate groupId = true →
        ∃ r, (createRules groupId [t]).result s = .ok [r] ∧
          ((createRules groupId [t]).after s).inventory.rules = s.inventory.rules ++ [r] ∧
          ∀ groupIds, groupIds = [] ∨ groupId ∈ groupIds →
            (q.inGroups groupIds).selects r = true ∧
              (s.canList d = true → ∃ listed,
                (listRules (q.inGroups groupIds)).result ((createRules groupId [t]).after s) =
                  .ok listed ∧ r ∈ listed) := by
  obtain ⟨q, hof, hfinds⟩ := RuleTemplate.exists_query ht hpart hports
  refine ⟨q, hof, fun henough ↦ ?_, fun s groupId hcreate ↦ ?_⟩
  · have hentry := Removal.checkEntry_eq_ok_iff.mpr ⟨part, Json.block?_ofBlock part, henough, hof⟩
    exact map_eq_ok_iff.mpr ⟨[q], mapM_eq_ok_iff.mpr (.cons hentry .nil), rfl⟩
  · obtain ⟨r, hmakes, hresult, hrules, hsame⟩ := exists_makes_createRules hcreate t
    obtain ⟨hdir, hgroupIds⟩ := RuleQuery.scope_of_ofAttributes hof
    refine ⟨r, hresult, hrules, fun groupIds hgroups ↦ ?_⟩
    have hin : (q.inGroups groupIds).selects r = true := by
      rcases hgroups with rfl | hmem
      · -- a query that names no groups looks in all
        have hall : q.inGroups [] = q := congrArg q.inGroups hgroupIds.symm
        rw [hall]
        exact hfinds groupId r hmakes
      · have hne : groupIds.isEmpty = false :=
          List.isEmpty_eq_false_iff.mpr (List.ne_nil_of_mem hmem)
        rw [RuleQuery.selects_inGroups hgroupIds hne, hfinds groupId r hmakes, hmakes.groupId,
          Bool.and_true, List.contains_iff_mem]
        exact hmem
    have hpermits : ((createRules groupId [t]).after s).permits
        (.listRules (q.inGroups groupIds)) = s.canList d :=
      (hsame.permits_eq _).trans (permits_listRules hdir)
    refine ⟨hin, fun hlist ↦ ⟨_, result_attempt_of_permits _ (hpermits.trans hlist), ?_⟩⟩
    rw [hrules]
    exact List.mem_filter.mpr ⟨List.mem_append_right _ List.mem_cons_self, hin⟩

/-! ### A rule with a priority

The template states its priority as a text and leaves open the rest. Of the rules to look for all is
said but the ports. -/

/-- What describes a new rule. -/
def mailRule : Block := Dictionary.ofList
  [("multiport", .int 25), ("priority", .str "3"), ("protocol", .str "tcp")]

/-- What describes rules to look for. -/
def mailEntry : Block := Dictionary.ofList [("priority", .str "3"), ("protocol", .str "tcp")]

/-- The template of the new rule. -/
def mailTemplate : RuleTemplate where
  direction := .ingress
  protocol := some "tcp"
  multiport := some "25"
  priority := some 3

/-- A store without anything. -/
def bareStore : Store where
  inventory := {}
  supply := ⟨fun _ ↦ "new", fun _ ↦ "req"⟩

theorem finds_created_mailRule :
    RuleTemplate.ofAttributes .ingress mailRule = .ok mailTemplate ∧
      (∀ k v, mailEntry.get? k = some v → mailRule.get? k = some v) ∧
      mailEntry.get? "multiport" = none ∧ bareStore.canCreate "mail" = true ∧
      ∃ q r, Removal.check .ingress (.arr [.ofBlock mailEntry]) = .ok (.explicit [q]) ∧
        (createRules "mail" [mailTemplate]).result bareStore = .ok [r] ∧
        (q.inGroups ["web", "mail"]).selects r = true := by
  have ht : RuleTemplate.ofAttributes .ingress mailRule = .ok mailTemplate := rfl
  have hpart : ∀ k v, mailEntry.get? k = some v → mailRule.get? k = some v := by
    intro k v hv
    simp only [mailEntry, mailRule, Dictionary.ofList, List.foldl_cons, List.foldl_nil,
      Dictionary.get?_insert, Dictionary.get?_empty] at hv ⊢
    split_ifs at hv ⊢ <;> simp_all
  obtain ⟨q, -, hentry, hfinds⟩ := finds_created ht hpart rfl
  obtain ⟨r, hresult, -, hselects⟩ := hfinds bareStore "mail" rfl
  have hmem : "mail" ∈ ["web", "mail"] := by decide
  exact ⟨ht, hpart, rfl, rfl, q, r, hentry (by decide), hresult,
    (hselects ["web", "mail"] (.inr hmem)).1⟩

end Store

end NetWarden
