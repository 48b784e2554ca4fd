import NetWarden.Proofs.Records.Fields
import NetWarden.Proofs.Run.FilterChains

/-!
# Fields that are listed

Eight keys of a filter block list what a field of the rule may be. The same can be asked of the
rule's record by a filter by a value, which knows neither rules nor their types: it finds the field
by its name and compares it with the items of a list as they stand in the policy. **The two ask the
same** (`PolicyFilter.listed_iff_isIn`). A field that is not set is in no list, whichever way it is
asked for.

What a listed item stands for is compared with what a rule states, in one filter as a value of the
field's type and in the other as it is written. `Writes` is what makes this one comparison: the
writing of a value is the same as an item just where the item stands for that value.
-/

namespace NetWarden

variable {α : Type}

/-! ### Items and what is written -/

/-- How the values of a type are written, seen from the items that stand for them. -/
structure Writes (item : Json → α → Prop) (write : α → Json) : Prop where
  /-- What is written is the item just where the item stands for the value. -/
  same_iff : ∀ {v a}, item v a → ∀ c, (write c).same v = true ↔ c = a
  /-- No list stands for a value. -/
  not_list : ∀ {vs a}, ¬ item (.arr vs) a
  /-- What is written is there. -/
  isNull : ∀ c, (write c).isNull = false

namespace RuleFilter

theorem writes_text : Writes IsText .str where
  same_iff {v a} h c := by
    rw [show v = .str a from h, Json.same, beq_iff_eq]
  not_list := nofun
  isNull _ := rfl

theorem writes_ethertype : Writes IsEthertype .str where
  same_iff h := writes_text.same_iff h.2
  not_list h := writes_text.not_list h.2
  isNull _ := rfl

theorem writes_integer : Writes IsInteger fun n ↦ .int n.toInt where
  same_iff {v a} h c := by
    rw [show v = .int a.toInt from h, Json.same, beq_iff_eq, Int64.toInt_inj]
  not_list := nofun
  isNull _ := rfl

theorem writes_action : Writes IsAction fun a ↦ .str a.name where
  same_iff h c := by
    cases h <;> cases c <;> decide
  not_list := nofun
  isNull _ := rfl

section

variable {item : Json → α → Prop} {write : α → Json} {items : List Json}

/-- What is written is among the items just where the value is among what they stand for. -/
theorem isIn_iff_mem (h : Writes item write) {as : List α} (hitems : List.Forall₂ item items as)
    (c : α) : (write c).isIn items = true ↔ c ∈ as := by
  rw [Json.isIn]
  induction hitems with
  | nil => simp
  | cons hitem _ ih => rw [List.any_cons, Bool.or_eq_true, h.same_iff hitem, ih, List.mem_cons]

/-- **A field is listed just where its writing is among the items.** -/
theorem listed_ne_false_iff [BEq α] [LawfulBEq α] (h : Writes item write) {wanted : Option (List α)}
    (hwanted : Option.Rel (OneOrMore item) (some (.arr items)) wanted) (stated : Option α) :
    listed wanted stated ≠ some false ↔
      ((stated.map write).any fun v ↦ v.isIn items) = true := by
  cases hwanted with
  | some hlist =>
    cases hlist with
    | one hitem => exact absurd hitem h.not_list
    | list hitems =>
      cases stated with
      | none => simp [listed]
      | some c =>
        rw [Option.map_some, Option.any_some, isIn_iff_mem h hitems]
        simp [listed]

end

/-! ### The eight keys -/

/-- The keys that list what a field may be, each with the name of the field. -/
def listedFields : List (String × String) :=
  [("SGRuleIds", "id"), ("SecurityGroupIds", "security_group_id"), ("Descriptions", "description"),
    ("Ethertypes", "ethertype"), ("Priorities", "priority"), ("SGReferenceIds", "remote_group_id"),
    ("AGReferenceIds", "remote_address_group_id"), ("Action", "action")]

/-- A question is about the field of this name: it belongs to the key, and if the key has a list,
the answer is whether what the rule's record holds there is among the items. -/
structure AsksField (p : Predicate) (key name : String) : Prop where
  /-- The question is not the one that is always asked. -/
  ne_direction : p ≠ .direction
  /-- It has no other key. -/
  keys_eq : p.keys = [key]
  /-- The answer. -/
  verdict_iff : ∀ {b f items}, Reads b f → b.get? key = some (.arr items) → ∀ r : Rule,
    f.verdict r p ≠ some false ↔
      ((ValueFilter.at? name r.toJson).any fun v ↦ v.isIn items) = true

/-- **A question by list is about a field if the field is written as the items are**, and the name
leads to it. -/
theorem AsksField.of_writes [BEq α] [LawfulBEq α] {p : Predicate} {key name : String}
    {item : Json → α → Prop} {write : α → Json} (hwrites : Writes item write)
    (wanted : RuleFilter → Option (List α)) (stated : Rule → Option α) (hp : p ≠ .direction)
    (hkeys : p.keys = [key]) (hplain : IsPlain name)
    (hverdict : ∀ f r, verdict f r p = listed (wanted f) (stated r))
    (hreads : ∀ b f, Reads b f → Option.Rel (OneOrMore item) (b.get? key) (wanted f))
    (hfield : ∀ r : Rule, (Dictionary.lookupIn name r.fields).join = (stated r).map write) :
    AsksField p key name where
  ne_direction := hp
  keys_eq := hkeys
  verdict_iff {b f items} h hkey r := by
    have hlist := hreads b f h
    rw [hkey] at hlist
    -- what is written is never the absent value, so looking for one that is set finds it
    have hset : (((stated r).map write).filter fun v ↦ !v.isNull) = (stated r).map write := by
      cases stated r with
      | none => rfl
      | some a => simp [hwrites.isNull]
    have hat : ValueFilter.at? name r.toJson = (stated r).map write := by
      rw [← hset, ← hfield, ← Rule.field?_toJson]
      exact ValueFilter.at?_obj hplain _
    rw [hverdict, hat]
    exact listed_ne_false_iff hwrites hlist (stated r)

theorem exists_asksField {key name : String} (h : (key, name) ∈ listedFields) :
    ∃ p, AsksField p key name := by
  -- key by key, each with the field that is written under its name
  have hall : ∀ e ∈ listedFields, ∃ p, AsksField p e.1 e.2 := by
    have haction (r : Rule) : (Dictionary.lookupIn "action" r.fields).join =
        r.action.map fun a ↦ Json.str a.name := Option.map_map ..
    simp only [listedFields, List.forall_mem_cons, List.not_mem_nil, false_imp_iff, implies_true,
      and_true]
    exact ⟨
      ⟨.ruleIds, .of_writes writes_text ruleIds (fun r ↦ some r.id) nofun rfl (by decide)
        (fun _ _ ↦ rfl) (fun _ _ h ↦ h.ruleIds) fun _ ↦ rfl⟩,
      ⟨.groupIds, .of_writes writes_text groupIds (fun r ↦ some r.groupId) nofun rfl (by decide)
        (fun _ _ ↦ rfl) (fun _ _ h ↦ h.groupIds) fun _ ↦ rfl⟩,
      ⟨.descriptions, .of_writes writes_text descriptions Rule.description nofun rfl (by decide)
        (fun _ _ ↦ rfl) (fun _ _ h ↦ h.descriptions) fun _ ↦ rfl⟩,
      ⟨.ethertypes, .of_writes writes_ethertype ethertypes Rule.ethertype nofun rfl (by decide)
        (fun _ _ ↦ rfl) (fun _ _ h ↦ h.ethertypes) fun _ ↦ rfl⟩,
      ⟨.priorities, .of_writes writes_integer priorities Rule.priority nofun rfl (by decide)
        (fun _ _ ↦ rfl) (fun _ _ h ↦ h.priorities) fun _ ↦ rfl⟩,
      ⟨.remoteGroupIds, .of_writes writes_text remoteGroupIds Rule.remoteGroupId nofun rfl
        (by decide) (fun _ _ ↦ rfl) (fun _ _ h ↦ h.remoteGroupIds) fun _ ↦ rfl⟩,
      ⟨.remoteAddressGroupIds, .of_writes writes_text remoteAddressGroupIds
        Rule.remoteAddressGroupId nofun rfl (by decide) (fun _ _ ↦ rfl)
        (fun _ _ h ↦ h.remoteAddressGroupIds) fun _ ↦ rfl⟩,
      ⟨.actions, .of_writes writes_action actions Rule.action nofun rfl (by decide)
        (fun _ _ ↦ rfl) (fun _ _ h ↦ h.actions) haction⟩⟩
  exact hall (key, name) h

/-! ### Blocks with one key -/

/-- **A block with the key of one question matches the rules of its direction to which the answer is
not no.** -/
theorem admits_iff_of_keys {b : Block} {f : RuleFilter} (hf : ofBlock b = .ok f) {p : Predicate}
    (hkeys : ∀ k w, b.get? k = some w → k = "type" ∨ k ∈ p.keys) (r : Rule) :
    f.admits r = true ↔ r.direction = f.direction ∧ f.verdict r p ≠ some false := by
  have hop : f.operator = .and := by
    obtain ⟨op, hrel, heq⟩ := (ofBlock_eq_ok_iff.mp hf).2.operator
    cases hget : b.get? "match-operator" with
    | none =>
      rw [hget] at hrel
      cases hrel
      exact heq
    | some w =>
      rcases hkeys _ w hget with hk | hk
      · exact absurd hk (by decide)
      · exact absurd rfl (Predicate.exists_mem_keys_iff.mp ⟨p, hk⟩).2
  rw [admits_of_and_iff hop]
  constructor
  · intro hall
    refine ⟨?_, hall p⟩
    have hdir := hall .direction
    simpa [verdict] using hdir
  · rintro ⟨hdir, hans⟩ q
    by_cases hq : q = .direction
    · subst hq
      simp [verdict, hdir]
    by_cases hqp : q = p
    · exact hqp ▸ hans
    -- the other questions have no key here
    rw [← only_keys hf, verdict_only_of_disjoint hq]
    · intro hnone
      cases hnone
    · intro k hk hmem
      obtain ⟨w, hw⟩ := (Dictionary.mem_keys_iff b k).mp hmem
      rcases hkeys k w hw with rfl | hkp
      · exact hq (Predicate.eq_of_mem_keys hk List.mem_cons_self)
      · exact hqp (Predicate.eq_of_mem_keys hk hkp)

section

variable {key : String} {items : List Json} {d : Direction}

/-- The block that states a direction and lists what a field may be. -/
def listBlock (d : Direction) (key : String) (items : List Json) : Block :=
  Dictionary.ofList [("type", .str d.name), (key, .arr items)]

theorem get?_listBlock (d : Direction) (key : String) (items : List Json) (k : String) :
    (listBlock d key items).get? k =
      if k = key then some (.arr items) else if k = "type" then some (.str d.name) else none := by
  simp only [listBlock, Dictionary.ofList, List.foldl_cons, List.foldl_nil, Dictionary.get?_insert,
    Dictionary.get?_empty]

theorem mem_pair_of_get?_listBlock {k : String} {w : Json}
    (h : (listBlock d key items).get? k = some w) : k = "type" ∨ k = key := by
  rw [get?_listBlock] at h
  split_ifs at h with hkey htype
  · exact .inr hkey
  · exact .inl htype

/-- **A list that its key takes makes a filter.** -/
theorem exists_ofBlock_listBlock (hkey : key ∈ keys) (htype : key ≠ "type")
    (hitems : Takes key (.arr items)) (d : Direction) :
    ∃ f, ofBlock (listBlock d key items) = .ok f ∧ f.direction = d := by
  have hdir : (listBlock d key items).get? "type" = some (.str d.name) := by
    rw [get?_listBlock, if_neg (Ne.symm htype), if_pos rfl]
  -- the block has two keys, and both take their values
  have hknown : ∀ k w, (listBlock d key items).get? k = some w → k ∈ keys ∧ Takes k w := by
    intro k w hw
    rw [get?_listBlock] at hw
    split_ifs at hw with hk hk
    · subst hk
      cases hw
      exact ⟨hkey, hitems⟩
    · subst hk
      cases hw
      cases d with
      | ingress => exact ⟨by decide, .ingress, .ingress⟩
      | egress => exact ⟨by decide, .egress, .egress⟩
  obtain ⟨f, hf⟩ := exists_reads_iff.mpr ⟨⟨_, hdir⟩, fun k _ w hw ↦ (hknown k w hw).2⟩
  refine ⟨f, ofBlock_eq_ok_iff.mpr ⟨fun k w hw ↦ (hknown k w hw).1, hf⟩, ?_⟩
  obtain ⟨w, hw, hd⟩ := hf.direction
  rw [hdir] at hw
  cases hw
  have hnamed := direction_named?_eq_some_iff.mpr hd
  rw [Direction.named?_name] at hnamed
  exact (Option.some.inj hnamed).symm

end

end RuleFilter

/-! ### The filters of a policy -/

namespace PolicyFilter

/-- A filter that asks whether a value is among given ones, as a policy writes it. -/
theorem ofJson_isIn (name : String) (items : List Json) :
    ofJson (.obj [("type", .str "value"), ("key", .str name), ("op", .str "in"),
      ("value", .arr items)]) = .ok (.value ⟨name, .isIn, .arr items⟩) := by
  -- the block is named, so that its keys are looked up and not computed
  obtain ⟨b, hb⟩ : ∃ b : Block, b = Dictionary.ofList [("type", .str "value"), ("key", .str name),
    ("op", .str "in"), ("value", .arr items)] := ⟨_, rfl⟩
  have hget (k : String) : b.get? k =
      if k = "value" then some (.arr items) else if k = "op" then some (.str "in")
      else if k = "key" then some (.str name) else if k = "type" then some (.str "value")
      else none := by
    simp only [hb, Dictionary.ofList, List.foldl_cons, List.foldl_nil, Dictionary.get?_insert,
      Dictionary.get?_empty]
  have hknown : b.unknownKeys ["type", "key", "value", "op"] = [] := by
    rw [RuleFilter.unknownKeys_eq_nil_iff]
    intro k w hw
    rw [hget] at hw
    split_ifs at hw <;> simp [*]
  have hfilter : ValueFilter.ofBlock b = .ok ⟨name, .isIn, .arr items⟩ := by
    simp only [ValueFilter.ofBlock, Block.allowOnly, hknown, Block.required, Block.optional, hget]
    rfl
  have hblock : ofBlock b = .ok (.value ⟨name, .isIn, .arr items⟩) := by
    rw [ofBlock, Block.required, hget, hfilter]
    rfl
  rw [ofJson.eq_def]
  subst hb
  exact hblock

/-- **Two ways to list what a field may be.** For each of the eight keys, and each list that the key
takes, a policy may state the direction and the key with this list, or it may ask whether the value
of the field is in this list. Both are filters, and the first matches just the rules of the
direction whose records the second matches. A field that is not set is matched by neither. -/
theorem listed_iff_isIn {key name : String} (hpair : (key, name) ∈ RuleFilter.listedFields)
    {items : List Json} (hitems : RuleFilter.Takes key (.arr items)) (d : Direction) :
    ∃ f g, ofJson (.obj [("type", .str d.name), (key, .arr items)]) = .ok (.rules f) ∧
      ofJson (.obj [("type", .str "value"), ("key", .str name), ("op", .str "in"),
        ("value", .arr items)]) = .ok (.value g) ∧
      ∀ r : Rule, (f.admits r = true ↔ r.direction = d ∧ g.admits r.toJson = true) ∧
        (r.toJson.field? name = none → f.admits r = false ∧ g.admits r.toJson = false) := by
  obtain ⟨p, hp⟩ := RuleFilter.exists_asksField hpair
  obtain ⟨hkey, htype, hplain⟩ : key ∈ RuleFilter.keys ∧ key ≠ "type" ∧ IsPlain name := by
    have hall : ∀ e ∈ RuleFilter.listedFields,
        e.1 ∈ RuleFilter.keys ∧ e.1 ≠ "type" ∧ IsPlain e.2 := by decide
    exact hall _ hpair
  obtain ⟨f, hf, rfl⟩ := RuleFilter.exists_ofBlock_listBlock hkey htype hitems d
  have hlist : (RuleFilter.listBlock f.direction key items).get? key = some (.arr items) := by
    rw [RuleFilter.get?_listBlock, if_pos rfl]
  refine ⟨f, ⟨name, .isIn, .arr items⟩, ?_, ofJson_isIn name items, fun r ↦ ?_⟩
  · exact ofJson_of_ruleFilter ((RuleFilter.ofJson_eq_ofBlock rfl).trans hf)
  -- both ask whether the value of the field is among the items
  have hadmits : ValueFilter.admits ⟨name, .isIn, .arr items⟩ r.toJson =
      (ValueFilter.at? name r.toJson).any fun v ↦ v.isIn items := rfl
  have hiff : f.admits r = true ↔ r.direction = f.direction ∧
      ValueFilter.admits ⟨name, .isIn, .arr items⟩ r.toJson = true := by
    rw [hadmits, ← hp.verdict_iff (RuleFilter.ofBlock_eq_ok_iff.mp hf).2 hlist r]
    refine RuleFilter.admits_iff_of_keys hf (fun k w hw ↦ ?_) r
    rw [hp.keys_eq, List.mem_singleton]
    exact RuleFilter.mem_pair_of_get?_listBlock hw
  refine ⟨hiff, fun hnone ↦ ?_⟩
  -- a field that is not set has no value to ask for
  have hunset : ValueFilter.admits ⟨name, .isIn, .arr items⟩ r.toJson = false := by
    have hat : ValueFilter.at? name r.toJson = (r.toJson.field? name).filter fun v ↦ !v.isNull :=
      ValueFilter.at?_obj hplain _
    rw [hadmits, hat, hnone]
    rfl
  refine ⟨Bool.eq_false_iff.mpr fun h ↦ ?_, hunset⟩
  rw [(hiff.mp h).2] at hunset
  cases hunset

/-! ### A list of priorities

A rule without a priority is in no list of priorities, in either way. -/

theorem listed_iff_isIn_priorities :
    ("Priorities", "priority") ∈ RuleFilter.listedFields ∧
      RuleFilter.Takes "Priorities" (.arr [.int 1, .int (-5)]) ∧
      ∃ f g, ofJson (.obj [("type", .str "ingress"), ("Priorities", .arr [.int 1, .int (-5)])]) =
          .ok (.rules f) ∧
        ofJson (.obj [("type", .str "value"), ("key", .str "priority"), ("op", .str "in"),
          ("value", .arr [.int 1, .int (-5)])]) = .ok (.value g) ∧
        ∀ r : Rule, (f.admits r = true ↔ r.direction = .ingress ∧ g.admits r.toJson = true) ∧
          (r.toJson.field? "priority" = none → f.admits r = false ∧ g.admits r.toJson = false) :=
  have hpair : ("Priorities", "priority") ∈ RuleFilter.listedFields := by decide
  have hitems : RuleFilter.Takes "Priorities" (.arr [.int 1, .int (-5)]) :=
    ⟨[1, -5], .list (.cons rfl (.cons rfl .nil))⟩
  ⟨hpair, hitems, listed_iff_isIn hpair hitems .ingress⟩

end PolicyFilter

end NetWarden
