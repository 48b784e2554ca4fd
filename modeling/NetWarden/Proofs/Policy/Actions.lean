import NetWarden.Proofs.Policy.Plans
import NetWarden.Proofs.Validation.Attributes

/-!
# The grammar of actions

Which blocks are actions, and what an action is of its block, put down without the checks. An action
has the keys of its type only (`PolicyAction.keys`), and it is what the values under them stand for
(`PolicyAction.Says`). **The checks accept this grammar and nothing else**
(`PolicyAction.ofBlock_eq_ok_iff`).

Some keys take lists of blocks of attributes. Each block of such a list is read on its own, and what
is read stands in the action in its place (`IsAttributeList`, `Removal.Reads`), so no block that
would be refused is passed over. One key is outside of this: where no flow logs are created, the
attributes of new ones are not looked at, and **any value is taken for them**.
-/

namespace NetWarden

open Checked RuleFilter

variable {α : Type}

/-! ### Lists of attributes -/

/-- A value is a list of blocks of attributes, and these are read one by one, in order. -/
def IsAttributeList (read : Block → Checked α) (v : Json) (as : List α) : Prop :=
  ∃ items, v = .arr items ∧
    List.Forall₂ (fun item a ↦ ∃ b, item.block? = some b ∧ read b = .ok a) items as

/-- **A list of attributes is checked as the grammar says.** -/
theorem isAttributeList_iff {read : Block → Checked α} {key : String} {expected : Shape} {v : Json}
    {as : List α} :
    (do
      let items ← found key expected v v.items?
      items.mapM fun item ↦ do read (← block key item)) = .ok as ↔ IsAttributeList read v as := by
  have hitems {items : List Json} : v.items? = some items ↔ v = .arr items := by
    cases v <;> simp [Json.items?]
  simp only [bind_eq_ok_iff, mapM_eq_ok_iff, block, found_eq_ok_iff, hitems, IsAttributeList]

theorem RuleTemplates.check_eq_ok_iff {d : Direction} {v : Json} {ts : List RuleTemplate} :
    check d v = .ok ts ↔ IsAttributeList (RuleTemplate.ofAttributes d) v ts :=
  isAttributeList_iff

theorem PolicyAction.checkTemplates_eq_ok_iff {key : String} {v : Json}
    {ts : List FlowLogTemplate} :
    checkTemplates key v = .ok ts ↔ IsAttributeList FlowLogTemplate.ofAttributes v ts :=
  isAttributeList_iff

/-! ### Removals -/

/-- **What a value says about the rules of a direction to remove**: one of two words, or a list of
entries, which are read one by one, in order. -/
inductive Removal.Reads (d : Direction) : Json → Removal → Prop
  /-- The rules that the action was given. -/
  | matched : Reads d (.str "matched") .matched
  /-- All rules of their groups. -/
  | all : Reads d (.str "all") .all
  /-- The rules that entries describe. -/
  | explicit {items : List Json} {queries : List RuleQuery} :
    List.Forall₂ (fun item q ↦ checkEntry d item = .ok q) items queries →
      Reads d (.arr items) (.explicit queries)

theorem Removal.check_eq_ok_iff {d : Direction} {v : Json} {r : Removal} :
    check d v = .ok r ↔ Reads d v r := by
  constructor
  · intro h
    rw [check.eq_def] at h
    split at h
    · -- of the texts, two are words for a removal
      rename_i s
      by_cases hmatched : s = "matched"
      · rw [if_pos hmatched] at h
        cases h
        exact hmatched ▸ .matched
      rw [if_neg hmatched] at h
      by_cases hall : s = "all"
      · rw [if_pos hall] at h
        cases h
        exact hall ▸ .all
      · rw [if_neg hall] at h
        cases h
    · obtain ⟨queries, hqueries, rfl⟩ := map_eq_ok_iff.mp h
      exact .explicit (mapM_eq_ok_iff.mp hqueries)
    · cases h
  · rintro (- | - | h)
    · rfl
    · rfl
    · exact map_eq_ok_iff.mpr ⟨_, mapM_eq_ok_iff.mpr h, rfl⟩

/-! ### Actions -/

namespace PolicyAction

/-- The keys that an action has. -/
def keys : PolicyAction → List String
  | .delete => ["type"]
  | .removeRules _ => ["type", "ingress", "egress"]
  | .setRules .. => ["type", "add-ingress", "add-egress", "remove-ingress", "remove-egress"]
  | .setFlowLog _ => ["type", "action", "create-attrs"]

/-- **What an action is of the values under its keys.** For each direction, a removal is about the
rules that are given where nothing else is said, while rules are set only where something is said.
New flow logs have the attributes that are listed; any other change of flow logs has none. -/
def Says (b : Block) : PolicyAction → Prop
  | .delete => True
  | .removeRules plan => ∀ d, ∃ o, Option.Rel (Removal.Reads d) (b.get? d.name) o ∧
      plan.get d = some (o.getD .matched)
  | .setRules add remove => ∀ d,
      (∃ o, Option.Rel (IsAttributeList (RuleTemplate.ofAttributes d))
        (b.get? ("add-" ++ d.name)) o ∧ add.get d = o.getD []) ∧
      Option.Rel (Removal.Reads d) (b.get? ("remove-" ++ d.name)) (remove.get d)
  | .setFlowLog change => b.get? "action" = some (.str change.name) ∧
      ∀ templates, change = .create templates → ∃ o,
        Option.Rel (IsAttributeList FlowLogTemplate.ofAttributes) (b.get? "create-attrs") o ∧
          templates = o.getD []

/-- What the action of a block is. -/
structure Reads (b : Block) (a : PolicyAction) : Prop where
  /-- The block states the type of the action. -/
  type : b.get? "type" = some (.str a.name)
  /-- It has no other keys than such an action has. -/
  keys : ∀ k w, b.get? k = some w → k ∈ a.keys
  /-- The action is what the values under them stand for. -/
  parts : a.Says b

section

variable {b : Block} {a : PolicyAction}

theorem forDirection_eq_ok_iff {key : String} {d : Direction} {check : Direction → Json → Checked α}
    {means : Json → α → Prop} (hmeans : ∀ v a, check d v = .ok a ↔ means v a) {o : Option α} :
    forDirection b key d check = .ok o ↔ Option.Rel means (b.get? key) o :=
  optional_eq_ok_iff hmeans

theorem removeRulesOf_eq_ok_iff : removeRulesOf b = .ok a ↔
    ∃ plan, a = .removeRules plan ∧ (∀ k w, b.get? k = some w → k ∈ a.keys) ∧ a.Says b := by
  simp only [removeRulesOf, bind_eq_ok_iff, exists_const, allowOnly_eq_ok_iff,
    forDirection_eq_ok_iff fun _ _ ↦ Removal.check_eq_ok_iff]
  constructor
  · rintro ⟨hkeys, ingress, hingress, egress, hegress, h⟩
    cases h
    refine ⟨_, rfl, hkeys, fun d ↦ ?_⟩
    -- the two keys are checked one after the other, and each says its direction
    cases d with
    | ingress => exact ⟨ingress, hingress, rfl⟩
    | egress => exact ⟨egress, hegress, rfl⟩
  · rintro ⟨⟨i, e⟩, rfl, hkeys, hparts⟩
    obtain ⟨ingress, hingress, hi⟩ := hparts .ingress
    obtain ⟨egress, hegress, he⟩ := hparts .egress
    refine ⟨hkeys, ingress, hingress, egress, hegress, ?_⟩
    rw [← hi, ← he]
    rfl

theorem setRulesOf_eq_ok_iff : setRulesOf b = .ok a ↔
    ∃ add remove, a = .setRules add remove ∧ (∀ k w, b.get? k = some w → k ∈ a.keys) ∧
      a.Says b := by
  simp only [setRulesOf, bind_eq_ok_iff, exists_const, allowOnly_eq_ok_iff,
    forDirection_eq_ok_iff fun _ _ ↦ Removal.check_eq_ok_iff,
    forDirection_eq_ok_iff fun _ _ ↦ RuleTemplates.check_eq_ok_iff]
  constructor
  · rintro ⟨hkeys, addIngress, haddIn, removeIngress, hremoveIn, addEgress, haddOut, removeEgress,
      hremoveOut, h⟩
    cases h
    refine ⟨_, _, rfl, hkeys, fun d ↦ ?_⟩
    -- four keys, two for each direction
    cases d with
    | ingress => exact ⟨⟨addIngress, haddIn, rfl⟩, hremoveIn⟩
    | egress => exact ⟨⟨addEgress, haddOut, rfl⟩, hremoveOut⟩
  · rintro ⟨⟨i, e⟩, remove, rfl, hkeys, hparts⟩
    obtain ⟨⟨addIngress, haddIn, hi⟩, hremoveIn⟩ := hparts .ingress
    obtain ⟨⟨addEgress, haddOut, he⟩, hremoveOut⟩ := hparts .egress
    refine ⟨hkeys, addIngress, haddIn, _, hremoveIn, addEgress, haddOut, _, hremoveOut, ?_⟩
    rw [← hi, ← he]
    rfl

theorem setFlowLogOf_eq_ok_iff : setFlowLogOf b = .ok a ↔
    ∃ change, a = .setFlowLog change ∧ (∀ k w, b.get? k = some w → k ∈ a.keys) ∧ a.Says b := by
  simp only [setFlowLogOf, bind_eq_ok_iff, exists_const, allowOnly_eq_ok_iff, required_eq_ok_iff,
    text_eq_ok_iff, IsText]
  constructor
  · rintro ⟨hkeys, _, haction, s, rfl, h⟩
    -- the name of the change is compared with the four that there are
    split at h
    · rename_i hs
      cases h
      exact ⟨.enable, rfl, hkeys, hs ▸ haction, fun _ h ↦ by cases h⟩
    split at h
    · rename_i hs
      cases h
      exact ⟨.disable, rfl, hkeys, hs ▸ haction, fun _ h ↦ by cases h⟩
    split at h
    · rename_i hs
      cases h
      exact ⟨.delete, rfl, hkeys, hs ▸ haction, fun _ h ↦ by cases h⟩
    split at h
    · rename_i hs
      -- only a creation looks at the templates
      rw [hs] at haction
      obtain ⟨o, ho, h⟩ := bind_eq_ok_iff.mp h
      cases h
      refine ⟨.create _, rfl, hkeys, haction, ?_⟩
      rintro templates ⟨⟩
      exact ⟨o, (optional_eq_ok_iff fun _ _ ↦ checkTemplates_eq_ok_iff).mp ho, rfl⟩
    · cases h
  · rintro ⟨change, rfl, hkeys, haction, htemplates⟩
    refine ⟨hkeys, _, haction, _, rfl, ?_⟩
    cases change with
    | enable => rfl
    | disable => rfl
    | delete => rfl
    | create templates =>
      obtain ⟨o, ho, rfl⟩ := htemplates templates rfl
      exact bind_eq_ok_iff.mpr
        ⟨o, (optional_eq_ok_iff fun _ _ ↦ checkTemplates_eq_ok_iff).mpr ho, rfl⟩

/-- **The checks accept the grammar of actions and nothing else.** -/
theorem ofBlock_eq_ok_iff : ofBlock b = .ok a ↔ Reads b a := by
  simp only [ofBlock, bind_eq_ok_iff, required_eq_ok_iff, text_eq_ok_iff, IsText]
  constructor
  · rintro ⟨_, htype, kind, rfl, h⟩
    -- one case for each type of action
    split at h
    · rename_i hkind
      rw [hkind] at htype
      obtain ⟨_, hkeys, h⟩ := bind_eq_ok_iff.mp h
      cases h
      exact ⟨htype, allowOnly_eq_ok_iff.mp hkeys, trivial⟩
    split at h
    · rename_i hkind
      rw [hkind] at htype
      obtain ⟨plan, rfl, hkeys, hparts⟩ := removeRulesOf_eq_ok_iff.mp h
      exact ⟨htype, hkeys, hparts⟩
    split at h
    · rename_i hkind
      rw [hkind] at htype
      obtain ⟨add, remove, rfl, hkeys, hparts⟩ := setRulesOf_eq_ok_iff.mp h
      exact ⟨htype, hkeys, hparts⟩
    split at h
    · rename_i hkind
      rw [hkind] at htype
      obtain ⟨change, rfl, hkeys, hparts⟩ := setFlowLogOf_eq_ok_iff.mp h
      exact ⟨htype, hkeys, hparts⟩
    · cases h
  · rintro ⟨htype, hkeys, hparts⟩
    refine ⟨_, htype, _, rfl, ?_⟩
    cases a with
    | delete => exact bind_eq_ok_iff.mpr ⟨(), allowOnly_eq_ok_iff.mpr hkeys, rfl⟩
    | removeRules plan => exact removeRulesOf_eq_ok_iff.mpr ⟨plan, rfl, hkeys, hparts⟩
    | setRules add remove => exact setRulesOf_eq_ok_iff.mpr ⟨add, remove, rfl, hkeys, hparts⟩
    | setFlowLog change => exact setFlowLogOf_eq_ok_iff.mpr ⟨change, rfl, hkeys, hparts⟩

/-- A word is the type of an action; any other value is a block. -/
theorem ofJson_eq_ok_iff {v : Json} : ofJson v = .ok a ↔
    (∃ s, v = .str s ∧ Reads (PolicyFilter.blockOfWord s) a) ∨
      ∃ b, v.block? = some b ∧ Reads b a := by
  cases v with
  | str s =>
    simp only [ofJson, ofBlock_eq_ok_iff, Json.block?, Json.str.injEq, exists_eq_left',
      reduceCtorEq, false_and, exists_false, or_false]
  | _ =>
    simp only [ofJson, bind_eq_ok_iff, block, found_eq_ok_iff, ofBlock_eq_ok_iff, reduceCtorEq,
      false_and, exists_false, false_or]

/-! ### What is read of the lists of a block -/

/-- **Every list of attributes in a block is read whole.** What a key lists for a direction stands
in the action for that direction. The attributes of new flow logs are read where any are created,
and make no difference elsewhere. -/
structure ReadsAttributes (b : Block) (a : PolicyAction) : Prop where
  /-- Rules to add. -/
  added : ∀ d w, b.get? ("add-" ++ d.name) = some w → ∃ add remove, a = .setRules add remove ∧
    IsAttributeList (RuleTemplate.ofAttributes d) w (add.get d)
  /-- Rules to remove, which come under either of two keys. -/
  removed : ∀ d key w, key ∈ [d.name, "remove-" ++ d.name] → b.get? key = some w →
    ∃ r, a.plan.get d = some r ∧ Removal.check d w = .ok r ∧ Removal.Reads d w r
  /-- New flow logs. -/
  created : ∀ w, b.get? "create-attrs" = some w → b.get? "action" = some (.str "create") →
    ∃ templates, a = .setFlowLog (.create templates) ∧
      IsAttributeList FlowLogTemplate.ofAttributes w templates
  /-- Where no flow logs are created, any value would do for their attributes. -/
  passedOver : ∀ w, b.get? "create-attrs" = some w → b.get? "action" ≠ some (.str "create") →
    ∀ u, ofBlock (b.insert "create-attrs" u) = .ok a

namespace Reads

variable (h : Reads b a)

include h

theorem added {d : Direction} {w : Json} (hw : b.get? ("add-" ++ d.name) = some w) :
    ∃ add remove, a = .setRules add remove ∧
      IsAttributeList (RuleTemplate.ofAttributes d) w (add.get d) := by
  have hkey := h.keys _ _ hw
  cases a with
  | setRules add remove =>
    obtain ⟨⟨o, ho, hadd⟩, -⟩ := h.parts d
    rw [hw] at ho
    cases ho with
    | some hlist => exact ⟨add, remove, rfl, hadd ▸ hlist⟩
  | _ => exact absurd hkey (by cases d <;> simp [PolicyAction.keys, Direction.name])

theorem removed {d : Direction} {key : String} {w : Json}
    (hkey : key ∈ [d.name, "remove-" ++ d.name]) (hw : b.get? key = some w) :
    ∃ r, a.plan.get d = some r ∧ Removal.Reads d w r := by
  have hmem := h.keys _ _ hw
  -- the key tells which kind of action it is, for no other kind has it
  rcases List.mem_pair.mp hkey with rfl | rfl
  · cases a with
    | removeRules plan =>
      obtain ⟨o, ho, hplan⟩ := h.parts d
      rw [hw] at ho
      cases ho with
      | some hread => exact ⟨_, hplan, hread⟩
    | _ => exact absurd hmem (by cases d <;> simp [PolicyAction.keys, Direction.name])
  · cases a with
    | setRules add remove =>
      have hread := (h.parts d).2
      rw [hw] at hread
      rcases hplan : remove.get d with - | r
      · rw [hplan] at hread
        cases hread
      · rw [hplan] at hread
        cases hread with
        | some hread => exact ⟨r, hplan, hread⟩
    | _ => exact absurd hmem (by cases d <;> simp [PolicyAction.keys, Direction.name])

theorem exists_change {w : Json} (hw : b.get? "create-attrs" = some w) :
    ∃ change, a = .setFlowLog change := by
  have hkey := h.keys _ _ hw
  cases a with
  | setFlowLog change => exact ⟨change, rfl⟩
  | _ => exact absurd hkey (by simp [PolicyAction.keys])

theorem created {w : Json} (hw : b.get? "create-attrs" = some w)
    (haction : b.get? "action" = some (.str "create")) :
    ∃ templates, a = .setFlowLog (.create templates) ∧
      IsAttributeList FlowLogTemplate.ofAttributes w templates := by
  obtain ⟨change, rfl⟩ := h.exists_change hw
  obtain ⟨hname, htemplates⟩ := h.parts
  rw [haction] at hname
  cases change with
  | create templates =>
    obtain ⟨o, ho, rfl⟩ := htemplates templates rfl
    rw [hw] at ho
    cases ho with
    | some hlist => exact ⟨_, rfl, hlist⟩
  | _ => exact absurd (Json.str.inj (Option.some.inj hname)) (by decide)

/-- **Where no flow logs are created, the attributes of new ones are not read.** -/
theorem passedOver {w : Json} (hw : b.get? "create-attrs" = some w)
    (haction : b.get? "action" ≠ some (.str "create")) (u : Json) :
    Reads (b.insert "create-attrs" u) a := by
  obtain ⟨change, rfl⟩ := h.exists_change hw
  obtain ⟨hname, -⟩ := h.parts
  -- the other keys say what they said, and this one was known before
  refine ⟨?_, fun k v hv ↦ ?_, ?_, ?_⟩
  · rw [Dictionary.get?_insert, if_neg (by decide)]
    exact h.type
  · rw [Dictionary.get?_insert] at hv
    split at hv
    · rename_i hk
      exact hk ▸ h.keys _ _ hw
    · exact h.keys k v hv
  · rw [Dictionary.get?_insert, if_neg (by decide)]
    exact hname
  · rintro templates rfl
    exact absurd hname haction

theorem readsAttributes : ReadsAttributes b a where
  added _ _ := h.added
  removed _ _ _ hkey hw := by
    obtain ⟨r, hplan, hread⟩ := h.removed hkey hw
    exact ⟨r, hplan, Removal.check_eq_ok_iff.mpr hread, hread⟩
  created _ := h.created
  passedOver _ hw haction u := ofBlock_eq_ok_iff.mpr (h.passedOver hw haction u)

end Reads

/-- **No list of attributes hides anything in an accepted action**, but for the one that is passed
over: every other list is read item by item, and each item stands in the action in its place. A word
that stands for an action lists nothing. -/
theorem attributes_read {v : Json} (h : ofJson v = .ok a) :
    ∀ b, v.block? = some b → ReadsAttributes b a := by
  intro b hb
  rcases ofJson_eq_ok_iff.mp h with ⟨s, rfl, -⟩ | ⟨b', hb', hreads⟩
  · cases hb
  · rw [hb] at hb'
    cases hb'
    exact hreads.readsAttributes

/-- Rules to add come in their order, and the entries of a removal are read for its direction. -/
theorem attributes_read_setRules :
    let v : Json := .obj [("type", .str "set-rules"),
      ("add-ingress", .arr [.obj [("protocol", .str "tcp")], .obj [("protocol", .str "udp")]]),
      ("remove-egress", .arr [.obj [("protocol", .str "icmp"), ("ethertype", .str "IPv6")]])]
    let a := setRules
      ⟨[{ direction := .ingress, protocol := some "tcp" },
        { direction := .ingress, protocol := some "udp" }], []⟩
      ⟨none, some (.explicit [
        { direction := some .egress, protocol := some "icmp", ethertype := some "IPv6" }])⟩
    ofJson v = .ok a ∧ ∀ b, v.block? = some b → ReadsAttributes b a :=
  ⟨rfl, attributes_read rfl⟩

/-- **Attributes that are none are passed over** where no flow logs are created. -/
theorem attributes_passed_over :
    let v : Json := .obj [("type", .str "set-flow-log"), ("action", .str "enable"),
      ("create-attrs", .int 5)]
    ofJson v = .ok (.setFlowLog .enable) ∧
      ∃ b, v.block? = some b ∧ b.get? "create-attrs" = some (.int 5) ∧
        ¬ ∃ templates, IsAttributeList FlowLogTemplate.ofAttributes (.int 5) templates := by
  refine ⟨rfl, _, rfl, rfl, ?_⟩
  rintro ⟨templates, items, ⟨⟩, -⟩

end

end PolicyAction

end NetWarden
