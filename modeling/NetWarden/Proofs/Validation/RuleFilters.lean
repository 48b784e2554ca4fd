import NetWarden.Proofs.Bulk.Distinct
import NetWarden.Proofs.Validation.Checked
import NetWarden.RuleFilter

/-!
# The grammar of rule filters

Which values are filters of rules, and what each key of one says, put down without the checks: for
each kind of value a relation between a value and what it stands for (`RuleFilter.IsPort`,
`RuleFilter.IsProtocol` and so on), a table of the values that each key takes (`RuleFilter.Takes`),
and for a whole block what each field of its filter is (`RuleFilter.Reads`).

**The checks accept this grammar and nothing else**, and a field of the filter is what its own key
stands for, whatever the other keys hold (`RuleFilter.ofBlock_eq_ok_iff`). The keys are looked at
before the values: **a block with unknown keys is rejected for these, all of them and in order**,
however wrong the rest is.
-/

namespace NetWarden

open Checked

variable {α : Type}

/-! ### One value or a list -/

/-- A value that stands for a list: the value of one element, or a list of such values. -/
inductive OneOrMore (item : Json → α → Prop) : Json → List α → Prop
  /-- A single value is the list with its element. -/
  | one {v : Json} {a : α} : item v a → OneOrMore item v [a]
  /-- A list stands for its elements. -/
  | list {vs : List Json} {as : List α} : List.Forall₂ item vs as → OneOrMore item (.arr vs) as

theorem oneOrMore_eq_singleton {v : Json} (h : ∀ vs, v ≠ .arr vs) : oneOrMore v = [v] := by
  cases v with
  | arr vs => exact absurd rfl (h vs)
  | _ => rfl

/-- Two lists are related through a third one if their elements are related through an element. -/
theorem forall₂_comp_iff {β γ : Type} {r : α → β → Prop} {s : β → γ → Prop} {as : List α}
    {cs : List γ} :
    (∃ bs, List.Forall₂ r as bs ∧ List.Forall₂ s bs cs) ↔
      List.Forall₂ (fun a c ↦ ∃ b, r a b ∧ s b c) as cs := by
  constructor
  · rintro ⟨bs, hr, hs⟩
    induction hr generalizing cs with
    | nil =>
      cases hs
      exact .nil
    | cons hab _ ih =>
      cases hs with
      | cons hbc hs => exact .cons ⟨_, hab, hbc⟩ (ih hs)
  · -- the elements between are collected one by one
    intro h
    induction h with
    | nil => exact ⟨[], .nil, .nil⟩
    | cons hac _ ih =>
      obtain ⟨b, hab, hbc⟩ := hac
      obtain ⟨bs, hr, hs⟩ := ih
      exact ⟨b :: bs, .cons hab hr, .cons hbc hs⟩

/-- **One value or a list is checked as the grammar says**, if no element is itself a list. -/
theorem mapM_oneOrMore_eq_ok_iff {check : Json → Checked α} {item : Json → α → Prop}
    (hitem : ∀ v a, check v = .ok a ↔ item v a) (hlist : ∀ vs a, ¬ item (.arr vs) a) {v : Json}
    {as : List α} : (oneOrMore v).mapM check = .ok as ↔ OneOrMore item v as := by
  have hcheck : (fun v a ↦ check v = .ok a) = item := by
    funext v a
    exact propext (hitem v a)
  rw [mapM_eq_ok_iff, hcheck]
  constructor
  · intro h
    -- a list is checked item by item, and any other value as its only item
    by_cases hv : ∃ vs, v = .arr vs
    · obtain ⟨vs, rfl⟩ := hv
      exact .list h
    · rw [oneOrMore_eq_singleton fun vs hvs ↦ hv ⟨vs, hvs⟩, List.forall₂_cons_left_iff] at h
      obtain ⟨a, _, ha, ⟨⟩, rfl⟩ := h
      exact .one ha
  · rintro (ha | h)
    · rw [oneOrMore_eq_singleton fun vs hvs ↦ hlist vs _ (hvs ▸ ha)]
      exact .cons ha .nil
    · exact h

/-- Looking up what the elements stand for is looking up each of them. -/
theorem oneOrMore_comp_iff {β : Type} {item : Json → α → Prop} {r : α → β → Prop}
    {target : Json → β → Prop} (htarget : ∀ v b, (∃ a, item v a ∧ r a b) ↔ target v b) {v : Json}
    {bs : List β} :
    (∃ as, OneOrMore item v as ∧ List.Forall₂ r as bs) ↔ OneOrMore target v bs := by
  constructor
  · rintro ⟨as, hv | hvs, hr⟩
    · rw [List.forall₂_cons_left_iff] at hr
      obtain ⟨b, _, hb, ⟨⟩, rfl⟩ := hr
      exact .one ((htarget v b).mp ⟨_, hv, hb⟩)
    · exact .list ((forall₂_comp_iff.mp ⟨as, hvs, hr⟩).imp fun v b ↦ (htarget v b).mp)
  · rintro (hv | h)
    · obtain ⟨a, hv, hb⟩ := (htarget v _).mpr hv
      exact ⟨[a], .one hv, .cons hb .nil⟩
    · obtain ⟨as, hvs, hr⟩ := forall₂_comp_iff.mpr (h.imp fun v b ↦ (htarget v b).mpr)
      exact ⟨as, .list hvs, hr⟩

theorem found_eq_ok_iff {key : String} {expected : Shape} {got : Json} {o : Option α} {a : α} :
    found key expected got o = .ok a ↔ o = some a := by
  cases o <;> simp [found, wrong]

theorem required_eq_ok_iff {b : Block} {key : String} {on : BlockKind} {v : Json} :
    Block.required b key on = .ok v ↔ b.get? key = some v := by
  rw [Block.required]
  cases b.get? key <;> simp

/-- **What a key says is what its value stands for**; a key that is not there says nothing. -/
theorem optional_eq_ok_iff {b : Block} {key : String} {check : String → Json → Checked α}
    {means : Json → α → Prop} (hmeans : ∀ v a, check key v = .ok a ↔ means v a) {o : Option α} :
    Block.optional b key check = .ok o ↔ Option.Rel means (b.get? key) o := by
  rw [Block.optional]
  split
  · -- the key is there, and its value is checked
    rename_i v hv
    rw [hv, map_eq_ok_iff]
    constructor
    · rintro ⟨a, ha, rfl⟩
      exact .some ((hmeans v a).mp ha)
    · rintro (⟨ha⟩ | -)
      exact ⟨_, (hmeans v _).mpr ha, rfl⟩
  · -- the key is not there, and nothing is checked
    rename_i hnone
    rw [hnone]
    constructor
    · rintro ⟨⟩
      exact .none
    · rintro ⟨⟩
      rfl

/-- A key says something wherever its value stands for something. -/
theorem exists_rel_iff {β : Type} {means : β → α → Prop} {x : Option β} :
    (∃ o, Option.Rel means x o) ↔ ∀ v, x = some v → ∃ a, means v a := by
  constructor
  · rintro ⟨o, h⟩ v rfl
    obtain ⟨ha⟩ := h
    exact ⟨_, ha⟩
  · intro h
    cases x with
    | none => exact ⟨none, .none⟩
    | some v =>
      obtain ⟨a, ha⟩ := h v rfl
      exact ⟨some a, .some ha⟩

/-- What a key says is set just where the key is there. -/
theorem isSome_iff_of_rel {means : Json → α → Prop} {x : Option Json} {o : Option α}
    (h : Option.Rel means x o) : o.isSome = true ↔ ∃ w, x = some w := by
  cases h with
  | some _ => simp
  | none => simp

namespace RuleFilter

/-! ### What values stand for -/

/-- A text. -/
def IsText (v : Json) (s : String) : Prop := v = .str s

/-- A truth value. -/
def IsBoolean (v : Json) (b : Bool) : Prop := v = .bool b

/-- A whole number in its 64-bit bounds. -/
def IsInteger (v : Json) (n : Int64) : Prop := v = .int n.toInt

/-- A whole number from 0 to 65535. -/
def IsPort (v : Json) (p : PortNumber) : Prop := v = .int p.toNat

/-- The name of a direction. -/
inductive IsDirection : Json → Direction → Prop
  /-- The name for traffic that comes in. -/
  | ingress : IsDirection (.str "ingress") .ingress
  /-- The name for traffic that goes out. -/
  | egress : IsDirection (.str "egress") .egress

/-- The name of an operator. -/
inductive IsOperator : Json → MatchOperator → Prop
  /-- The name for all. -/
  | and : IsOperator (.str "and") .and
  /-- The name for one. -/
  | or : IsOperator (.str "or") .or

/-- The name of what a rule does. -/
inductive IsAction : Json → RuleAction → Prop
  /-- The name for traffic that may pass. -/
  | allow : IsAction (.str "allow") .allow
  /-- The name for traffic that is blocked. -/
  | deny : IsAction (.str "deny") .deny

/-- The name of a family of addresses, kept as it is written. -/
def IsEthertype (v : Json) (s : String) : Prop :=
  s ∈ ["IPv4", "IPv6", "ipv4", "ipv6"] ∧ v = .str s

/-- Addresses: any text, of which one is the mark for any, or that mark as a number. -/
inductive IsAddresses : Json → AddressCriterion → Prop
  /-- The mark as a text. -/
  | mark : IsAddresses (.str "-1") .unlimited
  /-- The mark as a number. -/
  | number : IsAddresses (.int (-1)) .unlimited
  /-- Any other text. -/
  | text {s : String} : s ≠ "-1" → IsAddresses (.str s) (.exactly s)

/-- A protocol: one of the names, or a number, which is kept as its numeral. -/
inductive IsProtocol : Json → String → Prop
  /-- A name. -/
  | named {s : String} : s ∈ ["-1", "tcp", "udp", "icmp", "icmpv6"] → IsProtocol (.str s) s
  /-- A number. -/
  | number (n : Int64) : IsProtocol (.int n.toInt) (Text.integer n.toInt)

/-- A list of protocols. A single one is not enough. -/
inductive IsProtocols : Json → List String → Prop
  /-- The list stands for its elements. -/
  | list {vs : List Json} {ps : List String} :
    List.Forall₂ IsProtocol vs ps → IsProtocols (.arr vs) ps

/-! ### The grammar -/

/-- The values that a key takes. -/
def Takes (key : String) (v : Json) : Prop :=
  match key with
  | "type" => ∃ d, IsDirection v d
  | "match-operator" => ∃ op, IsOperator v op
  | "RemoteIpPrefix" => ∃ c, IsAddresses v c
  | "Protocols" => ∃ ps, IsProtocols v ps
  | "InPorts" => ∃ ps, OneOrMore IsPort v ps
  | "NotInPorts" => ∃ ps, OneOrMore IsPort v ps
  | "SelfReference" => ∃ b, IsBoolean v b
  | "SGRuleIds" => ∃ ids, OneOrMore IsText v ids
  | "SecurityGroupIds" => ∃ ids, OneOrMore IsText v ids
  | "Descriptions" => ∃ ts, OneOrMore IsText v ts
  | "Ethertypes" => ∃ ts, OneOrMore IsEthertype v ts
  | "Priorities" => ∃ ns, OneOrMore IsInteger v ns
  | "Action" => ∃ as, OneOrMore IsAction v as
  | "SGReferenceIds" => ∃ ids, OneOrMore IsText v ids
  | "AGReferenceIds" => ∃ ids, OneOrMore IsText v ids
  | _ => False

/-- **What the filter of a block is, field by field**: what the value of the field's own key stands
for, and not set without that key. -/
structure Reads (b : Block) (f : RuleFilter) : Prop where
  /-- The direction must be stated. -/
  direction : ∃ v, b.get? "type" = some v ∧ IsDirection v f.direction
  /-- All must hold if the block does not say how to combine. -/
  operator : ∃ op, Option.Rel IsOperator (b.get? "match-operator") op ∧ f.operator = op.getD .and
  /-- The addresses. -/
  addresses : Option.Rel IsAddresses (b.get? "RemoteIpPrefix") f.addresses
  /-- The protocols. -/
  protocols : Option.Rel IsProtocols (b.get? "Protocols") f.protocols
  /-- The ports that must be open, none without the key. -/
  inPorts : ∃ ps, Option.Rel (OneOrMore IsPort) (b.get? "InPorts") ps ∧ f.inPorts = ps.getD []
  /-- The ports that must not be open, none without the key. -/
  notInPorts :
    ∃ ps, Option.Rel (OneOrMore IsPort) (b.get? "NotInPorts") ps ∧ f.notInPorts = ps.getD []
  /-- Whether the other end is the rule's own group. -/
  selfReference : Option.Rel IsBoolean (b.get? "SelfReference") f.selfReference
  /-- The ids of rules. -/
  ruleIds : Option.Rel (OneOrMore IsText) (b.get? "SGRuleIds") f.ruleIds
  /-- The ids of groups. -/
  groupIds : Option.Rel (OneOrMore IsText) (b.get? "SecurityGroupIds") f.groupIds
  /-- The descriptions. -/
  descriptions : Option.Rel (OneOrMore IsText) (b.get? "Descriptions") f.descriptions
  /-- The families of addresses. -/
  ethertypes : Option.Rel (OneOrMore IsEthertype) (b.get? "Ethertypes") f.ethertypes
  /-- The priorities. -/
  priorities : Option.Rel (OneOrMore IsInteger) (b.get? "Priorities") f.priorities
  /-- What the rules do. -/
  actions : Option.Rel (OneOrMore IsAction) (b.get? "Action") f.actions
  /-- The groups at the other end. -/
  remoteGroupIds : Option.Rel (OneOrMore IsText) (b.get? "SGReferenceIds") f.remoteGroupIds
  /-- The address groups at the other end. -/
  remoteAddressGroupIds :
    Option.Rel (OneOrMore IsText) (b.get? "AGReferenceIds") f.remoteAddressGroupIds

/-! ### The checks and the grammar -/

section

variable {key : String} {v : Json}

theorem text_eq_ok_iff {s : String} : text key v = .ok s ↔ IsText v s := by
  rw [text, found_eq_ok_iff]
  cases v <;> simp [Json.str?, IsText]

theorem boolean_eq_ok_iff {b : Bool} : boolean key v = .ok b ↔ IsBoolean v b := by
  rw [boolean, found_eq_ok_iff]
  cases v <;> simp [Json.bool?, IsBoolean]

theorem direction_named?_eq_some_iff {s : String} {d : Direction} :
    Direction.named? s = some d ↔ IsDirection (.str s) d := by
  constructor
  · intro h
    rw [Direction.named?] at h
    split_ifs at h with hin hout
    · cases h; subst hin; exact .ingress
    · cases h; subst hout; exact .egress
  · rintro ⟨⟩ <;> rfl

theorem operator_named?_eq_some_iff {s : String} {op : MatchOperator} :
    MatchOperator.named? s = some op ↔ IsOperator (.str s) op := by
  constructor
  · intro h
    rw [MatchOperator.named?] at h
    split_ifs at h with hand hor
    · cases h; subst hand; exact .and
    · cases h; subst hor; exact .or
  · rintro ⟨⟩ <;> rfl

theorem action_named?_eq_some_iff {s : String} {a : RuleAction} :
    RuleAction.named? s = some a ↔ IsAction (.str s) a := by
  constructor
  · intro h
    rw [RuleAction.named?] at h
    split_ifs at h with hallow hdeny
    · cases h; subst hallow; exact .allow
    · cases h; subst hdeny; exact .deny
  · rintro ⟨⟩ <;> rfl

theorem toInt64?_eq_some_iff {i : Int} {n : Int64} : Text.toInt64? i = some n ↔ i = n.toInt := by
  constructor
  · intro h
    rw [Text.toInt64?] at h
    split at h
    · rename_i hbounds
      cases h
      exact (Int64.toInt_ofInt_of_le hbounds.1 (Int.lt_of_le_of_lt hbounds.2 (by decide))).symm
    · cases h
  · rintro rfl
    exact Text.toInt64?_toInt n

theorem integer_eq_ok_iff {n : Int64} : integer key v = .ok n ↔ IsInteger v n := by
  rw [integer, found_eq_ok_iff, int64?]
  cases v <;> simp [Json.int?, IsInteger, toInt64?_eq_some_iff]

theorem texts_eq_ok_iff {ts : List String} : texts key v = .ok ts ↔ OneOrMore IsText v ts :=
  mapM_oneOrMore_eq_ok_iff (fun _ _ ↦ text_eq_ok_iff) fun _ _ h ↦ by cases h

theorem integers_eq_ok_iff {ns : List Int64} :
    integers key v = .ok ns ↔ OneOrMore IsInteger v ns :=
  mapM_oneOrMore_eq_ok_iff (fun _ _ ↦ integer_eq_ok_iff) fun _ _ h ↦ by cases h

theorem port?_eq_some_iff {p : PortNumber} : port? v = some p ↔ IsPort v p := by
  cases v with
  | int i =>
    rw [IsPort, Json.int.injEq]
    constructor
    · intro h
      obtain ⟨hbounds, rfl⟩ : (0 ≤ i ∧ i ≤ 65535) ∧ UInt16.ofNat i.toNat = p := by
        simpa [port?, Json.int?] using h
      rw [UInt16.toNat_ofNat_of_lt' (by simp; omega), Int.toNat_of_nonneg hbounds.1]
    · rintro rfl
      have hp : p.toNat < 65536 := p.toNat_lt
      simp [port?, Json.int?]
      omega
  | _ => simp [port?, Json.int?, IsPort]

theorem checkPorts_eq_ok_iff {ps : List PortNumber} :
    checkPorts key v = .ok ps ↔ OneOrMore IsPort v ps :=
  mapM_oneOrMore_eq_ok_iff (fun _ _ ↦ found_eq_ok_iff.trans port?_eq_some_iff)
    fun _ _ h ↦ by cases h

theorem checkOperator_eq_ok_iff {op : MatchOperator} :
    checkOperator key v = .ok op ↔ IsOperator v op := by
  rw [checkOperator, bind_eq_ok_iff]
  simp only [text_eq_ok_iff]
  constructor
  · rintro ⟨s, rfl, h⟩
    split at h
    · rename_i hs
      cases h
      exact operator_named?_eq_some_iff.mp hs
    · cases h
  · rintro (⟨⟩ | ⟨⟩)
    · exact ⟨"and", rfl, rfl⟩
    · exact ⟨"or", rfl, rfl⟩

theorem checkAddresses_eq_ok_iff {c : AddressCriterion} :
    checkAddresses key v = .ok c ↔ IsAddresses v c := by
  constructor
  · intro h
    cases v with
    -- any text will do, and one of them is the mark for all addresses
    | str s =>
      obtain rfl : (if s = "-1" then .unlimited else .exactly s) = c := Except.ok.inj h
      split
      · rename_i hs
        subst hs
        exact .mark
      · rename_i hs
        exact .text hs
    -- of the numbers only the mark will do
    | int i =>
      simp only [checkAddresses, Json.int?, Option.some.injEq] at h
      split at h
      · rename_i hi
        cases h
        subst hi
        exact .number
      · cases h
    | _ => cases h
  · rintro (- | - | hs)
    · rfl
    · rfl
    · exact congrArg Except.ok (if_neg hs)

theorem checkProtocol_eq_ok_iff {p : String} : checkProtocol key v = .ok p ↔ IsProtocol v p := by
  -- whatever is no text must be a number of 64 bits
  have hint {w : Json} : (do return Text.integer (← Checked.integer key w).toInt) = Except.ok p ↔
      ∃ n : Int64, w = .int n.toInt ∧ Text.integer n.toInt = p := by
    simp only [bind_eq_ok_iff, integer_eq_ok_iff, IsInteger, pure, Except.pure, Except.ok.injEq]
  cases v with
  | str s =>
    constructor
    · intro h
      rw [checkProtocol] at h
      split at h
      · rename_i hs
        cases h
        exact .named (List.contains_iff_mem.mp hs)
      · cases h
    · rintro ⟨hs⟩
      exact if_pos (List.contains_iff_mem.mpr hs)
  | int i =>
    refine hint.trans ⟨?_, ?_⟩
    · rintro ⟨n, hi, rfl⟩
      cases hi
      exact .number n
    · rintro ⟨⟩
      exact ⟨_, rfl, rfl⟩
  | float x =>
    refine hint.trans ⟨?_, ?_⟩
    · rintro ⟨n, hx, -⟩
      cases hx
    · rintro ⟨⟩
  | _ =>
    refine ⟨fun h ↦ ?_, fun h ↦ ?_⟩ <;> cases h

theorem checkProtocols_eq_ok_iff {ps : List String} :
    checkProtocols key v = .ok ps ↔ IsProtocols v ps := by
  rw [checkProtocols, bind_eq_ok_iff]
  simp only [found_eq_ok_iff, mapM_eq_ok_iff, checkProtocol_eq_ok_iff]
  constructor
  · rintro ⟨vs, hv, h⟩
    cases v <;> cases hv
    exact .list h
  · rintro ⟨h⟩
    exact ⟨_, rfl, h⟩

theorem checkEthertypes_eq_ok_iff {ts : List String} :
    checkEthertypes key v = .ok ts ↔ OneOrMore IsEthertype v ts := by
  rw [checkEthertypes, bind_eq_ok_iff]
  refine (exists_congr fun names ↦ and_congr texts_eq_ok_iff ?_).trans
    (oneOrMore_comp_iff (r := fun n t ↦ n ∈ ethertypeNames ∧ n = t) fun w t ↦ ⟨?_, ?_⟩)
  · -- the names are looked through for one that is unknown
    rw [List.forall₂_and_left, List.forall₂_eq_eq_eq]
    split
    · rename_i n hn
      have hunknown : n ∉ ethertypeNames := by simpa using List.find?_some hn
      simp only [reduceCtorEq, false_iff, not_and]
      exact fun hall ↦ absurd (hall n (List.mem_of_find?_eq_some hn)) hunknown
    · rename_i hnone
      have hall : ∀ n ∈ names, n ∈ ethertypeNames := by simpa using hnone
      simp only [Except.ok.injEq, iff_and_self]
      exact fun _ ↦ hall
  · rintro ⟨n, hw, hn, rfl⟩
    exact ⟨hn, hw⟩
  · rintro ⟨ht, hw⟩
    exact ⟨t, hw, ht, rfl⟩

theorem parse_action_eq_ok_iff {s : String} {a : RuleAction} :
    RuleAction.parse s = .ok a ↔ IsAction (.str s) a := by
  rw [RuleAction.parse, ← action_named?_eq_some_iff]
  cases RuleAction.named? s <;> simp

theorem checkActions_eq_ok_iff {as : List RuleAction} :
    checkActions key v = .ok as ↔ OneOrMore IsAction v as := by
  rw [checkActions, bind_eq_ok_iff]
  simp only [texts_eq_ok_iff, mapM_eq_ok_iff, parse_action_eq_ok_iff]
  refine oneOrMore_comp_iff fun w a ↦ ⟨?_, fun hw ↦ ?_⟩
  · rintro ⟨s, rfl, ha⟩
    exact ha
  · cases hw with
    | allow => exact ⟨"allow", rfl, .allow⟩
    | deny => exact ⟨"deny", rfl, .deny⟩

end

theorem parse_direction_eq_ok_iff {s : String} {d : Direction} :
    Direction.parse s = .ok d ↔ IsDirection (.str s) d := by
  rw [Direction.parse, ← direction_named?_eq_some_iff]
  cases Direction.named? s <;> simp

theorem checkDirection_eq_ok_iff {b : Block} {d : Direction} :
    checkDirection b = .ok d ↔ ∃ v, b.get? "type" = some v ∧ IsDirection v d := by
  simp only [checkDirection, bind_eq_ok_iff, required_eq_ok_iff, text_eq_ok_iff,
    parse_direction_eq_ok_iff]
  constructor
  · rintro ⟨v, hv, s, rfl, hd⟩
    exact ⟨_, hv, hd⟩
  · rintro ⟨v, hv, hd⟩
    cases hd with
    | ingress => exact ⟨_, hv, "ingress", rfl, .ingress⟩
    | egress => exact ⟨_, hv, "egress", rfl, .egress⟩

/-! ### Unknown keys -/

/-- **The keys told as unknown are those of the block that are not allowed.** -/
theorem mem_unknownKeys_iff {b : Block} {allowed : List String} {k : String} :
    k ∈ b.unknownKeys allowed ↔ k ∉ allowed ∧ ∃ w, b.get? k = some w := by
  rw [Block.unknownKeys, List.mem_filter, Dictionary.mem_keys_iff, and_comm]
  simp

/-- **They are told in order, each once.** -/
theorem sorted_unknownKeys (b : Block) (allowed : List String) :
    (b.unknownKeys allowed).Pairwise (· < ·) :=
  (List.pairwise_map.mpr b.sorted).filter _

theorem unknownKeys_eq_nil_iff {b : Block} {allowed : List String} :
    b.unknownKeys allowed = [] ↔ ∀ k w, b.get? k = some w → k ∈ allowed := by
  rw [List.eq_nil_iff_forall_not_mem]
  refine forall_congr' fun k ↦ ?_
  rw [mem_unknownKeys_iff, not_and', not_not, forall_exists_index]

theorem allowOnly_eq_ok_iff {b : Block} {allowed : List String} {on : BlockKind} {u : Unit} :
    b.allowOnly allowed on = .ok u ↔ ∀ k w, b.get? k = some w → k ∈ allowed := by
  rw [← unknownKeys_eq_nil_iff, Block.allowOnly]
  split <;> simp_all

/-! ### Whole blocks -/

/-- **A filter is what its block says, key by key.** -/
theorem ofBlock_eq_ok_iff {b : Block} {f : RuleFilter} :
    ofBlock b = .ok f ↔ (∀ k w, b.get? k = some w → k ∈ keys) ∧ Reads b f := by
  simp only [ofBlock, bind_eq_ok_iff, exists_const, allowOnly_eq_ok_iff, checkDirection_eq_ok_iff,
    optional_eq_ok_iff fun _ _ ↦ texts_eq_ok_iff,
    optional_eq_ok_iff fun _ _ ↦ checkActions_eq_ok_iff,
    optional_eq_ok_iff fun _ _ ↦ checkEthertypes_eq_ok_iff,
    optional_eq_ok_iff fun _ _ ↦ checkPorts_eq_ok_iff,
    optional_eq_ok_iff fun _ _ ↦ integers_eq_ok_iff,
    optional_eq_ok_iff fun _ _ ↦ checkProtocols_eq_ok_iff,
    optional_eq_ok_iff fun _ _ ↦ checkAddresses_eq_ok_iff,
    optional_eq_ok_iff fun _ _ ↦ boolean_eq_ok_iff,
    optional_eq_ok_iff fun _ _ ↦ checkOperator_eq_ok_iff]
  -- the checks go by the order of the keys, the fields by that of the record
  refine and_congr_right fun _ ↦ ⟨?_, ?_⟩
  · rintro ⟨d, hd, ag, hag, as, has, ds, hds, es, hes, ip, hip, np, hnp, ns, hns, ps, hps, ad, had,
      sg, hsg, ri, hri, gi, hgi, sr, hsr, op, hop, h⟩
    cases h
    exact ⟨hd, ⟨op, hop, rfl⟩, had, hps, ⟨ip, hip, rfl⟩, ⟨np, hnp, rfl⟩, hsr, hri, hgi, hds, hes,
      hns, has, hsg, hag⟩
  · rintro ⟨hd, ⟨op, hop, hop'⟩, had, hps, ⟨ip, hip, hip'⟩, ⟨np, hnp, hnp'⟩, hsr, hri, hgi, hds,
      hes, hns, has, hsg, hag⟩
    refine ⟨_, hd, _, hag, _, has, _, hds, _, hes, _, hip, _, hnp, _, hns, _, hps, _, had, _, hsg,
      _, hri, _, hgi, _, hsr, _, hop, ?_⟩
    rw [← hop', ← hip', ← hnp']
    rfl

/-- **A block has a filter if each of its keys takes its value**, and a direction is stated. -/
theorem exists_reads_iff {b : Block} :
    (∃ f, Reads b f) ↔
      (∃ w, b.get? "type" = some w) ∧ ∀ k ∈ keys, ∀ w, b.get? k = some w → Takes k w := by
  constructor
  · rintro ⟨f, h⟩
    obtain ⟨v, hv, hd⟩ := h.direction
    obtain ⟨op, hop, -⟩ := h.operator
    obtain ⟨ip, hip, -⟩ := h.inPorts
    obtain ⟨np, hnp, -⟩ := h.notInPorts
    -- a key takes its value if it reads as something, key by key
    have htype : Option.Rel IsDirection (b.get? "type") (some f.direction) := hv ▸ .some hd
    refine ⟨⟨v, hv⟩, ?_⟩
    simp only [keys, List.forall_mem_cons, List.not_mem_nil, false_imp_iff, implies_true, and_true]
    exact ⟨exists_rel_iff.mp ⟨_, htype⟩, exists_rel_iff.mp ⟨_, hop⟩,
      exists_rel_iff.mp ⟨_, h.addresses⟩, exists_rel_iff.mp ⟨_, h.protocols⟩,
      exists_rel_iff.mp ⟨_, hip⟩, exists_rel_iff.mp ⟨_, hnp⟩,
      exists_rel_iff.mp ⟨_, h.selfReference⟩, exists_rel_iff.mp ⟨_, h.ruleIds⟩,
      exists_rel_iff.mp ⟨_, h.groupIds⟩, exists_rel_iff.mp ⟨_, h.descriptions⟩,
      exists_rel_iff.mp ⟨_, h.ethertypes⟩, exists_rel_iff.mp ⟨_, h.priorities⟩,
      exists_rel_iff.mp ⟨_, h.actions⟩, exists_rel_iff.mp ⟨_, h.remoteGroupIds⟩,
      exists_rel_iff.mp ⟨_, h.remoteAddressGroupIds⟩⟩
  · rintro ⟨⟨v, hv⟩, h⟩
    -- and what each key stands for makes up the filter
    have stands (k : String) {β : Type} (means : Json → β → Prop) (hk : k ∈ keys)
        (htakes : Takes k = fun w ↦ ∃ a, means w a) : ∃ o, Option.Rel means (b.get? k) o :=
      exists_rel_iff.mpr fun w hw ↦ (congrFun htakes w).mp (h k hk w hw)
    obtain ⟨d, hd⟩ : ∃ d, IsDirection v d := h "type" (by decide) v hv
    obtain ⟨op, hop⟩ := stands "match-operator" IsOperator (by decide) rfl
    obtain ⟨ad, had⟩ := stands "RemoteIpPrefix" IsAddresses (by decide) rfl
    obtain ⟨ps, hps⟩ := stands "Protocols" IsProtocols (by decide) rfl
    obtain ⟨ip, hip⟩ := stands "InPorts" (OneOrMore IsPort) (by decide) rfl
    obtain ⟨np, hnp⟩ := stands "NotInPorts" (OneOrMore IsPort) (by decide) rfl
    obtain ⟨sr, hsr⟩ := stands "SelfReference" IsBoolean (by decide) rfl
    obtain ⟨ri, hri⟩ := stands "SGRuleIds" (OneOrMore IsText) (by decide) rfl
    obtain ⟨gi, hgi⟩ := stands "SecurityGroupIds" (OneOrMore IsText) (by decide) rfl
    obtain ⟨ds, hds⟩ := stands "Descriptions" (OneOrMore IsText) (by decide) rfl
    obtain ⟨es, hes⟩ := stands "Ethertypes" (OneOrMore IsEthertype) (by decide) rfl
    obtain ⟨ns, hns⟩ := stands "Priorities" (OneOrMore IsInteger) (by decide) rfl
    obtain ⟨as, has⟩ := stands "Action" (OneOrMore IsAction) (by decide) rfl
    obtain ⟨sg, hsg⟩ := stands "SGReferenceIds" (OneOrMore IsText) (by decide) rfl
    obtain ⟨ag, hag⟩ := stands "AGReferenceIds" (OneOrMore IsText) (by decide) rfl
    exact ⟨⟨d, op.getD .and, ad, ps, ip.getD [], np.getD [], sr, ri, gi, ds, es, ns, as, sg, ag⟩,
      ⟨v, hv, hd⟩, ⟨op, hop, rfl⟩, had, hps, ⟨ip, hip, rfl⟩, ⟨np, hnp, rfl⟩, hsr, hri, hgi, hds,
      hes, hns, has, hsg, hag⟩

/-- The filter of a value is the filter of its block. -/
theorem ofJson_eq_ok_iff {v : Json} {f : RuleFilter} :
    ofJson v = .ok f ↔
      ∃ b, v.block? = some b ∧ (∀ k w, b.get? k = some w → k ∈ keys) ∧ Reads b f := by
  simp only [ofJson, bind_eq_ok_iff, found_eq_ok_iff, ofBlock_eq_ok_iff]

/-- **The checks accept the grammar of rule filters and nothing else**: a block of known keys with a
direction, each key with a value that it takes. The filter has in each field what the value of its
own key stands for, whatever the other keys hold. Unknown keys are the first fault to be told, all
of them in code-point order, whatever else is wrong. -/
theorem ofJson_grammar (v : Json) :
    ((∃ f, ofJson v = .ok f) ↔
        ∃ b, v.block? = some b ∧ (∃ w, b.get? "type" = some w) ∧
          ∀ k w, b.get? k = some w → k ∈ keys ∧ Takes k w) ∧
      (∀ f, ofJson v = .ok f ↔
        ∃ b, v.block? = some b ∧ (∀ k w, b.get? k = some w → k ∈ keys) ∧ Reads b f) ∧
      ∀ b, v.block? = some b → (∃ k w, b.get? k = some w ∧ k ∉ keys) →
        ∃ unknown, ofJson v = .error (.unknownKeys unknown (blockKind b)) ∧
          unknown.Pairwise (· < ·) ∧ ∀ k, k ∈ unknown ↔ k ∉ keys ∧ ∃ w, b.get? k = some w := by
  refine ⟨?_, fun f ↦ ofJson_eq_ok_iff, ?_⟩
  · constructor
    · rintro ⟨f, hf⟩
      obtain ⟨b, hb, hknown, hreads⟩ := ofJson_eq_ok_iff.mp hf
      obtain ⟨htype, htakes⟩ := exists_reads_iff.mp ⟨f, hreads⟩
      exact ⟨b, hb, htype, fun k w hw ↦ ⟨hknown k w hw, htakes k (hknown k w hw) w hw⟩⟩
    · rintro ⟨b, hb, htype, h⟩
      obtain ⟨f, hreads⟩ := exists_reads_iff.mpr ⟨htype, fun k _ w hw ↦ (h k w hw).2⟩
      exact ⟨f, ofJson_eq_ok_iff.mpr ⟨b, hb, fun k w hw ↦ (h k w hw).1, hreads⟩⟩
  · rintro b hb ⟨k, w, hw, hk⟩
    -- an unknown key ends the check before any value is looked at
    have hmem : k ∈ b.unknownKeys keys := mem_unknownKeys_iff.mpr ⟨hk, w, hw⟩
    refine ⟨b.unknownKeys keys, ?_, sorted_unknownKeys b keys, fun k ↦ mem_unknownKeys_iff⟩
    have hallow : b.allowOnly keys (blockKind b) =
        .error (.unknownKeys (b.unknownKeys keys) (blockKind b)) := by
      rw [Block.allowOnly]
      split
      · rename_i hnil
        exact absurd (hnil ▸ hmem) List.not_mem_nil
      · rfl
    rw [ofJson, hb]
    show ofBlock b = _
    rw [ofBlock, hallow]
    rfl

/-- A port out of its bounds is not told where keys are unknown, and these are told in order. -/
example : ofJson (.obj [("type", .str "ingress"), ("Port", .null), ("InPorts", .int 65536),
    ("Direction", .str "egress")]) =
    .error (.unknownKeys ["Direction", "Port"] (.ruleFilter (some "ingress"))) := by
  rfl

end RuleFilter

end NetWarden
