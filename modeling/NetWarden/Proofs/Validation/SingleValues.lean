import NetWarden.Proofs.Validation.RuleFilters

/-!
# Single values for lists

Most keys of a filter block take a list, and a value that is no list stands for the list with that
value. **The block with the one is the block with the other**: the filter is the same, and so is
what is told if there is none (`RuleFilter.ofBlock_insert_singleton`). Nothing is asked of the rest
of the block, because each key is read on its own.

The protocols are the exception: **a single protocol is refused where the list with it is taken**
(`RuleFilter.single_values_as_lists`).
-/

namespace NetWarden

open Checked

variable {α : Type}

namespace RuleFilter

/-- The keys that take a list of values. -/
def listKeys : List String :=
  ["Protocols", "InPorts", "NotInPorts", "SGRuleIds", "SecurityGroupIds", "Descriptions",
    "Ethertypes", "Priorities", "Action", "SGReferenceIds", "AGReferenceIds"]

/-! ### Checks of items -/

/-- A check looks at the items of a value, and not at whether they stand in a list. -/
def ChecksItems (check : String → Json → Checked α) : Prop :=
  ∀ key v w, oneOrMore v = oneOrMore w → check key v = check key w

theorem checksItems_texts : ChecksItems texts := by
  intro key v w h
  rw [texts, texts, h]

theorem checksItems_integers : ChecksItems integers := by
  intro key v w h
  rw [integers, integers, h]

theorem checksItems_checkPorts : ChecksItems checkPorts := by
  intro key v w h
  rw [checkPorts, checkPorts, h]

theorem checksItems_checkEthertypes : ChecksItems checkEthertypes := by
  intro key v w h
  rw [checkEthertypes, checkEthertypes, checksItems_texts key v w h]

theorem checksItems_checkActions : ChecksItems checkActions := by
  intro key v w h
  rw [checkActions, checkActions, checksItems_texts key v w h]

/-! ### One value in place of another -/

section

variable (b : Block) {key : String} {v w : Json}

/-- A key says the same of two values if its check does, and another key says nothing of them. -/
theorem optional_insert_congr {check : String → Json → Checked α} (k : String)
    (h : k = key → check k v = check k w) :
    Block.optional (b.insert key v) k check = Block.optional (b.insert key w) k check := by
  rw [Block.optional, Block.optional, Dictionary.get?_insert, Dictionary.get?_insert]
  by_cases hk : k = key
  · simp only [if_pos hk, h hk]
  · simp only [if_neg hk]

/-- A list is read as its items are, whatever else is in the block. -/
theorem optional_insert_of_checksItems {check : String → Json → Checked α}
    (hcheck : ChecksItems check) (h : oneOrMore v = oneOrMore w) (k : String) :
    Block.optional (b.insert key v) k check = Block.optional (b.insert key w) k check :=
  optional_insert_congr b k fun _ ↦ hcheck k v w h

/-- A key that has nothing to do with the values says nothing of them. -/
theorem optional_insert_of_ne {check : String → Json → Checked α} {k : String} (h : k ≠ key) :
    Block.optional (b.insert key v) k check = Block.optional (b.insert key w) k check :=
  optional_insert_congr b k fun hk ↦ absurd hk h

/-- What is told about unknown keys does not hang on the values of other keys than the type. -/
theorem allowOnly_insert_congr (h : "type" ≠ key) (allowed : List String) :
    Block.allowOnly (b.insert key v) allowed (blockKind (b.insert key v)) =
      Block.allowOnly (b.insert key w) allowed (blockKind (b.insert key w)) := by
  rw [Block.allowOnly, Block.allowOnly, Block.unknownKeys, Block.unknownKeys, blockKind, blockKind,
    Dictionary.keys_insert_congr b key v w, Dictionary.get?_insert, Dictionary.get?_insert,
    if_neg h, if_neg h]

theorem checkDirection_insert_congr (h : "type" ≠ key) :
    checkDirection (b.insert key v) = checkDirection (b.insert key w) := by
  rw [checkDirection, checkDirection, Block.required, Block.required, Dictionary.get?_insert,
    Dictionary.get?_insert, if_neg h, if_neg h]

/-- **A list with one value is read as the value alone**, be the block a filter or not. -/
theorem ofBlock_insert_singleton (hkey : key ∈ listKeys) (hne : key ≠ "Protocols")
    (hv : ∀ vs, v ≠ .arr vs) :
    ofBlock (b.insert key v) = ofBlock (b.insert key (.arr [v])) := by
  -- both blocks give every check the same items, or do not concern it
  have hitems : oneOrMore v = oneOrMore (.arr [v]) := oneOrMore_eq_singleton hv
  have hother {k : String} (hk : k ∉ listKeys) : k ≠ key := fun heq ↦ hk (heq ▸ hkey)
  rw [ofBlock, ofBlock, allowOnly_insert_congr b (hother (by decide)),
    checkDirection_insert_congr b (hother (by decide)),
    optional_insert_of_checksItems b checksItems_texts hitems "AGReferenceIds",
    optional_insert_of_checksItems b checksItems_checkActions hitems,
    optional_insert_of_checksItems b checksItems_texts hitems "Descriptions",
    optional_insert_of_checksItems b checksItems_checkEthertypes hitems,
    optional_insert_of_checksItems b checksItems_checkPorts hitems "InPorts",
    optional_insert_of_checksItems b checksItems_checkPorts hitems "NotInPorts",
    optional_insert_of_checksItems b checksItems_integers hitems,
    optional_insert_of_ne b hne.symm,
    optional_insert_of_ne b (hother (k := "RemoteIpPrefix") (by decide)),
    optional_insert_of_checksItems b checksItems_texts hitems "SGReferenceIds",
    optional_insert_of_checksItems b checksItems_texts hitems "SGRuleIds",
    optional_insert_of_checksItems b checksItems_texts hitems "SecurityGroupIds",
    optional_insert_of_ne b (hother (k := "SelfReference") (by decide)),
    optional_insert_of_ne b (hother (k := "match-operator") (by decide))]

/-- **A single protocol is refused**, whatever else is in the block. -/
theorem ofBlock_insert_protocol_ne_ok (hv : ∀ vs, v ≠ .arr vs) (f : RuleFilter) :
    ofBlock (b.insert "Protocols" v) ≠ .ok f := by
  intro h
  have hprotocols := (ofBlock_eq_ok_iff.mp h).2.protocols
  rw [Dictionary.get?_insert, if_pos rfl] at hprotocols
  obtain ⟨ps, hps⟩ := exists_rel_iff.mp ⟨_, hprotocols⟩ v rfl
  cases hps
  exact hv _ rfl

/-- A block has a filter if it states a direction and each of its keys takes its value. -/
theorem exists_ofBlock_iff : (∃ f, ofBlock b = .ok f) ↔
    (∃ w, b.get? "type" = some w) ∧ ∀ k w, b.get? k = some w → k ∈ keys ∧ Takes k w := by
  simp only [ofBlock_eq_ok_iff, exists_and_left, exists_reads_iff]
  constructor
  · rintro ⟨hknown, htype, htakes⟩
    exact ⟨htype, fun k w hw ↦ ⟨hknown k w hw, htakes k (hknown k w hw) w hw⟩⟩
  · rintro ⟨htype, h⟩
    exact ⟨fun k w hw ↦ (h k w hw).1, htype, fun k _ w hw ↦ (h k w hw).2⟩

theorem takes_protocols_singleton_iff : Takes "Protocols" (.arr [v]) ↔ ∃ p, IsProtocol v p := by
  constructor
  · rintro ⟨ps, hps⟩
    cases hps with
    | list h =>
      obtain ⟨p, -, hp, -, -⟩ := List.forall₂_cons_left_iff.mp h
      exact ⟨p, hp⟩
  · rintro ⟨p, hp⟩
    exact ⟨[p], .list (.cons hp .nil)⟩

/-- **A list with one protocol is taken** if the protocol is one and the rest is a filter. -/
theorem exists_ofBlock_insert_protocols_iff (hnone : b.get? "Protocols" = none) :
    (∃ f, ofBlock (b.insert "Protocols" (.arr [v])) = .ok f) ↔
      (∃ p, IsProtocol v p) ∧ ∃ f, ofBlock b = .ok f := by
  have htype : (b.insert "Protocols" (.arr [v])).get? "type" = b.get? "type" := by
    rw [Dictionary.get?_insert, if_neg (by decide)]
  have hkey : "Protocols" ∈ keys := by decide
  rw [exists_ofBlock_iff, exists_ofBlock_iff, htype, Dictionary.forall_get?_insert_iff hnone,
    takes_protocols_singleton_iff, and_iff_right hkey, and_left_comm]

end

/-- **A single value stands for the list with it**, for every key that takes a list but one. There
the filter is the same, or the same fault is told. Protocols must stand in a list: a single one is
always refused, while the list with it is taken if it is a protocol and the rest is a filter. -/
theorem single_values_as_lists (b : Block) {key : String} {v : Json} (hkey : key ∈ listKeys)
    (hv : ∀ vs, v ≠ .arr vs) :
    (key ≠ "Protocols" → ofBlock (b.insert key v) = ofBlock (b.insert key (.arr [v]))) ∧
      (key = "Protocols" →
        (∀ f, ofBlock (b.insert key v) ≠ .ok f) ∧
          (b.get? key = none →
            ((∃ f, ofBlock (b.insert key (.arr [v])) = .ok f) ↔
              (∃ p, IsProtocol v p) ∧ ∃ f, ofBlock b = .ok f))) := by
  refine ⟨fun hne ↦ ofBlock_insert_singleton b hkey hne hv, ?_⟩
  rintro rfl
  exact ⟨ofBlock_insert_protocol_ne_ok b hv, exists_ofBlock_insert_protocols_iff b⟩

/-- A priority that is none is told alike in a list; a protocol is refused but in a list. -/
theorem single_values_as_lists_icmp :
    let b : Block := Dictionary.ofList [("type", .str "egress"), ("InPorts", .int 22)]
    "Priorities" ∈ listKeys ∧ (∀ vs, Json.bool true ≠ .arr vs) ∧
      ofBlock (b.insert "Priorities" (.bool true)) =
        ofBlock (b.insert "Priorities" (.arr [.bool true])) ∧
      "Protocols" ∈ listKeys ∧ (∀ vs, Json.str "icmp" ≠ .arr vs) ∧
      (∀ f, ofBlock (b.insert "Protocols" (.str "icmp")) ≠ .ok f) ∧
      ∃ f, ofBlock (b.insert "Protocols" (.arr [.str "icmp"])) = .ok f := by
  intro b
  have hpriorities : "Priorities" ∈ listKeys := by decide
  have hprotocols : "Protocols" ∈ listKeys := by decide
  have hrefused := (single_values_as_lists b hprotocols (v := .str "icmp") nofun).2 rfl
  have hprotocol : ∃ p, IsProtocol (.str "icmp") p := ⟨"icmp", .named (by decide)⟩
  exact ⟨hpriorities, nofun,
    (single_values_as_lists b hpriorities (v := .bool true) nofun).1 (by decide), hprotocols,
    nofun, hrefused.1, (hrefused.2 rfl).mpr ⟨hprotocol, _, rfl⟩⟩

/-- **A single protocol is not the list with it.** -/
theorem single_protocol_refused :
    let b : Block := Dictionary.ofList [("type", .str "ingress"), ("Protocols", .str "tcp")]
    "Protocols" ∈ listKeys ∧ b.get? "Protocols" = some (.str "tcp") ∧
      ofBlock b = .error (.invalidValue "Protocols" (.shape .list (.str "tcp"))) ∧
      ofBlock (b.insert "Protocols" (.arr [.str "tcp"])) =
        .ok { direction := .ingress, protocols := some ["tcp"] } :=
  ⟨by decide, rfl, rfl, rfl⟩

end RuleFilter

end NetWarden
