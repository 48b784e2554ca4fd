import NetWarden.Proofs.Text.Numerals
import NetWarden.Proofs.Validation.RuleFilters
import NetWarden.Removal
import NetWarden.RuleTemplate

/-!
# The attributes of rules

A new rule is described by attributes, and so are rules to look for. Most attributes are texts. A
priority is a number, which may also be written as a text (`IsWrittenInteger`), and the ports of a
new rule may be a number, which is kept as its numeral (`RuleTemplate.IsPorts`).

`RuleTemplate.Reads` and `RuleQuery.Reads` say what the fields of a template and of a query are:
each is what the value of its own attribute stands for. **The checks accept blocks of known
attributes with such values and nothing else** (`RuleTemplate.ofAttributes_eq_ok_iff`,
`RuleQuery.ofAttributes_eq_ok_iff`). A template needs one attribute, an entry of a removal two; a
query alone needs none.
-/

namespace NetWarden

open Checked RuleFilter

/-! ### What values stand for -/

/-- A whole number in its 64-bit bounds, or a text that writes one, with or without blanks around
it. -/
inductive IsWrittenInteger : Json → Int64 → Prop
  /-- The number itself. -/
  | number (n : Int64) : IsWrittenInteger (.int n.toInt) n
  /-- A numeral. -/
  | text {s : String} {n : Int64} :
    Text.IsSignedNumeral (Text.trimChars s.toList) n.toInt → IsWrittenInteger (.str s) n

/-- Ports: a text, kept as it is, or a number, which is kept as its numeral. -/
inductive RuleTemplate.IsPorts : Json → String → Prop
  /-- A text. -/
  | text (s : String) : IsPorts (.str s) s
  /-- A number. -/
  | number (n : Int64) : IsPorts (.int n.toInt) (Text.integer n.toInt)

section

variable {key : String} {v : Json}

theorem writtenInteger_eq_ok_iff {n : Int64} :
    writtenInteger key v = .ok n ↔ IsWrittenInteger v n := by
  rw [writtenInteger.eq_def, found_eq_ok_iff]
  -- a number stands for itself if it fits 64 bits
  have hnumber {w : Json} : int64? w = some n ↔ w = .int n.toInt := by
    rw [int64?]
    cases w <;> simp [Json.int?, toInt64?_eq_some_iff]
  constructor
  · intro h
    split at h
    · obtain ⟨i, hi, hn⟩ := Option.bind_eq_some_iff.mp h
      rw [toInt64?_eq_some_iff] at hn
      exact .text (hn ▸ Text.integer?_eq_some_iff.mp hi)
    · rw [hnumber.mp h]
      exact .number n
  · rintro (_ | h)
    · exact hnumber.mpr rfl
    · exact Option.bind_eq_some_iff.mpr
        ⟨_, Text.integer?_eq_some_iff.mpr h, toInt64?_eq_some_iff.mpr rfl⟩

/-- A value writes one number at most. -/
theorem IsWrittenInteger.unique {m n : Int64} (hm : IsWrittenInteger v m)
    (hn : IsWrittenInteger v n) : m = n :=
  have hcheck : writtenInteger "priority" v = .ok m := writtenInteger_eq_ok_iff.mpr hm
  Except.ok.inj (hcheck.symm.trans (writtenInteger_eq_ok_iff.mpr hn))

theorem checkAction_eq_ok_iff {a : RuleAction} : RuleAction.check key v = .ok a ↔ IsAction v a := by
  rw [RuleAction.check, bind_eq_ok_iff]
  simp only [text_eq_ok_iff, parse_action_eq_ok_iff]
  constructor
  · rintro ⟨s, rfl, ha⟩
    exact ha
  · rintro (- | -)
    · exact ⟨"allow", rfl, .allow⟩
    · exact ⟨"deny", rfl, .deny⟩

theorem RuleTemplate.checkPorts_eq_ok_iff {s : String} :
    RuleTemplate.checkPorts key v = .ok s ↔ IsPorts v s := by
  rw [RuleTemplate.checkPorts]
  constructor
  · intro h
    -- a number is tried before a text
    split at h
    · rename_i n hn
      cases h
      have hinteger : integer key v = .ok n := found_eq_ok_iff.mpr hn
      rw [show v = .int n.toInt from integer_eq_ok_iff.mp hinteger]
      exact .number n
    · rw [text_eq_ok_iff.mp h]
      exact .text s
  · rintro (- | n)
    · rfl
    · have hn : int64? (.int n.toInt) = some n := Text.toInt64?_toInt n
      rw [hn]

end

/-! ### Queries -/

namespace RuleQuery

/-- **What the query of a direction and a block is, field by field.** -/
structure Reads (d : Direction) (b : Block) (q : RuleQuery) : Prop where
  /-- No groups are named. -/
  groupIds : q.groupIds = []
  /-- The direction is the given one. -/
  direction : q.direction = some d
  /-- The id. -/
  id : Option.Rel IsText (b.get? "id") q.id
  /-- The protocol. -/
  protocol : Option.Rel IsText (b.get? "protocol") q.protocol
  /-- The description. -/
  description : Option.Rel IsText (b.get? "description") q.description
  /-- The group of the other end. -/
  remoteGroupId : Option.Rel IsText (b.get? "remote_group_id") q.remoteGroupId
  /-- Whether the traffic may pass. -/
  action : Option.Rel IsAction (b.get? "action") q.action
  /-- The addresses at the other end. -/
  remotePrefix : Option.Rel IsText (b.get? "remote_ip_prefix") q.remotePrefix
  /-- The priority. -/
  priority : Option.Rel IsWrittenInteger (b.get? "priority") q.priority
  /-- The family of addresses. -/
  ethertype : Option.Rel IsText (b.get? "ethertype") q.ethertype
  /-- The address group of the other end. -/
  remoteAddressGroupId :
    Option.Rel IsText (b.get? "remote_address_group_id") q.remoteAddressGroupId

/-- **A query is what its block says, attribute by attribute.** -/
theorem ofAttributes_eq_ok_iff {d : Direction} {b : Block} {q : RuleQuery} :
    ofAttributes d b = .ok q ↔ (∀ k w, b.get? k = some w → k ∈ attributes) ∧ Reads d b q := by
  simp only [ofAttributes, bind_eq_ok_iff, exists_const, allowOnly_eq_ok_iff,
    optional_eq_ok_iff fun _ _ ↦ text_eq_ok_iff,
    optional_eq_ok_iff fun _ _ ↦ checkAction_eq_ok_iff,
    optional_eq_ok_iff fun _ _ ↦ writtenInteger_eq_ok_iff]
  -- the checks go by the order of the keys, the fields by that of the record
  refine and_congr_right fun _ ↦ ⟨?_, ?_⟩
  · rintro ⟨ac, hac, ds, hds, et, het, i, hi, n, hn, p, hp, ag, hag, sg, hsg, ad, had, h⟩
    cases h
    exact ⟨rfl, rfl, hi, hp, hds, hsg, hac, had, hn, het, hag⟩
  · rintro ⟨hgroups, hdir, hi, hp, hds, hsg, hac, had, hn, het, hag⟩
    refine ⟨_, hac, _, hds, _, het, _, hi, _, hn, _, hp, _, hag, _, hsg, _, had, ?_⟩
    rw [← hdir]
    cases q
    cases hgroups
    rfl

end RuleQuery

/-- **An entry of a removal is a block of attributes**, enough of them, and its query is that of the
block. -/
theorem Removal.checkEntry_eq_ok_iff {d : Direction} {entry : Json} {q : RuleQuery} :
    checkEntry d entry = .ok q ↔ ∃ b, entry.block? = some b ∧ minRemovalAttributes ≤ b.size ∧
      RuleQuery.ofAttributes d b = .ok q := by
  rw [checkEntry, bind_eq_ok_iff]
  refine exists_congr fun b ↦ and_congr found_eq_ok_iff ?_
  split
  · rename_i hfew
    constructor
    · intro h
      cases h
    · rintro ⟨henough, -⟩
      exact absurd hfew (Nat.not_lt.mpr henough)
  · rename_i henough
    exact (and_iff_right (Nat.not_lt.mp henough)).symm

/-! ### Templates -/

namespace RuleTemplate

/-- **What the template of a direction and a block is, field by field.** -/
structure Reads (d : Direction) (b : Block) (t : RuleTemplate) : Prop where
  /-- The direction is the given one. -/
  direction : t.direction = d
  /-- The description. -/
  description : Option.Rel IsText (b.get? "description") t.description
  /-- The family of addresses. -/
  ethertype : Option.Rel IsText (b.get? "ethertype") t.ethertype
  /-- The protocol. -/
  protocol : Option.Rel IsText (b.get? "protocol") t.protocol
  /-- The ports. -/
  multiport : Option.Rel IsPorts (b.get? "multiport") t.multiport
  /-- The addresses at the other end. -/
  remotePrefix : Option.Rel IsText (b.get? "remote_ip_prefix") t.remotePrefix
  /-- The group of the other end. -/
  remoteGroupId : Option.Rel IsText (b.get? "remote_group_id") t.remoteGroupId
  /-- The address group of the other end. -/
  remoteAddressGroupId :
    Option.Rel IsText (b.get? "remote_address_group_id") t.remoteAddressGroupId
  /-- Whether the traffic may pass. -/
  action : Option.Rel IsAction (b.get? "action") t.action
  /-- The priority. -/
  priority : Option.Rel IsWrittenInteger (b.get? "priority") t.priority

/-- **A template is what its block says, attribute by attribute**, and it says something. -/
theorem ofAttributes_eq_ok_iff {d : Direction} {b : Block} {t : RuleTemplate} :
    ofAttributes d b = .ok t ↔
      (∀ k w, b.get? k = some w → k ∈ attributes) ∧ b.isEmpty = false ∧ Reads d b t := by
  rw [ofAttributes, bind_eq_ok_iff]
  simp only [exists_const, allowOnly_eq_ok_iff]
  refine and_congr_right fun _ ↦ ?_
  -- a block that says nothing makes no template
  rcases b.isEmpty with - | -
  · simp only [Bool.false_eq_true, if_false, true_and, bind_eq_ok_iff,
      optional_eq_ok_iff fun _ _ ↦ text_eq_ok_iff,
      optional_eq_ok_iff fun _ _ ↦ checkAction_eq_ok_iff,
      optional_eq_ok_iff fun _ _ ↦ checkPorts_eq_ok_iff,
      optional_eq_ok_iff fun _ _ ↦ writtenInteger_eq_ok_iff]
    constructor
    · rintro ⟨ac, hac, ds, hds, et, het, mp, hmp, n, hn, p, hp, ag, hag, sg, hsg, ad, had, h⟩
      cases h
      exact ⟨rfl, hds, het, hp, hmp, had, hsg, hag, hac, hn⟩
    · rintro ⟨rfl, hds, het, hp, hmp, had, hsg, hag, hac, hn⟩
      exact ⟨_, hac, _, hds, _, het, _, hmp, _, hn, _, hp, _, hag, _, hsg, _, had, rfl⟩
  · constructor
    · intro h
      cases h
    · rintro ⟨⟨⟩, -⟩

end RuleTemplate

end NetWarden
