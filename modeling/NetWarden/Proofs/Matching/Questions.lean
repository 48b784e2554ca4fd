import NetWarden.Proofs.Matching.Decomposition

/-!
# Which questions a filter asks

A key of a block is there to be asked about. **A filter asks each question that a key of its block
belongs to, and no other** (`RuleFilter.verdict_isSome_iff`); a list without elements is asked about
like any other, and no rule is in it.

The ports are the exception. A filter keeps no ports where its block has no key about them, and
nothing tells this from a key that lists none. So **a list without ports is passed over**, and a
filter with nothing else matches every rule of its direction.
-/

namespace NetWarden

namespace RuleFilter

variable {b : Block} {f : RuleFilter} {p : Predicate}

/-- A value stands for no ports only if it is the list without any. -/
theorem ports_eq_nil_iff {w : Json} {ps : List PortNumber} (h : OneOrMore IsPort w ps) :
    ps = [] ↔ w = .arr [] := by
  cases h with
  | one hport =>
    have hnot : w ≠ .arr [] := by
      rintro rfl
      cases hport
    exact ⟨fun hnil ↦ absurd hnil (List.cons_ne_nil _ _), fun hw ↦ absurd hw hnot⟩
  | list hports => cases hports <;> simp

/-- There are ports just where the key is there with a value other than the list without any. -/
theorem ports_ne_nil_iff {x : Option Json} {ports : List PortNumber}
    (h : ∃ ps, Option.Rel (OneOrMore IsPort) x ps ∧ ports = ps.getD []) :
    ports ≠ [] ↔ ∃ w, x = some w ∧ w ≠ .arr [] := by
  obtain ⟨ps, hps, rfl⟩ := h
  cases hps with
  | some hw => simp [ports_eq_nil_iff hw]
  | none => simp

/-- The question about ports is asked where one of its keys lists some. -/
theorem verdict_ports_isSome_iff (h : Reads b f) (r : Rule) :
    (f.verdict r .ports).isSome = true ↔
      (∃ w, b.get? "InPorts" = some w ∧ w ≠ .arr []) ∨
        ∃ w, b.get? "NotInPorts" = some w ∧ w ≠ .arr [] := by
  rw [← ports_ne_nil_iff h.inPorts, ← ports_ne_nil_iff h.notInPorts, verdict, asksPorts]
  cases f.inPorts <;> cases f.notInPorts <;> simp

/-- **A question is asked just where one of its keys is there**; a list without ports counts as no
key. -/
theorem verdict_isSome_iff (h : Reads b f) (r : Rule) (hp : p ≠ .direction) :
    (f.verdict r p).isSome = true ↔
      ∃ k ∈ p.keys, ∃ w, b.get? k = some w ∧ (p = .ports → w ≠ .arr []) := by
  cases p with
  | direction => exact absurd rfl hp
  -- the one question with two keys, and with lists that count as none
  | ports => simpa [Predicate.keys] using verdict_ports_isSome_iff h r
  | addresses => simpa [verdict, Predicate.keys] using isSome_iff_of_rel h.addresses
  | ruleIds => simpa [verdict, listed, Predicate.keys] using isSome_iff_of_rel h.ruleIds
  | groupIds => simpa [verdict, listed, Predicate.keys] using isSome_iff_of_rel h.groupIds
  | descriptions => simpa [verdict, listed, Predicate.keys] using isSome_iff_of_rel h.descriptions
  | ethertypes => simpa [verdict, listed, Predicate.keys] using isSome_iff_of_rel h.ethertypes
  | priorities => simpa [verdict, listed, Predicate.keys] using isSome_iff_of_rel h.priorities
  | remoteGroupIds =>
    simpa [verdict, listed, Predicate.keys] using isSome_iff_of_rel h.remoteGroupIds
  | remoteAddressGroupIds =>
    simpa [verdict, listed, Predicate.keys] using isSome_iff_of_rel h.remoteAddressGroupIds
  | protocols => simpa [verdict, Predicate.keys] using isSome_iff_of_rel h.protocols
  | selfReference => simpa [verdict, Predicate.keys] using isSome_iff_of_rel h.selfReference
  | actions => simpa [verdict, listed, Predicate.keys] using isSome_iff_of_rel h.actions

/-- **What a filter asks**, block by block. An answer goes in with the others just where a key of
the question is there, an empty list under it or not; only under the keys about ports a list without
any counts as no key. Nothing else leaves a question out. -/
theorem asks_iff_key {v : Json} (hb : v.block? = some b) (hf : ofJson v = .ok f) (r : Rule)
    (hp : p ≠ .direction) :
    ((∃ a ∈ f.answers r, f.verdict r p = some a) ↔
        ∃ k ∈ p.keys, ∃ w, b.get? k = some w ∧ (p = .ports → w ≠ .arr [])) ∧
      (f.verdict r p = none ↔
        ∀ k ∈ p.keys, ∀ w, b.get? k = some w → p = .ports ∧ w = .arr []) := by
  have hreads : Reads b f := (ofBlock_eq_ok_iff.mp ((ofJson_eq_ofBlock hb).symm.trans hf)).2
  have hasked := verdict_isSome_iff hreads r hp
  have hanswer : (∃ a ∈ f.answers r, f.verdict r p = some a) ↔
      (f.verdict r p).isSome = true := by
    rw [Option.isSome_iff_exists]
    exact exists_congr fun a ↦ and_iff_right_of_imp fun h ↦ mem_answers_iff.mpr ⟨p, h⟩
  refine ⟨hanswer.trans hasked, ?_⟩
  rw [← Option.not_isSome_iff_eq_none, hasked]
  push Not
  exact Iff.rfl

/-! ### Lists without elements

One block has an empty list of protocols, which no rule is in, and an empty list of ports, which is
passed over. With the latter alone, a rule that opens all ports matches. -/

/-- A rule that says nothing but its direction. -/
def openRule : Rule := { id := "open", groupId := "web", direction := .ingress }

/-- A block with empty lists of protocols and of ports. -/
def emptyLists : Json :=
  .obj [("type", .str "ingress"), ("Protocols", .arr []), ("InPorts", .arr [])]

/-- Its filter. -/
def emptyListsFilter : RuleFilter := { direction := .ingress, protocols := some [] }

theorem asks_iff_key_emptyLists :
    emptyLists.block? = some (Dictionary.ofList
        [("type", .str "ingress"), ("Protocols", .arr []), ("InPorts", .arr [])]) ∧
      ofJson emptyLists = .ok emptyListsFilter ∧ Predicate.protocols ≠ .direction ∧
      ∃ a ∈ emptyListsFilter.answers openRule,
        emptyListsFilter.verdict openRule .protocols = some a := by
  have hasked := (asks_iff_key (p := .protocols) (b := Dictionary.ofList
    [("type", .str "ingress"), ("Protocols", .arr []), ("InPorts", .arr [])]) (v := emptyLists)
    (f := emptyListsFilter) rfl rfl openRule (by decide)).1
  exact ⟨rfl, rfl, by decide, hasked.mpr ⟨"Protocols", by decide, .arr [], rfl, nofun⟩⟩

/-- **A key about ports may be there and yet be passed over.** -/
theorem emptyPorts_passed_over :
    let v : Json := .obj [("type", .str "ingress"), ("InPorts", .arr [])]
    ∃ b f, v.block? = some b ∧ ofJson v = .ok f ∧
      (∃ k ∈ Predicate.ports.keys, ∃ w, b.get? k = some w) ∧
      f.verdict openRule .ports = none ∧ f.answers openRule = [true] ∧
      f.admits openRule = true :=
  ⟨_, { direction := .ingress }, rfl, rfl, ⟨"InPorts", by decide, .arr [], rfl⟩, rfl, rfl, rfl⟩

end RuleFilter

end NetWarden
