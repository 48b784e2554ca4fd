import NetWarden.Matching
import NetWarden.Proofs.Ports

/-!
# Ports count as a set

A filter asks of a rule which ports it opens, and nothing else about how these are stated. Two ways
to state the same set are judged alike (`RuleFilter.JudgesAlike`), in any order, with numbers
doubled, with ranges that overlap, and with items that stand for nothing.

A rule that opens all ports is a case of its own to the matching: it is not asked for any port.
**That case follows from the rule for all others** (`portsMatch_eq`), since the question is asked
only where the filter lists a port. So stating every port is the same as stating none at all.
-/

namespace NetWarden

namespace RuleFilter

variable {f : RuleFilter} {r : Rule}

/-- A filter gives the same answers about two rules, one by one and all together. -/
structure JudgesAlike (f : RuleFilter) (r r' : Rule) : Prop where
  /-- The answer to each question. -/
  verdict : ∀ p, f.verdict r p = f.verdict r' p
  /-- The answers in the order asked. -/
  answers : f.answers r = f.answers r'
  /-- Whether the rule matches. -/
  admits : f.admits r = f.admits r'

/-- The answers one by one decide all else. -/
theorem judgesAlike_of_verdict {r' : Rule} (h : ∀ p, f.verdict r p = f.verdict r' p) :
    f.JudgesAlike r r' := by
  have hanswers : f.answers r = f.answers r' := by rw [answers, funext h, answers]
  exact ⟨h, hanswers, by rw [RuleFilter.admits, hanswers, RuleFilter.admits]⟩

/-- **Opening all ports is no case of its own**: where ports are asked for, it is only asked whether
those that should be open are, and those that should not be are not. -/
theorem portsMatch_eq (h : f.asksPorts = true) (coverage : PortCoverage) : f.portsMatch coverage =
    (f.inPorts.all coverage.covers && f.notInPorts.all fun p ↦ !coverage.covers p) := by
  rw [portsMatch]
  cases coverage with
  | listed items => rfl
  | all =>
    -- every port is open, so only an empty list says that none of its ports is
    have hin : (f.inPorts.all fun _ ↦ true) = true := List.all_eq_true.mpr fun _ _ ↦ rfl
    show (!f.inPorts.isEmpty && f.notInPorts.isEmpty) =
      ((f.inPorts.all fun _ ↦ true) && f.notInPorts.all fun _ ↦ false)
    rw [asksPorts] at h
    rw [hin, Bool.true_and]
    cases hnot : f.notInPorts with
    | nil =>
      rw [hnot, List.isEmpty_nil, Bool.not_true, Bool.or_false] at h
      rw [h, List.isEmpty_nil, Bool.true_and, List.all_nil]
    | cons p ps => rw [List.isEmpty_cons, Bool.and_false, List.all_cons, Bool.false_and]

/-- The answer about ports, for whatever ports a rule opens. -/
theorem verdict_ports_eq (f : RuleFilter) (r : Rule) : f.verdict r .ports =
    if f.inPorts = [] ∧ f.notInPorts = [] then none
    else some (f.inPorts.all r.ports.covers && f.notInPorts.all fun p ↦ !r.ports.covers p) := by
  have hasks : f.asksPorts = true ↔ ¬ (f.inPorts = [] ∧ f.notInPorts = []) := by
    rw [asksPorts, Bool.or_eq_true, Bool.not_eq_true', Bool.not_eq_true', List.isEmpty_eq_false_iff,
      List.isEmpty_eq_false_iff, not_and_or]
  rw [verdict]
  by_cases h : f.asksPorts = true
  · rw [if_pos h, if_neg (hasks.mp h), portsMatch_eq h]
  · rw [if_neg h, if_pos (not_not.mp (mt hasks.mpr h))]

/-- **Two ways to state the same ports are judged alike.** -/
theorem judgesAlike_of_covers_eq (f : RuleFilter) (r : Rule) {m m' : Option String}
    (h : ∀ p, (PortCoverage.parse m).covers p = (PortCoverage.parse m').covers p) :
    f.JudgesAlike { r with multiport := m } { r with multiport := m' } := by
  refine judgesAlike_of_verdict fun p ↦ ?_
  cases p with
  | ports =>
    rw [verdict_ports_eq, verdict_ports_eq]
    simp only [Rule.ports, h]
  | _ => rfl

/-- To state every port is to state none. -/
theorem judgesAlike_none_of_covers (f : RuleFilter) (r : Rule) {m : Option String}
    (h : ∀ p, (PortCoverage.parse m).covers p = true) :
    f.JudgesAlike { r with multiport := m } { r with multiport := none } :=
  f.judgesAlike_of_covers_eq r h

/-- **A filter sees the ports of a rule as a set.** Rules that differ in how they state the same
ports are judged alike; where ports are asked for, the answer is whether all that should be open are
and none that should not be is, of rules that open all ports as of any other. So a list of items
that together include every port is judged like no list at all. -/
theorem ports_judged_as_set (f : RuleFilter) (r : Rule) :
    (∀ m m', (∀ p, (PortCoverage.parse m).covers p = (PortCoverage.parse m').covers p) →
        f.JudgesAlike { r with multiport := m } { r with multiport := m' }) ∧
      (f.verdict r .ports =
        if f.inPorts = [] ∧ f.notInPorts = [] then none
        else some (f.inPorts.all r.ports.covers && f.notInPorts.all fun p ↦ !r.ports.covers p)) ∧
      (∀ items : List String, (∀ i ∈ items, ',' ∉ i.toList) →
        (∀ p, ∃ i ∈ items, ∃ x, Spells i.toList x ∧ x.Includes p) →
        f.JudgesAlike { r with multiport := some (",".intercalate items) }
          { r with multiport := none }) ∧
      f.JudgesAlike { r with multiport := some "0-65535" } { r with multiport := none } := by
  have hitems : ∀ items : List String, (∀ i ∈ items, ',' ∉ i.toList) →
      (∀ p, ∃ i ∈ items, ∃ x, Spells i.toList x ∧ x.Includes p) →
      f.JudgesAlike { r with multiport := some (",".intercalate items) }
        { r with multiport := none } := fun items hfree hall ↦
    f.judgesAlike_none_of_covers r fun p ↦
      (PortCoverage.covers_parse_iff hfree p).mpr (.inr (hall p))
  refine ⟨fun _ _ ↦ f.judgesAlike_of_covers_eq r, f.verdict_ports_eq r, hitems, ?_⟩
  refine hitems ["0-65535"] (by decide) fun p ↦
    ⟨_, List.mem_singleton_self _, .range 0 65535 (by decide), ?_, ?_⟩
  · exact portItem?_eq_some_iff.mp (by decide)
  · exact ⟨UInt16.le_iff_toNat_le.mpr (Nat.zero_le _),
      UInt16.le_iff_toNat_le.mpr (Nat.le_of_lt_succ p.toNat_lt)⟩

end RuleFilter

end NetWarden
