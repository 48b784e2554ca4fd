import NetWarden.Matching
import NetWarden.Proofs.Validation.BlockParts

/-!
# A filter by its keys

Each question that a filter asks of a rule belongs to one key of its block; only the ports have two
(`Predicate.keys`). So a filter falls into the parts with one key each.

**A filter that needs all answers matches what each of its parts matches** (`admits_and_iff`), the
two keys about ports included, though their question treats a rule that opens all ports on its own.
**A filter that needs one answer matches a rule of its direction, and what one of its questions
answers with yes** (`admits_or_iff`); there the keys about ports stay together, and the direction is
asked in every part.
-/

namespace NetWarden

namespace Predicate

/-- The keys that make a filter ask a question. -/
def keys : Predicate → List String
  | .direction => ["type"]
  | .addresses => ["RemoteIpPrefix"]
  | .ruleIds => ["SGRuleIds"]
  | .groupIds => ["SecurityGroupIds"]
  | .descriptions => ["Descriptions"]
  | .ethertypes => ["Ethertypes"]
  | .priorities => ["Priorities"]
  | .remoteGroupIds => ["SGReferenceIds"]
  | .remoteAddressGroupIds => ["AGReferenceIds"]
  | .protocols => ["Protocols"]
  | .ports => ["InPorts", "NotInPorts"]
  | .selfReference => ["SelfReference"]
  | .actions => ["Action"]

@[simp] theorem mem_all (p : Predicate) : p ∈ all := by cases p <;> decide

/-- **No key belongs to two questions.** -/
theorem eq_of_mem_keys {p q : Predicate} {k : String} (hp : k ∈ p.keys) (hq : k ∈ q.keys) :
    p = q := by
  cases p <;> cases q <;> simp_all [keys]

/-- **The keys of the questions are all but the one that combines the answers.** -/
theorem exists_mem_keys_iff {k : String} :
    (∃ p : Predicate, k ∈ p.keys) ↔ k ∈ RuleFilter.keys ∧ k ≠ "match-operator" := by
  have hkeys : ∀ p ∈ all, ∀ k ∈ p.keys, k ∈ RuleFilter.keys ∧ k ≠ "match-operator" := by decide
  have hall : ∀ k ∈ RuleFilter.keys, k ≠ "match-operator" → ∃ p ∈ all, k ∈ p.keys := by decide
  constructor
  · rintro ⟨p, hp⟩
    exact hkeys p (mem_all p) k hp
  · rintro ⟨hk, hop⟩
    obtain ⟨p, -, hp⟩ := hall k hk hop
    exact ⟨p, hp⟩

end Predicate

namespace RuleFilter

variable {f : RuleFilter} {r : Rule} {ks : List String} {p : Predicate}

/-! ### The answers of a part -/

/-- A part with all the keys of a question gives the same answer. -/
theorem verdict_only_of_subset (h : ∀ k ∈ p.keys, k ∈ ks) :
    (f.only ks).verdict r p = f.verdict r p := by
  cases p <;> simp_all [Predicate.keys, verdict, only, asksPorts, portsMatch]

/-- A part without the keys of a question does not ask it. The direction is always asked. -/
theorem verdict_only_of_disjoint (hp : p ≠ .direction) (h : ∀ k ∈ p.keys, k ∉ ks) :
    (f.only ks).verdict r p = none := by
  cases p <;> simp_all [Predicate.keys, verdict, only, asksPorts, listed]

/-- **The question about ports is two questions**, though it is answered at once for a rule that
opens all ports: such a rule opens all that it should, and has none that it must not open only if
there is no such port. -/
theorem verdict_ports_iff :
    f.verdict r .ports ≠ some false ↔
      (∀ port ∈ f.inPorts, r.ports.covers port = true) ∧
        ∀ port ∈ f.notInPorts, r.ports.covers port = false := by
  rw [verdict, asksPorts, portsMatch]
  cases hports : r.ports with
  | all =>
    have hnot : (∀ port ∈ f.notInPorts, PortCoverage.all.covers port = false) ↔
        f.notInPorts = [] := by
      simp [PortCoverage.covers, List.eq_nil_iff_forall_not_mem]
    have hin : ∀ port ∈ f.inPorts, PortCoverage.all.covers port = true := fun _ _ ↦ rfl
    rw [hnot, and_iff_right hin]
    cases f.inPorts <;> cases f.notInPorts <;> simp [PortCoverage.isAll]
  | listed items =>
    cases f.inPorts <;> cases f.notInPorts <;> simp [PortCoverage.isAll, and_assoc]

/-- **No answer is negative if none is with one key at a time.** -/
theorem verdict_ne_false_iff :
    f.verdict r p ≠ some false ↔
      ∀ k ∈ p.keys, (f.only ["type", k]).verdict r p ≠ some false := by
  cases p with
  | ports =>
    simp only [Predicate.keys, List.forall_mem_cons, verdict_ports_iff]
    simp [only]
  | _ => simp [Predicate.keys, verdict, only]

/-! ### The answers combined -/

theorem mem_answers_iff {b : Bool} : b ∈ f.answers r ↔ ∃ p, f.verdict r p = some b := by
  simp [answers]

theorem answers_ne_nil : f.answers r ≠ [] :=
  List.ne_nil_of_mem (mem_answers_iff.mpr ⟨.direction, rfl⟩)

theorem admits_of_and_iff (h : f.operator = .and) :
    f.admits r = true ↔ ∀ p, f.verdict r p ≠ some false := by
  have hne : (f.answers r).isEmpty = false := by simpa using answers_ne_nil
  rw [admits, h, MatchOperator.combine, hne, Bool.not_false, Bool.true_and, List.all_eq_true]
  constructor
  · intro hall p hp
    exact absurd (hall false (mem_answers_iff.mpr ⟨p, hp⟩)) (by simp)
  · intro hall b hb
    obtain ⟨p, hp⟩ := mem_answers_iff.mp hb
    cases b with
    | false => exact absurd hp (hall p)
    | true => rfl

theorem admits_of_or_iff (h : f.operator = .or) :
    f.admits r = true ↔ ∃ p, f.verdict r p = some true := by
  have hne : (f.answers r).isEmpty = false := by simpa using answers_ne_nil
  rw [admits, h, MatchOperator.combine, hne, Bool.not_false, Bool.true_and, List.any_eq_true]
  simp [mem_answers_iff]

theorem verdict_direction_iff : f.verdict r .direction = some true ↔ r.direction = f.direction := by
  simp [verdict]

/-- **A filter that needs all answers matches what its parts with one key match.** -/
theorem admits_and_iff (h : f.operator = .and) :
    f.admits r = true ↔
      ∀ k ∈ keys, k ≠ "match-operator" → (f.only ["type", k]).admits r = true := by
  have hpart {k : String} (hk : k ≠ "match-operator") : (f.only ["type", k]).operator = .and := by
    simp [only, Ne.symm hk]
  rw [admits_of_and_iff h]
  constructor
  · intro hall k hk hop
    rw [admits_of_and_iff (hpart hop)]
    -- a question that the key is about is answered as in the whole; of all others a part asks none
    -- but that for the direction
    intro p
    obtain ⟨q, hq⟩ := Predicate.exists_mem_keys_iff.mpr ⟨hk, hop⟩
    by_cases hpq : p = q
    · exact verdict_ne_false_iff.mp (hall p) k (hpq ▸ hq)
    · by_cases hp : p = .direction
      · rw [hp, verdict_only_of_subset (by simp [Predicate.keys])]
        exact hall .direction
      · rw [verdict_only_of_disjoint hp fun l hl hmem ↦ ?_]
        · exact nofun
        · rcases List.mem_pair.mp hmem with rfl | rfl
          · exact hp (Predicate.eq_of_mem_keys hl List.mem_cons_self)
          · exact hpq (Predicate.eq_of_mem_keys hl hq)
  · -- a verdict that one key decides is that of the part with this key
    intro hall p
    refine verdict_ne_false_iff.mpr fun k hk ↦ ?_
    obtain ⟨hkey, hop⟩ := Predicate.exists_mem_keys_iff.mp ⟨p, hk⟩
    exact (admits_of_and_iff (hpart hop)).mp (hall k hkey hop) p

/-- A part of a filter that needs one answer asks its question and for the direction. -/
theorem admits_or_part_iff (h : f.operator = .or) :
    (f.only ("type" :: "match-operator" :: p.keys)).admits r = true ↔
      r.direction = f.direction ∨ f.verdict r p = some true := by
  have hop : (f.only ("type" :: "match-operator" :: p.keys)).operator = .or := by simp [only, h]
  rw [admits_of_or_iff hop]
  constructor
  · -- the answer is to the question of the part, to that for the direction, or to none that is
    -- asked
    rintro ⟨q, hq⟩
    by_cases hqp : q = p
    · rw [hqp, verdict_only_of_subset fun k hk ↦ by simp [hk]] at hq
      exact .inr hq
    · by_cases hdir : q = .direction
      · subst hdir
        exact .inl (verdict_direction_iff.mp hq)
      · rw [verdict_only_of_disjoint hdir fun k hk hmem ↦ ?_] at hq
        · cases hq
        · rcases List.mem_cons.mp hmem with rfl | hmem
          · exact hdir (Predicate.eq_of_mem_keys hk List.mem_cons_self)
          · rcases List.mem_cons.mp hmem with rfl | hmem
            · exact (Predicate.exists_mem_keys_iff.mp ⟨q, hk⟩).2 rfl
            · exact hqp (Predicate.eq_of_mem_keys hk hmem)
  · rintro (hdir | hp)
    · exact ⟨.direction, verdict_direction_iff.mpr hdir⟩
    · exact ⟨p, by rw [verdict_only_of_subset fun k hk ↦ by simp [hk], hp]⟩

/-- **A filter that needs one answer matches the rules of its direction, and what one of its
questions answers with yes.** -/
theorem admits_or_iff (h : f.operator = .or) :
    f.admits r = true ↔
      r.direction = f.direction ∨ ∃ p ≠ Predicate.direction, f.verdict r p = some true := by
  rw [admits_of_or_iff h]
  constructor
  · rintro ⟨p, hp⟩
    by_cases hdir : p = .direction
    · exact .inl (verdict_direction_iff.mp (hdir ▸ hp))
    · exact .inr ⟨p, hdir, hp⟩
  · rintro (hdir | ⟨p, -, hp⟩)
    · exact ⟨.direction, verdict_direction_iff.mpr hdir⟩
    · exact ⟨p, hp⟩

/-! ### Blocks and their parts -/

/-- Whether a value is a filter that matches a rule. -/
def Matches (v : Json) (r : Rule) : Prop := ∃ f, ofJson v = .ok f ∧ f.admits r = true

theorem matches_iff {v : Json} (hf : ofJson v = .ok f) : Matches v r ↔ f.admits r = true := by
  constructor
  · rintro ⟨g, hg, h⟩
    rw [hf] at hg
    cases hg
    exact h
  · exact fun h ↦ ⟨f, hf, h⟩

/-- A part of a block: its direction, and what it says under some keys. -/
def part (b : Block) (ks : List String) : Json := .ofBlock (b.restrict ("type" :: ks))

section

variable {v : Json} {b : Block}

theorem ofJson_eq_ofBlock (hb : v.block? = some b) : ofJson v = ofBlock b := by
  rw [ofJson, hb]
  rfl

/-- **The parts of an accepted block are accepted.** -/
theorem ofJson_part (hb : v.block? = some b) (hf : ofJson v = .ok f) (ks : List String) :
    ofJson (part b ks) = .ok (f.only ("type" :: ks)) := by
  rw [ofJson_eq_ofBlock hb] at hf
  rw [part, ofJson_eq_ofBlock (Json.block?_ofBlock _)]
  exact ofBlock_restrict hf List.mem_cons_self

theorem matches_part_iff (hb : v.block? = some b) (hf : ofJson v = .ok f) :
    Matches (part b ks) r ↔ (f.only ("type" :: ks)).admits r = true :=
  matches_iff (ofJson_part hb hf ks)

/-- A part under a key that the block does not have is the part with the direction only. -/
theorem part_of_get?_eq_none {k : String} (hk : b.get? k = none) : part b [k] = part b [] := by
  refine congrArg Json.ofBlock (Dictionary.restrict_congr fun l ↦ ?_)
  by_cases hl : l = k
  · subst hl
    simp [hk]
  · simp [hl]

theorem operator_eq_or_iff (hb : v.block? = some b) (hf : ofJson v = .ok f) :
    f.operator = .or ↔ b.get? "match-operator" = some (.str "or") := by
  rw [ofJson_eq_ofBlock hb] at hf
  obtain ⟨op, hop, heq⟩ := (ofBlock_eq_ok_iff.mp hf).2.operator
  rw [heq]
  cases hget : b.get? "match-operator" with
  | none =>
    rw [hget] at hop
    cases hop
    simp
  | some w =>
    rw [hget] at hop
    obtain ⟨hw⟩ := hop
    cases hw <;> simp

theorem direction_eq_iff (hb : v.block? = some b) (hf : ofJson v = .ok f) {d : Direction} :
    d = f.direction ↔ b.get? "type" = some (.str d.name) := by
  rw [ofJson_eq_ofBlock hb] at hf
  obtain ⟨w, hw, hd⟩ := (ofBlock_eq_ok_iff.mp hf).2.direction
  rw [hw]
  generalize f.direction = e at hd
  cases hd <;> cases d <;> simp [Direction.name]

/-- **A block that needs all answers matches what its parts with one key match**, its direction
among them. -/
theorem matches_and_iff (hb : v.block? = some b) (hf : ofJson v = .ok f)
    (hop : b.get? "match-operator" ≠ some (.str "or")) :
    Matches v r ↔ Matches (part b []) r ∧
      ∀ k w, b.get? k = some w → k ≠ "type" → k ≠ "match-operator" → Matches (part b [k]) r := by
  have hand : f.operator = .and := by
    cases h : f.operator with
    | and => rfl
    | or => exact absurd ((operator_eq_or_iff hb hf).mp h) hop
  have hknown := (ofBlock_eq_ok_iff.mp ((ofJson_eq_ofBlock hb).symm.trans hf)).1
  -- the part with no key of its own has the direction anyway
  have htype : part b ["type"] = part b [] :=
    congrArg Json.ofBlock (Dictionary.restrict_congr fun l ↦ by simp)
  rw [matches_iff hf, admits_and_iff hand]
  simp only [← matches_part_iff hb hf]
  constructor
  · intro h
    refine ⟨htype ▸ h "type" (by decide) (by decide), fun k w hw _ hkop ↦ ?_⟩
    exact h k (hknown k w hw) hkop
  · rintro ⟨hdir, h⟩ k - hkop
    by_cases hk : k = "type"
    · rw [hk, htype]
      exact hdir
    · cases hget : b.get? k with
      -- a key that is not there adds nothing to the direction
      | none =>
        rw [part_of_get?_eq_none hget]
        exact hdir
      | some w => exact h k w hget hk hkop

/-- **A block that needs one answer matches the rules of its direction, and what the part of one of
its questions matches.** -/
theorem matches_or_iff (hb : v.block? = some b) (hf : ofJson v = .ok f)
    (hop : b.get? "match-operator" = some (.str "or")) :
    Matches v r ↔ b.get? "type" = some (.str r.direction.name) ∨
      ∃ p ≠ Predicate.direction, (∃ k ∈ p.keys, ∃ w, b.get? k = some w) ∧
        Matches (part b ("match-operator" :: p.keys)) r := by
  have hor : f.operator = .or := (operator_eq_or_iff hb hf).mpr hop
  have hfull : f.only b.keys = f := only_keys ((ofJson_eq_ofBlock hb).symm.trans hf)
  rw [matches_iff hf, admits_or_iff hor, ← direction_eq_iff hb hf]
  simp only [matches_part_iff hb hf, admits_or_part_iff hor]
  constructor
  · rintro (hdir | ⟨p, hp, hans⟩)
    · exact .inl hdir
    · refine .inr ⟨p, hp, ?_, .inr hans⟩
      -- a question whose keys are not there has no answer
      by_contra hnone
      rw [← hfull, verdict_only_of_disjoint hp] at hans
      · cases hans
      · intro k hk hmem
        exact hnone ⟨k, hk, (Dictionary.mem_keys_iff b k).mp hmem⟩
  · rintro (hdir | ⟨p, hp, -, hdir | hans⟩)
    · exact .inl hdir
    · exact .inl hdir
    · exact .inr ⟨p, hp, hans⟩

/-- **A key more never widens a block that needs all answers.** -/
theorem matches_of_extends {v' : Json} {b' : Block} (hb : v.block? = some b)
    (hf : ofJson v = .ok f) (hop : b.get? "match-operator" ≠ some (.str "or"))
    (hb' : v'.block? = some b') (hop' : b'.get? "match-operator" ≠ some (.str "or"))
    (hmore : ∀ k w, b.get? k = some w → b'.get? k = some w) (h : Matches v' r) : Matches v r := by
  obtain ⟨g, hg, -⟩ := id h
  obtain ⟨w, hw, -⟩ := (ofBlock_eq_ok_iff.mp ((ofJson_eq_ofBlock hb).symm.trans hf)).2.direction
  -- where the first block has the keys, both blocks have the same parts
  have hpart (ks : List String) (hks : ∀ k ∈ ks, ∃ w, b.get? k = some w) :
      part b' ks = part b ks := by
    refine congrArg Json.ofBlock (Dictionary.restrict_congr fun k ↦ ?_)
    split
    · rename_i hk
      obtain ⟨w, hkw⟩ : ∃ w, b.get? k = some w := by
        rcases List.mem_cons.mp hk with rfl | hk
        · exact ⟨w, hw⟩
        · exact hks k hk
      rw [hkw, hmore k w hkw]
    · rfl
  obtain ⟨hdir, hkeys⟩ := (matches_and_iff hb' hg hop').mp h
  refine (matches_and_iff hb hf hop).mpr ⟨hpart [] nofun ▸ hdir, fun k w hkw hk hkop ↦ ?_⟩
  have hone : ∀ l ∈ [k], ∃ w, b.get? l = some w := by simp [hkw]
  exact hpart [k] hone ▸ hkeys k w (hmore k w hkw) hk hkop

end

end RuleFilter

end NetWarden
