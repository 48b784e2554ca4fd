import NetWarden.Proofs.Matching.Decomposition
import NetWarden.Proofs.Run.Narrowing

/-!
# One filter for several

A filter of rules in a document may be taken apart: its keys may stand in filters of their own, one
after the other or joined by `and`, each with the direction. **A run keeps the same rules**, since
filters of rules look at nothing but the rule (`narrow_rules`) and a block is what its parts with
one key are (`RuleFilter.matches_and_iff`). `block_decomposes` puts together what is known of the
parts of a block.
-/

namespace NetWarden

open StoreM RuleFilter

/-! ### The parts in a document -/

namespace RuleFilter

/-- The keys of a block that may stand in a filter of their own. -/
def partKeys (b : Block) : List String :=
  b.keys.filter fun k ↦ k != "type" && k != "match-operator"

/-- A block taken apart: its direction alone, and with each of its keys. -/
def parts (b : Block) : List Json := part b [] :: (partKeys b).map fun k ↦ part b [k]

/-- The filters of the parts. -/
def onlyParts (f : RuleFilter) (b : Block) : List RuleFilter :=
  f.only ["type"] :: (partKeys b).map fun k ↦ f.only ["type", k]

end RuleFilter

/-- **What is a filter of rules is one in a policy.** -/
theorem PolicyFilter.ofJson_of_ruleFilter {v : Json} {f : RuleFilter}
    (h : RuleFilter.ofJson v = .ok f) : PolicyFilter.ofJson v = .ok (.rules f) := by
  obtain ⟨b, hb, -, hreads⟩ := RuleFilter.ofJson_eq_ok_iff.mp h
  obtain ⟨w, hw, hd⟩ := hreads.direction
  rw [RuleFilter.ofJson_eq_ofBlock hb] at h
  have hrequired : b.required "type" .filter = .ok w := by rw [Block.required, hw]
  have hblock : PolicyFilter.ofBlock b = .ok (.rules f) := by
    rw [PolicyFilter.ofBlock, hrequired, h]
    generalize f.direction = d at hd
    cases hd <;> rfl
  -- a combination has no direction, so the value is none
  have hkeys : ∀ k x, v = .obj [(k, x)] → k = "type" := by
    rintro k x rfl
    cases hb
    have hmem := (Dictionary.mem_keys_iff _ "type").mpr ⟨w, hw⟩
    rw [Dictionary.mem_keys_ofList] at hmem
    simpa [eq_comm] using hmem
  have hcheck : Checked.block "filters" v = .ok b := by rw [Checked.block, hb]; rfl
  rw [PolicyFilter.ofJson.eq_def]
  split
  · exact absurd (hkeys _ _ rfl) (by decide)
  · exact absurd (hkeys _ _ rfl) (by decide)
  · exact absurd (hkeys _ _ rfl) (by decide)
  · exact absurd (hkeys _ _ rfl) (by decide)
  · cases hb
  · rw [hcheck]
    exact hblock

theorem PolicyFilter.ofItems_of_ruleFilters {vs : List Json} {fs : List RuleFilter}
    (h : List.Forall₂ (fun v f ↦ RuleFilter.ofJson v = .ok f) vs fs) :
    PolicyFilter.ofItems vs = .ok (fs.map .rules) := by
  induction h with
  | nil => rfl
  | cons hv _ ih =>
    rw [PolicyFilter.ofItems, PolicyFilter.ofJson_of_ruleFilter hv, ih]
    rfl

/-- The parts have the filters of the parts. -/
theorem RuleFilter.ofJson_parts {v : Json} {b : Block} {f : RuleFilter} (hb : v.block? = some b)
    (hf : RuleFilter.ofJson v = .ok f) :
    List.Forall₂ (fun v f ↦ RuleFilter.ofJson v = .ok f) (parts b) (f.onlyParts b) := by
  refine .cons (ofJson_part hb hf []) ?_
  rw [List.forall₂_map_left_iff, List.forall₂_map_right_iff, List.forall₂_same]
  exact fun k _ ↦ ofJson_part hb hf [k]

/-- **A rule matches all parts of a block that needs all answers if it matches the block.** -/
theorem RuleFilter.all_onlyParts {v : Json} {b : Block} {f : RuleFilter} (hb : v.block? = some b)
    (hf : RuleFilter.ofJson v = .ok f) (hop : b.get? "match-operator" ≠ some (.str "or"))
    (r : Rule) : (f.onlyParts b).all (fun g ↦ g.admits r) = f.admits r := by
  rw [Bool.eq_iff_iff, ← matches_iff hf, matches_and_iff hb hf hop, onlyParts, List.all_cons,
    Bool.and_eq_true, matches_part_iff hb hf, List.all_map, List.all_eq_true]
  refine and_congr_right fun _ ↦ ?_
  simp only [matches_part_iff hb hf, partKeys, List.mem_filter, Dictionary.mem_keys_iff,
    Bool.and_eq_true, bne_iff_ne, Function.comp_apply]
  constructor
  · rintro h k w hw hk hkop
    exact h k ⟨⟨w, hw⟩, hk, hkop⟩
  · rintro h k ⟨⟨w, hw⟩, hk, hkop⟩
    exact h k w hw hk hkop

/-! ### The parts in a run -/

/-- **Filters about rules keep the rules they all hold of**, without a call to the store, and note
what matches in each of them. -/
theorem Run.narrow_rules {fs : List PolicyFilter} (hfs : ∀ f ∈ fs, f.supports .rule = true)
    (rules : List Rule) (notes : MatchNotes) (s : Store) :
    result (narrow (.rules rules) notes fs).run s =
      .ok (.rules (rules.filter fun r ↦ fs.all fun f ↦ f.holds s.inventory.ports (.rule r)),
        (ResourceSet.rules rules).notedBy s.inventory.ports notes fs) := by
  have hlook : (ResourceSet.rules rules).reachesLookup s.inventory.ports fs = false := by
    rw [Bool.eq_false_iff, ne_eq, ResourceSet.reachesLookup_iff]
    rintro ⟨before, f, behind, rfl, hlook, -⟩
    exact nomatch PolicyFilter.kind_of_looksUpPorts (hfs f (by simp)) hlook
  have hids : ((ResourceSet.rules rules).groupItems.map Group.id).Nodup := List.nodup_nil
  have hasks : Asks s.inventory.ports _ _ (narrow (.rules rules) notes fs) := asks_narrow hfs notes
  have hnarrow := hasks.result_ok s rfl (by rw [hlook]; rfl)
  rw [ResourceSet.keptBy_eq_filter hids] at hnarrow
  exact hnarrow

/-- **The filters of the parts keep what the filter keeps**, one after the other or all at once. -/
theorem RuleFilter.narrow_onlyParts {v : Json} {b : Block} {f : RuleFilter}
    (hb : v.block? = some b) (hf : ofJson v = .ok f)
    (hop : b.get? "match-operator" ≠ some (.str "or")) {fs : List PolicyFilter}
    (hfs : fs ∈ [[.rules f], (f.onlyParts b).map .rules, [.allOf ((f.onlyParts b).map .rules)]])
    (rules : List Rule) (notes : MatchNotes) (s : Store) :
    ∃ notes', result (Run.narrow (.rules rules) notes fs).run s =
      .ok (.rules (rules.filter f.admits), notes') := by
  -- together, the parts admit what the filter admits
  have hsame : ∀ r, ((f.onlyParts b).map PolicyFilter.rules).all
      (fun g ↦ g.holds s.inventory.ports (.rule r)) = f.admits r := fun r ↦
    List.all_map.trans (all_onlyParts hb hf hop r)
  have hsupports : ∀ g ∈ (f.onlyParts b).map PolicyFilter.rules, g.supports .rule = true := by
    rintro _ hg
    obtain ⟨g, -, rfl⟩ := List.mem_map.mp hg
    rfl
  -- each of the three ways supports rules and holds of the same ones
  have hkeeps : (∀ g ∈ fs, g.supports .rule = true) ∧
      ∀ r, fs.all (fun g ↦ g.holds s.inventory.ports (.rule r)) = f.admits r := by
    simp only [List.mem_cons, List.not_mem_nil, or_false] at hfs
    obtain rfl | rfl | rfl := hfs
    · exact ⟨by simp [PolicyFilter.supports], fun r ↦ Bool.and_true _⟩
    · exact ⟨hsupports, hsame⟩
    · refine ⟨?_, fun r ↦ ?_⟩
      · simp [PolicyFilter.supports, PolicyFilter.allSupport_eq_all]
      · simpa [PolicyFilter.holds] using hsame r
  have hnarrow := Run.narrow_rules hkeeps.1 rules notes s
  simp only [hkeeps.2] at hnarrow
  exact ⟨_, hnarrow⟩

/-- **A block of a rule filter is what its parts are.** All its parts are accepted. If all answers
are needed, the block matches what the part with the direction alone and the parts with one more key
match; a key more never widens it; and in a run its parts keep the same rules as the block, one
after the other or joined by `and`. If one answer is needed, it matches the rules of its direction
and what the part of one question matches, the ports being one question with two keys. -/
theorem RuleFilter.block_decomposes {v : Json} {b : Block} {f : RuleFilter}
    (hb : v.block? = some b) (hf : ofJson v = .ok f) :
    (∀ ks, ∃ g, ofJson (part b ks) = .ok g) ∧
      (b.get? "match-operator" ≠ some (.str "or") →
        (∀ r, Matches v r ↔ Matches (part b []) r ∧
          ∀ k w, b.get? k = some w → k ≠ "type" → k ≠ "match-operator" →
            Matches (part b [k]) r) ∧
        (∀ v' b' r, v'.block? = some b' → b'.get? "match-operator" ≠ some (.str "or") →
          (∀ k w, b.get? k = some w → b'.get? k = some w) → Matches v' r → Matches v r) ∧
        ∃ whole singles, PolicyFilter.ofJson v = .ok whole ∧
          PolicyFilter.ofItems (parts b) = .ok singles ∧
          PolicyFilter.ofJson (.obj [("and", .arr (parts b))]) = .ok (.allOf singles) ∧
          ∀ fs ∈ [[whole], singles, [.allOf singles]], ∀ rules notes s, ∃ notes',
            result (Run.narrow (.rules rules) notes fs).run s =
              .ok (.rules (rules.filter f.admits), notes')) ∧
      (b.get? "match-operator" = some (.str "or") →
        ∀ r, Matches v r ↔ b.get? "type" = some (.str r.direction.name) ∨
          ∃ p ≠ Predicate.direction, (∃ k ∈ p.keys, ∃ w, b.get? k = some w) ∧
            Matches (part b ("match-operator" :: p.keys)) r) := by
  refine ⟨fun ks ↦ ⟨_, ofJson_part hb hf ks⟩, fun hop ↦ ⟨fun r ↦ matches_and_iff hb hf hop, ?_, ?_⟩,
    fun hop r ↦ matches_or_iff hb hf hop⟩
  · exact fun v' b' r hb' hop' hmore ↦ matches_of_extends hb hf hop hb' hop' hmore
  · have hsingles := PolicyFilter.ofItems_of_ruleFilters (ofJson_parts hb hf)
    refine ⟨_, _, PolicyFilter.ofJson_of_ruleFilter hf, hsingles, ?_, ?_⟩
    · rw [PolicyFilter.ofJson, hsingles]
      rfl
    · exact fun fs hfs rules notes s ↦ narrow_onlyParts hb hf hop hfs rules notes s

/-- A block about ports, with the two keys that its one question has. -/
def RuleFilter.portsBlock : Block :=
  .ofList [("type", .str "ingress"), ("InPorts", .int 22), ("NotInPorts", .arr [.int 443])]

/-- The block about ports is accepted and falls into a part for each of its keys; with `or` in it,
the two keys stay together. -/
theorem RuleFilter.portsBlock_decomposes :
    ofJson (.ofBlock portsBlock) =
        .ok { direction := .ingress, inPorts := [22], notInPorts := [443] } ∧
      (∀ r, Matches (.ofBlock portsBlock) r → Matches (part portsBlock ["NotInPorts"]) r) ∧
      ∀ r, Matches (part (portsBlock.insert "match-operator" (.str "or"))
          ["match-operator", "InPorts", "NotInPorts"]) r →
        Matches (.ofBlock (portsBlock.insert "match-operator" (.str "or"))) r := by
  refine ⟨rfl, fun r h ↦ ?_, fun r h ↦ ?_⟩
  · have hand := (block_decomposes (Json.block?_ofBlock portsBlock) rfl).2.1 nofun
    exact ((hand.1 r).mp h).2 "NotInPorts" _ rfl (by decide) (by decide)
  · have hor := (block_decomposes (Json.block?_ofBlock
      (portsBlock.insert "match-operator" (.str "or"))) rfl).2.2 rfl
    exact (hor r).mpr (.inr ⟨.ports, nofun, ⟨"InPorts", List.mem_cons_self, _, rfl⟩, h⟩)

end NetWarden
