import NetWarden.Proofs.Records.Sources

/-!
# Places in JSON texts

A place in a JSON text shows a value if just that value is written there. **Such places are faithful
to the values** (the instance below): whatever a reader wants of one, it is given what the value
says. So every record that is read as it is written is read from a JSON text.
-/

namespace NetWarden

open Dictionary

namespace Json

theorem Written.ofItems_eq_map (vs : List Json) : Written.ofItems vs = vs.map Written.ofJson := by
  induction vs with
  | nil => rfl
  | cons v vs ih => rw [Written.ofItems, ih, List.map_cons]

theorem Written.ofFields_eq_map (fs : List (String × Json)) :
    Written.ofFields fs = fs.map fun f ↦ (some f.1, Written.ofJson f.2) := by
  induction fs with
  | nil => rfl
  | cons f fs ih => rw [Written.ofFields, ih, List.map_cons]

namespace Place

/-- Just this value is written at a place, and so many levels of it may be entered. -/
structure Shows (n : Nat) (p : Place) (v : Json) : Prop where
  /-- What is written there. -/
  node : p.node = .ofJson v
  /-- The levels. -/
  depth : n ≤ p.depth

variable {n : Nat} {p : Place} {v : Json}

theorem shows_inside (h : n + 1 ≤ p.depth) (v : Json) : Shows n (p.inside (.ofJson v)) v where
  node := rfl
  depth := Nat.le_sub_of_add_le h

theorem exists_items {vs : List Json} (h : Shows (n + 1) p (.arr vs)) :
    ∃ ps, items? p = some ps ∧ List.Forall₂ (Shows n) ps vs := by
  have hdepth : 0 < p.depth := Nat.lt_of_lt_of_le n.succ_pos h.depth
  refine ⟨(Written.ofItems vs).map p.inside, ?_, ?_⟩
  · simp only [items?, h.node, Written.ofJson, hdepth, if_true]
  · rw [Written.ofItems_eq_map, List.map_map, List.forall₂_map_left_iff]
    exact List.forall₂_same.mpr fun v _ ↦ shows_inside h.depth v

theorem exists_entries {fs : List (String × Json)} (h : Shows (n + 1) p (.obj fs)) :
    ∃ es, entries? p = some es ∧ List.Forall₂ (EntryRel (Shows n)) es fs := by
  have hdepth : 0 < p.depth := Nat.lt_of_lt_of_le n.succ_pos h.depth
  refine ⟨fs.map fun f ↦ (f.1, p.inside (.ofJson f.2)), ?_, ?_⟩
  · simp only [entries?, h.node, Written.ofJson, hdepth, if_true, Written.ofFields_eq_map]
    rw [List.mapM_map]
    refine mapM_eq_some_of_forall₂ ?_
    rw [List.forall₂_map_right_iff]
    exact List.forall₂_same.mpr fun f _ ↦ rfl
  · rw [List.forall₂_map_left_iff]
    exact List.forall₂_same.mpr fun f _ ↦ ⟨rfl, shows_inside h.depth f.2⟩

/-- If every field is declared and none is repeated, the fields are the entries. -/
theorem exists_known {fs : List (String × Json)} {declared : List String}
    (h : Shows (n + 1) p (.obj fs)) (hnodup : (fs.map Prod.fst).Nodup)
    (hdeclared : ∀ f ∈ fs, f.1 ∈ declared) :
    ∃ es, fields? declared p = some ⟨es, false⟩ ∧ List.Forall₂ (EntryRel (Shows n)) es fs := by
  obtain ⟨es, hentries, hrel⟩ := exists_entries h
  have hdistinct : distinctKeys es = true := decide_eq_true (map_fst_of_entryRel hrel ▸ hnodup)
  refine ⟨es, ?_, hrel⟩
  simp only [fields?, h.node, Written.ofJson, hentries, Option.bind_eq_bind, Option.bind_some,
    filter_contains_of_entryRel hrel hdeclared, hdistinct, if_true, Nat.lt_irrefl, decide_false]

instance : Source.Faithful Place where
  Shows := Shows
  text?_eq h := by
    show text? _ = _
    rw [text?, h.node, Written.ofJson]
  name?_eq h := by
    show name? _ = _
    rw [name?, h.node, Written.ofJson]
  bool?_eq h := by
    show bool? _ = _
    rw [bool?, h.node, Written.ofJson]
  int64?_eq h := by
    show int64? _ = _
    rw [int64?, h.node, Written.ofJson]
  set?_eq {n p v} h hv := by
    show set? p = _
    rw [set?, h.node]
    cases v with
    | null => exact absurd hv (by decide)
    | _ => rfl
  exists_items := exists_items
  exists_entries := exists_entries
  exists_known := exists_known

end Place

end Json

end NetWarden
