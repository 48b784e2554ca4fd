import NetWarden.Proofs.Records.Sources
import NetWarden.Yaml.Place
import NetWarden.Yaml.Printer

/-!
# Places in YAML documents

A node *states* a value if it is written plainly: a scalar without a tag that states the value, a
list whose items state the items, or a mapping whose keys are the keys and whose values state the
values. Nothing plain is an alias, so such a node is the one that it stands for.

**Places that state a value are faithful to it** (the instance below). What a reader wants of a
scalar is asked of its letters and its quotes, and not of the value that it states. But of a scalar
that states a truth value or a number these are the letters of that value, and nothing else that is
set is written without quotes and letters.
-/

namespace NetWarden

open Dictionary

namespace Yaml

/-! ### What a node states -/

/-- Whether a node is a scalar without a tag that has this text. -/
def isKey (key : String) : Node → Bool
  | .scalar text _ none => text == key
  | _ => false

mutual

/-- Whether a node states a value, without aliases and tags. -/
def states : Json → Node → Bool
  | .arr vs, .sequence none items => stateItems vs items
  | .obj fs, .mapping none entries => stateEntries fs entries
  | .arr _, _ => false
  | .obj _, _ => false
  | v, .scalar text style none => (scalarValue? text style none).any v.same
  | _, _ => false

/-- Whether the items of a list state these items. -/
def stateItems : List Json → List Node → Bool
  | [], [] => true
  | v :: vs, node :: nodes => states v node && stateItems vs nodes
  | _, _ => false

/-- Whether the entries of a mapping state these fields. -/
def stateEntries : List (String × Json) → List (Node × Node) → Bool
  | [], [] => true
  | (key, v) :: fs, (node, value) :: es => isKey key node && states v value && stateEntries fs es
  | _, _ => false

end

/-- Whether a value that is written as a document is read back: the document has a root, and its
root states the value. -/
def readsBack (v : Json) : Bool := ((Document.read? (write v)).bind Document.root).any (states v)

variable {v : Json} {node : Node} {vs : List Json} {items : List Node} {fs : List (String × Json)}
  {es : List (Node × Node)}

theorem forall₂_of_stateItems (h : stateItems vs items = true) :
    List.Forall₂ (fun item v ↦ states v item = true) items vs := by
  induction vs generalizing items with
  | nil =>
    cases items with
    | nil => exact .nil
    | cons item items => cases h
  | cons v vs ih =>
    cases items with
    | nil => cases h
    | cons item items =>
      obtain ⟨hitem, hitems⟩ := Bool.and_eq_true_iff.mp h
      exact .cons hitem (ih hitems)

theorem forall₂_of_stateEntries (h : stateEntries fs es = true) :
    List.Forall₂ (fun e f ↦ isKey f.1 e.1 = true ∧ states f.2 e.2 = true) es fs := by
  induction fs generalizing es with
  | nil =>
    cases es with
    | nil => exact .nil
    | cons e es => cases h
  | cons f fs ih =>
    cases es with
    | nil => cases h
    | cons e es =>
      obtain ⟨hentry, hentries⟩ := Bool.and_eq_true_iff.mp h
      exact .cons (Bool.and_eq_true_iff.mp hentry) (ih hentries)

/-- What states a list is a list. -/
theorem exists_of_states_arr (h : states (.arr vs) node = true) :
    ∃ items, node = .sequence none items ∧
      List.Forall₂ (fun item v ↦ states v item = true) items vs := by
  cases node with
  | sequence tag items =>
    cases tag with
    | none => exact ⟨items, rfl, forall₂_of_stateItems h⟩
    | some tag => cases h
  | _ => cases h

/-- What states an object is a mapping. -/
theorem exists_of_states_obj (h : states (.obj fs) node = true) :
    ∃ es, node = .mapping none es ∧
      List.Forall₂ (fun e f ↦ isKey f.1 e.1 = true ∧ states f.2 e.2 = true) es fs := by
  cases node with
  | mapping tag es =>
    cases tag with
    | none => exact ⟨es, rfl, forall₂_of_stateEntries h⟩
    | some tag => cases h
  | _ => cases h

/-- Whether a value is neither a list nor an object. -/
def isLeaf : Json → Bool
  | .arr _ => false
  | .obj _ => false
  | _ => true

/-- What states any other value is a scalar. -/
theorem exists_of_states_leaf (hv : isLeaf v = true) (h : states v node = true) :
    ∃ text style w, node = .scalar text style none ∧ scalarValue? text style none = some w ∧
      v.same w = true := by
  cases node with
  | scalar text style tag =>
    cases tag with
    | none =>
      have hsame : (scalarValue? text style none).any v.same = true := by
        cases v with
        | arr vs => cases hv
        | obj fs => cases hv
        | _ => exact h
      -- a scalar that has no value states nothing
      rcases hw : scalarValue? text style none with - | w
      · rw [hw] at hsame
        cases hsame
      · rw [hw] at hsame
        exact ⟨text, style, w, rfl, hw, hsame⟩
    | some tag => cases v <;> cases h
  | _ => cases v <;> first | cases h | cases hv

/-- Whether a value is a text, a truth value or a whole number. -/
def isExact : Json → Bool
  | .str _ => true
  | .bool _ => true
  | .int _ => true
  | _ => false

theorem isLeaf_of_isExact (h : isExact v = true) : isLeaf v = true := by
  cases v <;> first | rfl | cases h

/-- Of these, no two are the same. -/
theorem eq_of_same {w : Json} (hv : isExact v = true) (h : v.same w = true) : w = v := by
  cases v <;> cases w <;> simp_all [isExact, Json.same]

/-! ### What the letters of a scalar state -/

section

variable {text s : String} {style : Style} {b : Bool} {i : Int}

/-- The letters of a bare scalar are asked for one meaning after the other. -/
theorem bareValue?_cases (h : bareValue? text = some v) :
    ((text.isEmpty || isNullWord text) = true ∧ v = .null) ∨
      (text.isEmpty || isNullWord text) = false ∧
        ((∃ b, truth? text = some b ∧ v = .bool b) ∨ (∃ i, whole? text = some i ∧ v = .int i) ∨
          v = .null ∨ (∃ x, v = .float x) ∨ v = .str text) := by
  rw [bareValue?] at h
  split at h
  · rename_i hnull
    exact .inl ⟨hnull, (Option.some.inj h).symm⟩
  · rename_i hnull
    refine .inr ⟨Bool.eq_false_iff.mpr hnull, ?_⟩
    split at h
    · rename_i b hb
      exact .inl ⟨b, hb, (Option.some.inj h).symm⟩
    · rename_i i _ hi
      -- a whole number that fits no place of 64 bits is refused
      rw [wholeValue?] at h
      split at h
      · exact .inr (.inl ⟨i, (Option.filter_eq_some_iff.mp hi).1, (Option.some.inj h).symm⟩)
      · cases h
    · -- no whole number: padded digits are a text, and what is unbounded says nothing
      refine .inr (.inr ?_)
      split at h
      · exact .inr (.inr (Option.some.inj h).symm)
      · split at h
        · exact .inl (Option.some.inj h).symm
        · split at h
          · exact .inr (.inl ⟨_, (Option.some.inj h).symm⟩)
          · exact .inr (.inr (Option.some.inj h).symm)

/-- A text stands in its own letters. -/
theorem text_eq_of_scalarValue? (h : scalarValue? text style none = some (.str s)) : text = s := by
  rw [scalarValue?] at h
  split at h
  · obtain ⟨-, h⟩ | ⟨-, ⟨b, -, h⟩ | ⟨i, -, h⟩ | h | ⟨x, h⟩ | h⟩ := bareValue?_cases h <;> cases h
    rfl
  · exact Json.str.inj (Option.some.inj h)

/-- A truth value stands bare, in a word for it. -/
theorem truth?_of_scalarValue? (h : scalarValue? text style none = some (.bool b)) :
    style = .plain ∧ truth? text = some b := by
  rw [scalarValue?] at h
  split at h
  · rename_i hplain
    obtain ⟨-, h⟩ | ⟨-, ⟨b, hb, h⟩ | ⟨i, -, h⟩ | h | ⟨x, h⟩ | h⟩ := bareValue?_cases h <;> cases h
    exact ⟨hplain, hb⟩
  · cases h

/-- A whole number stands bare, in digits for it. -/
theorem whole?_of_scalarValue? (h : scalarValue? text style none = some (.int i)) :
    style = .plain ∧ whole? text = some i := by
  rw [scalarValue?] at h
  split at h
  · rename_i hplain
    obtain ⟨-, h⟩ | ⟨-, ⟨b, -, h⟩ | ⟨i, hi, h⟩ | h | ⟨x, h⟩ | h⟩ := bareValue?_cases h <;> cases h
    exact ⟨hplain, hi⟩
  · cases h

/-- What is set and stands bare is not empty, nor a word for the absent value. -/
theorem isSet_of_scalarValue? (h : scalarValue? text .plain none = some v)
    (hv : v.isNull = false) : (text.isEmpty || isNullWord text) = false := by
  rw [scalarValue?, if_pos rfl] at h
  rcases bareValue?_cases h with ⟨-, rfl⟩ | ⟨hset, -⟩
  · cases hv
  · exact hset

end

/-! ### Places -/

namespace Place

/-- The node at a place states a value, and so many levels of it may be entered. -/
structure Shows (n : Nat) (p : Place) (v : Json) : Prop where
  /-- What the node states. -/
  node : states v p.node = true
  /-- The levels. -/
  depth : n ≤ p.depth

variable {n : Nat} {p : Place} {s : String}

theorem shows_inside (h : n + 1 ≤ p.depth) {node : Node} (hnode : states v node = true) :
    Shows n (p.inside node) v where
  node := hnode
  depth := Nat.le_sub_of_add_le h

/-- A plain scalar is what the place stands for. -/
theorem exists_scalar (hv : isExact v = true) (h : Shows n p v) :
    ∃ text style, p.resolved? = some (.scalar text style none) ∧
      scalarValue? text style none = some v := by
  obtain ⟨text, style, w, hnode, hw, hsame⟩ := exists_of_states_leaf (isLeaf_of_isExact hv) h.node
  refine ⟨text, style, by rw [resolved?, hnode]; rfl, ?_⟩
  rw [hw, eq_of_same hv hsame]

theorem exists_items {vs : List Json} (h : Shows (n + 1) p (.arr vs)) :
    ∃ ps, items? p = some ps ∧ List.Forall₂ (Shows n) ps vs := by
  have hdepth : 0 < p.depth := Nat.lt_of_lt_of_le n.succ_pos h.depth
  obtain ⟨items, hnode, hitems⟩ := exists_of_states_arr h.node
  have hresolved : p.resolved? = some (.sequence none items) := by rw [resolved?, hnode]; rfl
  refine ⟨items.map p.inside, ?_, ?_⟩
  · simp only [items?, hresolved, Option.bind_eq_bind, Option.bind_some, hdepth, if_true]
  · rw [List.forall₂_map_left_iff]
    exact hitems.imp fun _ _ hitem ↦ shows_inside h.depth hitem

theorem keyText?_of_isKey {key : String} {node : Node} (d : Document)
    (h : isKey key node = true) : d.keyText? node = some key := by
  cases node with
  | scalar text style tag =>
    cases tag with
    | none =>
      obtain rfl : text = key := beq_iff_eq.mp h
      rfl
    | some tag => cases h
  | _ => cases h

theorem exists_entries {fs : List (String × Json)} (h : Shows (n + 1) p (.obj fs)) :
    ∃ es, entries? p = some es ∧ List.Forall₂ (EntryRel (Shows n)) es fs := by
  have hdepth : 0 < p.depth := Nat.lt_of_lt_of_le n.succ_pos h.depth
  obtain ⟨entries, hnode, hentries⟩ := exists_of_states_obj h.node
  have hresolved : p.resolved? = some (.mapping none entries) := by rw [resolved?, hnode]; rfl
  -- entry by entry, each read at the place below
  have hread : ∀ {entries fs}, List.Forall₂
      (fun (e : Node × Node) f ↦ isKey f.1 e.1 = true ∧ states f.2 e.2 = true) entries fs →
      ∃ es, entries.mapM (fun e ↦ (p.document.keyText? e.1).map fun key ↦ (key, p.inside e.2)) =
        some es ∧ List.Forall₂ (EntryRel (Shows n)) es fs := by
    intro entries fs hentries
    induction hentries with
    | nil => exact ⟨[], rfl, .nil⟩
    | @cons e f entries fs hef _ ih =>
      obtain ⟨es, hes, hrel⟩ := ih
      refine ⟨(f.1, p.inside e.2) :: es, ?_, .cons ⟨rfl, shows_inside h.depth hef.2⟩ hrel⟩
      rw [List.mapM_cons, keyText?_of_isKey _ hef.1, hes]
      rfl
  obtain ⟨es, hes, hrel⟩ := hread hentries
  refine ⟨es, ?_, hrel⟩
  simp only [entries?, hresolved, Option.bind_eq_bind, Option.bind_some, hdepth, if_true, hes]

/-- If every field is declared and none is repeated, the fields are the entries. -/
theorem exists_known {fs : List (String × Json)} {declared : List String}
    (h : Shows (n + 1) p (.obj fs)) (hnodup : (fs.map Prod.fst).Nodup)
    (hdeclared : ∀ f ∈ fs, f.1 ∈ declared) :
    ∃ es, fields? declared p = some ⟨es, false⟩ ∧ List.Forall₂ (EntryRel (Shows n)) es fs := by
  obtain ⟨es, hentries, hrel⟩ := exists_entries h
  have hdistinct : (es.map Prod.fst).Nodup := map_fst_of_entryRel hrel ▸ hnodup
  refine ⟨es, ?_, hrel⟩
  simp only [fields?, hentries, Option.bind_eq_bind, Option.bind_some,
    filter_contains_of_entryRel hrel hdeclared, hdistinct, if_true, Nat.lt_irrefl, decide_false]

/-- What is not the absent value is set, be it a scalar or not. -/
theorem set?_eq (h : Shows n p v) (hv : v.isNull = false) : set? p = some (some p) := by
  -- a bare scalar is asked whether it is a word for nothing; any other is set
  have hscalar : isLeaf v = true → set? p = some (some p) := by
    intro hleaf
    obtain ⟨text, style, w, hnode, hw, hsame⟩ := exists_of_states_leaf hleaf h.node
    have hset : w.isNull = false := by
      cases v <;> cases w <;> simp_all [Json.same, Json.isNull]
    have hresolved : p.resolved? = some (.scalar text style none) := by rw [resolved?, hnode]; rfl
    simp only [set?, hresolved, Option.bind_eq_bind, Option.bind_some]
    cases style with
    | plain => exact if_neg (Bool.eq_false_iff.mp (isSet_of_scalarValue? hw hset))
    | _ => rfl
  cases v with
  | arr vs =>
    obtain ⟨items, hnode, -⟩ := exists_of_states_arr h.node
    rw [set?, resolved?, hnode]
    rfl
  | obj fs =>
    obtain ⟨es, hnode, -⟩ := exists_of_states_obj h.node
    rw [set?, resolved?, hnode]
    rfl
  | _ => exact hscalar rfl

instance : Source.Faithful Place where
  Shows := Shows
  text?_eq h := by
    obtain ⟨text, style, hresolved, hs⟩ := exists_scalar rfl h
    show text? _ = _
    rw [← text_eq_of_scalarValue? hs]
    simp only [text?, hresolved, Option.bind_eq_bind, Option.bind_some]
  name?_eq h := by
    obtain ⟨text, style, hresolved, hs⟩ := exists_scalar rfl h
    show name? _ = _
    rw [← text_eq_of_scalarValue? hs]
    simp only [name?, hresolved, Option.bind_eq_bind, Option.bind_some, Option.map_none]
  bool?_eq h := by
    obtain ⟨text, style, hresolved, hb⟩ := exists_scalar rfl h
    obtain ⟨rfl, htruth⟩ := truth?_of_scalarValue? hb
    show bool? _ = _
    simp only [bool?, hresolved, Option.bind_eq_bind, Option.bind_some, isReadable,
      beq_self_eq_true, Bool.true_or, if_true, htruth]
  int64?_eq h := by
    obtain ⟨text, style, hresolved, hi⟩ := exists_scalar rfl h
    obtain ⟨rfl, hwhole⟩ := whole?_of_scalarValue? hi
    show int64? _ = _
    simp only [int64?, hresolved, Option.bind_eq_bind, Option.bind_some, isReadable,
      beq_self_eq_true, Bool.true_or, if_true, hwhole]
  set?_eq := set?_eq
  exists_items := exists_items
  exists_entries := exists_entries
  exists_known := exists_known

/-- **A value that is read back is shown** at the start of the document that was written. -/
theorem exists_shows_start (hn : n ≤ 128) (h : readsBack v = true) :
    ∃ d, Document.read? (write v) = some d ∧ Shows n (start d) v := by
  rw [readsBack] at h
  rcases hd : Document.read? (write v) with - | d
  · rw [hd] at h
    cases h
  · rw [hd, Option.bind_some] at h
    refine ⟨d, rfl, ?_, hn⟩
    show states v (d.root.getD .blank) = true
    rcases hroot : d.root with - | root
    · rw [hroot] at h
      cases h
    · rw [hroot] at h
      exact h

end Place

end Yaml

end NetWarden
