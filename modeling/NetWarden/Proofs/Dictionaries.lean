import Mathlib.Data.List.Forall2
import Mathlib.Data.List.Nodup
import NetWarden.Dictionary

/-!
# Look-ups in dictionaries

What stands under each key is all there is to a dictionary: **two dictionaries with the same
look-ups are one** (`Dictionary.ext_get?`), and the entries of a dictionary make that dictionary
again. In entries that are in no order, the first under a key counts; entries that are related one
by one are related under every key (`Dictionary.rel_lookupIn`).
-/

namespace NetWarden

namespace Dictionary

variable {α β : Type}

/-! ### Keys -/

theorem mem_keys_iff (d : Dictionary α) (key : String) :
    key ∈ d.keys ↔ ∃ v, d.get? key = some v := by
  constructor
  · intro h
    obtain ⟨⟨k, v⟩, he, rfl⟩ := List.mem_map.mp h
    exact ⟨v, (d.get?_eq_some_iff k v).mpr he⟩
  · rintro ⟨v, hv⟩
    exact List.mem_map.mpr ⟨(key, v), (d.get?_eq_some_iff key v).mp hv, rfl⟩

theorem mem_keys_insert (d : Dictionary α) (key other : String) (value : α) :
    other ∈ (d.insert key value).keys ↔ other = key ∨ other ∈ d.keys := by
  simp only [mem_keys_iff, get?_insert]
  by_cases h : other = key <;> simp [h]

/-- The keys do not hang on the value that is put in. -/
theorem keys_insert_congr (d : Dictionary α) (key : String) (v w : α) :
    (d.insert key v).keys = (d.insert key w).keys := by
  obtain ⟨es, hes⟩ := d
  show (insertInto key v es).map Prod.fst = (insertInto key w es).map Prod.fst
  clear hes
  induction es with
  | nil => rfl
  | cons e es ih =>
    rw [insertInto, insertInto]
    split
    · rfl
    · split
      · rfl
      · exact congrArg (e.1 :: ·) ih

theorem mem_keys_ofList (es : List (String × α)) (key : String) :
    key ∈ (ofList es).keys ↔ key ∈ es.map Prod.fst := by
  -- the entries are put in one after the other, so the dictionary so far is general
  have hfold : ∀ (es : List (String × α)) (d : Dictionary α),
      key ∈ (es.foldl (fun d e ↦ d.insert e.1 e.2) d).keys ↔
        key ∈ es.map Prod.fst ∨ key ∈ d.keys := by
    intro es
    induction es with
    | nil => simp
    | cons e es ih =>
      intro d
      rw [List.foldl_cons, ih, mem_keys_insert, List.map_cons, List.mem_cons, or_left_comm,
        or_assoc]
  rw [ofList, hfold]
  simp [keys, empty]

/-! ### What stands under the keys -/

theorem nodup_map_fst {es : List (String × α)} (h : es.Pairwise fun a b ↦ a.1 < b.1) :
    (es.map Prod.fst).Nodup := by
  refine List.pairwise_map.mpr (h.imp fun {a b} hab heq ↦ ?_)
  rw [heq] at hab
  exact String.lt_irrefl b.1 hab

/-- **Two dictionaries with the same look-ups are one.** -/
theorem ext_get? {d e : Dictionary α} (h : ∀ k, d.get? k = e.get? k) : d = e := by
  obtain ⟨ds, hds⟩ := d
  obtain ⟨es, hes⟩ := e
  have hmem : ∀ x, x ∈ ds ↔ x ∈ es := by
    rintro ⟨k, v⟩
    rw [← get?_eq_some_iff ⟨ds, hds⟩, ← get?_eq_some_iff ⟨es, hes⟩, h]
  have hperm : ds.Perm es := (List.perm_ext_iff_of_nodup (.of_map Prod.fst (nodup_map_fst hds))
    (.of_map Prod.fst (nodup_map_fst hes))).mpr hmem
  obtain rfl : ds = es :=
    hperm.eq_of_pairwise (fun a b _ _ hab hba ↦ absurd (String.lt_trans hab hba)
      (String.lt_irrefl a.1)) hds hes
  rfl

/-- What holds of each entry holds with one more if it holds of that one. -/
theorem forall_get?_insert_iff {d : Dictionary α} {key : String} {value : α}
    {p : String → α → Prop} (h : d.get? key = none) :
    (∀ k v, (d.insert key value).get? k = some v → p k v) ↔
      p key value ∧ ∀ k v, d.get? k = some v → p k v := by
  simp only [get?_insert]
  constructor
  · intro hall
    refine ⟨hall key value (if_pos rfl), fun k v hv ↦ hall k v ?_⟩
    -- the new entry hides none, for its key was free
    have hk : k ≠ key := by
      rintro rfl
      rw [h] at hv
      cases hv
    rw [if_neg hk, hv]
  · rintro ⟨hkey, hall⟩ k v hv
    split at hv
    · rename_i hk
      cases hv
      exact hk ▸ hkey
    · exact hall k v hv

theorem lookupIn_eq_none_iff {key : String} {es : List (String × α)} :
    lookupIn key es = none ↔ key ∉ es.map Prod.fst := by
  induction es with
  | nil => simp [lookupIn]
  | cons e es ih => by_cases h : key = e.1 <;> simp [lookupIn, h, ih]

/-- **The entries of a dictionary make that dictionary.** -/
@[simp] theorem ofList_entries (d : Dictionary α) : ofList d.entries = d := by
  -- the entries are put in one after the other, so the dictionary so far is general
  have hfold : ∀ (es : List (String × α)) (d : Dictionary α) (k : String),
      (es.map Prod.fst).Nodup →
      (es.foldl (fun d e ↦ d.insert e.1 e.2) d).get? k = (lookupIn k es).or (d.get? k) := by
    intro es
    induction es with
    | nil => exact fun d k _ ↦ rfl
    | cons e es ih =>
      intro d k hes
      rw [List.map_cons, List.nodup_cons] at hes
      rw [List.foldl_cons, ih _ _ hes.2, get?_insert, lookupIn]
      by_cases hk : k = e.1
      · rw [if_pos hk, if_pos hk, hk, lookupIn_eq_none_iff.mpr hes.1]
        rfl
      · rw [if_neg hk, if_neg hk]
  refine ext_get? fun k ↦ ?_
  rw [ofList, hfold _ _ _ (nodup_map_fst d.sorted), get?_empty, Option.or_none]
  rfl

/-- There is nothing under a key that comes before all others. -/
theorem lookupIn_eq_none_of_lt {key : String} {es : List (String × α)} (h : ∀ e ∈ es, key < e.1) :
    lookupIn key es = none := by
  rw [lookupIn_eq_none_iff, List.mem_map]
  rintro ⟨e, he, rfl⟩
  exact String.lt_irrefl e.1 (h e he)

/-! ### Entries that are related one by one -/

/-- The same key and related values. -/
def EntryRel (r : α → β → Prop) (e : String × α) (f : String × β) : Prop := e.1 = f.1 ∧ r e.2 f.2

section

variable {r : α → β → Prop} {es : List (String × α)} {fs : List (String × β)}

theorem map_fst_of_entryRel (h : List.Forall₂ (EntryRel r) es fs) :
    es.map Prod.fst = fs.map Prod.fst := by
  induction h with
  | nil => rfl
  | cons hef _ ih => rw [List.map_cons, List.map_cons, hef.1, ih]

/-- None is lost by keeping those under some keys, if these are all the keys. -/
theorem filter_contains_of_entryRel (h : List.Forall₂ (EntryRel r) es fs) {keys : List String}
    (hkeys : ∀ f ∈ fs, f.1 ∈ keys) : es.filter (fun e ↦ keys.contains e.1) = es := by
  refine List.filter_eq_self.mpr fun e he ↦ List.contains_iff_mem.mpr ?_
  obtain ⟨f, hf, heq⟩ := List.mem_map.mp (map_fst_of_entryRel h ▸ List.mem_map_of_mem he)
  exact heq ▸ hkeys f hf

/-- **Under every key related values are found.** -/
theorem rel_lookupIn (h : List.Forall₂ (EntryRel r) es fs) (key : String) :
    Option.Rel r (lookupIn key es) (lookupIn key fs) := by
  induction h with
  | nil => exact .none
  | cons hef _ ih =>
    rw [lookupIn, lookupIn, hef.1]
    split
    · exact .some hef.2
    · exact ih

end

end Dictionary

end NetWarden
