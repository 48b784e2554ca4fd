import NetWarden.Bulk.Outcome
import NetWarden.Proofs.Dictionaries

/-!
# Each once

Two ways to say each thing once. `sortedDistinct` puts texts in order and has the same texts as the
list it is made of. `distinctOn` keeps the first element of each key: **its keys are those of the
list, each once**, whatever was seen before left out, and they come in the order in which they stand
there first (`distinctOn_eq_filterMap`).
-/

namespace NetWarden

/-- **The texts in order are the same texts.** -/
@[simp] theorem mem_sortedDistinct {texts : List String} {t : String} :
    t ∈ sortedDistinct texts ↔ t ∈ texts := by
  rw [sortedDistinct, Dictionary.mem_keys_ofList, List.map_map]
  simp

@[simp] theorem isEmpty_sortedDistinct (texts : List String) :
    (sortedDistinct texts).isEmpty = texts.isEmpty := by
  rw [Bool.eq_iff_iff, List.isEmpty_iff, List.isEmpty_iff, List.eq_nil_iff_forall_not_mem,
    List.eq_nil_iff_forall_not_mem]
  simp

/-! ### The first of each key -/

section

variable {α : Type} (key : α → String)

theorem distinctOn_sublist (seen : List String) (as : List α) :
    (distinctOn key seen as).Sublist as := by
  induction as generalizing seen with
  | nil => exact .slnil
  | cons a as ih =>
    rw [distinctOn]
    split
    · exact (ih seen).cons a
    · exact (ih _).cons_cons a

/-- **The keys are those of the list that were not seen before.** -/
theorem mem_map_distinctOn_iff {k : String} (seen : List String) (as : List α) :
    k ∈ (distinctOn key seen as).map key ↔ k ∈ as.map key ∧ k ∉ seen := by
  induction as generalizing seen with
  | nil => simp [distinctOn]
  | cons a as ih =>
    rw [distinctOn]
    split
    · rename_i h
      -- the first is passed over, and its key does not count as it was seen
      have ha : key a ∈ seen := List.contains_iff_mem.mp h
      rw [ih, List.map_cons, List.mem_cons]
      constructor
      · exact fun ⟨hk, hs⟩ ↦ ⟨.inr hk, hs⟩
      · rintro ⟨rfl | hk, hs⟩
        · exact absurd ha hs
        · exact ⟨hk, hs⟩
    · rename_i h
      -- the first is taken, and its key counts as seen for the rest
      have ha : key a ∉ seen := fun hm ↦ h (List.contains_iff_mem.mpr hm)
      rw [List.map_cons, List.mem_cons, ih, List.map_cons, List.mem_cons, List.mem_cons]
      by_cases hk : k = key a
      · simp [hk, ha]
      · simp [hk]

/-- **No key stands twice.** -/
theorem nodup_map_distinctOn (seen : List String) (as : List α) :
    ((distinctOn key seen as).map key).Nodup := by
  induction as generalizing seen with
  | nil => exact List.nodup_nil
  | cons a as ih =>
    rw [distinctOn]
    split
    · exact ih seen
    · rw [List.map_cons, List.nodup_cons]
      refine ⟨fun hm ↦ ?_, ih _⟩
      exact ((mem_map_distinctOn_iff key _ as).mp hm).2 List.mem_cons_self

/-- If the key tells the elements apart, none is lost. -/
theorem mem_distinctOn_iff {as : List α} (hinj : ∀ a ∈ as, ∀ b ∈ as, key a = key b → a = b)
    {a : α} : a ∈ distinctOn key [] as ↔ a ∈ as := by
  refine ⟨fun h ↦ (distinctOn_sublist key [] as).subset h, fun h ↦ ?_⟩
  have hkey : key a ∈ (distinctOn key [] as).map key :=
    (mem_map_distinctOn_iff key [] as).mpr ⟨List.mem_map_of_mem h, List.not_mem_nil⟩
  obtain ⟨b, hb, hab⟩ := List.mem_map.mp hkey
  rwa [← hinj b ((distinctOn_sublist key [] as).subset hb) a h hab]

/-- What is kept is the first of the list with its key. -/
theorem find?_of_mem_distinctOn {a : α} (seen : List String) {as : List α}
    (ha : a ∈ distinctOn key seen as) : (as.find? fun b ↦ key b == key a) = some a := by
  induction as generalizing seen with
  | nil => exact absurd ha List.not_mem_nil
  | cons b as ih =>
    -- an element that comes later has another key than the first one
    have hskip : ∀ seen, key b ∈ seen → a ∈ distinctOn key seen as →
        ((b :: as).find? fun c ↦ key c == key a) = some a := by
      intro seen hb ha
      have hkey := ((mem_map_distinctOn_iff key seen as).mp (List.mem_map_of_mem ha)).2
      have hne : ¬ (key b == key a) = true := fun h ↦ hkey (beq_iff_eq.mp h ▸ hb)
      exact Eq.trans (List.find?_cons_of_neg hne) (ih seen ha)
    rw [distinctOn] at ha
    split at ha
    · rename_i h
      exact hskip seen (List.contains_iff_mem.mp h) ha
    · rcases List.mem_cons.mp ha with rfl | ha
      · exact List.find?_cons_of_pos BEq.rfl
      · exact hskip _ List.mem_cons_self ha

theorem map_distinctOn (seen : List String) (as : List α) :
    (distinctOn key seen as).map key = distinctOn id seen (as.map key) := by
  induction as generalizing seen with
  | nil => rfl
  | cons a as ih =>
    simp only [List.map_cons, distinctOn, id_eq]
    split
    · exact ih seen
    · rw [List.map_cons, ih]

end

/-! ### Texts that are their own keys -/

theorem distinctOn_id_eq_eraseDups_filter (seen texts : List String) :
    distinctOn id seen texts = (texts.filter fun t ↦ !seen.contains t).eraseDups := by
  induction texts generalizing seen with
  | nil => rfl
  | cons t texts ih =>
    rw [distinctOn]
    split
    · rename_i h
      rw [ih, List.filter_cons_of_neg (by simpa using h)]
    · rename_i h
      rw [ih, List.filter_cons_of_pos (by simpa using h), List.eraseDups_cons, List.filter_filter]
      simp only [List.contains_cons, Bool.not_or, id_eq]

/-- **Each text is kept where it stands first.** -/
theorem distinctOn_id_eq_eraseDups (texts : List String) :
    distinctOn id [] texts = texts.eraseDups := by
  rw [distinctOn_id_eq_eraseDups_filter]
  exact congrArg List.eraseDups (List.filter_eq_self.mpr fun _ _ ↦ rfl)

/-- **For each key, where it stands first, the first element with it is kept.** -/
theorem distinctOn_eq_filterMap {α : Type} (key : α → String) (as : List α) :
    distinctOn key [] as =
      (as.map key).eraseDups.filterMap fun k ↦ as.find? fun a ↦ key a == k := by
  rw [← distinctOn_id_eq_eraseDups, ← map_distinctOn, List.filterMap_map]
  calc distinctOn key [] as
      = (distinctOn key [] as).filterMap some := List.filterMap_some.symm
    _ = _ := List.filterMap_congr fun _ ha ↦ (find?_of_mem_distinctOn key [] ha).symm

end NetWarden
