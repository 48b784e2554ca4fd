import NetWarden.Text.Lower

/-!
# Words in letters of either case

A text is compared with a word after it was made lower-case, by the full tables of the character
set. For a word of digits and letters of the basic alphabet this comes to **comparing letter by
letter, each in either case** (`lower_eq_iff`), since no other character has one of these as its
lower-case form (`exists_not_isBasic_lowerChar`).

Two characters come near it. The sign of the kelvin has the lower-case form `k`, so words with this
letter are left out (`basicRanges`). And `İ` becomes an `i` with a mark behind it, but the mark is
in no such word.
-/

namespace NetWarden.Text

/-- The code points of digits and of small letters, but for `k`. -/
def basicRanges : List (Nat × Nat) := [(0x30, 0x39), (0x61, 0x6A), (0x6C, 0x7A)]

/-- A digit, or a small letter that is the lower-case form of itself and its capital only. -/
def isBasic (c : Char) : Bool := inRanges basicRanges c.toNat

theorem toNat_of_isBasic {c : Char} (h : isBasic c = true) : 0 < c.toNat ∧ c.toNat < 128 := by
  simp only [isBasic, inRanges, basicRanges, List.any_cons, List.any_nil, Bool.or_eq_true,
    Bool.and_eq_true, decide_eq_true_eq, Bool.or_false] at h
  omega

theorem isBasic_of_le {c : Char} (h : 128 ≤ c.toNat) : isBasic c = false := by
  refine Bool.eq_false_iff.mpr fun hbasic ↦ ?_
  have hlt := (toNat_of_isBasic hbasic).2
  omega

/-- A number beyond the basic characters is the code point of no basic one. -/
theorem isBasic_ofNat {m : Nat} (h : 128 ≤ m) : isBasic (Char.ofNat m) = false := by
  refine Bool.eq_false_iff.mpr fun hbasic ↦ ?_
  have hbounds := toNat_of_isBasic hbasic
  by_cases hvalid : m.isValidChar
  · have htoNat : (Char.ofNat m).toNat = m := by
      rw [Char.ofNat, dif_pos hvalid]
      rfl
    omega
  · rw [Char.ofNat, dif_neg hvalid] at hbounds
    exact absurd hbounds.1 (by decide)

/-! ### One character -/

theorem toLower_eq_self {c : Char} (h : ¬ (0x41 ≤ c.toNat ∧ c.toNat ≤ 0x5A)) : c.toLower = c :=
  dif_neg fun hc : c.val ≥ 'A'.val ∧ c.val ≤ 'Z'.val ↦
    h ⟨UInt32.le_iff_toNat_le.mp hc.1, UInt32.le_iff_toNat_le.mp hc.2⟩

/-- Of the first characters, the lower-case form is that of the basic alphabet: but for the first
entry, the table is about others. -/
theorem lowerChar_of_lt {c : Char} (h : c.toNat < 128) : lowerChar c = [c.toLower] := by
  by_cases hcapital : 0x41 ≤ c.toNat ∧ c.toNat ≤ 0x5A
  · -- capitals are few, and tried one by one
    have hcapitals : ∀ n < 0x5B, 0x41 ≤ n →
        lowerChar (Char.ofNat n) = [(Char.ofNat n).toLower] := by decide +kernel
    have hc := hcapitals c.toNat (Nat.lt_succ_of_le hcapital.2) hcapital.1
    rwa [Char.ofNat_toNat] at hc
  · -- no entry of the table reaches any other
    have htable : ∀ r ∈ lowerRanges, r.1 = 0x41 ∧ r.2.1 = 0x5A ∨ 128 ≤ r.1 := by decide +kernel
    have hdotted : c.toNat ≠ 0x0130 := by omega
    rw [lowerChar, if_neg hdotted, toLower_eq_self hcapital]
    split
    · rename_i r hr
      have hin := List.find?_some hr
      simp only [Bool.and_eq_true, decide_eq_true_eq] at hin
      have hr := htable r (List.mem_of_find?_eq_some hr)
      omega
    · rfl

/-- **No other character has a basic lower-case form**: where an entry of the table leads back to
the first characters, it is that of the kelvin. -/
theorem exists_not_isBasic_lowerChar {c : Char} (h : 128 ≤ c.toNat) :
    ∃ x ∈ lowerChar c, isBasic x = false := by
  have hlow : ∀ r ∈ lowerRanges, 128 ≤ r.2.1 → 128 ≤ r.1 := by decide +kernel
  have hshift : ∀ r ∈ lowerRanges, 128 ≤ r.1 →
      r = (0x212A, 0x212A, 1, -8383) ∨ (128 : Int) ≤ r.1 + r.2.2.2 := by decide +kernel
  rw [lowerChar]
  split
  · exact ⟨Char.ofNat 0x0307, List.mem_cons_of_mem _ (List.mem_singleton_self _), by decide⟩
  · split
    · rename_i r hr
      refine ⟨_, List.mem_singleton_self _, ?_⟩
      have hin := List.find?_some hr
      simp only [Bool.and_eq_true, decide_eq_true_eq] at hin
      have hfirst := hlow r (List.mem_of_find?_eq_some hr) (Nat.le_trans h hin.1.2)
      rcases hshift r (List.mem_of_find?_eq_some hr) hfirst with rfl | hbeyond
      · -- the sign of the kelvin
        have hc : c.toNat = 0x212A := Nat.le_antisymm hin.1.2 hin.1.1
        rw [hc]
        decide
      · refine isBasic_ofNat ?_
        have hle : (r.1 : Int) ≤ c.toNat := Int.ofNat_le.mpr hin.1.1
        simp only [Int.ofNat_eq_natCast]
        omega
    · exact ⟨c, List.mem_singleton_self c, isBasic_of_le h⟩

/-! ### Whole texts -/

/-- **A text has a basic word as its lower-case form just if it has it letter by letter.** By
induction over the text, whatever stands before it: the one letter that looks around itself is not
basic. -/
theorem lowerAfter_eq_iff {before cs w : List Char} (hw : ∀ c ∈ w, isBasic c = true) :
    lowerAfter before cs = w ↔ cs.map Char.toLower = w := by
  induction cs generalizing before w with
  | nil => rfl
  | cons c cs ih =>
    rw [lowerAfter, List.map_cons]
    rcases Nat.lt_or_ge c.toNat 128 with hc | hc
    · have hsigma : c.toNat ≠ 0x03A3 := by omega
      rw [if_neg hsigma, lowerChar_of_lt hc, List.singleton_append]
      cases w with
      | nil => exact iff_of_false (List.cons_ne_nil _ _) (List.cons_ne_nil _ _)
      | cons x w =>
        rw [List.forall_mem_cons] at hw
        rw [List.cons.injEq, List.cons.injEq, ih hw.2]
    · -- neither form is basic
      have hhere : ∃ x ∈ (if c.toNat = 0x03A3 then
          if startsCased before && !startsCased cs then [Char.ofNat 0x03C2] else [Char.ofNat 0x03C3]
        else lowerChar c), isBasic x = false := by
        split
        · split
          · exact ⟨_, List.mem_singleton_self _, by decide⟩
          · exact ⟨_, List.mem_singleton_self _, by decide⟩
        · exact exists_not_isBasic_lowerChar hc
      obtain ⟨x, hx, hbasic⟩ := hhere
      refine iff_of_false (fun h ↦ ?_) fun h ↦ ?_
      · exact Bool.false_ne_true
          (hbasic.symm.trans (hw x (h ▸ List.mem_append_left _ hx)))
      · rw [toLower_eq_self (by omega)] at h
        exact Bool.false_ne_true
          ((isBasic_of_le hc).symm.trans (hw c (h ▸ List.mem_cons_self)))

theorem lower_eq_iff {s w : String} (hw : ∀ c ∈ w.toList, isBasic c = true) :
    lower s = w ↔ s.toLower = w := by
  have htoList : s.toLower.toList = s.toList.map Char.toLower := String.toList_map
  rw [lower, ← String.toList_inj, String.toList_ofList, lowerAfter_eq_iff hw, ← String.toList_inj,
    htoList]

/-- **A text is one of several basic words, in letters of either case.** -/
theorem lower_mem_iff {s : String} {words : List String}
    (hwords : (words.all fun w ↦ w.toList.all isBasic) = true) :
    lower s ∈ words ↔ s.toLower ∈ words := by
  have hbasic : ∀ w ∈ words, ∀ c ∈ w.toList, isBasic c = true := fun w hw ↦
    List.all_eq_true.mp (List.all_eq_true.mp hwords w hw)
  constructor
  · intro h
    exact (lower_eq_iff (hbasic _ h)).mp rfl ▸ h
  · intro h
    exact (lower_eq_iff (hbasic _ h)).mpr rfl ▸ h

end NetWarden.Text
