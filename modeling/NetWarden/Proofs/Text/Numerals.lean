import NetWarden.Proofs.Json.Scalars

/-!
# What numerals write

A numeral without a minus sign is digits, at least one, with a plus sign in front or without.
`unsigned?` reads **every numeral of a number up to the bound, and nothing else**
(`unsigned?_eq_some_iff`); leading zeros do not count. The digits of a number are one of its
numerals (`isNumeral_toDigits`).

With a minus sign in front, digits write a whole number that is not positive. `integer?` reads
**just the numerals with a sign or none** (`integer?_eq_some_iff`).
-/

namespace NetWarden.Text

variable {cs : List Char} {start n bound : Nat}

/-- Characters write a number: digits, with a plus sign in front or without. -/
def IsNumeral (cs : List Char) (n : Nat) : Prop :=
  ∃ ds, (cs = ds ∨ cs = '+' :: ds) ∧ ds ≠ [] ∧ (∀ d ∈ ds, d.isDigit = true) ∧
    Nat.ofDigitChars 10 ds 0 = n

theorem continueNumber_eq_some_iff : continueNumber 10 start cs = some n ↔
    (∀ c ∈ cs, c.isDigit = true) ∧ Nat.ofDigitChars 10 cs start = n := by
  induction cs generalizing start with
  | nil => simp [continueNumber]
  | cons c cs ih =>
    rw [continueNumber, List.forall_mem_cons, Nat.ofDigitChars_cons]
    rcases hc : c.isDigit with - | -
    · rw [Json.digitIn?_of_not_isDigit hc]
      simp
    · rw [Json.digitIn?_of_isDigit hc]
      exact ih.trans (by simp [Json.digitOf])

theorem number?_eq_some_iff : number? 10 cs = some n ↔
    cs ≠ [] ∧ (∀ c ∈ cs, c.isDigit = true) ∧ Nat.ofDigitChars 10 cs 0 = n := by
  rw [number?]
  cases cs with
  | nil => simp
  | cons c cs =>
    rw [← continueNumber_eq_some_iff]
    simp

/-- **Just the numerals up to the bound are read**, each as the number that it writes. -/
theorem unsigned?_eq_some_iff :
    unsigned? bound cs = some n ↔ IsNumeral cs n ∧ n ≤ bound := by
  -- digits by themselves, whether a sign stood before them or not
  have hbounded : ∀ ds, ((number? 10 ds).filter fun m ↦ decide (m ≤ bound)) = some n ↔
      (ds ≠ [] ∧ (∀ c ∈ ds, c.isDigit = true) ∧ Nat.ofDigitChars 10 ds 0 = n) ∧ n ≤ bound := by
    intro ds
    rw [Option.filter_eq_some_iff, number?_eq_some_iff, decide_eq_true_iff]
  rw [unsigned?.eq_def]
  split
  · -- after a plus sign the digits begin, and a plus sign is none of them
    rename_i ds
    rw [hbounded]
    constructor
    · rintro ⟨hds, hn⟩
      exact ⟨⟨ds, .inr rfl, hds⟩, hn⟩
    · rintro ⟨⟨ds', rfl | hcs, hds⟩, hn⟩
      · exact absurd (hds.2.1 '+' List.mem_cons_self) (by decide)
      · rw [(List.cons.inj hcs).2]
        exact ⟨hds, hn⟩
  · rename_i hplus
    rw [hbounded]
    constructor
    · rintro ⟨hds, hn⟩
      exact ⟨⟨cs, .inl rfl, hds⟩, hn⟩
    · rintro ⟨⟨ds, rfl | hcs, hds⟩, hn⟩
      · exact ⟨hds, hn⟩
      · exact absurd hcs (hplus ds)

/-- The digits of a number write it. -/
theorem isNumeral_toDigits (n : Nat) : IsNumeral (Nat.toDigits 10 n) n :=
  ⟨_, .inl rfl, Nat.toDigits_ne_nil,
    fun _ hd ↦ Json.isDigit_of_mem_toDigits hd,
    Nat.ofDigitChars_ten_toDigits⟩

/-! ### Numerals with a sign -/

/-- Characters write a whole number: a numeral, or digits with a minus sign in front. -/
inductive IsSignedNumeral : List Char → Int → Prop
  /-- A numeral writes its number. -/
  | plain {cs : List Char} {n : Nat} : IsNumeral cs n → IsSignedNumeral cs n
  /-- Digits behind a minus sign write the opposite of their number. -/
  | minus {ds : List Char} {n : Nat} : ds ≠ [] → (∀ d ∈ ds, d.isDigit = true) →
    Nat.ofDigitChars 10 ds 0 = n → IsSignedNumeral ('-' :: ds) (-n)

/-- A numeral holds no minus sign. -/
theorem IsNumeral.not_mem_minus (h : IsNumeral cs n) : '-' ∉ cs := by
  obtain ⟨ds, hcs, -, hdigits, -⟩ := h
  have hds : '-' ∉ ds := fun hmem ↦ absurd (hdigits '-' hmem) (by decide)
  rcases hcs with rfl | rfl
  · exact hds
  · simpa using hds

/-- **Just the numerals with a sign or none are read**, each as the number that it writes. -/
theorem integer?_eq_some_iff {i : Int} : integer? cs = some i ↔ IsSignedNumeral cs i := by
  rw [integer?.eq_def]
  constructor
  · intro h
    -- what was read tells which sign there was
    split at h
    · obtain ⟨n, hn, rfl⟩ := Option.map_eq_some_iff.mp h
      exact .plain ⟨_, .inr rfl, number?_eq_some_iff.mp hn⟩
    · obtain ⟨n, hn, rfl⟩ := Option.map_eq_some_iff.mp h
      obtain ⟨hne, hdigits, hvalue⟩ := number?_eq_some_iff.mp hn
      exact .minus hne hdigits hvalue
    · obtain ⟨n, hn, rfl⟩ := Option.map_eq_some_iff.mp h
      exact .plain ⟨_, .inl rfl, number?_eq_some_iff.mp hn⟩
  · rintro (hplain | ⟨hne, hdigits, hvalue⟩)
    · -- with no minus sign, only two of the three readings are left
      split
      · rename_i ds
        obtain ⟨ds', rfl | hcs, hds⟩ := hplain
        · exact absurd (hds.2.1 '+' List.mem_cons_self) (by decide)
        · rw [(List.cons.inj hcs).2, number?_eq_some_iff.mpr hds]
          rfl
      · exact absurd List.mem_cons_self hplain.not_mem_minus
      · rename_i hplus _
        obtain ⟨ds, rfl | hcs, hds⟩ := hplain
        · rw [number?_eq_some_iff.mpr hds]
          rfl
        · exact absurd hcs (hplus ds)
    · simp only [number?_eq_some_iff.mpr ⟨hne, hdigits, hvalue⟩]
      rfl

end NetWarden.Text
