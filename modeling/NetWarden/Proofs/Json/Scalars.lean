import Mathlib.Algebra.Group.Int.Defs
import Mathlib.Data.List.Basic
import NetWarden.Json.Printer
import NetWarden.Json.Written

/-!
# Texts and whole numbers, written and read

The two kinds of scalars that take more than a word. **A text in quotes is read back**
(`quotedText_escaped`): each character is written as one escape or as itself, and is read as the
one code unit that it is, since no character is half of a surrogate pair. **A whole number is read
back** (`numberAt_integer`) if it has one of the 64-bit places, signed or unsigned, that a reader
keeps for it; what follows it must not go on as a number.
-/

namespace NetWarden.Json

open Written

/-! ### Texts in quotes -/

/-- A control is named by four digits in base sixteen. -/
theorem exists_fourDigits {n : Nat} (hn : n < 0x20) :
    ∃ a b c d, Text.paddedHexadecimal 4 n = [a, b, c, d] ∧ fourDigits a b c d = some n := by
  have hall : ∀ m : Fin 0x20,
      Text.paddedHexadecimal 4 m = ['0', '0', Nat.digitChar (m / 16), Nat.digitChar (m % 16)] ∧
        fourDigits '0' '0' (Nat.digitChar (m / 16)) (Nat.digitChar (m % 16)) = some m.val := by
    decide +kernel
  exact ⟨_, _, _, _, hall ⟨n, hn⟩⟩

/-- An escape of one letter is read as its character. -/
theorem units_escape {c e : Char} (hc : escaped? c = some e) (cs : List Char) :
    units ('\\' :: c :: cs) = (units cs).map fun p ↦ (e.toNat :: p.1, p.2) := by
  have hu : c ≠ 'u' := by
    rintro rfl
    cases hc
  rw [units]
  · rw [hc]
    rcases units cs with - | ⟨ns, rest⟩ <;> rfl
  · rintro a b d e rest rfl
    exact absurd rfl hu

/-- A character is written as an escape of one letter, by its number, or as itself. -/
theorem escapedChar_cases (c : Char) :
    (∃ l, escapedChar c = ['\\', l] ∧ escaped? l = some c) ∨
      (escapedChar c = ['\\', 'u'] ++ Text.paddedHexadecimal 4 c.toNat ∧ c.toNat < 0x20) ∨
      (escapedChar c = [c] ∧ c ≠ '"' ∧ c ≠ '\\' ∧ ¬ c.toNat < 0x20) := by
  rw [escapedChar]
  split_ifs with hquote hslash hback hfeed hline hreturn htab hcontrol
  · exact .inl ⟨'"', rfl, by rw [hquote]; rfl⟩
  · exact .inl ⟨'\\', rfl, by rw [hslash]; rfl⟩
  · exact .inl ⟨'b', rfl, hback ▸ rfl⟩
  · exact .inl ⟨'f', rfl, hfeed ▸ rfl⟩
  · exact .inl ⟨'n', rfl, hline ▸ rfl⟩
  · exact .inl ⟨'r', rfl, hreturn ▸ rfl⟩
  · exact .inl ⟨'t', rfl, htab ▸ rfl⟩
  · exact .inr (.inl ⟨rfl, hcontrol⟩)
  · exact .inr (.inr ⟨rfl, hquote, hslash, hcontrol⟩)

/-- **However a character is written, it is read as itself.** -/
theorem units_escapedChar (c : Char) (cs : List Char) :
    units (escapedChar c ++ cs) = (units cs).map fun p ↦ (c.toNat :: p.1, p.2) := by
  rcases escapedChar_cases c with ⟨l, hl, hc⟩ | ⟨hc, hcontrol⟩ | ⟨hc, hquote, hslash, hcontrol⟩
  · -- with a letter of its own
    rw [hl]
    exact units_escape hc cs
  · -- by its number, in four digits
    obtain ⟨a, b, d, e, hdigits, hnumber⟩ := exists_fourDigits hcontrol
    rw [hc, hdigits]
    show units ('\\' :: 'u' :: a :: b :: d :: e :: cs) = _
    rw [units, hnumber]
    rcases units cs with - | ⟨ns, rest⟩ <;> rfl
  · -- as it is
    rw [hc]
    show units (c :: cs) = _
    rw [units]
    · rw [if_neg hcontrol]
      rcases units cs with - | ⟨ns, rest⟩ <;> rfl
    · exact hquote
    · exact fun _ _ _ _ _ h _ ↦ hslash h
    · exact fun _ _ h _ ↦ hslash h

/-- No character is half of a surrogate pair. -/
theorem ofUnits_map_toNat (cs : List Char) : ofUnits (cs.map Char.toNat) = some cs := by
  -- halves have the numbers that no character has
  have hwhole : ∀ c : Char, isHigh c.toNat = false ∧ isLow c.toNat = false := by
    intro c
    have hvalid : c.toNat < 0xD800 ∨ 0xDFFF < c.toNat ∧ c.toNat < 0x110000 := c.valid
    simp only [isHigh, isLow, Bool.and_eq_false_iff, decide_eq_false_iff_not]
    omega
  induction cs with
  | nil => rfl
  | cons c cs ih =>
    obtain ⟨hhigh, hlow⟩ := hwhole c
    -- a reader looks one unit ahead, for the second half of a pair
    cases cs with
    | nil => simp [ofUnits, hhigh, hlow]
    | cons d cs =>
      rw [List.map_cons] at ih
      rw [List.map_cons, List.map_cons, ofUnits, hhigh, hlow, ih]
      simp

/-- **A text in quotes is read back.** -/
theorem quotedText_escaped (s : String) (rest : List Char) :
    quotedText (s.toList.flatMap escapedChar ++ '"' :: rest) = some (some s, rest) := by
  have hunits : ∀ cs : List Char,
      units (cs.flatMap escapedChar ++ '"' :: rest) = some (cs.map Char.toNat, rest) := by
    intro cs
    induction cs with
    | nil => rfl
    | cons c cs ih =>
      rw [List.flatMap_cons, List.append_assoc, units_escapedChar, ih]
      rfl
  rw [quotedText, hunits]
  simp [ofUnits_map_toNat]

/-! ### Whole numbers -/

/-- Whether a number that is written before these characters ends there. -/
def endsNumber : List Char → Bool
  | [] => true
  | c :: _ => !c.isDigit && c != '.' && c != 'e' && c != 'E'

/-- The value of a decimal digit. -/
def digitOf (c : Char) : Nat := c.toNat - '0'.toNat

theorem isDigit_iff {c : Char} : c.isDigit = true ↔ 48 ≤ c.toNat ∧ c.toNat ≤ 57 := by
  rw [Char.isDigit, Bool.and_eq_true, decide_eq_true_iff, decide_eq_true_iff]
  exact Iff.rfl

theorem digitIn?_of_isDigit {c : Char} (h : c.isDigit = true) :
    Text.digitIn? 10 c = some (digitOf c) := by
  have hvalue : Text.digitValue? c = some (digitOf c) := if_pos (isDigit_iff.mp h)
  have hlt : digitOf c < 10 := by
    have := isDigit_iff.mp h
    show c.toNat - 48 < 10
    omega
  rw [Text.digitIn?, hvalue, Option.filter_some, decide_eq_true hlt]
  rfl

theorem digitIn?_of_not_isDigit {c : Char} (h : c.isDigit = false) :
    Text.digitIn? 10 c = none := by
  have hnot : ¬ ('0' ≤ c ∧ c ≤ '9') := fun hc ↦ Bool.eq_false_iff.mp h (isDigit_iff.mpr hc)
  -- the letters are digits too, but of no base up to ten
  have hletter : ∀ n : Nat, (some (n + 10)).filter (fun v ↦ decide (v < 10)) = none := fun n ↦ by
    rw [Option.filter_some, decide_eq_false (by omega)]
    rfl
  rw [Text.digitIn?, Text.digitValue?, if_neg hnot]
  split
  · exact hletter _
  · split
    · exact hletter _
    · rfl

/-- All digits are read, and nothing else. -/
theorem digitsAt_append {cs rest : List Char} (hcs : ∀ c ∈ cs, c.isDigit = true)
    (hrest : endsNumber rest = true) : digitsAt (cs ++ rest) = (cs.map digitOf, rest) := by
  induction cs with
  | nil =>
    cases rest with
    | nil => rfl
    | cons c rest =>
      -- what ends a number is no digit
      have hc : c.isDigit = false := by
        simp only [endsNumber, Bool.and_eq_true, Bool.not_eq_true'] at hrest
        exact hrest.1.1.1
      rw [List.nil_append, digitsAt, digitIn?_of_not_isDigit hc]
      rfl
  | cons c cs ih =>
    obtain ⟨hc, hcs⟩ := List.forall_mem_cons.mp hcs
    rw [List.cons_append, digitsAt, digitIn?_of_isDigit hc, ih hcs]
    rfl

theorem isDigit_of_mem_toDigits {n : Nat} {c : Char} (h : c ∈ Nat.toDigits 10 n) :
    c.isDigit = true :=
  Nat.isDigit_of_mem_toDigits (by decide) (by decide) h

/-- The number that digits write. -/
def numberOf (ds : List Nat) : Nat := ds.foldl (fun n d ↦ n * 10 + d) 0

theorem numberOf_toDigits (n : Nat) : numberOf ((Nat.toDigits 10 n).map digitOf) = n := by
  have h := Nat.ofDigitChars_toDigits (b := 10) (n := n) (by decide) (by decide)
  rw [Nat.ofDigitChars_eq_foldl] at h
  rw [numberOf, List.foldl_map]
  simpa only [Nat.mul_comm, digitOf] using h

/-- Digits whose number fits the significand are collected in it. -/
theorem collect_eq {significand : Nat} {ds : List Nat}
    (h : ds.foldl (fun n d ↦ n * 10 + d) significand ≤ Number.maxSignificand) :
    Number.collect significand ds = (ds.foldl (fun n d ↦ n * 10 + d) significand, 0) := by
  -- a number only grows by its digits, so each part of it fits as well
  have hgrows : ∀ (ds : List Nat) n, n ≤ ds.foldl (fun n d ↦ n * 10 + d) n := by
    intro ds
    induction ds with
    | nil => exact fun n ↦ Nat.le_refl n
    | cons d ds ih =>
      intro n
      have := ih (n * 10 + d)
      rw [List.foldl_cons]
      omega
  induction ds generalizing significand with
  | nil => rfl
  | cons d ds ih =>
    rw [List.foldl_cons] at h
    rw [Number.collect, if_pos (Nat.le_trans (hgrows ds _) h)]
    exact ih h

/-- A number other than zero does not begin with a zero. -/
theorem exists_toDigits_eq_cons {n : Nat} (hn : 0 < n) :
    ∃ c cs, Nat.toDigits 10 n = c :: cs ∧ 0 < digitOf c := by
  induction n using Nat.strongRecOn with
  | ind n ih =>
    by_cases hlt : n < 10
    · refine ⟨_, _, Nat.toDigits_of_lt_base hlt, ?_⟩
      show 0 < n.digitChar.toNat - 48
      rw [Nat.toNat_digitChar_of_lt_ten hlt]
      omega
    · obtain ⟨c, cs, hcs, hc⟩ := ih (n / 10) (by omega) (by omega)
      refine ⟨c, cs ++ [(n % 10).digitChar], ?_, hc⟩
      rw [Nat.toDigits_of_base_le (by decide) (by omega), hcs, List.cons_append]

theorem wholeAt_toDigits (n : Nat) {rest : List Char} (hrest : endsNumber rest = true) :
    wholeAt (Nat.toDigits 10 n ++ rest) = some ((Nat.toDigits 10 n).map digitOf, rest) := by
  rw [wholeAt, digitsAt_append (fun _ ↦ isDigit_of_mem_toDigits) hrest]
  rcases Nat.eq_zero_or_pos n with rfl | hn
  · rfl
  · obtain ⟨c, cs, hcs, hc⟩ := exists_toDigits_eq_cons hn
    rw [hcs, List.map_cons]
    obtain ⟨d, hd⟩ := Nat.exists_eq_add_of_lt hc
    rw [hd]
    split
    · rename_i h
      cases h
    · rename_i h
      cases h
    · rfl

/-- Nothing is read as a fraction or an exponent where a number ends. -/
theorem fractionAt_of_endsNumber {rest : List Char} (h : endsNumber rest = true) :
    fractionAt rest = some (none, rest) ∧ exponentAt rest = some (none, rest) := by
  cases rest with
  | nil => exact ⟨rfl, rfl⟩
  | cons c rest =>
    simp only [endsNumber, Bool.and_eq_true, bne_iff_ne] at h
    obtain ⟨⟨⟨-, hpoint⟩, he⟩, hE⟩ := h
    refine ⟨?_, if_neg (not_or_intro he hE)⟩
    rw [fractionAt]
    exact fun cs heq ↦ hpoint (List.cons.inj heq).1

theorem unsignedAt_toDigits (negative : Bool) (n : Nat) {rest : List Char}
    (hrest : endsNumber rest = true) :
    unsignedAt negative (Nat.toDigits 10 n ++ rest) = some (.number
      (Number.ofDigits negative ((Nat.toDigits 10 n).map digitOf) none none), rest) := by
  obtain ⟨hfraction, hexponent⟩ := fractionAt_of_endsNumber hrest
  simp only [unsignedAt, wholeAt_toDigits n hrest, hfraction, hexponent, Option.bind_eq_bind,
    Option.bind_some]

theorem toList_integer_natCast (n : Nat) :
    (Text.integer (Int.ofNat n)).toList = Nat.toDigits 10 n := by
  show (toString n).toList = _
  rw [Nat.toString_eq_ofList_toDigits, String.toList_ofList]

theorem toList_integer_negSucc (n : Nat) :
    (Text.integer (Int.negSucc n)).toList = '-' :: Nat.toDigits 10 (n + 1) := by
  show ("-" ++ toString (n + 1)).toList = _
  simp

/-- **A whole number is read back** if it has a place of 64 bits. -/
theorem numberAt_integer {i : Int} (hlow : -2 ^ 63 ≤ i) (hhigh : i < 2 ^ 64) {rest : List Char}
    (hrest : endsNumber rest = true) :
    numberAt ((Text.integer i).toList ++ rest) = some (.number (.whole i), rest) := by
  -- all digits fit the significand
  have hcollect : ∀ n : Nat, n < 2 ^ 64 →
      Number.collect 0 ((Nat.toDigits 10 n).map digitOf) = (n, 0) := by
    intro n hn
    have hnumber := numberOf_toDigits n
    have hfits : numberOf ((Nat.toDigits 10 n).map digitOf) ≤ Number.maxSignificand := by
      show _ ≤ 18446744073709551616 - 1
      omega
    rw [collect_eq hfits, ← numberOf, hnumber]
  cases i with
  | ofNat n =>
    have hn : n < 2 ^ 64 := Int.ofNat_lt.mp hhigh
    obtain ⟨c, cs, hcs⟩ := List.exists_cons_of_ne_nil (Nat.toDigits_ne_nil (n := n) (b := 10))
    have hdigit : c.isDigit = true := isDigit_of_mem_toDigits (hcs ▸ List.mem_cons_self)
    -- a digit stands first, so there is no sign
    have hsign : numberAt (c :: (cs ++ rest)) = unsignedAt false (c :: (cs ++ rest)) := by
      rw [numberAt]
      rintro ds heq
      rw [(List.cons.inj heq).1] at hdigit
      cases hdigit
    rw [toList_integer_natCast, hcs, List.cons_append, hsign, ← List.cons_append, ← hcs,
      unsignedAt_toDigits false n hrest, Number.ofDigits, hcollect n hn]
    rfl
  | negSucc n =>
    -- with a sign, one number more fits than without
    have hn : ¬ (n + 1 = 0 ∨ Nat.pow 2 63 < n + 1) := by
      have hpow : Nat.pow 2 63 = 9223372036854775808 := by decide
      omega
    rw [toList_integer_negSucc, List.cons_append, numberAt, unsignedAt_toDigits true (n + 1) hrest,
      Number.ofDigits, hcollect (n + 1) (by omega)]
    simp only [if_pos, if_neg hn]
    rfl

end NetWarden.Json
