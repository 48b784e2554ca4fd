import NetWarden.Ports
import NetWarden.Proofs.Text.Numerals
import NetWarden.Proofs.Text.Trimming

/-!
# What a list of ports means

The items of a list of ports stand between commas. `Spells` says which items are well-formed and
what they stand for, without a reader: a numeral, or two numerals with a minus sign between them and
the lower one first, with blanks around anything. **A port is open just if a well-formed item of the
list includes it**; all other items count for nothing, wherever they stand (`covers_parse_iff`).
Only a list that is blank, or the mark for any, opens all ports, and no item of such a list is
well-formed.

The way back is `PortItem.written`: **what items are written as opens the ports of the items**
(`PortItem.covers_parse_writtenList_iff`).
-/

namespace NetWarden

open Text

variable {cs : List Char} {x : PortItem} {p : PortNumber}

/-! ### Items -/

/-- An item, with or without blanks around it, is well-formed and stands for this. -/
inductive Spells (cs : List Char) : PortItem → Prop where
  /-- A numeral stands for its port. -/
  | single {port : PortNumber} : IsNumeral (trimChars cs) port.toNat → Spells cs (.single port)
  /-- Two numerals stand for the ports from the one to the other. They are parted by the first minus
  sign. -/
  | range {before after : List Char} {low high : PortNumber} (le : low ≤ high) :
    trimChars cs = before ++ '-' :: after → '-' ∉ before →
      IsNumeral (trimChars before) low.toNat → IsNumeral (trimChars after) high.toNat →
        Spells cs (.range low high le)

/-- A port is that of an item, or lies between its ends. -/
def PortItem.Includes (port : PortNumber) : PortItem → Prop
  | single p => port = p
  | range low high _ => low ≤ port ∧ port ≤ high

theorem PortItem.opens_iff : x.opens p = true ↔ x.Includes p := by
  cases x with
  | single port => rw [opens, beq_iff_eq, Includes, eq_comm]
  | range low high le =>
    rw [opens, Bool.and_eq_true, decide_eq_true_iff, decide_eq_true_iff, Includes]

theorem portNumber?_eq_some_iff :
    portNumber? cs = some p ↔ IsNumeral (trimChars cs) p.toNat := by
  have hle : p.toNat ≤ 65535 := Nat.le_of_lt_succ p.toNat_lt
  rw [portNumber?, Option.map_eq_some_iff]
  constructor
  · rintro ⟨n, hn, rfl⟩
    obtain ⟨hnumeral, hbound⟩ := unsigned?_eq_some_iff.mp hn
    rwa [UInt16.toNat_ofNat_of_lt' (Nat.lt_succ_of_le hbound)]
  · exact fun h ↦ ⟨p.toNat, unsigned?_eq_some_iff.mpr ⟨h, hle⟩, UInt16.ofNat_toNat⟩

theorem ignoresBlanks_portNumber? : IgnoresBlanks portNumber? :=
  .of_trimChars fun cs ↦ (unsigned? 65535 cs).map UInt16.ofNat

theorem ignoresBlanks_portItem? : IgnoresBlanks portItem? := by
  have hnumber := ignoresBlanks_portNumber?
  have hminus : isBlank '-' = false := by decide
  refine .of_append (fun before cs hbefore ↦ ?_) fun cs after hafter ↦ ?_
  · rw [portItem?, portItem?, splitOnce_append_left (not_mem_of_allBlank hminus hbefore)]
    rcases splitOnce '-' cs with - | ⟨low, high⟩
    · exact congrArg (Option.map PortItem.single) (hnumber.append_left hbefore cs)
    · simp only [Option.map_some, hnumber.append_left hbefore]
  · rw [portItem?, portItem?, splitOnce_append_right (not_mem_of_allBlank hminus hafter)]
    rcases splitOnce '-' cs with - | ⟨low, high⟩
    · exact congrArg (Option.map PortItem.single) (hnumber.append_right hafter cs)
    · simp only [Option.map_some, hnumber.append_right hafter]

/-- **Just the well-formed items are read**, each as what it stands for. -/
theorem portItem?_eq_some_iff : portItem? cs = some x ↔ Spells cs x := by
  rw [← ignoresBlanks_portItem? cs, portItem?]
  rcases hsplit : splitOnce '-' (trimChars cs) with - | ⟨before, after⟩
  · -- without a minus sign there is one numeral
    have hminus := splitOnce_eq_none_iff.mp hsplit
    simp only [ignoresBlanks_portNumber? cs, Option.map_eq_some_iff, portNumber?_eq_some_iff]
    constructor
    · rintro ⟨port, hport, rfl⟩
      exact .single hport
    · intro h
      cases h with
      | single hport => exact ⟨_, hport, rfl⟩
      | range le hcs => exact absurd (by rw [hcs]; simp) hminus
  · -- the minus sign that is found is the first one
    obtain ⟨hcs, hbefore⟩ := splitOnce_eq_some_iff.mp hsplit
    simp only [Option.bind_eq_bind, Option.bind_eq_some_iff, portNumber?_eq_some_iff]
    constructor
    · rintro ⟨low, hlow, high, hhigh, h⟩
      split at h
      · rename_i le
        cases h
        exact .range le hcs hbefore hlow hhigh
      · cases h
    · intro h
      cases h with
      | single hport => exact absurd (by rw [hcs]; simp) hport.not_mem_minus
      | range le hcs' hbefore' hlow hhigh =>
        have hparts := splitOnce_eq_some_iff.mpr ⟨hcs', hbefore'⟩
        rw [hsplit] at hparts
        cases hparts
        exact ⟨_, hlow, _, hhigh, dif_pos le⟩

/-! ### Lists of items -/

namespace PortCoverage

/-- The items that are read from a text are those of the pieces, trimmed or not. -/
theorem filterMap_portItem?_splitOn {items : List String} (hfree : ∀ i ∈ items, ',' ∉ i.toList) :
    (splitOn ',' (trim (",".intercalate items)).toList).filterMap portItem? =
      items.filterMap fun i ↦ portItem? i.toList := by
  have hcomma : isBlank ',' = false := by decide
  have hread := ignoresBlanks_portItem?.map_splitOn hcomma (",".intercalate items).toList
  have hpieces := congrArg (List.filterMap id) hread
  simp only [List.filterMap_map, Function.id_comp] at hpieces
  rw [trim, String.toList_ofList, hpieces]
  cases items with
  | nil => rfl
  | cons i items =>
    rw [String.toList_intercalate]
    show (splitOn ',' ([','].intercalate ((i :: items).map String.toList))).filterMap _ = _
    rw [splitOn_intercalate (List.forall_mem_map.mpr hfree) (List.cons_ne_nil _ _),
      List.filterMap_map]
    rfl

/-- **A port is open just if a well-formed item includes it**, or if the list is blank or the mark
for any. -/
theorem covers_parse_iff {items : List String} (hfree : ∀ i ∈ items, ',' ∉ i.toList)
    (p : PortNumber) : (parse (some (",".intercalate items))).covers p = true ↔
      (trim (",".intercalate items) = "" ∨ trim (",".intercalate items) = anyMark) ∨
        ∃ i ∈ items, ∃ x, Spells i.toList x ∧ x.Includes p := by
  rw [parse, Option.map_some]
  dsimp only
  split
  · rename_i hall
    simp only [covers, hall, true_or]
  · rename_i hsome
    rw [filterMap_portItem?_splitOn hfree, covers, List.any_eq_true, or_iff_right hsome]
    simp only [List.mem_filterMap, portItem?_eq_some_iff, PortItem.opens_iff]
    constructor
    · rintro ⟨x, ⟨i, hi, hx⟩, hp⟩
      exact ⟨i, hi, x, hx, hp⟩
    · rintro ⟨i, hi, x, hx, hp⟩
      exact ⟨x, ⟨i, hi, hx⟩, hp⟩

/-- No item of a list that opens all ports is well-formed. -/
theorem not_spells_of_opens_all {items : List String} (hfree : ∀ i ∈ items, ',' ∉ i.toList)
    (hall : trim (",".intercalate items) = "" ∨ trim (",".intercalate items) = anyMark) :
    ∀ i ∈ items, ∀ x, ¬ Spells i.toList x := by
  intro i hi x hx
  have hmem : x ∈ items.filterMap fun i ↦ portItem? i.toList :=
    List.mem_filterMap.mpr ⟨i, hi, portItem?_eq_some_iff.mpr hx⟩
  have hnone : ∀ s, s = "" ∨ s = anyMark → (splitOn ',' s.toList).filterMap portItem? = [] := by
    rintro s (rfl | rfl) <;> decide
  rw [← filterMap_portItem?_splitOn hfree, hnone _ hall] at hmem
  exact absurd hmem List.not_mem_nil

end PortCoverage

/-! ### Items as they are written -/

namespace PortItem

/-- An item in decimal digits. -/
def written : PortItem → String
  | single port => Text.digits port.toNat
  | range low high _ => Text.digits low.toNat ++ "-" ++ Text.digits high.toNat

/-- Items between commas. -/
def writtenList (items : List PortItem) : String := ",".intercalate (items.map written)

theorem toList_digits (n : Nat) : (Text.digits n).toList = Nat.toDigits 10 n :=
  Json.toList_integer_natCast n

/-- An item is written in digits, with a minus sign between numbers. -/
theorem isDigit_or_of_mem_written {c : Char} (h : c ∈ x.written.toList) :
    c.isDigit = true ∨ c = '-' := by
  cases x with
  | single port =>
    rw [written, toList_digits] at h
    exact .inl (Json.isDigit_of_mem_toDigits h)
  | range low high le =>
    simp only [written, String.toList_append, toList_digits, List.mem_append] at h
    rcases h with (h | h) | h
    · exact .inl (Json.isDigit_of_mem_toDigits h)
    · exact .inr (List.mem_singleton.mp h)
    · exact .inl (Json.isDigit_of_mem_toDigits h)

theorem isBlank_of_isDigit_or {c : Char} (h : c.isDigit = true ∨ c = '-') : isBlank c = false := by
  rcases h with h | rfl
  · have := Json.isDigit_iff.mp h
    simp only [isBlank, inRanges, blankRanges, List.any_cons, List.any_nil, Bool.or_false,
      Bool.or_eq_false_iff, Bool.and_eq_false_iff, decide_eq_false_iff_not]
    omega
  · decide

/-- **An item that is written stands for itself.** -/
theorem spells_written (x : PortItem) : Spells x.written.toList x := by
  have hnumeral : ∀ n, IsNumeral (trimChars (Nat.toDigits 10 n)) n := by
    intro n
    rw [trimChars_eq_self fun c hc ↦ isBlank_of_isDigit_or (.inl (Json.isDigit_of_mem_toDigits hc))]
    exact isNumeral_toDigits n
  cases x with
  | single port =>
    rw [written, toList_digits]
    exact .single (hnumeral _)
  | range low high le =>
    refine .range le ?_ (isNumeral_toDigits low.toNat).not_mem_minus (hnumeral _) (hnumeral _)
    rw [trimChars_eq_self fun c hc ↦ isBlank_of_isDigit_or (isDigit_or_of_mem_written hc), written,
      String.toList_append, String.toList_append, toList_digits, toList_digits, List.append_assoc]
    rfl

theorem spells_written_iff {y : PortItem} : Spells x.written.toList y ↔ y = x := by
  rw [← portItem?_eq_some_iff, portItem?_eq_some_iff.mpr x.spells_written, Option.some.injEq,
    eq_comm]

/-- **Items that are written open the ports that they include.** Without items nothing is written,
and so all ports are open. -/
theorem covers_parse_writtenList_iff (items : List PortItem) (p : PortNumber) :
    (PortCoverage.parse (some (writtenList items))).covers p = true ↔
      items = [] ∨ ∃ x ∈ items, x.Includes p := by
  -- no written item has a comma in it
  have hfree : ∀ i ∈ items.map written, ',' ∉ i.toList := by
    rintro i hi hmem
    obtain ⟨x, -, rfl⟩ := List.mem_map.mp hi
    exact absurd (isDigit_or_of_mem_written hmem) (by decide)
  rw [writtenList, PortCoverage.covers_parse_iff hfree]
  refine or_congr ⟨fun hall ↦ ?_, ?_⟩ ?_
  · refine List.eq_nil_iff_forall_not_mem.mpr fun x hx ↦ ?_
    exact PortCoverage.not_spells_of_opens_all hfree hall _ (List.mem_map_of_mem hx) x
      x.spells_written
  · rintro rfl
    exact .inl rfl
  · -- each item is the only one that its text spells
    simp only [List.mem_map]
    constructor
    · rintro ⟨i, ⟨x, hx, rfl⟩, y, hy, hp⟩
      rw [spells_written_iff.mp hy] at hp
      exact ⟨x, hx, hp⟩
    · rintro ⟨x, hx, hp⟩
      exact ⟨_, ⟨x, hx, rfl⟩, x, x.spells_written, hp⟩

end PortItem

namespace PortCoverage

theorem parse_eq_all_iff {s : String} :
    parse (some s) = .all ↔ trim s = "" ∨ trim s = anyMark := by
  rw [parse, Option.map_some]
  dsimp only
  split <;> simp_all

/-- **What a list of ports means.** With a well-formed item it opens just the ports that such items
include, whatever else stands in the list. Without one it opens all ports if it is blank or the mark
for any, as does no list at all, and else none. So items that are written open the ports that they
include; without items nothing is written, which is a blank list. -/
theorem parse_denotes_union (items : List String) (hfree : ∀ i ∈ items, ',' ∉ i.toList) :
    let s := ",".intercalate items
    ((∃ i ∈ items, ∃ x, Spells i.toList x) → parse (some s) ≠ .all ∧
        ∀ p, (parse (some s)).covers p = true ↔
          ∃ i ∈ items, ∃ x, Spells i.toList x ∧ x.Includes p) ∧
      ((∀ i ∈ items, ∀ x, ¬ Spells i.toList x) →
        ∀ p, (parse (some s)).covers p = true ↔ trim s = "" ∨ trim s = "-1") ∧
      (∀ p, (parse none).covers p = true) ∧
      ∀ (xs : List PortItem) (p : PortNumber),
        (parse (some (PortItem.writtenList xs))).covers p = true ↔
          xs = [] ∨ ∃ x ∈ xs, x.Includes p := by
  intro s
  refine ⟨?_, fun hnone p ↦ ?_, fun _ ↦ rfl, PortItem.covers_parse_writtenList_iff⟩
  · rintro ⟨i, hi, x, hx⟩
    have hsome : ¬ (trim s = "" ∨ trim s = anyMark) := fun hall ↦
      not_spells_of_opens_all hfree hall i hi x hx
    exact ⟨mt parse_eq_all_iff.mp hsome, fun p ↦
      (covers_parse_iff hfree p).trans (or_iff_right hsome)⟩
  · refine (covers_parse_iff hfree p).trans (or_iff_left ?_)
    rintro ⟨i, hi, x, hx, -⟩
    exact hnone i hi x hx

/-- Of six items two are well-formed. -/
theorem parse_denotes_union_mixed :
    let items := ["ssh", " +0022 ", "30-20", "8000 - 8080", "-1", "70000"]
    (∀ i ∈ items, ',' ∉ i.toList) ∧ (∃ i ∈ items, ∃ x, Spells i.toList x) ∧
      parse (some (",".intercalate items)) ≠ .all ∧
      ∀ p, (parse (some (",".intercalate items))).covers p = true ↔
        p = 22 ∨ 8000 ≤ p ∧ p ≤ 8080 := by
  intro items
  have hfree : ∀ i ∈ items, ',' ∉ i.toList := by decide
  -- what the six items spell is found by reading them
  have hread : ∀ x, (∃ i ∈ items, Spells i.toList x) ↔
      x = .single 22 ∨ x = .range 8000 8080 (by decide) := by
    intro x
    have hitems : items.filterMap (fun i ↦ portItem? i.toList) =
        [.single 22, .range 8000 8080 (by decide)] := by decide
    simp only [← portItem?_eq_some_iff, ← List.mem_filterMap, hitems, List.mem_cons,
      List.not_mem_nil, or_false]
  have hsome : ∃ i ∈ items, ∃ x, Spells i.toList x := by
    obtain ⟨i, hi, hx⟩ := (hread _).mpr (.inl rfl)
    exact ⟨i, hi, _, hx⟩
  -- one item is well-formed, so not all ports are open
  obtain ⟨hlisted, hcovers⟩ := (parse_denotes_union items hfree).1 hsome
  refine ⟨hfree, hsome, hlisted, fun p ↦ (hcovers p).trans ?_⟩
  constructor
  · rintro ⟨i, hi, x, hx, hp⟩
    rcases (hread x).mp ⟨i, hi, hx⟩ with rfl | rfl
    · exact .inl hp
    · exact .inr hp
  · rintro (hp | hp)
    · obtain ⟨i, hi, hx⟩ := (hread _).mpr (.inl rfl)
      exact ⟨i, hi, _, hx, hp⟩
    · obtain ⟨i, hi, hx⟩ := (hread _).mpr (.inr rfl)
      exact ⟨i, hi, _, hx, hp⟩

end PortCoverage

end NetWarden
