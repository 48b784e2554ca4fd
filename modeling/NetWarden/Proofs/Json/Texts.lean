import NetWarden.Proofs.Json.Scalars

/-!
# Values, written and read

**Whatever is written is read back** (`read?_write`), in every layout that adds nothing but blanks,
as long as its numbers are whole and have a place of 64 bits. Numbers with a fraction are left out,
since a reader rounds them twice.

A value is read from the text that begins with it, up to what may follow a value, so one statement
serves items and fields too. The induction is on the steps that a reader may take; what is written
is long enough to bound them (`Reads`).
-/

namespace NetWarden.Json

open Written

/-! ### Values without fractions -/

mutual

/-- Whether all numbers of a value are whole and have a place of 64 bits. -/
def isWhole : Json → Bool
  | .int i => decide (-2 ^ 63 ≤ i) && decide (i < 2 ^ 64)
  | .float _ => false
  | .arr vs => areWhole vs
  | .obj fs => haveWhole fs
  | _ => true

/-- Whether all items have only such numbers. -/
def areWhole : List Json → Bool
  | [] => true
  | v :: vs => isWhole v && areWhole vs

/-- Whether all fields have only such numbers. -/
def haveWhole : List (String × Json) → Bool
  | [] => true
  | (_, v) :: fs => isWhole v && haveWhole fs

end

/-! ### Blanks -/

section

variable {bs cs : List Char} {c : Char}

theorem skipBlanks_append (hbs : ∀ c ∈ bs, isBlank c = true) :
    skipBlanks (bs ++ cs) = skipBlanks cs := List.dropWhile_append_of_pos hbs

theorem skipBlanks_cons (hc : isBlank c = false) : skipBlanks (c :: cs) = c :: cs :=
  List.dropWhile_cons_of_neg (Bool.eq_false_iff.mp hc)

/-- A value may have blanks before it. -/
theorem valueAt_append (hbs : ∀ c ∈ bs, isBlank c = true) (fuel : Nat) :
    valueAt fuel (bs ++ cs) = valueAt fuel cs := by
  cases fuel with
  | zero => rfl
  | succ fuel => simp only [valueAt, skipBlanks_append hbs]

/-- Fields may have blanks before them. -/
theorem fieldsAt_append (hbs : ∀ c ∈ bs, isBlank c = true) (fuel : Nat) :
    fieldsAt fuel (bs ++ cs) = fieldsAt fuel cs := by
  cases fuel with
  | zero => rfl
  | succ fuel => simp only [fieldsAt, skipBlanks_append hbs]

/-- Items may have blanks before them. -/
theorem itemsAt_append (hbs : ∀ c ∈ bs, isBlank c = true) (fuel : Nat) :
    itemsAt fuel (bs ++ cs) = itemsAt fuel cs := by
  cases fuel with
  | zero => rfl
  | succ fuel => simp only [itemsAt, valueAt_append hbs]

end

/-- A layout that adds nothing but blanks. -/
structure Layout.IsBlank (l : Layout) : Prop where
  /-- Before an item and after the last one are blanks. -/
  lineStart : ∀ depth, ∀ c ∈ (l.lineStart depth).toList, isBlank c = true
  /-- Between a key and its value are a colon and blanks. -/
  afterKey : ∃ bs, l.afterKey.toList = ':' :: bs ∧ ∀ c ∈ bs, isBlank c = true

theorem isBlank_indented : Layout.indented.IsBlank where
  lineStart depth c hc := by
    simp only [Layout.indented, String.toList_ofList] at hc
    rcases List.mem_cons.mp hc with rfl | hc
    · rfl
    · rw [List.eq_of_mem_replicate hc]
      rfl
  afterKey := ⟨[' '], rfl, fun c hc ↦ by rw [List.mem_singleton.mp hc]; rfl⟩

/-- Each item and each field has a line of its own, but an empty list stays on one line. -/
example : (Json.arr [.arr [], .obj [("a", .null), ("b", .int 1)]]).pretty =
    "[\n  [],\n  \x7b\n    \"a\": null,\n    \"b\": 1\n  \x7d\n]" := by cbv

/-! ### What is written -/

section

variable (l : Layout) (depth : Nat) (k : String) (x : Json)

/-- The characters of a value. -/
def chars (v : Json) : List Char := (v.write l depth).toList

/-- The characters of the items after the first. -/
def itemChars (vs : List Json) : List Char := (writeItems l depth vs).toList

/-- The characters of the fields after the first. -/
def fieldChars (fs : List (String × Json)) : List Char := (writeFields l depth fs).toList

/-- The characters of a key, its first quote already passed, and of what parts it from its value. -/
def keyChars : List Char := k.toList.flatMap escapedChar ++ '"' :: l.afterKey.toList

theorem toList_writtenText :
    (writtenText k).toList = '"' :: (k.toList.flatMap escapedChar ++ ['"']) := by
  rw [writtenText, String.toList_ofList]
  rfl

theorem chars_null : chars l depth .null = ['n', 'u', 'l', 'l'] := by
  simp [chars, write, writtenScalar]

theorem chars_bool (b : Bool) : chars l depth (.bool b) =
    if b then ['t', 'r', 'u', 'e'] else ['f', 'a', 'l', 's', 'e'] := by
  cases b <;> simp [chars, write, writtenScalar]

theorem chars_int (i : Int) : chars l depth (.int i) = (Text.integer i).toList := by
  simp [chars, write, writtenScalar]

theorem chars_str : chars l depth (.str k) = '"' :: (k.toList.flatMap escapedChar ++ ['"']) := by
  simp [chars, write, writtenScalar, toList_writtenText]

theorem chars_arr_nil : chars l depth (.arr []) = ['[', ']'] := by
  simp [chars, write]

theorem chars_obj_nil : chars l depth (.obj []) = ['\x7b', '\x7d'] := by
  simp [chars, write]

theorem chars_arr_cons (xs : List Json) : chars l depth (.arr (x :: xs)) =
    '[' :: ((l.lineStart (depth + 1)).toList ++ (chars l (depth + 1) x ++
      (itemChars l (depth + 1) xs ++ ((l.lineStart depth).toList ++ [']'])))) := by
  simp [chars, itemChars, write, List.append_assoc]

theorem chars_obj_cons (fs : List (String × Json)) : chars l depth (.obj ((k, x) :: fs)) =
    '\x7b' :: ((l.lineStart (depth + 1)).toList ++ ('"' :: (keyChars l k ++
      (chars l (depth + 1) x ++
        (fieldChars l (depth + 1) fs ++ ((l.lineStart depth).toList ++ ['\x7d'])))))) := by
  simp [chars, fieldChars, keyChars, write, toList_writtenText, List.append_assoc]

theorem itemChars_cons (xs : List Json) : itemChars l depth (x :: xs) =
    ',' :: ((l.lineStart depth).toList ++ (chars l depth x ++ itemChars l depth xs)) := by
  simp [chars, itemChars, writeItems, List.append_assoc]

theorem fieldChars_cons (fs : List (String × Json)) : fieldChars l depth ((k, x) :: fs) =
    ',' :: ((l.lineStart depth).toList ++ ('"' :: (keyChars l k ++
      (chars l depth x ++ fieldChars l depth fs)))) := by
  simp [chars, fieldChars, keyChars, writeFields, toList_writtenText, List.append_assoc]

end

/-- What may follow a value: nothing, a blank, a comma, or the end of a list or an object. -/
def mayFollow : List Char → Bool
  | [] => true
  | c :: _ => isBlank c || c == ',' || c == ']' || c == '\x7d'

theorem mayFollow_append {bs : List Char} (hbs : ∀ c ∈ bs, isBlank c = true) {cs : List Char}
    (hcs : mayFollow cs = true) : mayFollow (bs ++ cs) = true := by
  cases bs with
  | nil => exact hcs
  | cons b bs =>
    show (isBlank b || _ || _ || _) = true
    rw [hbs b List.mem_cons_self]
    rfl

theorem endsNumber_of_mayFollow {cs : List Char} (h : mayFollow cs = true) :
    endsNumber cs = true := by
  cases cs with
  | nil => rfl
  | cons c cs =>
    simp only [mayFollow, isBlank, Bool.or_eq_true, beq_iff_eq] at h
    rcases h with (((((rfl | rfl) | rfl) | rfl) | rfl) | rfl) | rfl <;> rfl

theorem mayFollow_itemChars {l : Layout} {depth : Nat} (vs : List Json) {cs : List Char}
    (hcs : mayFollow cs = true) : mayFollow (itemChars l depth vs ++ cs) = true := by
  cases vs with
  | nil => exact hcs
  | cons v vs =>
    rw [itemChars_cons]
    rfl

theorem mayFollow_fieldChars {l : Layout} {depth : Nat} (fs : List (String × Json)) {cs : List Char}
    (hcs : mayFollow cs = true) : mayFollow (fieldChars l depth fs ++ cs) = true := by
  cases fs with
  | nil => exact hcs
  | cons f fs =>
    rw [fieldChars_cons]
    rfl

/-- A whole number begins with a digit or a sign. -/
theorem exists_integer_eq_cons (i : Int) :
    ∃ c cs, (Text.integer i).toList = c :: cs ∧ (c.isDigit = true ∨ c = '-') := by
  cases i with
  | ofNat n =>
    obtain ⟨c, cs, hcs⟩ := List.exists_cons_of_ne_nil (Nat.toDigits_ne_nil (n := n) (b := 10))
    refine ⟨c, cs, (toList_integer_natCast n).trans hcs, .inl ?_⟩
    exact isDigit_of_mem_toDigits (hcs ▸ List.mem_cons_self)
  | negSucc n => exact ⟨_, _, toList_integer_negSucc n, .inr rfl⟩

/-- Such a character begins nothing else, and is no blank. -/
theorem ne_of_isDigit_or {c d : Char} (hc : c.isDigit = true ∨ c = '-')
    (hd : d.isDigit = false ∧ d ≠ '-') : c ≠ d := by
  rintro rfl
  rcases hc with hc | hc
  · rw [hd.1] at hc
    cases hc
  · exact hd.2 hc

theorem isBlank_of_isDigit_or {c : Char} (hc : c.isDigit = true ∨ c = '-') :
    isBlank c = false := by
  simp only [isBlank, Bool.or_eq_false_iff, beq_eq_false_iff_ne]
  exact ⟨⟨⟨ne_of_isDigit_or hc (by decide), ne_of_isDigit_or hc (by decide)⟩,
    ne_of_isDigit_or hc (by decide)⟩, ne_of_isDigit_or hc (by decide)⟩

/-- A value begins with a character that is no blank and ends no list. -/
theorem exists_chars_eq_cons (l : Layout) (depth : Nat) {v : Json} (hv : v.isWhole = true) :
    ∃ c cs, chars l depth v = c :: cs ∧ isBlank c = false ∧ c ≠ ']' := by
  cases v with
  | null => exact ⟨_, _, chars_null l depth, rfl, by decide⟩
  | bool b =>
    rw [chars_bool]
    cases b <;> exact ⟨_, _, rfl, rfl, by decide⟩
  -- a number begins with its sign or a digit; any other value has a mark of its own
  | int i =>
    obtain ⟨c, cs, hcs, hc⟩ := exists_integer_eq_cons i
    exact ⟨c, cs, (chars_int l depth i).trans hcs, isBlank_of_isDigit_or hc,
      ne_of_isDigit_or hc (by decide)⟩
  | float x => cases hv
  | str s => exact ⟨_, _, chars_str l depth s, rfl, by decide⟩
  | arr vs =>
    cases vs with
    | nil => exact ⟨_, _, chars_arr_nil l depth, rfl, by decide⟩
    | cons x xs => exact ⟨_, _, chars_arr_cons l depth x xs, rfl, by decide⟩
  | obj fs =>
    cases fs with
    | nil => exact ⟨_, _, chars_obj_nil l depth, rfl, by decide⟩
    | cons f fs => exact ⟨_, _, chars_obj_cons l depth f.1 f.2 fs, rfl, by decide⟩

/-! ### What is read -/

/-- So many steps are enough for whatever is written in at most half as many characters. -/
structure Reads (l : Layout) (fuel : Nat) : Prop where
  /-- A value is read. -/
  value : ∀ v depth rest, v.isWhole = true → 2 * (chars l depth v).length ≤ fuel →
    mayFollow rest = true → valueAt fuel (chars l depth v ++ rest) = some (ofJson v, rest)
  /-- The items of a list are read to its end. -/
  items : ∀ x xs depth bs rest, areWhole (x :: xs) = true →
    2 * (chars l depth x ++ itemChars l depth xs).length < fuel → (∀ c ∈ bs, isBlank c = true) →
    itemsAt fuel (chars l depth x ++ (itemChars l depth xs ++ (bs ++ ']' :: rest))) =
      some (ofItems (x :: xs), rest)
  /-- The fields of an object are read to its end. -/
  fields : ∀ k x fs depth bs rest, haveWhole ((k, x) :: fs) = true →
    2 * (chars l depth x ++ fieldChars l depth fs).length < fuel → (∀ c ∈ bs, isBlank c = true) →
    fieldsAt fuel ('"' :: (keyChars l k ++
      (chars l depth x ++ (fieldChars l depth fs ++ (bs ++ '\x7d' :: rest))))) =
      some (ofFields ((k, x) :: fs), rest)

variable {l : Layout} {fuel : Nat}

/-- Items are read after their first one as lists of items are. -/
theorem reads_items (hl : l.IsBlank) (h : Reads l fuel) (x : Json) (xs : List Json) (depth : Nat)
    (bs rest : List Char) (hxs : areWhole (x :: xs) = true)
    (hfuel : 2 * (chars l depth x ++ itemChars l depth xs).length < fuel + 1)
    (hbs : ∀ c ∈ bs, isBlank c = true) :
    itemsAt (fuel + 1) (chars l depth x ++ (itemChars l depth xs ++ (bs ++ ']' :: rest))) =
      some (ofItems (x :: xs), rest) := by
  obtain ⟨hx, hxs⟩ := Bool.and_eq_true_iff.mp hxs
  rw [List.length_append] at hfuel
  have hend : mayFollow (bs ++ ']' :: rest) = true := mayFollow_append hbs rfl
  -- the first item is read by the assumption, and so is the rest if there is one
  have hvalue := h.value x depth (itemChars l depth xs ++ (bs ++ ']' :: rest)) hx (by omega)
    (mayFollow_itemChars xs hend)
  cases xs with
  | nil =>
    -- it was the last one, and the bracket closes the list
    have hclosed : skipBlanks (itemChars l depth [] ++ (bs ++ ']' :: rest)) = ']' :: rest := by
      show skipBlanks (bs ++ ']' :: rest) = _
      rw [skipBlanks_append hbs, skipBlanks_cons (by decide)]
    simp only [itemsAt, hvalue, Option.bind_eq_bind, Option.bind_some, hclosed]
    rfl
  | cons y ys =>
    -- a comma and blanks stand before the next one
    have hcomma : skipBlanks (itemChars l depth (y :: ys) ++ (bs ++ ']' :: rest)) =
        ',' :: ((l.lineStart depth).toList ++
          (chars l depth y ++ (itemChars l depth ys ++ (bs ++ ']' :: rest)))) := by
      rw [itemChars_cons, List.cons_append, skipBlanks_cons (by decide)]
      simp only [List.append_assoc]
    rw [itemChars_cons, List.length_cons, List.length_append] at hfuel
    have hitems := h.items y ys depth bs rest hxs (by omega) hbs
    rw [← itemsAt_append (hl.lineStart depth)] at hitems
    simp only [itemsAt, hvalue, Option.bind_eq_bind, Option.bind_some, hcomma, hitems]
    rfl

/-- Fields are read after their first one as objects of fields are. -/
theorem reads_fields (hl : l.IsBlank) (h : Reads l fuel) (k : String) (x : Json)
    (fs : List (String × Json)) (depth : Nat) (bs rest : List Char)
    (hfs : haveWhole ((k, x) :: fs) = true)
    (hfuel : 2 * (chars l depth x ++ fieldChars l depth fs).length < fuel + 1)
    (hbs : ∀ c ∈ bs, isBlank c = true) :
    fieldsAt (fuel + 1) ('"' :: (keyChars l k ++
      (chars l depth x ++ (fieldChars l depth fs ++ (bs ++ '\x7d' :: rest))))) =
      some (ofFields ((k, x) :: fs), rest) := by
  obtain ⟨hx, hfs⟩ := Bool.and_eq_true_iff.mp hfs
  obtain ⟨gap, hgap, hblank⟩ := hl.afterKey
  rw [List.length_append] at hfuel
  have hend : mayFollow (bs ++ '\x7d' :: rest) = true := mayFollow_append hbs rfl
  set tail := fieldChars l depth fs ++ (bs ++ '\x7d' :: rest) with htail
  -- the key ends with its quotes, and blanks may stand behind the colon
  have hkey : quotedText (keyChars l k ++ (chars l depth x ++ tail)) =
      some (some k, ':' :: (gap ++ (chars l depth x ++ tail))) := by
    rw [keyChars, hgap, List.append_assoc, List.cons_append, quotedText_escaped]
    rfl
  have hvalue := h.value x depth tail hx (by omega) (mayFollow_fieldChars fs hend)
  rw [← valueAt_append hblank] at hvalue
  have hcolon : ∀ cs, skipBlanks (':' :: cs) = ':' :: cs := fun cs ↦ skipBlanks_cons (by decide)
  have hquote : ∀ cs, skipBlanks ('"' :: cs) = '"' :: cs := fun cs ↦ skipBlanks_cons (by decide)
  cases fs with
  | nil =>
    -- it was the last field, and the brace closes the object
    have hclosed : skipBlanks tail = '\x7d' :: rest := by
      show skipBlanks (bs ++ '\x7d' :: rest) = _
      rw [skipBlanks_append hbs, skipBlanks_cons (by decide)]
    simp only [fieldsAt, hquote, hkey, hcolon, hvalue, hclosed, Option.bind_eq_bind,
      Option.bind_some]
    rfl
  | cons f fs =>
    obtain ⟨k', y⟩ := f
    -- a comma and blanks stand before the next key
    have hcomma : skipBlanks tail = ',' :: ((l.lineStart depth).toList ++ ('"' :: (keyChars l k' ++
        (chars l depth y ++ (fieldChars l depth fs ++ (bs ++ '\x7d' :: rest)))))) := by
      rw [htail, fieldChars_cons, List.cons_append, skipBlanks_cons (by decide)]
      simp only [List.append_assoc, List.cons_append]
    rw [fieldChars_cons, List.length_cons, List.length_append, List.length_cons,
      List.length_append] at hfuel
    have hfields := h.fields k' y fs depth bs rest hfs (by omega) hbs
    rw [← fieldsAt_append (hl.lineStart depth)] at hfields
    simp only [fieldsAt, hquote, hkey, hcolon, hvalue, hcomma, hfields, Option.bind_eq_bind,
      Option.bind_some]
    rfl

/-- A number is read where no other value begins. -/
theorem valueAt_number {c : Char} {cs : List Char} (hc : c.isDigit = true ∨ c = '-') :
    valueAt (fuel + 1) (c :: cs) = numberAt (c :: cs) := by
  rw [valueAt, skipBlanks_cons (isBlank_of_isDigit_or hc)]
  split
  all_goals first | rfl | skip
  all_goals
    rename_i heq
    exact absurd (List.cons.inj heq).1 (ne_of_isDigit_or hc (by decide))

/-- Where a list does not end at once, its items are read. -/
theorem valueAt_list {cs rest : List Char} {items : List Written}
    (hcs : ∀ ds, skipBlanks cs ≠ ']' :: ds)
    (h : itemsAt fuel (skipBlanks cs) = some (items, rest)) :
    valueAt (fuel + 1) ('[' :: cs) = some (.arr items, rest) := by
  have hblank : skipBlanks ('[' :: cs) = '[' :: cs := skipBlanks_cons (by decide)
  -- the second case of the reader's `match` is the one that `hcs` leaves
  simp only [valueAt, hblank, h, Option.bind_eq_bind, Option.bind_some]

/-- Where an object does not end at once, its fields are read. -/
theorem valueAt_object {cs rest : List Char} {fields : List (Option String × Written)}
    (hcs : ∀ ds, skipBlanks cs ≠ '\x7d' :: ds)
    (h : fieldsAt fuel (skipBlanks cs) = some (fields, rest)) :
    valueAt (fuel + 1) ('\x7b' :: cs) = some (.obj fields, rest) := by
  have hblank : skipBlanks ('\x7b' :: cs) = '\x7b' :: cs := skipBlanks_cons (by decide)
  -- the second case of the reader's `match` is the one that `hcs` leaves
  simp only [valueAt, hblank, h, Option.bind_eq_bind, Option.bind_some]

/-- **A value is read** with one step more than its items or fields take. -/
theorem reads_value (hl : l.IsBlank) (h : Reads l fuel) (v : Json) (depth : Nat) (rest : List Char)
    (hv : v.isWhole = true) (hfuel : 2 * (chars l depth v).length ≤ fuel + 1)
    (hrest : mayFollow rest = true) :
    valueAt (fuel + 1) (chars l depth v ++ rest) = some (ofJson v, rest) := by
  cases v with
  | null =>
    rw [chars_null]
    rfl
  | bool b =>
    rw [chars_bool]
    cases b <;> rfl
  -- a number ends where what follows cannot be part of it
  | int i =>
    obtain ⟨hlow, hhigh⟩ := Bool.and_eq_true_iff.mp hv
    obtain ⟨c, cs, hcs, hc⟩ := exists_integer_eq_cons i
    have hnumber := numberAt_integer (of_decide_eq_true hlow) (of_decide_eq_true hhigh)
      (endsNumber_of_mayFollow hrest)
    rw [chars_int]
    rw [hcs, List.cons_append] at hnumber ⊢
    rw [valueAt_number hc, hnumber]
    rfl
  | float x => cases hv
  | str s =>
    rw [chars_str, List.cons_append, List.append_assoc]
    simp only [valueAt, skipBlanks_cons (c := '"') (by decide), List.cons_append, List.nil_append,
      quotedText_escaped, Option.bind_eq_bind, Option.bind_some]
    rfl
  | arr vs =>
    cases vs with
    | nil =>
      rw [chars_arr_nil]
      rfl
    | cons x xs =>
      rw [chars_arr_cons] at hfuel ⊢
      simp only [List.length_cons, List.length_append] at hfuel
      -- the items are read by the assumption, and the first of them is no closing bracket
      have hitems := h.items x xs (depth + 1) (l.lineStart depth).toList rest hv
        (by rw [List.length_append]; omega) (hl.lineStart depth)
      obtain ⟨c, cs, hcs, hc, hend⟩ :=
        exists_chars_eq_cons l (depth + 1) (Bool.and_eq_true_iff.mp hv).1
      simp only [List.cons_append, List.append_assoc, List.nil_append]
      have hskip : ∀ tail, skipBlanks ((l.lineStart (depth + 1)).toList ++
          (chars l (depth + 1) x ++ tail)) = chars l (depth + 1) x ++ tail := by
        intro tail
        rw [skipBlanks_append (hl.lineStart _), hcs, List.cons_append, skipBlanks_cons hc]
      refine valueAt_list (fun ds heq ↦ ?_) ?_
      · rw [hskip, hcs] at heq
        exact hend (List.cons.inj heq).1
      · rw [hskip, hitems]
  | obj fs =>
    cases fs with
    | nil =>
      rw [chars_obj_nil]
      rfl
    | cons f fs =>
      obtain ⟨k, x⟩ := f
      rw [chars_obj_cons] at hfuel ⊢
      simp only [List.length_cons, List.length_append] at hfuel
      -- the fields are read by the assumption, and the quotes of a key are no closing brace
      have hfields := h.fields k x fs (depth + 1) (l.lineStart depth).toList rest hv
        (by rw [List.length_append]; omega) (hl.lineStart depth)
      simp only [List.cons_append, List.append_assoc, List.nil_append]
      have hskip : ∀ tail, skipBlanks ((l.lineStart (depth + 1)).toList ++ ('"' :: tail)) =
          '"' :: tail := fun tail ↦ by
        rw [skipBlanks_append (hl.lineStart _), skipBlanks_cons (by decide)]
      refine valueAt_object (fun ds heq ↦ ?_) ?_
      · rw [hskip] at heq
        exact absurd (List.cons.inj heq).1 (by decide)
      · rw [hskip, hfields]

/-- **Twice as many steps as characters are enough.** -/
theorem reads (hl : l.IsBlank) (fuel : Nat) : Reads l fuel := by
  induction fuel with
  | zero =>
    refine ⟨fun v depth rest hv hfuel _ ↦ ?_, ?_, ?_⟩
    · obtain ⟨c, cs, hcs, -⟩ := exists_chars_eq_cons l depth hv
      rw [hcs, List.length_cons] at hfuel
      omega
    · exact fun _ _ _ _ _ _ hfuel _ ↦ absurd hfuel (Nat.not_lt_zero _)
    · exact fun _ _ _ _ _ _ _ hfuel _ ↦ absurd hfuel (Nat.not_lt_zero _)
  | succ fuel ih => exact ⟨reads_value hl ih, reads_items hl ih, reads_fields hl ih⟩

/-- **Whatever is written is read back**, if the layout adds nothing but blanks. -/
theorem read?_write (hl : l.IsBlank) {v : Json} (hv : v.isWhole = true) :
    Written.read? (v.write l 0) = some (.ofJson v) := by
  have hvalue := (reads hl (2 * (chars l 0 v).length + 2)).value v 0 [] hv (by omega) rfl
  rw [List.append_nil] at hvalue
  show (valueAt (2 * (chars l 0 v).length + 2) (chars l 0 v)).bind _ = _
  rw [hvalue]
  rfl

theorem read?_pretty {v : Json} (hv : v.isWhole = true) :
    Written.read? v.pretty = some (.ofJson v) := read?_write isBlank_indented hv

end NetWarden.Json
