import NetWarden.Proofs.Dictionaries
import NetWarden.Proofs.Json.Texts
import NetWarden.Source

/-!
# What places show

A record is written as a free-form value and read from a place of a document, and the two know
nothing of each other but the names of the fields. `Source.Faithful` is what stands between them: it
says of a format when a place *shows* a value, and that whatever is wanted of such a place, the
place gives what the value says. A value is shown with a number of levels that may be entered there,
since no place may be entered without end.

`Decodes` is the way back for one type: **from every place that shows what a value is written as,
the value is read**, whatever the format is. It goes on from items to lists and dictionaries, and
from fields to records (`exists_fields`). A field that is left out is found missing, and each way of
reading a field takes this for what it was. What is written has no fractions, so a JSON text of it
is read back.
-/

namespace NetWarden

open Dictionary

variable {α σ : Type} {n : Nat}

/-! ### Formats that are faithful to values -/

/-- What a format promises of places at which free-form values stand. -/
class Source.Faithful (σ : Type) [Source σ] where
  /-- A value stands at a place, and so many levels of it may be entered. -/
  Shows : Nat → σ → Json → Prop
  /-- A text is given where a text is wanted. -/
  text?_eq : ∀ {n p s}, Shows n p (.str s) → Source.text? p = some s
  /-- A text is given where a name is wanted. -/
  name?_eq : ∀ {n p s}, Shows n p (.str s) → Source.name? p = some s
  /-- A truth value is given where one is wanted. -/
  bool?_eq : ∀ {n p b}, Shows n p (.bool b) → Source.bool? p = some b
  /-- A whole number is given where one is wanted, if it has its place. -/
  int64?_eq : ∀ {n p i}, Shows n p (.int i) → Source.int64? p = Text.toInt64? i
  /-- What is not the absent value is set. -/
  set?_eq : ∀ {n p v}, Shows n p v → v.isNull = false → Source.set? p = some (some p)
  /-- The items of a list are shown one level below it. -/
  exists_items : ∀ {n p vs}, Shows (n + 1) p (.arr vs) →
    ∃ ps, Source.items? p = some ps ∧ List.Forall₂ (Shows n) ps vs
  /-- The entries of an object are shown one level below it. -/
  exists_entries : ∀ {n p fs}, Shows (n + 1) p (.obj fs) →
    ∃ es, Source.entries? p = some es ∧ List.Forall₂ (EntryRel (Shows n)) es fs
  /-- So are the fields of a record that declares all of them and in which none is repeated. -/
  exists_known : ∀ {n p fs} {declared : List String}, Shows (n + 1) p (.obj fs) →
    (fs.map Prod.fst).Nodup → (∀ f ∈ fs, f.1 ∈ declared) →
    ∃ es, Source.fields? declared p = some ⟨es, false⟩ ∧ List.Forall₂ (EntryRel (Shows n)) es fs

export Source.Faithful (Shows)

/-! ### Fields that are left out -/

theorem Json.map_fst_filterMap_sublist (es : List (String × Option Json)) :
    ((es.filterMap fun f ↦ f.2.map (Prod.mk f.1)).map Prod.fst).Sublist (es.map Prod.fst) := by
  induction es with
  | nil => exact .refl _
  | cons e es ih =>
    obtain ⟨key, v⟩ := e
    cases v with
    | none => exact ih.cons key
    | some v => exact ih.cons_cons key

/-- **What is set of a record is found under its name**, and what is not set is not found. -/
theorem Json.lookupIn_record {es : List (String × Option Json)} (hnodup : (es.map Prod.fst).Nodup) :
    ∀ e ∈ es, lookupIn e.1 (es.filterMap fun f ↦ f.2.map (Prod.mk f.1)) = e.2 := by
  induction es with
  | nil => exact fun e he ↦ absurd he List.not_mem_nil
  | cons f es ih =>
    obtain ⟨key, v⟩ := f
    rw [List.map_cons, List.nodup_cons] at hnodup
    obtain ⟨hkey, hnodup⟩ := hnodup
    have hrest : ∀ e ∈ es, e.1 ≠ key := fun e he heq ↦
      hkey (List.mem_map.mpr ⟨e, he, heq⟩)
    cases v with
    -- no other entry has the name of one that is left out
    | none =>
      refine List.forall_mem_cons.mpr ⟨?_, ih hnodup⟩
      exact lookupIn_eq_none_iff.mpr fun hmem ↦
        hkey ((Json.map_fst_filterMap_sublist es).subset hmem)
    | some v =>
      refine List.forall_mem_cons.mpr ⟨if_pos rfl, fun e he ↦ ?_⟩
      exact (if_neg (hrest e he)).trans (ih hnodup e he)

/-- A record has no fractions if no field that is set has any. -/
theorem Json.isWhole_record {es : List (String × Option Json)}
    (h : ∀ e ∈ es, e.2.all Json.isWhole = true) : (Json.record es).isWhole = true := by
  show Json.haveWhole (es.filterMap fun f ↦ f.2.map (Prod.mk f.1)) = true
  induction es with
  | nil => rfl
  | cons e es ih =>
    obtain ⟨he, hes⟩ := List.forall_mem_cons.mp h
    obtain ⟨key, v⟩ := e
    cases v with
    | none => exact ih hes
    | some v => exact Bool.and_eq_true_iff.mpr ⟨he, ih hes⟩

section

variable [Source σ] [Source.Faithful σ] {p : σ}

/-- **The fields of a record are found as they were written**, and no others are there. -/
theorem exists_fields {es : List (String × Option Json)} (h : Shows (n + 1) p (.record es))
    (declared : List String) (hdeclared : es.map Prod.fst = declared) (hnodup : declared.Nodup) :
    ∃ f, Source.fields? declared p = some f ∧ f.hasOthers = false ∧
      ∀ e ∈ es, Option.Rel (Shows n) (f.get? e.1) e.2 := by
  subst hdeclared
  have hsublist := Json.map_fst_filterMap_sublist es
  obtain ⟨known, hknown, hrel⟩ := Source.Faithful.exists_known h (hnodup.sublist hsublist)
    fun f hf ↦ hsublist.subset (List.mem_map_of_mem hf)
  refine ⟨_, hknown, rfl, fun e he ↦ ?_⟩
  rw [← Json.lookupIn_record hnodup e he]
  exact rel_lookupIn hrel e.1

end

/-! ### Types that are read as they are written -/

/-- The values of a type are read back from what they are written as, where so many levels may be
entered. -/
structure Decodes [Readable α] (n : Nat) (encode : α → Json) : Prop where
  /-- No value is written as the absent one. -/
  isSet : ∀ a, (encode a).isNull = false
  /-- No value is written with a fraction. -/
  isWhole : ∀ a, (encode a).isWhole = true
  /-- From a place that shows what a value is written as, the value is read. -/
  reads : ∀ {σ : Type} [Source σ] [Source.Faithful σ] {p : σ} {a : α}, Shows n p (encode a) →
    Readable.read? p = some a

theorem decodes_text : Decodes n Json.str where
  isSet _ := rfl
  isWhole _ := rfl
  reads h := Source.Faithful.text?_eq h

theorem decodes_bool : Decodes n Json.bool where
  isSet _ := rfl
  isWhole _ := rfl
  reads h := Source.Faithful.bool?_eq h

theorem decodes_int64 : Decodes n fun i : Int64 ↦ .int i.toInt where
  isSet _ := rfl
  isWhole i := by
    have hlow := Int64.le_toInt i
    have hhigh := Int64.toInt_lt i
    simp only [Json.isWhole, Bool.and_eq_true, decide_eq_true_eq]
    omega
  reads h := (Source.Faithful.int64?_eq h).trans (Text.toInt64?_toInt _)

theorem mapM_eq_some_of_forall₂ {β : Type} {f : β → Option α} {bs : List β} {as : List α}
    (h : List.Forall₂ (fun b a ↦ f b = some a) bs as) : bs.mapM f = some as := by
  induction h with
  | nil => rfl
  | cons hba _ ih =>
    rw [List.mapM_cons, hba, ih]
    rfl

/-- **A list is read item by item.** -/
theorem decodes_list [Readable α] {encode : α → Json} (h : Decodes n encode) :
    Decodes (n + 1) fun as : List α ↦ .arr (as.map encode) where
  isSet _ := rfl
  isWhole as := by
    show Json.areWhole (as.map encode) = true
    induction as with
    | nil => rfl
    | cons a as ih => exact Bool.and_eq_true_iff.mpr ⟨h.isWhole a, ih⟩
  reads {σ _ _ p as} hp := by
    obtain ⟨ps, hitems, hshows⟩ := Source.Faithful.exists_items hp
    rw [List.forall₂_map_right_iff] at hshows
    show Readable.items? p = some as
    rw [Readable.items?, hitems]
    exact mapM_eq_some_of_forall₂ (hshows.imp fun _ _ ↦ h.reads)

/-- **A dictionary is read entry by entry.** -/
theorem decodes_dictionary [Readable α] {encode : α → Json} (h : Decodes n encode) :
    Decodes (n + 1) fun d : Dictionary α ↦ .obj (d.entries.map fun e ↦ (e.1, encode e.2)) where
  isSet _ := rfl
  isWhole d := by
    show Json.haveWhole (d.entries.map fun e ↦ (e.1, encode e.2)) = true
    induction d.entries with
    | nil => rfl
    | cons e es ih => exact Bool.and_eq_true_iff.mpr ⟨h.isWhole e.2, ih⟩
  reads {σ _ _ p d} hp := by
    obtain ⟨es, hentries, hshows⟩ := Source.Faithful.exists_entries hp
    rw [List.forall₂_map_right_iff] at hshows
    -- the entries stand in the order of their keys, which is how they are put back
    have hread : es.mapM (fun e ↦ (Readable.read? e.2).map (Prod.mk e.1)) = some d.entries := by
      refine mapM_eq_some_of_forall₂ (hshows.imp fun e f hef ↦ ?_)
      rw [h.reads hef.2, hef.1]
      rfl
    show Readable.entries? p = some d
    simp only [Readable.entries?, hentries, Option.bind_eq_bind, Option.bind_some, hread,
      ofList_entries]

/-! ### Fields -/

/-- A field that may be left out is written without fractions if it is written at all. -/
theorem all_isWhole_map [Readable α] {encode : α → Json} (h : Decodes n encode) (o : Option α) :
    (o.map encode).all Json.isWhole = true := by
  cases o with
  | none => rfl
  | some a => exact h.isWhole a

section

variable [Readable α] [Source σ] [Source.Faithful σ] {encode : α → Json} {f : Fields σ}
  {name : String} {a : α}

/-- A field that must be there is read if it was written. -/
theorem required_eq (h : Decodes n encode)
    (hf : Option.Rel (Shows n) (f.get? name) (some (encode a))) : f.required name = some a := by
  rw [Fields.required]
  generalize f.get? name = x at hf
  cases hf with
  | some hp => exact h.reads hp

/-- A field that may be absent is read as what it was, left out or not. -/
theorem optional_eq (h : Decodes n encode) {o : Option α}
    (hf : Option.Rel (Shows n) (f.get? name) (o.map encode)) : f.optional name = some o := by
  rw [Fields.optional]
  generalize f.get? name = x at hf
  cases o with
  | none =>
    cases hf
    rfl
  | some a =>
    cases hf with
    | some hp =>
      simp only [Source.Faithful.set?_eq hp (h.isSet a), Option.bind_eq_bind, Option.bind_some,
        h.reads hp, Option.map_some]

/-- A field that stands for a default when it is absent is read if it was written. -/
theorem defaulted_eq (h : Decodes n encode) {default : α}
    (hf : Option.Rel (Shows n) (f.get? name) (some (encode a))) :
    f.defaulted name default = some a := by
  rw [Fields.defaulted]
  generalize f.get? name = x at hf
  cases hf with
  | some hp => exact h.reads hp

/-- A list that is left out when it is empty is read again. -/
theorem defaulted_eq_of_isEmpty (h : Decodes n encode) {as : List α}
    (hf : Option.Rel (Shows (n + 1)) (f.get? name)
      (if as.isEmpty then none else some (.arr (as.map encode)))) :
    f.defaulted name [] = some as := by
  cases as with
  | nil =>
    rw [Fields.defaulted]
    generalize f.get? name = x at hf
    cases hf
    rfl
  | cons a as => exact defaulted_eq (decodes_list h) hf

end

end NetWarden
