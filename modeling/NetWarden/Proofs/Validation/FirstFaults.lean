import NetWarden.Proofs.Validation.RuleFilters

/-!
# Which fault of a filter block is told

A block may have several values that their keys do not take, and one of them is told. **It is the
first**: the direction comes before all else, and the other keys come in their order
(`RuleFilter.IsFirstFault`). So what is told depends on nothing that stands behind it.

A fault is told under its own key (`RuleFilter.Blames`), but for two kinds of fault. A text that is
no direction, and a list of texts one of which is nothing that a rule can do, are looked up in
tables that do not know the key. **They are told as `direction` and `action`** (`toldAs`), which are
no keys of a filter block, while any other fault under the same two keys is told under them.
-/

namespace NetWarden

open Checked

variable {α β : Type}

namespace RuleFilter

/-! ### Checks and the key they blame -/

/-- Whatever a check refuses, it is a value, put down to this key. -/
def Blames (key : String) (x : Checked α) : Prop :=
  ∀ e, x = .error e → ∃ reason, e = .invalidValue key reason

section

variable {key : String} {v : Json}

theorem blames_ok (key : String) (a : α) : Blames key (.ok a : Checked α) := nofun

theorem blames_invalidValue (key : String) (reason : Reason) :
    Blames key (.error (.invalidValue key reason) : Checked α) := by
  rintro e ⟨⟩
  exact ⟨reason, rfl⟩

theorem blames_found {expected : Shape} {got : Json} (o : Option α) :
    Blames key (found key expected got o) := by
  cases o with
  | none => exact blames_invalidValue key _
  | some a => exact blames_ok key a

theorem Blames.bind {x : Checked α} {f : α → Checked β} (hx : Blames key x)
    (hf : ∀ a, x = .ok a → Blames key (f a)) : Blames key (x >>= f) := by
  intro e h
  rcases bind_eq_error_iff.mp h with h | ⟨a, ha, h⟩
  · exact hx e h
  · exact hf a ha e h

/-- **A list is blamed for its elements.** -/
theorem Blames.mapM {f : α → Checked β} {as : List α} (hf : ∀ a ∈ as, Blames key (f a)) :
    Blames key (as.mapM f) := by
  intro e h
  obtain ⟨a, ha, h⟩ := exists_of_mapM_eq_error h
  exact hf a ha e h

theorem blames_text : Blames key (text key v) := blames_found _

theorem blames_boolean : Blames key (boolean key v) := blames_found _

theorem blames_integer : Blames key (integer key v) := blames_found _

theorem blames_texts : Blames key (texts key v) := .mapM fun _ _ ↦ blames_text

theorem blames_integers : Blames key (integers key v) := .mapM fun _ _ ↦ blames_integer

theorem blames_checkPorts : Blames key (checkPorts key v) := .mapM fun _ _ ↦ blames_found _

theorem blames_checkOperator : Blames key (checkOperator key v) := by
  refine blames_text.bind fun s _ ↦ ?_
  split
  · exact blames_ok key _
  · exact blames_invalidValue key _

theorem blames_checkAddresses : Blames key (checkAddresses key v) := by
  rw [checkAddresses.eq_def]
  split
  · exact blames_ok key _
  · split
    · exact blames_ok key _
    · exact blames_invalidValue key _

theorem blames_checkProtocol : Blames key (checkProtocol key v) := by
  rw [checkProtocol.eq_def]
  split
  · split
    · exact blames_ok key _
    · exact blames_invalidValue key _
  · exact blames_integer.bind fun n _ ↦ blames_ok key _
  · exact blames_integer.bind fun n _ ↦ blames_ok key _
  · exact blames_invalidValue key _

theorem blames_checkProtocols : Blames key (checkProtocols key v) :=
  (blames_found _).bind fun _ _ ↦ .mapM fun _ _ ↦ blames_checkProtocol

theorem blames_checkEthertypes : Blames key (checkEthertypes key v) := by
  refine blames_texts.bind fun names _ ↦ ?_
  split
  · exact blames_invalidValue key _
  · exact blames_ok key _

/-- A name of a direction that there is not is told as `direction`. -/
theorem blames_parse_direction (s : String) : Blames "direction" (Direction.parse s) := by
  rw [Direction.parse]
  split
  · exact blames_ok _ _
  · exact blames_invalidValue _ _

/-- A name of what no rule does is told as `action`. -/
theorem blames_parse_action (s : String) : Blames "action" (RuleAction.parse s) := by
  rw [RuleAction.parse]
  split
  · exact blames_ok _ _
  · exact blames_invalidValue _ _

end

/-! ### What a fault is told as -/

/-- The name under which it is told that a key does not take a value. Texts that are looked up in a
table of names are told under the name of the table, all other values under the key. -/
def toldAs (key : String) (v : Json) : String :=
  match key with
  | "type" => if v.str?.isSome then "direction" else key
  | "Action" => if (oneOrMore v).all fun item ↦ item.str?.isSome then "action" else key
  | _ => key

/-- A value is a text or a list of texts just where all its items are texts. -/
theorem all_isSome_iff {v : Json} : ((oneOrMore v).all fun item ↦ item.str?.isSome) = true ↔
    ∃ ts, OneOrMore IsText v ts := by
  rw [List.all_eq_true]
  constructor
  · -- if the texts could not be read, an item would be none
    intro hall
    rcases htexts : texts "Action" v with e | ts
    · obtain ⟨item, hitem, h⟩ := exists_of_mapM_eq_error htexts
      obtain ⟨s, hs⟩ := Option.isSome_iff_exists.mp (hall item hitem)
      rw [text, hs] at h
      cases h
    · exact ⟨ts, texts_eq_ok_iff.mp htexts⟩
  · rintro ⟨ts, hts⟩ item hitem
    have htexts : texts "Action" v = .ok ts := texts_eq_ok_iff.mpr hts
    obtain ⟨s, hs⟩ := exists_ok_of_mem htexts hitem
    rw [text_eq_ok_iff.mp hs]
    rfl

theorem isSome_str?_iff {v : Json} : v.str?.isSome = true ↔ ∃ s, IsText v s := by
  cases v <;> simp [Json.str?, IsText]

/-- **A fault is told under its own key but where texts are looked up** in a table of names. -/
theorem toldAs_eq_self_iff {key : String} {v : Json} : toldAs key v = key ↔
    ¬ (key = "type" ∧ ∃ s, IsText v s) ∧ ¬ (key = "Action" ∧ ∃ ts, OneOrMore IsText v ts) := by
  rw [toldAs.eq_def]
  split
  · rw [← isSome_str?_iff]
    split <;> simp_all
  · rw [← all_isSome_iff]
    split <;> simp_all
  · rename_i htype haction
    exact iff_of_true rfl ⟨fun h ↦ htype h.1, fun h ↦ haction h.1⟩

/-- The names of the tables are no keys of a filter block. -/
theorem toldAs_not_mem_keys {key : String} {v : Json} (h : toldAs key v ≠ key) :
    toldAs key v ∉ keys := by
  rw [toldAs.eq_def] at h ⊢
  split at h
  · split at h
    · rw [if_pos ‹_›]
      decide
    · exact absurd rfl h
  · split at h
    · rw [if_pos ‹_›]
      decide
    · exact absurd rfl h
  · exact absurd rfl h

/-- What rules do is looked up where all names are texts. -/
theorem blames_checkActions (v : Json) : Blames (toldAs "Action" v) (checkActions "Action" v) := by
  by_cases hall : ((oneOrMore v).all fun item ↦ item.str?.isSome) = true
  · have htold : toldAs "Action" v = "action" := if_pos hall
    obtain ⟨names, hnames⟩ := all_isSome_iff.mp hall
    rw [htold, checkActions, texts_eq_ok_iff.mpr hnames]
    exact .mapM fun s _ ↦ blames_parse_action s
  · have htold : toldAs "Action" v = "Action" := if_neg hall
    rw [htold]
    exact blames_texts.bind fun names hnames ↦
      absurd (all_isSome_iff.mpr ⟨names, texts_eq_ok_iff.mp hnames⟩) hall

/-- The name of a direction is looked up where it is a text. -/
theorem blames_checkDirection {b : Block} {w : Json} (hw : b.get? "type" = some w) :
    Blames (toldAs "type" w) (checkDirection b) := by
  have hrequired : b.required "type" (.ruleFilter none) = .ok w := by rw [Block.required, hw]
  show Blames (toldAs "type" w) (b.required "type" (.ruleFilter none) >>= fun v ↦
    text "type" v >>= Direction.parse)
  rw [hrequired]
  cases w with
  | str s => exact blames_parse_direction s
  | _ => exact blames_invalidValue "type" _

/-! ### The first fault -/

/-- A key is looked at before another: the direction before all others, these in their order. -/
def ComesBefore (l k : String) : Prop := k ≠ "type" ∧ (l = "type" ∨ l < k)

instance (l k : String) : Decidable (ComesBefore l k) :=
  inferInstanceAs (Decidable (k ≠ "type" ∧ (l = "type" ∨ l < k)))

/-- Under this key stands the first value of a block that its key does not take. -/
structure IsFirstFault (b : Block) (k : String) (v : Json) : Prop where
  /-- The value stands there. -/
  stands : b.get? k = some v
  /-- The key does not take it. -/
  fault : ¬ Takes k v
  /-- The keys that come before take their values. -/
  first : ∀ l w, b.get? l = some w → ComesBefore l k → Takes l w

/-- Of two faults under two keys one comes first. -/
theorem IsFirstFault.key_unique {b : Block} {k l : String} {v w : Json} (h : IsFirstFault b k v)
    (h' : IsFirstFault b l w) : k = l := by
  have hbefore : ∀ {k l v w}, IsFirstFault b k v → IsFirstFault b l w → ¬ ComesBefore k l :=
    fun h h' hkl ↦ h.fault (h'.first _ _ h.stands hkl)
  by_contra hne
  by_cases hk : k = "type"
  · exact hbefore h h' ⟨fun hl ↦ hne (hk.trans hl.symm), .inl hk⟩
  by_cases hl : l = "type"
  · exact hbefore h' h ⟨hk, .inl hl⟩
  rcases Std.lt_trichotomy k l with hlt | heq | hlt
  · exact hbefore h h' ⟨hl, .inr hlt⟩
  · exact hne heq
  · exact hbefore h' h ⟨hk, .inr hlt⟩

/-- A rejection is put down to the first fault of a block. -/
def TellsFirst (b : Block) (e : ValidationError) : Prop :=
  ∃ k v reason, IsFirstFault b k v ∧ e = .invalidValue (toldAs k v) reason

section

variable {b : Block} {e : ValidationError}

/-- **Either a key is the first that does not take its value, or the check goes on.** It goes on
with one key more that is known to take its value. -/
theorem tellsFirst_of_optional {done : List String} {k : String} {check : String → Json → Checked α}
    {means : Json → α → Prop} {f : Option α → Checked β}
    (hknown : ∀ l w, b.get? l = some w → l ∈ keys)
    (hdone : ∀ l ∈ done, ∀ w, b.get? l = some w → Takes l w)
    (horder : ∀ l ∈ keys, ComesBefore l k → l ∈ done)
    (hmeans : ∀ v a, check k v = .ok a ↔ means v a) (htakes : Takes k = fun v ↦ ∃ a, means v a)
    (hblames : ∀ v, Blames (toldAs k v) (check k v))
    (h : Block.optional b k check >>= f = .error e)
    (hrest : ∀ o, f o = .error e → (∀ l ∈ k :: done, ∀ w, b.get? l = some w → Takes l w) →
      TellsFirst b e) : TellsFirst b e := by
  rcases bind_eq_error_iff.mp h with h | ⟨o, ho, h⟩
  · rw [Block.optional] at h
    split at h
    · rename_i v hv
      -- this key is at fault, and all before it were found to take their values
      have hcheck : check k v = .error e := map_eq_error_iff.mp h
      obtain ⟨reason, he⟩ := hblames v e hcheck
      refine ⟨k, v, reason, ⟨hv, fun hv' ↦ ?_, fun l w hw hl ↦ ?_⟩, he⟩
      · obtain ⟨a, ha⟩ := (congrFun htakes v).mp hv'
        rw [(hmeans v a).mpr ha] at hcheck
        cases hcheck
      · exact hdone l (horder l (hknown l w hw) hl) w hw
    · cases h
  · refine hrest o h (List.forall_mem_cons.mpr ⟨fun w hw ↦ ?_, hdone⟩)
    -- this key takes its value, for its check gave something
    have hrel := (optional_eq_ok_iff hmeans).mp ho
    rw [htakes]
    exact exists_rel_iff.mp ⟨o, hrel⟩ w hw

theorem tellsFirst_of_ofBlock (hknown : ∀ k w, b.get? k = some w → k ∈ keys) {w : Json}
    (hw : b.get? "type" = some w) (h : ofBlock b = .error e) : TellsFirst b e := by
  rcases bind_eq_error_iff.mp h with h | ⟨-, -, h⟩
  · -- keys come first, and they are all known
    have hallow : b.allowOnly keys (blockKind b) = .ok () := allowOnly_eq_ok_iff.mpr hknown
    rw [hallow] at h
    cases h
  rcases bind_eq_error_iff.mp h with h | ⟨d, hd, h⟩
  · -- nothing comes before the direction
    obtain ⟨reason, he⟩ := blames_checkDirection hw e h
    refine ⟨"type", w, reason, ⟨hw, ?_, fun l x _ hl ↦ absurd rfl hl.1⟩, he⟩
    rintro ⟨d, hd⟩
    rw [checkDirection_eq_ok_iff.mpr ⟨w, hw, hd⟩] at h
    cases h
  have hdone : ∀ l ∈ ["type"], ∀ x, b.get? l = some x → Takes l x := by
    obtain ⟨x, hx, hdir⟩ := checkDirection_eq_ok_iff.mp hd
    rintro l hl y hy
    rw [List.mem_singleton.mp hl] at hy ⊢
    rw [hx] at hy
    cases hy
    exact ⟨d, hdir⟩
  -- the other keys in the order in which they are checked
  refine tellsFirst_of_optional hknown hdone (by decide) (fun _ _ ↦ texts_eq_ok_iff) rfl
    (fun _ ↦ blames_texts) h fun _ h hdone ↦ ?_
  refine tellsFirst_of_optional hknown hdone (by decide) (fun _ _ ↦ checkActions_eq_ok_iff) rfl
    blames_checkActions h fun _ h hdone ↦ ?_
  refine tellsFirst_of_optional hknown hdone (by decide) (fun _ _ ↦ texts_eq_ok_iff) rfl
    (fun _ ↦ blames_texts) h fun _ h hdone ↦ ?_
  refine tellsFirst_of_optional hknown hdone (by decide) (fun _ _ ↦ checkEthertypes_eq_ok_iff) rfl
    (fun _ ↦ blames_checkEthertypes) h fun _ h hdone ↦ ?_
  refine tellsFirst_of_optional hknown hdone (by decide) (fun _ _ ↦ checkPorts_eq_ok_iff) rfl
    (fun _ ↦ blames_checkPorts) h fun _ h hdone ↦ ?_
  refine tellsFirst_of_optional hknown hdone (by decide) (fun _ _ ↦ checkPorts_eq_ok_iff) rfl
    (fun _ ↦ blames_checkPorts) h fun _ h hdone ↦ ?_
  refine tellsFirst_of_optional hknown hdone (by decide) (fun _ _ ↦ integers_eq_ok_iff) rfl
    (fun _ ↦ blames_integers) h fun _ h hdone ↦ ?_
  refine tellsFirst_of_optional hknown hdone (by decide) (fun _ _ ↦ checkProtocols_eq_ok_iff) rfl
    (fun _ ↦ blames_checkProtocols) h fun _ h hdone ↦ ?_
  refine tellsFirst_of_optional hknown hdone (by decide) (fun _ _ ↦ checkAddresses_eq_ok_iff) rfl
    (fun _ ↦ blames_checkAddresses) h fun _ h hdone ↦ ?_
  refine tellsFirst_of_optional hknown hdone (by decide) (fun _ _ ↦ texts_eq_ok_iff) rfl
    (fun _ ↦ blames_texts) h fun _ h hdone ↦ ?_
  refine tellsFirst_of_optional hknown hdone (by decide) (fun _ _ ↦ texts_eq_ok_iff) rfl
    (fun _ ↦ blames_texts) h fun _ h hdone ↦ ?_
  refine tellsFirst_of_optional hknown hdone (by decide) (fun _ _ ↦ texts_eq_ok_iff) rfl
    (fun _ ↦ blames_texts) h fun _ h hdone ↦ ?_
  refine tellsFirst_of_optional hknown hdone (by decide) (fun _ _ ↦ boolean_eq_ok_iff) rfl
    (fun _ ↦ blames_boolean) h fun _ h hdone ↦ ?_
  refine tellsFirst_of_optional hknown hdone (by decide) (fun _ _ ↦ checkOperator_eq_ok_iff) rfl
    (fun _ ↦ blames_checkOperator) h fun _ h _ ↦ ?_
  cases h

end

/-- **The first fault is told, and nothing else.** A block of known keys that states a direction, be
it a right one or not, is rejected just if it has a value that its key does not take. The first such
value is told: of the direction before all others, and of these in the order of their keys. It is
told under its own key unless it is a text for a direction, or a text or a list of texts for what
rules do; such a fault is told under a name that the block does not have as a key. -/
theorem first_fault_told {b : Block} (hknown : ∀ k w, b.get? k = some w → k ∈ keys)
    (htype : ∃ w, b.get? "type" = some w) :
    (∀ e, ofBlock b = .error e →
        ∃ k v reason, IsFirstFault b k v ∧ e = .invalidValue (toldAs k v) reason) ∧
      ∀ k v, IsFirstFault b k v →
        (∃ reason, ofBlock b = .error (.invalidValue (toldAs k v) reason)) ∧
          (toldAs k v = k ↔
            ¬ (k = "type" ∧ ∃ s, IsText v s) ∧ ¬ (k = "Action" ∧ ∃ ts, OneOrMore IsText v ts)) ∧
          (toldAs k v ≠ k → b.get? (toldAs k v) = none) := by
  obtain ⟨w, hw⟩ := htype
  have hfirst (e : ValidationError) (h : ofBlock b = .error e) : TellsFirst b e :=
    tellsFirst_of_ofBlock hknown hw h
  refine ⟨hfirst, fun k v hv ↦ ⟨?_, toldAs_eq_self_iff, fun htold ↦ ?_⟩⟩
  · rcases h : ofBlock b with e | f
    · obtain ⟨l, x, reason, hx, rfl⟩ := hfirst e h
      obtain rfl := hv.key_unique hx
      obtain rfl : v = x := Option.some.inj (hv.stands.symm.trans hx.stands)
      exact ⟨reason, rfl⟩
    · have htakes := (exists_reads_iff.mp ⟨f, (ofBlock_eq_ok_iff.mp h).2⟩).2
      exact absurd (htakes k (hknown k v hv.stands) v hv.stands) hv.fault
  · exact Option.eq_none_iff_forall_ne_some.mpr fun x hx ↦
      toldAs_not_mem_keys htold (hknown _ x hx)

/-! ### Names that are looked up

A block with two faults: `drop` is nothing that a rule can do, and no port has the number 70000. The
former comes first, and is told under the name of the table. -/

/-- The block. -/
def twoFaults : Block := Dictionary.ofList
  [("type", .str "egress"), ("InPorts", .int 70000), ("Action", .arr [.str "allow", .str "drop"]),
    ("AGReferenceIds", .str "mail")]

theorem mem_keys_twoFaults (k : String) (w : Json) (h : twoFaults.get? k = some w) : k ∈ keys :=
  have hkeys : ∀ l ∈ twoFaults.keys, l ∈ keys := by decide
  hkeys k ((Dictionary.mem_keys_iff _ k).mpr ⟨w, h⟩)

theorem isFirstFault_twoFaults :
    IsFirstFault twoFaults "Action" (.arr [.str "allow", .str "drop"]) where
  stands := rfl
  fault := by
    rintro ⟨as, has⟩
    have hcheck : checkActions "Action" (.arr [.str "allow", .str "drop"]) = .ok as :=
      checkActions_eq_ok_iff.mpr has
    cases hcheck
  first l w hw hl := by
    -- two keys are checked before it, and both take their values
    have hbefore : ∀ l ∈ keys, ComesBefore l "Action" → l = "type" ∨ l = "AGReferenceIds" := by
      decide
    rcases hbefore l (mem_keys_twoFaults l w hw) hl with rfl | rfl
    · cases hw
      exact ⟨.egress, .egress⟩
    · cases hw
      exact ⟨["mail"], .one rfl⟩

theorem first_fault_told_twoFaults :
    (∀ k w, twoFaults.get? k = some w → k ∈ keys) ∧ (∃ w, twoFaults.get? "type" = some w) ∧
      IsFirstFault twoFaults "Action" (.arr [.str "allow", .str "drop"]) ∧
      ∃ reason, ofBlock twoFaults = .error (.invalidValue "action" reason) :=
  ⟨mem_keys_twoFaults, ⟨.str "egress", rfl⟩, isFirstFault_twoFaults,
    ((first_fault_told mem_keys_twoFaults ⟨.str "egress", rfl⟩).2 _ _ isFirstFault_twoFaults).1⟩

/-- **A fault may be told under a name that is no key of the block.** -/
theorem action_told_under_no_key :
    let b : Block := Dictionary.ofList [("type", .str "ingress"), ("Action", .str "drop")]
    (∀ k w, b.get? k = some w → k ∈ keys) ∧ (∃ w, b.get? "type" = some w) ∧
      ∃ e, ofBlock b = .error e ∧
        ¬ ∃ k reason w, e = .invalidValue k reason ∧ b.get? k = some w ∧ ¬ Takes k w := by
  intro b
  have hkeys : ∀ l ∈ b.keys, l ∈ keys := by decide
  refine ⟨fun k w h ↦ hkeys k ((Dictionary.mem_keys_iff _ k).mpr ⟨w, h⟩), ⟨.str "ingress", rfl⟩,
    .invalidValue "action" (.choice .ruleAction "drop"), rfl, ?_⟩
  rintro ⟨k, reason, w, he, hw, -⟩
  cases he
  cases hw

end RuleFilter

end NetWarden
