import NetWarden.Inventory
import NetWarden.MatchNotes
import NetWarden.Proofs.Records.Sources
import NetWarden.RuleQuery
import NetWarden.RuleTemplate

/-!
# Records are read as they are written

Every record of the library is read back from what it is written as, from any place that shows it.
What a record is written as and how it is read are two lists of fields, which agree in three things:
they name the same fields; a field that may be left out is one that may be absent; and a field with
a default is written whenever it holds something else. `exists_fields` takes the names, and each
field is then one step.

A record takes as many levels as lists and objects stand one inside the other in it: four for an
inventory, whose ports have lists.
-/

namespace NetWarden

variable {n : Nat}

/-! ### Names -/

theorem decodes_choice {α : Type} {named? : String → Option α} {name : α → String}
    (h : ∀ a, named? (name a) = some a) :
    @Decodes α ⟨Readable.choice? named?⟩ n fun a ↦ .str (name a) := by
  refine @Decodes.mk α ⟨Readable.choice? named?⟩ n _ (fun _ ↦ rfl) (fun _ ↦ rfl) ?_
  intro σ _ _ p a hp
  show (Source.name? p >>= named?) = some a
  rw [Source.Faithful.name?_eq hp]
  exact h a

theorem decodes_direction : Decodes n fun d : Direction ↦ .str d.name :=
  decodes_choice Direction.named?_name

theorem decodes_action : Decodes n fun a : RuleAction ↦ .str a.name :=
  decodes_choice RuleAction.named?_name

/-! ### Fields without fractions -/

@[simp] theorem all_isWhole_text (s : String) : (Json.text s).all Json.isWhole = true := rfl

@[simp] theorem isWhole_bool (b : Bool) : (Json.bool b).isWhole = true := rfl

@[simp] theorem all_isWhole_optionalText (o : Option String) :
    (Json.optionalText o).all Json.isWhole = true := all_isWhole_map (decodes_text (n := 0)) o

@[simp] theorem all_isWhole_optionalInt (o : Option Int64) :
    (Json.optionalInt o).all Json.isWhole = true := all_isWhole_map (decodes_int64 (n := 0)) o

section

variable {α : Type} [Readable α] {encode : α → Json}

theorem isWhole_list (h : Decodes n encode) (as : List α) :
    (Json.arr (as.map encode)).isWhole = true := (decodes_list h).isWhole as

/-- A list that is left out when it is empty has no fractions either. -/
theorem all_isWhole_of_isEmpty (h : Decodes n encode) (as : List α) :
    (if as.isEmpty then none else some (Json.arr (as.map encode))).all Json.isWhole = true := by
  cases as with
  | nil => rfl
  | cons a as => exact isWhole_list h (a :: as)

end

/-! ### Resources -/

theorem decodes_group : Decodes (n + 1) Group.toJson where
  isSet _ := rfl
  isWhole _ := Json.isWhole_record (by simp)
  reads {σ _ _ p g} h := by
    obtain ⟨f, hf, -, hfields⟩ := exists_fields h Group.fieldNames rfl (by decide)
    simp only [List.forall_mem_cons] at hfields
    obtain ⟨hid, hname, hdescription, hproject, henterprise, -⟩ := hfields
    show Group.read? p = some g
    simp only [Group.read?, hf, Option.bind_eq_bind, Option.bind_some, Option.pure_def,
      required_eq decodes_text hid, required_eq decodes_text hname,
      optional_eq decodes_text hdescription, optional_eq decodes_text hproject,
      optional_eq decodes_text henterprise]

theorem decodes_rule : Decodes (n + 1) Rule.toJson where
  isSet _ := rfl
  isWhole _ := Json.isWhole_record (by simp)
  reads {σ _ _ p r} h := by
    obtain ⟨f, hf, -, hfields⟩ := exists_fields h Rule.fieldNames rfl (by decide)
    simp only [List.forall_mem_cons, Json.optionalText, Option.map_map] at hfields
    obtain ⟨hid, hgroup, hdirection, hprotocol, hethertype, hprefix, hremoteGroup, haddressGroup,
      hmultiport, hpriority, haction, hdescription, -⟩ := hfields
    show Rule.read? p = some r
    -- the record is read field by field, and each field has its own equation
    simp only [Rule.read?, hf, Option.bind_eq_bind, Option.bind_some, Option.pure_def,
      required_eq decodes_text hid, required_eq decodes_text hgroup,
      required_eq decodes_direction hdirection, optional_eq decodes_text hprotocol,
      optional_eq decodes_text hethertype, optional_eq decodes_text hprefix,
      optional_eq decodes_text hremoteGroup, optional_eq decodes_text haddressGroup,
      optional_eq decodes_text hmultiport, optional_eq decodes_int64 hpriority,
      optional_eq decodes_action haction, optional_eq decodes_text hdescription]

theorem decodes_port : Decodes (n + 2) NetworkPort.toJson where
  isSet _ := rfl
  isWhole p := Json.isWhole_record (by simp [isWhole_list (decodes_text (n := n))])
  reads {σ _ _ p q} h := by
    obtain ⟨f, hf, -, hfields⟩ :=
      exists_fields h NetworkPort.fieldNames rfl (by decide)
    simp only [List.forall_mem_cons] at hfields
    obtain ⟨hid, hname, howner, hgroups, -⟩ := hfields
    show NetworkPort.read? p = some q
    simp only [NetworkPort.read?, hf, Option.bind_eq_bind, Option.bind_some, Option.pure_def,
      required_eq decodes_text hid, optional_eq decodes_text hname,
      optional_eq decodes_text howner, defaulted_eq (decodes_list decodes_text) hgroups]

theorem decodes_flowLog : Decodes (n + 1) FlowLog.toJson where
  isSet _ := rfl
  isWhole _ := Json.isWhole_record (by simp)
  reads {σ _ _ p g} h := by
    obtain ⟨f, hf, -, hfields⟩ := exists_fields h FlowLog.fieldNames rfl (by decide)
    simp only [List.forall_mem_cons] at hfields
    obtain ⟨hid, hname, htype, hresource, htraffic, hstate, hstatus, hlogGroup, hlogTopic,
      hdescription, -⟩ := hfields
    show FlowLog.read? p = some g
    -- three fields have a value where none is written
    simp only [FlowLog.read?, hf, Option.bind_eq_bind, Option.bind_some, Option.pure_def,
      required_eq decodes_text hid, defaulted_eq decodes_text hname,
      required_eq decodes_text htype, required_eq decodes_text hresource,
      defaulted_eq decodes_text htraffic, defaulted_eq decodes_bool hstate,
      optional_eq decodes_text hstatus, optional_eq decodes_text hlogGroup,
      optional_eq decodes_text hlogTopic, optional_eq decodes_text hdescription]

/-- **An inventory is read as it is written**, whatever its resources leave open. -/
theorem decodes_inventory : Decodes (n + 4) Inventory.toJson where
  isSet _ := rfl
  isWhole i := by
    show Json.haveWhole _ = true
    simp only [Json.haveWhole, isWhole_list (decodes_group (n := n)), Bool.and_self,
      isWhole_list (decodes_rule (n := n)), isWhole_list (decodes_port (n := n)),
      isWhole_list (decodes_flowLog (n := n))]
  reads {σ _ _ p i} h := by
    have hrecord : i.toJson = .record [
        ("security_groups", some (.arr (i.groups.map Group.toJson))),
        ("security_group_rules", some (.arr (i.rules.map Rule.toJson))),
        ("ports", some (.arr (i.ports.map NetworkPort.toJson))),
        ("flow_logs", some (.arr (i.flowLogs.map FlowLog.toJson)))] := rfl
    rw [hrecord] at h
    obtain ⟨f, hf, hothers, hfields⟩ := exists_fields h Inventory.fieldNames rfl (by decide)
    simp only [List.forall_mem_cons] at hfields
    obtain ⟨hgroups, hrules, hports, hflowLogs, -⟩ := hfields
    -- no other keys stand there, so the record is not refused
    have hclosed : Source.closedFields? Inventory.fieldNames p = some f := by
      simp [Source.closedFields?, hf, hothers]
    show Inventory.read? p = some i
    simp only [Inventory.read?, hclosed, Option.bind_eq_bind, Option.bind_some, Option.pure_def,
      defaulted_eq (decodes_list decodes_group) hgroups,
      defaulted_eq (decodes_list decodes_rule) hrules,
      defaulted_eq (decodes_list decodes_port) hports,
      defaulted_eq (decodes_list decodes_flowLog) hflowLogs]

/-! ### Templates, queries and notes -/

theorem decodes_ruleTemplate : Decodes (n + 1) RuleTemplate.toJson where
  isSet _ := rfl
  isWhole _ := Json.isWhole_record (by simp)
  reads {σ _ _ p t} h := by
    obtain ⟨f, hf, -, hfields⟩ :=
      exists_fields h RuleTemplate.fieldNames rfl (by decide)
    simp only [List.forall_mem_cons, Json.optionalText, Option.map_map] at hfields
    obtain ⟨hdirection, hdescription, hethertype, hprotocol, hmultiport, hprefix, hremoteGroup,
      haddressGroup, haction, hpriority, -⟩ := hfields
    show RuleTemplate.read? p = some t
    simp only [RuleTemplate.read?, hf, Option.bind_eq_bind, Option.bind_some, Option.pure_def,
      required_eq decodes_direction hdirection, optional_eq decodes_text hdescription,
      optional_eq decodes_text hethertype, optional_eq decodes_text hprotocol,
      optional_eq decodes_text hmultiport, optional_eq decodes_text hprefix,
      optional_eq decodes_text hremoteGroup, optional_eq decodes_text haddressGroup,
      optional_eq decodes_action haction, optional_eq decodes_int64 hpriority]

theorem decodes_ruleQuery : Decodes (n + 2) RuleQuery.toJson where
  isSet _ := rfl
  isWhole q := Json.isWhole_record
    (by simp [-List.isEmpty_iff, all_isWhole_of_isEmpty (decodes_text (n := n))])
  reads {σ _ _ p q} h := by
    obtain ⟨f, hf, -, hfields⟩ :=
      exists_fields h RuleQuery.fieldNames rfl (by decide)
    simp only [List.forall_mem_cons, Json.optionalText, Option.map_map] at hfields
    obtain ⟨hgroups, hdirection, hid, hprotocol, hdescription, hremoteGroup, haction, hprefix,
      hpriority, hethertype, haddressGroup, -⟩ := hfields
    show RuleQuery.read? p = some q
    -- the groups are left out where there are none, and are read as none
    simp only [RuleQuery.read?, hf, Option.bind_eq_bind, Option.bind_some, Option.pure_def,
      defaulted_eq_of_isEmpty decodes_text hgroups, optional_eq decodes_direction hdirection,
      optional_eq decodes_text hid, optional_eq decodes_text hprotocol,
      optional_eq decodes_text hdescription, optional_eq decodes_text hremoteGroup,
      optional_eq decodes_action haction, optional_eq decodes_text hprefix,
      optional_eq decodes_int64 hpriority, optional_eq decodes_text hethertype,
      optional_eq decodes_text haddressGroup]

theorem decodes_groupMatches : Decodes (n + 3) GroupMatches.toJson where
  isSet _ := rfl
  isWhole m := Json.isWhole_record
    (by simp [-List.isEmpty_iff, GroupMatches.rulesField,
      all_isWhole_of_isEmpty (decodes_rule (n := n))])
  reads {σ _ _ p m} h := by
    obtain ⟨f, hf, -, hfields⟩ :=
      exists_fields h ["MatchedIngress", "MatchedEgress"] rfl (by decide)
    simp only [List.forall_mem_cons] at hfields
    obtain ⟨hingress, hegress, -⟩ := hfields
    show GroupMatches.read? p = some m
    simp only [GroupMatches.read?, hf, Option.bind_eq_bind, Option.bind_some, Option.pure_def,
      defaulted_eq_of_isEmpty decodes_rule hingress, defaulted_eq_of_isEmpty decodes_rule hegress]

/-- Notes are read as they are written, group by group. -/
theorem decodes_matchNotes : Decodes (n + 4) MatchNotes.toJson where
  isSet _ := rfl
  isWhole notes := (decodes_dictionary (decodes_groupMatches (n := n))).isWhole notes.groups
  reads {σ _ _ p notes} h := by
    show (Readable.read? p).map MatchNotes.mk = some notes
    rw [(decodes_dictionary decodes_groupMatches).reads h]
    rfl

end NetWarden
