import NetWarden.Documents
import NetWarden.Proofs.Files
import NetWarden.Proofs.Json.Places
import NetWarden.Proofs.Records.Codecs
import NetWarden.Proofs.Yaml.Places

/-!
# Snapshots in files

**An inventory that is saved is loaded again** (`Inventory.load_save`), under any name that a file
can have, and so is every record in either format (`Survives`). The name chooses the format, and it
is the same name both times.

Of JSON nothing is assumed. Of YAML it is assumed, value by value, that the document which is
written is read as a document that states the value (`Yaml.readsBack`); whether a record survives is
then a matter of its fields alone.
-/

namespace NetWarden

/-! ### Records in both formats -/

section

variable {α : Type} [Readable α] {n : Nat} {encode : α → Json}

/-- The values of a type are read again from what they are written as: from the free-form value,
from its JSON text, and from its YAML document if that is read back as it was written. -/
structure Survives (encode : α → Json) : Prop where
  /-- From the free-form value. -/
  value : ∀ a, Readable.ofJson? (encode a) = some a
  /-- From the JSON text. -/
  json : ∀ a, Format.json.read? (Format.json.write (encode a)) = some a
  /-- From the YAML document. -/
  yaml : ∀ a, Yaml.readsBack (encode a) = true →
    Format.yaml.read? (Format.yaml.write (encode a)) = some a

/-- **What is read from every place that shows it survives**, if it is not too deep. -/
theorem Decodes.survives (h : Decodes n encode) (hn : n ≤ 127) : Survives encode := by
  have hvalue : ∀ a, Readable.ofJson? (encode a) = some a := fun a ↦
    h.reads (p := Json.Place.start (.ofJson (encode a))) ⟨rfl, hn⟩
  refine ⟨hvalue, fun a ↦ ?_, fun a hback ↦ ?_⟩
  · show Readable.ofJsonText? (encode a).pretty = some a
    rw [Readable.ofJsonText?, Json.read?_pretty (h.isWhole a)]
    exact hvalue a
  · obtain ⟨d, hd, hshows⟩ := Yaml.Place.exists_shows_start (Nat.le_succ_of_le hn) hback
    show Readable.ofYamlText? (Yaml.write (encode a)) = some a
    rw [Readable.ofYamlText?, hd]
    exact h.reads hshows

end

/-! ### Names of files -/

/-- The end of a name is what follows its last point, if something stands before that point. -/
theorem extension?_eq_some_iff {name ext : List Char} : extension? name = some ext ↔
    ∃ stem, name = stem ++ '.' :: ext ∧ stem ≠ [] ∧ '.' ∉ ext := by
  rw [extension?]
  constructor
  · intro h
    split at h
    · cases h
    · rename_i back stem hstem hsplit
      obtain rfl := Option.some.inj h
      -- the last point is the first from behind
      obtain ⟨hname, hback⟩ := Text.splitOnce_eq_some_iff.mp hsplit
      refine ⟨stem.reverse, ?_, ?_, mt List.mem_reverse.mp hback⟩
      · rw [← List.reverse_reverse name, hname]
        simp
      · exact fun hnil ↦ hstem (List.reverse_eq_nil_iff.mp hnil)
    · cases h
  · rintro ⟨stem, rfl, hstem, hext⟩
    have hsplit : Text.splitOnce '.' (stem ++ '.' :: ext).reverse =
        some (ext.reverse, stem.reverse) := by
      refine Text.splitOnce_eq_some_iff.mpr ⟨by simp, mt List.mem_reverse.mp hext⟩
    rw [hsplit]
    rcases hback : stem.reverse with - | ⟨c, cs⟩
    · exact absurd (List.reverse_eq_nil_iff.mp hback) hstem
    · exact congrArg some (List.reverse_reverse ext)

/-- **A name is one of a JSON file** if it ends in a point and `json`, in letters of either case,
and something stands before the point. -/
theorem Format.ofPath_eq_json_iff {path : String} : Format.ofPath path = .json ↔
    ∃ stem ext, fileName? path = some (stem ++ '.' :: ext) ∧ stem ≠ [] ∧
      ext.map Char.toLower = ['j', 's', 'o', 'n'] := by
  have hends : Format.ofPath path = .json ↔ ∃ ext, (fileName? path).bind extension? = some ext ∧
      ext.map Char.toLower = ['j', 's', 'o', 'n'] := by
    rw [Format.ofPath]
    split
    · rename_i ext hext
      simp [hext]
    · rename_i hnone
      simp [hnone]
  rw [hends]
  constructor
  · rintro ⟨ext, hext, hjson⟩
    obtain ⟨name, hname, hext⟩ := Option.bind_eq_some_iff.mp hext
    obtain ⟨stem, rfl, hstem, -⟩ := extension?_eq_some_iff.mp hext
    exact ⟨stem, ext, hname, hstem, hjson⟩
  · rintro ⟨stem, ext, hname, hstem, hjson⟩
    -- a point is no letter of `json`
    have hpoint : '.' ∉ ext := fun hmem ↦ by
      have : Char.toLower '.' ∈ ext.map Char.toLower := List.mem_map_of_mem hmem
      rw [hjson] at this
      exact absurd this (by decide)
    exact ⟨ext, by rw [hname]; exact extension?_eq_some_iff.mpr ⟨stem, rfl, hstem, hpoint⟩, hjson⟩

/-! ### Inventories -/

namespace Inventory

variable {t u : FileTree} {path : String} {i : Inventory}

/-- Where the name leads to a place for a file, the text of the inventory is written there. -/
theorem run_save (h : t.write? path (i.toText path) = some u) :
    (save path i : StateM FileTree _).run t = (.ok (), u) := by
  rw [save, StateT.run_bind, FileTree.run_write, h]
  rfl

/-- Where it does not, nothing is written. -/
theorem run_save_eq_error (h : t.write? path (i.toText path) = none) :
    ∃ f, (save path i : StateM FileTree _).run t = (.error f, t) := by
  rw [save, StateT.run_bind, FileTree.run_write, h]
  exact ⟨_, rfl⟩

/-- An inventory is loaded from a file that has a text of it. -/
theorem run_load (h : u.read? path = some (i.toText path))
    (htext : (Format.ofPath path).read? (i.toText path) = some i) :
    (load path : StateM FileTree _).run u = (.ok i, u) := by
  have hofText : ofText path (i.toText path) = .ok i := by
    rw [ofText, Format.decode, htext]
    rfl
  rw [load, StateT.run_bind, readText, StateT.run_bind, FileTree.run_read?, h]
  show (ofText path (i.toText path), u) = _
  rw [hofText]

/-- **An inventory that is saved is loaded again by its name**, and every record that is written is
read. In JSON that is so of all of them, and a name is one of a JSON file by its end alone; in YAML
it is so of those whose document is read back. -/
theorem load_save (t : FileTree) (path : String) (i : Inventory)
    (hyaml : Format.ofPath path = .yaml → Yaml.readsBack i.toJson = true) :
    (t.TakesFile path → ∃ u, (save path i : StateM FileTree _).run t = (.ok (), u) ∧
      u.read? path = some ((Format.ofPath path).write i.toJson) ∧
      (load path : StateM FileTree _).run u = (.ok i, u)) ∧
    (¬ t.TakesFile path → ∃ f, (save path i : StateM FileTree _).run t = (.error f, t)) ∧
    (Format.ofPath path = .json ↔ ∃ stem ext, fileName? path = some (stem ++ '.' :: ext) ∧
      stem ≠ [] ∧ ext.map Char.toLower = ['j', 's', 'o', 'n']) ∧
    Survives Rule.toJson ∧ Survives Group.toJson ∧ Survives NetworkPort.toJson ∧
    Survives FlowLog.toJson ∧ Survives RuleTemplate.toJson ∧ Survives RuleQuery.toJson ∧
    Survives MatchNotes.toJson := by
  have hsurvives : Survives Inventory.toJson := (decodes_inventory (n := 0)).survives (by decide)
  -- the text that is written is read, in either format
  have htext : (Format.ofPath path).read? (i.toText path) = some i := by
    rw [toText]
    cases hformat : Format.ofPath path with
    | json => exact hsurvives.json i
    | yaml => exact hsurvives.yaml i (hyaml hformat)
  refine ⟨fun hplace ↦ ?_, fun hplace ↦ ?_, Format.ofPath_eq_json_iff,
    (decodes_rule (n := 0)).survives (by decide), (decodes_group (n := 0)).survives (by decide),
    (decodes_port (n := 0)).survives (by decide), (decodes_flowLog (n := 0)).survives (by decide),
    (decodes_ruleTemplate (n := 0)).survives (by decide),
    (decodes_ruleQuery (n := 0)).survives (by decide),
    (decodes_matchNotes (n := 0)).survives (by decide)⟩
  · obtain ⟨u, hwrite⟩ := (FileTree.takesFile_iff t path (i.toText path)).mp hplace
    -- what was written stands there, and nothing else is looked at
    have hread : u.read? path = some (i.toText path) := FileTree.read?_write? hwrite
    exact ⟨u, run_save hwrite, hread, run_load hread htext⟩
  · have hwrite : t.write? path (i.toText path) = none := by
      rw [Option.eq_none_iff_forall_ne_some]
      exact fun u hu ↦ hplace ((FileTree.takesFile_iff t path _).mpr ⟨u, hu⟩)
    exact run_save_eq_error hwrite

/-! ### A YAML file

Its texts look like a number, a truth value and an entry of a mapping, and few of the fields are
set. It is written beside an older file, under a name that leads up and down again.
-/

/-- An inventory with texts that YAML has to quote. -/
def quotedInventory : Inventory where
  rules := [{ id := "007", groupId := "true", direction := .egress, priority := some (-3) }]
  ports := [{ id := "p: 1" }]

theorem load_save_quotedInventory :
    let t := FileTree.ofFiles "work" [("snapshots/old.json", "{}")]
    let path := "work/snapshots/../snapshots/new.json.yml"
    Format.ofPath path = .yaml ∧ Yaml.readsBack quotedInventory.toJson = true ∧
      t.TakesFile path ∧ ∃ u, (save path quotedInventory : StateM FileTree _).run t = (.ok (), u) ∧
        (load path : StateM FileTree _).run u = (.ok quotedInventory, u) := by
  intro t path
  have hyaml : Yaml.readsBack quotedInventory.toJson = true := by decide +kernel
  have hplace : t.TakesFile path := ⟨["snapshots", "new.json.yml"], by decide +kernel⟩
  obtain ⟨u, hsave, -, hload⟩ := (load_save t path quotedInventory fun _ ↦ hyaml).1 hplace
  exact ⟨by decide +kernel, hyaml, hplace, u, hsave, hload⟩

end Inventory

end NetWarden
