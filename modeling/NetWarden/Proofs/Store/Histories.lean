import Mathlib.Data.List.Induction
import NetWarden.Proofs.Store.Answers

/-!
# Histories of a store

What has happened to a store since it was made: resources were put into it, calls were made, faults
were added, and all of them were cleared. **Which faults are there can be told from the history
alone** (`Store.faultAt_afterEvents_iff`): a fault is in force from when it is added until the
faults are cleared or another one is added for its operation and key (`StoreEvent.IsInForce`).
Nothing else touches the faults, and least of all the calls.

So for every store that can come about, `Store.call_after_history` says of the next call whether it
fails and how, and what it does. The keys of the calls are put down as they are documented
(`Call.IsAbout`).
-/

namespace NetWarden

open Store StoreM

/-- Something that happens to a store. -/
inductive StoreEvent where
  /-- A rule is put into it. -/
  | insertRule (r : Rule)
  /-- A group is put into it. -/
  | insertGroup (g : Group)
  /-- A port is put into it. -/
  | insertPort (p : NetworkPort)
  /-- A flow log is put into it. -/
  | insertFlowLog (f : FlowLog)
  /-- A call is made. -/
  | call (c : Call)
  /-- A fault is added. -/
  | addFault (f : Fault)
  /-- All faults are cleared. -/
  | clearFaults

/-- The store after something has happened to it. -/
def Store.afterEvent (s : Store) : StoreEvent → Store
  | .insertRule r => s.insertRule r
  | .insertGroup g => s.insertGroup g
  | .insertPort p => s.insertPort p
  | .insertFlowLog f => s.insertFlowLog f
  | .call c => c.make.after s
  | .addFault f => s.addFault f
  | .clearFaults => s.clearFaults

/-- The store after a history. -/
def Store.afterEvents (s : Store) (events : List StoreEvent) : Store := events.foldl afterEvent s

theorem Store.afterEvents_concat (s : Store) (events : List StoreEvent) (e : StoreEvent) :
    s.afterEvents (events ++ [e]) = (s.afterEvents events).afterEvent e := by
  rw [afterEvents, List.foldl_append]
  rfl

/-! ### What a call is about -/

namespace Call

/-- **The key of each call**, as it is documented. -/
inductive IsAbout : Call → String → Prop
  /-- Rules of one direction are listed under its name. -/
  | listRulesOf {query : RuleQuery} {d : Direction} :
    query.direction = some d → IsAbout (.listRules query) d.name
  /-- Rules of both directions are listed under no one key. -/
  | listRules {query : RuleQuery} : query.direction = none → IsAbout (.listRules query) "*"
  /-- The id of the rule. -/
  | deleteRule (id : String) : IsAbout (.deleteRule id) id
  /-- The id of the group. -/
  | createRules (groupId : String) (templates : List RuleTemplate) :
    IsAbout (.createRules groupId templates) groupId
  /-- All groups are listed. -/
  | listGroups : IsAbout .listGroups "*"
  /-- The id of the group. -/
  | deleteGroup (id : String) : IsAbout (.deleteGroup id) id
  /-- Ports are listed under no one key. -/
  | listPorts (groupIds : List String) : IsAbout (.listPorts groupIds) "*"
  /-- All ports are listed. -/
  | listAllPorts : IsAbout .listAllPorts "*"
  /-- All flow logs are listed. -/
  | listFlowLogs : IsAbout .listFlowLogs "*"
  /-- The id of the flow log. -/
  | updateFlowLog (id : String) (adminState : Bool) : IsAbout (.updateFlowLog id adminState) id
  /-- The id of the flow log. -/
  | deleteFlowLog (id : String) : IsAbout (.deleteFlowLog id) id
  /-- The id of the target. -/
  | createFlowLog (resourceType resourceId : String) (template : FlowLogTemplate) :
    IsAbout (.createFlowLog resourceType resourceId template) resourceId

theorem isAbout_iff {c : Call} {key : String} : c.IsAbout key ↔ c.key = key := by
  constructor
  · intro h
    cases h with
    | listRulesOf h => simp only [Call.key, h]
    | listRules h => simp only [Call.key, h, anyKey]
    | _ => rfl
  · rintro rfl
    cases c with
    | listRules query =>
      rcases h : query.direction with - | d
      · simpa only [Call.key, h, anyKey] using IsAbout.listRules h
      · simpa only [Call.key, h] using IsAbout.listRulesOf h
    | _ => constructor

end Call

/-! ### Faults in force -/

namespace StoreEvent

/-- A fault was added, and nothing that undoes it has happened since. -/
def IsAddedSince (undoes : StoreEvent → Prop) (events : List StoreEvent) (f : Fault) : Prop :=
  ∃ before after, events = before ++ .addFault f :: after ∧ ∀ e ∈ after, ¬ undoes e

/-- What puts an end to a fault. -/
inductive Undoes (f : Fault) : StoreEvent → Prop
  /-- The faults are cleared. -/
  | clearFaults : Undoes f .clearFaults
  /-- A fault is added for the same operation and key. -/
  | addFault {g : Fault} : g.operation = f.operation → g.key = f.key → Undoes f (.addFault g)

/-- A fault was added since the faults were last cleared. -/
def IsAdded (events : List StoreEvent) (f : Fault) : Prop :=
  IsAddedSince (· = .clearFaults) events f

/-- **A fault is in force**: it is the latest for its operation and key that was added since the
faults were last cleared. -/
def IsInForce (events : List StoreEvent) (f : Fault) : Prop := IsAddedSince (Undoes f) events f

/-- **The fault that a call meets**: the one in force for its own key, and else the one for any. -/
inductive IsMet (events : List StoreEvent) (c : Call) (f : Fault) : Prop
  /-- It is for the call's own key. -/
  | own {key : String} : c.IsAbout key → IsInForce events f → f.operation = c.operation →
    f.key = key → IsMet events c f
  /-- There is none for the call's own key. -/
  | any {key : String} : c.IsAbout key →
    (∀ g, IsInForce events g → g.operation = c.operation → g.key ≠ key) → IsInForce events f →
      f.operation = c.operation → f.key = "*" → IsMet events c f

section

variable {undoes : StoreEvent → Prop} {events : List StoreEvent} {e : StoreEvent} {f : Fault}

theorem not_isAddedSince_nil : ¬ IsAddedSince undoes [] f := by
  rintro ⟨before, after, h, -⟩
  exact List.append_ne_nil_of_right_ne_nil before (List.cons_ne_nil _ _) h.symm

/-- **What happens last decides**: it adds the fault, or does not undo it. -/
theorem isAddedSince_concat_iff : IsAddedSince undoes (events ++ [e]) f ↔
    e = .addFault f ∨ IsAddedSince undoes events f ∧ ¬ undoes e := by
  constructor
  · rintro ⟨before, after, h, hkept⟩
    -- the last event is the one that adds the fault, or it comes after that
    rcases List.eq_nil_or_concat after with rfl | ⟨rest, last, rfl⟩
    · exact .inl (List.cons.inj (List.append_inj' h rfl).2).1
    · rw [List.concat_eq_append] at h hkept
      rw [← List.cons_append, ← List.append_assoc] at h
      obtain ⟨rfl, hlast⟩ := List.append_inj' h rfl
      obtain rfl : e = last := (List.cons.inj hlast).1
      exact .inr ⟨⟨before, rest, rfl, fun g hg ↦ hkept g (List.mem_append_left _ hg)⟩,
        hkept e (List.mem_append_right _ List.mem_cons_self)⟩
  · rintro (rfl | ⟨⟨before, after, rfl, hkept⟩, he⟩)
    · exact ⟨events, [], rfl, fun _ he ↦ absurd he List.not_mem_nil⟩
    · refine ⟨before, after ++ [e], by simp, fun g hg ↦ ?_⟩
      rcases List.mem_append.mp hg with hg | hg
      · exact hkept g hg
      · rwa [List.mem_singleton.mp hg]

theorem IsInForce.isAdded (h : IsInForce events f) : IsAdded events f := by
  obtain ⟨before, after, rfl, hkept⟩ := h
  refine ⟨before, after, rfl, fun e he hclear ↦ hkept e he ?_⟩
  rw [hclear]
  exact .clearFaults

/-- **Of the faults for one operation and key, the latest is in force.** -/
theorem exists_isInForce (h : IsAdded events f) :
    ∃ g, IsInForce events g ∧ g.operation = f.operation ∧ g.key = f.key := by
  induction events using List.reverseRecOn with
  | nil => exact absurd h not_isAddedSince_nil
  | append_singleton events e ih =>
    rcases isAddedSince_concat_iff.mp h with rfl | ⟨hadded, hclear⟩
    · exact ⟨f, isAddedSince_concat_iff.mpr (.inl rfl), rfl, rfl⟩
    · obtain ⟨g, hg, hop, hkey⟩ := ih hadded
      by_cases hundone : Undoes g e
      · cases hundone with
        | clearFaults => exact absurd rfl hclear
        | @addFault g' hop' hkey' =>
          exact ⟨g', isAddedSince_concat_iff.mpr (.inl rfl), hop'.trans hop, hkey'.trans hkey⟩
      · exact ⟨g, isAddedSince_concat_iff.mpr (.inr ⟨hg, hundone⟩), hop, hkey⟩

/-- **A call meets a fault just if one was added for its key or for any.** -/
theorem exists_isMet_iff {c : Call} : (∃ f, IsMet events c f) ↔
    ∃ f key, c.IsAbout key ∧ IsAdded events f ∧ f.operation = c.operation ∧
      (f.key = key ∨ f.key = "*") := by
  constructor
  · rintro ⟨f, ⟨habout, hforce, hop, hkey⟩ | ⟨habout, -, hforce, hop, hkey⟩⟩
    · exact ⟨f, _, habout, hforce.isAdded, hop, .inl hkey⟩
    · exact ⟨f, _, habout, hforce.isAdded, hop, .inr hkey⟩
  · rintro ⟨f, key, habout, hadded, hop, hkey⟩
    by_cases hown : ∃ g, IsInForce events g ∧ g.operation = c.operation ∧ g.key = key
    · obtain ⟨g, hg, hgop, hgkey⟩ := hown
      exact ⟨g, .own habout hg hgop hgkey⟩
    · obtain ⟨g, hg, hgop, hgkey⟩ := exists_isInForce hadded
      rcases hkey with hkey | hkey
      · exact absurd ⟨g, hg, hgop.trans hop, hgkey.trans hkey⟩ hown
      · exact ⟨g, .any habout (fun g' hg' hop' hkey' ↦ hown ⟨g', hg', hop', hkey'⟩) hg
          (hgop.trans hop) (hgkey.trans hkey)⟩

end

end StoreEvent

open StoreEvent

namespace Store

variable {s t : Store} {events : List StoreEvent} {op : Operation} {key : String} {f : Fault}
  {i : Inventory} {supply : IdSupply}

theorem SameSetting.faultAt_eq (h : SameSetting s t) (op : Operation) (key : String) :
    t.faultAt op key = s.faultAt op key := by
  rw [faultAt, faultAt, h.faults]

theorem faultAt_addFault_of_eq {g : Fault} (h : g.operation = op ∧ g.key = key) :
    (s.addFault g).faultAt op key = some g :=
  List.find?_cons_of_pos (by simpa using h)

theorem faultAt_addFault_of_ne {g : Fault} (h : ¬ (g.operation = op ∧ g.key = key)) :
    (s.addFault g).faultAt op key = s.faultAt op key :=
  List.find?_cons_of_neg (by simpa using h)

theorem of_faultAt_eq_some (h : s.faultAt op key = some f) : f.operation = op ∧ f.key = key := by
  simpa using List.find?_some h

/-- **What one event does to the faults**: it adds one, or keeps those that it does not undo. -/
theorem faultAt_afterEvent_iff (s : Store) (e : StoreEvent) :
    (s.afterEvent e).faultAt op key = some f ↔
      (e = .addFault f ∧ f.operation = op ∧ f.key = key) ∨
        s.faultAt op key = some f ∧ ¬ Undoes f e := by
  -- what neither adds the fault nor undoes it leaves it as it was
  have hother (hadd : e ≠ .addFault f) (hkept : ¬ Undoes f e)
      (hsame : (s.afterEvent e).faultAt op key = s.faultAt op key) :
      (s.afterEvent e).faultAt op key = some f ↔
        (e = .addFault f ∧ f.operation = op ∧ f.key = key) ∨
          s.faultAt op key = some f ∧ ¬ Undoes f e := by
    rw [hsame]
    exact ⟨fun h ↦ .inr ⟨h, hkept⟩, fun h ↦ (h.resolve_left fun hf ↦ hadd hf.1).1⟩
  cases e with
  | addFault g =>
    rw [afterEvent]
    -- a fault of the same place takes the place of the one that was there
    by_cases hg : g.operation = op ∧ g.key = key
    · rw [faultAt_addFault_of_eq hg]
      constructor
      · intro h
        cases h
        exact .inl ⟨rfl, hg⟩
      · rintro (⟨h, -⟩ | ⟨hf, hkept⟩)
        · cases h
          rfl
        · obtain ⟨rfl, rfl⟩ := of_faultAt_eq_some hf
          exact absurd (.addFault hg.1 hg.2) hkept
    · rw [faultAt_addFault_of_ne hg]
      constructor
      · intro hf
        obtain ⟨rfl, rfl⟩ := of_faultAt_eq_some hf
        refine .inr ⟨hf, ?_⟩
        rintro (_ | ⟨hop, hkey⟩)
        exact hg ⟨hop, hkey⟩
      · rintro (⟨h, hf⟩ | ⟨hf, -⟩)
        · cases h
          exact absurd hf hg
        · exact hf
  | clearFaults =>
    constructor
    · intro h
      cases h
    · rintro (⟨h, -⟩ | ⟨-, hkept⟩)
      · cases h
      · exact absurd .clearFaults hkept
  -- a call meets faults and changes none
  | call c => exact hother nofun nofun ((c.ends_make s).sameSetting.faultAt_eq op key)
  | _ => exact hother nofun nofun rfl

/-- **The faults of a store are those in force by its history.** -/
theorem faultAt_afterEvents_iff :
    ((ofInventory i supply).afterEvents events).faultAt op key = some f ↔
      IsInForce events f ∧ f.operation = op ∧ f.key = key := by
  -- from the first event on, each one doing to the faults what it does to what is in force
  induction events using List.reverseRecOn with
  | nil =>
    constructor
    · intro h
      cases h
    · rintro ⟨h, -⟩
      exact absurd h not_isAddedSince_nil
  | append_singleton events e ih =>
    rw [afterEvents_concat, faultAt_afterEvent_iff, ih, IsInForce, IsInForce,
      isAddedSince_concat_iff, or_and_right, and_right_comm]

/-- **The fault that a call meets can be told from the history.** -/
theorem fault?_afterEvents_iff {c : Call} :
    ((ofInventory i supply).afterEvents events).fault? c = some f ↔ IsMet events c f := by
  rw [fault?, Option.or_eq_some_iff, Option.eq_none_iff_forall_ne_some]
  simp only [ne_eq, faultAt_afterEvents_iff]
  constructor
  · rintro (⟨hforce, hop, hkey⟩ | ⟨hnone, hforce, hop, hkey⟩)
    · exact .own (Call.isAbout_iff.mpr rfl) hforce hop hkey
    · exact .any (Call.isAbout_iff.mpr rfl) (fun g hg hgop hgkey ↦ hnone g ⟨hg, hgop, hgkey⟩) hforce
        hop hkey
  · rintro (⟨habout, hforce, hop, hkey⟩ | ⟨habout, hnone, hforce, hop, hkey⟩)
    · obtain rfl := Call.isAbout_iff.mp habout
      exact .inl ⟨hforce, hop, hkey⟩
    · obtain rfl := Call.isAbout_iff.mp habout
      exact .inr ⟨fun g hg ↦ hnone g hg.1 hg.2.1 hg.2.2, hforce, hop, hkey⟩

/-- **What the next call comes to, whatever has happened to a store.** It fails just if a fault was
added for its operation, under its key or the one for any, since the faults were last cleared, or
if what it is to delete or to switch is not there. The latest fault for its key, and else the latest
for any, gives the failure its status and its text; without one the status is 404. A call that fails
changes neither the resources nor the faults, and one that succeeds does to the resources what it is
for. -/
theorem call_after_history (i : Inventory) (supply : IdSupply) (events : List StoreEvent)
    (c : Call) :
    let s := (ofInventory i supply).afterEvents events
    let r := c.make.result s
    let t := c.make.after s
    ((∃ e, r = .error e) ↔
        (∃ f key, c.IsAbout key ∧ IsAdded events f ∧ f.operation = c.operation ∧
          (f.key = key ∨ f.key = "*")) ∨
        c.IsMissing s.inventory) ∧
      (∀ f, IsMet events c f → ∃ e, r = .error e ∧ e.status = f.status ∧ e.reason = f.reason) ∧
      ((∀ f, ¬ IsMet events c f) → c.IsMissing s.inventory →
        ∃ e, r = .error e ∧ e.status = 404 ∧ e.reason = c.notFound) ∧
      (∀ e, r = .error e → t.inventory = s.inventory ∧ t.faults = s.faults) ∧
      ∀ a, r = .ok a → c.Does s.inventory a t.inventory ∧ t.faults = s.faults := by
  intro s r t
  have hends : Call.Ends s c r t := c.ends_make s
  have hmet (f : Fault) : s.fault? c = some f ↔ IsMet events c f := fault?_afterEvents_iff
  have hnone : s.fault? c = none ↔ ∀ f, ¬ IsMet events c f := by
    simp only [Option.eq_none_iff_forall_ne_some, ne_eq, hmet]
  refine ⟨?_, fun f hf ↦ hends.error_of_fault ((hmet f).mpr hf),
    fun h ↦ hends.error_of_isMissing (hnone.mpr h), fun e he ↦ ?_, fun a ha ↦ ?_⟩
  · simp only [hends.exists_error_iff, hmet, exists_isMet_iff]
  · rw [he] at hends
    exact ⟨hends.inventory_of_error, hends.sameSetting.faults⟩
  · rw [ha] at hends
    exact ⟨hends.does_of_ok, hends.sameSetting.faults⟩

end Store

end NetWarden
