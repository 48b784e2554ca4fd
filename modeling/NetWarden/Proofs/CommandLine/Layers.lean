import NetWarden.CommandLine.PolicyCommands
import NetWarden.Proofs.Text.LetterCase
import NetWarden.Proofs.Validation.Checked

/-!
# Layers of settings

What a run works with is decided field by field: by its request if this says anything, else by the
environment if it says something that is understood, and else by the configured settings
(`RunPlan.IsLayered`). Dry runs are the one field in which no layer takes back what the request
says, and the request can only ask for them.

Only what results from the layers is checked. So **a run can begin just if the layers together are
in order** (`RunRequest.resolve_layers`), and a configured inventory that the request replaces is
never looked for. It does not matter whether files are looked at before or meanwhile
(`RunRequest.run_resolveThere`).

Words of the environment and of the request are understood in letters of either case, which rests on
`Text.lower_mem_iff` alone.
-/

namespace NetWarden

/-! ### Words -/

/-- The words that people write for a format. -/
def Format.words : Format → List String
  | json => ["json"]
  | yaml => ["yaml", "yml"]

/-- A text means a format: it is a word for it, in letters of either case. -/
def Format.IsMeantBy (f : Format) (text : String) : Prop := text.toLower ∈ f.words

theorem Format.ofText?_eq_some_iff {text : String} {f : Format} :
    ofText? text = some f ↔ f.IsMeantBy text := by
  have hlower : Text.lower text ∈ f.words ↔ f.IsMeantBy text :=
    Text.lower_mem_iff (by cases f <;> rfl)
  rw [← hlower, ofText?, named?]
  cases f with
  | json => grind [words]
  | yaml => grind [words]

namespace Settings

/-- The words that people write for a switch that is on, or off. -/
def switchWords : Bool → List String
  | true => ["true", "1", "yes", "on"]
  | false => ["false", "0", "no", "off"]

theorem switch?_eq_some_iff {text : String} {isOn : Bool} :
    switch? text = some isOn ↔ text.toLower ∈ switchWords isOn := by
  have hlower : Text.lower text ∈ switchWords isOn ↔ text.toLower ∈ switchWords isOn :=
    Text.lower_mem_iff (by cases isOn <;> rfl)
  rw [← hlower, switch?]
  cases isOn with
  | true => grind [switchWords]
  | false => grind [switchWords]

end Settings

/-! ### The environment -/

/-- **What a layer says goes before the one below it**, which counts where it says nothing. -/
theorem eq_getD_iff {α : Type} {said : Option α} {below a : α} : a = said.getD below ↔
    (∀ b, said = some b → a = b) ∧ ((∀ b, ¬ said = some b) → a = below) := by
  rcases said with - | b
  · simp
  · simp

namespace Environment

variable {e : Environment} {c : Settings} {f : Format} {isDryRun : Bool}

/-- The environment says something of dry runs that is understood. -/
def SaysDryRun (e : Environment) (isDryRun : Bool) : Prop :=
  ∃ text, e.dryRun = some text ∧ text.toLower ∈ Settings.switchWords isDryRun

/-- The environment says a format that is understood. -/
def SaysFormat (e : Environment) (f : Format) : Prop :=
  ∃ text, e.output = some text ∧ f.IsMeantBy text

theorem saysDryRun_iff :
    e.SaysDryRun isDryRun ↔ e.dryRun.bind Settings.switch? = some isDryRun := by
  simp only [SaysDryRun, Option.bind_eq_some_iff, Settings.switch?_eq_some_iff]

theorem saysFormat_iff : e.SaysFormat f ↔ e.output.bind Format.ofText? = some f := by
  simp only [SaysFormat, Option.bind_eq_some_iff, Format.ofText?_eq_some_iff]

/-- **The format below the environment.** -/
theorem eq_output_below_iff : f = (c.below e).output ↔
    (∀ g, e.SaysFormat g → f = g) ∧ ((∀ g, ¬ e.SaysFormat g) → f = c.output) := by
  simp only [saysFormat_iff]
  exact eq_getD_iff

/-- **Whether runs are dry below the environment.** -/
theorem eq_isDryRun_below_iff : isDryRun = (c.below e).isDryRun ↔
    (∀ b, e.SaysDryRun b → isDryRun = b) ∧
      ((∀ b, ¬ e.SaysDryRun b) → isDryRun = c.isDryRun) := by
  simp only [saysDryRun_iff]
  exact eq_getD_iff

/-- Runs are dry if the environment says it, or if it says nothing and the settings do. -/
theorem isDryRun_below_iff : (c.below e).isDryRun = true ↔
    e.SaysDryRun true ∨ (∀ b, ¬ e.SaysDryRun b) ∧ c.isDryRun = true := by
  simp only [saysDryRun_iff]
  show (e.dryRun.bind Settings.switch?).getD c.isDryRun = true ↔ _
  rcases e.dryRun.bind Settings.switch? with - | b
  · simp
  · simp

end Environment

/-! ### Checking -/

/-- Settings are in order if their inventory, where they have one, is there, and the level of
messages is one, in letters of either case. -/
theorem Settings.check_eq_ok_iff {isThere : String → Bool} {s : Settings} :
    s.check isThere = .ok () ↔
      (∀ path, s.inventory = some path → isThere path = true) ∧ s.logLevel.toLower ∈ logLevels := by
  have hlevel : logLevels.contains (Text.lower s.logLevel) = true ↔
      s.logLevel.toLower ∈ logLevels := by
    rw [List.contains_iff_mem]
    exact Text.lower_mem_iff rfl
  rw [← hlevel, check]
  rcases s.inventory with - | path
  · simp
  · cases hthere : isThere path <;> simp [Option.filter, hthere]

namespace CommandLine

/-! ### Requests -/

/-- What a run works with is what the layers say: its request goes before the environment, and this
before the configured settings. -/
structure RunPlan.IsLayered (plan : RunPlan) (r : RunRequest) (e : Environment) (c : Settings) :
    Prop where
  /-- The format that is requested counts. -/
  output_of_request : ∀ text, r.output = some text → plan.output.IsMeantBy text
  /-- Else the one that the environment says. -/
  output_of_environment : r.output = none → ∀ f, e.SaysFormat f → plan.output = f
  /-- Else the one that is configured. -/
  output_of_settings : r.output = none → (∀ f, ¬ e.SaysFormat f) → plan.output = c.output
  /-- The inventory that is requested counts, else the one that is configured. -/
  inventory : r.inventory.or c.inventory = some plan.inventory
  /-- Runs are dry if that is requested, or if the environment says it, or if it is configured and
  the environment says nothing else. -/
  isDryRun : plan.isDryRun = true ↔ r.isDryRun = true ∨ e.SaysDryRun true ∨
    (∀ b, ¬ e.SaysDryRun b) ∧ c.isDryRun = true

namespace RunRequest

variable {r : RunRequest} {e : Environment} {c s : Settings} {plan : RunPlan}
  {isThere : String → Bool} {output : Option Format}

/-- A request is read if it says no format, or one that is understood. -/
theorem exists_format_iff : (∃ output, r.format = .ok output) ↔
    ∀ text, r.output = some text → ∃ f : Format, f.IsMeantBy text := by
  simp only [← Format.ofText?_eq_some_iff]
  rw [format]
  rcases r.output with - | text
  · simp
  · rcases h : Format.ofText? text with - | f <;> simp [h]

/-- **The format that a request says goes before the one below it.** -/
theorem exists_format_getD_iff {f below : Format} :
    (∃ output, r.format = .ok output ∧ f = output.getD below) ↔
      (∀ text, r.output = some text → f.IsMeantBy text) ∧ (r.output = none → f = below) := by
  simp only [← Format.ofText?_eq_some_iff]
  rw [format]
  rcases r.output with - | text
  · simp
  · rcases h : Format.ofText? text with - | g <;> simp [h, eq_comm]

/-- **What a run works with**, if the settings below it are in order. -/
theorem resolve_eq_ok_iff : r.resolve isThere s = .ok plan ↔
    ∃ output, r.format = .ok output ∧
      (∀ path, r.inventory.or s.inventory = some path → isThere path = true) ∧
      s.logLevel.toLower ∈ Settings.logLevels ∧
      r.inventory.or s.inventory = some plan.inventory ∧
      plan.isDryRun = (s.isDryRun || r.isDryRun) ∧ plan.output = output.getD s.output := by
  rw [resolve, bind_eq_ok_iff]
  refine exists_congr fun output ↦ and_congr_right fun _ ↦ ?_
  rw [bind_eq_ok_iff]
  constructor
  · rintro ⟨⟨⟩, hcheck, h⟩
    -- what was checked is what the flags came to
    obtain ⟨hthere, hlevel⟩ := Settings.check_eq_ok_iff.mp (mapError_eq_ok_iff.mp hcheck)
    split at h
    · cases h
    · rename_i hpath
      cases h
      exact ⟨hthere, hlevel, hpath, rfl, rfl⟩
  · rintro ⟨hthere, hlevel, hpath, hdry, houtput⟩
    refine ⟨(), mapError_eq_ok_iff.mpr (Settings.check_eq_ok_iff.mpr ⟨hthere, hlevel⟩), ?_⟩
    have hinventory : (s.belowFlags ⟨r.inventory, r.isDryRun, output⟩).inventory =
        some plan.inventory := hpath
    simp only [hinventory]
    obtain ⟨inventory, isDryRun, format⟩ := plan
    cases hdry
    cases houtput
    rfl

/-- **What a run works with is what the layers say**, and it can begin with it just if the inventory
is there and the level of messages is one. -/
theorem resolve_below_eq_ok_iff : r.resolve isThere (c.below e) = .ok plan ↔
    plan.IsLayered r e c ∧ isThere plan.inventory = true ∧
      c.logLevel.toLower ∈ Settings.logLevels := by
  rw [resolve_eq_ok_iff]
  constructor
  · rintro ⟨output, hformat, hthere, hlevel, hinventory, hdry, houtput⟩
    -- the format comes from the request, or from what lies below it
    obtain ⟨hrequest, hbelow⟩ := exists_format_getD_iff.mp ⟨output, hformat, houtput⟩
    refine ⟨⟨hrequest, fun hnone ↦ (Environment.eq_output_below_iff.mp (hbelow hnone)).1,
      fun hnone ↦ (Environment.eq_output_below_iff.mp (hbelow hnone)).2, hinventory, ?_⟩,
      hthere _ hinventory, hlevel⟩
    rw [hdry, Bool.or_eq_true, Environment.isDryRun_below_iff, or_comm]
  · rintro ⟨hlayers, hthere, hlevel⟩
    obtain ⟨output, hformat, houtput⟩ := exists_format_getD_iff.mpr ⟨hlayers.output_of_request,
      fun hnone ↦ Environment.eq_output_below_iff.mpr
        ⟨hlayers.output_of_environment hnone, hlayers.output_of_settings hnone⟩⟩
    refine ⟨output, hformat, fun path hpath ↦ ?_, hlevel, hlayers.inventory, ?_, houtput⟩
    · rwa [Option.some.inj (hpath.symm.trans hlayers.inventory)]
    · rw [Bool.eq_iff_iff, Bool.or_eq_true, Environment.isDryRun_below_iff, or_comm]
      exact hlayers.isDryRun

/-- **A run can begin just if its request is read and the layers are in order.** -/
theorem exists_resolve_below_iff : (∃ plan, r.resolve isThere (c.below e) = .ok plan) ↔
    (∀ text, r.output = some text → ∃ f : Format, f.IsMeantBy text) ∧
      (∃ path, r.inventory.or c.inventory = some path ∧ isThere path = true) ∧
      c.logLevel.toLower ∈ Settings.logLevels := by
  constructor
  · rintro ⟨plan, hplan⟩
    obtain ⟨hlayers, hthere, hlevel⟩ := resolve_below_eq_ok_iff.mp hplan
    exact ⟨fun text htext ↦ ⟨_, hlayers.output_of_request text htext⟩,
      ⟨_, hlayers.inventory, hthere⟩, hlevel⟩
  · rintro ⟨hread, ⟨path, hpath, hthere⟩, hlevel⟩
    obtain ⟨output, hformat⟩ := exists_format_iff.mpr hread
    refine ⟨⟨path, (c.below e).isDryRun || r.isDryRun, output.getD (c.below e).output⟩,
      resolve_eq_ok_iff.mpr ⟨output, hformat, fun other hother ↦ ?_, hlevel, hpath, rfl, rfl⟩⟩
    rwa [Option.some.inj (hother.symm.trans hpath)]

/-- An inventory that the request replaces has no part in it. -/
theorem resolve_congr_inventory {path : String} (h : r.inventory = some path)
    (other : Option String) :
    r.resolve isThere { s with inventory := other } = r.resolve isThere s := by
  rw [resolve, resolve]
  refine bind_congr fun output ↦ ?_
  simp only [Settings.belowFlags, h, Option.some_or]

/-- Of the files, only the inventory that the layers come to is looked for. -/
theorem resolve_congr_isThere {isThere' : String → Bool}
    (h : ∀ path, r.inventory.or s.inventory = some path → isThere path = isThere' path) :
    r.resolve isThere s = r.resolve isThere' s := by
  rw [resolve, resolve]
  refine bind_congr fun output ↦ ?_
  have hcheck : (s.belowFlags ⟨r.inventory, r.isDryRun, output⟩).check isThere =
      (s.belowFlags ⟨r.inventory, r.isDryRun, output⟩).check isThere' := by
    rw [Settings.check, Settings.check]
    simp only [Settings.belowFlags]
    rcases hpath : r.inventory.or s.inventory with - | path
    · rfl
    · simp only [Option.filter_some, h path hpath]
  simp only [hcheck]

/-- **A look at the files beforehand is as good as looking where it matters.** -/
theorem run_resolveThere (t : FileTree) :
    (r.resolveThere s : StateM FileTree _).run t = (r.resolve t.isThere s, t) := by
  simp only [resolveThere, inventoryIsThere, Settings.belowFlags]
  rcases hpath : r.inventory.or s.inventory with - | path
  · refine Prod.ext (resolve_congr_isThere fun path h ↦ ?_) rfl
    cases hpath.symm.trans h
  · refine Prod.ext (resolve_congr_isThere fun other h ↦ ?_) rfl
    cases hpath.symm.trans h
    rfl

/-- **A run works with what its layers say, and only that is checked.** It cannot begin just if the
format that is requested is none, if there is no inventory in the layers or it is not there, or if
the level of messages is none. Else it works with what the layers say; where the environment says
nothing that is understood, the settings stay as they are configured, and the environment never says
anything of the inventory and the level. A configured inventory that the request replaces may be any
or none. -/
theorem resolve_layers (isThere : String → Bool) (c : Settings) (e : Environment) (r : RunRequest) :
    ((∃ fault, r.resolve isThere (c.below e) = .error fault) ↔
        (∃ text, r.output = some text ∧ ∀ f : Format, ¬ f.IsMeantBy text) ∨
          (∀ path, r.inventory.or c.inventory = some path → isThere path = false) ∨
          c.logLevel.toLower ∉ Settings.logLevels) ∧
      (∀ plan, r.resolve isThere (c.below e) = .ok plan → plan.IsLayered r e c) ∧
      ((∀ b, ¬ e.SaysDryRun b) → (c.below e).isDryRun = c.isDryRun) ∧
      ((∀ f, ¬ e.SaysFormat f) → (c.below e).output = c.output) ∧
      (c.below e).inventory = c.inventory ∧ (c.below e).logLevel = c.logLevel ∧
      ∀ path other, r.inventory = some path →
        r.resolve isThere ({ c with inventory := other }.below e) =
          r.resolve isThere (c.below e) := by
  refine ⟨?_, fun plan hplan ↦ (resolve_below_eq_ok_iff.mp hplan).1,
    (Environment.eq_isDryRun_below_iff.mp rfl).2, (Environment.eq_output_below_iff.mp rfl).2,
    rfl, rfl, fun path other hpath ↦ resolve_congr_inventory (s := c.below e) hpath other⟩
  have hfails : (∃ fault, r.resolve isThere (c.below e) = .error fault) ↔
      ¬ ∃ plan, r.resolve isThere (c.below e) = .ok plan := by
    rcases r.resolve isThere (c.below e) with fault | plan <;> simp
  rw [hfails, exists_resolve_below_iff, not_and_or, not_and_or]
  simp only [not_forall, not_exists, not_and, Bool.not_eq_true, exists_prop]

/-! ### A configured inventory that is gone

The settings name an inventory that is not there and ask for dry runs. The environment wants none,
and the request has its own inventory. -/

/-- Settings that name an inventory. -/
def goneSettings : Settings := { isDryRun := true, inventory := some "gone.yaml" }

/-- An environment that says something else, in capitals. -/
def shoutingEnvironment : Environment := { dryRun := some "NO", output := some "YmL" }

/-- A request with an inventory. -/
def ownRequest : RunRequest := { file := "policies.yaml", inventory := some "own.json" }

/-- The request can begin, and it would not without its inventory. -/
theorem resolve_layers_gone :
    (∃ plan, ownRequest.resolve (· == "own.json") (goneSettings.below shoutingEnvironment) =
        .ok plan ∧ plan.inventory = "own.json" ∧ plan.isDryRun = false ∧ plan.output = .yaml) ∧
      ∃ fault, { ownRequest with inventory := none }.resolve (· == "own.json")
        (goneSettings.below shoutingEnvironment) = .error fault := by
  obtain ⟨hfails, hlayers, -⟩ :=
    resolve_layers (· == "own.json") goneSettings shoutingEnvironment ownRequest
  have hdry : shoutingEnvironment.SaysDryRun false := Environment.saysDryRun_iff.mpr (by decide)
  have hformat : shoutingEnvironment.SaysFormat .yaml := Environment.saysFormat_iff.mpr (by decide)
  refine ⟨?_, (resolve_layers _ _ _ _).1.mpr (.inr (.inl ?_))⟩
  · -- none of the three reasons to fail is given
    rcases hplan : ownRequest.resolve (· == "own.json")
      (goneSettings.below shoutingEnvironment) with fault | plan
    · rcases hfails.mp ⟨fault, hplan⟩ with ⟨text, htext, -⟩ | hgone | hlevel
      · cases htext
      · exact absurd (hgone "own.json" rfl) (by decide)
      · exact absurd ((Text.lower_mem_iff rfl).mp (by decide)) hlevel
    · have hplan := hlayers plan hplan
      refine ⟨plan, rfl, Option.some.inj hplan.inventory.symm, ?_,
        hplan.output_of_environment rfl _ hformat⟩
      rw [← Bool.not_eq_true, hplan.isDryRun]
      rintro (hrequest | htrue | ⟨hsilent, -⟩)
      · cases hrequest
      · cases (Environment.saysDryRun_iff.mp hdry).symm.trans (Environment.saysDryRun_iff.mp htrue)
      · exact hsilent false hdry
  · -- without its own inventory the request has the configured one
    rintro path hpath
    cases hpath
    decide

end RunRequest

end CommandLine

end NetWarden
