import FarmScript.Farm.RulesFile
import FarmScript.Proofs.Json.Record

/-! # Rules and their text

A text of rules is an object with some of the eight fields. Such an object is a list of settings
(`Setting`): each sets its own field and leaves the others alone (`Setting.Decides`), so with every
field set at most once the rules that are read are the default with the settings applied, in
whatever order they stand (`ofJson?_settings`). The text of given rules is the case of all eight
settings.

Whatever the text, rules that were read have been validated.
-/

namespace FarmScript
set_option autoImplicit false

namespace Rules

/-- A field of the rules with a value of its type. -/
inductive Setting where
  | gridSize (value : UInt64)
  | growthStep (value : UInt32)
  | harvestValue (value : UInt32)
  | plantCost (value : UInt32)
  | waterCost (value : UInt32)
  | startingGold (value : UInt32)
  | maxLogs (value : UInt64)
  | tickIntervalMs (value : UInt64)

namespace Setting

def name : Setting → String
  | gridSize _ => "grid_size"
  | growthStep _ => "growth_step"
  | harvestValue _ => "harvest_value"
  | plantCost _ => "plant_cost"
  | waterCost _ => "water_cost"
  | startingGold _ => "starting_gold"
  | maxLogs _ => "max_logs"
  | tickIntervalMs _ => "tick_interval_ms"

def toJson : Setting → Json
  | gridSize value | maxLogs value | tickIntervalMs value => .ofUInt64 value
  | growthStep value | harvestValue value | plantCost value | waterCost value
  | startingGold value => .ofUInt32 value

/-- The rules with the field of a setting replaced. -/
def apply (rules : Rules) : Setting → Rules
  | gridSize value => { rules with gridSize := value }
  | growthStep value => { rules with growthStep := value }
  | harvestValue value => { rules with harvestValue := value }
  | plantCost value => { rules with plantCost := value }
  | waterCost value => { rules with waterCost := value }
  | startingGold value => { rules with startingGold := value }
  | maxLogs value => { rules with maxLogs := value }
  | tickIntervalMs value => { rules with tickIntervalMs := value }

/-- The setting as a member of an object. -/
def member (setting : Setting) : String × Json := (setting.name, setting.toJson)

/-! ## One field -/

/-- Whether only the settings of this name matter to a field, and `value?` reads them. -/
structure Decides {α : Type} (name : String) (value? : Json → Option α) (get : Rules → α) :
    Prop where
  own (setting : Setting) (rules : Rules) (hname : setting.name = name) :
    value? setting.toJson = some (get (setting.apply rules))
  other (setting : Setting) (rules : Rules) (hname : setting.name ≠ name) :
    get (setting.apply rules) = get rules

section

variable {α : Type} {name : String} {value? : Json → Option α} {get : Rules → α}

theorem Decides.other_all (h : Decides name value? get) {settings : List Setting}
    (hother : name ∉ settings.map Setting.name) (rules : Rules) :
    get (settings.foldl apply rules) = get rules := by
  induction settings generalizing rules with
  | nil => rfl
  | cons setting settings ih =>
    rw [List.map_cons, List.mem_cons, not_or] at hother
    rw [List.foldl_cons, ih hother.2, h.other setting rules (Ne.symm hother.1)]

theorem map_fst_member (settings : List Setting) :
    (settings.map member).map Prod.fst = settings.map Setting.name := by
  rw [List.map_map]
  rfl

/-- A field is read as what the settings leave in it. -/
theorem Decides.exists_slot (h : Decides name value? get) {settings : List Setting}
    (hnodup : (settings.map Setting.name).Nodup) (rules : Rules) :
    ∃ slot, Json.memberSlot? (settings.map member) name = some slot ∧
      slot.withDefault? (get rules) value? = some (get (settings.foldl apply rules)) := by
  induction settings generalizing rules with
  | nil => exact ⟨.absent, rfl, rfl⟩
  | cons setting settings ih =>
    rw [List.map_cons, List.nodup_cons] at hnodup
    by_cases hname : setting.name = name
    · subst hname
      have hrest : setting.name ∉ (settings.map member).map Prod.fst := by
        rw [map_fst_member]
        exact hnodup.1
      refine ⟨.given setting.toJson, ?_, ?_⟩
      · simp [Json.memberSlot?, member, Json.filter_name_of_not_mem hrest]
      · rw [List.foldl_cons, h.other_all hnodup.1]
        exact h.own setting rules rfl
    · obtain ⟨slot, hslot, hvalue⟩ := ih hnodup.2 (setting.apply rules)
      refine ⟨slot, ?_, ?_⟩
      · rw [← hslot, Json.memberSlot?, Json.memberSlot?, List.map_cons,
          List.filter_cons_of_neg (by simp [member, hname])]
      · rw [h.other setting rules hname] at hvalue
        exact hvalue

end

/-- Every field is decided by the settings of its name. -/
theorem decides_fields :
    Decides "grid_size" Json.toUInt64? Rules.gridSize ∧
    Decides "growth_step" Json.toUInt32? Rules.growthStep ∧
    Decides "harvest_value" Json.toUInt32? Rules.harvestValue ∧
    Decides "plant_cost" Json.toUInt32? Rules.plantCost ∧
    Decides "water_cost" Json.toUInt32? Rules.waterCost ∧
    Decides "starting_gold" Json.toUInt32? Rules.startingGold ∧
    Decides "max_logs" Json.toUInt64? Rules.maxLogs ∧
    Decides "tick_interval_ms" Json.toUInt64? Rules.tickIntervalMs := by
  refine ⟨?_, ?_, ?_, ?_, ?_, ?_, ?_, ?_⟩ <;> constructor <;> intro setting rules <;>
    cases setting <;> simp [name, toJson, apply]

end Setting

/-! ## All fields -/

open Setting in
theorem ofJson?_settings {settings : List Setting} (h : (settings.map name).Nodup) :
    ofJson? (.record (settings.map member)) = some (settings.foldl Setting.apply default) := by
  obtain ⟨dsize, dgrowth, dharvest, dplant, dwater, dgold, dlogs, dinterval⟩ := decides_fields
  obtain ⟨size, hsize, hsize'⟩ := dsize.exists_slot h default
  obtain ⟨growth, hgrowth, hgrowth'⟩ := dgrowth.exists_slot h default
  obtain ⟨harvest, hharvest, hharvest'⟩ := dharvest.exists_slot h default
  obtain ⟨plant, hplant, hplant'⟩ := dplant.exists_slot h default
  obtain ⟨water, hwater, hwater'⟩ := dwater.exists_slot h default
  obtain ⟨gold, hgold, hgold'⟩ := dgold.exists_slot h default
  obtain ⟨logs, hlogs, hlogs'⟩ := dlogs.exists_slot h default
  obtain ⟨interval, hinterval, hinterval'⟩ := dinterval.exists_slot h default
  have hslots : (Json.record (settings.map member)).slots? fieldNames =
      some [size, growth, harvest, plant, water, gold, logs, interval] := by
    rw [Json.record, Json.slots?, Json.namedMembers?_record]
    simp [fieldNames, hsize, hgrowth, hharvest, hplant, hwater, hgold, hlogs, hinterval]
  simp [ofJson?, hslots, hsize', hgrowth', hharvest', hplant', hwater', hgold', hlogs', hinterval']

/-- All fields of the rules, in their order. -/
def settings (rules : Rules) : List Setting :=
  [.gridSize rules.gridSize, .growthStep rules.growthStep, .harvestValue rules.harvestValue,
    .plantCost rules.plantCost, .waterCost rules.waterCost, .startingGold rules.startingGold,
    .maxLogs rules.maxLogs, .tickIntervalMs rules.tickIntervalMs]

theorem ofJson?_toJson (rules : Rules) : ofJson? rules.toJson = some rules := by
  have hnames : (rules.settings.map Setting.name).Nodup := by
    simp [settings, Setting.name]
  have hjson : rules.toJson = .record (rules.settings.map Setting.member) := by
    simp [toJson, settings, Setting.member, Setting.name, Setting.toJson]
  have hrules : rules.settings.foldl Setting.apply default = rules := by
    simp [settings, Setting.apply]
  rw [hjson, ofJson?_settings hnames, hrules]

/-! ## Texts -/

theorem parse_of_read? {text : String} {json : Json} {rules : Rules}
    (hjson : Json.read? text = some json) (hrules : ofJson? json = some rules) :
    parse text = rules.validate := by
  rw [parse, hjson]
  simp only [hrules]

theorem parse_write (rules : Rules) : parse rules.write = rules.validate := by
  have hintegral : rules.toJson.IsIntegral := by simp [toJson]
  exact parse_of_read? (Json.read?_writePretty hintegral) rules.ofJson?_toJson

theorem eq_of_validate {rules valid : Rules} (h : rules.validate = .ok valid) : rules = valid := by
  unfold validate at h
  split at h
  · cases h
  · exact Except.ok.inj h

theorem validate_of_parse {text : String} {rules : Rules} (h : parse text = .ok rules) :
    rules.validate = .ok rules := by
  unfold parse at h
  split at h
  · cases h
  · split at h
    · cases h
    · next read _ => rwa [eq_of_validate h] at h

theorem validate_of_load {path : String} {content : Except File.Failure String} {rules : Rules}
    (h : load path content = .ok rules) : rules.validate = .ok rules := by
  unfold load at h
  split at h
  · cases h
  · next text =>
    cases hparse : parse text with
    | error fault =>
      rw [hparse] at h
      cases h
    | ok parsed =>
      rw [hparse] at h
      cases h
      exact validate_of_parse hparse

/-! ## Validation -/

theorem validate_eq_ok_iff (rules : Rules) :
    rules.validate = .ok rules ↔ rules.problem? = none := by
  unfold validate
  cases rules.problem? <;> simp

/-- The fields that must not be zero and are, in their order. -/
def zeroFields (rules : Rules) : List String :=
  [("grid_size", rules.gridSize.toNat), ("growth_step", rules.growthStep.toNat),
    ("max_logs", rules.maxLogs.toNat)].filterMap
      fun (field, value) => if value = 0 then some field else none

theorem field_problem? (rules : Rules) :
    rules.problem?.map Problem.field = rules.zeroFields.head? := by
  have hsize : rules.gridSize = 0 ↔ rules.gridSize.toNat = 0 := UInt64.toNat_inj.symm
  have hgrowth : rules.growthStep = 0 ↔ rules.growthStep.toNat = 0 := UInt32.toNat_inj.symm
  have hlogs : rules.maxLogs = 0 ↔ rules.maxLogs.toNat = 0 := UInt64.toNat_inj.symm
  unfold problem? zeroFields
  by_cases h₁ : rules.gridSize.toNat = 0
  · simp [hsize, h₁, Problem.field]
  · by_cases h₂ : rules.growthStep.toNat = 0
    · simp [hsize, hgrowth, h₁, h₂, Problem.field]
    · by_cases h₃ : rules.maxLogs.toNat = 0 <;>
        simp [hsize, hgrowth, hlogs, h₁, h₂, h₃, Problem.field]

theorem validate_of_zeroFields {rules : Rules} {field : String}
    (h : rules.zeroFields.head? = some field) :
    ∃ fault, rules.validate = .error fault ∧ fault.kind = .configInvalid ∧
      fault.context = [("field", field)] := by
  rw [← field_problem?] at h
  obtain ⟨problem, hproblem, rfl⟩ := Option.map_eq_some_iff.mp h
  refine ⟨problem.fault, by rw [validate, hproblem], ?_, ?_⟩ <;> cases problem <;> rfl

theorem validate_of_ne_zero {rules : Rules} (hsize : rules.gridSize ≠ 0)
    (hgrowth : rules.growthStep ≠ 0) (hlogs : rules.maxLogs ≠ 0) :
    rules.validate = .ok rules := by
  rw [validate_eq_ok_iff, problem?_eq_none_iff]
  exact ⟨hsize, hgrowth, hlogs⟩

end Rules

/-- Rules that are playable are found again in their text; else the fault of the text names the
first field that is zero. A text with any of the fields, in any order, stands for the default with
these fields set. And no text stands for rules that are not playable. -/
theorem rules_text :
    (∀ rules : Rules, rules.gridSize ≠ 0 → rules.growthStep ≠ 0 → rules.maxLogs ≠ 0 →
      Rules.parse rules.write = .ok rules) ∧
    (∀ (rules : Rules) (field : String), rules.zeroFields.head? = some field →
      ∃ fault, Rules.parse rules.write = .error fault ∧ fault.kind = .configInvalid ∧
        fault.context = [("field", field)]) ∧
    (∀ (settings : List Rules.Setting) (text : String),
      (settings.map Rules.Setting.name).Nodup →
      Json.Spells (Json.tokens (.record (settings.map Rules.Setting.member))) text.toList →
      Rules.parse text = (settings.foldl Rules.Setting.apply Rules.default).validate) ∧
    (∀ (text : String) (rules : Rules), Rules.parse text = .ok rules →
      rules.validate = .ok rules) := by
  refine ⟨?_, ?_, ?_, ?_⟩
  · intro rules hsize hgrowth hlogs
    rw [Rules.parse_write, Rules.validate_of_ne_zero hsize hgrowth hlogs]
  · intro rules field hfield
    rw [Rules.parse_write]
    exact Rules.validate_of_zeroFields hfield
  · intro settings text hnames htext
    exact Rules.parse_of_read? (Json.read?_of_spells htext) (Rules.ofJson?_settings hnames)
  · intro text rules hparse
    exact Rules.validate_of_parse hparse

/-- The default rules; rules with two zeros, of which the first is named; and a text that starts
with a blank and sets two fields, the later one first. -/
theorem rules_text_two_fields :
    Rules.parse Rules.default.write = .ok Rules.default ∧
    Rules.default.validate = .ok Rules.default ∧
    (∃ fault,
      Rules.parse { Rules.default with maxLogs := 0, growthStep := 0 }.write = .error fault ∧
      fault.kind = .configInvalid ∧ fault.context = [("field", "growth_step")]) ∧
    Rules.parse (.ofList (' ' :: Json.writeChars (.record
        [("max_logs", .ofUInt64 18446744073709551615), ("plant_cost", .ofUInt32 0)]))) =
      .ok { Rules.default with maxLogs := 18446744073709551615, plantCost := 0 } := by
  obtain ⟨hfound, hzero, hset, hvalid⟩ := rules_text
  have hdefault := hfound Rules.default (by decide) (by decide) (by decide)
  refine ⟨hdefault, hvalid _ _ hdefault, hzero _ "growth_step" rfl, ?_⟩
  refine hset [.maxLogs 18446744073709551615, .plantCost 0] _ (by decide) ?_
  rw [String.toList_ofList]
  refine .gap rfl (Json.spells_writeChars ?_)
  simp [Rules.Setting.member, Rules.Setting.toJson]

end FarmScript
