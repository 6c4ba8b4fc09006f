import Mathlib.Data.List.Nodup
import QuoteDesk.Settings.Store

/-!
# Layers of settings

The value of a setting comes from the first of four layers that has one: the environment,
the overrides of the run, the file, and the standard values.
-/

namespace QuoteDesk

/-- A value that is not null. -/
def Value.given? : Value → Option Value
  | .null => none
  | value => some value

namespace Settings

/-! ## Layers -/

/-- The value that a variable of the environment gives a setting, if the variable is set
and reads as a value of the setting's kind. -/
def environmentValue? (environment : Environment) (setting : Setting) : Option Value :=
  (Setting.environmentNames.find? fun entry => entry.2 = setting).bind fun entry =>
    (environment.lookup entry.1).bind fun source =>
      (Setting.readVariable setting.kind source).toOption

/-- The value that the overrides of a run give a setting; null gives none, and of several
the last one stands. -/
def overrideValue? (overrides : Entries) (setting : Setting) : Option Value :=
  (overrides.filterMap fun entry =>
    if entry.1 = setting.name then entry.2.given? else none).getLast?

/-- The value of a setting, when a file gives some of the settings values. -/
def layered (environment : Environment) (overrides : Entries) (filed : Setting → Option Value)
    (setting : Setting) : Value :=
  ((environmentValue? environment setting).or
    ((overrideValue? overrides setting).or (filed setting))).getD setting.standard

/-! ## Updates -/

/-- The last of the values that a list gives a setting. -/
def lastOf (values : List (Setting × Value)) (setting : Setting) : Option Value :=
  (values.filter fun entry => entry.1 = setting).getLast?.map Prod.snd

theorem lastOf_cons
    (entry : Setting × Value) (rest : List (Setting × Value)) (setting : Setting) :
    lastOf (entry :: rest) setting =
      (lastOf rest setting).or (if entry.1 = setting then some entry.2 else none) := by
  unfold lastOf
  rw [List.filter_cons]
  by_cases same : entry.1 = setting
  · rw [if_pos (decide_eq_true same), if_pos same, List.getLast?_cons]
    cases (rest.filter fun entry => entry.1 = setting).getLast? <;> rfl
  · rw [if_neg (by rwa [decide_eq_true_iff]), if_neg same]
    cases (rest.filter fun entry => entry.1 = setting).getLast? <;> rfl

theorem value_updateAll
    (settings : Settings) (values : List (Setting × Value)) (setting : Setting) :
    (settings.updateAll values).value setting =
      (lastOf values setting).getD (settings.value setting) := by
  induction values generalizing settings with
  | nil => rfl
  | cons entry rest inductionHypothesis =>
      change ((settings.update entry.1 entry.2).updateAll rest).value setting = _
      rw [inductionHypothesis, lastOf_cons, value_update]
      cases lastOf rest setting with
      | some value => rfl
      | none =>
          by_cases same : entry.1 = setting
          · rw [if_pos same.symm, if_pos same]
            rfl
          · rw [if_neg (Ne.symm same), if_neg same]
            rfl

theorem value_override
    (settings : Settings) (source : String) (values : List (Setting × Value)) (setting : Setting) :
    (settings.override source values).1.value setting =
      (lastOf values setting).getD (settings.value setting) := by
  unfold override
  cases values with
  | nil => rfl
  | cons entry rest => exact value_updateAll settings _ setting

/-! ## The environment -/

theorem readVariable_value (environment : Environment) (entry : String × Setting) :
    (readVariable environment entry).1 =
      (environment.lookup entry.1).bind fun source =>
        (Setting.readVariable entry.2.kind source).toOption.map (entry.2, ·) := by
  unfold readVariable
  cases environment.lookup entry.1 with
  | none => rfl
  | some source =>
      dsimp only [Option.bind]
      cases Setting.readVariable entry.2.kind source <;> rfl

/-- At most one of several variables is about a setting. -/
theorem lastOf_readVariables
    (environment : Environment) {names : List (String × Setting)}
    (distinct : (names.map Prod.snd).Nodup) (setting : Setting) :
    lastOf ((names.map (readVariable environment)).filterMap Prod.fst) setting =
      (names.find? fun entry => entry.2 = setting).bind fun entry =>
        (environment.lookup entry.1).bind fun source =>
          (Setting.readVariable setting.kind source).toOption := by
  induction names with
  | nil => rfl
  | cons entry rest inductionHypothesis =>
      obtain ⟨name, named⟩ := entry
      rw [List.map_cons, List.nodup_cons] at distinct
      obtain ⟨fresh, restDistinct⟩ := distinct
      rw [List.map_cons, List.filterMap_cons, readVariable_value, List.find?_cons]
      by_cases same : named = setting
      · subst same
        have restNone :
            lastOf ((rest.map (readVariable environment)).filterMap Prod.fst) named = none := by
          rw [inductionHypothesis restDistinct]
          have absent : (rest.find? fun entry => entry.2 = named) = none := by
            refine List.find?_eq_none.mpr fun other member => ?_
            rw [decide_eq_true_iff]
            rintro rfl
            exact fresh (List.mem_map.mpr ⟨other, member, rfl⟩)
          rw [absent]
          rfl
        rw [decide_eq_true rfl]
        dsimp only [Option.bind]
        cases environment.lookup name with
        | none => exact restNone
        | some source =>
            dsimp only
            cases Setting.readVariable named.kind source with
            | error fault => exact restNone
            | ok value =>
                dsimp only [Except.toOption, Option.map]
                rw [lastOf_cons, restNone, if_pos rfl]
                rfl
      · rw [decide_eq_false same]
        dsimp only
        rw [← inductionHypothesis restDistinct]
        dsimp only [Option.bind]
        cases environment.lookup name with
        | none => rfl
        | some source =>
            dsimp only
            cases Setting.readVariable named.kind source with
            | error fault => rfl
            | ok value =>
                dsimp only [Except.toOption, Option.map]
                rw [lastOf_cons, if_neg same]
                cases lastOf _ setting <;> rfl

theorem lastOf_environmentOverrides (environment : Environment) (setting : Setting) :
    lastOf (environmentOverrides environment).1 setting =
      environmentValue? environment setting :=
  lastOf_readVariables environment (by decide) setting

@[simp] theorem ownNames_nil : Environment.ownNames [] = [] := List.mergeSort_nil

/-- Where no variable of the program is set, the environment says nothing about a setting. -/
theorem environmentValue?_of_silent
    {environment : Environment} (silent : environment.ownNames = []) (setting : Setting) :
    environmentValue? environment setting = none := by
  have unmarked : ∀ name ∈ environment.map Prod.fst,
      ¬ Environment.mark.isPrefixOf name.toList = true := by
    rw [← List.filter_eq_nil_iff]
    exact List.eq_nil_of_length_eq_zero
      ((List.length_mergeSort _).symm.trans (congrArg List.length silent))
  have marked : ∀ entry ∈ Setting.environmentNames,
      Environment.mark.isPrefixOf entry.1.toList = true := by decide +kernel
  unfold environmentValue?
  cases found : Setting.environmentNames.find? fun entry => entry.2 = setting with
  | none => rfl
  | some entry =>
      have unset : environment.lookup entry.1 = none := by
        refine List.lookup_eq_none_iff.mpr fun given member => ?_
        rw [bne_iff_ne]
        intro same
        refine unmarked given.1 (List.mem_map_of_mem member) ?_
        rw [← same]
        exact marked entry (List.mem_of_find?_eq_some found)
      rw [Option.bind_some, unset]
      rfl

/-! ## Overrides -/

theorem ofName?_eq_some_iff {name : String} {setting : Setting} :
    Setting.ofName? name = some setting ↔ setting.name = name := by
  constructor
  · intro found
    rw [Setting.ofName?] at found
    simpa using List.find?_some found
  · rintro rfl
    exact Setting.ofName?_name setting

theorem namedOverrides_eq (overrides : Entries) :
    namedOverrides overrides = overrides.filterMap fun entry =>
      (Setting.ofName? entry.1).bind fun setting => entry.2.given?.map (setting, ·) := by
  refine List.filterMap_congr fun entry _ => ?_
  obtain ⟨name, value⟩ := entry
  dsimp only
  cases Setting.ofName? name <;> cases value <;> rfl

theorem overrideValue?_cons (name : String) (value : Value) (rest : Entries) (setting : Setting) :
    overrideValue? ((name, value) :: rest) setting =
      (overrideValue? rest setting).or (if name = setting.name then value.given? else none) := by
  unfold overrideValue?
  rw [List.filterMap_cons]
  dsimp only
  cases (if name = setting.name then value.given? else none) with
  | none => cases List.getLast? _ <;> rfl
  | some kept =>
      dsimp only
      rw [List.getLast?_cons]
      cases List.getLast? _ <;> rfl

theorem lastOf_namedOverrides (overrides : Entries) (setting : Setting) :
    lastOf (namedOverrides overrides) setting = overrideValue? overrides setting := by
  rw [namedOverrides_eq]
  induction overrides with
  | nil => rfl
  | cons entry rest inductionHypothesis =>
      obtain ⟨name, value⟩ := entry
      rw [overrideValue?_cons, ← inductionHypothesis, List.filterMap_cons]
      dsimp only
      cases found : Setting.ofName? name with
      | none =>
          have other : name ≠ setting.name := by
            rintro rfl
            cases (Setting.ofName?_name setting).symm.trans found
          rw [if_neg other, Option.or_none]
          rfl
      | some named =>
          have sameIff : named = setting ↔ name = setting.name := by
            rw [← ofName?_eq_some_iff.mp found]
            exact ⟨congrArg Setting.name, fun same =>
              Option.some.inj ((Setting.ofName?_name named).symm.trans
                (ofName?_eq_some_iff.mpr same.symm))⟩
          cases value.given? with
          | none =>
              rw [ite_self, Option.or_none]
              rfl
          | some kept =>
              dsimp only [Option.bind, Option.map]
              rw [lastOf_cons, if_congr sameIff rfl rfl]

/-! ## The file -/

theorem name_eq_name_iff {setting other : Setting} :
    setting.name = other.name ↔ setting = other := by
  refine ⟨fun same => ?_, congrArg Setting.name⟩
  exact Option.some.inj ((Setting.ofName?_name setting).symm.trans
    (ofName?_eq_some_iff.mpr same.symm))

theorem valueOf?_eq_none {entries : Entries} {name : String}
    (absent : name ∉ entries.map Prod.fst) : entries.valueOf? name = none := by
  refine List.lookup_eq_none_iff.mpr fun entry member => ?_
  rw [bne_iff_ne]
  rintro rfl
  exact absent (List.mem_map_of_mem member)

theorem valueOf?_without (entries : Entries) (name other : String) :
    (entries.without name).valueOf? other =
      if other = name then none else entries.valueOf? other := by
  induction entries with
  | nil => exact (ite_self _).symm
  | cons entry rest inductionHypothesis =>
      obtain ⟨key, value⟩ := entry
      unfold Entries.without at inductionHypothesis ⊢
      rw [List.filter_cons, Entries.valueOf?_cons]
      by_cases dropped : key = name
      · rw [if_neg (by rw [decide_eq_true_iff]; exact not_not_intro dropped),
          inductionHypothesis, dropped]
        by_cases same : other = name
        · rw [if_pos same, if_pos same]
        · rw [if_neg same, if_neg same, if_neg same]
      · rw [if_pos (decide_eq_true dropped), Entries.valueOf?_cons, inductionHypothesis]
        by_cases same : other = key
        · subst same
          rw [if_pos rfl, if_neg dropped, if_pos rfl]
        · rw [if_neg same, if_neg same]

/-- At most one of several entries of different names is about a setting. -/
theorem lastOf_named
    {entries : Entries} (names : (entries.map Prod.fst).Nodup) (setting : Setting) :
    lastOf (entries.filterMap fun entry =>
        (Setting.ofName? entry.1).map fun setting => (setting, entry.2)) setting =
      entries.valueOf? setting.name := by
  induction entries with
  | nil => rfl
  | cons entry rest inductionHypothesis =>
      obtain ⟨name, value⟩ := entry
      rw [List.map_cons, List.nodup_cons] at names
      obtain ⟨fresh, restNames⟩ := names
      rw [List.filterMap_cons, Entries.valueOf?_cons, ← inductionHypothesis restNames]
      dsimp only
      cases found : Setting.ofName? name with
      | none =>
          rw [if_neg]
          · rfl
          · rintro rfl
            cases (Setting.ofName?_name setting).symm.trans found
      | some named =>
          have nameOf := ofName?_eq_some_iff.mp found
          subst nameOf
          rw [if_congr (name_eq_name_iff.trans eq_comm) rfl rfl]
          dsimp only [Option.map_some]
          rw [lastOf_cons]
          by_cases same : named = setting
          · subst same
            rw [if_pos rfl, if_pos rfl, inductionHypothesis restNames, valueOf?_eq_none fresh]
            rfl
          · rw [if_neg same, if_neg same, Option.or_none]

/-- A stated setting has the value of its entry, except for the key. -/
theorem value_statedSettings
    {entries : Entries} (names : (entries.map Prod.fst).Nodup) (setting : Setting) :
    (SettingsStore.statedSettings entries).value setting =
      ((if setting = .apiKey then none else entries.valueOf? setting.name).getD
        setting.standard) := by
  have restNames : ((entries.without Setting.apiKey.name).map Prod.fst).Nodup :=
    names.sublist (List.filter_sublist.map _)
  rw [SettingsStore.statedSettings, value_updateAll, lastOf_named restNames, valueOf?_without,
    if_congr name_eq_name_iff rfl rfl]
  rfl

/-! ## All layers -/

/-- The environment comes before the command line, and this before what was there. -/
theorem value_override_layers
    (settings : Settings) (environment : Environment) (overrides : Entries) (setting : Setting) :
    ((settings.override "CLI" (namedOverrides overrides)).1.overrideByEnvironment
        environment).1.value setting =
      ((environmentValue? environment setting).or (overrideValue? overrides setting)).getD
        (settings.value setting) := by
  unfold overrideByEnvironment
  dsimp only
  rw [value_override, value_override, lastOf_environmentOverrides, lastOf_namedOverrides]
  cases environmentValue? environment setting <;> rfl

end Settings

end QuoteDesk
