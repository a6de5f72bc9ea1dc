import FieldOrder.Config.Basic
import FieldOrder.Proofs.Distinct
import FieldOrder.Proofs.Rule.Binding
import Mathlib.Data.List.Sort

namespace FieldOrder

namespace RuleKind

theorem ofName_eq_ok {name : String} {k : RuleKind} : ofName name = .ok k ↔ k.name = name := by
  constructor
  · intro found
    rw [ofName] at found
    split at found
    · next first =>
      cases found
      exact eq_of_beq (List.find?_some (p := fun k => RuleKind.name k == name) first)
    · cases found
  · rintro rfl
    cases k <;> rfl

end RuleKind

theorem RuleSetting.exists_entries (s : RuleSetting) : ∃ entries, s.toOptions = .map entries := by
  cases s <;> exact ⟨_, rfl⟩

namespace Config

/-- The options that a configuration gives to a rule: all of them are from its entry, or all from
the preset. -/
def options? (c : Config) (name : String) : Option Value :=
  ((c.rules.lookup name).map (·.toOptions)).or ((presetRules c.preset).lookup name)

/-- No rule has two entries, and the keys of options are texts. -/
structure Proper (c : Config) : Prop where
  distinct : (c.rules.map (·.1)).Nodup
  keys : ∀ name entries, (name, .options entries) ∈ c.rules → ∀ e ∈ entries, ∃ key, e.1 = .str key

/-- Each expression that a rule is given compiles, or what is wrong with it is told. -/
def PatternsTold (c : Config) : Prop :=
  ∀ k options l, c.options? (RuleKind.name k) = some options →
    k.schema.load (rulePath k.name) options = .ok l → (RuleOptions.ofLoaded l).PatternsTold

/-- Do options say that their rule is off? -/
def SaysOff (options : Value) : Prop := options.get? "severity" = some (.str "off")

/-- There is a rule of that name, and it can be bound to the options. -/
def Valid (locales : Locales) (name : String) (options : Value) : Prop :=
  ∃ k : RuleKind, k.name = name ∧ k.Takes locales options

/-- The configuration with another entry for one rule. -/
def withRule (c : Config) (name : String) (setting : RuleSetting) : Config :=
  { c with rules := putEntry (· == ·) name setting c.rules }

/-- The options of all rules that are listed, by name. -/
def sortedSettings (c : Config) : List (String × Value) := c.settings.mergeSort fun a b => a.1 ≤ b.1

/-- Binds one rule to its options. -/
def bindSetting (locales : Locales) (setting : String × Value) :
    Except ConfigFailure BoundRule := do
  let kind ← (RuleKind.ofName setting.1).mapError .config
  kind.bind locales setting.2

theorem activeRules_eq (locales : Locales) (c : Config) : c.activeRules locales =
    (c.sortedSettings.mapM (bindSetting locales)).map (List.filter (·.severity != .off)) := by
  rw [activeRules]
  change (c.sortedSettings.mapM (bindSetting locales) >>= _) = _
  cases c.sortedSettings.mapM (bindSetting locales) <;> rfl

section
variable {locales : Locales} {c : Config} {name : String} {options : Value}

theorem presetRules_distinct (preset : String) : ((presetRules preset).map (·.1)).Nodup := by
  rw [presetRules]
  split
  · decide
  · split
    · have names : Registry.builtIn.names.Nodup :=
        (List.mergeSort_perm _ _).nodup_iff.mpr (by decide)
      simpa [Function.comp_def] using names
    · exact .nil

theorem exists_entries_of_preset {preset : String} (mem : (name, options) ∈ presetRules preset) :
    ∃ entries, options = .map entries ∧ ∀ e ∈ entries, ∃ key, e.1 = .str key := by
  rw [presetRules] at mem
  split at mem
  · obtain ⟨-, rfl⟩ | ⟨-, rfl⟩ :
        (_ ∧ options = recommendedOptions) ∨ (_ ∧ options = recommendedOptions) := by
      simpa using mem
    all_goals exact ⟨_, rfl, by simp⟩
  · split at mem
    · obtain ⟨_, -, same⟩ := List.mem_map.mp mem
      cases same
      exact ⟨_, rfl, by simp⟩
    · cases mem

theorem settings_eq (c : Config) : c.settings = putEntries (· == ·) (presetRules c.preset)
    (c.rules.map fun e => (e.1, e.2.toOptions)) := by
  rw [settings, putEntries, List.foldl_map]

theorem settings_distinct (c : Config) : (c.settings.map (·.1)).Nodup := by
  rw [settings_eq]
  exact nodup_putEntries (presetRules_distinct c.preset) _

/-- An entry takes the place of the preset's as a whole. -/
theorem mem_settings_iff (distinct : (c.rules.map (·.1)).Nodup) :
    (name, options) ∈ c.settings ↔ c.options? name = some options := by
  have keys : ((c.rules.map fun e => (e.1, e.2.toOptions)).map (·.1)).Nodup := by
    rwa [List.map_map]
  rw [← lookup_eq_some_iff_mem (settings_distinct c), settings_eq, lookup_putEntries keys,
    lookup_map_snd]
  rfl

theorem mem_sortedSettings_iff (distinct : (c.rules.map (·.1)).Nodup) :
    (name, options) ∈ c.sortedSettings ↔ c.options? name = some options := by
  rw [sortedSettings, List.mem_mergeSort, mem_settings_iff distinct]

theorem sortedSettings_pairwise (c : Config) : c.sortedSettings.Pairwise fun a b => a.1 < b.1 := by
  have ordered : c.sortedSettings.Pairwise fun a b => decide (a.1 ≤ b.1) = true :=
    List.pairwise_mergeSort (fun a b d => by simpa using String.le_trans)
      (fun a b => by simpa using String.le_total a.1 b.1) c.settings
  have distinct : c.sortedSettings.Pairwise fun a b => a.1 ≠ b.1 := by
    have names := (List.mergeSort_perm c.settings fun a b => decide (a.1 ≤ b.1)).map (·.1)
    exact List.pairwise_map.mp (names.nodup_iff.mpr (settings_distinct c))
  exact ordered.imp₂ (fun a b le => Std.lt_of_le_of_ne (of_decide_eq_true le)) distinct

theorem exists_entries_of_options (proper : c.Proper) (given : c.options? name = some options) :
    ∃ entries, options = .map entries ∧ ∀ e ∈ entries, ∃ key, e.1 = .str key := by
  rcases Option.or_eq_some_iff.mp given with own | ⟨-, preset⟩
  · obtain ⟨setting, found, rfl⟩ := Option.map_eq_some_iff.mp own
    cases setting with
    | unset => exact ⟨_, rfl, nofun⟩
    | severity word => exact ⟨_, rfl, by simp⟩
    | options entries =>
      exact ⟨_, rfl, proper.keys name entries ((lookup_eq_some_iff_mem proper.distinct).mp found)⟩
  · exact exists_entries_of_preset
      ((lookup_eq_some_iff_mem (presetRules_distinct c.preset)).mp preset)

section
variable {r : BoundRule}

theorem bindSetting_eq_ok : bindSetting locales (name, options) = .ok r ↔
    r.name = name ∧ r.kind.bind locales options = .ok r := by
  simp only [bindSetting, bind_eq_ok, mapError_eq_ok, RuleKind.ofName_eq_ok]
  constructor
  · rintro ⟨k, rfl, bound⟩
    obtain rfl := RuleKind.kind_of_bind bound
    exact ⟨rfl, bound⟩
  · rintro ⟨rfl, bound⟩
    exact ⟨r.kind, rfl, bound⟩

/-- A setting is bound exactly if it is valid. -/
theorem exists_bindSetting_iff {entries : List (Value × Value)} :
    (∃ r, bindSetting locales (name, .map entries) = .ok r) ↔
      Valid locales name (.map entries) := by
  simp only [bindSetting, bind_eq_ok, mapError_eq_ok, RuleKind.ofName_eq_ok, Valid,
    ← RuleKind.exists_bind_iff]
  constructor
  · rintro ⟨r, k, named, bound⟩
    exact ⟨k, named, r, bound⟩
  · rintro ⟨k, named, r, bound⟩
    exact ⟨r, k, named, bound⟩

end

section
variable (proper : c.Proper)
include proper

theorem exists_bind_of_options (given : c.options? name = some options) :
    (∃ r, bindSetting locales (name, options) = .ok r) ↔ Valid locales name options := by
  obtain ⟨entries, rfl, -⟩ := exists_entries_of_options proper given
  exact exists_bindSetting_iff

theorem bindSetting_eq_error {failure : ConfigFailure} (patterns : c.PatternsTold)
    (given : c.options? name = some options)
    (h : bindSetting locales (name, options) = .error failure) :
    (∃ e, failure = .config e) ∨ failure = .load .unshowable ∧ options.isShowable = false := by
  obtain ⟨entries, rfl, texts⟩ := exists_entries_of_options proper given
  simp only [bindSetting, bind_eq_error, mapError_eq_error, mapError_eq_ok,
    RuleKind.ofName_eq_ok] at h
  rcases h with ⟨e, -, rfl⟩ | ⟨k, rfl, unbound⟩
  · exact .inl ⟨e, rfl⟩
  · exact RuleKind.bind_eq_error texts (fun l loaded => patterns k _ l given loaded) unbound

variable {active : List BoundRule} (h : c.activeRules locales = .ok active)
include h

/-- What is in force is bound from the options of its name, and these do not say that it is off. -/
theorem mem_activeRules_iff {r : BoundRule} :
    r ∈ active ↔ ∃ options, c.options? r.name = some options ∧ ¬ SaysOff options ∧
      r.kind.bind locales options = .ok r := by
  rw [activeRules_eq, map_eq_ok] at h
  obtain ⟨bound, steps, rfl⟩ := h
  have each := forall₂_of_mapM_eq_ok steps
  rw [List.mem_filter, bne_iff_ne]
  constructor
  · rintro ⟨mem, on⟩
    obtain ⟨⟨name, options⟩, listed, step⟩ := exists_rel_of_mem_right each mem
    have given := (mem_sortedSettings_iff proper.distinct).mp listed
    obtain ⟨entries, rfl, -⟩ := exists_entries_of_options proper given
    obtain ⟨rfl, eq⟩ := bindSetting_eq_ok.mp step
    exact ⟨_, given, fun off => on ((RuleKind.severity_eq_off_iff eq).mpr off), eq⟩
  · rintro ⟨options, given, on, eq⟩
    obtain ⟨entries, rfl, -⟩ := exists_entries_of_options proper given
    have listed := (mem_sortedSettings_iff proper.distinct).mpr given
    obtain ⟨s, mem, step⟩ := exists_rel_of_mem_left each listed
    rw [bindSetting_eq_ok.mpr ⟨rfl, eq⟩] at step
    cases step
    exact ⟨mem, fun off => on ((RuleKind.severity_eq_off_iff eq).mp off)⟩

omit proper in
theorem activeRules_pairwise : (active.map (·.name)).Pairwise (· < ·) := by
  rw [activeRules_eq, map_eq_ok] at h
  obtain ⟨bound, steps, rfl⟩ := h
  have names : bound.map (·.name) = c.sortedSettings.map (·.1) := by
    rw [← List.forall₂_eq_eq_eq, List.forall₂_map_left_iff, List.forall₂_map_right_iff]
    exact (forall₂_of_mapM_eq_ok steps).flip.imp fun r s step => (bindSetting_eq_ok.mp step).1
  have ordered : (bound.map (·.name)).Pairwise (· < ·) := by
    rw [names]
    exact List.pairwise_map.mpr (sortedSettings_pairwise c)
  exact List.pairwise_map.mpr ((List.pairwise_map.mp ordered).filter _)

theorem exists_active_iff : (∃ r ∈ active, r.name = name) ↔
    ∃ options, c.options? name = some options ∧ ¬ SaysOff options := by
  constructor
  · rintro ⟨r, mem, rfl⟩
    obtain ⟨options, given, on, -⟩ := (mem_activeRules_iff proper h).mp mem
    exact ⟨options, given, on⟩
  · rintro ⟨options, given, on⟩
    have bound := h
    rw [activeRules_eq, map_eq_ok] at bound
    obtain ⟨bound, steps, -⟩ := bound
    have listed := (mem_sortedSettings_iff proper.distinct).mpr given
    obtain ⟨r, -, step⟩ := exists_rel_of_mem_left (forall₂_of_mapM_eq_ok steps) listed
    obtain ⟨rfl, eq⟩ := bindSetting_eq_ok.mp step
    exact ⟨r, (mem_activeRules_iff proper h).mpr ⟨options, given, on, eq⟩, rfl⟩

end

/-- Activation succeeds if every entry is valid. If one is not, the fault is reported, where it can
be told. -/
theorem activeRules_cases (proper : c.Proper) (patterns : c.PatternsTold) :
    ((∃ active, c.activeRules locales = .ok active) ∧
      ∀ name options, c.options? name = some options → Valid locales name options) ∨
    ∃ failure, c.activeRules locales = .error failure ∧
      ((∃ e, failure = .config e) ∨ failure = .load .unshowable ∧
        ∃ name options, c.options? name = some options ∧ options.isShowable = false) ∧
      ∃ name options, c.options? name = some options ∧ ¬ Valid locales name options := by
  rw [activeRules_eq]
  cases bound : c.sortedSettings.mapM (bindSetting locales) with
  | ok rules =>
    refine .inl ⟨⟨_, rfl⟩, fun name options given => ?_⟩
    have listed := (mem_sortedSettings_iff proper.distinct).mpr given
    obtain ⟨r, -, step⟩ := exists_rel_of_mem_left (forall₂_of_mapM_eq_ok bound) listed
    exact (exists_bind_of_options proper given).mp ⟨r, step⟩
  | error failure =>
    obtain ⟨⟨name, options⟩, listed, failed⟩ := exists_error_of_mapM bound
    have given := (mem_sortedSettings_iff proper.distinct).mp listed
    have told := bindSetting_eq_error proper patterns given failed
    refine .inr ⟨failure, rfl, told.imp_right fun ⟨untold, hidden⟩ =>
      ⟨untold, name, options, given, hidden⟩, name, options, given, fun valid => ?_⟩
    obtain ⟨r, bound⟩ := (exists_bind_of_options proper given).mpr valid
    rw [failed] at bound
    cases bound

section
variable {setting : RuleSetting}

theorem options?_withRule (other : String) : (c.withRule name setting).options? other =
    if other == name then some setting.toOptions else c.options? other := by
  rw [options?, withRule, lookup_putEntry]
  cases other == name <;> rfl

theorem withRule_distinct (distinct : (c.rules.map (·.1)).Nodup) :
    ((c.withRule name setting).rules.map (·.1)).Nodup :=
  nodup_putEntries distinct [(name, setting)]

theorem filter_sortedSettings (distinct : (c.rules.map (·.1)).Nodup) :
    (c.withRule name setting).sortedSettings.filter (·.1 != name) =
      c.sortedSettings.filter (·.1 != name) := by
  have ordered (d : Config) :
      (d.sortedSettings.filter (·.1 != name)).Pairwise fun a b => a.1 < b.1 :=
    (sortedSettings_pairwise d).filter _
  have : Std.Irrefl fun a b : String × Value => a.1 < b.1 := ⟨fun a => String.lt_irrefl a.1⟩
  have : Std.Antisymm fun a b : String × Value => a.1 < b.1 :=
    ⟨fun a b less greater => absurd greater (String.lt_asymm less)⟩
  refine (ordered _).eq_of_mem_iff (ordered _) fun ⟨other, options⟩ => ?_
  rw [List.mem_filter, List.mem_filter, mem_sortedSettings_iff (withRule_distinct distinct),
    mem_sortedSettings_iff distinct, options?_withRule]
  cases same : other == name <;> simp [bne, same]

/-- Where a rule can be bound, the other rules that are in force, or the fault that is reported, are
those of the other settings. -/
theorem filter_activeRules (distinct : (c.rules.map (·.1)).Nodup)
    (bound : ∀ options, c.options? name = some options →
      ∃ r, bindSetting locales (name, options) = .ok r) :
    (c.activeRules locales).map (List.filter (·.name != name)) =
      ((c.sortedSettings.filter (·.1 != name)).mapM (bindSetting locales)).map
        (List.filter (·.severity != .off)) := by
  have agree (s : String × Value) (r : BoundRule) (step : bindSetting locales s = .ok r) :
      (r.name != name) = (s.1 != name) := by
    rw [(bindSetting_eq_ok.mp step).1]
  have dropped : ∀ s ∈ c.sortedSettings, (s.1 != name) = false →
      ∃ r, bindSetting locales s = .ok r := by
    rintro ⟨other, options⟩ listed same
    obtain rfl : other = name := by simpa using same
    exact bound options ((mem_sortedSettings_iff distinct).mp listed)
  rw [activeRules_eq, ← mapM_filter agree dropped]
  rcases c.sortedSettings.mapM (bindSetting locales) with e | rules
  · rfl
  · exact congrArg Except.ok (List.filter_comm _ _ rules)

theorem filter_activeRules_withRule (proper : c.Proper)
    (old : ∀ options, c.options? name = some options → Valid locales name options)
    (new : Valid locales name setting.toOptions) :
    ((c.withRule name setting).activeRules locales).map (List.filter (·.name != name)) =
      (c.activeRules locales).map (List.filter (·.name != name)) := by
  rw [filter_activeRules (withRule_distinct proper.distinct),
    filter_activeRules proper.distinct, filter_sortedSettings proper.distinct]
  · intro options given
    exact (exists_bind_of_options proper given).mpr (old options given)
  · intro options given
    rw [options?_withRule, beq_self_eq_true, if_pos rfl] at given
    cases given
    obtain ⟨entries, eq⟩ := setting.exists_entries
    rw [eq] at new ⊢
    exact exists_bindSetting_iff.mpr new

end

end

/-- Rules follow the configuration entry by entry. Those in force are the rules that are listed and
not off, by name, each bound to the options of its own entry or else of the preset; and that is so
unless some listed rule is unknown or has options that it cannot take, be it off or not. Then that
is reported, or options hold a number that cannot be shown. Another valid entry for one rule changes
nothing about the others. -/
theorem activeRules_follows (locales : Locales) (c : Config) (proper : c.Proper)
    (patterns : c.PatternsTold) :
    (∀ active, c.activeRules locales = .ok active →
      (active.map (·.name)).Pairwise (· < ·) ∧
      (∀ name, (∃ r ∈ active, r.name = name) ↔
        ∃ options, c.options? name = some options ∧ ¬ SaysOff options) ∧
      ∀ r ∈ active, ∃ options, c.options? r.name = some options ∧
        r.kind.bind locales options = .ok r) ∧
    ((∃ active, c.activeRules locales = .ok active) ↔
      ∀ name options, c.options? name = some options → Valid locales name options) ∧
    ((∃ name options, c.options? name = some options ∧ ¬ Valid locales name options) →
      (∃ e, c.activeRules locales = .error (.config e)) ∨
        c.activeRules locales = .error (.load .unshowable) ∧
          ∃ name options, c.options? name = some options ∧ options.isShowable = false) ∧
    ∀ name setting, (∀ options, c.options? name = some options → Valid locales name options) →
      Valid locales name setting.toOptions →
      ((c.withRule name setting).activeRules locales).map (List.filter (·.name != name)) =
        (c.activeRules locales).map (List.filter (·.name != name)) := by
  refine ⟨fun active h => ⟨activeRules_pairwise h, fun name => exists_active_iff proper h, ?_⟩,
    ?_, ?_, fun name setting old new => filter_activeRules_withRule proper old new⟩
  · intro r mem
    obtain ⟨options, given, -, eq⟩ := (mem_activeRules_iff proper h).mp mem
    exact ⟨options, given, eq⟩
  · rcases activeRules_cases proper patterns with ⟨ok, valid⟩ |
      ⟨failure, failed, -, name, options, bad⟩
    · exact iff_of_true ok valid
    · refine iff_of_false ?_ fun valid => bad.2 (valid name options bad.1)
      rintro ⟨active, h⟩
      rw [failed] at h
      cases h
  · rintro ⟨name, options, given, invalid⟩
    rcases activeRules_cases proper patterns with ⟨-, valid⟩ | ⟨failure, failed, told, -⟩
    · exact absurd (valid name options given) invalid
    · rcases told with ⟨e, rfl⟩ | ⟨rfl, hidden⟩
      · exact .inl ⟨e, failed⟩
      · exact .inr ⟨failed, hidden⟩

def overriding : Config where
  preset := "recommended"
  extensions := []
  exclude := []
  rules := [("sort-type-properties", .severity "off"),
    ("sort-jsx-props", .options [(.str "callback_patterns", .list [.str "^on"])])]

theorem activeRules_follows_overriding :
    overriding.Proper ∧ overriding.PatternsTold ∧
      (∃ active, overriding.activeRules Locale.posix = .ok active ∧
        (∃ r ∈ active, r.name = "sort-component-props") ∧
        ¬ ∃ r ∈ active, r.name = "sort-type-properties") ∧
      ((overriding.withRule "sort-jsx-props" (.severity "error")).activeRules Locale.posix).map
          (List.filter (·.name != "sort-jsx-props")) =
        (overriding.activeRules Locale.posix).map (List.filter (·.name != "sort-jsx-props")) := by
  have proper : overriding.Proper := by
    refine ⟨by decide, fun name entries mem => ?_⟩
    obtain ⟨-, rfl⟩ : name = "sort-jsx-props" ∧
        entries = [(.str "callback_patterns", .list [.str "^on"])] := by
      simpa [overriding] using mem
    simp
  have compiled : ∀ s ∈ overriding.settings, ∀ k ∈ RuleKind.all,
      ∀ l ∈ (k.schema.load (rulePath k.name) s.2).toOption,
        ∀ sources ∈ (RuleOptions.ofLoaded l).callbackPatterns, ∀ source ∈ sources,
          (Pattern.ofString source).isOk = true := by
    decide +kernel
  have patterns : overriding.PatternsTold := by
    intro k options l given loaded sources set source mem e failed
    have listed := (mem_settings_iff proper.distinct).mpr given
    have one := compiled _ listed k (by cases k <;> decide) l (by rw [loaded]; rfl) sources set
      source mem
    rw [failed] at one
    cases one
  have bound : ∀ s ∈ overriding.settings, (bindSetting Locale.posix s).isOk = true := by
    decide +kernel
  have valid (name : String) (options : Value) (given : overriding.options? name = some options) :
      Valid Locale.posix name options := by
    have listed := (mem_settings_iff proper.distinct).mpr given
    exact (exists_bind_of_options proper given).mp (exists_eq_ok_of_isOk (bound _ listed))
  obtain ⟨inForce, active, -, others⟩ := activeRules_follows Locale.posix overriding proper patterns
  obtain ⟨active, h⟩ := active.mpr valid
  obtain ⟨-, names, -⟩ := inForce active h
  refine ⟨proper, patterns, ⟨active, h, ?_, ?_⟩, ?_⟩
  · exact (names _).mpr ⟨recommendedOptions, rfl, by simp [SaysOff, recommendedOptions, Value.get?]⟩
  · rw [names]
    rintro ⟨options, given, on⟩
    cases given
    exact on rfl
  · refine others "sort-jsx-props" (.severity "error") (valid "sort-jsx-props") ?_
    have bound : (bindSetting Locale.posix ("sort-jsx-props",
        .map [(.str "severity", .str "error")])).isOk = true := by decide +kernel
    exact exists_bindSetting_iff.mp (exists_eq_ok_of_isOk bound)

def longNumber : Nat := ((10 : Nat).pow 100).pow 50

def overlong : Config where
  preset := "none"
  extensions := []
  exclude := []
  rules := [("sort-jsx-props", .options [(.str "multiline", .int longNumber)])]

/-- Why such an option does not fit is not reported. -/
theorem activeRules_overlong :
    overlong.Proper ∧ overlong.PatternsTold ∧
      (∃ options, overlong.options? "sort-jsx-props" = some options ∧
        ¬ Valid Locale.posix "sort-jsx-props" options) ∧
      overlong.activeRules Locale.posix = .error (.load .unshowable) := by
  have settings : overlong.settings =
      [("sort-jsx-props", .map [(.str "multiline", .int longNumber)])] := by rfl
  have given (name : String) (options : Value) : overlong.options? name = some options ↔
      name = "sort-jsx-props" ∧ options = .map [(.str "multiline", .int longNumber)] := by
    rw [← mem_settings_iff (by decide), settings, List.mem_singleton, Prod.mk.injEq]
  have failed : RuleKind.jsxProps.schema.load (rulePath RuleKind.jsxProps.name)
      (.map [(.str "multiline", .int longNumber)]) = .error .unshowable := by rfl
  refine ⟨⟨by decide, ?_⟩, ?_, ⟨_, (given _ _).mpr ⟨rfl, rfl⟩, ?_⟩, ?_⟩
  · intro name entries mem
    obtain ⟨-, rfl⟩ : name = "sort-jsx-props" ∧
        entries = [(.str "multiline", .int longNumber)] := by
      simpa [overlong] using mem
    simp
  · intro k options l asked loaded
    obtain ⟨named, rfl⟩ := (given _ _).mp asked
    cases RuleKind.ofName_eq_ok.mpr named
    rw [failed] at loaded
    cases loaded
  · rintro ⟨k, named, l, loaded, -⟩
    cases RuleKind.ofName_eq_ok.mpr named
    rw [failed] at loaded
    cases loaded
  · rw [activeRules_eq, sortedSettings, settings, List.mergeSort_singleton]
    rfl

end Config

end FieldOrder
