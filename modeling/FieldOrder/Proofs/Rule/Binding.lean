import FieldOrder.Proofs.Schema.Inhabits
import FieldOrder.Rule.Registry

namespace FieldOrder

open Schema

/-- No two of the options exclude each other, and all expressions compile. -/
structure RuleOptions.Consistent (o : RuleOptions) : Prop where
  alphabetical : o.alphabetical = none ∨ o.notAlphabetical = none
  precedence : ∀ stages ∈ o.precedence, stages.Nodup
  callbacks : o.callbackPrefixes = none ∨ o.callbackPatterns = none
  patterns : ∀ sources ∈ o.callbackPatterns, ∀ source ∈ sources,
    ∃ p, Pattern.ofString source = .ok p

/-- Each expression compiles, or what is wrong with it is told. -/
def RuleOptions.PatternsTold (o : RuleOptions) : Prop :=
  ∀ sources ∈ o.callbackPatterns, ∀ source ∈ sources, ∀ e, Pattern.ofString source = .error e →
    ∃ fault text position, e = .invalid fault text position

/-- The platform has the locale that is asked for. -/
def TagOptions.Consistent (locales : Locales) (t : TagOptions) : Prop :=
  ∀ name ∈ t.locale, name = "" ∨ ∃ found, Locale.find locales name = .ok found

theorem Classifier.exists_withPatterns_iff {reserved sources : List String} :
    (∃ c, withPatterns reserved sources = .ok c) ↔
      ∀ source ∈ sources, ∃ p, Pattern.ofString source = .ok p := by
  simp only [withPatterns, bind_eq_ok, pure_eq_ok]
  constructor
  · rintro ⟨_, patterns, compiled, -⟩ source mem
    obtain ⟨p, -, eq⟩ := exists_rel_of_mem_left (forall₂_of_mapM_eq_ok compiled) mem
    exact ⟨p, eq⟩
  · intro each
    obtain ⟨patterns, compiled, -⟩ := exists_mapM_eq_ok (R := fun _ _ => True)
      fun source mem => (each source mem).imp fun _ eq => ⟨eq, trivial⟩
    exact ⟨_, patterns, compiled, rfl⟩

namespace RuleKind

/-- Options that the rule can be bound to. -/
def Takes (locales : Locales) (k : RuleKind) (options : Value) : Prop :=
  ∃ l, k.schema.load (rulePath k.name) options = .ok l ∧ (RuleOptions.ofLoaded l).Consistent ∧
    ∀ t ∈ k.tagOptions? l, t.Consistent locales

section
variable {locales : Locales} {k : RuleKind} {o : RuleOptions} {tag : Option TagOptions}

theorem exists_alphabetical_iff :
    (∃ b, k.alphabetical o = .ok b) ↔ o.alphabetical = none ∨ o.notAlphabetical = none := by
  rw [alphabetical]
  cases o.alphabetical <;> cases o.notAlphabetical <;> simp

theorem exists_precedence_iff :
    (∃ stages, k.precedence o = .ok stages) ↔ ∀ stages ∈ o.precedence, stages.Nodup := by
  rw [precedence]
  cases o.precedence with
  | none => simp
  | some stages =>
    by_cases once : stages.Nodup <;> simp [Stage.complete, once, Except.mapError]

theorem exists_collator_iff :
    (∃ c, k.collator locales tag = .ok c) ↔ ∀ t ∈ tag, t.Consistent locales := by
  cases tag with
  | none => simp [collator]
  | some t =>
    simp only [collator, mapError_eq_ok, Collator.ofOptions, TagOptions.Consistent, Option.mem_def,
      Option.some_inj, forall_eq']
    cases t.locale with
    | none => simp
    | some name =>
      by_cases empty : name = ""
      · simp [empty]
      · have nonempty : name.isEmpty = false := by simpa using empty
        simp [nonempty, empty, map_eq_ok]

theorem compile_defaults (k : RuleKind) : ∀ sources ∈ k.defaults.callbackPatterns,
    ∀ source ∈ sources, ∃ p, Pattern.ofString source = .ok p := by
  have compiled : ∀ sources ∈ k.defaults.callbackPatterns, ∀ source ∈ sources,
      (Pattern.ofString source).isOk = true := by
    cases k <;> decide +kernel
  intro sources default source mem
  exact exists_eq_ok_of_isOk (compiled sources default source mem)

/-- What is wrong with an expression is a fault of the configuration, where it is told. -/
def patternFailure (k : RuleKind) : Pattern.Error → ConfigFailure
  | .invalid fault text position => .config (.pattern k.name (.invalid fault text position))
  | e => .pattern e

/-- Without prefixes the classifier looks for the expressions that are set, else for those of the
rule. -/
theorem classifier_of_patterns {sources : List String} (noPrefixes : o.callbackPrefixes = none)
    (inForce : o.callbackPatterns.or k.defaults.callbackPatterns = some sources) :
    k.classifier o = (Classifier.withPatterns (o.reservedNames.getD k.defaults.reservedNames)
      sources).mapError k.patternFailure := by
  simp only [classifier, noPrefixes, inForce]
  cases Classifier.withPatterns (o.reservedNames.getD k.defaults.reservedNames) sources with
  | ok c => rfl
  | error e => cases e <;> rfl

theorem exists_classifier_iff : (∃ c, k.classifier o = .ok c) ↔
    (o.callbackPrefixes = none ∨ o.callbackPatterns = none) ∧
      ∀ sources ∈ o.callbackPatterns, ∀ source ∈ sources, ∃ p, Pattern.ofString source = .ok p := by
  cases words : o.callbackPrefixes with
  | some prefixes => cases patterns : o.callbackPatterns <;> simp [classifier, words, patterns]
  | none =>
    cases inForce : o.callbackPatterns.or k.defaults.callbackPatterns with
    | none =>
      obtain ⟨unset, noDefault⟩ := Option.or_eq_none_iff.mp inForce
      simp [classifier, words, unset, noDefault]
    | some sources =>
      rw [classifier_of_patterns words inForce]
      simp only [mapError_eq_ok, Classifier.exists_withPatterns_iff, true_or, true_and]
      rcases Option.or_eq_some_iff.mp inForce with set | ⟨unset, default⟩
      · simp [set]
      · simpa [unset] using compile_defaults k sources default

theorem classifier_eq_error {failure : ConfigFailure} (patterns : o.PatternsTold)
    (h : k.classifier o = .error failure) : ∃ e, failure = .config e := by
  cases words : o.callbackPrefixes with
  | some prefixes =>
    cases set : o.callbackPatterns with
    | some sources =>
      simp only [classifier, words, set] at h
      cases h
      exact ⟨_, rfl⟩
    | none => simp [classifier, words, set] at h
  | none =>
    cases inForce : o.callbackPatterns.or k.defaults.callbackPatterns with
    | none => simp [classifier, words, inForce] at h
    | some sources =>
      rw [classifier_of_patterns words inForce, mapError_eq_error] at h
      obtain ⟨cause, failed, rfl⟩ := h
      simp only [Classifier.withPatterns, bind_eq_error, pure_ne_error, and_false, exists_false,
        or_false] at failed
      obtain ⟨source, mem, failed⟩ := exists_error_of_mapM failed
      rcases Option.or_eq_some_iff.mp inForce with set | ⟨-, default⟩
      · obtain ⟨fault, text, position, rfl⟩ := patterns sources set source mem cause failed
        exact ⟨_, rfl⟩
      · obtain ⟨p, compiled⟩ := compile_defaults k sources default source mem
        rw [compiled] at failed
        cases failed

theorem exists_basePolicy_iff : (∃ p, k.basePolicy o = .ok p) ↔ o.Consistent := by
  simp only [basePolicy, bind_eq_ok, mapError_eq_ok]
  constructor
  · rintro ⟨p, b, alphabetical, stages, precedence, c, classifier, -⟩
    obtain ⟨callbacks, patterns⟩ := exists_classifier_iff.mp ⟨c, classifier⟩
    exact ⟨exists_alphabetical_iff.mp ⟨b, alphabetical⟩,
      exists_precedence_iff.mp ⟨stages, precedence⟩, callbacks, patterns⟩
  · intro consistent
    obtain ⟨b, alphabetical⟩ := (exists_alphabetical_iff (k := k)).mpr consistent.alphabetical
    obtain ⟨stages, precedence⟩ := (exists_precedence_iff (k := k)).mpr consistent.precedence
    obtain ⟨c, classifier⟩ :=
      (exists_classifier_iff (k := k)).mpr ⟨consistent.callbacks, consistent.patterns⟩
    exact ⟨_, b, alphabetical, stages, precedence, c, classifier, rfl⟩

theorem exists_policy_iff : (∃ p, k.policy locales o tag = .ok p) ↔
    o.Consistent ∧ ∀ t ∈ tag, t.Consistent locales := by
  simp only [policy, bind_eq_ok, mapError_eq_ok, ← exists_basePolicy_iff (k := k),
    ← exists_collator_iff (k := k)]
  constructor
  · rintro ⟨p, base, ordered, collator, found, -⟩
    exact ⟨⟨base, ordered⟩, collator, found⟩
  · rintro ⟨⟨base, ordered⟩, collator, found⟩
    exact ⟨_, base, ordered, collator, found, rfl⟩

theorem policy_eq_error {failure : ConfigFailure} (patterns : o.PatternsTold)
    (h : k.policy locales o tag = .error failure) : ∃ e, failure = .config e := by
  simp only [policy, basePolicy, bind_eq_error, mapError_eq_error, pure_ne_error, and_false,
    exists_false, or_false] at h
  rcases h with (⟨e, -, rfl⟩ | ⟨_, -, ⟨e, -, rfl⟩ | ⟨_, -, unclassified⟩⟩) | ⟨_, -, e, -, rfl⟩
  · exact ⟨e, rfl⟩
  · exact ⟨e, rfl⟩
  · exact classifier_eq_error patterns unclassified
  · exact ⟨e, rfl⟩

end

section
variable {locales : Locales} {k : RuleKind} {l : Loaded} {entries : List (Value × Value)}
  {r : BoundRule}

theorem bind_map (k : RuleKind) (entries : List (Value × Value)) :
    k.bind locales (.map entries) =
      (k.schema.load (rulePath k.name) (.map entries)).mapError .ofLoad >>= k.bindLoaded locales :=
  rfl

theorem bindLoaded_eq_ok (h : k.bindLoaded locales l = .ok r) :
    k.policy locales (.ofLoaded l) (k.tagOptions? l) = .ok r.policy ∧ r.kind = k ∧
      r.options = .ofLoaded l ∧ r.tagOptions = k.tagOptions? l := by
  unfold bindLoaded at h
  split at h
  · cases h
  next policy made =>
    cases h
    exact ⟨made, rfl, rfl, rfl⟩

theorem exists_bindLoaded_iff : (∃ r, k.bindLoaded locales l = .ok r) ↔
    (RuleOptions.ofLoaded l).Consistent ∧ ∀ t ∈ k.tagOptions? l, t.Consistent locales := by
  rw [← exists_policy_iff (k := k)]
  constructor
  · rintro ⟨r, bound⟩
    exact ⟨_, (bindLoaded_eq_ok bound).1⟩
  · rintro ⟨p, made⟩
    unfold bindLoaded
    split
    next failed =>
      rw [made] at failed
      cases failed
    next => exact ⟨_, rfl⟩

theorem bindLoaded_eq_error {failure : ConfigFailure}
    (h : k.bindLoaded locales l = .error failure) :
    k.policy locales (.ofLoaded l) (k.tagOptions? l) = .error failure := by
  unfold bindLoaded at h
  split at h
  next failed =>
    cases h
    exact failed
  next => cases h

theorem exists_bind_iff :
    (∃ r, k.bind locales (.map entries) = .ok r) ↔ k.Takes locales (.map entries) := by
  simp only [bind_map, bind_eq_ok, mapError_eq_ok, Takes, ← exists_bindLoaded_iff]
  constructor
  · rintro ⟨r, l, loaded, bound⟩
    exact ⟨l, loaded, r, bound⟩
  · rintro ⟨l, loaded, r, bound⟩
    exact ⟨r, l, loaded, bound⟩

theorem kind_of_bind {raw : Value} (h : k.bind locales raw = .ok r) : r.kind = k := by
  obtain ⟨l, -, bound⟩ := bind_eq_ok.mp h
  exact (bindLoaded_eq_ok bound).2.1

theorem exists_loaded_of_bind (h : k.bind locales (.map entries) = .ok r) :
    ∃ l, k.schema.load (rulePath k.name) (.map entries) = .ok l ∧
      r.options = RuleOptions.ofLoaded l := by
  simp only [bind_map, bind_eq_ok, mapError_eq_ok] at h
  obtain ⟨l, loaded, bound⟩ := h
  exact ⟨l, loaded, (bindLoaded_eq_ok bound).2.2.1⟩

theorem choiceOf_judges (name : String) (words : List String) (some : words ≠ []) :
    ∃ Told Fits, Judges (choiceOf name words).load Told Fits := by
  refine ⟨_, _, choice_judges (by simpa using some) fun m hm => ?_⟩
  obtain ⟨word, -, rfl⟩ := List.mem_map.mp hm
  rfl

/-- What the options of all rules require, before any of a rule's own. -/
theorem ruleFields_judge {rest : List SchemaField} {Told Fits : List (Value × Value) → Prop}
    (later : FieldsJudge rest Told Fits) :
    ∃ Told' Fits', FieldsJudge (ruleFields ++ rest) Told' Fits' := by
  obtain ⟨_, bools⟩ := optional_judges bool_judges
  obtain ⟨_, texts⟩ := optional_judges (list_judges str_judges)
  obtain ⟨_, _, placement⟩ := choiceOf_judges "Placement" ["first", "last", "ignore"]
    (by simp)
  obtain ⟨_, placements⟩ := optional_judges placement
  obtain ⟨_, _, stage⟩ := choiceOf_judges "Stage" ["reserved", "shorthand", "callbacks"]
    (by simp)
  obtain ⟨_, stages⟩ := optional_judges (list_judges stage)
  have severity : Judges severity.load _ _ := literal_judges (by simp [Value.isShowable])
  exact ⟨_, _, .cons severity <| .cons bool_judges <| .cons bools <| .cons bools <|
    .cons bool_judges <| .cons texts <| .cons texts <| .cons texts <| .cons placements <|
    .cons stages later⟩

/-- Options with texts for keys are loaded, or refused, or hold a number that cannot be shown. -/
theorem schema_requires (k : RuleKind) (path : String)
    (texts : ∀ e ∈ entries, ∃ key, e.1 = .str key) :
    ∃ Told Fits, Requires (k.schema.load path (.map entries)) Told Fits ∧
      ((Value.map entries).isShowable = true → Told) := by
  have keysShown (allowed : List String) : ∀ key ∈ unknownKeys allowed entries,
      key.isShowable = true := by
    intro key hk
    obtain ⟨e, he, rfl⟩ := List.mem_map.mp (List.mem_filter.mp hk).1
    obtain ⟨text, eq⟩ := texts e he
    rw [eq]
    rfl
  have ordered (allowed : List String) :
      (unknownKeys allowed entries).Pairwise fun a b => (a.less? b).isSome := by
    refine List.pairwise_of_forall_mem_list fun a ha b hb => ?_
    obtain ⟨e, he, rfl⟩ := List.mem_map.mp (List.mem_filter.mp ha).1
    obtain ⟨f, hf, rfl⟩ := List.mem_map.mp (List.mem_filter.mp hb).1
    obtain ⟨key, eq⟩ := texts e he
    obtain ⟨other, eq'⟩ := texts f hf
    rw [eq, eq']
    rfl
  cases k with
  | jsxProps =>
    obtain ⟨_, locale⟩ := optional_judges str_judges
    obtain ⟨_, _, placement⟩ := choiceOf_judges "Placement" ["first", "last", "ignore"]
      (by simp)
    obtain ⟨_, _, judges⟩ := ruleFields_judge <|
      .cons bool_judges <| .cons locale <| .cons placement .nil
    exact ⟨_, _, record_requires judges _ path (ordered _),
      fun shown => ⟨keysShown _, fun _ => judges.told entries shown⟩⟩
  | _ =>
    obtain ⟨_, _, judges⟩ := ruleFields_judge .nil
    exact ⟨_, _, record_requires judges _ path (ordered _),
      fun shown => ⟨keysShown _, fun _ => judges.told entries shown⟩⟩

/-- A rule is not bound for a fault of the configuration only, which is told if the options can be
shown. -/
theorem bind_eq_error {failure : ConfigFailure} (texts : ∀ e ∈ entries, ∃ key, e.1 = .str key)
    (patterns : ∀ l, k.schema.load (rulePath k.name) (.map entries) = .ok l →
      (RuleOptions.ofLoaded l).PatternsTold)
    (h : k.bind locales (.map entries) = .error failure) :
    (∃ e, failure = .config e) ∨
      failure = .load .unshowable ∧ (Value.map entries).isShowable = false := by
  simp only [bind_map, FieldOrder.bind_eq_error, mapError_eq_error, mapError_eq_ok] at h
  rcases h with ⟨cause, unloaded, rfl⟩ | ⟨l, loaded, unordered⟩
  · obtain ⟨Told, Fits, requires, told⟩ := schema_requires k (rulePath k.name) texts
    cases requires with
    | loads _ _ l loaded =>
      rw [loaded] at unloaded
      cases unloaded
    | refuses _ _ e refused =>
      rw [refused] at unloaded
      cases unloaded
      exact .inl ⟨_, rfl⟩
    | unshowable untold failed =>
      rw [failed] at unloaded
      cases unloaded
      exact .inr ⟨rfl, by simpa using fun shown => untold (told shown)⟩
  · exact .inl (policy_eq_error (patterns l loaded) (bindLoaded_eq_error unordered))

theorem exists_schema_eq (k : RuleKind) : ∃ name rest,
    k.schema = .record name (setting "severity" severity (.str "warn") :: rest) := by
  cases k <;> exact ⟨_, _, rfl⟩

theorem toChoice_eq_off_iff : ∀ word ∈ ["off", "warn", "error"],
    (Loaded.str word).toChoice?.getD Severity.warn = .off ↔ word = "off" := by
  decide

theorem severity_eq_off_iff (h : k.bind locales (.map entries) = .ok r) :
    r.severity = .off ↔ (Value.map entries).get? "severity" = some (.str "off") := by
  obtain ⟨l, loaded, options⟩ := exists_loaded_of_bind h
  obtain ⟨name, rest, schema⟩ := exists_schema_eq k
  rw [schema] at loaded
  obtain ⟨values, fields, rfl⟩ := load_record_eq_ok loaded
  obtain ⟨value?, later, first, -, rfl⟩ := loadFields_cons_eq_ok fields
  rw [BoundRule.severity, options]
  rcases fieldValue_eq_ok first with ⟨raw, l, given, read, rfl⟩ | ⟨unset, rfl, -⟩
  · have asked : (Value.map entries).get? "severity" = some raw := given
    cases inhabits_of_load severity read with
    | literal mem equal =>
      obtain ⟨word, listed, rfl⟩ : ∃ word ∈ ["off", "warn", "error"], Value.str word = _ :=
        List.mem_map.mp mem
      obtain rfl := (Value.same_str raw word).mp equal
      rw [asked, Option.some_inj, Value.str.injEq]
      exact toChoice_eq_off_iff word listed
  · have asked : (Value.map entries).get? "severity" = none := unset
    rw [asked]
    exact iff_of_false (nomatch ·) nofun

end

end RuleKind

end FieldOrder
