import FieldOrder.Proofs.CommandLine.Ended
import FieldOrder.Proofs.Schema.Judges

namespace FieldOrder.Config

def settingNames : List String := ["extends", "extensions", "exclude", "rules"]

def IsWord (words : List String) (v : Value) : Prop := ∃ word ∈ words, v = .str word

def presetWords : List String := ["recommended", "all", "none"]

def severityWords : List String := ["off", "warn", "error"]

/-- Texts in a list. -/
def AreTexts (v : Value) : Prop := ∃ items, v.items? = some items ∧ ∀ x ∈ items, x.kind = "str"

/-- Nothing, a severity, or options with texts for keys. -/
def FitsRule (v : Value) : Prop :=
  v = .null ∨ IsWord severityWords v ∨
    ∃ options, v = .map options ∧ ∀ e ∈ options, e.1.kind = "str"

/-- The values of the settings before the rules fit where they are there. -/
structure FitsBefore (entries : List (Value × Value)) : Prop where
  preset : ∀ v ∈ (Value.map entries).get? "extends", IsWord presetWords v
  extensions : ∀ v ∈ (Value.map entries).get? "extensions", AreTexts v
  exclude : ∀ v ∈ (Value.map entries).get? "exclude", AreTexts v

/-- The entries of a mapping are settings, and each that is there has a value that fits. -/
structure Fits (entries : List (Value × Value)) : Prop extends FitsBefore entries where
  known : ∀ e ∈ entries, ∃ name ∈ settingNames, e.1 = .str name
  rules : ∀ v ∈ (Value.map entries).get? "rules",
    ∃ rules, v = .map rules ∧ ∀ e ∈ rules, e.1.kind = "str" ∧ FitsRule e.2

/-- Some two unknown keys have no order. -/
def Unordered (entries : List (Value × Value)) : Prop :=
  ¬ (unknownKeys settingNames entries).Pairwise fun a b => (a.less? b).isSome

/-- A value that none of the words is has to be shown, also where it turns out to fit. -/
def IsTold (words : List String) (v : Value) : Prop := IsWord words v ∨ v.isShowable = true

/-- All that the loading has to show on its way can be shown: unknown keys, or else a preset, or
else the settings of rules up to the first that does not fit. -/
structure Told (entries : List (Value × Value)) : Prop where
  unknown : ∀ k ∈ unknownKeys settingNames entries, k.isShowable = true
  preset : unknownKeys settingNames entries = [] →
    ∀ v ∈ (Value.map entries).get? "extends", IsTold presetWords v
  rules : unknownKeys settingNames entries = [] → FitsBefore entries →
    ∀ rules, (Value.map entries).get? "rules" = some (.map rules) →
      InTurn (fun e => e.1.kind = "str" → IsTold severityWords e.2)
        (fun e => e.1.kind = "str" ∧ FitsRule e.2) rules

/-- The document says nothing, or is a mapping of settings that fit. -/
def Accepted (v : Value) : Prop := saysNothing v = true ∨ ∃ entries, v = .map entries ∧ Fits entries

theorem words_judge (words : List String) :
    Judges (Schema.literal (words.map .str)).load (IsTold words) (IsWord words) := by
  have shown : ∀ a ∈ words.map Value.str, a.isShowable = true := by simp [Value.isShowable]
  have isWord (v : Value) : (words.map Value.str).any v.same = true ↔ IsWord words v := by
    simp [IsWord]
  have judges := Schema.literal_judges shown
  simp only [isWord] at judges
  exact judges

open Schema in
/-- What the variants are tried for can be told where the severity, the first of them, can. -/
theorem ruleSetting_judges : Judges ruleSetting.load (IsTold severityWords) FitsRule := by
  have variants : VariantsJudge [severity, dict str any, null] _ _ :=
    .cons (words_judge severityWords) (.cons (dict_judges any_judges) (.cons null_judges .nil))
  have judges := union_judges variants
  refine ⟨fun path v => (judges.requires path v).congr ?_ ?_, fun _ => .inr⟩
  · refine and_iff_left fun _ => ⟨fun entries _ => .of_forall fun _ _ _ => trivial, fun _ => ?_⟩
    exact ⟨trivial, fun _ => trivial⟩
  · simp only [FitsRule, and_true, or_false]
    constructor
    · rintro (word | options | nothing)
      · exact .inr (.inl word)
      · exact .inr (.inr options)
      · exact .inl nothing
    · rintro (nothing | word | options)
      · exact .inr (.inr nothing)
      · exact .inl word
      · exact .inr (.inl options)

/-- The fields of the record that a configuration is loaded as. -/
def settingFields : List SchemaField :=
  match Schema.config with
  | .record _ fields _ => fields
  | _ => []

theorem names_settingFields : (settingFields.filter (·.settable)).map (·.name) = settingNames := rfl

theorem load_eq (v : Value) : load v = (Schema.record "Config" settingFields).load "$" v := by
  rw [load, Schema.config]
  rfl

variable {entries : List (Value × Value)}

theorem load_unordered (unordered : Unordered entries) :
    load (.map entries) = .error .unorderedKeys := by
  rw [load_eq, Schema.load_record, recordEntries_unordered names_settingFields unordered]
  rfl

theorem fits_iff : Fits entries ↔
    unknownKeys settingNames entries = [] ∧
      (∀ v ∈ (Value.map entries).get? "extends", IsWord presetWords v) ∧
      (∀ v ∈ (Value.map entries).get? "extensions", AreTexts v) ∧
      (∀ v ∈ (Value.map entries).get? "exclude", AreTexts v) ∧
      (∀ v ∈ (Value.map entries).get? "rules",
        ∃ rules, v = .map rules ∧ ∀ e ∈ rules, e.1.kind = "str" ∧ FitsRule e.2) ∧ True := by
  rw [unknownKeys_eq_nil]
  constructor
  · rintro ⟨⟨preset, extensions, exclude⟩, known, rules⟩
    exact ⟨known, preset, extensions, exclude, rules, trivial⟩
  · rintro ⟨known, preset, extensions, exclude, rules, -⟩
    exact ⟨⟨preset, extensions, exclude⟩, known, rules⟩

theorem not_unordered_of_fits (fits : Fits entries) : ¬ Unordered entries := by
  rw [Unordered, (fits_iff.mp fits).1]
  simp

open Schema in
/-- A mapping is loaded if it fits, and else what is wrong is told, or cannot be shown; but unknown
keys without an order are never told. -/
theorem load_requires (ordered : ¬ Unordered entries) :
    Requires (load (.map entries)) (Told entries) (Fits entries) := by
  have fields : FieldsJudge settingFields _ _ :=
    .cons (words_judge presetWords) <|
    .cons (list_judges str_judges) <|
    .cons (list_judges str_judges) <|
    .cons (dict_judges ruleSetting_judges) .nil
  rw [load_eq]
  refine (record_requires fields "Config" "$" (not_not.mp ordered)).congr ?_ fits_iff.symm
  rw [names_settingFields]
  have texts (v : Value) (items : List Value) (_ : v.items? = some items) :
      InTurn (fun _ => True) (fun x => x.kind = "str") items :=
    .of_forall fun _ _ => trivial
  constructor
  · rintro ⟨unknown, later⟩
    refine ⟨unknown, fun known => (later known).1, fun known before rules given => ?_⟩
    have := ((((later known).2 before.preset).2 before.extensions).2 before.exclude).1
    exact this _ given rules rfl
  · rintro ⟨unknown, preset, rules⟩
    refine ⟨unknown, fun known => ⟨preset known, fun fitsPreset => ?_⟩⟩
    refine ⟨fun v _ => texts v, fun fitsExtensions => ⟨fun v _ => texts v, fun fitsExclude => ?_⟩⟩
    refine ⟨?_, fun _ => trivial⟩
    rintro _ given told rfl
    exact rules known ⟨fitsPreset, fitsExtensions, fitsExclude⟩ told given

/-- The bytes are a text, and reading it as a document comes to the result. -/
def Reads (readDocument : DocumentReader) (bytes : List UInt8) (result : Except Yaml.Fault Value) :
    Prop :=
  ∃ text, Text.decode bytes = .ok text ∧ readDocument (Text.unifyLineEnds text) = result

/-- What becomes of a configuration file with the bytes: when it gives a configuration, and when an
error that is beyond the user. In all other cases the error is for the user. -/
structure Answers (readDocument : DocumentReader) (bytes : List UInt8)
    (x : Except ConfigFileError Loaded) : Prop where
  loads : (∃ l, x = .ok l) ↔
    ∃ v, Reads readDocument bytes (.ok v) ∧ Accepted v ∧ ∀ entries, v = .map entries → Told entries
  notText : ∀ fault, x = .error (.notText fault) ↔ Text.decode bytes = .error fault
  value : ∀ fault, x = .error (.value fault) ↔
    fault ≠ .malformed ∧ Reads readDocument bytes (.error fault)
  load : ∀ failure, x = .error (.load failure) ↔
    ∃ entries, Reads readDocument bytes (.ok (.map entries)) ∧
      ((failure = .unorderedKeys ∧ Unordered entries) ∨
        (failure = .unshowable ∧ ¬ Unordered entries ∧ ¬ Told entries))
  os : ∀ e name, x ≠ .error (.os e name)

section
variable {readDocument : DocumentReader} {bytes : List UInt8} {name : String}

theorem loadFile_of_notText {fault : Text.Utf8Error} (h : Text.decode bytes = .error fault) :
    loadFile readDocument name bytes = .error (.notText fault) := by
  simp only [loadFile, readMapping, h]
  rfl

theorem loadFile_of_fault {fault : Yaml.Fault} (h : Reads readDocument bytes (.error fault)) :
    loadFile readDocument name bytes =
      .error (if fault = .malformed then .config (.malformed name) else .value fault) := by
  obtain ⟨text, decoded, read⟩ := h
  simp only [loadFile, readMapping, decoded, Except.mapError, ok_bind, read]
  cases fault <;> rfl

theorem readMapping_of_reads {v : Value} (h : Reads readDocument bytes (.ok v)) :
    readMapping readDocument name bytes =
      if saysNothing v then .ok (.map []) else
        match v with
        | .map entries => .ok (.map entries)
        | _ => .error (.config (.notMapping name)) := by
  obtain ⟨text, decoded, read⟩ := h
  simp only [readMapping, decoded, Except.mapError, ok_bind, read]
  split
  · rfl
  · cases v <;> rfl

theorem Reads.iff_eq {result other : Except Yaml.Fault Value}
    (h : Reads readDocument bytes result) : Reads readDocument bytes other ↔ result = other := by
  obtain ⟨text, decoded, read⟩ := h
  simp [Reads, decoded, read]

theorem Reads.not_decode_error {result : Except Yaml.Fault Value} {fault : Text.Utf8Error}
    (h : Reads readDocument bytes result) : Text.decode bytes ≠ .error fault := by
  obtain ⟨text, decoded, -⟩ := h
  simp [decoded]

theorem told_nil : Told [] where
  unknown := by simp [unknownKeys]
  preset := by simp [Value.get?]
  rules := by simp [Value.get?]

theorem eq_nil_of_saysNothing (nothing : saysNothing (.map entries) = true) : entries = [] := by
  simpa [saysNothing] using nothing

theorem fits_nil : Fits [] := fits_iff.mpr (by simp [unknownKeys, Value.get?])

theorem exists_load_nil : ∃ l, load (.map []) = .ok l := by
  cases load_requires (not_unordered_of_fits fits_nil) with
  | loads _ _ l eq => exact ⟨l, eq⟩
  | refuses _ unfit => exact absurd fits_nil unfit
  | unshowable untold => exact absurd told_nil untold

theorem loadFile_of_mapping (mapping : readMapping readDocument name bytes = .ok (.map entries)) :
    loadFile readDocument name bytes = (load (.map entries)).mapError fun
      | .invalid e => .config (.invalid e)
      | e => .load e := by
  rw [loadFile, mapping]
  rfl

/-- Once the document is read it is left to say what its value gives, and that the errors are told
or come of the loading. -/
theorem Reads.answers {v : Value} {x : Except ConfigFileError Loaded}
    (h : Reads readDocument bytes (.ok v))
    (loads : (∃ l, x = .ok l) ↔ Accepted v ∧ ∀ entries, v = .map entries → Told entries)
    (load : ∀ failure, x = .error (.load failure) ↔ ∃ entries, v = .map entries ∧
      ((failure = .unorderedKeys ∧ Unordered entries) ∨
        (failure = .unshowable ∧ ¬ Unordered entries ∧ ¬ Told entries)))
    (only : ∀ e, x = .error e → (∃ fault, e = .config fault) ∨ ∃ failure, e = .load failure) :
    Answers readDocument bytes x where
  loads := by simpa [h.iff_eq] using loads
  notText fault := by
    refine iff_of_false (fun eq => ?_) h.not_decode_error
    rcases only _ eq with ⟨_, ⟨⟩⟩ | ⟨_, ⟨⟩⟩
  value fault := by
    refine iff_of_false (fun eq => ?_) (by simp [h.iff_eq])
    rcases only _ eq with ⟨_, ⟨⟩⟩ | ⟨_, ⟨⟩⟩
  load failure := by simpa [h.iff_eq] using load failure
  os e name eq := by rcases only _ eq with ⟨_, ⟨⟩⟩ | ⟨_, ⟨⟩⟩

theorem answers_of_notText {fault : Text.Utf8Error} (h : Text.decode bytes = .error fault) :
    Answers readDocument bytes (loadFile readDocument name bytes) := by
  rw [loadFile_of_notText h]
  constructor <;> simp [Reads, h]

theorem answers_of_fault {fault : Yaml.Fault} (h : Reads readDocument bytes (.error fault)) :
    Answers readDocument bytes (loadFile readDocument name bytes) := by
  rw [loadFile_of_fault h]
  by_cases malformed : fault = .malformed
  · rw [if_pos malformed]
    constructor <;> simp [h.iff_eq, h.not_decode_error, malformed]
    exact fun other ne => Ne.symm ne
  · rw [if_neg malformed]
    constructor <;> simp [h.iff_eq, h.not_decode_error]
    exact malformed

/-- What a document comes to that says nothing, or is a mapping or something else. -/
theorem answers_of_document {v : Value} (h : Reads readDocument bytes (.ok v)) :
    Answers readDocument bytes (loadFile readDocument name bytes) := by
  have mapping : readMapping readDocument name bytes = _ := readMapping_of_reads h
  -- A document that says nothing is loaded as the mapping without entries, also where it is none.
  by_cases nothing : saysNothing v = true
  · rw [if_pos nothing] at mapping
    obtain ⟨l, loaded⟩ := exists_load_nil
    rw [loadFile_of_mapping mapping, loaded]
    have empty (entries : List (Value × Value)) (is : v = .map entries) : entries = [] :=
      eq_nil_of_saysNothing (is ▸ nothing)
    refine h.answers ?_ (fun failure => ?_) nofun
    · exact iff_of_true ⟨l, rfl⟩ ⟨.inl nothing, fun entries is => empty entries is ▸ told_nil⟩
    · refine iff_of_false nofun ?_
      rintro ⟨entries, is, ⟨-, unordered⟩ | ⟨-, -, untold⟩⟩
      · exact not_unordered_of_fits fits_nil (empty entries is ▸ unordered)
      · exact untold (empty entries is ▸ told_nil)
  rw [if_neg nothing] at mapping
  cases v with
  | map entries =>
    have accepted : Accepted (.map entries) ↔ Fits entries := by simp [Accepted, nothing]
    rw [loadFile_of_mapping mapping]
    -- Unknown keys are sorted before any value is looked at.
    by_cases unordered : Unordered entries
    · have unfit : ¬ Fits entries := fun fits => not_unordered_of_fits fits unordered
      rw [load_unordered unordered]
      refine h.answers ?_ (fun failure => ?_) ?_
      · simp [Except.mapError, accepted, unfit]
      · simp [Except.mapError, unordered, eq_comm]
      · simp [Except.mapError]
    cases load_requires unordered with
    | loads told fits l eq =>
      rw [eq]
      refine h.answers ?_ (fun failure => ?_) nofun
      · simp [Except.mapError, accepted, fits, told]
      · simp [Except.mapError, unordered, told]
    | refuses told unfit e eq =>
      rw [eq]
      refine h.answers ?_ (fun failure => ?_) ?_
      · simp [Except.mapError, accepted, unfit]
      · simp [Except.mapError, unordered, told]
      · simp [Except.mapError]
    | unshowable untold eq =>
      rw [eq]
      refine h.answers ?_ (fun failure => ?_) ?_
      · simp [Except.mapError, untold]
      · simp [Except.mapError, unordered, untold, eq_comm]
      · simp [Except.mapError]
  | _ =>
    rw [loadFile, mapping]
    refine h.answers ?_ (fun failure => ?_) ?_
    · simp [error_bind, Accepted, nothing]
    · simp [error_bind]
    · simp [error_bind]

end

theorem loadFile_answers (readDocument : DocumentReader) (name : String) (bytes : List UInt8) :
    Answers readDocument bytes (loadFile readDocument name bytes) := by
  cases decoded : Text.decode bytes with
  | error fault => exact answers_of_notText decoded
  | ok text =>
    cases read : readDocument (Text.unifyLineEnds text) with
    | error fault => exact answers_of_fault ⟨text, decoded, read⟩
    | ok v => exact answers_of_document ⟨text, decoded, read⟩

/-- Once a configuration file is found, exactly the documents that fit give a configuration, as long
as no number has to be shown that cannot be. What cannot be read, is no document or does not fit is
told to the user; other errors come of bytes that are no text, of parts of a document that cannot be
read, and of unknown keys without an order. -/
theorem loadFrom_answers (env : Environment) (w : Workspace) (asked : Option Path) (name : String)
    (location : List String) (source : source? w asked = .ok (some (name, location))) :
    (∀ e, w.read location = .error e →
        loadFrom w env.readDocument asked = .error (.config (.unreadable name (e.message name)))) ∧
      (∀ bytes, w.read location = .ok bytes →
        Answers env.readDocument bytes (loadFrom w env.readDocument asked)) ∧
      ∀ e, loadFrom w env.readDocument asked = .error (.config e) →
        ∃ message, (RunError.configFile (.config e)).userMessage? = some message ∧
          ∀ (words : List String) (c : Command) (r : Request) (verbose : Bool),
            Invocation.ofWords words = .ok (.command c verbose) → (c = .check r ∨ c = .fix r) →
            r.configFile.map Path.ofText = asked →
            w.run env words =
              .ok { exit := 2, stderr := if verbose then none else some message } := by
  refine ⟨fun e refused => ?_, fun bytes read => ?_, fun e failed => ?_⟩
  · simp only [loadFrom, source, ok_bind, refused]
    rfl
  · simp only [loadFrom, source, ok_bind, read]
    exact loadFile_answers env.readDocument name bytes
  · obtain ⟨message, told⟩ := RunError.exists_userMessage_of_config e
    refine ⟨message, told, fun words c r verbose read command config => ?_⟩
    -- An error of preparing is all that a run for these words comes to.
    subst config
    have early : w.execute env c = .error (.configFile (.config e)) :=
      Workspace.execute_of_prepare command (Workspace.prepare_of_configFile failed)
    exact Workspace.run_of_userMessage read early told

theorem findSomeM?_of_first {w : Workspace} {p : Path} {full : String} {location : List String}
    (rest : List Path) (named : w.fullName p = full)
    (found : w.findFile? full p = .ok (some location)) :
    (p :: rest).findSomeM? (fileOf? w) = .ok (some (full, location)) := by
  have first : fileOf? w p = .ok (some (full, location)) := by
    simp only [fileOf?, named, found, Option.map_some]
  rw [List.findSomeM?_cons, first]
  rfl

def configured (bytes : List UInt8) : Workspace where
  rootName := "/w"
  tree := .directory [("prop-ordering.yaml", .file bytes)]

theorem loadFrom_answers_severity :
    let bytes := Text.encode "rules: {sort-jsx-props: error}\n".toList
    source? (configured bytes) none = .ok (some ("/w/prop-ordering.yaml", ["prop-ordering.yaml"])) ∧
      ∃ v, Reads Yaml.load bytes (.ok v) ∧ Accepted v ∧
        ∀ entries, v = .map entries → Told entries := by
  intro bytes
  have source : source? (configured bytes) none =
      .ok (some ("/w/prop-ordering.yaml", ["prop-ordering.yaml"])) :=
    findSomeM?_of_first [.ofText ".prop-ordering.yaml"] (by decide +kernel) (by decide +kernel)
  obtain ⟨-, answers, -⟩ := loadFrom_answers (.plain fun _ _ => none) (configured bytes) none
    "/w/prop-ordering.yaml" ["prop-ordering.yaml"] source
  refine ⟨source, (answers bytes rfl).loads.mp ?_⟩
  have found : (loadFrom (configured bytes) Yaml.load none).toOption.isSome = true := by
    decide +kernel
  cases result : loadFrom (configured bytes) Yaml.load none with
  | ok l => exact ⟨l, result⟩
  | error e =>
    rw [result] at found
    cases found

/-- A file that is no text ends a run without a message. -/
theorem loadFrom_notText :
    let fault : Text.Utf8Error := ⟨.startByte, 0xff, 0, 1⟩
    let env := Environment.plain fun _ _ => none
    loadFrom (configured [0xff]) env.readDocument none = .error (.notText fault) ∧
      (configured [0xff]).run env ["check"] = .error (.configFile (.notText fault)) := by
  intro fault env
  have failed : loadFrom (configured [0xff]) env.readDocument none = .error (.notText fault) := by
    show loadFile env.readDocument "/w/prop-ordering.yaml" [0xff] = _
    exact loadFile_of_notText (by decide +kernel)
  refine ⟨failed, ?_⟩
  have read : Invocation.ofWords ["check"] = .ok (.command (.check {}) false) := by rfl
  have early : (configured [0xff]).execute env (.check {}) =
      .error (.configFile (.notText fault)) :=
    Workspace.execute_of_prepare (.inl rfl) (Workspace.prepare_of_configFile failed)
  exact Workspace.run_of_noMessage read early rfl

end FieldOrder.Config
