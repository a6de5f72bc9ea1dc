import FieldOrder.Proofs.Schema.Judges

namespace FieldOrder

namespace SchemaField

def schema : SchemaField → Schema
  | mk _ schema _ _ => schema

/-- The raw value that a mapping gives to a field. -/
def given? (f : SchemaField) (entries : List (Value × Value)) : Option Value :=
  if f.settable then (Value.map entries).get? f.name else none

/-- Does every record have a value for the field? -/
def held (f : SchemaField) : Bool := f.settable || f.default?.isSome

end SchemaField

namespace Loaded

/-- A loaded value is one of a schema, and it was read from a raw value. -/
inductive Inhabits : Schema → Value → Loaded → Prop
  | any (v : Value) : Inhabits .any v (plain v)
  | null : Inhabits .null .null null
  | str {v : Value} (kind : v.kind = "str") : Inhabits .str v (plain v)
  | int {v : Value} (kind : v.kind = "int") : Inhabits .int v (plain v)
  | float {v : Value} (kind : v.kind = "float") : Inhabits .float v (plain v)
  | bool {v : Value} (kind : v.kind = "bool") : Inhabits .bool v (plain v)
  | literal {allowed : List Value} {v a : Value} (mem : a ∈ allowed) (equal : v.same a = true) :
      Inhabits (.literal allowed) v (plain v)
  | union {variants : List Schema} {s : Schema} {v : Value} {l : Loaded} (mem : s ∈ variants)
      (chosen : Inhabits s v l) : Inhabits (.union variants) v l
  | list {item : Schema} {v : Value} {items : List Value} {loaded : List Loaded}
      (given : v.items? = some items) (count : items.length = loaded.length)
      (each : ∀ p ∈ items.zip loaded, Inhabits item p.1 p.2) :
      Inhabits (.list item) v (list loaded)
  | tuple {item : Schema} {v : Value} {items : List Value} {loaded : List Loaded}
      (given : v.items? = some items) (count : items.length = loaded.length)
      (each : ∀ p ∈ items.zip loaded, Inhabits item p.1 p.2) :
      Inhabits (.tuple item) v (tuple loaded)
  /-- Of equal items one is a member. -/
  | set {member : Schema} {v : Value} {items : List Value} {loaded members : List Loaded}
      (given : v.items? = some items) (count : items.length = loaded.length)
      (each : ∀ p ∈ items.zip loaded, Inhabits member p.1 p.2)
      (source : ∀ m ∈ members, m ∈ loaded)
      (kept : ∀ l ∈ loaded, ∃ m ∈ members, m = l ∨ m.same l = true)
      (distinct : members.Pairwise fun a b => a.same b = false) :
      Inhabits (.set member) v (set members)
  /-- Of entries with equal keys one is kept, under one of the keys and with one of the values. -/
  | dict {key value : Schema} {entries : List (Value × Value)} {read kept : List (Loaded × Loaded)}
      (count : entries.length = read.length)
      (keys : ∀ p ∈ entries.zip read, Inhabits key p.1.1 p.2.1)
      (values : ∀ p ∈ entries.zip read, Inhabits value p.1.2 p.2.2)
      (source : ∀ e ∈ kept, e.1 ∈ read.map (·.1) ∧ e.2 ∈ read.map (·.2))
      (all : ∀ r ∈ read, ∃ e ∈ kept, e.1 = r.1 ∨ e.1.same r.1 = true)
      (distinct : kept.Pairwise fun a b => a.1.same b.1 = false) :
      Inhabits (.dict key value) (.map entries) (dict kept)
  /-- The member has the raw value, or has it under the name that the raw value is. -/
  | choice {name : String} {members : List (String × Value)} {v : Value} {m : String × Value}
      (mem : m ∈ members)
      (named : m.2.same v = true ∨
        ∃ other w, v = .str other ∧ (other, w) ∈ members ∧ m.2.same w = true) :
      Inhabits (.choice name members) v (member name m.1 m.2)
  /-- All keys are names of settable fields, a field without a default is given, and the record does
  not refuse the values. -/
  | record {name : String} {fields : List SchemaField}
      {check : List (String × Loaded) → Except LoadFailure Unit} {v : Value}
      {entries : List (Value × Value)} {values : List (String × Loaded)}
      (mapping : v = .map entries ∨ v = .null ∧ entries = [])
      (known : ∀ e ∈ entries, ∃ f ∈ fields, f.settable = true ∧ e.1 = .str f.name)
      (required : ∀ f ∈ fields, f.settable = true → f.default? = none →
        ∃ raw, f.given? entries = some raw)
      (names : values.map (·.1) = (fields.filter (·.held)).map (·.name))
      (given : ∀ p ∈ (fields.filter (·.held)).zip values, ∀ raw, p.1.given? entries = some raw →
        Inhabits p.1.schema raw p.2.2)
      (defaults : ∀ p ∈ (fields.filter (·.held)).zip values, p.1.given? entries = none →
        p.1.default? = some p.2.2)
      (passed : check values = .ok ()) :
      Inhabits (.record name fields check) v (record name values)
  | annotated {s : Schema} {v : Value} {l : Loaded} (inner : Inhabits s v l) :
      Inhabits (.annotated s) v l

end Loaded

section
variable {path : String} {v : Value}

theorem loadPlain_eq_ok {expected : String} {l : Loaded} :
    loadPlain expected path v = .ok l ↔ v.kind = expected ∧ l = .plain v := by
  by_cases h : v.kind = expected
  · simp [loadPlain, h, eq_comm]
  · simp [loadPlain, failLoad, h]

variable {load loadKey : String → Value → Except LoadFailure Loaded}

theorem forall₂_of_mapM_items {items : List Value} {loaded : List Loaded}
    (h : (items.zipIdx.mapM fun (v, i) => load (itemPath path i) v) = .ok loaded) :
    List.Forall₂ (fun x l => ∃ path, load path x = .ok l) items loaded := by
  have steps := forall₂_of_mapM_eq_ok h
  have items_eq : items.zipIdx.map Prod.fst = items := List.zipIdx_map_fst 0 items
  rw [← items_eq, List.forall₂_map_left_iff]
  exact steps.imp fun x l eq => ⟨_, eq⟩

theorem loadItems_eq_ok {loaded : List Loaded} (h : loadItems load path v = .ok loaded) :
    ∃ items, v.items? = some items ∧
      List.Forall₂ (fun x l => ∃ path, load path x = .ok l) items loaded := by
  cases v with
  | list items => exact ⟨items, rfl, forall₂_of_mapM_items h⟩
  | tuple items => exact ⟨items, rfl, forall₂_of_mapM_items h⟩
  | _ => cases h

theorem distinctLoaded_eq_ok {items members : List Loaded}
    (h : distinctLoaded items = .ok members) : members = keepFirst Loaded.same [] items := by
  rw [distinctLoaded] at h
  split at h
  · exact (Except.ok.inj h).symm
  · cases h

theorem loadEntries_eq_ok {entries : List (Value × Value)} {kept : List (Loaded × Loaded)}
    (h : loadEntries loadKey load path entries = .ok kept) :
    ∃ read, kept = putEntries Loaded.same [] read ∧
      List.Forall₂ (fun e r => (∃ path, loadKey path e.1 = .ok r.1) ∧
        ∃ path, load path e.2 = .ok r.2) entries read := by
  rw [loadEntries] at h
  generalize ([] : List (Loaded × Loaded)) = done at h ⊢
  induction entries generalizing done with
  | nil =>
    cases h
    exact ⟨[], rfl, .nil⟩
  | cons e entries ih =>
    simp only [List.foldlM_cons, bind_eq_ok] at h
    obtain ⟨next, ⟨key, readKey, rest⟩, later⟩ := h
    split at rest
    · cases rest
    obtain ⟨value, readValue, put⟩ := bind_eq_ok.mp rest
    split at put
    · rw [pure_eq_ok] at put
      subst put
      obtain ⟨read, rfl, each⟩ := ih _ later
      exact ⟨(key, value) :: read, rfl, .cons ⟨⟨_, readKey⟩, _, readValue⟩ each⟩
    · cases put

/-- The value of a field is read from what is given, or else is its default; a field that is not
settable may have none. -/
theorem fieldValue_eq_ok {given : Option Value} {default? value? : Option Loaded}
    {settable : Bool} (h : fieldValue load path given default? settable = .ok value?) :
    (∃ raw l, given = some raw ∧ load path raw = .ok l ∧ value? = some l) ∨
      (given = none ∧ value? = default? ∧ (default? = none → settable = false)) := by
  cases given with
  | some raw =>
    cases loaded : load path raw with
    | error e => simp [fieldValue, loaded, Except.map] at h
    | ok l =>
      have value : some l = value? := by simpa [fieldValue, loaded, Except.map] using h
      exact .inl ⟨raw, l, rfl, loaded, value.symm⟩
  | none =>
    cases default? with
    | some d => exact .inr ⟨rfl, (Except.ok.inj h).symm, nofun⟩
    | none =>
      cases settable with
      | true => cases h
      | false => exact .inr ⟨rfl, (Except.ok.inj h).symm, fun _ => rfl⟩

theorem recordEntries_eq_ok {name : String} {fields : List SchemaField}
    {entries : List (Value × Value)} (h : recordEntries name fields path v = .ok entries) :
    (v = .map entries ∨ v = .null ∧ entries = []) ∧
      ∀ e ∈ entries, ∃ f ∈ fields, f.settable = true ∧ e.1 = .str f.name := by
  have ofMap (given : List (Value × Value))
      (h : recordEntries name fields path (.map given) = .ok entries) :
      given = entries ∧ ∀ e ∈ given, ∃ f ∈ fields, f.settable = true ∧ e.1 = .str f.name := by
    by_cases known : unknownKeys ((fields.filter (·.settable)).map (·.name)) given = []
    · rw [recordEntries_of_known rfl known] at h
      refine ⟨Except.ok.inj h, fun e he => ?_⟩
      obtain ⟨name, allowed, eq⟩ := unknownKeys_eq_nil.mp known e he
      obtain ⟨f, hf, rfl⟩ := List.mem_map.mp allowed
      obtain ⟨hf, settable⟩ := List.mem_filter.mp hf
      exact ⟨f, hf, settable, eq⟩
    · rw [recordEntries_of_unknown rfl known] at h
      obtain ⟨_, -, told⟩ := bind_eq_ok.mp h
      cases told
  cases v with
  | map given =>
    obtain ⟨rfl, known⟩ := ofMap given h
    exact ⟨.inl rfl, known⟩
  | null =>
    obtain ⟨rfl, known⟩ := ofMap [] h
    exact ⟨.inr ⟨rfl, rfl⟩, known⟩
  | _ => cases h

end

namespace Schema

theorem findMember?_eq_some {members : List (String × Value)} {v : Value} {m : String × Value}
    (h : findMember? members v = some m) :
    m ∈ members ∧ (m.2.same v = true ∨
      ∃ other w, v = .str other ∧ (other, w) ∈ members ∧ m.2.same w = true) := by
  have ofValue {w : Value} (found : (distinctMembers members).find? (·.2.same w) = some m) :
      m ∈ members ∧ m.2.same w = true := by
    have same := List.find?_some found
    exact ⟨mem_of_mem_distinctMembers (List.mem_of_find?_eq_some found), same⟩
  cases found : (distinctMembers members).find? (·.2.same v) with
  | some first =>
    have eq : some first = some m := by
      unfold findMember? at h
      simpa only [found] using h
    cases eq
    obtain ⟨mem, same⟩ := ofValue found
    exact ⟨mem, .inl same⟩
  | none =>
    unfold findMember? at h
    simp only [found] at h
    cases v with
    | str name =>
      obtain ⟨w, named, byName⟩ := Option.bind_eq_some_iff.mp h
      obtain ⟨mem, same⟩ := ofValue byName
      obtain ⟨before, after, eq, -⟩ := List.lookup_eq_some_iff.mp named
      exact ⟨mem, .inr ⟨name, w, rfl, by simp [eq], same⟩⟩
    | _ => cases h

section
variable {path : String} {entries : List (Value × Value)} {values : List (String × Loaded)}

theorem loadFields_cons_eq_ok {f : SchemaField} {rest : List SchemaField}
    (h : loadFields (f :: rest) path entries = .ok values) :
    ∃ value? later, fieldValue f.schema.load (path ++ "." ++ f.name) (f.given? entries) f.default?
        f.settable = .ok value? ∧ loadFields rest path entries = .ok later ∧
      values = value?.toList.map (f.name, ·) ++ later := by
  obtain ⟨name, schema, default?, settable⟩ := f
  simp only [loadFields_cons, bind_eq_ok, pure_eq_ok] at h
  obtain ⟨value?, value, later, done, rfl⟩ := h
  exact ⟨value?, later, value, done, rfl⟩

/-- Each field that is held has its value, in the order of the fields; those without a default are
given. -/
theorem loadFields_eq_ok {fields : List SchemaField}
    (h : loadFields fields path entries = .ok values) :
    (∀ f ∈ fields, f.settable = true → f.default? = none → ∃ raw, f.given? entries = some raw) ∧
      List.Forall₂ (fun f value => value.1 = f.name ∧
        (∀ raw, f.given? entries = some raw → ∃ path, f.schema.load path raw = .ok value.2) ∧
        (f.given? entries = none → f.default? = some value.2)) (fields.filter (·.held)) values := by
  induction fields generalizing values with
  | nil =>
    cases h
    exact ⟨nofun, .nil⟩
  | cons f rest ih =>
    obtain ⟨value?, later, value, done, rfl⟩ := loadFields_cons_eq_ok h
    obtain ⟨required, each⟩ := ih done
    rcases fieldValue_eq_ok value with ⟨raw, l, given, loaded, rfl⟩ | ⟨none, rfl, optional⟩
    · have settable : f.settable = true := by
        by_contra unset
        simp [SchemaField.given?, unset] at given
      have here : f.held = true := by simp [SchemaField.held, settable]
      rw [List.filter_cons_of_pos here]
      refine ⟨List.forall_mem_cons.mpr ⟨fun _ _ => ⟨raw, given⟩, required⟩, ?_⟩
      refine .cons ⟨rfl, ?_, ?_⟩ each
      · rintro raw' again
        rw [given] at again
        cases again
        exact ⟨_, loaded⟩
      · rw [given]
        nofun
    · have needless : f.settable = true → f.default? = Option.none →
          ∃ raw, f.given? entries = some raw := by
        intro settable unset
        simp [optional unset] at settable
      refine ⟨List.forall_mem_cons.mpr ⟨needless, required⟩, ?_⟩
      cases default : f.default? with
      | some d =>
        have here : f.held = true := by simp [SchemaField.held, default]
        rw [List.filter_cons_of_pos here]
        refine .cons ⟨rfl, ?_, fun _ => default⟩ each
        rw [none]
        nofun
      | none =>
        have absent : ¬ f.held = true := by simp [SchemaField.held, default, optional default]
        rw [List.filter_cons_of_neg absent]
        exact each

theorem load_record_eq_ok {name : String} {fields : List SchemaField}
    {check : List (String × Loaded) → Except LoadFailure Unit} {l : Loaded}
    (h : (record name fields check).load path (.map entries) = .ok l) :
    ∃ values, loadFields fields path entries = .ok values ∧ l = .record name values := by
  simp only [load_record, bind_eq_ok, pure_eq_ok] at h
  obtain ⟨given, read, values, loaded, -, -, rfl⟩ := h
  rcases (recordEntries_eq_ok read).1 with same | ⟨⟨⟩, -⟩
  cases same
  exact ⟨values, loaded, rfl⟩

end

end Schema

open Schema

theorem loadVariant_cons_eq_ok {s : Schema} {rest : List Schema} {path : String} {v : Value}
    {errors : List LoadError} {l : Loaded}
    (h : loadVariant (s :: rest) path v errors = .ok l) :
    s.load path v = .ok l ∨ ∃ errors', loadVariant rest path v errors' = .ok l := by
  by_cases isNull : s = .null
  · subst isNull
    cases v with
    | null => exact .inl h
    | _ => exact .inr ⟨errors, h⟩
  · rw [loadVariant_of_ne_null isNull] at h
    split at h
    · exact .inr ⟨_, h⟩
    · exact .inl h

theorem inhabits_zip {item : Schema} {items : List Value} {loaded : List Loaded}
    (sound : ∀ {path v l}, item.load path v = .ok l → l.Inhabits item v)
    (each : List.Forall₂ (fun x l => ∃ path, item.load path x = .ok l) items loaded) :
    ∀ p ∈ items.zip loaded, p.2.Inhabits item p.1 := by
  intro p hp
  obtain ⟨path, eq⟩ := List.forall₂_zip each hp
  exact sound eq

mutual

theorem inhabits_of_load : (s : Schema) → ∀ {path v l}, s.load path v = .ok l → l.Inhabits s v
  | .any, path, v, l, h => by
    cases h
    exact .any v
  | .null, path, v, l, h => by
    cases v with
    | null =>
      cases h
      exact .null
    | _ => cases h
  | .str, path, v, l, h => by
    obtain ⟨kind, rfl⟩ := loadPlain_eq_ok.mp h
    exact .str kind
  | .int, path, v, l, h => by
    obtain ⟨kind, rfl⟩ := loadPlain_eq_ok.mp h
    exact .int kind
  | .float, path, v, l, h => by
    obtain ⟨kind, rfl⟩ := loadPlain_eq_ok.mp h
    exact .float kind
  | .bool, path, v, l, h => by
    obtain ⟨kind, rfl⟩ := loadPlain_eq_ok.mp h
    exact .bool kind
  | .unsupported shown, path, v, l, h => by
    cases h
  | .literal allowed, path, v, l, h => by
    rw [load_literal] at h
    split at h
    · next one =>
      cases h
      obtain ⟨a, mem, equal⟩ := List.any_eq_true.mp one
      exact .literal mem equal
    · cases h
  | .union variants, path, v, l, h => by
    obtain ⟨s, mem, chosen⟩ := inhabits_of_loadVariant variants h
    exact .union mem chosen
  | .list item, path, v, l, h => by
    obtain ⟨loaded, read, rfl⟩ := map_eq_ok.mp h
    obtain ⟨items, given, each⟩ := loadItems_eq_ok read
    exact .list given each.length_eq (inhabits_zip (inhabits_of_load item) each)
  | .set member, path, v, l, h => by
    obtain ⟨loaded, read, rest⟩ := bind_eq_ok.mp h
    -- Equal members are one, the first of them, so the set has fewer members than the list.
    obtain ⟨members, distinct, made⟩ := bind_eq_ok.mp rest
    cases made
    obtain ⟨items, given, each⟩ := loadItems_eq_ok read
    cases distinctLoaded_eq_ok distinct
    exact .set given each.length_eq (inhabits_zip (inhabits_of_load member) each)
      (fun m hm => (mem_or_mem_of_mem_keepFirst hm).resolve_left List.not_mem_nil)
      (fun l hl => exists_mem_keepFirst hl) (keepFirst_pairwise .nil loaded)
  | .tuple item, path, v, l, h => by
    obtain ⟨loaded, read, rfl⟩ := map_eq_ok.mp h
    obtain ⟨items, given, each⟩ := loadItems_eq_ok read
    exact .tuple given each.length_eq (inhabits_zip (inhabits_of_load item) each)
  | .fixedTuple items, path, v, l, h => by
    cases v <;> cases h
  | .dict key value, path, v, l, h => by
    cases v with
    | map entries =>
      -- What is read entry by entry is put into a map, where of equal keys the last value stays.
      obtain ⟨kept, loaded, rfl⟩ := map_eq_ok.mp h
      obtain ⟨read, rfl, each⟩ := loadEntries_eq_ok loaded
      refine .dict each.length_eq ?_ ?_ (fun _ => mem_of_mem_putEntries)
        (fun _ => exists_mem_putEntries) (putEntries_pairwise read)
      · intro p hp
        obtain ⟨⟨_, eq⟩, -⟩ := List.forall₂_zip each hp
        exact inhabits_of_load key eq
      · intro p hp
        obtain ⟨-, _, eq⟩ := List.forall₂_zip each hp
        exact inhabits_of_load value eq
    | _ => cases h
  | .choice name members, path, v, l, h => by
    rw [load_choice] at h
    split at h
    · cases h
    split at h
    · next member value found =>
      cases h
      obtain ⟨mem, named⟩ := findMember?_eq_some found
      exact .choice mem named
    · cases h
  | .record name fields check, path, v, l, h => by
    simp only [load_record, bind_eq_ok, pure_eq_ok] at h
    obtain ⟨entries, read, values, loaded, ⟨⟩, passed, rfl⟩ := h
    obtain ⟨mapping, known⟩ := recordEntries_eq_ok read
    obtain ⟨required, each⟩ := loadFields_eq_ok loaded
    -- Only fields that are held have values.
    have names : (fields.filter (·.held)).map (·.name) = values.map (·.1) := by
      rw [← List.forall₂_eq_eq_eq, List.forall₂_map_left_iff, List.forall₂_map_right_iff]
      exact each.imp fun _ _ h => h.1.symm
    refine .record mapping known required names.symm ?_ ?_ passed
    · intro p hp raw given
      obtain ⟨-, loaded, -⟩ := List.forall₂_zip each hp
      obtain ⟨path, loaded⟩ := loaded raw given
      have mem := (List.mem_filter.mp (List.of_mem_zip hp).1).1
      exact inhabits_of_fields fields p.1 mem loaded
    · intro p hp none
      obtain ⟨-, -, default⟩ := List.forall₂_zip each hp
      exact default none
  | .annotated s, path, v, l, h => by
    exact .annotated (inhabits_of_load s h)

theorem inhabits_of_loadVariant : (variants : List Schema) → ∀ {path v errors l},
    loadVariant variants path v errors = .ok l → ∃ s ∈ variants, l.Inhabits s v
  | [], path, v, errors, l, h => by
    cases h
  | s :: rest, path, v, errors, l, h => by
    rcases loadVariant_cons_eq_ok h with chosen | ⟨errors', later⟩
    · exact ⟨s, List.mem_cons_self, inhabits_of_load s chosen⟩
    · obtain ⟨t, mem, inhabits⟩ := inhabits_of_loadVariant rest later
      exact ⟨t, List.mem_cons_of_mem _ mem, inhabits⟩

theorem inhabits_of_fields : (fields : List SchemaField) → ∀ f ∈ fields, ∀ {path v l},
    f.schema.load path v = .ok l → l.Inhabits f.schema v
  | .mk name schema default? settable :: rest, f, mem, path, v, l, h => by
    rcases List.mem_cons.mp mem with rfl | later
    · exact inhabits_of_load schema h
    · exact inhabits_of_fields rest f later h

end

theorem Loaded.Inhabits.ne_bool {s : Schema} {v : Value} {l : Loaded} (h : l.Inhabits s v)
    (textual : s = .str ∨ s = .int ∨ s = .float) (b : Bool) : l ≠ .bool b := by
  rintro rfl
  rcases textual with rfl | rfl | rfl
  · cases h with
    | str kind => simp [Value.kind] at kind
  · cases h with
    | int kind => simp [Value.kind] at kind
  · cases h with
    | float kind => simp [Value.kind] at kind

namespace Schema

/-- What is loaded inhabits the schema through all its parts. A truth value is never taken for a
text or a number. -/
theorem load_inhabits {s : Schema} {path : String} {v : Value} {l : Loaded}
    (loaded : s.load path v = .ok l) :
    l.Inhabits s v ∧ (s = str ∨ s = int ∨ s = float → ∀ b, l ≠ .bool b) := by
  have inhabits := inhabits_of_load s loaded
  exact ⟨inhabits, inhabits.ne_bool⟩

theorem load_inhabits_nested :
    let color := choice "Color" [("RED", .str "red"), ("BLUE", .str "blue")]
    let inner := record "Inner" [.mk "count" int none true,
      .mk "mode" (optional str) (some .null) true]
    let outer := record "Outer" [.mk "inner" inner none true,
      .mk "colors" (dict color int) none true,
      .mk "setting" (union [literal [.str "off"], tuple int, null]) none true,
      .mk "hidden" int (some (.plain (.int 7))) false]
    let raw := Value.map [(.str "inner", .map [(.str "count", .int 3)]),
      (.str "colors", .map [(.str "RED", .int 1), (.str "red", .int 2)]),
      (.str "setting", .list [.int 1, .int 2])]
    let loaded := Loaded.record "Outer" [
      ("inner", .record "Inner" [("count", .plain (.int 3)), ("mode", .null)]),
      ("colors", .dict [(.member "Color" "RED" (.str "red"), .plain (.int 2))]),
      ("setting", .tuple [.plain (.int 1), .plain (.int 2)]), ("hidden", .plain (.int 7))]
    outer.load "$" raw = .ok loaded ∧ loaded.Inhabits outer raw := by
  intro color inner outer raw loaded
  have eq : outer.load "$" raw = .ok loaded := by rfl
  exact ⟨eq, (load_inhabits eq).1⟩

end Schema

end FieldOrder
