import FieldOrder.Proofs.Computation
import FieldOrder.Proofs.Distinct
import FieldOrder.Schema.Load

namespace FieldOrder

namespace Value

@[simp]
theorem same_str (v : Value) (s : String) : v.same (.str s) = true ↔ v = .str s := by
  cases v <;> simp [same, number?]

theorem kind_eq_str (v : Value) : v.kind = "str" ↔ ∃ s, v = .str s := by
  cases v with
  | str s => simp [kind]
  | other v =>
    have other : v.kind ≠ "str" := fun h => v.kind_not_plain (by rw [h]; decide)
    simpa [kind] using other
  | _ => simp [kind]

/-- The items of a list, or of a list in the place of a key. -/
def items? : Value → Option (List Value)
  | list items => some items
  | tuple items => some items
  | _ => none

theorem areShowable_iff {items : List Value} :
    areShowable items = true ↔ ∀ v ∈ items, v.isShowable = true := by
  induction items with
  | nil => simp [areShowable]
  | cons v items ih => simp [areShowable, ih]

theorem entriesShowable_iff {entries : List (Value × Value)} : entriesShowable entries = true ↔
    ∀ e ∈ entries, e.1.isShowable = true ∧ e.2.isShowable = true := by
  induction entries with
  | nil => simp [entriesShowable]
  | cons e entries ih => simp [entriesShowable, ih, and_assoc]

theorem isShowable_of_items? {v : Value} {items : List Value} (given : v.items? = some items)
    (h : v.isShowable = true) : ∀ x ∈ items, x.isShowable = true := by
  cases v with
  | list _ =>
    cases given
    exact areShowable_iff.mp h
  | tuple _ =>
    cases given
    exact areShowable_iff.mp h
  | _ => cases given

theorem isShowable_of_get? {entries : List (Value × Value)} {name : String} {v : Value}
    (given : (map entries).get? name = some v) (h : (map entries).isShowable = true) :
    v.isShowable = true := by
  obtain ⟨e, found, rfl⟩ := Option.map_eq_some_iff.mp given
  exact (entriesShowable_iff.mp h e (List.mem_of_find?_eq_some found)).2

end Value

/-- How a computation ends, given what has to hold for a value, and whether what it comes to tell
can be shown. -/
inductive Requires {α : Type} (x : Except LoadFailure α) (Told Fits : Prop) : Prop
  | loads (told : Told) (fits : Fits) (a : α) (eq : x = .ok a)
  | refuses (told : Told) (unfit : ¬ Fits) (e : LoadError) (eq : x = .error (.invalid e))
  | unshowable (untold : ¬ Told) (eq : x = .error .unshowable)

namespace Requires
variable {α β : Type} {x : Except LoadFailure α} {Told Told' Fits Fits' : Prop}

theorem ok (a : α) : Requires (.ok a) True True := .loads trivial trivial a rfl

theorem failLoad (path : String) (fault : LoadFault) :
    Requires (failLoad path fault : Except LoadFailure α) (fault.isShowable = true) False := by
  by_cases shown : fault.isShowable = true
  · exact .refuses shown id _ (by rw [FieldOrder.failLoad, if_pos shown])
  · exact .unshowable shown (by rw [FieldOrder.failLoad, if_neg shown])

theorem wrongKind (path expected found : String) :
    Requires (FieldOrder.failLoad path (.wrongKind expected found) : Except LoadFailure α) True
      False :=
  .refuses trivial id _ rfl

theorem congr (h : Requires x Told Fits) (told : Told ↔ Told') (fits : Fits ↔ Fits') :
    Requires x Told' Fits' := by
  rwa [← propext told, ← propext fits]

theorem bind {f : α → Except LoadFailure β} (hx : Requires x Told Fits)
    (hf : ∀ a, x = .ok a → Requires (f a) Told' Fits') :
    Requires (x >>= f) (Told ∧ (Fits → Told')) (Fits ∧ Fits') := by
  cases hx with
  | loads told fits a eq =>
    subst eq
    cases hf a rfl with
    | loads told' fits' b eq => exact .loads ⟨told, fun _ => told'⟩ ⟨fits, fits'⟩ b eq
    | refuses told' unfit e eq => exact .refuses ⟨told, fun _ => told'⟩ (fun h => unfit h.2) e eq
    | unshowable untold eq => exact .unshowable (fun h => untold (h.2 fits)) eq
  | refuses told unfit e eq =>
    subst eq
    exact .refuses ⟨told, fun fits => absurd fits unfit⟩ (fun h => unfit h.1) e rfl
  | unshowable untold eq =>
    subst eq
    exact .unshowable (fun h => untold h.1) rfl

theorem map (h : Requires x Told Fits) (f : α → β) : Requires (x.map f) Told Fits := by
  cases h with
  | loads told fits a eq => exact .loads told fits (f a) (by rw [eq]; rfl)
  | refuses told unfit e eq => exact .refuses told unfit e (by rw [eq]; rfl)
  | unshowable untold eq => exact .unshowable untold (by rw [eq]; rfl)

theorem bindOk {f : α → Except LoadFailure β} (hx : Requires x Told Fits)
    (hf : ∀ a, ∃ b, f a = .ok b) : Requires (x >>= f) Told Fits := by
  have always (a : α) (_ : x = .ok a) : Requires (f a) True True := by
    obtain ⟨b, eq⟩ := hf a
    exact .loads trivial trivial b eq
  exact (hx.bind always).congr (by simp) (by simp)

end Requires

/-- A condition on each item, as long as those before it fit. -/
def InTurn {α : Type} (Told Fits : α → Prop) : List α → Prop
  | [] => True
  | a :: rest => Told a ∧ (Fits a → InTurn Told Fits rest)

theorem InTurn.of_forall {α : Type} {Told Fits : α → Prop} {items : List α}
    (each : ∀ a ∈ items, Told a) : InTurn Told Fits items := by
  induction items with
  | nil => trivial
  | cons a items ih =>
    obtain ⟨first, later⟩ := List.forall_mem_cons.mp each
    exact ⟨first, fun _ => ih later⟩

/-- Of any value the loading asks that it fits. All that is in a value that can be shown is told. -/
structure Judges (load : String → Value → Except LoadFailure Loaded) (Told Fits : Value → Prop) :
    Prop where
  requires : ∀ path v, Requires (load path v) (Told v) (Fits v)
  told : ∀ v, v.isShowable = true → Told v

theorem loadPlain_judges (expected : String) :
    Judges (loadPlain expected) (fun _ => True) fun v => v.kind = expected := by
  refine ⟨fun path v => ?_, fun _ _ => trivial⟩
  rw [loadPlain]
  split
  next same => exact (Requires.ok _).congr .rfl (by simp [same])
  next other => exact (Requires.wrongKind path _ _).congr .rfl (by simp [other])

section
variable {load : String → Value → Except LoadFailure Loaded} {Told Fits : Value → Prop}

theorem mapM_requires (judges : Judges load Told Fits) (path : String) (items : List Value)
    (start : Nat) :
    Requires ((items.zipIdx start).mapM fun (v, i) => load (itemPath path i) v)
      (InTurn Told Fits items) (∀ v ∈ items, Fits v) := by
  induction items generalizing start with
  | nil => exact (Requires.ok []).congr .rfl (by simp)
  | cons v items ih =>
    rw [List.zipIdx_cons, List.mapM_cons, List.forall_mem_cons]
    refine (judges.requires (itemPath path start) v).bind fun l _ => ?_
    exact (ih (start + 1)).bindOk fun ls => ⟨l :: ls, rfl⟩

theorem loadItems_requires (judges : Judges load Told Fits) (path : String) (v : Value) :
    Requires (loadItems load path v) (∀ items, v.items? = some items → InTurn Told Fits items)
      (∃ items, v.items? = some items ∧ ∀ x ∈ items, Fits x) := by
  have each (items : List Value) := mapM_requires judges path items 0
  cases v with
  | list items => exact (each items).congr (by simp [Value.items?]) (by simp [Value.items?])
  | tuple items => exact (each items).congr (by simp [Value.items?]) (by simp [Value.items?])
  | _ =>
    exact (Requires.wrongKind path _ _).congr (by simp [Value.items?]) (by simp [Value.items?])

variable {loadKey : String → Value → Except LoadFailure Loaded} {ToldKey FitsKey : Value → Prop}

/-- Each entry asks that its key and its value fit. What a key is loaded as can be one, and can be
shown. -/
theorem loadEntries_requires (judgesKey : Judges loadKey ToldKey FitsKey)
    (areKeys : ∀ path v l, loadKey path v = .ok l → l.isKey = true ∧ l.fitsPath = true)
    (judges : Judges load Told Fits) (path : String) (entries : List (Value × Value)) :
    Requires (loadEntries loadKey load path entries)
      (InTurn (fun e => ToldKey e.1 ∧ (FitsKey e.1 → Told e.2)) (fun e => FitsKey e.1 ∧ Fits e.2)
        entries)
      (∀ e ∈ entries, FitsKey e.1 ∧ Fits e.2) := by
  rw [loadEntries]
  generalize ([] : List (Loaded × Loaded)) = done
  induction entries generalizing done with
  | nil => exact (Requires.ok done).congr .rfl (by simp)
  | cons e entries ih =>
    rw [List.foldlM_cons, List.forall_mem_cons]
    refine Requires.bind ?_ fun done _ => ih done
    refine (judgesKey.requires (path ++ ".<key>") e.1).bind fun key loaded => ?_
    obtain ⟨isKey, fitsPath⟩ := areKeys _ _ _ loaded
    rw [fitsPath, if_neg (by simp)]
    refine (judges.requires (path ++ "." ++ key.pathText) e.2).bindOk fun value => ?_
    exact ⟨_, if_pos isKey⟩

end

/-- The keys of a mapping that are none of the names. -/
def unknownKeys (allowed : List String) (entries : List (Value × Value)) : List Value :=
  (entries.map (·.1)).filter fun k => !allowed.any fun a => k.same (.str a)

theorem unknownKeys_eq_nil {allowed : List String} {entries : List (Value × Value)} :
    unknownKeys allowed entries = [] ↔ ∀ e ∈ entries, ∃ name ∈ allowed, e.1 = .str name := by
  simp [unknownKeys, List.filter_eq_nil_iff]

section
variable {name path : String} {fields : List SchemaField} {allowed : List String}
  {entries : List (Value × Value)}
  (names : (fields.filter (·.settable)).map (·.name) = allowed)
include names

theorem recordEntries_of_known (known : unknownKeys allowed entries = []) :
    recordEntries name fields path (.map entries) = .ok entries := by
  subst names
  change (if (unknownKeys _ entries).isEmpty then _ else _) = _
  rw [known]
  rfl

theorem recordEntries_of_unknown (unknown : unknownKeys allowed entries ≠ []) :
    recordEntries name fields path (.map entries) = (do
      failLoad path (.unknownKeys (← sortKeys (unknownKeys allowed entries))
        (allowed.mergeSort fun a b => a ≤ b))) := by
  subst names
  change (if (unknownKeys _ entries).isEmpty then _ else _) = _
  rw [if_neg (by simpa using unknown)]
  rfl

/-- Unknown keys are told in their order. -/
theorem recordEntries_requires
    (ordered : (unknownKeys allowed entries).Pairwise fun a b => (a.less? b).isSome) :
    Requires (recordEntries name fields path (.map entries))
      (∀ k ∈ unknownKeys allowed entries, k.isShowable = true)
      (unknownKeys allowed entries = []) := by
  by_cases known : unknownKeys allowed entries = []
  · rw [recordEntries_of_known names known]
    exact (Requires.ok entries).congr (by simp [known]) (by simp [known])
  · rw [recordEntries_of_unknown names known, sortKeys, if_pos ordered]
    refine (Requires.failLoad path _).congr ?_ (by simp [known])
    simp only [LoadFault.isShowable, List.all_eq_true, List.mem_mergeSort]

theorem eq_of_recordEntries_map {given : List (Value × Value)}
    (h : recordEntries name fields path (.map entries) = .ok given) : given = entries := by
  by_cases known : unknownKeys allowed entries = []
  · rw [recordEntries_of_known names known] at h
    exact (Except.ok.inj h).symm
  · rw [recordEntries_of_unknown names known, bind_eq_ok] at h
    obtain ⟨_, -, failed⟩ := h
    cases failed

theorem recordEntries_unordered
    (unordered : ¬ (unknownKeys allowed entries).Pairwise fun a b => (a.less? b).isSome) :
    recordEntries name fields path (.map entries) = .error .unorderedKeys := by
  have unknown : unknownKeys allowed entries ≠ [] := by
    intro none
    rw [none] at unordered
    exact unordered .nil
  rw [recordEntries_of_unknown names unknown, sortKeys, if_neg unordered]
  rfl

end

namespace Schema

theorem mem_of_mem_distinctMembers {members : List (String × Value)} {m : String × Value}
    (h : m ∈ distinctMembers members) : m ∈ members := by
  have kept : m ∈ keepFirst (fun a b : String × Value => a.2.same b.2) [] members := h
  exact (mem_or_mem_of_mem_keepFirst kept).resolve_left List.not_mem_nil

theorem exists_mem_distinctMembers {members : List (String × Value)} {m : String × Value}
    (h : m ∈ members) : ∃ first ∈ distinctMembers members, first = m ∨ first.2.same m.2 = true :=
  exists_mem_keepFirst h

section
variable (name path : String) (v : Value)

theorem load_literal (allowed : List Value) : (literal allowed).load path v =
    if allowed.any v.same then .ok (.plain v) else failLoad path (.notAllowed allowed v) :=
  rfl

theorem load_choice (members : List (String × Value)) : (choice name members).load path v =
    if members.isEmpty then .error .noMembers
    else match findMember? members v with
      | some (member, value) => .ok (.member name member value)
      | none => failLoad path (.notAllowed ((distinctMembers members).map (·.2)) v) :=
  rfl

theorem load_record (fields : List SchemaField)
    (check : List (String × Loaded) → Except LoadFailure Unit) :
    (record name fields check).load path v = (do
      let values ← loadFields fields path (← recordEntries name fields path v)
      check values
      return .record name values) :=
  rfl

theorem loadFields_cons (schema : Schema) (default? : Option Loaded) (settable : Bool)
    (rest : List SchemaField) (entries : List (Value × Value)) :
    loadFields (.mk name schema default? settable :: rest) path entries = (do
      let given := if settable then (Value.map entries).get? name else none
      let value? ← fieldValue schema.load (path ++ "." ++ name) given default? settable
      return value?.toList.map (name, ·) ++ (← loadFields rest path entries)) :=
  rfl

end

theorem any_judges : Judges any.load (fun _ => True) fun _ => True :=
  ⟨fun _ v => Requires.ok (Loaded.plain v), fun _ _ => trivial⟩

theorem null_judges : Judges null.load (fun _ => True) fun v => v = .null := by
  refine ⟨fun path v => ?_, fun _ _ => trivial⟩
  cases v with
  | null => exact (Requires.ok Loaded.null).congr .rfl (by simp)
  | _ => exact (Requires.wrongKind path _ _).congr .rfl (by simp)

theorem str_judges : Judges str.load (fun _ => True) fun v => v.kind = "str" :=
  loadPlain_judges "str"

theorem bool_judges : Judges bool.load (fun _ => True) fun v => v.kind = "bool" :=
  loadPlain_judges "bool"

theorem literal_judges {allowed : List Value} (shown : ∀ a ∈ allowed, a.isShowable = true) :
    Judges (literal allowed).load (fun v => allowed.any v.same = true ∨ v.isShowable = true)
      fun v => allowed.any v.same = true := by
  refine ⟨fun path v => ?_, fun _ => .inr⟩
  rw [load_literal]
  split
  next one => exact (Requires.ok _).congr (by simp [one]) (by simp [one])
  next other =>
    refine (Requires.failLoad path _).congr ?_ (by simp [other])
    simp [LoadFault.isShowable, other, List.all_eq_true.mpr shown]

theorem choice_judges {name : String} {members : List (String × Value)} (some : members ≠ [])
    (shown : ∀ m ∈ members, m.2.isShowable = true) :
    Judges (choice name members).load
      (fun v => (findMember? members v).isSome = true ∨ v.isShowable = true)
      fun v => (findMember? members v).isSome := by
  refine ⟨fun path v => ?_, fun _ => .inr⟩
  rw [load_choice, if_neg (by simpa using some)]
  split
  next found => exact (Requires.ok _).congr (by simp [found]) (by simp [found])
  next none =>
    refine (Requires.failLoad path _).congr ?_ (by simp [none])
    have all : ((distinctMembers members).map (·.2)).all (·.isShowable) = true := by
      rw [List.all_map, List.all_eq_true]
      exact fun m hm => shown m (mem_of_mem_distinctMembers hm)
    simp [LoadFault.isShowable, none, all]

theorem list_judges {item : Schema} {Told Fits : Value → Prop}
    (judges : Judges item.load Told Fits) :
    Judges (list item).load (fun v => ∀ items, v.items? = some items → InTurn Told Fits items)
      fun v => ∃ items, v.items? = some items ∧ ∀ x ∈ items, Fits x := by
  refine ⟨fun path v => (loadItems_requires judges path v).map Loaded.list, ?_⟩
  intro v shown items given
  exact .of_forall fun x hx => judges.told x (Value.isShowable_of_items? given shown x hx)

theorem isKey_of_load_str {path : String} {v : Value} {l : Loaded} (h : str.load path v = .ok l) :
    l.isKey = true ∧ l.fitsPath = true := by
  replace h : loadPlain "str" path v = .ok l := h
  rw [loadPlain] at h
  split at h
  next kind =>
    cases h
    obtain ⟨s, rfl⟩ := v.kind_eq_str.mp kind
    exact ⟨rfl, rfl⟩
  next => cases h

theorem dict_judges {value : Schema} {Told Fits : Value → Prop}
    (judges : Judges value.load Told Fits) :
    Judges (dict str value).load
      (fun v => ∀ entries, v = .map entries →
        InTurn (fun e => e.1.kind = "str" → Told e.2) (fun e => e.1.kind = "str" ∧ Fits e.2)
          entries)
      fun v => ∃ entries, v = .map entries ∧ ∀ e ∈ entries, e.1.kind = "str" ∧ Fits e.2 := by
  refine ⟨fun path v => ?_, ?_⟩
  · cases v with
    | map entries =>
      have each := loadEntries_requires str_judges (fun _ _ _ => isKey_of_load_str) judges path
        entries
      exact (each.map Loaded.dict).congr (by simp) (by simp)
    | _ => exact (Requires.wrongKind path _ _).congr (by simp) (by simp)
  · rintro v shown entries rfl
    exact .of_forall fun e he _ => judges.told e.2 (Value.entriesShowable_iff.mp shown e he).2

/-- Of any value the variants of a union ask that it fits. -/
structure VariantsJudge (variants : List Schema) (Told Fits : Value → Prop) : Prop where
  requires : ∀ path v errors, Requires (loadVariant variants path v errors) (Told v) (Fits v)
  told : ∀ v, v.isShowable = true → Told v

theorem VariantsJudge.nil : VariantsJudge [] (fun _ => True) fun _ => False :=
  ⟨fun _ _ _ => .refuses trivial id _ rfl, fun _ _ => trivial⟩

theorem loadVariant_of_ne_null {s : Schema} (ne : s ≠ null) {rest : List Schema} {path : String}
    {v : Value} {errors : List LoadError} : loadVariant (s :: rest) path v errors =
      match s.load path v with
      | .error (.invalid e) => loadVariant rest path v (errors ++ [e])
      | result => result := by
  cases s <;> first | rfl | exact absurd rfl ne

theorem loadVariant_null_of_ne {v : Value} (ne : v ≠ .null) {rest : List Schema} {path : String}
    {errors : List LoadError} :
    loadVariant (null :: rest) path v errors = loadVariant rest path v errors := by
  cases v <;> first | rfl | exact absurd rfl ne

/-- The first variant decides, unless it refuses the value. -/
theorem VariantsJudge.cons {s : Schema} {rest : List Schema}
    {Told Fits ToldRest FitsRest : Value → Prop} (first : Judges s.load Told Fits)
    (later : VariantsJudge rest ToldRest FitsRest) :
    VariantsJudge (s :: rest) (fun v => Told v ∧ (¬ Fits v → ToldRest v))
      fun v => Fits v ∨ FitsRest v := by
  refine ⟨fun path v errors => ?_, fun v shown => ⟨first.told v shown, fun _ => later.told v shown⟩⟩
  by_cases isNull : s = null
  · subst isNull
    cases first.requires path v with
    | loads told fits l eq =>
      refine .loads ⟨told, fun unfit => absurd fits unfit⟩ (.inl fits) .null ?_
      cases v with
      | null => rfl
      | _ => cases eq
    | refuses told unfit e eq =>
      rw [loadVariant_null_of_ne fun isNull => by subst isNull; cases eq]
      exact (later.requires path v errors).congr (by simp [told, unfit]) (by simp [unfit])
    | unshowable untold eq => cases v <;> cases eq
  · rw [loadVariant_of_ne_null isNull]
    cases first.requires path v with
    | loads told fits l eq =>
      exact .loads ⟨told, fun unfit => absurd fits unfit⟩ (.inl fits) l (by rw [eq])
    | refuses told unfit e eq =>
      rw [eq]
      exact (later.requires path v (errors ++ [e])).congr (by simp [told, unfit]) (by simp [unfit])
    | unshowable untold eq => exact .unshowable (fun h => untold h.1) (by rw [eq])

theorem union_judges {variants : List Schema} {Told Fits : Value → Prop}
    (judges : VariantsJudge variants Told Fits) : Judges (union variants).load Told Fits :=
  ⟨fun path v => judges.requires path v [], judges.told⟩

/-- A value of the schema, or null. -/
theorem optional_judges {s : Schema} {Told Fits : Value → Prop} (judges : Judges s.load Told Fits) :
    ∃ Told', Judges (union [s, null]).load Told' fun v => Fits v ∨ v = .null := by
  have variants : VariantsJudge [s, null] _ _ := .cons judges (.cons null_judges .nil)
  simp only [or_false] at variants
  exact ⟨_, union_judges variants⟩

/-- Of the entries of a mapping the fields of a record ask that they fit. -/
structure FieldsJudge (fields : List SchemaField) (Told Fits : List (Value × Value) → Prop) :
    Prop where
  requires : ∀ path entries, Requires (loadFields fields path entries) (Told entries) (Fits entries)
  told : ∀ entries, (Value.map entries).isShowable = true → Told entries

theorem FieldsJudge.nil : FieldsJudge [] (fun _ => True) fun _ => True :=
  ⟨fun _ _ => .ok [], fun _ _ => trivial⟩

theorem fieldValue_requires {load : String → Value → Except LoadFailure Loaded}
    {Told Fits : Value → Prop} (judges : Judges load Told Fits) (path : String)
    (given : Option Value) (default : Loaded) (settable : Bool) :
    Requires (fieldValue load path given (some default) settable) (∀ v ∈ given, Told v)
      (∀ v ∈ given, Fits v) := by
  cases given with
  | some v => exact ((judges.requires path v).map some).congr (by simp) (by simp)
  | none => exact (Requires.ok (some default)).congr (by simp) (by simp)

theorem FieldsJudge.cons {name : String} {schema : Schema} {default : Loaded}
    {rest : List SchemaField} {Told Fits : Value → Prop}
    {ToldRest FitsRest : List (Value × Value) → Prop} (first : Judges schema.load Told Fits)
    (later : FieldsJudge rest ToldRest FitsRest) :
    FieldsJudge (.mk name schema (some default) true :: rest)
      (fun entries => (∀ v ∈ (Value.map entries).get? name, Told v) ∧
        ((∀ v ∈ (Value.map entries).get? name, Fits v) → ToldRest entries))
      fun entries => (∀ v ∈ (Value.map entries).get? name, Fits v) ∧ FitsRest entries := by
  refine ⟨fun path entries => ?_, fun entries shown => ⟨fun v given => ?_, fun _ => ?_⟩⟩
  · rw [loadFields_cons]
    refine (fieldValue_requires first _ _ default true).bind fun value _ => ?_
    exact (later.requires path entries).bindOk fun values => ⟨_, rfl⟩
  · exact first.told v (Value.isShowable_of_get? given shown)
  · exact later.told entries shown

/-- A mapping of which the unknown keys have an order is loaded as a record if it has none of them
and the others fit. -/
theorem record_requires {fields : List SchemaField}
    {Told Fits : List (Value × Value) → Prop} {entries : List (Value × Value)}
    (judges : FieldsJudge fields Told Fits) (name path : String)
    (ordered : (unknownKeys ((fields.filter (·.settable)).map (·.name)) entries).Pairwise
      fun a b => (a.less? b).isSome) :
    Requires ((record name fields).load path (.map entries))
      ((∀ k ∈ unknownKeys ((fields.filter (·.settable)).map (·.name)) entries,
          k.isShowable = true) ∧
        (unknownKeys ((fields.filter (·.settable)).map (·.name)) entries = [] → Told entries))
      (unknownKeys ((fields.filter (·.settable)).map (·.name)) entries = [] ∧ Fits entries) := by
  rw [load_record, ← bind_assoc]
  refine Requires.bindOk ?_ fun values => ⟨.record name values, rfl⟩
  refine (recordEntries_requires rfl ordered).bind fun given read => ?_
  have same : given = entries := eq_of_recordEntries_map rfl read
  exact same ▸ judges.requires path entries

end Schema

end FieldOrder
