import FieldOrder.Proofs.Schema.Inhabits

namespace FieldOrder

/-- What becomes of null. -/
inductive OnNull where
  | refused
  | kept
  /-- It stands for another value. -/
  | replaced
  /-- Loading it fails, and not because it does not fit. -/
  | failed
  deriving DecidableEq

/-- Is the result of a loading what becomes of null? -/
def OnNull.Gives (x : Except LoadFailure Loaded) : OnNull → Prop
  | refused => ∃ e, x = .error (.invalid e)
  | kept => x = .ok .null
  | replaced => ∃ l, l ≠ .null ∧ x = .ok l
  | failed => ∃ f, x = .error f ∧ ∀ e, f ≠ .invalid e

theorem Value.same_null (v : Value) : v.same .null = true ↔ v = .null := by
  cases v <;> simp [same, number?]

/-- Need the field not be given? -/
def SchemaField.optional (f : SchemaField) : Bool := !f.settable || f.default?.isSome

/-- The values of the fields of a record that is given none. -/
def SchemaField.defaults (fields : List SchemaField) : List (String × Loaded) :=
  fields.flatMap fun f => f.default?.toList.map (f.name, ·)

namespace Schema

mutual

def onNull : Schema → OnNull
  | any => .kept
  | null => .kept
  | literal allowed =>
    if allowed.any Value.null.same then .kept
    else if allowed.all (·.isShowable) then .refused
    else .failed
  | union variants => onNullOf variants
  | choice _ members =>
    if members.isEmpty then .failed
    else if members.any (·.2.same .null) then .replaced
    else if (distinctMembers members).all (·.2.isShowable) then .refused
    else .failed
  | record _ fields check =>
    if fields.all (·.optional) then
      match check (SchemaField.defaults fields) with
      | .ok () => .replaced
      | .error (.invalid _) => .refused
      | .error _ => .failed
    else .refused
  | annotated s => s.onNull
  | _ => .refused

/-- The first variant that does not refuse null decides. -/
def onNullOf : List Schema → OnNull
  | [] => .refused
  | s :: rest => if s.onNull = .refused then onNullOf rest else s.onNull

end

/-- Null chooses a member by its value, as it is no name. -/
theorem isSome_findMember?_null (members : List (String × Value)) :
    (findMember? members .null).isSome = members.any (·.2.same .null) := by
  have eq : findMember? members .null = (distinctMembers members).find? (·.2.same .null) := by
    unfold findMember?
    cases found : (distinctMembers members).find? (·.2.same .null) <;> simp only [found]
  rw [eq, Bool.eq_iff_iff, List.find?_isSome, List.any_eq_true]
  constructor
  · rintro ⟨m, hm, isNull⟩
    exact ⟨m, mem_of_mem_distinctMembers hm, isNull⟩
  · rintro ⟨m, hm, isNull⟩
    obtain ⟨first, hfirst, equal⟩ := exists_mem_distinctMembers hm
    refine ⟨first, hfirst, ?_⟩
    rcases equal with rfl | same
    · exact isNull
    · rwa [(Value.same_null m.2).mp isNull] at same

theorem loadFields_nil (fields : List SchemaField) (path : String) :
    if fields.all (·.optional) then
      loadFields fields path [] = .ok (SchemaField.defaults fields)
    else ∃ e, loadFields fields path [] = .error (.invalid e) := by
  induction fields with
  | nil => rfl
  | cons f rest ih =>
    obtain ⟨name, schema, default?, settable⟩ := f
    have absent : (if settable = true then (Value.map []).get? name else none) = none := by
      cases settable <;> rfl
    rw [loadFields_cons, absent, List.all_cons]
    by_cases missing : default? = none ∧ settable = true
    · obtain ⟨rfl, rfl⟩ := missing
      exact ⟨_, rfl⟩
    have optional : (SchemaField.mk name schema default? settable).optional = true := by
      cases settable <;> cases default? <;>
        simp_all [SchemaField.optional, SchemaField.settable, SchemaField.default?]
    have value : fieldValue schema.load (path ++ "." ++ name) none default? settable =
        .ok default? := by
      cases settable <;> cases default? <;> simp_all [fieldValue]
    rw [optional, Bool.true_and]
    simp only [value, ok_bind]
    split at ih
    next all =>
      rw [if_pos all, ih]
      rfl
    next some =>
      obtain ⟨e, failed⟩ := ih
      rw [if_neg some, failed]
      exact ⟨e, rfl⟩

/-- A fault refuses null if it can be told. -/
theorem failLoad_gives {path : String} {fault : LoadFault} {told : Bool}
    (eq : fault.isShowable = told) :
    (if told = true then OnNull.refused else .failed).Gives (failLoad path fault) := by
  rw [failLoad, eq]
  cases told with
  | true => exact ⟨_, rfl⟩
  | false => exact ⟨_, rfl, fun _ h => by cases h⟩

theorem recordEntries_null (name : String) (fields : List SchemaField) (path : String) :
    recordEntries name fields path .null = .ok [] := by
  show recordEntries name fields path (.map []) = .ok []
  exact recordEntries_of_known rfl rfl

mutual

theorem onNull_gives : (s : Schema) → ∀ path, s.onNull.Gives (s.load path .null)
  | .any, path => rfl
  | .null, path => rfl
  | .str, path => ⟨_, rfl⟩
  | .int, path => ⟨_, rfl⟩
  | .float, path => ⟨_, rfl⟩
  | .bool, path => ⟨_, rfl⟩
  | .unsupported shown, path => ⟨_, rfl⟩
  | .literal allowed, path => by
    rw [onNull, load_literal]
    by_cases kept : allowed.any Value.null.same = true
    · rw [if_pos kept, if_pos kept]
      rfl
    rw [if_neg kept, if_neg kept]
    exact failLoad_gives (by simp [LoadFault.isShowable, Value.isShowable])
  | .union variants, path => by
    rw [onNull]
    exact onNullOf_gives variants path []
  | .list item, path => ⟨_, rfl⟩
  | .set member, path => ⟨_, rfl⟩
  | .tuple item, path => ⟨_, rfl⟩
  | .fixedTuple items, path => ⟨_, rfl⟩
  | .dict key value, path => ⟨_, rfl⟩
  | .choice name members, path => by
    rw [onNull, load_choice]
    by_cases none : members.isEmpty = true
    · rw [if_pos none, if_pos none]
      exact ⟨_, rfl, nofun⟩
    rw [if_neg none, if_neg none, ← isSome_findMember?_null]
    cases findMember? members .null with
    | some m => exact ⟨.member name m.1 m.2, nofun, rfl⟩
    | none =>
      rw [if_neg (by simp)]
      refine failLoad_gives ?_
      rw [LoadFault.isShowable, List.all_map]
      exact Bool.and_true _
  | .record name fields check, path => by
    rw [onNull, load_record, recordEntries_null, ok_bind]
    have loaded := loadFields_nil fields path
    split at loaded
    next all =>
      rw [if_pos all, loaded, ok_bind]
      cases check (SchemaField.defaults fields) with
      | ok _ => exact ⟨.record name _, nofun, rfl⟩
      | error f =>
        cases f with
        | invalid e => exact ⟨e, rfl⟩
        | _ => exact ⟨_, rfl, nofun⟩
    next some =>
      obtain ⟨e, failed⟩ := loaded
      rw [if_neg some, failed]
      exact ⟨e, rfl⟩
  | .annotated s, path => by
    rw [onNull]
    exact onNull_gives s path

theorem onNullOf_gives : (variants : List Schema) → ∀ path errors,
    (onNullOf variants).Gives (loadVariant variants path .null errors)
  | [], path, errors => ⟨_, rfl⟩
  | s :: rest, path, errors => by
    by_cases isNull : s = .null
    · subst isNull
      rfl
    have first := onNull_gives s path
    rw [onNullOf, loadVariant_of_ne_null isNull]
    cases onNull : s.onNull with
    | refused =>
      rw [onNull] at first
      obtain ⟨e, failed⟩ := first
      rw [failed]
      exact onNullOf_gives rest path (errors ++ [e])
    | kept =>
      rw [onNull] at first
      rw [show s.load path .null = .ok .null from first]
      rfl
    | replaced =>
      rw [onNull] at first
      obtain ⟨l, ne, loaded⟩ := first
      rw [loaded]
      exact ⟨l, ne, rfl⟩
    | failed =>
      rw [onNull] at first
      obtain ⟨f, failed, other⟩ := first
      rw [failed]
      cases f with
      | invalid e => exact absurd rfl (other e)
      | _ => exact ⟨_, rfl, nofun⟩

end

end Schema

end FieldOrder
