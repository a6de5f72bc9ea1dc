import FieldOrder.Schema.Basic

namespace FieldOrder

/-- Unknown keys in order, which all of them must have among themselves. -/
def sortKeys (keys : List Value) : Except LoadFailure (List Value) :=
  if keys.Pairwise fun a b => (a.less? b).isSome then
    .ok (keys.mergeSort fun a b => b.less? a != some true)
  else .error .unorderedKeys

/-- Members of a set, each once. -/
def distinctLoaded (items : List Loaded) : Except LoadFailure (List Loaded) :=
  if items.all Loaded.isKey then
    .ok (items.foldl (fun seen v => if seen.any (·.same v) then seen else seen ++ [v]) [])
  else .error .notAKey

def itemPath (path : String) (i : Nat) : String := path ++ "[" ++ toString i ++ "]"

def loadItems (load : String → Value → Except LoadFailure Loaded) (path : String) (v : Value) :
    Except LoadFailure (List Loaded) :=
  let each (items : List Value) := items.zipIdx.mapM fun (v, i) => load (itemPath path i) v
  match v with
  | .list items => each items
  | .tuple items => each items
  | v => failLoad path (.wrongKind "list" v.kind)

def loadEntries (loadKey loadValue : String → Value → Except LoadFailure Loaded) (path : String)
    (entries : List (Value × Value)) : Except LoadFailure (List (Loaded × Loaded)) :=
  entries.foldlM (fun done (k, v) => do
    let key ← loadKey (path ++ ".<key>") k
    if !key.fitsPath then throw .unshowable
    let value ← loadValue (path ++ "." ++ key.pathText) v
    if key.isKey then return putEntry Loaded.same key value done
    else throw .notAKey) []

def loadPlain (expected : String) (path : String) (v : Value) : Except LoadFailure Loaded :=
  if v.kind = expected then .ok (.plain v) else failLoad path (.wrongKind expected v.kind)

/-- The entries of a map that is to be a record; null is the empty map. -/
def recordEntries (name : String) (fields : List SchemaField) (path : String) (v : Value) :
    Except LoadFailure (List (Value × Value)) := do
  let entries ← match v with
    | .null => pure []
    | .map entries => pure entries
    | v => failLoad path (.wrongKind ("mapping for " ++ name) v.kind)
  let allowed := (fields.filter (·.settable)).map (·.name)
  let extra := (entries.map (·.1)).filter fun k => !allowed.any fun a => k.same (.str a)
  if extra.isEmpty then return entries
  failLoad path (.unknownKeys (← sortKeys extra) (allowed.mergeSort fun a b => a ≤ b))

/-- The value of a field: the one given, else the default. A field that is not settable may have
none. -/
def fieldValue (load : String → Value → Except LoadFailure Loaded) (path : String)
    (given : Option Value) (default? : Option Loaded) (settable : Bool) :
    Except LoadFailure (Option Loaded) :=
  match given, default? with
  | some v, _ => (load path v).map some
  | none, some d => .ok (some d)
  | none, none => if settable then failLoad path .missing else .ok none

namespace Schema

mutual

def load : Schema → String → Value → Except LoadFailure Loaded
  | any, _, v => .ok (.plain v)
  | null, path, v =>
    match v with
    | .null => .ok .null
    | v => failLoad path (.wrongKind "null" v.kind)
  | str, path, v => loadPlain "str" path v
  | int, path, v => loadPlain "int" path v
  | float, path, v => loadPlain "float" path v
  | bool, path, v => loadPlain "bool" path v
  | unsupported shown, path, _ => failLoad path (.unsupported shown)
  | literal allowed, path, v =>
    if allowed.any v.same then .ok (.plain v) else failLoad path (.notAllowed allowed v)
  | union variants, path, v => loadVariant variants path v []
  | list item, path, v => (loadItems item.load path v).map .list
  | set member, path, v => do return .set (← distinctLoaded (← loadItems member.load path v))
  | tuple item, path, v => (loadItems item.load path v).map .tuple
  | fixedTuple _, path, v =>
    match v with
    | .list _ => .error .fixedTuple
    | .tuple _ => .error .fixedTuple
    | v => failLoad path (.wrongKind "list" v.kind)
  | dict key value, path, v =>
    match v with
    | .map entries => (loadEntries key.load value.load path entries).map .dict
    | v => failLoad path (.wrongKind "mapping" v.kind)
  | choice name members, path, v =>
    if members.isEmpty then .error .noMembers
    else match findMember? members v with
      | some (member, value) => .ok (.member name member value)
      | none => failLoad path (.notAllowed ((distinctMembers members).map (·.2)) v)
  | record name fields check, path, v => do
    let values ← loadFields fields path (← recordEntries name fields path v)
    check values
    return .record name values
  | annotated schema, path, v => schema.load path v

/-- Tries variants in turn; null is for the null variant, which is for nothing else. -/
def loadVariant : List Schema → String → Value → List LoadError → Except LoadFailure Loaded
  | [], _, _, errors => .error (.invalid (.noVariant errors))
  | null :: rest, path, v, errors =>
    match v with
    | .null => .ok .null
    | v => loadVariant rest path v errors
  | s :: rest, path, v, errors =>
    match s.load path v with
    | .error (.invalid e) => loadVariant rest path v (errors ++ [e])
    | result => result

def loadFields : List SchemaField → String → List (Value × Value) →
    Except LoadFailure (List (String × Loaded))
  | [], _, _ => .ok []
  | .mk name schema default? settable :: rest, path, entries => do
    let fieldPath := path ++ "." ++ name
    let given := if settable then (Value.map entries).get? name else none
    let value? ← fieldValue schema.load fieldPath given default? settable
    return value?.toList.map (name, ·) ++ (← loadFields rest path entries)

end

end Schema

end FieldOrder
