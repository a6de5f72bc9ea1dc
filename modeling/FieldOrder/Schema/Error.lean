import FieldOrder.Schema.Value

namespace FieldOrder

/-- What is wrong with a value. -/
inductive LoadFault where
  | wrongKind (expected found : String)
  | notAllowed (allowed : List Value) (found : Value)
  | unknownKeys (keys : List Value) (allowed : List String)
  | missing
  | unsupported (shown : String)

def LoadFault.message : LoadFault → String
  | wrongKind expected found => "expected " ++ expected ++ ", got " ++ found
  | notAllowed allowed found =>
    "expected one of " ++ Value.shownList allowed ++ ", got " ++ found.shown
  | unknownKeys keys allowed =>
    "unknown key(s): " ++ Value.shownList keys ++ "; allowed: " ++
      Value.shownList (allowed.map .str)
  | missing => "required field missing"
  | unsupported shown => "unsupported annotation " ++ shown

def LoadFault.isShowable : LoadFault → Bool
  | notAllowed allowed found => allowed.all (·.isShowable) && found.isShowable
  | unknownKeys keys _ => keys.all (·.isShowable)
  | _ => true

inductive LoadError where
  | atPath (path : String) (fault : LoadFault)
  /-- No variant of a union accepts the value; for each, why. -/
  | noVariant (errors : List LoadError)

mutual

def LoadError.message : LoadError → String
  | .atPath path fault => path ++ ": " ++ fault.message
  | .noVariant errors => " | ".intercalate (LoadError.messages errors)

def LoadError.messages : List LoadError → List String
  | [] => []
  | e :: rest => e.message :: LoadError.messages rest

end

/-- Why loading ended without a value. -/
inductive LoadFailure where
  /-- The value does not fit the schema. -/
  | invalid (e : LoadError)
  /-- A tuple schema with a number of places other than one. -/
  | fixedTuple
  /-- A member of a set or a key that can be none. -/
  | notAKey
  /-- Unknown keys that have no order to be listed in. -/
  | unorderedKeys
  /-- What is wrong cannot be told, for a number that is not shown. -/
  | unshowable
  /-- A choice that has no members. -/
  | noMembers
  /-- A record refuses its fields by an error of its own. -/
  | raised (kind : String)

def fixedTupleMessage : String := "too many values to unpack (expected 1)"

def unshowableMessage : String :=
  "Exceeds the limit (" ++ toString Value.digitLimit ++
    " digits) for integer string conversion; use sys.set_int_max_str_digits() to increase the limit"

def failLoad {α : Type} (path : String) (fault : LoadFault) : Except LoadFailure α :=
  .error (if fault.isShowable then .invalid (.atPath path fault) else .unshowable)

end FieldOrder
