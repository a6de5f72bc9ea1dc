import FieldOrder.Text.Quoted

namespace FieldOrder

structure UnknownChoice where
  word : String
  choice : String
  deriving Repr, DecidableEq

def UnknownChoice.message (e : UnknownChoice) : String :=
  Text.quoted e.word ++ " is not a valid " ++ e.choice

/-- A finite choice: its name, and its values with their words. -/
class Choice (α : Type) where
  name : String
  words : List (String × α)
  word : α → String

namespace Choice

def ofWord {α : Type} [Choice α] (w : String) : Except UnknownChoice α :=
  match (words (α := α)).lookup w with
  | some a => .ok a
  | none => .error ⟨w, name α⟩

end Choice

end FieldOrder
