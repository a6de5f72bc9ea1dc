import FieldOrder.Text.Case
import FieldOrder.Text.Decomposition

namespace FieldOrder

/-- Letters weigh most, then accents, then case, lowercase first. -/
structure CollationKey where
  /-- The letters, without accents and case. -/
  letters : String
  /-- The letters with their accents, without case. -/
  accents : String
  /-- The text with its case swapped, so that lowercase comes first. -/
  swapped : String
  deriving Repr, DecidableEq

namespace CollationKey

def ofText (text : String) : CollationKey where
  letters := Text.caseFold (Text.withoutMarks (Text.decompose text))
  accents := Text.caseFold (Text.decompose text)
  swapped := Text.swapCase text

/-- The first part that differs decides. -/
def compare (a b : CollationKey) : Ordering :=
  (Ord.compare a.letters b.letters).then
    ((Ord.compare a.accents b.accents).then (Ord.compare a.swapped b.swapped))

end CollationKey

end FieldOrder
