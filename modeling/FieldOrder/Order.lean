import FieldOrder.Policy

/-!
Checking and computing the order of a field list. A comparison need not be transitive, since a field
without a name ties with every other; so the sort itself is fixed: the run that the list begins
with, reversed if it descends, and then each further entry put in its place by binary search.
-/

namespace FieldOrder

section
variable {α : Type} {m : Type → Type} [Monad m]

/-- Splits off the entries that go on as the run begins: each less than the one before it, or none.
-/
def splitRun (less : α → α → m Bool) (descending : Bool) : α → List α → m (List α × List α)
  | _, [] => pure ([], [])
  | last, x :: rest => do
    if (← less x last) == descending then
      let (run, others) ← splitRun less descending x rest
      pure (x :: run, others)
    else pure ([], x :: rest)

/-- How many of the sorted entries an entry belongs after. -/
def insertionPoint (less : α → α → m Bool) (p : α) (sorted : List α) : m Nat :=
  match h : sorted.drop (sorted.length / 2) with
  | [] => pure 0
  | middle :: upper => do
    if ← less p middle then insertionPoint less p (sorted.take (sorted.length / 2))
    else do
      let n ← insertionPoint less p upper
      pure (sorted.length / 2 + 1 + n)
termination_by sorted.length
decreasing_by
  · have := congrArg List.length h
    simp at this ⊢
    omega
  · have := congrArg List.length h
    simp at this
    omega

/-- Puts an entry in its place among the sorted ones, behind those it ties with. -/
def insertSorted (less : α → α → m Bool) (sorted : List α) (p : α) : m (List α) := do
  let n ← insertionPoint less p sorted
  pure (sorted.take n ++ p :: sorted.drop n)

/-- Lists of this length and longer ones are sorted by merging such runs instead. That comes to the
same unless the comparison is not transitive. -/
def mergeLength : Nat := 64

/-- The stable sort of a list. -/
def sortBy (less : α → α → m Bool) : List α → m (List α)
  | [] => pure []
  | [x] => pure [x]
  | x :: y :: rest => do
    let descending ← less y x
    let (run, others) ← splitRun less descending y rest
    let start := if descending then (x :: y :: run).reverse else x :: y :: run
    others.foldlM (insertSorted less) start

/-- Does no entry compare greater than the next one? -/
def isSortedBy (compare : α → α → m Ordering) : List α → m Bool
  | x :: y :: rest => do
    match ← compare x y with
    | .gt => pure false
    | _ => isSortedBy compare (y :: rest)
  | _ => pure true

/-- The sort as a permutation: at each position the index of the entry that belongs there. -/
def sortOrderBy (compare : α → α → m Ordering) (xs : List α) : m (List Nat) := do
  let sorted ← sortBy (fun a b => do
    match ← compare a.1 b.1 with
    | .lt => pure true
    | _ => pure false) xs.zipIdx
  pure (sorted.map (·.2))

end

namespace Policy

def isOrdered (p : Policy) (fields : List Field) : Bool :=
  Id.run (isSortedBy (fun a b => pure (p.compare a b)) fields)

def sortOrder (p : Policy) (fields : List Field) : List Nat :=
  Id.run (sortOrderBy (fun a b => pure (p.compare a b)) fields)

/-- The fields in canonical order. -/
def sorted (p : Policy) (fields : List Field) : List Field :=
  (p.sortOrder fields).filterMap (fields[·]?)

end Policy

/-- Positions whose entry comes from elsewhere. -/
def movedPositions (order : List Nat) : List Nat :=
  (order.zipIdx.filter fun (source, position) => position != source).map (·.2)

def isIdentity (order : List Nat) : Bool := (movedPositions order).isEmpty

end FieldOrder
