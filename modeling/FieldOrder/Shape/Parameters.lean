import FieldOrder.Shape.Basic

namespace FieldOrder.Parameters

def functionKinds : List String :=
  ["arrow_function", "function", "function_declaration", "function_expression",
    "generator_function", "generator_function_declaration", "method_definition"]

def markupKinds : List String := ["jsx_element", "jsx_fragment", "jsx_self_closing_element"]

mutual

/-- What stands inside parentheses, however many. -/
def withoutParens : Node → Option Node
  | .mk info children =>
    if info.kind = "parenthesized_expression" then firstWithoutParens children
    else some (.mk info children)

def firstWithoutParens : List Node → Option Node
  | [] => none
  | n :: rest =>
    if n.isNamed && !n.isComment then withoutParens n else firstWithoutParens rest

end

def isMarkup (n : Option Node) : Bool :=
  match n.bind withoutParens with
  | some value => markupKinds.contains value.kind
  | none => false

/-- Does a statement of the function itself return markup, or is markup its body? -/
def returnsMarkup (f : Node) : Bool :=
  match f.child? "body" with
  | none => false
  | some body =>
    if body.kind = "statement_block" then
      body.entries.any fun s => s.kind == "return_statement" && isMarkup s.entries.head?
    else isMarkup (some body)

/-- The name of a function: its own, or that of the variable it is the value of. -/
def declaredName (d : Document) (s : Site) : Except DocumentError (Option String) := do
  match s.node.child? "name" with
  | some name => return some (← d.nodeText name)
  | none =>
    match s.parent with
    | some parent =>
      if parent.kind ≠ "variable_declarator" then return none
      match parent.child? "name" with
      | some target =>
        if target.kind = "identifier" then return some (← d.nodeText target) else return none
      | none => return none
    | none => return none

/-- A function looks like a component if its name is capitalized or it returns markup. -/
def isComponent (d : Document) (s : Site) : Except DocumentError Bool := do
  let capitalized := match ← declaredName d s with
    | some name => (name.toList.head?.map Text.isUpper).getD false
    | none => false
  return capitalized || returnsMarkup s.node

/-- The object pattern that is the first parameter, its type and default value aside. -/
def pattern? (f : Node) : Option Node := do
  let parameters ← f.child? "parameters"
  let first ← parameters.entries.head?
  let pattern ←
    if first.kind = "required_parameter" || first.kind = "optional_parameter" then
      first.child? "pattern"
    else if first.kind = "assignment_pattern" then first.child? "left"
    else some first
  if pattern.kind = "object_pattern" then some pattern else none

/-- Does a comment start between the start of the first entry and the end of the last? -/
def hasInnerComment (pattern : Node) (entries : List Node) : Bool :=
  match entries.head?, entries.getLast? with
  | some first, some last => pattern.namedChildren.any fun c =>
      c.isComment && first.start < c.start && c.start < last.stop
  | _, _ => false

def describe (d : Document) (entry : Node) : Except DocumentError Field := do
  match entry.kind with
  | "rest_pattern" => return { d.fieldAt entry none with kind := .rest }
  | "object_assignment_pattern" =>
    let name ← d.keyName (entry.child? "left")
    return { d.fieldAt entry name with optional := true }
  | "pair_pattern" =>
    let name ← d.keyName (entry.child? "key")
    let defaulted := (entry.child? "value").any (·.kind == "assignment_pattern")
    return { d.fieldAt entry name with optional := defaulted }
  | _ => return d.fieldAt entry (← d.keyName (some entry))

def extract (d : Document) (s : Site) : Except DocumentError (Option FieldList) := do
  match pattern? s.node with
  | none => return none
  | some pattern =>
    let entries := pattern.entries
    if entries.length < 2 then return none
    let component ← isComponent d s
    let fields ← entries.mapM (describe d)
    return some {
      fields, owner := s.node, container := .component, isComponent := component
      fixable := !hasInnerComment pattern entries }

end FieldOrder.Parameters
