import FieldOrder.Yaml.Token

namespace FieldOrder.Yaml

/-- The name and the tag of a node. -/
structure Properties where
  anchor : Option String := none
  tag : Option String := none
  deriving Repr, DecidableEq

inductive Node where
  | alias (name : String)
  | scalar (properties : Properties) (text : String) (plain : Bool)
  | sequence (properties : Properties) (items : List Node)
  | mapping (properties : Properties) (entries : List (Node × Node))
  deriving Inhabited

def Node.empty : Node := .scalar {} "" true

abbrev Tokens := StateT (List Token) Option

namespace Tokens

/-- Is the next token one of these? The end of the tokens is none of them. -/
def sees (ts : List Token) : Tokens Bool := return (← get).head?.any ts.contains

def drop : Tokens Unit := modify List.tail

def accept (t : Token) : Tokens Bool := do
  if ← sees [t] then
    drop
    return true
  else return false

def expect (t : Token) : Tokens Unit := do
  if !(← accept t) then failure

def anchor? : Tokens (Option String) := do
  match ← get with
  | .anchor name :: rest =>
    set rest
    return some name
  | _ => return none

abbrev Handles := List (String × String)

def tag? (handles : Handles) : Tokens (Option String) := do
  match ← get with
  | .tag none suffix :: rest =>
    set rest
    return some suffix
  | .tag (some handle) suffix :: rest =>
    set rest
    return some ((← handles.lookup handle) ++ suffix)
  | _ => return none

def properties (handles : Handles) : Tokens Properties := do
  match ← anchor? with
  | some name => return ⟨some name, ← tag? handles⟩
  | none =>
    match ← tag? handles with
    | some tag => return ⟨← anchor?, some tag⟩
    | none => return {}

inductive Position where
  | flow
  | block
  /-- After a key, where the entries of a list need no deeper indentation. -/
  | afterKey
  deriving DecidableEq

mutual

def node (handles : Handles) : Nat → Position → Tokens Node
  | 0, _ => failure
  | fuel + 1, position => do
    if let .alias name :: rest := ← get then
      set rest
      return .alias name
    let p ← properties handles
    if position = .afterKey && (← sees [.blockEntry]) then
      return .sequence p (← indentless handles fuel)
    match ← get with
    | .scalar text plain :: rest =>
      set rest
      return .scalar p text plain
    | .sequenceStart :: rest =>
      set rest
      return .sequence p (← flowItems handles fuel true)
    | .mappingStart :: rest =>
      set rest
      return .mapping p (← flowEntries handles fuel true)
    | t :: rest =>
      if t = .blockSequenceStart && position ≠ .flow then
        set rest
        return .sequence p (← blockItems handles fuel)
      else if t = .blockMappingStart && position ≠ .flow then
        set rest
        return .mapping p (← blockEntries handles fuel)
      else if p = {} then failure
      else return .scalar p "" true
    | [] => if p = {} then failure else return .scalar p "" true

/-- Reads one node, or nothing before one of the tokens `ends` or the end. -/
def optional (handles : Handles) : Nat → Position → List Token → Tokens Node
  | 0, _, _ => failure
  | fuel + 1, position, ends => do
    if ← sees ends then return .empty else node handles fuel position

def blockItems (handles : Handles) : Nat → Tokens (List Node)
  | 0 => failure
  | fuel + 1 => do
    if ← accept .blockEntry then
      let item ← optional handles fuel .block [.blockEntry, .blockEnd]
      return item :: (← blockItems handles fuel)
    expect .blockEnd
    return []

def indentless (handles : Handles) : Nat → Tokens (List Node)
  | 0 => failure
  | fuel + 1 => do
    if ← accept .blockEntry then
      let item ← optional handles fuel .block [.blockEntry, .key, .value, .blockEnd]
      return item :: (← indentless handles fuel)
    return []

def blockEntries (handles : Handles) : Nat → Tokens (List (Node × Node))
  | 0 => failure
  | fuel + 1 => do
    let ends := [Token.key, .value, .blockEnd]
    if ← accept .key then
      let k ← optional handles fuel .afterKey ends
      let v ← if ← accept .value then optional handles fuel .afterKey ends else pure .empty
      return (k, v) :: (← blockEntries handles fuel)
    if ← accept .value then
      let v ← optional handles fuel .afterKey ends
      return (.empty, v) :: (← blockEntries handles fuel)
    expect .blockEnd
    return []

/-- Reads items to the closing bracket. An item with a colon is a mapping of one entry. -/
def flowItems (handles : Handles) : Nat → Bool → Tokens (List Node)
  | 0, _ => failure
  | fuel + 1, first => do
    if ← accept .sequenceEnd then return []
    if !first then expect .flowEntry
    if ← accept .sequenceEnd then return []
    let item ← if ← accept .key then do
        let k ← optional handles fuel .flow [.value, .flowEntry, .sequenceEnd]
        let v ← if ← accept .value then optional handles fuel .flow [.flowEntry, .sequenceEnd]
          else pure .empty
        pure (.mapping {} [(k, v)])
      else node handles fuel .flow
    return item :: (← flowItems handles fuel false)

/-- Reads entries to the closing brace. A key may stand alone, and so may a value. -/
def flowEntries (handles : Handles) : Nat → Bool → Tokens (List (Node × Node))
  | 0, _ => failure
  | fuel + 1, first => do
    if ← accept .mappingEnd then return []
    if !first then expect .flowEntry
    if ← accept .mappingEnd then return []
    let entry ← if ← accept .key then do
        let k ← optional handles fuel .flow [.value, .flowEntry, .mappingEnd]
        let v ← if ← accept .value then optional handles fuel .flow [.flowEntry, .mappingEnd]
          else pure .empty
        pure (k, v)
      else if ← accept .value then do
        pure (.empty, ← optional handles fuel .flow [.flowEntry, .mappingEnd])
      else pure (← node handles fuel .flow, .empty)
    return entry :: (← flowEntries handles fuel false)

end

def defaultHandles : Handles := [("!", "!"), ("!!", "tag:yaml.org,2002:")]

/-- Directives before a document: at most one version, which must be of the first kind, and at most
one meaning for each handle. -/
def directives : Nat → Bool → Handles → Tokens Handles
  | 0, _, handles => return handles
  | fuel + 1, versioned, handles => do
    match ← get with
    | .versionDirective major :: rest =>
      if versioned || major ≠ 1 then failure
      set rest
      directives fuel true handles
    | .tagDirective handle start :: rest =>
      if (handles.lookup handle).isSome then failure
      set rest
      directives fuel versioned ((handle, start) :: handles)
    | .otherDirective :: rest =>
      set rest
      directives fuel versioned handles
    | _ => return handles

def document : Tokens (Option Node) := do
  let tokens ← get
  let fuel := 4 * tokens.length + 4
  match tokens with
  | [] => return none
  | t :: _ =>
    let marked := match t with
      | .versionDirective _ | .tagDirective .. | .otherDirective | .documentStart => true
      | _ => false
    let root ← if marked then do
        let own ← directives fuel false []
        expect .documentStart
        let ended := match ← get with
          | [] => true
          | .versionDirective _ :: _ | .tagDirective .. :: _ | .otherDirective :: _ => true
          | .documentStart :: _ | .documentEnd :: _ => true
          | _ => false
        if ended then pure .empty else node (own ++ defaultHandles) fuel .block
      else node defaultHandles fuel .block
    let _ ← accept .documentEnd
    if (← get).isEmpty then return some root else failure

end Tokens

def Node.ofTokens? (tokens : List Token) : Option (Option Node) := Tokens.document.run' tokens

end FieldOrder.Yaml
