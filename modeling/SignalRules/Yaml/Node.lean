import SignalRules.Yaml.Token
/-!
The nodes that the tokens of a document make up. A node may be given a name by an anchor and stand in other places
by an alias. Anchors are numbered by the count of different names so far; when a name is used again two nodes can
come to share a number, and the later one then stands for both.
-/

set_option autoImplicit false

namespace SignalRules.Yaml

inductive Node where
  | scalar (tag : Option String) (isPlain : Bool) (text : String)
  | sequence (tag : Option String) (items : List Node)
  | mapping (tag : Option String) (entries : List (Node × Node))
  | alias (number : Nat)
deriving Inhabited

structure Anchored where
  number : Nat
  order : Nat
  node : Node

-- The root is missing in a text without any node. `events` counts the scalars and aliases and twice the
-- collections.
structure Document where
  root : Option Node
  anchored : List Anchored
  events : Nat

namespace Document

def resolve? (d : Document) (number : Nat) : Option Node :=
  let latest := d.anchored.foldl (fun best a =>
    if a.number = number ∧ best.all (·.order < a.order) then some a else best) (none : Option Anchored)
  latest.map (·.node)

end Document

structure NodeReader where
  tokens : List Token
  handles : List (String × String)
  names : List (String × Nat)
  started : Nat
  anchored : List Anchored
  events : Nat

namespace NodeReader

abbrev Reads := StateT NodeReader Option

def peek : Reads (Option Token) := do return (← get).tokens.head?
def skip : Reads Unit := modify fun c => { c with tokens := c.tokens.drop 1 }
def count (n : Nat) : Reads Unit := modify fun c => { c with events := c.events + n }

def accept (t : Token) : Reads Bool := do
  if (← peek) == some t then
    skip
    return true
  else return false

def require (t : Token) : Reads Unit := do if !(← accept t) then failure

def atAny (ts : List Token) : Reads Bool := do return (← peek).all ts.contains

def anchorNumber (names : List (String × Nat)) : Nat := (names.map (·.1)).eraseDups.length

def openAnchor : Option String → Reads (Option (Nat × Nat))
  | none => return none
  | some name => do
    let c ← get
    let number := anchorNumber c.names
    set { c with names := (name, number) :: c.names, started := c.started + 1 }
    return some (number, c.started)

def closeAnchor (opened : Option (Nat × Nat)) (node : Node) : Reads Node := do
  match opened with
  | none => return node
  | some (number, order) =>
    modify fun c => { c with anchored := ⟨number, order, node⟩ :: c.anchored }
    return node

def empty : Reads Node := do
  count 1
  return .scalar none true ""

def readAlias (name : String) : Reads Node := do
  match (← get).names.lookup name with
  | none => failure
  | some number =>
    skip
    count 1
    return .alias number

def expandTag (handle suffix : String) : Reads String := do
  if handle.isEmpty then return suffix
  match (← get).handles.lookup handle with
  | some stem => return stem ++ suffix
  | none => failure

def tag? : Reads (Option String) := do
  match ← peek with
  | some (.tag handle suffix) =>
    skip
    return some (← expandTag handle suffix)
  | _ => return none

def anchor? : Reads (Option String) := do
  match ← peek with
  | some (.anchor name) =>
    skip
    return some name
  | _ => return none

def properties : Reads (Option String × Option String) := do
  match ← anchor? with
  | some name => return (some name, ← tag?)
  | none =>
    let tag ← tag?
    return (← anchor?, tag)

mutual
-- A node. Block collections may start where `inBlock`, and a sequence without indentation where `bare`.
def node (fuel : Nat) (inBlock bare : Bool) : Reads Node := do
  match fuel with
  | 0 => failure
  | fuel + 1 =>
    if let some (.alias name) ← peek then return ← readAlias name
    let (anchor, tag) ← properties
    let opened ← openAnchor anchor
    match ← peek with
    | some (.scalar isPlain text) =>
      skip
      count 1
      closeAnchor opened (.scalar (if tag == some "!" then none else tag) isPlain text)
    | some .flowSequence =>
      skip
      count 2
      closeAnchor opened (.sequence tag (← flowItems fuel true))
    | some .flowMapping =>
      skip
      count 2
      closeAnchor opened (.mapping tag (← flowEntries fuel true))
    | next =>
      if bare && next == some .blockEntry then
        count 2
        closeAnchor opened (.sequence tag (← bareItems fuel))
      else if inBlock && next == some .blockSequence then
        skip
        count 2
        closeAnchor opened (.sequence tag (← blockItems fuel))
      else if inBlock && next == some .blockMapping then
        skip
        count 2
        closeAnchor opened (.mapping tag (← blockEntries fuel))
      else if anchor.isSome || tag.isSome then
        count 1
        closeAnchor opened (.scalar tag true "")
      else failure

def blockItems (fuel : Nat) : Reads (List Node) := do
  match fuel with
  | 0 => failure
  | fuel + 1 =>
    if ← accept .blockEntry then
      let item ← if ← atAny [.blockEntry, .blockEnd] then empty else node fuel true false
      return item :: (← blockItems fuel)
    else
      require .blockEnd
      return []

def bareItems (fuel : Nat) : Reads (List Node) := do
  match fuel with
  | 0 => failure
  | fuel + 1 =>
    if ← accept .blockEntry then
      let item ← if ← atAny [.blockEntry, .key, .value, .blockEnd] then empty else node fuel true false
      return item :: (← bareItems fuel)
    else return []

def blockEntries (fuel : Nat) : Reads (List (Node × Node)) := do
  match fuel with
  | 0 => failure
  | fuel + 1 =>
    if ← accept .key then
      let key ← if ← atAny [.key, .value, .blockEnd] then empty else node fuel true true
      let value ← if ← accept .value then
          if ← atAny [.key, .value, .blockEnd] then empty else node fuel true true
        else empty
      return (key, value) :: (← blockEntries fuel)
    else
      require .blockEnd
      return []

def flowItems (fuel : Nat) (first : Bool) : Reads (List Node) := do
  match fuel with
  | 0 => failure
  | fuel + 1 =>
    if ← accept .flowSequenceEnd then return []
    if !first then require .flowEntry
    if ← accept .flowSequenceEnd then return []
    if ← accept .key then
      count 2
      -- A pair without a key takes the mark that comes next with it, whatever that is.
      let key ← if ← atAny [.value, .flowEntry, .flowSequenceEnd] then
          skip
          empty
        else node fuel false false
      let value ← if ← accept .value then
          if ← atAny [.flowEntry, .flowSequenceEnd] then empty else node fuel false false
        else empty
      return .mapping none [(key, value)] :: (← flowItems fuel false)
    else
      let item ← node fuel false false
      return item :: (← flowItems fuel false)

def flowEntries (fuel : Nat) (first : Bool) : Reads (List (Node × Node)) := do
  match fuel with
  | 0 => failure
  | fuel + 1 =>
    if ← accept .flowMappingEnd then return []
    if !first then require .flowEntry
    if ← accept .flowMappingEnd then return []
    if ← accept .key then
      let key ← if ← atAny [.value, .flowEntry, .flowMappingEnd] then empty else node fuel false false
      let value ← if ← accept .value then
          if ← atAny [.flowEntry, .flowMappingEnd] then empty else node fuel false false
        else empty
      return (key, value) :: (← flowEntries fuel false)
    else
      let key ← node fuel false false
      return (key, ← empty) :: (← flowEntries fuel false)
end

def isDirective : Token → Bool
  | .version _ _ => true
  | .tagDirective _ _ => true
  | _ => false

def directives (version : Bool) (handles : List (String × String)) : List Token → Option (List (String × String))
  | [] => some (handles ++ [("!", "!"), ("!!", "tag:yaml.org,2002:")])
  | .version major minor :: rest =>
    if version || major != 1 || (minor != 1 && minor != 2) then none else directives true handles rest
  | .tagDirective handle stem :: rest =>
    if (handles.lookup handle).isSome then none else directives version ((handle, stem) :: handles) rest
  | _ :: _ => none

def root (explicit : Bool) : Reads Node := do
  if explicit && (← atAny [.documentStart, .documentEnd]) || explicit && (← peek).any isDirective then empty
  else node (4 * (← get).tokens.length + 4) true false

end NodeReader

def Document.ofTokens? (tokens : List Token) : Option Document := do
  let leading := tokens.takeWhile NodeReader.isDirective
  let body := tokens.drop leading.length
  let handles ← NodeReader.directives false [] leading
  let explicit := body.head? == some .documentStart
  if tokens.isEmpty then return ⟨none, [], 0⟩
  if !leading.isEmpty && !explicit then none
  let (root, c) ← (NodeReader.root explicit).run ⟨if explicit then body.drop 1 else body, handles, [], 0, [], 0⟩
  if c.tokens.all (· == .documentEnd) then return ⟨some root, c.anchored, c.events⟩ else none

end SignalRules.Yaml
