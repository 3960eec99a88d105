import SignalRules.Yaml.Lexer
import SignalRules.Yaml.Node
import SignalRules.Yaml.Plain

set_option autoImplicit false

namespace SignalRules.Yaml

-- Reading counts the aliases that were followed.
abbrev Read := StateT Nat Option

namespace Document

def maxDepth : Nat := 128

def follow (d : Document) : Node → Read Node
  | .alias number => do
    let jumps := (← get) + 1
    set jumps
    if 100 * d.events < jumps then failure
    match d.resolve? number with
    | some node => return node
    | none => failure
  | node => return node

def ownTag? (tag : Option String) : Option String :=
  tag.bind fun s =>
    match s.toList with
    | '!' :: name => some (String.ofList name)
    | _ => none

def tagWith (tag : Option String) (content : Datum) : Read Datum :=
  match ownTag? tag with
  | none => return content
  | some name => if name.isEmpty then failure else return .tagged name content

def datum (d : Document) (depth : Nat) (n : Node) : Read Datum := do
  match ← d.follow n, depth with
  | .scalar tag isPlain text, _ =>
    tagWith tag (← (Datum.ofScalar? (if (ownTag? tag).isSome then none else tag) isPlain text : Option Datum))
  | .sequence tag items, depth + 1 => tagWith tag (.sequence (← items.mapM (datum d depth)))
  | .mapping tag entries, depth + 1 =>
    let entries ← entries.mapM fun (key, value) => return (← datum d depth key, ← datum d depth value)
    if Datum.hasRepeatedKey entries then failure else tagWith tag (.mapping entries)
  | _, _ => failure

def text (d : Document) (n : Node) : Read String := do
  match ← d.follow n with
  | .scalar _ _ text => return text
  | _ => failure

def optional {α : Type} (d : Document) (read : Node → Read α) (n : Node) : Read (Option α) := do
  let n ← d.follow n
  match n with
  | .scalar none true text => if text.isEmpty || isNullWord text then return none else return some (← read n)
  | .scalar (some "tag:yaml.org,2002:null") true text => if isNullWord text then return none else failure
  | _ => return some (← read n)

def items (d : Document) (n : Node) : Read (List Node) := do
  match ← d.follow n with
  | .sequence _ items => return items
  | .scalar _ true "" => return []
  | _ => failure

def entries (d : Document) (n : Node) : Read (List (String × Node)) := do
  match ← d.follow n with
  | .mapping _ entries => entries.mapM fun (key, value) => return (← d.text key, value)
  | .scalar _ true "" => return []
  | _ => failure

def list {α : Type} (d : Document) (read : Node → Read α) : Option (List α) :=
  let listed (n : Node) : Read (List α) := do (← d.items n).mapM read
  match d.root with
  | none => some []
  | some root => ((d.optional listed root).run' 0).map (·.getD [])

def ofText? (s : String) : Option Document := (Token.ofText? s.toList).bind ofTokens?

end Document
end SignalRules.Yaml
