import SignalRules.NameMap
import SignalRules.Rule.Set
import SignalRules.Yaml.Reader

set_option autoImplicit false

namespace SignalRules
open Yaml (Document Node Datum Read)

-- Keys that mean nothing, in the order of their names. What they hold is read all the same.
def readExtra (d : Document) (depth : Nat) (known : List String) (entries : List (String × Node)) : Read (List String) := do
  let unknown := entries.filter (!known.contains ·.1)
  for (_, node) in unknown do
    let datum ← d.datum depth node
    if !datum.isTagFree then failure
  return (unknown.foldl (fun (m : NameMap Unit) (key, _) => m.insert key ()) NameMap.empty).names

def fieldOnce (key : String) (entries : List (String × Node)) : Read (Option Node) :=
  match entries.filter (·.1 == key) with
  | [] => return none
  | [(_, node)] => return some node
  | _ => failure

def readField {α : Type} (d : Document) (read : Node → Read α) (key : String) (entries : List (String × Node)) : Read (Option α) := do
  match ← fieldOnce key entries with
  | none => return none
  | some node => d.optional read node

def EmitBlock.ofNode (d : Document) (depth : Nat) (n : Node) : Read EmitBlock := do
  let entries ← d.entries n
  return {
    signal := ← readField d d.text "signal" entries
    value := ← readField d (d.datum depth) "value" entries
    delay := ← readField d (d.datum depth) "delay" entries
    extra := ← readExtra d depth ["signal", "value", "delay"] entries }

def RuleBlock.ofNode (d : Document) (depth : Nat) (n : Node) : Read RuleBlock := do
  let entries ← d.entries n
  return {
    condition := ← readField d (d.datum depth) "condition" entries
    emit := ← readField d (EmitBlock.ofNode d (depth - 1)) "emit" entries
    extra := ← readExtra d depth ["condition", "emit"] entries }

-- The blocks of a document; nothing when it is none. Blank text has no blocks. The list and the block itself take
-- two levels of depth.
def RuleBlock.ofDocument? (text : String) : Option (List RuleBlock) :=
  if (Text.trim text.toList).isEmpty then some []
  else (Document.ofText? text).bind fun d => d.list (RuleBlock.ofNode d (Document.maxDepth - 2))

end SignalRules
