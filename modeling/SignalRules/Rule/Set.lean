import SignalRules.NameMap
import SignalRules.Rule.Basic

set_option autoImplicit false

namespace SignalRules

-- For each signal the ids of the rules whose condition reads it, in declaration order.
abbrev RuleIndex := NameMap (List Nat)

namespace RuleIndex

def ids (index : RuleIndex) (signal : String) : List Nat := (index.get? signal).getD []

def add (index : RuleIndex) (id : Nat) (signal : String) : RuleIndex :=
  let ids := index.ids signal
  -- Rules are added in the order of their ids, so a rule that is listed already is the last one.
  if ids.getLast? = some id then index else index.insert signal (ids ++ [id])

end RuleIndex

structure RuleSet where
  rules : List Rule
  index : RuleIndex

namespace RuleSet

def empty : RuleSet := ⟨[], NameMap.empty⟩
instance : Inhabited RuleSet := ⟨empty⟩

def size (s : RuleSet) : Nat := s.rules.length
def isEmpty (s : RuleSet) : Bool := s.rules.isEmpty
def get? (s : RuleSet) (id : Nat) : Option Rule := s.rules[id]?

def add (s : RuleSet) (rule : Rule) : RuleSet :=
  ⟨s.rules ++ [rule], rule.condition.signals.foldl (fun index signal => index.add rule.id signal) s.index⟩

def dependents (s : RuleSet) (signal : String) : List Rule := (s.index.ids signal).filterMap s.get?

def watched (s : RuleSet) : List String := s.index.names

def extend (s : RuleSet) : List RuleBlock → Except RuleError RuleSet
  | [] => .ok s
  | block :: rest =>
    match block.rule s.size with
    | .error fault => .error ⟨s.size, fault⟩
    | .ok rule => extend (s.add rule) rest

def compile (blocks : List RuleBlock) : Except RuleError RuleSet := empty.extend blocks

def compiledNote (rule : Rule) : Log.Entry :=
  Log.debug ("Compiled rule #" ++ Decimal.text rule.id ++ ": " ++ rule.condition.display ++ " -> " ++ rule.action.outbound.wire ++
    match rule.action.delay with
    | some ms => " after " ++ Decimal.text ms ++ "ms"
    | none => "")

def ruleNotes (rule : Rule) : List Log.Entry :=
  (if rule.condition.signals.isEmpty then
    [Log.warn (ruleName rule.id ++ " (" ++ rule.condition.display ++ ") references no signals and will never fire")]
  else []) ++ [compiledNote rule]

def extendNotes (s : RuleSet) : List RuleBlock → List Log.Entry
  | [] => [Log.info ("Compiled " ++ Decimal.text s.size ++ " rules watching " ++ Decimal.text s.index.size ++ " signals")]
  | block :: rest =>
    block.warnings s.size ++
      match block.rule s.size with
      | .error _ => []
      | .ok rule => ruleNotes rule ++ extendNotes (s.add rule) rest

def compileNotes (blocks : List RuleBlock) : List Log.Entry := empty.extendNotes blocks

def summary (s : RuleSet) : String :=
  Decimal.text s.size ++ " rules OK, watching " ++ Decimal.text s.index.size ++ " signals\n" ++
    String.join (s.index.entries.map fun (signal, ids) =>
      "  " ++ signal ++ " -> " ++ String.intercalate ", " (ids.map fun id => "#" ++ Decimal.text id) ++ "\n")

end RuleSet
end SignalRules
