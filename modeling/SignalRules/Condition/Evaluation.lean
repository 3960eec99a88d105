import SignalRules.Condition.Basic
import SignalRules.Log
import SignalRules.NameMap
/-!
Three-valued evaluation. A condition is true, false or undetermined, and an undetermined one says why. A
connective is settled by the first operand that decides it, whatever the operands before it are; otherwise the
first undetermined operand is its answer.
-/

set_option autoImplicit false

namespace SignalRules

abbrev Store := NameMap Value

inductive TruthPlace where
  | condition
  | negation
  | connective (op : Connective)
deriving DecidableEq, Repr

inductive Undetermined where
  | missing (name : String)
  | mismatch (op : Comparator) (left right : Value.Kind)
  | notBoolean (place : TruthPlace) (found : Value.Kind)
deriving DecidableEq, Repr

def TruthPlace.name : TruthPlace → String
  | condition => "condition"
  | negation => "not"
  | connective op => op.word

namespace Undetermined

def message : Undetermined → String
  | missing name => "signal '" ++ name ++ "' has no value yet"
  | mismatch op left right => "type mismatch: cannot apply '" ++ op.symbol ++ "' to " ++ left.name ++ " and " ++ right.name
  | notBoolean place found => "type mismatch: '" ++ place.name ++ "' expects a boolean, got " ++ found.name

def isMismatch : Undetermined → Bool
  | missing _ => false
  | _ => true

end Undetermined

namespace Value

def isString : Value → Bool
  | string _ => true
  | _ => false

def isNumber : Value → Bool
  | int _ => true
  | float _ => true
  | _ => false

end Value

namespace Comparator

def holds (op : Comparator) (order : Option Ordering) : Bool :=
  match op with
  | eq => order == some .eq
  | ne => order != some .eq
  | lt => order == some .lt
  | le => order == some .lt || order == some .eq
  | gt => order == some .gt
  | ge => order == some .gt || order == some .eq

def apply (op : Comparator) (left right : Value) : Except Undetermined Bool :=
  match op, left, right with
  | .eq, .bool a, .bool b => .ok (a == b)
  | .ne, .bool a, .bool b => .ok (a != b)
  | _, _, _ =>
    if (left.isString && right.isString) || (left.isNumber && right.isNumber) then .ok (op.holds (left.order right))
    else .error (.mismatch op left.kind right.kind)

end Comparator

namespace Connective

def decisive : Connective → Bool
  | and => false
  | or => true

def combine (op : Connective) : List (Except Undetermined Bool) → Except Undetermined Bool
  | [] => .ok (!op.decisive)
  | .ok b :: rest => if b = op.decisive then .ok b else combine op rest
  -- An operand further on may still decide; if none does, the first failure stands.
  | .error e :: rest =>
    match combine op rest with
    | .ok b => if b = op.decisive then .ok b else .error e
    | .error _ => .error e

end Connective

namespace Condition

def truthOf (place : TruthPlace) (value : Value) : Except Undetermined Bool :=
  match value.asBool? with
  | some b => .ok b
  | none => .error (.notBoolean place value.kind)

def read (store : Store) (name : String) : Except Undetermined Value :=
  match store.get? name with
  | some value => .ok value
  | none => .error (.missing name)

mutual
def value (store : Store) : Condition → Except Undetermined Value
  | signal name => read store name
  | literal v => .ok v
  | compare op left right =>
    match value store left with
    | .error e => .error e
    | .ok l =>
      match value store right with
      | .error e => .error e
      | .ok r => (op.apply l r).map .bool
  | not operand =>
    match (value store operand).bind (truthOf .negation) with
    | .error e => .error e
    | .ok b => .ok (.bool (!b))
  | join op operands => (op.combine (truths store op operands)).map .bool

def truths (store : Store) (op : Connective) : List Condition → List (Except Undetermined Bool)
  | [] => []
  | operand :: rest => (value store operand).bind (truthOf (.connective op)) :: truths store op rest
end

def evaluate (c : Condition) (store : Store) : Except Undetermined Bool := (value store c).bind (truthOf .condition)

def settles (store : Store) (op : Connective) (operand : Condition) : Bool :=
  match (value store operand).bind (truthOf (.connective op)) with
  | .ok b => b == op.decisive
  | .error _ => false

mutual
def settled (store : Store) : Condition → List Log.Entry
  | compare _ left right =>
    settled store left ++
      match value store left with
      | .error _ => []
      | .ok _ => settled store right
  | join op operands => settledAll store op operands
  | not operand => settled store operand
  | signal _ => []
  | literal _ => []

def settledAll (store : Store) (op : Connective) : List Condition → List Log.Entry
  | [] => []
  | operand :: rest =>
    settled store operand ++
      if settles store op operand then [Log.trace (op.word ++ " short-circuited on " ++ operand.display)]
      else settledAll store op rest
end

end Condition
end SignalRules
