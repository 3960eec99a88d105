import SignalRules.Value.Basic

set_option autoImplicit false

namespace SignalRules

inductive Comparator where
  | eq
  | ne
  | lt
  | le
  | gt
  | ge
deriving DecidableEq, Repr

inductive Connective where
  | and
  | or
deriving DecidableEq, Repr

inductive Condition where
  | compare (op : Comparator) (left right : Condition)
  | join (op : Connective) (operands : List Condition)
  | not (operand : Condition)
  | signal (name : String)
  | literal (value : Value)

namespace Comparator

def symbol : Comparator → String
  | eq => "=="
  | ne => "!="
  | lt => "<"
  | le => "<="
  | gt => ">"
  | ge => ">="

end Comparator

namespace Connective

def word : Connective → String
  | and => "and"
  | or => "or"

end Connective

namespace Condition

mutual
def occurrences : Condition → List String
  | compare _ left right => occurrences left ++ occurrences right
  | join _ operands => occurrencesAll operands
  | not operand => occurrences operand
  | signal name => [name]
  | literal _ => []

def occurrencesAll : List Condition → List String
  | [] => []
  | operand :: rest => occurrences operand ++ occurrencesAll rest
end

def signals (c : Condition) : List String := c.occurrences.eraseDups

mutual
def eqv : Condition → Condition → Bool
  | compare op left right, compare op' left' right' => op == op' && eqv left left' && eqv right right'
  | join op operands, join op' operands' => op == op' && eqvAll operands operands'
  | not operand, not operand' => eqv operand operand'
  | signal name, signal name' => name == name'
  | literal value, literal value' => value.eqv value'
  | _, _ => false

def eqvAll : List Condition → List Condition → Bool
  | [], [] => true
  | operand :: rest, operand' :: rest' => eqv operand operand' && eqvAll rest rest'
  | _, _ => false
end

-- Connectives need parentheses inside connectives and comparisons, comparisons inside comparisons and negations.
def isJoin : Condition → Bool
  | join _ _ => true
  | _ => false

def isCompare : Condition → Bool
  | compare _ _ _ => true
  | _ => false

def isAtom : Condition → Bool
  | signal _ => true
  | literal _ => true
  | _ => false

def parenthesized (yes : Bool) (text : String) : String := if yes then "(" ++ text ++ ")" else text

mutual
def display : Condition → String
  | signal name => name
  | literal value => value.literal
  | not operand => "not " ++ parenthesized (operand.isJoin || operand.isCompare) (display operand)
  | compare op left right =>
    parenthesized (!left.isAtom) (display left) ++ " " ++ op.symbol ++ " " ++ parenthesized (!right.isAtom) (display right)
  | join op operands => String.intercalate (" " ++ op.word ++ " ") (displayAll operands)

def displayAll : List Condition → List String
  | [] => []
  | operand :: rest => parenthesized operand.isJoin (display operand) :: displayAll rest
end

end Condition
end SignalRules
