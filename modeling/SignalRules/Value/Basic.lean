import SignalRules.Binary64.Text

set_option autoImplicit false

namespace SignalRules

inductive Value where
  | bool (b : Bool)
  | int (i : Int64)
  | float (x : Binary64)
  | string (s : String)
deriving DecidableEq

inductive Value.Kind where
  | bool
  | int
  | float
  | string
deriving DecidableEq, Repr

namespace Value

def Kind.name : Kind → String
  | bool => "bool"
  | int => "int"
  | float => "float"
  | string => "string"

def kind : Value → Kind
  | bool _ => .bool
  | int _ => .int
  | float _ => .float
  | string _ => .string

def asBool? : Value → Option Bool
  | bool b => some b
  | _ => none

def asFloat? : Value → Option Binary64
  | int i => some (.ofInt i.toInt)
  | float x => some x
  | _ => none

def display : Value → String
  | bool b => if b then "true" else "false"
  | int i => Decimal.signedText i.toInt
  | float x => String.ofList x.pointedText
  | string s => s

def literal : Value → String
  | string s => "\"" ++ s ++ "\""
  | v => v.display

-- Integers compare exactly with integers, strings with strings by code points, and any other two numbers as
-- floating-point numbers. Booleans, mixed types and NaN have no order.
def order : Value → Value → Option Ordering
  | int a, int b => some (compare a.toInt b.toInt)
  | string a, string b => some (compare a b)
  | a, b =>
    match a.asFloat?, b.asFloat? with
    | some x, some y => x.order y
    | _, _ => none

def eqv : Value → Value → Bool
  | bool a, bool b => a == b
  | int a, int b => a == b
  | float x, float y => x.eqv y
  | string a, string b => a == b
  | _, _ => false

end Value
end SignalRules
