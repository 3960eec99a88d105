import SignalRules.Condition.Basic
import SignalRules.Text.Blank
import SignalRules.Text.Letter
import SignalRules.Value.Coercion

set_option autoImplicit false

namespace SignalRules

inductive Token where
  | signal (name : String)
  | literal (value : Value)
  | compare (op : Comparator)
  | and
  | or
  | not
  | opening
  | closing
deriving DecidableEq

inductive SyntaxFault where
  | singleEquals
  | singleConnective (c : Char)
  | unterminatedString
  | invalidNumber (text : String)
  | invalidPath (word : String)
  | invalidCharacter (c : Char)
  | emptyCondition
  | unexpectedEnd
  | unexpected (token : Token)
  | chainedComparison
  | missingParenthesis
  | trailing (token : Token)
deriving DecidableEq

structure SyntaxError where
  offset : Nat
  fault : SyntaxFault
deriving DecidableEq

namespace Token

def display : Token → String
  | signal name => "identifier '" ++ name ++ "'"
  | literal value => "literal " ++ value.literal
  | compare op => "'" ++ op.symbol ++ "'"
  | and => "'and'"
  | or => "'or'"
  | not => "'not'"
  | opening => "'('"
  | closing => "')'"

def width : List Char → Nat
  | [] => 0
  | c :: rest => c.utf8Size + width rest

def isWordStart (c : Char) : Bool := Text.isAlphabetic c || c == '_'
def isWordPart (c : Char) : Bool := Text.isAlphanumeric c || c == '_' || c == '.'
def isNumberStart (c : Char) : Bool := Decimal.isDigit c || c == '-' || c == '.'
def isNumberPart (c : Char) : Bool := Decimal.isDigit c || c == '.'

def keyword? (word : List Char) : Option Token :=
  let small := word.map Char.toLower
  if small = "and".toList then some and
  else if small = "or".toList then some or
  else if small = "not".toList then some not
  else if small = "true".toList then some (literal (.bool true))
  else if small = "false".toList then some (literal (.bool false))
  else none

def isPath : List Char → Bool
  | [] => false
  | c :: rest => if c = '.' then false else go rest
where
  go : List Char → Bool
    | [] => true
    | c :: rest => if c = '.' then isPath rest else go rest

def ofWord (word : List Char) : Except SyntaxFault Token :=
  match if word.contains '.' then none else keyword? word with
  | some token => .ok token
  | none => if isPath word then .ok (signal (String.ofList word)) else .error (.invalidPath (String.ofList word))

def ofNumber (text : List Char) : Except SyntaxFault Token :=
  match (Numeral.ofText? text).bind Numeral.value? with
  | some value => .ok (literal value)
  | none => .error (.invalidNumber (String.ofList text))

def first (c : Char) (rest : List Char) : Except SyntaxFault (Token × Nat) :=
  let equals := rest.head? = some '='
  if c = '(' then .ok (opening, 0)
  else if c = ')' then .ok (closing, 0)
  else if c = '>' then .ok (if equals then (compare .ge, 1) else (compare .gt, 0))
  else if c = '<' then .ok (if equals then (compare .le, 1) else (compare .lt, 0))
  else if c = '=' then if equals then .ok (compare .eq, 1) else .error .singleEquals
  else if c = '!' then .ok (if equals then (compare .ne, 1) else (not, 0))
  else if c = '&' then if rest.head? = some c then .ok (and, 1) else .error (.singleConnective c)
  else if c = '|' then if rest.head? = some c then .ok (or, 1) else .error (.singleConnective c)
  else if Value.isQuote c then
    let body := rest.takeWhile (· != c)
    if body.length < rest.length then .ok (literal (.string (String.ofList body)), body.length + 1)
    else .error .unterminatedString
  else if isNumberStart c then
    let tail := rest.takeWhile isNumberPart
    (ofNumber (c :: tail)).map (·, tail.length)
  else if isWordStart c then
    let tail := rest.takeWhile isWordPart
    (ofWord (c :: tail)).map (·, tail.length)
  else .error (.invalidCharacter c)

def scan (offset : Nat) : List Char → Except SyntaxError (List (Nat × Token))
  | [] => .ok []
  | c :: rest =>
    if Text.isBlank c then scan (offset + c.utf8Size) rest
    else
      match first c rest with
      | .error fault => .error ⟨offset, fault⟩
      | .ok (token, taken) =>
        match scan (offset + c.utf8Size + width (rest.take taken)) (rest.drop taken) with
        | .error e => .error e
        | .ok tokens => .ok ((offset, token) :: tokens)
termination_by s => s.length
decreasing_by all_goals simp only [List.length_cons, List.length_drop]; omega

end Token

namespace SyntaxFault

def text : SyntaxFault → String
  | singleEquals => "Invalid operator '=', use '==' for comparison"
  | singleConnective c =>
    let s := c.toString
    "Invalid operator '" ++ s ++ "', use '" ++ s ++ s ++ "'"
  | unterminatedString => "Unterminated string literal"
  | invalidNumber text => "Invalid number '" ++ text ++ "'"
  | invalidPath word => "Invalid attribute path '" ++ word ++ "'"
  | invalidCharacter c => "Invalid character '" ++ c.toString ++ "'"
  | emptyCondition => "Empty condition"
  | unexpectedEnd => "Unexpected end of condition"
  | unexpected token => "Unexpected " ++ token.display
  | chainedComparison => "Chained comparisons are not supported, combine with 'and'"
  | missingParenthesis => "Expected ')' after expression"
  | trailing token => "Unexpected token after expression: " ++ token.display

end SyntaxFault

def SyntaxError.message (e : SyntaxError) : String := e.fault.text ++ " (at offset " ++ Decimal.text e.offset ++ ")"

end SignalRules
