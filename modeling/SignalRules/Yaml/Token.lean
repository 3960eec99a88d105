set_option autoImplicit false

namespace SignalRules.Yaml

inductive Token where
  | documentStart
  | documentEnd
  | version (major minor : Nat)
  | tagDirective (handle stem : String)
  | blockSequence
  | blockMapping
  | blockEnd
  | flowSequence
  | flowSequenceEnd
  | flowMapping
  | flowMappingEnd
  | blockEntry
  | flowEntry
  | key
  | value
  | alias (name : String)
  | anchor (name : String)
  | tag (handle suffix : String)
  | scalar (isPlain : Bool) (text : String)
deriving DecidableEq, Repr

def isBlank (c : Char) : Bool := c == ' ' || c == '\t'
def isBreak (c : Char) : Bool := c == '\n' || c == '\r' || c == '\x85' || c == '\u2028' || c == '\u2029'
def isWord (c : Char) : Bool := c.isAlphanum || c == '_' || c == '-'

def isAllowed (c : Char) : Bool :=
  let n := c.toNat
  c == '\t' || c == '\n' || c == '\r' || (0x20 ≤ n && n ≤ 0x7E) || n == 0x85 || (0xA0 ≤ n && n ≤ 0xD7FF) ||
    (0xE000 ≤ n && n ≤ 0xFFFD) || 0x10000 ≤ n

def atSpace : List Char → Bool
  | [] => true
  | c :: _ => isBlank c || isBreak c

def atLineEnd : List Char → Bool
  | [] => true
  | c :: _ => isBreak c

def breakWidth : List Char → Nat
  | '\r' :: '\n' :: _ => 2
  | _ => 1

def breakText (c : Char) : Char := if c == '\u2028' || c == '\u2029' then c else '\n'

def atMarker : List Char → Bool
  | '-' :: '-' :: '-' :: rest => atSpace rest
  | '.' :: '.' :: '.' :: rest => atSpace rest
  | _ => false

def startsWith (c : Char) (s : List Char) : Bool := s.head? == some c

-- What stands between two words of a scalar: blanks of one line, or the breaks of several lines. The first break
-- is missing when it was escaped.
inductive Gap where
  | blanks (s : List Char)
  | lines (first : Option Char) (more : List Char)
deriving DecidableEq, Repr

namespace Gap

def none : Gap := blanks []

def isLines : Gap → Bool
  | blanks _ => false
  | lines _ _ => true

def addBlank (c : Char) : Gap → Gap
  | blanks s => blanks (s ++ [c])
  | g => g

def addBreak (c : Char) : Gap → Gap
  | blanks _ => lines (some (breakText c)) []
  | lines first more => lines first (more ++ [breakText c])

def text : Gap → List Char
  | blanks s => s
  | lines (some '\n') [] => [' ']
  | lines (some '\n') more => more
  | lines first more => first.toList ++ more

end Gap
end SignalRules.Yaml
