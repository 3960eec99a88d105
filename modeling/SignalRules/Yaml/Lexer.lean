import SignalRules.Yaml.Scalar
import SignalRules.Yaml.Tag
/-!
Reading the tokens of a document. Indentation opens and closes block collections. A token that may turn out to be
the key of a mapping is remembered, so that the marks of the mapping can be put in front of it when its colon comes;
such a key stays on one line and within 1024 characters.
-/

set_option autoImplicit false

namespace SignalRules.Yaml

structure Place where
  index : Nat
  line : Nat
  column : Nat
deriving DecidableEq, Repr

def Place.after (p : Place) : List Char → Place
  | [] => p
  | c :: rest =>
    if isBreak c && !(c == '\r' && startsWith '\n' rest) then after ⟨p.index + 1, p.line + 1, 0⟩ rest
    else after ⟨p.index + 1, p.line, p.column + 1⟩ rest

-- A token that may be a key: how many tokens came before it, where it is and whether its colon has to come.
structure KeyMark where
  before : Nat
  place : Place
  required : Bool
deriving DecidableEq, Repr

-- Tokens are kept last first. `indents` are the indentations around the current one and `keys` the candidates for
-- a key, one for each flow collection that is open and one for the blocks around them.
structure Lexer where
  rest : List Char
  place : Place
  tokens : List Token
  count : Nat
  indent : Int
  indents : List Int
  flow : Nat
  keys : List (Option KeyMark)
  keyAllowed : Bool

namespace Lexer

def start (s : List Char) : Lexer := ⟨s, ⟨0, 0, 0⟩, [], 0, -1, [], 0, [none], true⟩

def inFlow (l : Lexer) : Bool := l.flow != 0

def moveTo (l : Lexer) (left : List Char) : Lexer :=
  { l with rest := left, place := l.place.after (l.rest.take (l.rest.length - left.length)) }

def skip (l : Lexer) (n : Nat) : Lexer := l.moveTo (l.rest.drop n)

def add (l : Lexer) (t : Token) : Lexer := { l with tokens := t :: l.tokens, count := l.count + 1 }

def addAt (l : Lexer) (before : Nat) (t : Token) : Lexer :=
  let later := l.count - before
  { l with tokens := l.tokens.take later ++ t :: l.tokens.drop later, count := l.count + 1 }

def openBlock (l : Lexer) (column before : Nat) (t : Token) : Lexer :=
  if l.inFlow || (column : Int) ≤ l.indent then l
  else { l with indents := l.indent :: l.indents, indent := column }.addAt before t

def closeFrom (column : Int) (l : Lexer) : List Int → Lexer
  | [] => l
  | outer :: rest => if l.indent ≤ column then l else closeFrom column { l.add .blockEnd with indent := outer, indents := rest } rest

def closeBlocks (l : Lexer) (column : Int) : Lexer := if l.inFlow then l else closeFrom column l l.indents

def dropKey (l : Lexer) : Option Lexer :=
  match l.keys with
  | some k :: rest => if k.required then none else some { l with keys := none :: rest }
  | _ => some l

def markKey (l : Lexer) : Option Lexer :=
  if l.keyAllowed then
    l.dropKey.map fun l =>
      { l with keys := some ⟨l.count, l.place, !l.inFlow && l.indent == l.place.column⟩ :: l.keys.drop 1 }
  else some l

def isStale (p : Place) (k : KeyMark) : Bool := k.place.line < p.line || k.place.index + 1024 < p.index

def dropStale (l : Lexer) : Option Lexer :=
  if l.keys.any fun k => k.any fun k => isStale l.place k && k.required then none
  else some { l with keys := l.keys.map fun k => k.filter (!isStale l.place ·) }

def gap (inFlow keyAllowed comment : Bool) : List Char → List Char × Bool
  | [] => ([], keyAllowed)
  | c :: rest =>
    if isBreak c then gap inFlow (keyAllowed || !inFlow) false rest
    else if comment then gap inFlow keyAllowed true rest
    else if c == ' ' || (c == '\t' && (inFlow || !keyAllowed)) then gap inFlow keyAllowed false rest
    else if c == '#' then gap inFlow keyAllowed true rest
    else (c :: rest, keyAllowed)

def toNext (l : Lexer) : Lexer :=
  let l := if l.place.index == 0 && startsWith '\ufeff' l.rest then l.skip 1 else l
  let (left, keyAllowed) := gap l.inFlow l.keyAllowed false l.rest
  { l.moveTo left with keyAllowed }

def mark (l : Lexer) (width : Nat) (t : Token) (keyAllowed : Bool) : Option Lexer :=
  l.dropKey.map fun l => { (l.skip width).add t with keyAllowed }

def openFlow (l : Lexer) (t : Token) : Option Lexer :=
  l.markKey.map fun l => { (l.skip 1).add t with keys := none :: l.keys, flow := l.flow + 1, keyAllowed := true }

def closeFlow (l : Lexer) (t : Token) : Option Lexer :=
  l.dropKey.map fun l =>
    let l := if l.inFlow then { l with keys := l.keys.drop 1, flow := l.flow - 1 } else l
    { (l.skip 1).add t with keyAllowed := false }

def blockEntry (l : Lexer) : Option Lexer :=
  if l.inFlow then l.mark 1 .blockEntry true
  else if l.keyAllowed then (l.openBlock l.place.column l.count .blockSequence).mark 1 .blockEntry true
  else none

def explicitKey (l : Lexer) : Option Lexer :=
  if l.inFlow then l.mark 1 .key false
  else if l.keyAllowed then (l.openBlock l.place.column l.count .blockMapping).mark 1 .key true
  else none

def mappingValue (l : Lexer) : Option Lexer :=
  match l.keys with
  -- The key was not known as one when its token was read, so the marks for it go in front of that token.
  | some k :: rest =>
    let l := { l.addAt k.before .key with keys := none :: rest, keyAllowed := false }
    some (((l.openBlock k.place.column k.before .blockMapping).skip 1).add .value)
  | _ =>
    if l.inFlow then some { (l.skip 1).add .value with keyAllowed := false }
    else if l.keyAllowed then some (((l.openBlock l.place.column l.count .blockMapping).skip 1).add .value)
    else none

def candidate (l : Lexer) (read : Lexer → Option (Token × List Char)) : Option Lexer :=
  l.markKey.bind fun l => (read l).map fun (t, left) => { (l.moveTo left).add t with keyAllowed := false }

def plain (l : Lexer) : Option Lexer :=
  l.markKey.bind fun l =>
    (readPlain l.inFlow (l.indent + 1) false .none l.place.column l.rest).map fun (text, left, lines) =>
      { (l.moveTo left).add (.scalar true (String.ofList text)) with keyAllowed := lines }

def quoted (l : Lexer) (single : Bool) : Option Lexer :=
  l.candidate fun l => (readQuoted single .none false (l.rest.drop 1)).map fun (text, left) => (.scalar false (String.ofList text), left)

def block (l : Lexer) (literal : Bool) : Option Lexer :=
  l.dropKey.bind fun l =>
    (readBlock literal l.indent (l.rest.drop 1)).map fun (text, left) =>
      { (l.moveTo left).add (.scalar false (String.ofList text)) with keyAllowed := true }

def directive (l : Lexer) : Option Lexer :=
  (l.closeBlocks (-1)).dropKey.bind fun l =>
    (readDirective (l.rest.drop 1)).bind fun (t, left) =>
      (nextLine? left).map fun left => { (l.moveTo left).add t with keyAllowed := false }

def next (l : Lexer) (c : Char) (rest : List Char) : Option Lexer :=
  let lineStart := l.place.column == 0
  if lineStart && c == '%' then l.directive
  else if lineStart && atMarker l.rest then
    (l.closeBlocks (-1)).mark 3 (if c == '-' then .documentStart else .documentEnd) false
  else if c == '[' then l.openFlow .flowSequence
  else if c == '\x7b' then l.openFlow .flowMapping
  else if c == ']' then l.closeFlow .flowSequenceEnd
  else if c == '\x7d' then l.closeFlow .flowMappingEnd
  else if c == ',' then l.mark 1 .flowEntry true
  else if c == '-' && atSpace rest then l.blockEntry
  else if c == '?' && (l.inFlow || atSpace rest) then l.explicitKey
  else if c == ':' && (l.inFlow || atSpace rest) then l.mappingValue
  else if c == '*' then l.candidate fun l => (readAnchor (l.rest.drop 1)).map fun (name, left) => (.alias name, left)
  else if c == '&' then l.candidate fun l => (readAnchor (l.rest.drop 1)).map fun (name, left) => (.anchor name, left)
  else if c == '!' then
    l.candidate fun l => (readTag l.inFlow l.rest).map fun (handle, suffix, left) => (.tag handle suffix, left)
  else if c == '|' && !l.inFlow then l.block true
  else if c == '>' && !l.inFlow then l.block false
  else if c == '\x27' then l.quoted true
  else if c == '"' then l.quoted false
  else if isBlank c || isBreak c || "?:,[]\x7b\x7d#&*!|>'\"%@\x60".contains c then
    if !l.inFlow && (c == '?' || c == ':') then l.plain else none
  else l.plain

def run (fuel : Nat) (l : Lexer) : Option (List Token) :=
  match fuel with
  | 0 => none
  | fuel + 1 =>
    l.toNext.dropStale.bind fun l =>
      let l := l.closeBlocks l.place.column
      match l.rest with
      | [] => ((l.closeBlocks (-1)).dropKey).map (·.tokens.reverse)
      | c :: rest => (l.next c rest).bind (run fuel)

end Lexer

def Token.ofText? (s : List Char) : Option (List Token) :=
  if s.all isAllowed then (Lexer.start s).run (s.length + 1) else none

end SignalRules.Yaml
