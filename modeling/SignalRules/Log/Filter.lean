import SignalRules.Decimal.Natural
import SignalRules.Log
import SignalRules.Text.Blank
import SignalRules.Text.Letter

set_option autoImplicit false

namespace SignalRules.Log

-- Shows entries of a target up to a level, or nothing. A directive for spans shows no entries by itself.
structure Directive where
  target : Option String
  level : Option Level
  forSpans : Bool
deriving DecidableEq, Repr

abbrev Filter := List Directive

def Level.ofText? (s : List Char) : Option (Option Level) :=
  let digits := if s.head? == some '+' then s.drop 1 else s
  let byNumber : Option (Option Level) :=
    match Decimal.numberInBase? 10 digits with
    | some 0 => some none
    | some 1 => some (some .error)
    | some 2 => some (some .warn)
    | some 3 => some (some .info)
    | some 4 => some (some .debug)
    | some 5 => some (some .trace)
    | _ => none
  byNumber.or <|
    match String.ofList (s.map Char.toLower) with
    | "" | "error" => some (some .error)
    | "warn" => some (some .warn)
    | "info" => some (some .info)
    | "debug" => some (some .debug)
    | "trace" => some (some .trace)
    | "off" => some none
    | _ => none

namespace Directive

def levelAfter? (s : List Char) : Option (Option Level) := if s.isEmpty then some (some .trace) else Level.ofText? s

def afterSpan (target : Option String) : List Char → Option Directive
  | [] => some ⟨target, some .trace, true⟩
  | c :: rest => if c = '=' then (levelAfter? rest).map fun level => ⟨target, level, true⟩ else none

def span (target : Option String) (s : List Char) : Option Directive :=
  let isMark (c : Char) : Bool := c == ']' || c == '\x7b'
  match s.dropWhile (!isMark ·) with
  | ']' :: rest => afterSpan target rest
  | _ :: rest =>
    match rest.span (· != '\x7d') with
    | (field, _ :: ']' :: rest) => if field.isEmpty then none else afterSpan target rest
    | _ => none
  | [] => none

def word (s : List Char) : Directive :=
  match if s.isEmpty then some (some Level.trace) else Level.ofText? s with
  | some level => ⟨none, level, false⟩
  | none => ⟨some (String.ofList s), some .trace, false⟩

def ofText? (text : List Char) : Option Directive :=
  let s := Text.trim text
  match s with
  | [] => none
  | '[' :: rest => span none rest
  | c :: _ =>
    if !(c == '-' || c == ':' || c == '_' || Text.isAlphanumeric c) then none
    else
      let isMark (c : Char) : Bool := c == '=' || c == '['
      let target := some (String.ofList (s.takeWhile (!isMark ·)))
      match s.dropWhile (!isMark ·) with
      | [] => some (word text)
      | mark :: rest => if mark = '=' then (levelAfter? rest).map fun level => ⟨target, level, false⟩ else span target rest

end Directive

namespace Filter

def pieces (s : List Char) : List (List Char) :=
  match _h : Text.splitOnce ',' s with
  | none => [s]
  | some (piece, rest) => piece :: pieces rest
termination_by s.length
decreasing_by
  rw [(Text.splitOnce_eq_some _h).1]
  simp only [List.length_append, List.length_cons]
  omega

def ofText? (text : String) : Option Filter :=
  let directives := (pieces text.toList).filter (!·.isEmpty)
  if directives.isEmpty then some [⟨none, some .error, false⟩] else directives.mapM Directive.ofText?

def specificity (d : Directive) : Nat := d.target.elim 0 fun target => target.utf8ByteSize + 1

def applies (origin : Origin) (d : Directive) : Bool :=
  !d.forSpans && d.target.elim true fun target => target.toList.isPrefixOf origin.name.toList

def decisive? (f : Filter) (origin : Origin) : Option Directive :=
  (f.filter (applies origin)).foldl (fun best d => if best.all (specificity · ≤ specificity d) then some d else best) none

def shows (f : Filter) (e : Entry) : Bool := ((f.decisive? e.origin).bind (·.level)).any (e.level.rank ≤ ·.rank)

end Filter
end SignalRules.Log
