import SignalRules.Decimal.Natural
import SignalRules.Yaml.Token

set_option autoImplicit false

namespace SignalRules.Yaml

-- Plain text. It ends before a comment, before a colon with a space, at the marks of a flow collection inside of
-- one, and in blocks before a line that is not indented past `indent`. The flag tells that line breaks came last.
def readPlain (inFlow : Bool) (indent : Int) (fresh : Bool) (gap : Gap) (column : Nat) (s : List Char) :
    Option (List Char × List Char × Bool) :=
  match s with
  | [] => some ([], [], gap.isLines)
  | c :: rest =>
    if isBlank c then
      if gap.isLines && c == '\t' && column < indent then none
      else readPlain inFlow indent true (gap.addBlank c) (column + 1) rest
    else if isBreak c then readPlain inFlow indent true (gap.addBreak c) 0 (rest.drop (breakWidth s - 1))
    else if fresh && ((!inFlow && column < indent) || (column == 0 && atMarker s) || c == '#') then some ([], s, gap.isLines)
    else if inFlow && c == ':' && (rest.head?.any fun d => ",?[]\x7b\x7d".contains d) then none
    else if (c == ':' && atSpace rest) || (inFlow && ",[]\x7b\x7d".contains c) then some ([], s, gap.isLines)
    else (readPlain inFlow indent false .none (column + 1) rest).map fun (text, left) => (gap.text ++ c :: text, left)
termination_by s.length
decreasing_by all_goals simp only [List.length_cons, List.length_drop]; omega

def hexEscape? (count : Nat) (s : List Char) : Option (Char × Nat) :=
  let digits := s.take count
  if digits.length < count then none
  else (Decimal.numberInBase? 16 digits).bind fun n =>
    if (0xD800 ≤ n && n ≤ 0xDFFF) || 0x10FFFF < n then none else some (Char.ofNat n, count + 1)

def escape? : List Char → Option (Char × Nat)
  | [] => none
  | c :: rest =>
    match c with
    | '0' => some ('\x00', 1)
    | 'a' => some ('\x07', 1)
    | 'b' => some ('\x08', 1)
    | 't' | '\t' => some ('\t', 1)
    | 'n' => some ('\n', 1)
    | 'v' => some ('\x0b', 1)
    | 'f' => some ('\x0c', 1)
    | 'r' => some ('\r', 1)
    | 'e' => some ('\x1b', 1)
    | ' ' => some (' ', 1)
    | '"' => some ('"', 1)
    | '/' => some ('/', 1)
    | '\\' => some ('\\', 1)
    | 'N' => some ('\x85', 1)
    | '_' => some ('\xa0', 1)
    | 'L' => some ('\u2028', 1)
    | 'P' => some ('\u2029', 1)
    | 'x' => hexEscape? 2 rest
    | 'u' => hexEscape? 4 rest
    | 'U' => hexEscape? 8 rest
    | _ => none

def readQuoted (single : Bool) (gap : Gap) (lineStart : Bool) (s : List Char) : Option (List Char × List Char) :=
  let quote := if single then '\x27' else '"'
  match s with
  | [] => none
  | c :: rest =>
    if lineStart && atMarker s then none
    else if isBlank c then readQuoted single (gap.addBlank c) false rest
    else if isBreak c then readQuoted single (gap.addBreak c) true (rest.drop (breakWidth s - 1))
    else if c == quote then
      if single && startsWith quote rest then
        (readQuoted single .none false (rest.drop 1)).map fun (text, left) => (gap.text ++ quote :: text, left)
      else some (gap.text, rest)
    else if !single && c == '\\' then
      if !rest.isEmpty && atLineEnd rest then
        (readQuoted single (.lines none []) true (rest.drop (breakWidth rest))).map fun (text, left) => (gap.text ++ text, left)
      else
        match escape? rest with
        | none => none
        | some (e, width) => (readQuoted single .none false (rest.drop width)).map fun (text, left) => (gap.text ++ e :: text, left)
    else (readQuoted single .none false rest).map fun (text, left) => (gap.text ++ c :: text, left)
termination_by s.length
decreasing_by all_goals simp only [List.length_cons, List.length_drop]; omega

inductive Chomping where
  | strip
  | clip
  | keep
deriving DecidableEq, Repr

def chomping? : List Char → Option (Chomping × List Char)
  | '+' :: rest => some (.keep, rest)
  | '-' :: rest => some (.strip, rest)
  | _ => none

def indentation? : List Char → Option (Nat × List Char)
  | c :: rest => if '1' ≤ c && c ≤ '9' then some (c.toNat - 48, rest) else none
  | [] => none

def blockHeader (s : List Char) : Chomping × Nat × List Char :=
  match chomping? s, indentation? s with
  | some (chomping, rest), _ =>
    match indentation? rest with
    | some (n, rest) => (chomping, n, rest)
    | none => (chomping, 0, rest)
  | none, some (n, rest) =>
    match chomping? rest with
    | some (chomping, rest) => (chomping, n, rest)
    | none => (.clip, n, rest)
  | none, none => (.clip, 0, s)

def nextLine? (s : List Char) : Option (List Char) :=
  let s := s.dropWhile isBlank
  let s := if startsWith '#' s then s.dropWhile (!isBreak ·) else s
  if atLineEnd s then some (s.drop (breakWidth s)) else none

-- Indentation and empty lines before a line of a block: their breaks, the column of the line, the widest
-- indentation met and the text of the line. With no indentation given every space counts.
def blockGap (indent column widest : Nat) (s : List Char) : Option (List Char × Nat × Nat × List Char) :=
  let inside := indent == 0 || column < indent
  match s with
  | [] => some ([], column, max widest column, [])
  | c :: rest =>
    if c == ' ' && inside then blockGap indent (column + 1) widest rest
    else if c == '\t' && inside then none
    else if isBreak c then
      (blockGap indent 0 (max widest column) (rest.drop (breakWidth s - 1))).map fun (breaks, r) => (breakText c :: breaks, r)
    else some ([], column, max widest column, s)
termination_by s.length
decreasing_by all_goals simp only [List.length_cons, List.length_drop]; omega

-- The lines of a block. `first` is the break of the line before, `breaks` those of the empty lines since and
-- `blank` tells that the line before began with a blank; folding spares lines that do.
def blockLines (fuel : Nat) (literal : Bool) (indent : Nat) (chomping : Chomping) (first : List Char) (blank : Bool)
    (breaks : List Char) (column : Nat) (s : List Char) : Option (List Char × List Char) :=
  match fuel, s with
  | fuel + 1, c :: _ =>
    if column = indent then
      let folds := !literal && first == ['\n'] && !blank && !isBlank c
      let before := if folds then (if breaks.isEmpty then [' '] else breaks) else first ++ breaks
      let line := s.takeWhile (!isBreak ·)
      let rest := s.dropWhile (!isBreak ·)
      match blockGap indent 0 0 (rest.drop (breakWidth rest)) with
      | none => none
      | some (breaks, column, _, left) =>
        (blockLines fuel literal indent chomping ((rest.take 1).map breakText) (isBlank c) breaks column left).map
          fun (text, left) => (before ++ line ++ text, left)
    else some (tail, s)
  | _, _ => some (tail, s)
where
  tail : List Char :=
    match chomping with
    | .strip => []
    | .clip => first
    | .keep => first ++ breaks

def readBlock (literal : Bool) (parent : Int) (s : List Char) : Option (List Char × List Char) :=
  let (chomping, given, s) := blockHeader s
  match nextLine? s with
  | none => none
  | some s =>
    match blockGap (if given = 0 then 0 else (max parent 0).toNat + given) 0 0 s with
    | none => none
    | some (breaks, column, widest, left) =>
      let indent := if given = 0 then max widest (max (parent + 1) 1).toNat else (max parent 0).toNat + given
      blockLines (left.length + 1) literal indent chomping [] false breaks column left

end SignalRules.Yaml
