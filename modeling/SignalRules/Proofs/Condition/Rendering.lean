import SignalRules.Proofs.Condition.Lexeme
import SignalRules.Proofs.Condition.ReaderSound

set_option autoImplicit false

namespace SignalRules

namespace Token
open Text (isBlank)

inductive Written : Token → List Char → Prop where
  | opening : Written .opening ['(']
  | closing : Written .closing [')']
  | comparator (op : Comparator) : Written (.compare op) op.symbol.toList
  | ampersands : Written .and ['&', '&']
  | bars : Written .or ['|', '|']
  | bang : Written .not ['!']
  | connective (op : Connective) (text : List Char) (letters : text.map Char.toLower = op.word.toList) : Written op.token text
  | negation (text : List Char) (letters : text.map Char.toLower = "not".toList) : Written .not text
  | truth (b : Bool) (text : List Char) (letters : text.map Char.toLower = (Value.bool b).literal.toList) :
      Written (.literal (.bool b)) text
  | name (name : String) (legal : IsName name) : Written (.signal name) name.toList
  | number (c : Char) (tail : List Char) (value : Value) (start : isNumberStart c = true)
      (parts : ∀ d ∈ tail, isNumberPart d = true) (stands : ofNumber (c :: tail) = .ok (.literal value)) :
      Written (.literal value) (c :: tail)
  | quoted (q : Char) (s : List Char) (quote : Value.isQuote q = true) (inside : q ∉ s) :
      Written (.literal (.string (String.ofList s))) (q :: (s ++ [q]))

theorem written_spelling (token : Token) (text : List Char) (written : Written token text) : Spelling token text := by
  cases written with
  | opening => exact .opening
  | closing => exact .closing
  | comparator op => exact .comparator op
  | ampersands => exact .ampersands
  | bars => exact .bars
  | bang => exact .bang
  | connective op _ letters => exact spelling_keyword op.word text _ (by cases op <;> decide) letters (by cases op <;> rfl)
  | negation _ letters => exact spelling_keyword "not" text _ (by decide) letters rfl
  | truth b _ letters => exact spelling_keyword _ text _ (by cases b <;> decide) letters (by cases b <;> rfl)
  | name name legal => exact spelling_name name legal
  | number c tail value start parts stands => exact .number c tail _ start (List.all_eq_true.mpr parts) stands
  | quoted q s quote inside => exact .quoted q s quote inside

end Token

structure Piece where
  gap : List Char
  token : Token
  text : List Char

namespace Piece
open Token (width scan)
open Text (isBlank)

def joined : List Piece → List Char → List Char
  | [], ending => ending
  | p :: rest, ending => p.gap ++ (p.text ++ joined rest ending)

def placed (offset : Nat) : List Piece → List (Nat × Token)
  | [] => []
  | p :: rest => (offset + width p.gap, p.token) :: placed (offset + width p.gap + width p.text) rest

theorem placed_tokens (offset : Nat) (pieces : List Piece) : (placed offset pieces).map (·.2) = pieces.map (·.token) := by
  induction pieces generalizing offset with
  | nil => rfl
  | cons p rest ih => rw [placed, List.map_cons, List.map_cons, ih]

structure Stands (p : Piece) : Prop where
  written : Token.Written p.token p.text
  blank : ∀ c ∈ p.gap, isBlank c = true

theorem scan_gap (offset : Nat) (gap rest : List Char) (blank : ∀ c ∈ gap, isBlank c = true) :
    scan offset (gap ++ rest) = scan (offset + width gap) rest := by
  induction gap generalizing offset with
  | nil => rfl
  | cons c gap ih =>
    obtain ⟨here, later⟩ := List.forall_mem_cons.mp blank
    rw [List.cons_append, Token.scan_blank offset c _ here, ih _ later, width, Nat.add_assoc]

theorem joined_boundary (pieces : List Piece) (ending : List Char) (stands : ∀ p ∈ pieces, p.Stands)
    (apart : ∀ p ∈ pieces, p.gap ≠ []) (ends : ∀ c ∈ ending, isBlank c = true) : Token.Boundary (joined pieces ending) := by
  cases pieces with
  | nil => simpa [joined] using Token.blanks_boundary ending [] ends rfl
  | cons p rest =>
    obtain ⟨c, gap, split⟩ := List.exists_cons_of_ne_nil (apart p List.mem_cons_self)
    have blank := (stands p List.mem_cons_self).blank c (by simp [split])
    simp [joined, split, Token.Boundary, blank]

theorem scan_joined (offset : Nat) (pieces : List Piece) (ending : List Char) (stands : ∀ p ∈ pieces, p.Stands)
    (apart : ∀ p ∈ pieces.tail, p.gap ≠ []) (ends : ∀ c ∈ ending, isBlank c = true) :
    scan offset (joined pieces ending) = .ok (placed offset pieces) := by
  induction pieces generalizing offset with
  | nil =>
    have nothing := scan_gap offset ending [] ends
    rw [List.append_nil, Token.scan_nil] at nothing
    exact nothing
  | cons p rest ih =>
    obtain ⟨here, later⟩ := List.forall_mem_cons.mp stands
    have boundary := joined_boundary rest ending later apart ends
    have onward := ih (offset + width p.gap + width p.text) later fun q member => apart q (List.mem_of_mem_tail member)
    rw [joined, scan_gap offset p.gap _ here.blank,
      Token.scan_spelling _ p.token p.text _ (Token.written_spelling _ _ here.written) boundary, onward]
    rfl

end Piece

structure Rendering where
  pieces : List Piece
  ending : List Char
  stands : ∀ p ∈ pieces, p.Stands
  apart : ∀ p ∈ pieces.tail, p.gap ≠ []
  ends : ∀ c ∈ ending, Text.isBlank c = true

namespace Rendering

def tokens (r : Rendering) : List Token := r.pieces.map (·.token)
def text (r : Rendering) : String := String.ofList (Piece.joined r.pieces r.ending)
def placed (r : Rendering) : List (Nat × Token) := Piece.placed 0 r.pieces

theorem scan_text (r : Rendering) : Token.scan 0 r.text.toList = .ok r.placed := by
  rw [text, String.toList_ofList]
  exact Piece.scan_joined 0 r.pieces r.ending r.stands r.apart r.ends

end Rendering

-- Offsets only tell where a fault is.
theorem run_unplaced (length : Nat) (r : ConditionReader) (tokens : List (Nat × Token)) :
    (r.run length tokens).mapError (·.fault) = (r.feed (tokens.map (·.2))).bind (·.finish) := by
  induction tokens generalizing r with
  | nil =>
    change (r.finish.mapError (SyntaxError.mk length)).mapError SyntaxError.fault = r.finish
    cases r.finish <;> rfl
  | cons entry rest ih =>
    simp only [ConditionReader.run, List.map_cons, ConditionReader.feed]
    cases r.step entry.2 with
    | error fault => rfl
    | ok next => exact ih next

theorem of_tokens_unplaced (length length' : Nat) (tokens tokens' : List (Nat × Token))
    (same : tokens.map (·.2) = tokens'.map (·.2)) :
    (Condition.ofTokens length tokens).mapError (·.fault) = (Condition.ofTokens length' tokens').mapError (·.fault) := by
  have empty : tokens.isEmpty = tokens'.isEmpty := by
    rw [← List.isEmpty_map (f := (·.2)), same, List.isEmpty_map]
  unfold Condition.ofTokens
  rw [empty]
  cases tokens'.isEmpty with
  | true => rfl
  | false =>
    change (ConditionReader.start.run length tokens).mapError _ = (ConditionReader.start.run length' tokens').mapError _
    rw [run_unplaced, run_unplaced, same]

theorem renderings_scan_back (r : Rendering) :
    Token.scan 0 r.text.toList = .ok r.placed ∧ r.placed.map (·.2) = r.tokens ∧
      ∀ r' : Rendering, r'.tokens = r.tokens →
        (Condition.parse r'.text).mapError (·.fault) = (Condition.parse r.text).mapError (·.fault) := by
  refine ⟨r.scan_text, Piece.placed_tokens 0 r.pieces, fun r' same => ?_⟩
  rw [Condition.parse, Condition.parse, r'.scan_text, r.scan_text]
  refine of_tokens_unplaced _ _ _ _ ?_
  exact (Piece.placed_tokens 0 r'.pieces).trans (same.trans (Piece.placed_tokens 0 r.pieces).symm)

theorem accented_name : IsName "tür" := name_of_word 't' "ür".toList "tür" rfl rfl rfl

def terse : Rendering where
  pieces := [⟨[], .not, ['!']⟩, ⟨[' '], .signal "tür", "tür".toList⟩, ⟨[' '], .and, ['&', '&']⟩,
    ⟨['\n'], .literal (.string "a b"), ['"', 'a', ' ', 'b', '"']⟩]
  ending := []
  stands p member := by
    simp only [List.mem_cons, List.not_mem_nil, or_false] at member
    rcases member with rfl | rfl | rfl | rfl
    · exact ⟨.bang, List.all_eq_true.mp rfl⟩
    · exact ⟨.name "tür" accented_name, List.all_eq_true.mp rfl⟩
    · exact ⟨.ampersands, List.all_eq_true.mp rfl⟩
    · exact ⟨.quoted '"' ['a', ' ', 'b'] rfl (by decide), List.all_eq_true.mp rfl⟩
  apart := by decide
  ends := List.all_eq_true.mp rfl

def wordy : Rendering where
  pieces := [⟨['\u2003'], .not, "Not".toList⟩, ⟨['\t', ' '], .signal "tür", "tür".toList⟩, ⟨[' '], .and, "AND".toList⟩,
    ⟨[' '], .literal (.string "a b"), ['\x27', 'a', ' ', 'b', '\x27']⟩]
  ending := [' ']
  stands p member := by
    simp only [List.mem_cons, List.not_mem_nil, or_false] at member
    rcases member with rfl | rfl | rfl | rfl
    · exact ⟨.negation _ (by decide), List.all_eq_true.mp rfl⟩
    · exact ⟨.name "tür" accented_name, List.all_eq_true.mp rfl⟩
    · exact ⟨.connective .and _ (by decide), List.all_eq_true.mp rfl⟩
    · exact ⟨.quoted '\x27' ['a', ' ', 'b'] rfl (by decide), List.all_eq_true.mp rfl⟩
  apart := by decide
  ends := List.all_eq_true.mp rfl

theorem renderings_scan_back_wordy :
    terse.text = "! tür &&\n\"a b\"" ∧ wordy.text = "\u2003Not\t tür AND \x27a b\x27 " ∧
      Token.scan 0 wordy.text.toList = .ok [(3, .not), (8, .signal "tür"), (13, .and), (17, .literal (.string "a b"))] ∧
      (Condition.parse wordy.text).mapError (·.fault) = (Condition.parse terse.text).mapError (·.fault) := by
  refine ⟨rfl, rfl, (renderings_scan_back wordy).1, ?_⟩
  exact (renderings_scan_back terse).2.2 wordy rfl

end SignalRules
