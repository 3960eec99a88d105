import SignalRules.Proofs.Condition.Spelling
import SignalRules.Proofs.Condition.Tokens

set_option autoImplicit false

namespace SignalRules

namespace Condition

def PlainPart : Condition → Prop
  | literal (.string s) => '"' ∉ s.toList
  | literal (.float x) => x.isFinite = true
  | _ => True

def Plain (c : Condition) : Prop := c.Throughout PlainPart

theorem plain_compare (op : Comparator) (l r : Condition) : (compare op l r).Plain ↔ l.Plain ∧ r.Plain := by
  simp [Plain, throughout_compare, PlainPart]

theorem plain_join (op : Connective) (cs : List Condition) : (join op cs).Plain ↔ ∀ c ∈ cs, c.Plain := by
  simp [Plain, throughout_join, PlainPart]

theorem plain_not (c : Condition) : (not c).Plain ↔ c.Plain := by
  simp [Plain, throughout_not, PlainPart]

theorem plain_signal (name : String) : (signal name).Plain := by
  simp [Plain, throughout_signal, PlainPart]

theorem plain_literal (value : Value) : (literal value).Plain ↔ PlainPart (literal value) :=
  throughout_literal PlainPart value

end Condition

-- A text is read as the tokens before any boundary.
def Printed (text : String) (ts : List Token) : Prop :=
  ∀ rest, Token.Boundary rest → Token.Scanned text.toList rest ts

theorem boundary_space (rest : List Char) : Token.Boundary (' ' :: rest) := rfl

theorem boundary_closing (rest : List Char) : Token.Boundary (')' :: rest) := rfl

theorem printed_spelling (token : Token) (text : String) (spelling : Token.Spelling token text.toList) :
    Printed text [token] :=
  fun rest boundary => Token.scanned_spelling token text.toList rest spelling boundary

theorem printed_spaced (a b : String) (ts us : List Token) (front : Printed a ts) (back : Printed b us) :
    Printed (a ++ " " ++ b) (ts ++ us) := by
  intro rest boundary
  rw [String.toList_append, String.toList_append, List.append_assoc]
  have gap := Token.scanned_blank ' ' (b.toList ++ rest) rfl
  exact Token.scanned_append _ _ rest ts us (front _ (boundary_space _))
    (Token.scanned_append [' '] b.toList rest [] us gap (back rest boundary))

theorem printed_parenthesized (yes : Bool) (text : String) (ts : List Token) (inner : Printed text ts) :
    Printed (Condition.parenthesized yes text) (enclosed yes ts) := by
  cases yes with
  | false => exact inner
  | true =>
    intro rest boundary
    have opening : Token.Scanned ['('] (text.toList ++ [')'] ++ rest) [.opening] :=
      Token.scanned_first '(' [] _ .opening rfl rfl
    have closing : Token.Scanned [')'] rest [.closing] := Token.scanned_first ')' [] rest .closing rfl rfl
    have body := Token.scanned_append text.toList [')'] rest ts [.closing] (inner _ (boundary_closing rest)) closing
    have whole := Token.scanned_append ['('] _ rest [.opening] _ opening body
    simpa [Condition.parenthesized, enclosed] using whole

theorem printed_bool (b : Bool) : Printed (Value.bool b).literal [.literal (.bool b)] := by
  apply printed_spelling
  cases b with
  | true => exact .word 't' "rue".toList _ rfl rfl rfl
  | false => exact .word 'f' "alse".toList _ rfl rfl rfl

theorem number_text_spelling (text : List Char) (value : Value) (number : NumberText text value) :
    Token.Spelling (.literal value) text := by
  obtain ⟨c, tail, rfl, start, parts⟩ := number.shape
  refine .number c tail _ (Token.number_start_of c start) ?_ ?_
  · simpa [Token.isNumberPart] using parts
  · rw [Token.ofNumber, number.names]

theorem printed_literal (value : Value) (plain : (Condition.literal value).Plain) : Printed value.literal [.literal value] := by
  rw [Condition.plain_literal] at plain
  cases value with
  | bool b => exact printed_bool b
  | int i => exact printed_spelling _ _ (number_text_spelling _ _ (number_text_int i))
  | string s =>
    have quoted := Token.Spelling.quoted '"' s.toList rfl plain
    apply printed_spelling
    simpa [Value.literal] using quoted
  | float x =>
    cases x with
    | finite negative rank =>
      apply printed_spelling
      simpa [Value.literal, Value.display] using number_text_spelling _ _ (number_text_float negative rank)
    | nan => cases plain
    | infinity negative => cases plain

theorem printed_signal (name : String) (legal : IsName name) : Printed name [.signal name] :=
  printed_spelling _ _ (Token.spelling_name name legal)

theorem printed_connective (op : Connective) : Printed op.word [op.token] := by
  apply printed_spelling
  cases op with
  | and => exact .word 'a' "nd".toList _ rfl rfl rfl
  | or => exact .word 'o' "r".toList _ rfl rfl rfl

theorem printed_not : Printed "not" [.not] :=
  printed_spelling _ _ (.word 'n' "ot".toList _ rfl rfl rfl)

theorem printed_comparator (op : Comparator) : Printed op.symbol [.compare op] :=
  printed_spelling _ _ (.comparator op)

namespace Condition

theorem display_not (c : Condition) :
    (not c).display = "not" ++ " " ++ parenthesized (c.isJoin || c.isCompare) c.display := by
  rw [display]
  rfl

theorem display_join_cons (op : Connective) (c d : Condition) (cs : List Condition) :
    (join op (c :: d :: cs)).display =
      parenthesized c.isJoin c.display ++ " " ++ op.word ++ " " ++ (join op (d :: cs)).display := by
  simp [display, displayAll, String.intercalate_cons_cons, String.append_assoc]

end Condition

mutual
theorem printed_display : ∀ c : Condition, c.Legal → c.Plain → Printed c.display c.tokens
  | .signal name, legal, _ => by
    simpa [Condition.display, Condition.tokens] using printed_signal name ((Condition.legal_signal name).mp legal)
  | .literal value, _, plain => by
    simpa [Condition.display, Condition.tokens] using printed_literal value plain
  | .not c, legal, plain => by
    have inner := printed_display c ((Condition.legal_not c).mp legal) ((Condition.plain_not c).mp plain)
    rw [Condition.display_not, Condition.tokens]
    exact printed_spaced _ _ [.not] _ printed_not (printed_parenthesized _ _ _ inner)
  | .compare op l r, legal, plain => by
    rw [Condition.legal_compare] at legal
    rw [Condition.plain_compare] at plain
    have left := printed_parenthesized (!l.isAtom) _ _ (printed_display l legal.1 plain.1)
    have right := printed_parenthesized (!r.isAtom) _ _ (printed_display r legal.2 plain.2)
    have whole := printed_spaced _ _ _ _ (printed_spaced _ _ _ _ left (printed_comparator op)) right
    rw [List.append_assoc, List.singleton_append] at whole
    rwa [Condition.display, Condition.tokens]
  | .join op cs, legal, plain => by
    rw [Condition.legal_join] at legal
    rw [Condition.plain_join] at plain
    exact printed_chain op cs legal.2 plain

theorem printed_chain (op : Connective) : ∀ cs : List Condition, (∀ c ∈ cs, c.Legal) → (∀ c ∈ cs, c.Plain) →
    Printed (Condition.join op cs).display (Condition.tokensAll op cs)
  | [], _, _ => fun rest _ => Token.scanned_nil rest
  | [c], legal, plain => by
    have inner := printed_display c (legal c List.mem_cons_self) (plain c List.mem_cons_self)
    simpa [Condition.display, Condition.displayAll, Condition.tokensAll] using printed_parenthesized c.isJoin _ _ inner
  | c :: d :: cs, legal, plain => by
    have inner := printed_display c (legal c List.mem_cons_self) (plain c List.mem_cons_self)
    have later := printed_chain op (d :: cs) (fun e member => legal e (List.mem_cons_of_mem c member))
      (fun e member => plain e (List.mem_cons_of_mem c member))
    have front := printed_spaced _ _ _ _ (printed_parenthesized c.isJoin _ _ inner) (printed_connective op)
    have whole := printed_spaced _ _ _ _ front later
    rw [List.append_assoc, List.singleton_append] at whole
    rwa [Condition.display_join_cons, Condition.tokensAll]
end

end SignalRules
