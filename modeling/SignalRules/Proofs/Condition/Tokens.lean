import SignalRules.Proofs.Condition.Grammar
import SignalRules.Proofs.Condition.Parts
import SignalRules.Proofs.Condition.Words

set_option autoImplicit false

namespace SignalRules

def enclosed (yes : Bool) (ts : List Token) : List Token := if yes then .opening :: ts ++ [.closing] else ts

namespace Condition

mutual
def tokens : Condition → List Token
  | signal name => [.signal name]
  | literal value => [.literal value]
  | not operand => .not :: enclosed (operand.isJoin || operand.isCompare) (tokens operand)
  | compare op left right =>
    enclosed (!left.isAtom) (tokens left) ++ .compare op :: enclosed (!right.isAtom) (tokens right)
  | join op operands => tokensAll op operands

def tokensAll (op : Connective) : List Condition → List Token
  | [] => []
  | operand :: rest =>
    enclosed operand.isJoin (tokens operand) ++ (if rest.isEmpty then [] else op.token :: tokensAll op rest)
end

def LegalPart : Condition → Prop
  | join _ operands => 2 ≤ operands.length
  | signal name => IsName name
  | _ => True

def Legal (c : Condition) : Prop := c.Throughout LegalPart

theorem legal_compare (op : Comparator) (l r : Condition) : (compare op l r).Legal ↔ l.Legal ∧ r.Legal := by
  simp [Legal, throughout_compare, LegalPart]

theorem legal_join (op : Connective) (cs : List Condition) : (join op cs).Legal ↔ 2 ≤ cs.length ∧ ∀ c ∈ cs, c.Legal :=
  throughout_join LegalPart op cs

theorem legal_not (c : Condition) : (not c).Legal ↔ c.Legal := by
  simp [Legal, throughout_not, LegalPart]

theorem legal_signal (name : String) : (signal name).Legal ↔ IsName name :=
  throughout_signal LegalPart name

theorem legal_literal (value : Value) : (literal value).Legal := by
  simp [Legal, throughout_literal, LegalPart]

def phrase : Condition → Phrase
  | compare _ _ _ => .comparison
  | join op _ => .chain op
  | not _ => .unary
  | signal _ => .operand
  | literal _ => .operand

end Condition

open Condition (phrase tokens)

theorem derives_unary_of_comparison (ts : List Token) (c : Condition) (derived : Derives c.phrase ts c)
    (tight : c.isJoin = false) : Derives .unary ts c := by
  cases c with
  | compare op l r => exact .affirmation ts _ derived
  | join op cs => cases tight
  | not c => exact derived
  | signal name => exact .affirmation ts _ (.uncompared ts _ derived)
  | literal value => exact .affirmation ts _ (.uncompared ts _ derived)

theorem derives_loosest (ts : List Token) (c : Condition) (derived : Derives c.phrase ts c) : Derives (.chain .or) ts c := by
  cases c with
  | join op cs =>
    cases op with
    | and => exact derives_alone .or ts _ derived
    | or => exact derived
  | compare op l r => exact derives_alone .or ts _ (derives_alone .and ts _ (derives_unary_of_comparison ts _ derived rfl))
  | not c => exact derives_alone .or ts _ (derives_alone .and ts _ (derives_unary_of_comparison ts _ derived rfl))
  | signal name => exact derives_alone .or ts _ (derives_alone .and ts _ (derives_unary_of_comparison ts _ derived rfl))
  | literal value => exact derives_alone .or ts _ (derives_alone .and ts _ (derives_unary_of_comparison ts _ derived rfl))

theorem derives_parenthesized_operand (ts : List Token) (c : Condition) (derived : Derives c.phrase ts c) :
    Derives .operand (enclosed true ts) c :=
  .parenthesized ts c (derives_loosest ts c derived)

theorem derives_compared_operand (ts : List Token) (c : Condition) (derived : Derives c.phrase ts c) :
    Derives .operand (enclosed (!c.isAtom) ts) c := by
  cases c with
  | signal name => exact derived
  | literal value => exact derived
  | compare op l r => exact derives_parenthesized_operand ts _ derived
  | join op cs => exact derives_parenthesized_operand ts _ derived
  | not c => exact derives_parenthesized_operand ts _ derived

theorem derives_negated_operand (ts : List Token) (c : Condition) (derived : Derives c.phrase ts c) :
    Derives .unary (enclosed (c.isJoin || c.isCompare) ts) c := by
  cases c with
  | signal name => exact derives_unary_of_operand ts _ derived
  | literal value => exact derives_unary_of_operand ts _ derived
  | compare op l r => exact derives_unary_of_operand _ _ (derives_parenthesized_operand ts _ derived)
  | join op cs => exact derives_unary_of_operand _ _ (derives_parenthesized_operand ts _ derived)
  | not c => exact derived

theorem derives_joined_operand (op : Connective) (ts : List Token) (c : Condition) (derived : Derives c.phrase ts c) :
    Derives op.element (enclosed c.isJoin ts) c := by
  have unary : Derives .unary (enclosed c.isJoin ts) c := by
    cases joined : c.isJoin with
    | true => exact derives_unary_of_operand _ c (derives_parenthesized_operand ts c derived)
    | false => exact derives_unary_of_comparison ts c derived joined
  cases op with
  | and => exact unary
  | or => exact derives_alone .and _ c unary

mutual
theorem derives_tokens : ∀ c : Condition, c.Legal → Derives c.phrase c.tokens c
  | .signal name, _ => .signal name
  | .literal value, _ => .literal value
  | .not c, legal =>
    .negation _ c (derives_negated_operand _ c (derives_tokens c ((Condition.legal_not c).mp legal)))
  | .compare op l r, legal => by
    obtain ⟨left, right⟩ := (Condition.legal_compare op l r).mp legal
    exact .compared op _ _ l r (derives_compared_operand _ l (derives_tokens l left))
      (derives_compared_operand _ r (derives_tokens r right))
  | .join op cs, legal => by
    obtain ⟨plural, inside⟩ := (Condition.legal_join op cs).mp legal
    exact .several op _ cs (chained_tokens op cs inside (List.ne_nil_of_length_pos (by omega))) plural

theorem chained_tokens (op : Connective) : ∀ cs : List Condition, (∀ c ∈ cs, c.Legal) → cs ≠ [] →
    Chained op (Condition.tokensAll op cs) cs
  | [], _, nonempty => absurd rfl nonempty
  | [c], legal, _ => by
    have element := derives_joined_operand op _ c (derives_tokens c (legal c List.mem_cons_self))
    simpa [Condition.tokensAll] using Chained.first op _ c element
  | c :: d :: rest, legal, _ => by
    have element := derives_joined_operand op _ c (derives_tokens c (legal c List.mem_cons_self))
    have later := chained_tokens op (d :: rest) (fun e member => legal e (List.mem_cons_of_mem c member)) (by simp)
    simpa [Condition.tokensAll] using chained_cons op _ _ later _ c element
end

namespace Token

def leaf? : Token → Option Condition
  | signal name => some (.signal name)
  | literal value => some (.literal value)
  | _ => none

def leaves (ts : List Token) : List Condition := ts.filterMap leaf?

theorem leaves_append (ts us : List Token) : leaves (ts ++ us) = leaves ts ++ leaves us :=
  List.filterMap_append

theorem leaves_silent (token : Token) (ts : List Token) (silent : token.leaf? = none) : leaves (token :: ts) = leaves ts :=
  List.filterMap_cons_none silent

theorem leaves_connective (op : Connective) (ts : List Token) : leaves (op.token :: ts) = leaves ts := by
  cases op <;> rfl

theorem leaves_enclosed (yes : Bool) (ts : List Token) : leaves (enclosed yes ts) = leaves ts := by
  cases yes with
  | false => rfl
  | true =>
    change leaves (.opening :: (ts ++ [.closing])) = leaves ts
    rw [leaves_silent .opening _ rfl, leaves_append]
    exact List.append_nil (leaves ts)

end Token

mutual
theorem derives_leaves : ∀ (phrase : Phrase) (ts : List Token) (c : Condition), Derives phrase ts c →
    Token.leaves ts = c.leaves
  | _, _, _, .alone op ts c chain => by simpa using chained_leaves op ts [c] chain
  | _, _, _, .several op ts cs chain _ => by simpa using chained_leaves op ts cs chain
  | _, _, _, .negation ts c operand => by
    rw [Token.leaves_silent .not ts rfl, Condition.leaves_not, derives_leaves .unary ts c operand]
  | _, _, _, .affirmation ts c inner => derives_leaves .comparison ts c inner
  | _, _, _, .compared op ls rs l r left right => by
    rw [Token.leaves_append, derives_leaves .operand ls l left, Condition.leaves_compare]
    exact congrArg (l.leaves ++ ·) (derives_leaves .operand rs r right)
  | _, _, _, .uncompared ts c operand => derives_leaves .operand ts c operand
  | _, _, _, .signal name => by simp [Token.leaves, Token.leaf?]
  | _, _, _, .literal value => by simp [Token.leaves, Token.leaf?]
  | _, _, _, .parenthesized ts c inner => (Token.leaves_enclosed true ts).trans (derives_leaves (.chain .or) ts c inner)

theorem chained_leaves : ∀ (op : Connective) (ts : List Token) (cs : List Condition), Chained op ts cs →
    Token.leaves ts = Condition.leavesAll cs
  | _, _, _, .first op ts c element => by simpa using derives_leaves op.element ts c element
  | _, _, _, .next op ts us cs c chain element => by
    rw [Token.leaves_append, Token.leaves_connective, chained_leaves op ts cs chain, Condition.leaves_all_append,
      derives_leaves op.element us c element]
    simp
end

mutual
theorem derives_legal : ∀ (phrase : Phrase) (ts : List Token) (c : Condition), Derives phrase ts c →
    (∀ name, .signal name ∈ ts → IsName name) → c.Legal
  | _, _, _, .alone op ts c chain, names => chained_legal op ts [c] chain names c List.mem_cons_self
  | _, _, _, .several op ts cs chain plural, names =>
    (Condition.legal_join op cs).mpr ⟨plural, chained_legal op ts cs chain names⟩
  | _, _, _, .negation ts c operand, names =>
    (Condition.legal_not c).mpr (derives_legal .unary ts c operand fun name member => names name (by simp [member]))
  | _, _, _, .affirmation ts c inner, names => derives_legal .comparison ts c inner names
  | _, _, _, .compared op ls rs l r left right, names =>
    (Condition.legal_compare op l r).mpr
      ⟨derives_legal .operand ls l left fun name member => names name (by simp [member]),
        derives_legal .operand rs r right fun name member => names name (by simp [member])⟩
  | _, _, _, .uncompared ts c operand, names => derives_legal .operand ts c operand names
  | _, _, _, .signal name, names => (Condition.legal_signal name).mpr (names name (by simp))
  | _, _, _, .literal value, _ => Condition.legal_literal value
  | _, _, _, .parenthesized ts c inner, names =>
    derives_legal (.chain .or) ts c inner fun name member => names name (by simp [member])

theorem chained_legal : ∀ (op : Connective) (ts : List Token) (cs : List Condition), Chained op ts cs →
    (∀ name, .signal name ∈ ts → IsName name) → ∀ c ∈ cs, c.Legal
  | _, _, _, .first op ts c element, names => by
    simpa using derives_legal op.element ts c element names
  | _, _, _, .next op ts us cs c chain element, names => by
    have earlier := chained_legal op ts cs chain fun name member => names name (by simp [member])
    have last := derives_legal op.element us c element fun name member => names name (by simp [member])
    intro d member
    rcases List.mem_append.mp member with before | here
    · exact earlier d before
    · rwa [List.mem_singleton.mp here]
end

end SignalRules
