import SignalRules.Condition.Parser
import SignalRules.Proofs.Condition.Grammar

set_option autoImplicit false

namespace SignalRules

namespace ConditionReader

def feed (r : ConditionReader) : List Token → Except SyntaxFault ConditionReader
  | [] => .ok r
  | token :: rest =>
    match r.step token with
    | .error fault => .error fault
    | .ok r => feed r rest

theorem feed_append (r : ConditionReader) (a b : List Token) : r.feed (a ++ b) = (r.feed a).bind (·.feed b) := by
  induction a generalizing r with
  | nil => rfl
  | cons token rest ih =>
    simp only [List.cons_append, feed]
    cases r.step token with
    | error fault => rfl
    | ok r => exact ih r

theorem feed_through (r middle : ConditionReader) (a b : List Token) (read : r.feed a = .ok middle) :
    r.feed (a ++ b) = middle.feed b := by
  rw [feed_append, read]
  rfl

theorem run_eq_ok_iff (length : Nat) (r : ConditionReader) (tokens : List (Nat × Token)) (c : Condition) :
    r.run length tokens = .ok c ↔ ∃ r', r.feed (tokens.map (·.2)) = .ok r' ∧ r'.finish = .ok c := by
  induction tokens generalizing r with
  | nil =>
    simp only [run, List.map_nil, feed, Except.ok.injEq, exists_eq_left']
    cases r.finish with
    | error fault => exact ⟨fun finished => (nomatch finished), fun finished => (nomatch finished)⟩
    | ok c' =>
      change (Except.ok c' : Except SyntaxError Condition) = .ok c ↔ (Except.ok c' : Except SyntaxFault Condition) = .ok c
      simp only [Except.ok.injEq]
  | cons entry rest ih =>
    simp only [run, List.map_cons, feed]
    cases r.step entry.2 with
    | error fault => simp
    | ok r => exact ih r

end ConditionReader

open OpenExpression (negated joined)

theorem derives_joined (op : Connective) (ts : List Token) (cs : List Condition) (chain : Chained op ts cs) :
    Derives (.chain op) ts (joined op cs) := by
  match cs, chain with
  | [], chain => exact absurd rfl (chained_ne_nil op ts [] chain)
  | [c], chain => exact .alone op ts c chain
  | c :: d :: rest, chain => exact .several op ts _ chain (by simp)

theorem derives_negated (n : Nat) (ts : List Token) (c : Condition) (inner : Derives .comparison ts c) :
    Derives .unary (List.replicate n .not ++ ts) (negated n c) := by
  induction n with
  | zero => exact .affirmation ts c inner
  | succ n ih => exact .negation _ _ ih

-- What a reader has read is spelled out by its parts: each part that is still open accounts for the tokens of
-- its finished operands and for the connective, comparator or parenthesis that left it open.
def Preceded (op : Connective) (ts : List Token) (cs : List Condition) : Prop :=
  (ts = [] ∧ cs = []) ∨ ∃ chain, ts = chain ++ [op.token] ∧ Chained op chain cs

def LeftSide (ts : List Token) : Option (Condition × Comparator) → Prop
  | none => ts = []
  | some (left, op) => ∃ ls, ts = ls ++ [.compare op] ∧ Derives .operand ls left

structure OpenExpression.Spelled (e : OpenExpression) (a b d : List Token) : Prop where
  alternatives : Preceded .or a e.alternatives
  conjuncts : Preceded .and b e.conjuncts
  left : LeftSide d e.comparing

def OpenExpression.tokens (e : OpenExpression) (a b d : List Token) : List Token :=
  a ++ (b ++ (List.replicate e.negations .not ++ d))

def SpelledAround : List OpenExpression → List Token → Prop
  | [], ts => ts = []
  | e :: outer, ts => ∃ around a b d, ts = around ++ e.tokens a b d ++ [.opening] ∧ SpelledAround outer around ∧ e.Spelled a b d

def OperandRead (ts : List Token) : Option Condition → Prop
  | none => ts = []
  | some c => Derives .operand ts c

def ConditionReader.Spelled (r : ConditionReader) (ts : List Token) : Prop :=
  ∃ around a b d last, ts = around ++ (r.current.tokens a b d ++ last) ∧
    SpelledAround r.outer around ∧ r.current.Spelled a b d ∧ OperandRead last r.operand

theorem chained_preceded (op : Connective) (ts us : List Token) (cs : List Condition) (c : Condition)
    (before : Preceded op ts cs) (element : Derives op.element us c) : Chained op (ts ++ us) (cs ++ [c]) := by
  rcases before with ⟨rfl, rfl⟩ | ⟨chain, rfl, chained⟩
  · exact .first op us c element
  · simpa using Chained.next op chain us cs c chained element

namespace OpenExpression

theorem derives_unary (e : OpenExpression) (d last : List Token) (c : Condition) (left : LeftSide d e.comparing)
    (operand : Derives .operand last c) : Derives .unary (List.replicate e.negations .not ++ d ++ last) (e.unary c) := by
  rw [List.append_assoc]
  apply derives_negated
  cases comparing : e.comparing with
  | none =>
    have none : d = [] := by simpa [comparing, LeftSide] using left
    subst none
    exact .uncompared last c operand
  | some pair =>
    obtain ⟨ls, rfl, derived⟩ : ∃ ls, d = ls ++ [.compare pair.2] ∧ Derives .operand ls pair.1 := by
      simpa [comparing, LeftSide] using left
    simpa using Derives.compared pair.2 ls last pair.1 c derived operand

theorem derives_conjunction (e : OpenExpression) (a b d last : List Token) (c : Condition) (spelled : e.Spelled a b d)
    (operand : Derives .operand last c) :
    Derives (.chain .and) (b ++ (List.replicate e.negations .not ++ d ++ last)) (e.conjunction c) :=
  derives_joined .and _ _
    (chained_preceded .and _ _ _ _ spelled.conjuncts (derives_unary e d last c spelled.left operand))

theorem derives_whole (e : OpenExpression) (a b d last : List Token) (c : Condition) (spelled : e.Spelled a b d)
    (operand : Derives .operand last c) : Derives (.chain .or) (e.tokens a b d ++ last) (e.whole c) := by
  have chain := derives_joined .or _ _
    (chained_preceded .or _ _ _ _ spelled.alternatives (derives_conjunction e a b d last c spelled operand))
  simpa [tokens, whole, List.append_assoc] using chain

theorem empty_spelled : OpenExpression.empty.Spelled [] [] [] :=
  ⟨.inl ⟨rfl, rfl⟩, .inl ⟨rfl, rfl⟩, rfl⟩

end OpenExpression

namespace ConditionReader

theorem start_spelled : start.Spelled [] :=
  ⟨[], [], [], [], [], rfl, rfl, OpenExpression.empty_spelled, rfl⟩

theorem before_operand_spelled (e : OpenExpression) (outer : List OpenExpression) (token : Token) (r' : ConditionReader)
    (ts : List Token) (spelled : Spelled ⟨e, outer, none⟩ ts)
    (step : beforeOperand ⟨e, outer, none⟩ token = .ok r') : r'.Spelled (ts ++ [token]) := by
  obtain ⟨around, a, b, d, last, rfl, outside, inside, none⟩ := spelled
  have none : last = [] := none
  subst none
  cases token with
  | signal name =>
    cases step
    exact ⟨around, a, b, d, [.signal name], by simp, outside, inside, .signal name⟩
  | literal value =>
    cases step
    exact ⟨around, a, b, d, [.literal value], by simp, outside, inside, .literal value⟩
  | opening =>
    cases step
    refine ⟨around ++ e.tokens a b d ++ [.opening], [], [], [], [], ?_, ?_, OpenExpression.empty_spelled, rfl⟩
    · simp [OpenExpression.tokens, OpenExpression.empty]
    · exact ⟨around, a, b, d, rfl, outside, inside⟩
  | not =>
    cases comparing : e.comparing with
    | some pair => simp [beforeOperand, comparing] at step
    | none =>
      simp only [beforeOperand, comparing, Except.ok.injEq] at step
      subst step
      have none : d = [] := by simpa [comparing, LeftSide] using inside.left
      subst none
      refine ⟨around, a, b, [], [], ?_, outside, ⟨inside.alternatives, inside.conjuncts, ?_⟩, rfl⟩
      · simp [OpenExpression.tokens, List.replicate_succ']
      · simp [LeftSide]
  | compare op => cases step
  | and => cases step
  | or => cases step
  | closing => cases step

theorem after_operand_spelled (e : OpenExpression) (outer : List OpenExpression) (c : Condition) (token : Token)
    (r' : ConditionReader) (ts : List Token) (spelled : Spelled ⟨e, outer, some c⟩ ts)
    (step : afterOperand ⟨e, outer, some c⟩ c token = .ok r') : r'.Spelled (ts ++ [token]) := by
  obtain ⟨around, a, b, d, last, rfl, outside, inside, operand⟩ := spelled
  have operand : Derives .operand last c := operand
  cases token with
  | compare op =>
    cases comparing : e.comparing with
    | some pair => simp [afterOperand, comparing] at step
    | none =>
      simp only [afterOperand, comparing, Except.ok.injEq] at step
      subst step
      have none : d = [] := by simpa [comparing, LeftSide] using inside.left
      subst none
      refine ⟨around, a, b, last ++ [.compare op], [], ?_, outside, ⟨inside.alternatives, inside.conjuncts, ?_⟩, rfl⟩
      · simp [OpenExpression.tokens]
      · exact ⟨last, rfl, operand⟩
  | and =>
    cases step
    have chain := chained_preceded .and _ _ _ _ inside.conjuncts (e.derives_unary d last c inside.left operand)
    refine ⟨around, a, _, [], [], ?_, outside, ⟨inside.alternatives, .inr ⟨_, rfl, chain⟩, rfl⟩, rfl⟩
    simp [OpenExpression.tokens, Connective.token]
  | or =>
    cases step
    have chain := chained_preceded .or _ _ _ _ inside.alternatives (e.derives_conjunction a b d last c inside operand)
    refine ⟨around, _, [], [], [], ?_, outside, ⟨.inr ⟨_, rfl, chain⟩, .inl ⟨rfl, rfl⟩, rfl⟩, rfl⟩
    simp [OpenExpression.tokens, Connective.token]
  | closing =>
    cases outer with
    | nil => cases step
    | cons e' outer =>
      cases step
      obtain ⟨around, a', b', d', rfl, outside, enclosing⟩ := outside
      refine ⟨around, a', b', d', _, ?_, outside, enclosing, .parenthesized _ _ (e.derives_whole a b d last c inside operand)⟩
      simp
  | signal name => cases step
  | literal value => cases step
  | not => cases step
  | opening => cases step

theorem step_spelled (r r' : ConditionReader) (token : Token) (ts : List Token) (spelled : r.Spelled ts)
    (step : r.step token = .ok r') : r'.Spelled (ts ++ [token]) := by
  obtain ⟨e, outer, operand⟩ := r
  cases operand with
  | none => exact before_operand_spelled e outer token r' ts spelled step
  | some c => exact after_operand_spelled e outer c token r' ts spelled step

theorem feed_spelled (r r' : ConditionReader) (ts us : List Token) (spelled : r.Spelled ts)
    (read : r.feed us = .ok r') : r'.Spelled (ts ++ us) := by
  induction us generalizing r ts with
  | nil =>
    cases read
    simpa using spelled
  | cons token rest ih =>
    cases step : r.step token with
    | error fault => simp [feed, step] at read
    | ok next =>
      rw [feed, step] at read
      simpa using ih next (ts ++ [token]) (step_spelled r next token ts spelled step) read

theorem finish_derives (r : ConditionReader) (ts : List Token) (c : Condition) (spelled : r.Spelled ts)
    (finished : r.finish = .ok c) : Derives (.chain .or) ts c := by
  obtain ⟨e, outer, pending⟩ := r
  obtain ⟨around, a, b, d, last, rfl, outside, inside, operand⟩ := spelled
  cases pending with
  | none => cases finished
  | some last =>
    cases outer with
    | cons e' outer => cases finished
    | nil =>
      cases finished
      have none : around = [] := outside
      subst none
      exact e.derives_whole a b d _ last inside operand

end ConditionReader

end SignalRules
