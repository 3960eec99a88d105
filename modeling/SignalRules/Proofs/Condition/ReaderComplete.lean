import SignalRules.Proofs.Condition.ReaderSound

set_option autoImplicit false

namespace SignalRules
open OpenExpression (negated joined)

namespace OpenExpression

theorem negated_not (n : Nat) (c : Condition) : negated n (.not c) = negated (n + 1) c := by
  induction n with
  | zero => rfl
  | succ n ih => exact congrArg Condition.not ih

end OpenExpression

-- From a place where a phrase may start, its tokens lead to where it has just ended. What the phrase stands for
-- is then built by the part of the open expression that belongs to it; all else is as it was.
def Phrase.Reached : Phrase → List Token → Condition → Prop
  | operand, ts, c => ∀ e outer, ConditionReader.feed ⟨e, outer, none⟩ ts = .ok ⟨e, outer, some c⟩
  | comparison, ts, c => ∀ a b n outer, ∃ left last,
      ConditionReader.feed ⟨⟨a, b, n, none⟩, outer, none⟩ ts = .ok ⟨⟨a, b, n, left⟩, outer, some last⟩ ∧
        OpenExpression.unary ⟨a, b, n, left⟩ last = negated n c
  | unary, ts, c => ∀ a b n outer, ∃ m left last,
      ConditionReader.feed ⟨⟨a, b, n, none⟩, outer, none⟩ ts = .ok ⟨⟨a, b, m, left⟩, outer, some last⟩ ∧
        OpenExpression.unary ⟨a, b, m, left⟩ last = negated n c
  | chain .and, ts, c => ∀ a outer, ∃ b n left last,
      ConditionReader.feed ⟨⟨a, [], 0, none⟩, outer, none⟩ ts = .ok ⟨⟨a, b, n, left⟩, outer, some last⟩ ∧
        OpenExpression.conjunction ⟨a, b, n, left⟩ last = c
  | chain .or, ts, c => ∀ outer, ∃ e last,
      ConditionReader.feed ⟨.empty, outer, none⟩ ts = .ok ⟨e, outer, some last⟩ ∧ e.whole last = c

def Connective.Reached : Connective → List Token → List Condition → Prop
  | and, ts, cs => ∀ a outer, ∃ b n left last,
      ConditionReader.feed ⟨⟨a, [], 0, none⟩, outer, none⟩ ts = .ok ⟨⟨a, b, n, left⟩, outer, some last⟩ ∧
        b ++ [OpenExpression.unary ⟨a, b, n, left⟩ last] = cs
  | or, ts, cs => ∀ outer, ∃ e last,
      ConditionReader.feed ⟨.empty, outer, none⟩ ts = .ok ⟨e, outer, some last⟩ ∧
        e.alternatives ++ [e.conjunction last] = cs

theorem reached_joined (op : Connective) (ts : List Token) (cs : List Condition) (chain : op.Reached ts cs) :
    (Phrase.chain op).Reached ts (joined op cs) := by
  cases op with
  | and =>
    intro a outer
    obtain ⟨b, n, left, last, read, rfl⟩ := chain a outer
    exact ⟨b, n, left, last, read, rfl⟩
  | or =>
    intro outer
    obtain ⟨e, last, read, rfl⟩ := chain outer
    exact ⟨e, last, read, rfl⟩

theorem reached_first (op : Connective) (ts : List Token) (c : Condition) (element : op.element.Reached ts c) :
    op.Reached ts [c] := by
  cases op with
  | and =>
    intro a outer
    obtain ⟨m, left, last, read, value⟩ := element a [] 0 outer
    exact ⟨[], m, left, last, read, by rw [value]; rfl⟩
  | or =>
    intro outer
    obtain ⟨b, n, left, last, read, value⟩ := element [] outer
    exact ⟨⟨[], b, n, left⟩, last, read, by rw [value]; rfl⟩

theorem reached_next (op : Connective) (ts us : List Token) (cs : List Condition) (c : Condition)
    (chain : op.Reached ts cs) (element : op.element.Reached us c) :
    op.Reached (ts ++ op.token :: us) (cs ++ [c]) := by
  cases op with
  | and =>
    intro a outer
    obtain ⟨b, n, left, last, read, rfl⟩ := chain a outer
    obtain ⟨m, left', last', read', value⟩ := element a (b ++ [OpenExpression.unary ⟨a, b, n, left⟩ last]) 0 outer
    refine ⟨_, m, left', last', ?_, by rw [value]; rfl⟩
    rw [ConditionReader.feed_through _ _ _ _ read]
    exact read'
  | or =>
    intro outer
    obtain ⟨e, last, read, rfl⟩ := chain outer
    obtain ⟨b, n, left, last', read', value⟩ := element (e.alternatives ++ [e.conjunction last]) outer
    refine ⟨⟨e.alternatives ++ [e.conjunction last], b, n, left⟩, last', ?_, by rw [value]⟩
    rw [ConditionReader.feed_through _ _ _ _ read]
    exact read'

theorem reached_negation (ts : List Token) (c : Condition) (operand : Phrase.unary.Reached ts c) :
    Phrase.unary.Reached (.not :: ts) (.not c) := by
  intro a b n outer
  obtain ⟨m, left, last, read, value⟩ := operand a b (n + 1) outer
  exact ⟨m, left, last, read, by rw [value, OpenExpression.negated_not]⟩

theorem reached_compared (op : Comparator) (ls rs : List Token) (l r : Condition) (left : Phrase.operand.Reached ls l)
    (right : Phrase.operand.Reached rs r) : Phrase.comparison.Reached (ls ++ .compare op :: rs) (.compare op l r) := by
  intro a b n outer
  refine ⟨some (l, op), r, ?_, rfl⟩
  rw [ConditionReader.feed_through _ _ _ _ (left ⟨a, b, n, none⟩ outer)]
  exact right ⟨a, b, n, some (l, op)⟩ outer

theorem reached_parenthesized (ts : List Token) (c : Condition) (inner : (Phrase.chain .or).Reached ts c) :
    Phrase.operand.Reached (.opening :: ts ++ [.closing]) c := by
  intro e outer
  obtain ⟨e', last, read, rfl⟩ := inner (e :: outer)
  change ConditionReader.feed ⟨.empty, e :: outer, none⟩ (ts ++ [.closing]) = _
  rw [ConditionReader.feed_through _ _ _ _ read]
  rfl

mutual
theorem derives_reached : ∀ (phrase : Phrase) (ts : List Token) (c : Condition), Derives phrase ts c → phrase.Reached ts c
  | _, _, _, .alone op ts c chain => reached_joined op ts [c] (chained_reached op ts [c] chain)
  | _, _, _, .several op ts (c :: d :: rest) chain _ => reached_joined op ts (c :: d :: rest) (chained_reached op ts _ chain)
  | _, _, _, .negation ts c operand => reached_negation ts c (derives_reached .unary ts c operand)
  | _, _, _, .affirmation ts c inner => fun a b n outer => ⟨n, derives_reached .comparison ts c inner a b n outer⟩
  | _, _, _, .compared op ls rs l r left right =>
    reached_compared op ls rs l r (derives_reached .operand ls l left) (derives_reached .operand rs r right)
  | _, _, _, .uncompared ts c operand => fun a b n outer =>
    ⟨none, c, derives_reached .operand ts c operand ⟨a, b, n, none⟩ outer, rfl⟩
  | _, _, _, .signal _ => fun _ _ => rfl
  | _, _, _, .literal _ => fun _ _ => rfl
  | _, _, _, .parenthesized ts c inner => reached_parenthesized ts c (derives_reached (.chain .or) ts c inner)
theorem chained_reached : ∀ (op : Connective) (ts : List Token) (cs : List Condition), Chained op ts cs → op.Reached ts cs
  | _, _, _, .first op ts c element => reached_first op ts c (derives_reached op.element ts c element)
  | _, _, _, .next op ts us cs c chain element =>
    reached_next op ts us cs c (chained_reached op ts cs chain) (derives_reached op.element us c element)
end

namespace ConditionReader

theorem feed_finish_iff (ts : List Token) (c : Condition) :
    (∃ r, start.feed ts = .ok r ∧ r.finish = .ok c) ↔ Derives (.chain .or) ts c := by
  constructor
  · rintro ⟨r, read, finished⟩
    exact finish_derives r ts c (feed_spelled start r [] ts start_spelled read) finished
  · intro derived
    obtain ⟨e, last, read, rfl⟩ := derives_reached (.chain .or) ts c derived []
    exact ⟨⟨e, [], some last⟩, read, rfl⟩

end ConditionReader

namespace Condition

theorem ofTokens_eq_ok_iff (length : Nat) (tokens : List (Nat × Token)) (c : Condition) :
    ofTokens length tokens = .ok c ↔ Derives (.chain .or) (tokens.map (·.2)) c := by
  rw [← ConditionReader.feed_finish_iff, ← ConditionReader.run_eq_ok_iff length]
  cases tokens with
  | nil => exact ⟨fun read => (nomatch read), fun read => (nomatch read)⟩
  | cons entry rest => rfl

end Condition

end SignalRules
