import SignalRules.Condition.Token

set_option autoImplicit false

namespace SignalRules

-- `chain or` is the start of the grammar and `chain and` what an `or` joins; an `and` joins unaries.
inductive Phrase where
  | chain (op : Connective)
  | unary
  | comparison
  | operand
deriving DecidableEq

namespace Connective

def token : Connective → Token
  | and => .and
  | or => .or

def element : Connective → Phrase
  | and => .unary
  | or => .chain .and

end Connective

mutual
inductive Derives : Phrase → List Token → Condition → Prop where
  | alone (op : Connective) (ts : List Token) (c : Condition) (chain : Chained op ts [c]) : Derives (.chain op) ts c
  | several (op : Connective) (ts : List Token) (cs : List Condition) (chain : Chained op ts cs)
      (plural : 2 ≤ cs.length) : Derives (.chain op) ts (.join op cs)
  | negation (ts : List Token) (c : Condition) (operand : Derives .unary ts c) :
      Derives .unary (.not :: ts) (.not c)
  | affirmation (ts : List Token) (c : Condition) (inner : Derives .comparison ts c) : Derives .unary ts c
  | compared (op : Comparator) (ls rs : List Token) (l r : Condition) (left : Derives .operand ls l)
      (right : Derives .operand rs r) : Derives .comparison (ls ++ .compare op :: rs) (.compare op l r)
  | uncompared (ts : List Token) (c : Condition) (operand : Derives .operand ts c) : Derives .comparison ts c
  | signal (name : String) : Derives .operand [.signal name] (.signal name)
  | literal (value : Value) : Derives .operand [.literal value] (.literal value)
  | parenthesized (ts : List Token) (c : Condition) (inner : Derives (.chain .or) ts c) :
      Derives .operand (.opening :: ts ++ [.closing]) c
inductive Chained : Connective → List Token → List Condition → Prop where
  | first (op : Connective) (ts : List Token) (c : Condition) (element : Derives op.element ts c) : Chained op ts [c]
  | next (op : Connective) (ts us : List Token) (cs : List Condition) (c : Condition) (chain : Chained op ts cs)
      (element : Derives op.element us c) : Chained op (ts ++ op.token :: us) (cs ++ [c])
end

theorem chained_ne_nil (op : Connective) (ts : List Token) (cs : List Condition) (chain : Chained op ts cs) : cs ≠ [] := by
  cases chain <;> simp

theorem derives_alone (op : Connective) (ts : List Token) (c : Condition) (element : Derives op.element ts c) :
    Derives (.chain op) ts c :=
  .alone op ts c (.first op ts c element)

theorem derives_unary_of_operand (ts : List Token) (c : Condition) (derived : Derives .operand ts c) : Derives .unary ts c :=
  .affirmation ts c (.uncompared ts c derived)

theorem chained_cons : ∀ (op : Connective) (us : List Token) (cs : List Condition), Chained op us cs →
    ∀ (ts : List Token) (c : Condition), Derives op.element ts c → Chained op (ts ++ op.token :: us) (c :: cs)
  | _, _, _, .first op us d last, ts, c, element => .next op ts us [c] d (.first op ts c element) last
  | _, _, _, .next op us vs cs d chain last, ts, c, element => by
    have longer := Chained.next op _ vs _ d (chained_cons op us cs chain ts c element) last
    simpa using longer

mutual
theorem derives_balanced : ∀ (phrase : Phrase) (ts : List Token) (c : Condition), Derives phrase ts c →
    ts.count .opening = ts.count .closing
  | _, _, _, .alone op ts c chain => chained_balanced op ts [c] chain
  | _, _, _, .several op ts cs chain _ => chained_balanced op ts cs chain
  | _, _, _, .negation ts c operand => by simpa using derives_balanced .unary ts c operand
  | _, _, _, .affirmation ts c inner => derives_balanced .comparison ts c inner
  | _, _, _, .compared op ls rs l r left right => by
    simp [derives_balanced .operand ls l left, derives_balanced .operand rs r right]
  | _, _, _, .uncompared ts c operand => derives_balanced .operand ts c operand
  | _, _, _, .signal _ => by simp
  | _, _, _, .literal _ => by simp
  | _, _, _, .parenthesized ts c inner => by simpa using derives_balanced (.chain .or) ts c inner
theorem chained_balanced : ∀ (op : Connective) (ts : List Token) (cs : List Condition), Chained op ts cs →
    ts.count .opening = ts.count .closing
  | _, _, _, .first op ts c element => derives_balanced op.element ts c element
  | _, _, _, .next op ts us cs c chain element => by
    have connective : op.token ≠ .opening ∧ op.token ≠ .closing := by cases op <;> simp [Connective.token]
    simp [connective, chained_balanced op ts cs chain, derives_balanced op.element us c element]
end

end SignalRules
