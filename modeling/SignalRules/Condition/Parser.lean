import SignalRules.Condition.Token
/-!
Reading conditions from tokens, one token at a time. Each open parenthesis keeps the part of its expression
read so far, so a fault is found at the first token that no condition continues with. From loosest to tightest
bind `or`, `and`, `not` and the comparisons, which do not chain.
-/

set_option autoImplicit false

namespace SignalRules

-- One expression that is being read: the finished operands of its `or`, those of the current `and`, the `not`s
-- before the current operand and, after a comparator, the left side.
structure OpenExpression where
  alternatives : List Condition
  conjuncts : List Condition
  negations : Nat
  comparing : Option (Condition × Comparator)

-- A reader waits for an operand or has just read one; `outer` are the expressions around open parentheses.
structure ConditionReader where
  current : OpenExpression
  outer : List OpenExpression
  operand : Option Condition

namespace OpenExpression

def empty : OpenExpression := ⟨[], [], 0, none⟩

def joined (op : Connective) : List Condition → Condition
  | [c] => c
  | operands => .join op operands

def negated : Nat → Condition → Condition
  | 0, c => c
  | n + 1, c => .not (negated n c)

def unary (e : OpenExpression) (last : Condition) : Condition :=
  negated e.negations (match e.comparing with
    | some (left, op) => .compare op left last
    | none => last)

def conjunction (e : OpenExpression) (last : Condition) : Condition := joined .and (e.conjuncts ++ [e.unary last])
def whole (e : OpenExpression) (last : Condition) : Condition := joined .or (e.alternatives ++ [e.conjunction last])

end OpenExpression

namespace ConditionReader

def start : ConditionReader := ⟨.empty, [], none⟩

def beforeOperand (r : ConditionReader) (token : Token) : Except SyntaxFault ConditionReader :=
  match token with
  | .signal name => .ok { r with operand := some (.signal name) }
  | .literal value => .ok { r with operand := some (.literal value) }
  | .opening => .ok ⟨.empty, r.current :: r.outer, none⟩
  | .not =>
    match r.current.comparing with
    | none => .ok { r with current.negations := r.current.negations + 1 }
    | some _ => .error (.unexpected token)
  | _ => .error (.unexpected token)

def afterOperand (r : ConditionReader) (last : Condition) (token : Token) : Except SyntaxFault ConditionReader :=
  let misplaced := .error (if r.outer.isEmpty then .trailing token else .missingParenthesis)
  match token with
  | .compare op =>
    match r.current.comparing with
    | none => .ok ⟨{ r.current with comparing := some (last, op) }, r.outer, none⟩
    | some _ => .error .chainedComparison
  | .and => .ok ⟨⟨r.current.alternatives, r.current.conjuncts ++ [r.current.unary last], 0, none⟩, r.outer, none⟩
  | .or => .ok ⟨⟨r.current.alternatives ++ [r.current.conjunction last], [], 0, none⟩, r.outer, none⟩
  | .closing =>
    match r.outer with
    | [] => misplaced
    | outer :: rest => .ok ⟨outer, rest, some (r.current.whole last)⟩
  | _ => misplaced

def step (r : ConditionReader) (token : Token) : Except SyntaxFault ConditionReader :=
  match r.operand with
  | none => r.beforeOperand token
  | some last => r.afterOperand last token

def finish (r : ConditionReader) : Except SyntaxFault Condition :=
  match r.operand with
  | none => .error .unexpectedEnd
  | some last => if r.outer.isEmpty then .ok (r.current.whole last) else .error .missingParenthesis

def run (length : Nat) (r : ConditionReader) : List (Nat × Token) → Except SyntaxError Condition
  | [] => r.finish.mapError (⟨length, ·⟩)
  | (offset, token) :: rest =>
    match r.step token with
    | .error fault => .error ⟨offset, fault⟩
    | .ok r => run length r rest

end ConditionReader

namespace Condition

def ofTokens (length : Nat) (tokens : List (Nat × Token)) : Except SyntaxError Condition :=
  if tokens.isEmpty then .error ⟨0, .emptyCondition⟩ else ConditionReader.start.run length tokens

def parse (source : String) : Except SyntaxError Condition :=
  (Token.scan 0 source.toList).bind (ofTokens (Token.width source.toList))

end Condition
end SignalRules
