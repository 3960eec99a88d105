import SignalRules.Condition.Parser
import SignalRules.Signal.Basic
import SignalRules.Yaml.Datum

set_option autoImplicit false

namespace SignalRules

structure EmitBlock where
  signal : Option String
  value : Option Yaml.Datum
  delay : Option Yaml.Datum
  extra : List String

structure RuleBlock where
  condition : Option Yaml.Datum
  emit : Option EmitBlock
  extra : List String

structure Action where
  signal : String
  value : Value
  delay : Option Nat
deriving DecidableEq

def Action.outbound (a : Action) : Signal := ⟨a.signal, some a.value⟩

structure Rule where
  id : Nat
  condition : Condition
  action : Action

inductive RuleFault where
  | missingCondition
  | conditionNotScalar
  | invalidCondition (text : String) (cause : SyntaxError)
  | missingEmit
  | missingSignal
  | missingValue
  | valueNotScalar
  | invalidDelay (found : Option String)
deriving DecidableEq

structure RuleError where
  index : Nat
  fault : RuleFault
deriving DecidableEq

namespace RuleFault

def text : RuleFault → String
  | missingCondition => "missing 'condition'"
  | conditionNotScalar => "'condition' must be a scalar expression"
  | invalidCondition text cause => "invalid condition '" ++ text ++ "': " ++ cause.message
  | missingEmit => "missing 'emit' block"
  | missingSignal => "missing 'emit.signal'"
  | missingValue => "missing 'emit.value'"
  | valueNotScalar => "'emit.value' must be a scalar"
  | invalidDelay found =>
    "'emit.delay' must be a non-negative integer of milliseconds, got " ++ found.getD "a non-scalar value"

end RuleFault

def RuleError.message (e : RuleError) : String :=
  "Rule #" ++ Decimal.text e.index ++ " syntax error: " ++ e.fault.text

def ruleName (id : Nat) : String := "Rule #" ++ Decimal.text id

namespace EmitBlock

def signalName? (b : EmitBlock) : Option String :=
  b.signal.bind fun s =>
    let name := Text.trim s.toList
    if name.isEmpty then none else some (String.ofList name)

def readValue (b : EmitBlock) : Except RuleFault Value :=
  match b.value with
  | none => .error .missingValue
  | some d =>
    match d.scalarText? with
    | none => .error .valueNotScalar
    | some text => .ok (Value.ofText text)

def readDelay (b : EmitBlock) : Except RuleFault (Option Nat) :=
  match b.delay with
  | none => .ok none
  | some d =>
    match d.natural? with
    | none => .error (.invalidDelay d.scalarText?)
    | some ms => .ok (some ms)

def action (b : EmitBlock) : Except RuleFault Action :=
  match b.signalName? with
  | none => .error .missingSignal
  | some signal =>
    match b.readValue with
    | .error fault => .error fault
    | .ok value =>
      match b.readDelay with
      | .error fault => .error fault
      | .ok delay => .ok ⟨signal, value, delay⟩

end EmitBlock

namespace RuleBlock

def readCondition (b : RuleBlock) : Except RuleFault Condition :=
  match b.condition with
  | none => .error .missingCondition
  | some d =>
    match d.scalarText? with
    | none => .error .conditionNotScalar
    | some text =>
      match Condition.parse text with
      | .error cause => .error (.invalidCondition text cause)
      | .ok condition => .ok condition

def rule (b : RuleBlock) (id : Nat) : Except RuleFault Rule :=
  match b.readCondition with
  | .error fault => .error fault
  | .ok condition =>
    match b.emit with
    | none => .error .missingEmit
    | some emit =>
      match emit.action with
      | .error fault => .error fault
      | .ok action => .ok ⟨id, condition, action⟩

def warnings (b : RuleBlock) (id : Nat) : List Log.Entry :=
  b.extra.map (fun key => Log.warn (ruleName id ++ ": unrecognized key '" ++ key ++ "' ignored")) ++
    match b.readCondition, b.emit with
    | .ok _, some emit => emit.extra.map fun key => Log.warn (ruleName id ++ ": unrecognized emit key '" ++ key ++ "' ignored")
    | _, _ => []

end RuleBlock
end SignalRules
