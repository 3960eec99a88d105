import SignalRules.Rule.Set
import SignalRules.Store
import SignalRules.Transport.Basic

set_option autoImplicit false

namespace SignalRules

structure Timer where
  due : Nat
  rule : Nat
  signal : Signal
deriving DecidableEq

structure Engine where
  rules : RuleSet
  store : Store
  outlet : Outlet
  updates : Nat
  clock : Nat
  timers : List Timer
  pending : Nat
  log : List Log.Entry

structure Report where
  signal : String
  evaluated : Nat
  fired : List Nat
  undetermined : Nat
deriving DecidableEq, Repr

namespace Report

def empty (signal : String) : Report := ⟨signal, 0, [], 0⟩

def add (r : Report) (rule : Rule) (store : Store) : Report :=
  match rule.condition.evaluate store with
  | .ok true => { r with evaluated := r.evaluated + 1, fired := r.fired ++ [rule.id] }
  | .ok false => { r with evaluated := r.evaluated + 1 }
  | .error _ => { r with evaluated := r.evaluated + 1, undetermined := r.undetermined + 1 }

def notes (r : Report) : List Log.Entry :=
  if r.evaluated = 0 then []
  else
    [Log.debug (r.signal ++ ": evaluated " ++ Decimal.text r.evaluated ++ " rules, fired " ++ Decimal.text r.fired.length ++
      ", undetermined " ++ Decimal.text r.undetermined)]

end Report

inductive Step where
  | dispatched (report : Report)
  | queried (value : Option Value)
  | terminated
deriving DecidableEq

namespace Engine

def start (rules : RuleSet) (store : Store) (outlet : Outlet) : Engine := ⟨rules, store, outlet, 0, 0, [], 0, []⟩

def note (e : Engine) (notes : List Log.Entry) : Engine := { e with log := e.log ++ notes }

def emit (e : Engine) (rule : Nat) (signal : Signal) : Engine :=
  match e.outlet.send e.clock signal with
  | (.ok _, outlet) => { e with outlet }.note [Log.info (ruleName rule ++ " emitted " ++ signal.wire)]
  | (.error cause, outlet) =>
    { e with outlet }.note [Log.error (ruleName rule ++ ": failed to emit " ++ signal.wire ++ ": " ++ cause.message)]

def execute (e : Engine) (rule : Nat) (action : Action) : Engine :=
  match action.delay with
  | none => e.emit rule action.outbound
  | some delay =>
    let timer : Timer := ⟨e.clock + delay, rule, action.outbound⟩
    { e with timers := e.timers ++ [timer], pending := e.pending + 1 }.note
      [Log.debug (ruleName rule ++ ": scheduling " ++ action.outbound.wire ++ " in " ++ Decimal.text delay ++ "ms")]

def verdictNote (rule : Rule) : Except Undetermined Bool → Log.Entry
  | .ok true => Log.info (ruleName rule.id ++ " matched: " ++ rule.condition.display)
  | .ok false => Log.debug (ruleName rule.id ++ " not matched: " ++ rule.condition.display)
  | .error cause =>
    let message := ruleName rule.id ++ " undetermined: " ++ cause.message
    if cause.isMismatch then Log.warn message else Log.debug message

def consider (e : Engine) (rule : Rule) : Engine :=
  let verdict := rule.condition.evaluate e.store
  let e := e.note (rule.condition.settled e.store ++ [verdictNote rule verdict])
  match verdict with
  | .ok true => e.execute rule.id rule.action
  | _ => e

def write (e : Engine) (signal : String) (value : Value) : Engine :=
  let store := e.store.insert signal value
  { e with store, updates := e.updates + 1 }.note
    [Log.debug ("Dispatching " ++ signal ++ "=" ++ value.literal), Log.debug ("State: " ++ Store.snapshot store)]

def dispatch (e : Engine) (signal : String) (value : Value) : Report × Engine :=
  let e := e.write signal value
  -- Actions do not write to the store, so every verdict is on the store that the update left.
  let rules := e.rules.dependents signal
  let report := rules.foldl (fun r rule => r.add rule e.store) (.empty signal)
  (report, (rules.foldl consider e).note report.notes)

def query (e : Engine) (signal : String) : Option Value × Engine :=
  match e.store.get? signal with
  | some value => (some value, e.note [Log.info (signal ++ " = " ++ value.literal)])
  | none => (none, e.note [Log.info (signal ++ " has no value")])

def close (e : Engine) : Engine :=
  match e.outlet.send e.clock .close with
  | (.ok _, outlet) => { e with outlet }
  | (.error cause, outlet) => { e with outlet }.note [Log.warn ("Failed to send close handshake: " ++ cause.message)]

def handle (e : Engine) : Inbound → Step × Engine
  | .update name raw =>
    let (report, e) := e.dispatch name (Value.ofText raw)
    (.dispatched report, e)
  | .query name =>
    let (value, e) := e.query name
    (.queried value, e)
  | .terminate => (.terminated, e.close)

-- A refused attempt counts as made: the action is no longer pending.
def fire (e : Engine) (timer : Timer) : Engine :=
  let e := ({ e with clock := timer.due, timers := e.timers.erase timer }).emit timer.rule timer.signal
  { e with pending := e.pending - 1 }

def advanceTo (e : Engine) (time : Nat) : Engine :=
  -- The sort is stable: timers that are due at once keep the order of their scheduling.
  let due := (e.timers.filter (·.due ≤ time)).mergeSort fun a b => a.due ≤ b.due
  { due.foldl fire e with clock := time }

def advance (e : Engine) (ms : Nat) : Engine := e.advanceTo (e.clock + ms)

def drained (e : Engine) : Engine := { e with log := [], outlet := { e.outlet with sent := [] } }

def describe (e : Engine) : String :=
  "Dispatcher \x7b rules: " ++ Decimal.text e.rules.size ++ ", state: " ++ Decimal.text e.store.size ++ ", transport: \"" ++
    e.outlet.name ++ "\", updates: " ++ Decimal.text e.updates ++ " \x7d"

end Engine
end SignalRules
