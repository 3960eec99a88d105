import SignalRules.Files
import SignalRules.Loading
import SignalRules.Service.Options

set_option autoImplicit false

namespace SignalRules.Service

inductive LoadError where
  | unreadable (path : String) (cause : FileError)
  | document (e : DocumentError)
deriving DecidableEq

namespace LoadError

def message : LoadError → String
  | unreadable path cause => "Failed to read " ++ path ++ ": " ++ cause.message
  | document e => e.message

def chain (e : LoadError) : String :=
  match e with
  | unreadable _ cause => e.message ++ ": " ++ cause.message
  | document _ => e.message

end LoadError

def loadFile {α : Type} (read : String → Except DocumentError α × List Log.Entry) (loaded : α → String) (files : Files)
    (path : String) : Except LoadError α × List Log.Entry :=
  match files.readText path with
  | .error cause => (.error (.unreadable path cause), [])
  | .ok text =>
    match read text with
    | (.error e, notes) => (.error (.document e), notes)
    | (.ok result, notes) => (.ok result, notes ++ [Log.info ("Loaded " ++ loaded result ++ " from " ++ path)])

def loadRules : Files → String → Except LoadError RuleSet × List Log.Entry :=
  loadFile RuleSet.ofDocument fun rules => Decimal.text rules.size ++ " rules"

def loadState : Files → String → Except LoadError Store × List Log.Entry :=
  loadFile Store.ofDocument fun store => Decimal.text store.size ++ " initial signals"

def initialState (files : Files) (options : Options) : Except String Store × List Log.Entry :=
  match options.state with
  | none => (.ok NameMap.empty, [])
  | some path =>
    match loadState files path with
    | (.error e, notes) => (.error ("Failed to load initial state from " ++ path ++ ": " ++ e.chain), notes)
    | (.ok store, notes) => (.ok store, notes)

def prepare (files : Files) (options : Options) : Except String (RuleSet × Store) × List Log.Entry :=
  match loadRules files options.rules with
  | (.error e, notes) => (.error ("Failed to load rules from " ++ options.rules ++ ": " ++ e.chain), notes)
  | (.ok rules, notes) =>
    let (store, more) := initialState files options
    (store.map (rules, ·), notes ++ more)

end SignalRules.Service
