import SignalRules.Config.Settings
import SignalRules.Log.Filter
import SignalRules.Service.Prepare
import SignalRules.Service.Serve
import SignalRules.Transport.Connect

set_option autoImplicit false

namespace SignalRules.Service
open Config (Settings)

-- All that a run of the service depends on. A shutdown signal comes when the input so far is handled.
structure Invocation where
  arguments : List String
  files : Files
  environment : Config.Environment.Variables
  input : StandardInput
  shutdown : Option Shutdown

structure Outcome where
  exit : Nat
  output : String
  failure : Option String
  console : List Log.Entry
deriving DecidableEq

def name : String := "policysrv"
def version : String := "0.1.0"

def filterVariable : String := "RUST_LOG"

def filter? (environment : Config.Environment.Variables) (level : String) : Option Log.Filter :=
  let given := (environment.lookup filterVariable).filter fun text => !(Text.trim text.toList).isEmpty
  Log.Filter.ofText? (given.getD level)

def configure (i : Invocation) (options : Options) : Except String (Settings × Log.Filter) :=
  match Settings.load i.files i.environment options.config with
  | .error e => .error ("Failed to load configuration: " ++ e.message)
  | .ok settings =>
    let settings := settings.override options.logLevel options.transport
    match filter? i.environment settings.level with
    | none => .error "Failed to initialize logging: Logging error"
    | some filter =>
      match settings.dir.elim (.ok ()) i.files.makeDirectory with
      | .error e => .error ("Failed to initialize logging: IO error: " ++ e.message ++ ": " ++ e.message)
      | .ok _ => .ok (settings, filter)

def startNotes (s : Settings) : List Log.Entry :=
  let dir := s.dir.elim "None" fun dir => "Some(" ++ Text.quote dir ++ ")"
  let json := if s.json then "true" else "false"
  [(Log.debug ("Logging: " ++ name ++ " @ " ++ s.level ++ " (json: " ++ json ++ ", dir: " ++ dir ++ ")")).by .plumbing,
    (Log.info ("Starting " ++ name ++ " v" ++ version)).by .service]

def stopNote : Log.Entry := (Log.info (name ++ " stopped")).by .service

def startPaths (options : Options) : List String :=
  options.rules :: options.state.toList ++ [options.config.getD Settings.defaultPath]

def replayPaths (settings : Settings) : List String :=
  match Selector.ofText settings.selector with
  | .ok (.replay path) => [path]
  | _ => []

def shown (settings : Settings) (filter : Log.Filter) (log : List Log.Entry) : List Log.Entry :=
  if settings.json then [] else log.filter filter.shows

structure Ready where
  settings : Settings
  filter : Log.Filter
  engine : Engine
  feed : ByteFeed
  log : List Log.Entry

inductive Beginning where
  | over (o : Outcome)
  | ready (r : Ready)

def connect (i : Invocation) (settings : Settings) (filter : Log.Filter) (rules : RuleSet) (store : Store) (log : List Log.Entry) :
    Beginning :=
  match Selector.connect i.files i.input settings.selector with
  | (.error e, notes) =>
    .over ⟨1, "", some ("Cannot start transport '" ++ settings.selector ++ "': " ++ e.message), shown settings filter (log ++ notes)⟩
  | (.ok feed, notes) =>
    .ready ⟨settings, filter, Engine.start rules store (ByteFeed.outlet feed.name (fun _ => false) ""), feed, log ++ notes⟩

def beginWith (i : Invocation) (options : Options) : Beginning :=
  match configure i options with
  | .error e => .over ⟨1, "", some e, []⟩
  | .ok (settings, filter) =>
    let (prepared, notes) := prepare i.files options
    let log := startNotes settings ++ notes
    match prepared with
    | .error e => .over ⟨1, "", some e, shown settings filter log⟩
    | .ok (rules, store) =>
      if options.check then .over ⟨0, rules.summary, none, shown settings filter log⟩
      else connect i settings filter rules store log

def begin (i : Invocation) : Beginning :=
  match Options.ofArguments i.arguments with
  | .error e => .over ⟨e.exitCode, e.output, none, []⟩
  | .ok options => beginWith i options

def polls (shutdown : Option Shutdown) : List (Poll ByteFeed) :=
  ⟨id, none, false⟩ :: (shutdown.map fun s => Poll.mk id (some s) false).toList

def finish (r : Ready) (served : ServeState ByteFeed) : Outcome :=
  let output := ByteFeed.written served.engine.outlet
  let log := r.log ++ served.engine.log
  match served.ending with
  | .failed e => ⟨1, output, some (failureChain e), shown r.settings r.filter log⟩
  | _ => ⟨0, output, none, shown r.settings r.filter (log ++ [stopNote])⟩

def run (i : Invocation) : Outcome :=
  match begin i with
  | .over o => o
  | .ready r => finish r (serve false r.engine r.feed (polls i.shutdown))

end SignalRules.Service
