import SignalRules.Text.Blank

set_option autoImplicit false

namespace SignalRules.Service

structure Options where
  rules : String
  state : Option String
  transport : Option String
  config : Option String
  logLevel : Option String
  check : Bool
deriving DecidableEq, Repr

inductive UsageError where
  | help
  | version
  | unknownArgument
  | invalidValue
  | unexpectedValue
  | repeatedArgument
  | missingArgument
deriving DecidableEq, Repr

inductive Slot where
  | rules
  | state
  | transport
  | config
  | logLevel
deriving DecidableEq, Repr

inductive Switch where
  | check
  | help
  | version
deriving DecidableEq, Repr

inductive Meaning where
  | slot (s : Slot)
  | switch (s : Switch)
deriving DecidableEq, Repr

-- A command line that is read as far as it is settled. `pending` is an argument whose value is still open.
structure Reading where
  values : List (Slot × String)
  check : Bool
  pending : Option (Slot × Option String)
  hasRules : Bool

namespace Slot

def isPath : Slot → Bool
  | rules | state | config => true
  | transport | logLevel => false

end Slot

namespace Reading

def start : Reading := ⟨[], false, none, false⟩

def longMeaning? : String → Option Meaning
  | "state" => some (.slot .state)
  | "transport" => some (.slot .transport)
  | "config" => some (.slot .config)
  | "log-level" => some (.slot .logLevel)
  | "check" => some (.switch .check)
  | "help" => some (.switch .help)
  | "version" => some (.switch .version)
  | _ => none

def shortMeaning? : Char → Option Meaning
  | 's' => some (.slot .state)
  | 't' => some (.slot .transport)
  | 'c' => some (.slot .config)
  | 'h' => some (.switch .help)
  | 'V' => some (.switch .version)
  | _ => none

def put (r : Reading) (slot : Slot) (value : Option String) : Except UsageError Reading :=
  match value with
  | none => .error .invalidValue
  | some value =>
    if (r.values.lookup slot).isSome then .error .repeatedArgument
    else if slot.isPath && value.isEmpty then .error .invalidValue
    else .ok { r with values := (slot, value) :: r.values }

def settle (r : Reading) : Except UsageError Reading :=
  match r.pending with
  | none => .ok r
  | some (slot, value) => { r with pending := none }.put slot value

def takeSlot (r : Reading) (slot : Slot) (value : Option String) : Except UsageError Reading := do
  let r ← r.settle
  if value.isSome then r.put slot value else return { r with pending := some (slot, none) }

def takeSwitch (r : Reading) (s : Switch) : Except UsageError Reading := do
  let r ← r.settle
  match s with
  | .help => .error .help
  | .version => .error .version
  | .check => if r.check then .error .repeatedArgument else return { r with check := true }

def takeLong (r : Reading) (s : List Char) : Except UsageError Reading :=
  let (name, value) := (Text.splitOnce '=' s).elim (s, none) fun (name, value) => (name, some (String.ofList value))
  match longMeaning? (String.ofList name) with
  | none => .error .unknownArgument
  | some (.slot slot) => r.takeSlot slot value
  | some (.switch s) => if value.isSome then .error .unexpectedValue else r.takeSwitch s

def takeShort (r : Reading) : List Char → Except UsageError Reading
  | [] => .ok r
  | c :: rest =>
    match shortMeaning? c with
    | none => .error .unknownArgument
    | some (.slot slot) =>
      r.takeSlot slot (match rest with
        | [] => none
        | '=' :: value => some (String.ofList value)
        | value => some (String.ofList value))
    | some (.switch s) => do takeShort (← r.takeSwitch s) rest

def takeFile (r : Reading) (arg : String) : Except UsageError Reading := do
  if r.hasRules then .error .unknownArgument
  else
    let r ← r.settle
    return { r with pending := some (.rules, some arg), hasRules := true }

def take (r : Reading) (arg : String) : Except UsageError Reading :=
  match arg.toList, r.pending with
  | '-' :: '-' :: s, _ => r.takeLong s
  | '-' :: c :: s, _ => r.takeShort (c :: s)
  | _, some (slot, none) => .ok { r with pending := some (slot, some arg) }
  | _, _ => r.takeFile arg

def takeAll (r : Reading) : List String → Except UsageError Reading
  | [] => r.settle
  | arg :: rest =>
    if arg = "--" then do (← rest.foldlM takeFile r).settle
    else
      match r.take arg with
      | .error e => .error e
      | .ok r => takeAll r rest

end Reading

namespace Options

def ofArguments (arguments : List String) : Except UsageError Options :=
  match Reading.start.takeAll arguments with
  | .error e => .error e
  | .ok r =>
    match r.values.lookup .rules with
    | none => .error .missingArgument
    | some rules =>
      .ok ⟨rules, r.values.lookup .state, r.values.lookup .transport, r.values.lookup .config, r.values.lookup .logLevel, r.check⟩

end Options

namespace UsageError

def exitCode : UsageError → Nat
  | help | version => 0
  | _ => 2

def helpText : String :=
  "Reactive signal policy engine\n\nUsage: policysrv [OPTIONS] <RULES>\n\nArguments:\n" ++
  "  <RULES>  Rule document (YAML sequence of condition/emit blocks)\n\nOptions:\n" ++
  "  -s, --state <FILE>          Initial-state document (YAML sequence of \"name = value\" entries)\n" ++
  "  -t, --transport <SELECTOR>  Signal transport: stdio or replay:<path>\n" ++
  "  -c, --config <FILE>         Path to configuration file\n" ++
  "      --log-level <LEVEL>     Log filter, overrides the configured level (RUST_LOG still wins)\n" ++
  "      --check                 Compile the rules, print a summary and exit\n" ++
  "  -h, --help                  Print help\n" ++
  "  -V, --version               Print version\n"

def output : UsageError → String
  | help => helpText
  | version => "policysrv 0.1.0\n"
  | _ => ""

def message : UsageError → String
  | help | version => ""
  | unknownArgument => "unexpected argument found"
  | invalidValue => "a value is required for an argument but none was supplied"
  | unexpectedValue => "unexpected value found for an argument that takes none"
  | repeatedArgument => "an argument cannot be used multiple times"
  | missingArgument => "the required argument <RULES> was not provided"

end UsageError
end SignalRules.Service
