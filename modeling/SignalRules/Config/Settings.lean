import SignalRules.Config.Environment
import SignalRules.Files
import SignalRules.Toml.Reader
import SignalRules.Transport.Selector

set_option autoImplicit false

namespace SignalRules.Config

structure Settings where
  level : String
  json : Bool
  dir : Option String
  selector : String
deriving DecidableEq, Repr

inductive ConfigError where
  | notFound (path : String)
  | noExtension
  | unknownFormat (extension : String)
  | invalid
deriving DecidableEq, Repr

def ConfigError.message (e : ConfigError) : String :=
  "Configuration error: " ++
    match e with
    | notFound path => "Config file not found: " ++ path
    | noExtension => "Config file must have an extension"
    | unknownFormat extension => "Unsupported config file format: " ++ extension
    | invalid => "Failed to load configuration"

inductive Format where
  | yaml
  | toml
  | json
deriving DecidableEq, Repr

namespace Format

def ofExtension? : String → Option Format
  | "yaml" | "yml" => some yaml
  | "toml" => some toml
  | "json" => some json
  | _ => none

def read? : Format → String → Option Setting
  | yaml => Setting.ofYamlText?
  | toml => Toml.ofText?
  | json => Setting.ofJsonText?

end Format

namespace Settings

def defaultPath : String := "config/policysrv.yaml"

def stem : String := "policysrv_"

def defaults : Setting :=
  .table [("log", .table [("level", .text "info"), ("json", .flag false), ("dir", .nothing)]),
    ("transport", .table [("selector", .text Selector.default)])]

def text? : Setting → Option String
  | .text s => some s
  | _ => none

def flag? : Setting → Option Bool
  | .flag b => some b
  | _ => none

def optionalText? : Setting → Option (Option String)
  | .text s => some (some s)
  | .nothing => some none
  | _ => none

def table? : Setting → Option (List (String × Setting))
  | .table entries => some entries
  | _ => none

def field? {α : Type} (read : Setting → Option α) (default : α) (name : String) (entries : List (String × Setting)) : Option α :=
  (entries.lookup name).elim (some default) read

def ofSetting? (s : Setting) : Option Settings := do
  let entries ← table? s
  let log ← field? table? [] "log" entries
  let transport ← field? table? [] "transport" entries
  return {
    level := ← field? text? "info" "level" log
    json := ← field? flag? false "json" log
    dir := ← field? optionalText? none "dir" log
    selector := ← field? text? Selector.default "selector" transport }

def readFile (files : Files) (format : Format) (path : String) : Except ConfigError Setting :=
  match files.readText path with
  | .error .isDirectory => .ok (.table [])
  | .error _ => .error .invalid
  | .ok text => (format.read? text).elim (.error .invalid) .ok

def fileSetting (files : Files) : Option String → Except ConfigError Setting
  | some path =>
    if !files.contains path then .error (.notFound path)
    else
      match Path.extension? path with
      | none => .error .noExtension
      | some extension =>
        match Format.ofExtension? extension with
        | none => .error (.unknownFormat extension)
        | some format => readFile files format path
  | none => if files.contains defaultPath then readFile files .yaml defaultPath else .ok (.table [])

def load (files : Files) (environment : Environment.Variables) (path : Option String) : Except ConfigError Settings :=
  match fileSetting files path with
  | .error e => .error e
  | .ok setting => (ofSetting? ((defaults.overlay setting).overlay (Environment.settings stem environment))).elim (.error .invalid) .ok

def override (s : Settings) (level selector : Option String) : Settings :=
  { s with level := level.getD s.level, selector := selector.getD s.selector }

end Settings
end SignalRules.Config
