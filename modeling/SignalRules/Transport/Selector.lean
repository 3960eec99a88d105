import SignalRules.Text.Blank
import SignalRules.Transport.Basic

set_option autoImplicit false

namespace SignalRules

inductive Selector where
  | stdio
  | replay (path : String)
deriving DecidableEq, Repr

namespace Selector

def default : String := "stdio"

def lower (s : List Char) : List Char := s.map Char.toLower

def replayPath? (s : List Char) : Option (List Char) :=
  (Text.splitOnce ':' s).bind fun (kind, path) => if lower kind = "replay".toList then some (Text.trim path) else none

def ofText (text : String) : Except TransportError Selector :=
  let s := Text.trim text.toList
  match replayPath? s with
  | some path =>
    if path.isEmpty then .error (.loadFailed "replay transport requires a path: replay:<path>") else .ok (replay (String.ofList path))
  | none =>
    if ["", "stdio", "stdin"].contains (String.ofList (lower s)) then .ok stdio
    else .error (.loadFailed ("Unknown transport '" ++ text ++ "' (supported: stdio, replay:<path>)"))

def name : Selector → String
  | stdio => "stdio"
  | replay path => "replay:" ++ path

end Selector
end SignalRules
