import SignalRules.Log
import SignalRules.Value.Coercion

set_option autoImplicit false

namespace SignalRules

structure Signal where
  name : String
  value : Option Value
deriving DecidableEq

inductive Inbound where
  | update (name raw : String)
  | query (name : String)
  | terminate
deriving DecidableEq, Repr

namespace Signal

def close : Signal := ⟨"", none⟩

def isClose (s : Signal) : Bool := s.name.isEmpty && s.value.isNone

def wire (s : Signal) : String :=
  match s.value with
  | some value => s.name ++ "=" ++ value.literal
  | none => s.name

end Signal

inductive InboundLine where
  | blank
  | nameless (line : String)
  | message (m : Inbound)
deriving DecidableEq, Repr

namespace InboundLine

def ofTrimmed (line : List Char) : InboundLine :=
  if line.isEmpty then blank
  else
    match Text.splitOnce '=' line with
    | some (name, raw) =>
      let name := Text.trim name
      if name.isEmpty then nameless (String.ofList line)
      else message (.update (String.ofList name) (String.ofList (Text.trim raw)))
    | none => message (if line = "quit".toList then .terminate else .query (String.ofList line))

def ofText (line : String) : InboundLine := ofTrimmed (Text.trim line.toList)

def message? : InboundLine → Option Inbound
  | message m => some m
  | _ => none

def notes : InboundLine → List Log.Entry
  | nameless line => [Log.warn ("Malformed inbound line '" ++ line ++ "': empty signal name")]
  | _ => []

end InboundLine

def Inbound.ofLine? (line : String) : Option Inbound := (InboundLine.ofText line).message?

end SignalRules
