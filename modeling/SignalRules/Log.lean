import SignalRules.Text.Quoted

set_option autoImplicit false

namespace SignalRules.Log

inductive Level where
  | error
  | warn
  | info
  | debug
  | trace
deriving DecidableEq, Repr

namespace Level

def rank : Level → Nat
  | error => 1
  | warn => 2
  | info => 3
  | debug => 4
  | trace => 5

def name : Level → String
  | error => "ERROR"
  | warn => "WARN"
  | info => "INFO"
  | debug => "DEBUG"
  | trace => "TRACE"

def colour : Level → String
  | error => "31"
  | warn => "33"
  | info => "32"
  | debug => "34"
  | trace => "35"

end Level

inductive Origin where
  | rules
  | plumbing
  | service
deriving DecidableEq, Repr

def Origin.name : Origin → String
  | rules => "signal_policy"
  | plumbing => "common"
  | service => "policysrv"

structure Entry where
  level : Level
  message : String
  origin : Origin := .rules
deriving DecidableEq, Repr

def error (message : String) : Entry := { level := .error, message }
def warn (message : String) : Entry := { level := .warn, message }
def info (message : String) : Entry := { level := .info, message }
def debug (message : String) : Entry := { level := .debug, message }
def trace (message : String) : Entry := { level := .trace, message }

def Entry.by (origin : Origin) (e : Entry) : Entry := { e with origin }

-- A character as log lines show it: those that could steer a terminal are escaped.
def shown (c : Char) : List Char :=
  if c == '\x1b' then "\\x1b".toList
  else if c == '\x07' then "\\x07".toList
  else if c == '\x08' then "\\x08".toList
  else if c == '\x0c' then "\\x0c".toList
  else if c == '\x7f' then "\\x7f".toList
  else if 0x80 ≤ c.toNat && c.toNat ≤ 0x9F then Text.pointEscape c
  else [c]

def Entry.line (ansi : Bool) (e : Entry) : String :=
  let tag := "[" ++ e.level.name ++ "]"
  (if ansi then "\x1b[" ++ e.level.colour ++ "m" ++ tag ++ "\x1b[0m" else tag) ++ " " ++
    String.ofList (e.message.toList.flatMap shown) ++ "\n"

end SignalRules.Log
