import SignalRules.Condition.Evaluation
import SignalRules.Text.Blank
import SignalRules.Value.Coercion

set_option autoImplicit false

namespace SignalRules

inductive EntryFault where
  | noSeparator
  | emptyName
deriving DecidableEq, Repr

structure EntryError where
  entry : String
  fault : EntryFault
deriving DecidableEq, Repr

def EntryFault.text : EntryFault → String
  | noSeparator => "expected 'name = value'"
  | emptyName => "empty signal name"

def EntryError.message (e : EntryError) : String := "Invalid initial state entry '" ++ e.entry ++ "': " ++ e.fault.text

namespace Store

def readEntry (entry : String) : Except EntryFault (String × Value) :=
  match Text.splitOnce '=' entry.toList with
  | none => .error .noSeparator
  | some (name, raw) =>
    let name := Text.trim name
    if name.isEmpty then .error .emptyName else .ok (String.ofList name, Value.ofTrimmed (Text.trim raw))

def seed (store : Store) : List String → Except EntryError Store
  | [] => .ok store
  | entry :: rest =>
    match readEntry entry with
    | .error fault => .error ⟨entry, fault⟩
    | .ok (name, value) => seed (store.insert name value) rest

def ofEntries (entries : List String) : Except EntryError Store := seed NameMap.empty entries

def seededNote (store : Store) : Log.Entry := Log.debug ("Seeded state with " ++ Decimal.text store.size ++ " signals")

def snapshot (store : Store) : String :=
  "\x7b" ++ String.intercalate ", " (store.entries.map fun (name, value) => name ++ "=" ++ value.literal) ++ "\x7d"

end Store
end SignalRules
