import SignalRules.Rule.Document
import SignalRules.Store

set_option autoImplicit false

namespace SignalRules

inductive DocumentError where
  | invalid
  | rule (e : RuleError)
  | entry (e : EntryError)
deriving DecidableEq

def DocumentError.message : DocumentError → String
  | invalid => "Invalid rule document"
  | rule e => e.message
  | entry e => e.message

def RuleSet.ofBlocks (blocks : Option (List RuleBlock)) : Except DocumentError RuleSet × List Log.Entry :=
  match blocks with
  | none => (.error .invalid, [])
  | some blocks => ((RuleSet.compile blocks).mapError .rule, RuleSet.compileNotes blocks)

def RuleSet.ofDocument (text : String) : Except DocumentError RuleSet × List Log.Entry :=
  RuleSet.ofBlocks (RuleBlock.ofDocument? text)

def Store.entriesOfDocument? (text : String) : Option (List String) :=
  (Yaml.Document.ofText? text).bind fun d => d.list d.text

def Store.ofEntriesLogged (entries : List String) : Except DocumentError Store × List Log.Entry :=
  match Store.ofEntries entries with
  | .error e => (.error (.entry e), [])
  | .ok store => (.ok store, [Store.seededNote store])

def Store.ofDocument (text : String) : Except DocumentError Store × List Log.Entry :=
  if (Text.trim text.toList).isEmpty then (.ok NameMap.empty, [])
  else
    match Store.entriesOfDocument? text with
    | none => (.error .invalid, [])
    | some entries => Store.ofEntriesLogged entries

end SignalRules
