import SignalRules.Binary64.Text

set_option autoImplicit false

namespace SignalRules.Yaml

inductive Datum where
  | null
  | bool (b : Bool)
  | integer (i : Int)
  | float (x : Binary64)
  | text (s : String)
  | sequence (items : List Datum)
  | mapping (entries : List (Datum × Datum))
  | tagged (tag : String) (content : Datum)
deriving Inhabited

namespace Datum

def untagged : Datum → Datum
  | tagged _ content => untagged content
  | d => d

def scalarText? (d : Datum) : Option String :=
  match d.untagged with
  | bool b => some (if b then "true" else "false")
  | integer i => some (Decimal.signedText i)
  | float x => some (String.ofList x.documentText)
  | text s => some s
  | _ => none

def natural? (d : Datum) : Option Nat :=
  match d.untagged with
  | integer (.ofNat n) => some n
  | _ => none

end Datum
end SignalRules.Yaml
