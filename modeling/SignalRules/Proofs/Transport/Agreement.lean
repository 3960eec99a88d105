import SignalRules.Proofs.Engine.Isolation
import SignalRules.Proofs.Transport.Conservation
import SignalRules.Proofs.Transport.Lines

set_option autoImplicit false

namespace SignalRules

structure Inlet.Alike {σ τ : Type} [Inlet σ] [Inlet τ] (related : σ → τ → Prop) : Prop where
  reception : ∀ s t, related s t → (Inlet.receive s).reception = (Inlet.receive t).reception
  rest : ∀ s t, related s t → related (Inlet.receive s).rest (Inlet.receive t).rest

namespace LineQueue

def ofLines (lines : List String) : LineQueue := (lines.foldl (fun q line => (q.push line).2) empty).close

end LineQueue

namespace Engine

section
variable (fails : Nat → Bool)

end

end Engine

end SignalRules
