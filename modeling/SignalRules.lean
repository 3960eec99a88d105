import SignalRules.Main
import SignalRules.Transport.Queue
import SignalRules.Proofs.Condition.Kleene
import SignalRules.Proofs.Condition.Refusal
import SignalRules.Proofs.Engine.Delays
import SignalRules.Proofs.Engine.Independence
import SignalRules.Proofs.Engine.Verdicts
import SignalRules.Proofs.Rule.Exactness
import SignalRules.Proofs.Engine.Writes
import SignalRules.Proofs.Engine.Isolation
import SignalRules.Proofs.Text.Trim
import SignalRules.Proofs.Text.Utf8
import SignalRules.Proofs.Value.Literal
import SignalRules.Proofs.Signal.Wire
import SignalRules.Proofs.Transport.Lines
import SignalRules.Proofs.Transport.RoundTrip
import SignalRules.Proofs.Rule.Survival
import SignalRules.Proofs.Condition.Growth
import SignalRules.Proofs.Engine.Seeding
import SignalRules.Proofs.Service.Handshake
import SignalRules.Proofs.Transport.Agreement
import SignalRules.Proofs.Condition.Rearrangement
import SignalRules.Proofs.Binary64.Quantity
import SignalRules.Proofs.Value.Comparison
import SignalRules.Proofs.Condition.Lexeme
import SignalRules.Proofs.Value.LiteralText
import SignalRules.Proofs.Condition.Literals
import SignalRules.Proofs.Condition.Viability
import SignalRules.Proofs.Condition.Rendering
import SignalRules.Proofs.Transport.LineFilter
import SignalRules.Proofs.Rule.NumericValue
import SignalRules.Proofs.Transport.Conservation
import SignalRules.Proofs.Condition.Coherence
import SignalRules.Proofs.Value.Payload
import SignalRules.Proofs.Rule.Rejection
import SignalRules.Proofs.Transport.Handoff
