import Mathlib.Data.List.Basic
import SignalRules.Proofs.Engine.Dispatch
import SignalRules.Proofs.Signal.Wire
import SignalRules.Proofs.Transport.Lines

set_option autoImplicit false

namespace SignalRules

namespace Signal

def update? (s : Signal) : Option Inbound := s.value.map fun value => .update s.name value.literal

theorem close_line : '\n' ∉ close.wire.toList ∧ Inbound.ofLine? close.wire = none := by decide

theorem portable_line (s : Signal) (portable : s = .close ∨ ∃ value, s.value = some value ∧ Portable s.name value) :
    '\n' ∉ s.wire.toList ∧ Inbound.ofLine? s.wire = s.update? := by
  rcases portable with rfl | ⟨value, carried, portable⟩
  · exact close_line
  · obtain ⟨name, _⟩ := s
    subst carried
    exact ⟨(wire_unbroken_iff name value).mpr ⟨portable.unbroken, portable.whole⟩,
      Inbound.of_line_wire name value portable.undivided portable.named portable.trimmed⟩

end Signal

theorem lines_read_back (name reason label : String) (time : Nat) (signals : List Signal)
    (portable : ∀ s ∈ signals, s = .close ∨ ∃ value, s.value = some value ∧ Signal.Portable s.name value) :
    let o := (ByteFeed.outlet name (fun _ => false) reason).sendAll time signals
    let feed : ByteFeed := ⟨label, Text.Utf8.encode (ByteFeed.written o), .closed⟩
    let updates := signals.filterMap Signal.update?
    (∀ n, receptions feed (updates.length + n) = updates.map .message ++ List.replicate n (.message .terminate)) ∧
      ∀ s ∈ signals, ∀ value, s.value = some value → Value.ofText value.literal = value := by
  intro o feed updates
  have lines : o.lines = signals.map Signal.wire := by
    simp [o, Outlet.lines, Outlet.send_all_accepted, ByteFeed.outlet]
  have bytes : feed = ByteFeed.ofLines label (signals.map Signal.wire) .closed := by
    rw [ByteFeed.ofLines, ← lines, ← ByteFeed.encode_written]
  have messages : (signals.map Signal.wire).filterMap Inbound.ofLine? = updates := by
    rw [List.filterMap_map]
    exact List.filterMap_congr fun s member => (Signal.portable_line s (portable s member)).2
  constructor
  · intro n
    rw [bytes, ← messages]
    apply ByteFeed.receptions_lines
    intro line member
    obtain ⟨s, sent, rfl⟩ := List.mem_map.mp member
    exact (Signal.portable_line s (portable s sent)).1
  · intro s member value carried
    rcases portable s member with rfl | ⟨value', carried', portable⟩
    · cases carried
    · rw [carried] at carried'
      cases carried'
      exact (Value.of_text_literal_iff value).mpr portable.bounded

def labelSignals : List Signal :=
  [⟨"door.label", some (.string " a=\"b\"\r")⟩, .close, ⟨"door.tilt", some (.float (.finite true 0))⟩]

theorem lines_read_back_label :
    let feed : ByteFeed := ⟨"replay", Text.Utf8.encode "door.label=\" a=\"b\"\r\"\n\ndoor.tilt=-0.0\n", .closed⟩
    receptions feed 3 =
        [.message (.update "door.label" "\" a=\"b\"\r\""), .message (.update "door.tilt" "-0.0"), .message .terminate] ∧
      Value.ofText "\" a=\"b\"\r\"" = .string " a=\"b\"\r" ∧ Value.ofText "-0.0" = .float (.finite true 0) := by
  have portable : ∀ s ∈ labelSignals, s = .close ∨ ∃ value, s.value = some value ∧ Signal.Portable s.name value := by
    intro s member
    simp only [labelSignals, List.mem_cons, List.not_mem_nil, or_false] at member
    rcases member with rfl | rfl | rfl
    · exact .inr ⟨_, rfl, by decide, by decide, Text.solid_trimmed _ (Text.solid_of_all _ (by decide))⟩
    · exact .inl rfl
    · exact .inr ⟨_, rfl, by decide, by decide, Text.solid_trimmed _ (Text.solid_of_all _ (by decide))⟩
  have written : ByteFeed.written ((ByteFeed.outlet "stdio" (fun _ => false) "closed").sendAll 0 labelSignals) =
      "door.label=\" a=\"b\"\r\"\n\ndoor.tilt=-0.0\n" := by decide +kernel
  obtain ⟨read, coerced⟩ := lines_read_back "stdio" "closed" "replay" 0 labelSignals portable
  have first := read 1
  rw [written] at first
  exact ⟨first, coerced _ (.head _) _ rfl, coerced _ (.tail _ (.tail _ (.head _))) _ rfl⟩

end SignalRules
