import SignalRules.Proofs.Text.Trim
import SignalRules.Proofs.Value.Literal
import SignalRules.Signal.Basic

set_option autoImplicit false

namespace SignalRules

structure Signal.Clean (name : String) (value : Value) : Prop where
  undivided : '=' ∉ name.toList
  unbroken : '\n' ∉ name.toList
  bounded : value.Bounded
  whole : value.Unbroken

instance (name : String) (value : Value) : Decidable (Signal.Clean name value) :=
  decidable_of_iff ('=' ∉ name.toList ∧ '\n' ∉ name.toList ∧ value.Bounded ∧ value.Unbroken)
    ⟨fun ⟨undivided, unbroken, bounded, whole⟩ => ⟨undivided, unbroken, bounded, whole⟩,
      fun clean => ⟨clean.undivided, clean.unbroken, clean.bounded, clean.whole⟩⟩

structure Signal.Portable (name : String) (value : Value) : Prop extends Signal.Clean name value where
  named : name.toList ≠ []
  trimmed : Text.Trimmed name.toList

namespace Signal

theorem wire_text (name : String) (value : Value) :
    (wire ⟨name, some value⟩).toList = name.toList ++ '=' :: value.literal.toList := by
  simp [wire]

theorem wire_filled (name : String) (value : Value) : wire ⟨name, some value⟩ ≠ "" := by
  intro empty
  have text := wire_text name value
  simp [empty] at text

theorem wire_trimmed (name : String) (value : Value) (trimmed : Text.Trimmed name.toList) :
    Text.Trimmed (wire ⟨name, some value⟩).toList := by
  have sign : Text.Trimmed ['='] := Text.solid_trimmed _ (Text.solid_of_all _ (by decide))
  rw [wire_text]
  exact Text.trimmed_append _ _ trimmed (Text.trimmed_append ['='] _ sign (Value.literal_trimmed value))

theorem wire_unbroken_iff (name : String) (value : Value) :
    '\n' ∉ (wire ⟨name, some value⟩).toList ↔ '\n' ∉ name.toList ∧ value.Unbroken := by
  rw [wire_text, ← Value.literal_unbroken_iff]
  simp

end Signal

namespace Inbound

theorem of_trimmed_update (name raw : List Char) (undivided : '=' ∉ name) (named : name ≠ []) (left : Text.Trimmed name)
    (right : Text.Trimmed raw) :
    InboundLine.ofTrimmed (name ++ '=' :: raw) = .message (.update (String.ofList name) (String.ofList raw)) := by
  have filled : (name ++ '=' :: raw).isEmpty = false := by simp
  have nameless : name.isEmpty = false := by simpa using named
  rw [InboundLine.ofTrimmed, filled, Text.splitOnce_append '=' name raw undivided]
  simp only [Text.trim_trimmed name left, Text.trim_trimmed raw right, nameless, Bool.false_eq_true, if_false]

theorem of_line_wire (name : String) (value : Value) (undivided : '=' ∉ name.toList) (named : name.toList ≠ [])
    (trimmed : Text.Trimmed name.toList) :
    ofLine? (Signal.wire ⟨name, some value⟩) = some (.update name value.literal) := by
  rw [ofLine?, InboundLine.ofText, Text.trim_trimmed _ (Signal.wire_trimmed name value trimmed), Signal.wire_text,
    of_trimmed_update _ _ undivided named trimmed (Value.literal_trimmed value), String.ofList_toList, String.ofList_toList]
  rfl

theorem of_trimmed_cases (line : List Char) :
    (line = [] ∧ InboundLine.ofTrimmed line = .blank) ∨
    (∃ name raw, Text.splitOnce '=' line = some (name, raw) ∧ Text.trim name = [] ∧
      InboundLine.ofTrimmed line = .nameless (String.ofList line)) ∨
    (∃ name raw, Text.splitOnce '=' line = some (name, raw) ∧ Text.trim name ≠ [] ∧
      InboundLine.ofTrimmed line = .message (.update (String.ofList (Text.trim name)) (String.ofList (Text.trim raw)))) ∨
    (line ≠ [] ∧ Text.splitOnce '=' line = none ∧
      InboundLine.ofTrimmed line = .message (if line = "quit".toList then .terminate else .query (String.ofList line))) := by
  rw [InboundLine.ofTrimmed]
  by_cases blank : line = []
  · exact .inl ⟨blank, if_pos (by simp [blank])⟩
  · rw [if_neg (by simpa using blank)]
    cases Text.splitOnce '=' line with
    | none => exact .inr (.inr (.inr ⟨blank, rfl, rfl⟩))
    | some parts =>
      by_cases nameless : Text.trim parts.1 = []
      · exact .inr (.inl ⟨parts.1, parts.2, rfl, nameless, if_pos (by simp [nameless])⟩)
      · exact .inr (.inr (.inl ⟨parts.1, parts.2, rfl, nameless, if_neg (by simpa using nameless)⟩))

theorem of_trimmed_cut (line : List Char) (name raw : String)
    (read : InboundLine.ofTrimmed line = .message (.update name raw)) : ∃ before after,
    Text.splitOnce '=' line = some (before, after) ∧ name = String.ofList (Text.trim before) ∧
      raw = String.ofList (Text.trim after) := by
  rcases of_trimmed_cases line with ⟨_, kind⟩ | ⟨_, _, _, _, kind⟩ | ⟨before, after, cut, _, kind⟩ | ⟨_, _, kind⟩
  · cases kind.symm.trans read
  · cases kind.symm.trans read
  · cases kind.symm.trans read
    exact ⟨before, after, cut, rfl, rfl⟩
  · have whole := InboundLine.message.inj (kind.symm.trans read)
    split at whole <;> cases whole

theorem of_line_iff (line : String) (m : Inbound) : ofLine? line = some m ↔ InboundLine.ofText line = .message m := by
  rw [ofLine?]
  cases InboundLine.ofText line with
  | blank => simp [InboundLine.message?]
  | nameless line => simp [InboundLine.message?]
  | message other => simp [InboundLine.message?]

theorem of_line_undivided (line name raw : String) (read : ofLine? line = some (.update name raw)) : '=' ∉ name.toList := by
  obtain ⟨before, after, cut, rfl, rfl⟩ := of_trimmed_cut _ _ _ ((of_line_iff line _).mp read)
  rw [String.toList_ofList]
  exact fun member => (Text.splitOnce_eq_some cut).2 ((Text.trim_sublist before).subset member)

end Inbound
end SignalRules
