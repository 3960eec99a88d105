import SignalRules.Proofs.Signal.Wire
import SignalRules.Proofs.Transport.Lines

set_option autoImplicit false

namespace SignalRules

namespace Inbound

theorem of_line_none_iff (text : String) : ofLine? text = none ↔ Text.trim text.toList = [] ∨
    ∃ name raw, Text.splitOnce '=' (Text.trim text.toList) = some (name, raw) ∧ Text.trim name = [] := by
  rw [ofLine?, InboundLine.ofText]
  rcases of_trimmed_cases (Text.trim text.toList) with
    ⟨blank, kind⟩ | ⟨name, raw, cut, nameless, kind⟩ | ⟨name, raw, cut, named, kind⟩ | ⟨filled, whole, kind⟩
  · exact iff_of_true (by rw [kind]; rfl) (.inl blank)
  · exact iff_of_true (by rw [kind]; rfl) (.inr ⟨name, raw, cut, nameless⟩)
  · have filled : Text.trim text.toList ≠ [] := fun blank => by simp [blank, Text.splitOnce] at cut
    rw [kind, cut]
    simp [InboundLine.message?, filled, named]
  · rw [kind, whole]
    simp [InboundLine.message?, filled]

theorem of_line_terminate_iff (text : String) : ofLine? text = some .terminate ↔ Text.trim text.toList = "quit".toList := by
  have uncut : Text.splitOnce '=' "quit".toList = none := by decide
  rw [of_line_iff, InboundLine.ofText]
  rcases of_trimmed_cases (Text.trim text.toList) with
    ⟨blank, kind⟩ | ⟨name, raw, cut, _, kind⟩ | ⟨name, raw, cut, _, kind⟩ | ⟨_, _, kind⟩
  · rw [kind, blank]
    exact iff_of_false (by simp) (by decide)
  · rw [kind]
    refine iff_of_false (by simp) fun quits => ?_
    rw [quits, uncut] at cut
    cases cut
  · rw [kind]
    refine iff_of_false (by simp) fun quits => ?_
    rw [quits, uncut] at cut
    cases cut
  · rw [kind, InboundLine.message.injEq]
    by_cases quits : Text.trim text.toList = "quit".toList
    · exact iff_of_true (if_pos quits) quits
    · rw [if_neg quits]
      exact iff_of_false (by simp) quits

end Inbound

namespace ByteFeed

theorem lines_of_bytes (bytes : List UInt8) : ∃ lines last, (∀ line ∈ lines, newline ∉ line) ∧ newline ∉ last ∧
    bytes = lines.flatMap (· ++ [newline]) ++ last ∧ bytes.splitOn newline = lines ++ [last] := by
  by_cases broken : newline ∈ bytes
  · obtain ⟨line, rest, cut, unbroken⟩ := List.eq_append_cons_of_mem broken
    have shorter : rest.length < bytes.length := by
      rw [cut, List.length_append, List.length_cons]
      omega
    obtain ⟨lines, last, whole, unended, joined, split⟩ := lines_of_bytes rest
    refine ⟨line :: lines, last, List.forall_mem_cons.mpr ⟨unbroken, whole⟩, unended, ?_, ?_⟩
    · rw [cut, joined]
      simp
    · rw [cut, List.splitOn_append_cons_self_of_not_mem unbroken, split, List.cons_append]
  · exact ⟨[], bytes, by simp, broken, rfl, List.splitOn_eq_singleton broken⟩
termination_by bytes.length

theorem said_nothing : said? [] = none := by
  have empty : Text.Utf8.encode "" = [] := by
    rw [Text.Utf8.encode_eq]
    rfl
  rw [← empty, said_encoded]
  decide

theorem receptions_closed (name : String) (last : List UInt8) (unbroken : newline ∉ last) (n : Nat) :
    receptions (ByteFeed.mk name last .closed) ((said? last).toList.length + n) =
      (said? last).toList.map .message ++ List.replicate n (.message .terminate) := by
  have read := receive_rest name last .closed unbroken
  cases said : said? last with
  | some m =>
    have filled : last.isEmpty = false := by
      cases last with
      | nil => cases said_nothing.symm.trans said
      | cons b last => rfl
    rw [said, filled] at read
    rw [Option.toList_some, List.length_singleton, Nat.add_comm, receptions_next, read]
    exact congrArg (Reception.message m :: ·) (receptions_end name n)
  | none =>
    rw [said] at read
    rw [Option.toList_none, List.length_nil, Nat.zero_add]
    refine (receptions_passed _ (ofLines name [] .closed) ?_ ?_ n).trans (receptions_end name n)
    · rw [read, receive_end]
      split <;> rfl
    · rw [read, receive_end]
      split <;> rfl

theorem receptions_failed (name reason : String) (last : List UInt8) (unbroken : newline ∉ last) (n : Nat) :
    receptions (ByteFeed.mk name last (.failsOnce reason)) (n + 1) =
      .failed (.receiveFailed (name ++ ": " ++ reason)) :: List.replicate n (.message .terminate) := by
  rw [receptions_next, receive_rest name last _ unbroken, if_pos (by simp)]
  exact congrArg (_ :: ·) (receptions_end name n)

end ByteFeed

-- Of the lines between the newlines the last one counts at a proper end of input and is lost in a failure; after that
-- every reception is the end. What a line says is what its text does, and two kinds of text say nothing.
theorem receive_filters_lines (name : String) (bytes : List UInt8) :
    let lines := bytes.splitOn ByteFeed.newline
    (∀ n, let messages := lines.filterMap ByteFeed.said?
      receptions (ByteFeed.mk name bytes .closed) (messages.length + n) =
        messages.map .message ++ List.replicate n (.message .terminate)) ∧
    (∀ reason n, let messages := lines.dropLast.filterMap ByteFeed.said?
      receptions (ByteFeed.mk name bytes (.failsOnce reason)) (messages.length + (n + 1)) =
        messages.map .message ++
          .failed (.receiveFailed (name ++ ": " ++ reason)) :: List.replicate n (.message .terminate)) ∧
    (∀ line m, ByteFeed.said? line = some m ↔ ∃ text, Text.Utf8.encode text = line ∧ Inbound.ofLine? text = some m) ∧
    ∀ text, (Inbound.ofLine? text = none ↔ Text.trim text.toList = [] ∨
        ∃ name raw, Text.splitOnce '=' (Text.trim text.toList) = some (name, raw) ∧ Text.trim name = []) ∧
      (Inbound.ofLine? text = some .terminate ↔ Text.trim text.toList = "quit".toList) := by
  intro lines
  obtain ⟨whole, last, unbroken, unended, joined, split⟩ := ByteFeed.lines_of_bytes bytes
  refine ⟨fun n => ?_, fun reason n => ?_, ByteFeed.said_iff,
    fun text => ⟨Inbound.of_line_none_iff text, Inbound.of_line_terminate_iff text⟩⟩
  · intro messages
    have parts : messages = whole.filterMap ByteFeed.said? ++ (ByteFeed.said? last).toList := by
      simp only [messages, lines, split, List.filterMap_append, List.filterMap_cons, List.filterMap_nil]
      cases ByteFeed.said? last with
      | some m => rfl
      | none => rfl
    rw [parts, joined, List.length_append, Nat.add_assoc, ByteFeed.receptions_whole name whole last .closed _ unbroken,
      ByteFeed.receptions_closed name last unended, List.map_append, List.append_assoc]
  · intro messages
    have parts : messages = whole.filterMap ByteFeed.said? := by
      simp only [messages, lines, split, List.dropLast_concat]
    rw [parts, joined, ByteFeed.receptions_whole name whole last _ _ unbroken,
      ByteFeed.receptions_failed name reason last unended]

end SignalRules
