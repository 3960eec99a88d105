import SignalRules.Proofs.Text.Trim
import SignalRules.Proofs.Text.Utf8
import SignalRules.Transport.Lines

set_option autoImplicit false

namespace SignalRules

def receptions {σ : Type} [Inlet σ] (s : σ) : Nat → List Reception
  | 0 => []
  | n + 1 => (Inlet.receive s).reception :: receptions (Inlet.receive s).rest n

namespace ByteFeed

def ofLines (name : String) (lines : List String) (tail : FeedEnd) : ByteFeed :=
  ⟨name, lines.flatMap fun line => Text.Utf8.encode line ++ [newline], tail⟩

theorem written_sent (o : Outlet) (time : Nat) (s : Signal) (accepts : o.refuses o.attempts = false) :
    written (o.send time s).2 = written o ++ (s.wire ++ "\n") := by
  simp [Outlet.send, accepts, written, Outlet.lines]

theorem encode_newline : String.utf8EncodeChar '\n' = [newline] := rfl

theorem encode_written (o : Outlet) :
    Text.Utf8.encode (written o) = o.lines.flatMap fun line => Text.Utf8.encode line ++ [newline] := by
  simp [written, Text.Utf8.encode_eq, encode_newline, String.toList_join, List.flatMap_map, List.flatMap_assoc]

theorem cut_line (line rest : List UInt8) (unbroken : newline ∉ line) :
    cutLine (line ++ newline :: rest) = some (line ++ [newline], rest) := by
  induction line with
  | nil => simp [cutLine]
  | cons b line ih =>
    have inside : b ≠ newline := fun same => unbroken (same ▸ List.mem_cons_self)
    rw [List.cons_append, cutLine, if_neg inside, ih fun member => unbroken (List.mem_cons_of_mem b member)]
    rfl

theorem uncut_line (line : List UInt8) (unbroken : newline ∉ line) : cutLine line = none := by
  induction line with
  | nil => rfl
  | cons b line ih =>
    have inside : b ≠ newline := fun same => unbroken (same ▸ List.mem_cons_self)
    rw [cutLine, if_neg inside, ih fun member => unbroken (List.mem_cons_of_mem b member)]
    rfl

theorem read_encoded (name line : String) : readLine name (Text.Utf8.encode line ++ [newline]) =
    (Inbound.ofLine? line, (InboundLine.ofText line).notes) := by
  have bytes : Text.Utf8.encode line ++ [newline] = Text.Utf8.encode (line ++ "\n") := by
    simp [Text.Utf8.encode_eq, encode_newline]
  have trimmed : Text.trim (line ++ "\n").toList = Text.trim line.toList := by
    rw [String.toList_append]
    exact Text.trim_blank line.toList '\n' (by decide)
  rw [readLine, bytes, Text.Utf8.decode_encode]
  simp only [trimmed]
  rfl

def said? (line : List UInt8) : Option Inbound :=
  match Text.Utf8.decode line with
  | .error _ => none
  | .ok text => Inbound.ofLine? (String.ofList text)

theorem said_encoded (line : String) : said? (Text.Utf8.encode line) = Inbound.ofLine? line := by
  rw [said?, Text.Utf8.decode_encode]
  exact congrArg Inbound.ofLine? String.ofList_toList

theorem said_iff (line : List UInt8) (m : Inbound) :
    said? line = some m ↔ ∃ text, Text.Utf8.encode text = line ∧ Inbound.ofLine? text = some m := by
  constructor
  · intro said
    rw [said?] at said
    cases decoded : Text.Utf8.decode line with
    | error fault =>
      rw [decoded] at said
      cases said
    | ok text =>
      rw [decoded] at said
      have bytes := (Text.Utf8.decode_iff line text).mp decoded
      exact ⟨String.ofList text, by rw [Text.Utf8.encode_eq, String.toList_ofList, bytes], said⟩
  · rintro ⟨text, rfl, read⟩
    rw [said_encoded, read]

theorem of_line_text (text : List Char) :
    Inbound.ofLine? (String.ofList text) = (InboundLine.ofTrimmed (Text.trim text)).message? := by
  rw [Inbound.ofLine?, InboundLine.ofText, String.toList_ofList]

theorem read_said (name : String) (line : List UInt8) : (readLine name line).1 = said? line := by
  rw [readLine, said?]
  cases Text.Utf8.decode line with
  | error fault => rfl
  | ok text => exact (of_line_text text).symm

theorem said_terminated (line : List UInt8) : said? (line ++ [newline]) = said? line := by
  have terminated := Text.Utf8.decode_terminated line
  rw [said?, said?]
  cases decoded : Text.Utf8.decode (line ++ [newline]) with
  | error fault =>
    cases decoded' : Text.Utf8.decode line with
    | error fault' => rfl
    | ok text => cases decoded.symm.trans ((terminated _).mpr ⟨text, rfl, decoded'⟩)
  | ok text =>
    obtain ⟨front, rfl, decoded'⟩ := (terminated text).mp decoded
    rw [decoded']
    simp only [of_line_text, Text.trim_blank front '\n' (by decide)]

theorem receive_whole (name : String) (line rest : List UInt8) (tail : FeedEnd) (unbroken : newline ∉ line) :
    receive ⟨name, line ++ newline :: rest, tail⟩ =
      let notes := (readLine name (line ++ [newline])).2
      let later : ByteFeed := ⟨name, rest, tail⟩
      match said? line with
      | some m => ⟨.message m, later, notes⟩
      | none => { receive later with notes := notes ++ (receive later).notes } := by
  have cut := cut_line line rest unbroken
  change take name tail (line ++ newline :: rest) = _
  rw [take, ← said_terminated, ← read_said name]
  -- What is taken depends on the cut with a proof of it, so the cut cannot be rewritten in place.
  split
  · next first rest' cut' =>
    rw [cut] at cut'
    cases cut'
    cases readLine name (line ++ [newline]) with
    | mk said notes =>
      cases said with
      | some m => rfl
      | none => rfl
  · next cut' =>
    rw [cut] at cut'
    cases cut'

theorem receive_rest (name : String) (last : List UInt8) (tail : FeedEnd) (unbroken : newline ∉ last) :
    receive ⟨name, last, tail⟩ =
      if last.isEmpty || tail != .closed then atEnd name last tail
      else
        let notes := (readLine name last).2
        match said? last with
        | some m => ⟨.message m, ⟨name, [], tail⟩, notes⟩
        | none => { atEnd name [] tail with notes := notes ++ (atEnd name [] tail).notes } := by
  have cut := uncut_line last unbroken
  change take name tail last = _
  rw [take, ← read_said name]
  split
  · next first rest' cut' =>
    rw [cut] at cut'
    cases cut'
  · cases readLine name last with
    | mk said notes =>
      cases said with
      | some m => rfl
      | none => rfl

theorem newline_unencoded (line : String) (unbroken : '\n' ∉ line.toList) : newline ∉ Text.Utf8.encode line := by
  rw [Text.Utf8.encode_eq]
  exact Text.Utf8.newline_absent line.toList unbroken

theorem receive_line (name line : String) (lines : List String) (tail : FeedEnd) (unbroken : '\n' ∉ line.toList) :
    receive (ofLines name (line :: lines) tail) =
      let notes := (InboundLine.ofText line).notes
      let later := ofLines name lines tail
      match Inbound.ofLine? line with
      | some m => ⟨.message m, later, notes⟩
      | none => { receive later with notes := notes ++ (receive later).notes } := by
  have bytes : ofLines name (line :: lines) tail =
      ⟨name, Text.Utf8.encode line ++ newline :: (ofLines name lines tail).bytes, tail⟩ := by
    simp [ofLines]
  rw [bytes, receive_whole name _ _ tail (newline_unencoded line unbroken), said_encoded, read_encoded]
  rfl

theorem receive_end (name : String) : receive (ofLines name [] .closed) = atEnd name [] .closed := by
  rw [ofLines, List.flatMap_nil, receive_rest name [] .closed (List.not_mem_nil)]
  rfl

theorem receptions_next (f : ByteFeed) (n : Nat) :
    receptions f (n + 1) = (receive f).reception :: receptions (receive f).rest n := rfl

theorem receptions_end (name : String) (n : Nat) :
    receptions (ofLines name [] .closed) n = List.replicate n (.message .terminate) := by
  induction n with
  | zero => rfl
  | succ n ih =>
    rw [receptions_next, receive_end]
    exact congrArg (Reception.message .terminate :: ·) ih

theorem receptions_passed (f g : ByteFeed) (reception : (receive f).reception = (receive g).reception)
    (rest : (receive f).rest = (receive g).rest) (n : Nat) : receptions f n = receptions g n := by
  cases n with
  | zero => rfl
  | succ n =>
    rw [receptions_next, receptions_next, reception, rest]

theorem receptions_whole (name : String) (lines : List (List UInt8)) (last : List UInt8) (tail : FeedEnd) (n : Nat)
    (unbroken : ∀ line ∈ lines, newline ∉ line) :
    receptions (ByteFeed.mk name (lines.flatMap (· ++ [newline]) ++ last) tail) ((lines.filterMap said?).length + n) =
      (lines.filterMap said?).map .message ++ receptions (ByteFeed.mk name last tail) n := by
  induction lines with
  | nil => simp
  | cons line lines ih =>
    have first := receive_whole name line (lines.flatMap (· ++ [newline]) ++ last) tail (unbroken line List.mem_cons_self)
    have later := ih fun other member => unbroken other (List.mem_cons_of_mem line member)
    have bytes : (line :: lines).flatMap (· ++ [newline]) ++ last =
        line ++ newline :: (lines.flatMap (· ++ [newline]) ++ last) := by simp
    rw [bytes]
    cases said : said? line with
    | some m =>
      rw [said] at first
      rw [List.filterMap_cons_some said, List.length_cons, Nat.add_right_comm, List.map_cons, List.cons_append, ← later,
        receptions_next, first]
    | none =>
      rw [said] at first
      rw [List.filterMap_cons_none said, ← later]
      exact receptions_passed _ _ (by rw [first]) (by rw [first]) _

theorem receptions_lines (name : String) (lines : List String) (n : Nat) (unbroken : ∀ line ∈ lines, '\n' ∉ line.toList) :
    receptions (ofLines name lines .closed) ((lines.filterMap Inbound.ofLine?).length + n) =
      (lines.filterMap Inbound.ofLine?).map .message ++ List.replicate n (.message .terminate) := by
  have whole : ∀ line ∈ lines.map Text.Utf8.encode, newline ∉ line := by
    intro bytes member
    obtain ⟨line, inside, rfl⟩ := List.mem_map.mp member
    exact newline_unencoded line (unbroken line inside)
  have messages : (lines.map Text.Utf8.encode).filterMap said? = lines.filterMap Inbound.ofLine? := by
    rw [List.filterMap_map]
    exact congrArg (lines.filterMap ·) (funext said_encoded)
  have read := receptions_whole name (lines.map Text.Utf8.encode) [] .closed n whole
  rw [messages, List.append_nil, List.flatMap_map] at read
  exact read.trans (congrArg _ (receptions_end name n))

end ByteFeed
end SignalRules
