import SignalRules.Proofs.Condition.Lexeme
import SignalRules.Proofs.Condition.ReaderComplete

set_option autoImplicit false

namespace SignalRules

def Accepted (ts : List Token) : Prop := ∃ c, Derives (.chain .or) ts c

def Viable (ts : List Token) : Prop := ∃ us, Accepted (ts ++ us)

namespace ConditionReader

theorem accepted_iff (ts : List Token) : Accepted ts ↔ ∃ r c, start.feed ts = .ok r ∧ r.finish = .ok c := by
  constructor
  · rintro ⟨c, derived⟩
    obtain ⟨r, read, finished⟩ := (feed_finish_iff ts c).mpr derived
    exact ⟨r, c, read, finished⟩
  · rintro ⟨r, c, read, finished⟩
    exact ⟨c, (feed_finish_iff ts c).mp ⟨r, read, finished⟩⟩

theorem closes (outer : List OpenExpression) (e : OpenExpression) (last : Condition) :
    ∃ r c, feed ⟨e, outer, some last⟩ (List.replicate outer.length .closing) = .ok r ∧ r.finish = .ok c := by
  induction outer generalizing e last with
  | nil => exact ⟨_, _, rfl, rfl⟩
  | cons around outer ih => exact ih around (e.whole last)

theorem completes (r : ConditionReader) : ∃ us r' c, r.feed us = .ok r' ∧ r'.finish = .ok c := by
  obtain ⟨e, outer, operand⟩ := r
  cases operand with
  | some last => exact ⟨_, closes outer e last⟩
  | none => exact ⟨.literal (.bool true) :: _, closes outer e (.literal (.bool true))⟩

theorem viable_iff (ts : List Token) : Viable ts ↔ ∃ r, start.feed ts = .ok r := by
  constructor
  · rintro ⟨us, accepted⟩
    obtain ⟨r, c, read, _⟩ := (accepted_iff _).mp accepted
    rw [feed_append] at read
    cases taken : start.feed ts with
    | error fault =>
      rw [taken] at read
      cases read
    | ok r' => exact ⟨r', rfl⟩
  · rintro ⟨r, read⟩
    obtain ⟨us, r', c, onward, finished⟩ := r.completes
    exact ⟨us, (accepted_iff _).mpr ⟨r', c, (feed_through start r ts us read).trans onward, finished⟩⟩

theorem run_fault (length : Nat) (r : ConditionReader) (tokens : List (Nat × Token)) (e : SyntaxError)
    (refused : r.run length tokens = .error e) :
    (∃ before token after r', tokens = before ++ (e.offset, token) :: after ∧ r.feed (before.map (·.2)) = .ok r' ∧
      r'.step token = .error e.fault) ∨
    (e.offset = length ∧ ∃ r', r.feed (tokens.map (·.2)) = .ok r' ∧ r'.finish = .error e.fault) := by
  induction tokens generalizing r with
  | nil =>
    refine .inr ?_
    rw [run] at refused
    cases finished : r.finish with
    | ok c =>
      rw [finished] at refused
      cases refused
    | error fault =>
      rw [finished] at refused
      cases refused
      exact ⟨rfl, r, rfl, finished⟩
  | cons entry rest ih =>
    obtain ⟨offset, token⟩ := entry
    rw [run] at refused
    cases step : r.step token with
    | error fault =>
      rw [step] at refused
      cases refused
      exact .inl ⟨[], token, rest, r, rfl, rfl, step⟩
    | ok next =>
      rw [step] at refused
      have onward (ts : List Token) : r.feed (token :: ts) = next.feed ts := by rw [feed, step]
      rcases ih next refused with ⟨before, other, after, r', split, read, stuck⟩ | ⟨last, r', read, unfinished⟩
      · refine .inl ⟨(offset, token) :: before, other, after, r', by rw [split, List.cons_append], ?_, stuck⟩
        rw [List.map_cons, onward, read]
      · refine .inr ⟨last, r', ?_, unfinished⟩
        rw [List.map_cons, onward, read]

theorem stuck_unviable (ts : List Token) (token : Token) (r : ConditionReader) (fault : SyntaxFault)
    (read : start.feed ts = .ok r) (stuck : r.step token = .error fault) : ¬Viable (ts ++ [token]) := by
  intro viable
  obtain ⟨r', onward⟩ := (viable_iff _).mp viable
  rw [feed_through start r ts [token] read, feed, stuck] at onward
  cases onward

theorem unfinished_unaccepted (ts : List Token) (r : ConditionReader) (fault : SyntaxFault) (read : start.feed ts = .ok r)
    (unfinished : r.finish = .error fault) : ¬Accepted ts := by
  intro accepted
  obtain ⟨r', c, again, finished⟩ := (accepted_iff ts).mp accepted
  rw [read] at again
  cases again
  rw [unfinished] at finished
  cases finished

end ConditionReader

namespace Token

theorem width_bytes (s : List Char) : width s = (String.ofList s).utf8ByteSize := by
  induction s with
  | nil => rfl
  | cons c s ih =>
    have split : String.ofList (c :: s) = String.singleton c ++ String.ofList s := by
      rw [String.singleton_eq_ofList, ← String.ofList_append, List.singleton_append]
    rw [width, split, String.utf8ByteSize_append, String.utf8ByteSize_singleton, ih]

theorem spelling_width (token : Token) (text : List Char) (spelling : Spelling token text) : 0 < width text := by
  obtain ⟨c, body, rfl, _⟩ := first_spelling token text [] spelling rfl
  exact Nat.add_pos_left c.utf8Size_pos _

theorem scan_offset_lt (offset : Nat) (text : List Char) (tokens : List (Nat × Token)) (read : scan offset text = .ok tokens) :
    ∀ entry ∈ tokens, entry.1 < offset + width text := by
  induction tokens generalizing offset text with
  | nil => simp
  | cons here later ih =>
    obtain ⟨blanks, body, rest, rfl, _, spelling, place, onward⟩ := scan_lexeme offset text here.1 here.2 later read
    have filled := spelling_width here.2 body spelling
    have behind := ih _ rest onward
    rw [width_append, width_append]
    refine List.forall_mem_cons.mpr ⟨by omega, fun entry member => ?_⟩
    have bound := behind entry member
    omega

end Token

theorem parse_tokens (source : String) (tokens : List (Nat × Token)) (scanned : Token.scan 0 source.toList = .ok tokens)
    (nonempty : tokens ≠ []) : Condition.parse source = ConditionReader.start.run source.utf8ByteSize tokens := by
  have filled : ¬tokens.isEmpty = true := fun empty => nonempty (List.isEmpty_iff.mp empty)
  rw [Condition.parse, scanned, Token.width_bytes, String.ofList_toList]
  exact if_neg filled

theorem fault_at_first_impossible_token (source : String) (tokens : List (Nat × Token)) (e : SyntaxError)
    (scanned : Token.scan 0 source.toList = .ok tokens) (nonempty : tokens ≠ [])
    (refused : Condition.parse source = .error e) :
    (e.offset < source.utf8ByteSize → ∃ before token after, tokens = before ++ (e.offset, token) :: after ∧
      Viable (before.map (·.2)) ∧ ¬Viable (before.map (·.2) ++ [token])) ∧
    (e.offset = source.utf8ByteSize → Viable (tokens.map (·.2)) ∧ ¬Accepted (tokens.map (·.2))) ∧
    e.offset ≤ source.utf8ByteSize := by
  rw [parse_tokens source tokens scanned nonempty] at refused
  rcases ConditionReader.run_fault _ _ tokens e refused with
    ⟨before, token, after, r, split, read, stuck⟩ | ⟨last, r, read, unfinished⟩
  · have inside : e.offset < source.utf8ByteSize := by
      have bound := Token.scan_offset_lt 0 source.toList tokens scanned (e.offset, token) (by simp [split])
      rwa [Nat.zero_add, Token.width_bytes, String.ofList_toList] at bound
    have viable := (ConditionReader.viable_iff _).mpr ⟨r, read⟩
    refine ⟨fun _ => ⟨before, token, after, split, viable, ?_⟩, fun last => absurd last (Nat.ne_of_lt inside),
      Nat.le_of_lt inside⟩
    exact ConditionReader.stuck_unviable _ token r e.fault read stuck
  · refine ⟨fun inside => absurd last (Nat.ne_of_lt inside), fun _ => ⟨?_, ?_⟩, Nat.le_of_eq last⟩
    · exact (ConditionReader.viable_iff _).mpr ⟨r, read⟩
    · exact ConditionReader.unfinished_unaccepted _ r e.fault read unfinished

-- A second comparison is the first token that does not fit; an open parenthesis is missed only at the end.
theorem fault_at_first_impossible_token_chained :
    let chained := [(0, .signal "a"), (2, .compare .eq), (5, .signal "b"), (7, .compare .eq), (10, .signal "c")]
    let unclosed := [(0, .opening), (1, .signal "a")]
    (∃ before token after, chained = before ++ (7, token) :: after ∧ Viable (before.map (·.2)) ∧
        ¬Viable (before.map (·.2) ++ [token])) ∧
      Viable (unclosed.map (·.2)) ∧ ¬Accepted (unclosed.map (·.2)) := by
  intro chained unclosed
  have scanned : Token.scan 0 "a == b == c".toList = .ok chained := Token.of_to_option _ _ (by decide +kernel)
  have refused : Condition.parse "a == b == c" = .error ⟨7, .chainedComparison⟩ :=
    (parse_tokens _ chained scanned (by simp [chained])).trans rfl
  have scanned' : Token.scan 0 "(a".toList = .ok unclosed := Token.of_to_option _ _ (by decide +kernel)
  have refused' : Condition.parse "(a" = .error ⟨2, .missingParenthesis⟩ :=
    (parse_tokens _ unclosed scanned' (by simp [unclosed])).trans rfl
  have middle := fault_at_first_impossible_token _ chained _ scanned (by simp [chained]) refused
  have ending := fault_at_first_impossible_token _ unclosed _ scanned' (by simp [unclosed]) refused'
  exact ⟨middle.1 (by decide), ending.2.1 rfl⟩

end SignalRules
