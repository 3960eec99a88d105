import SignalRules.Proofs.Condition.Spelling
import SignalRules.Proofs.Text.Trim

set_option autoImplicit false

namespace SignalRules.Token
open Text (isBlank)

theorem take_run (p : Char → Bool) (rest : List Char) : rest.take (rest.takeWhile p).length = rest.takeWhile p :=
  (List.prefix_iff_eq_take.mp (List.takeWhile_prefix p)).symm

theorem take_next (rest : List Char) (d : Char) (next : rest.head? = some d) : rest.take 1 = [d] := by
  cases rest with
  | nil => cases next
  | cons e rest =>
    cases next
    rfl

theorem map_eq_ok {ε α β : Type} (f : α → β) (result : Except ε α) (b : β) (mapped : result.map f = .ok b) :
    ∃ a, result = .ok a ∧ f a = b := by
  cases result with
  | error e => cases mapped
  | ok a => exact ⟨a, rfl, Except.ok.inj mapped⟩

theorem of_to_option {ε α : Type} (result : Except ε α) (a : α) (read : result.toOption = some a) : result = .ok a := by
  cases result with
  | error e => cases read
  | ok b => exact congrArg Except.ok (Option.some.inj read)

theorem run_stops (p : Char → Bool) (rest : List Char) (inside : (rest.takeWhile p).length < rest.length) :
    ∃ d after, rest = rest.takeWhile p ++ d :: after ∧ p d = false := by
  have whole := List.takeWhile_append_dropWhile (p := p) (l := rest)
  cases dropped : rest.dropWhile p with
  | nil =>
    rw [dropped, List.append_nil] at whole
    rw [whole] at inside
    exact absurd inside (Nat.lt_irrefl _)
  | cons d after =>
    rw [dropped] at whole
    have stops := List.head?_dropWhile_not p rest
    rw [dropped] at stops
    exact ⟨d, after, whole.symm, by simpa using stops⟩

theorem spelling_run (q : Char) (rest : List Char) (quote : Value.isQuote q = true)
    (closed : (rest.takeWhile (· != q)).length < rest.length) :
    Spelling (.literal (.string (String.ofList (rest.takeWhile (· != q)))))
      (q :: rest.take ((rest.takeWhile (· != q)).length + 1)) := by
  obtain ⟨d, after, whole, stops⟩ := run_stops (· != q) rest closed
  obtain rfl : d = q := by simpa using stops
  have taken : rest.take ((rest.takeWhile (· != d)).length + 1) = rest.takeWhile (· != d) ++ [d] := by
    generalize rest.takeWhile (· != d) = body at whole ⊢
    rw [whole, List.take_length_add_append, List.take_one, List.head?_cons, Option.toList_some]
  rw [taken]
  refine .quoted d _ quote fun member => ?_
  have inside := List.all_eq_true.mp List.all_takeWhile d member
  simp at inside

theorem spelling_pair (c d : Char) (rest : List Char) (long short token : Token) (taken : Nat)
    (double : Spelling long [c, d]) (single : Spelling short [c])
    (read : (if rest.head? = some d then (long, 1) else (short, 0)) = (token, taken)) :
    Spelling token (c :: rest.take taken) := by
  by_cases next : rest.head? = some d
  · rw [if_pos next] at read
    cases read
    rw [take_next rest d next]
    exact double
  · rw [if_neg next] at read
    cases read
    exact single

theorem spelling_double (c d : Char) (rest : List Char) (long token : Token) (taken : Nat) (fault : SyntaxFault)
    (double : Spelling long [c, d])
    (read : (if rest.head? = some d then Except.ok (long, 1) else .error fault) = .ok (token, taken)) :
    Spelling token (c :: rest.take taken) := by
  by_cases next : rest.head? = some d
  · rw [if_pos next] at read
    cases read
    rw [take_next rest d next]
    exact double
  · rw [if_neg next] at read
    cases read

def symbols : List Char := ['(', ')', '>', '<', '=', '!', '&', '|']

theorem start_cases (c : Char) (rest : List Char) (token : Token) (taken : Nat) (read : first c rest = .ok (token, taken)) :
    isNumberStart c = true ∨ isWordStart c = true ∨ Value.isQuote c = true ∨ c ∈ symbols := by
  refine Decidable.byContradiction fun other => ?_
  simp only [symbols, List.mem_cons, List.not_mem_nil, or_false, not_or, Bool.not_eq_true] at other
  obtain ⟨number, word, quote, opening, closing, more, less, equals, bang, ampersand, bar⟩ := other
  simp [first, number, word, quote, opening, closing, more, less, equals, bang, ampersand, bar] at read

theorem spelling_of_symbol (c : Char) (rest : List Char) (token : Token) (taken : Nat) (symbol : c ∈ symbols)
    (read : first c rest = .ok (token, taken)) : Spelling token (c :: rest.take taken) := by
  simp only [symbols, List.mem_cons, List.not_mem_nil, or_false] at symbol
  rcases symbol with rfl | rfl | rfl | rfl | rfl | rfl | rfl | rfl
  · cases read
    exact .opening
  · cases read
    exact .closing
  · exact spelling_pair '>' '=' rest _ _ token taken (.comparator .ge) (.comparator .gt) (Except.ok.inj read)
  · exact spelling_pair '<' '=' rest _ _ token taken (.comparator .le) (.comparator .lt) (Except.ok.inj read)
  · exact spelling_double '=' '=' rest _ token taken _ (.comparator .eq) read
  · exact spelling_pair '!' '=' rest _ _ token taken (.comparator .ne) .bang (Except.ok.inj read)
  · exact spelling_double '&' '&' rest _ token taken _ .ampersands read
  · exact spelling_double '|' '|' rest _ token taken _ .bars read

theorem spelling_of_first (c : Char) (rest : List Char) (token : Token) (taken : Nat)
    (read : first c rest = .ok (token, taken)) : Spelling token (c :: rest.take taken) := by
  rcases start_cases c rest token taken read with number | word | quote | symbol
  · rw [first_number c rest number] at read
    obtain ⟨other, stands, same⟩ := map_eq_ok _ _ _ read
    cases same
    rw [take_run]
    exact .number c _ token number List.all_takeWhile stands
  · rw [first_word c rest word] at read
    obtain ⟨other, stands, same⟩ := map_eq_ok _ _ _ read
    cases same
    rw [take_run]
    exact .word c _ token word List.all_takeWhile stands
  · rw [first_quoted c rest quote] at read
    by_cases closed : (rest.takeWhile (· != c)).length < rest.length
    · rw [if_pos closed] at read
      cases read
      exact spelling_run c rest quote closed
    · rw [if_neg closed] at read
      cases read
  · exact spelling_of_symbol c rest token taken symbol read

theorem scan_nothing (offset : Nat) (text : List Char) (read : scan offset text = .ok []) : ∀ c ∈ text, isBlank c = true := by
  induction offset, text using scan.induct with
  | case1 offset => simp
  | case2 offset c rest blank ih =>
    rw [scan_blank offset c rest blank] at read
    exact List.forall_mem_cons.mpr ⟨blank, ih read⟩
  | case3 offset c rest solid fault refused =>
    rw [scan_fault offset c rest fault (Bool.eq_false_iff.mpr solid) refused] at read
    cases read
  | case4 offset c rest solid token taken starts e later ih =>
    rw [scan_token offset c rest token taken (Bool.eq_false_iff.mpr solid) starts, later] at read
    cases read
  | case5 offset c rest solid token taken starts placed later ih =>
    rw [scan_token offset c rest token taken (Bool.eq_false_iff.mpr solid) starts, later] at read
    cases read

theorem scan_lexeme (offset : Nat) (text : List Char) (o : Nat) (token : Token) (later : List (Nat × Token))
    (read : scan offset text = .ok ((o, token) :: later)) : ∃ blanks body rest, text = blanks ++ (body ++ rest) ∧
      (∀ c ∈ blanks, isBlank c = true) ∧ Spelling token body ∧ o = offset + width blanks ∧
        scan (o + width body) rest = .ok later := by
  induction offset, text using scan.induct with
  | case1 offset =>
    rw [scan_nil] at read
    cases read
  | case2 offset c rest blank ih =>
    rw [scan_blank offset c rest blank] at read
    obtain ⟨blanks, body, after, whole, gap, spelling, place, onward⟩ := ih read
    refine ⟨c :: blanks, body, after, by rw [whole, List.cons_append], ?_, spelling, ?_, onward⟩
    · exact List.forall_mem_cons.mpr ⟨blank, gap⟩
    · rw [place, width, Nat.add_assoc]
  | case3 offset c rest solid fault refused =>
    rw [scan_fault offset c rest fault (Bool.eq_false_iff.mpr solid) refused] at read
    cases read
  | case4 offset c rest solid here taken starts e after ih =>
    rw [scan_token offset c rest here taken (Bool.eq_false_iff.mpr solid) starts, after] at read
    cases read
  | case5 offset c rest solid here taken starts placed after ih =>
    rw [scan_token offset c rest here taken (Bool.eq_false_iff.mpr solid) starts, after] at read
    cases read
    refine ⟨[], c :: rest.take taken, rest.drop taken, ?_, by simp, spelling_of_first c rest _ taken starts, rfl, ?_⟩
    · rw [List.nil_append, List.cons_append, List.take_append_drop]
    · rw [width, ← Nat.add_assoc, after]

theorem of_number_not_signal (text : List Char) (name : String) : ofNumber text ≠ .ok (.signal name) := by
  unfold ofNumber
  cases (Numeral.ofText? text).bind Numeral.value? <;> simp

theorem spelling_signal (name : String) (text : List Char) (spelling : Spelling (.signal name) text) : IsName name := by
  cases spelling with
  | word c tail _ start parts stands => exact name_of_word c tail name start parts stands
  | number c tail _ _ _ stands => exact absurd stands (of_number_not_signal _ name)

theorem scan_names (offset : Nat) (text : List Char) (tokens : List (Nat × Token)) (read : scan offset text = .ok tokens)
    (name : String) (member : .signal name ∈ tokens.map (·.2)) : IsName name := by
  induction tokens generalizing offset text with
  | nil => simp at member
  | cons here later ih =>
    obtain ⟨blanks, body, rest, _, _, spelling, _, onward⟩ := scan_lexeme offset text here.1 here.2 later read
    rcases List.mem_cons.mp member with same | member
    · exact spelling_signal name body (same ▸ spelling)
    · exact ih _ rest onward member

theorem spelling_trimmed (token : Token) (text : List Char) (spelling : Spelling token text) : Text.Trimmed text := by
  cases spelling with
  | opening | closing | ampersands | bars | bang => exact Text.solid_trimmed _ (Text.solid_of_all _ (by decide))
  | comparator op => cases op <;> exact Text.solid_trimmed _ (Text.solid_of_all _ (by decide))
  | word c tail _ start parts _ =>
    refine Text.solid_trimmed _ (List.forall_mem_cons.mpr ⟨word_start_not_blank c start, fun d member => ?_⟩)
    exact word_part_not_blank d (List.all_eq_true.mp parts d member)
  | number c tail _ start parts _ =>
    refine Text.solid_trimmed _ (List.forall_mem_cons.mpr ⟨number_start_not_blank c start, fun d member => ?_⟩)
    exact word_part_not_blank d (number_part_word_part d (List.all_eq_true.mp parts d member))
  | quoted q s quote _ =>
    have solid := quote_not_blank q quote
    constructor
    · intro c first
      cases first
      exact solid
    · intro c last
      rw [← List.cons_append, List.getLast?_concat] at last
      cases last
      exact solid

theorem scanned_blanks (blanks rest : List Char) (gap : ∀ c ∈ blanks, isBlank c = true) : Scanned blanks rest [] := by
  induction blanks with
  | nil => exact scanned_nil rest
  | cons c blanks ih =>
    obtain ⟨blank, gap⟩ := List.forall_mem_cons.mp gap
    exact scanned_append [c] blanks rest [] [] (scanned_blank c _ blank) (ih gap)

theorem blanks_boundary (blanks rest : List Char) (gap : ∀ c ∈ blanks, isBlank c = true) (boundary : Boundary rest) :
    Boundary (blanks ++ rest) := by
  cases blanks with
  | nil => exact boundary
  | cons c blanks => simp [Boundary, gap c List.mem_cons_self]

theorem scanned_trim (token : Token) (text rest : List Char) (spelling : Spelling token (Text.trim text))
    (boundary : Boundary rest) : Scanned text rest [token] := by
  obtain ⟨front, back, whole, gap, gap'⟩ := Text.trim_split text
  rw [whole]
  have ends := blanks_boundary back rest gap' boundary
  have core := scanned_append _ back rest [token] [] (scanned_spelling token _ _ spelling ends) (scanned_blanks back rest gap')
  exact scanned_append front _ rest [] [token] (scanned_blanks front _ gap) core

theorem scan_alone_iff (token : Token) (text : List Char) :
    (∃ offset, scan 0 text = .ok [(offset, token)]) ↔ Spelling token (Text.trim text) := by
  constructor
  · rintro ⟨offset, read⟩
    obtain ⟨blanks, body, rest, rfl, gap, spelling, -, onward⟩ := scan_lexeme 0 text offset token [] read
    rw [Text.trim_padded blanks body rest gap (scan_nothing _ rest onward) (spelling_trimmed token body spelling)]
    exact spelling
  · intro spelling
    obtain ⟨placed, read, shown⟩ := scanned_whole text [token] (scanned_trim token text [] spelling rfl)
    obtain ⟨⟨offset, found⟩, rfl⟩ : ∃ entry, placed = [entry] := List.length_eq_one_iff.mp (by simpa using congrArg List.length shown)
    obtain rfl : found = token := by simpa using shown
    exact ⟨offset, read⟩

end SignalRules.Token
