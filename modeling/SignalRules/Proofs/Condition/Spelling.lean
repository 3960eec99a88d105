import SignalRules.Proofs.Condition.Words
import SignalRules.Proofs.Value.NumberText

set_option autoImplicit false

namespace SignalRules.Token
open Text (isBlank)

inductive Spelling : Token → List Char → Prop where
  | opening : Spelling .opening ['(']
  | closing : Spelling .closing [')']
  | comparator (op : Comparator) : Spelling (.compare op) op.symbol.toList
  | ampersands : Spelling .and ['&', '&']
  | bars : Spelling .or ['|', '|']
  | bang : Spelling .not ['!']
  | word (c : Char) (tail : List Char) (token : Token) (start : isWordStart c = true) (parts : tail.all isWordPart = true)
      (stands : ofWord (c :: tail) = .ok token) : Spelling token (c :: tail)
  | number (c : Char) (tail : List Char) (token : Token) (start : isNumberStart c = true)
      (parts : tail.all isNumberPart = true) (stands : ofNumber (c :: tail) = .ok token) : Spelling token (c :: tail)
  | quoted (q : Char) (s : List Char) (quote : Value.isQuote q = true) (inside : q ∉ s) :
      Spelling (.literal (.string (String.ofList s))) (q :: (s ++ [q]))

theorem keyword_letters (text word : List Char) (same : text.map Char.toLower = word.map Char.toLower) :
    keyword? text = keyword? word := by
  simp only [keyword?, same]

theorem spelling_keyword (k : String) (text : List Char) (token : Token) (listed : k ∈ keywords)
    (letters : text.map Char.toLower = k.toList) (stands : keyword? k.toList = some token) : Spelling token text := by
  have small : ∀ k ∈ keywords, (k.toList.map Char.toNat).all ((List.range' 97 26).contains ·) = true ∧
      k.toList.map Char.toLower = k.toList ∧ k.toList ≠ [] := by decide
  obtain ⟨points, lowered, filled⟩ := small k listed
  have starts : ∀ c ∈ text, isWordStart c = true := by
    intro c member
    have lower : c.toLower ∈ k.toList := letters ▸ List.mem_map_of_mem member
    exact letter_word_start c (List.contains_iff_mem.mp (List.all_eq_true.mp points _ (List.mem_map_of_mem lower)))
  have unpointed : '.' ∉ text := fun point => absurd (starts '.' point) (by decide)
  rw [← keyword_letters text k.toList (letters.trans lowered.symm)] at stands
  cases text with
  | nil => exact absurd letters.symm filled
  | cons c tail =>
    refine .word c tail token (starts c List.mem_cons_self) ?_ ?_
    · exact List.all_eq_true.mpr fun d member => word_start_part d (starts d (List.mem_cons_of_mem c member))
    · rw [ofWord, if_neg (by simpa using unpointed), stands]

theorem spelling_name (name : String) (legal : IsName name) : Spelling (.signal name) name.toList := by
  obtain ⟨c, rest, split, start, parts⟩ := legal.characters
  have stands := of_word_name name legal
  rw [split] at stands ⊢
  exact .word c rest _ start (List.all_eq_true.mpr parts) stands

-- No token goes on with a blank or a closing parenthesis.
def Boundary (rest : List Char) : Prop := rest.head?.all (fun c => isBlank c || c == ')') = true

theorem boundary_outside (p : Char → Bool) (rest : List Char) (boundary : Boundary rest) (closing : p ')' = false)
    (blanks : ∀ c, isBlank c = true → p c = false) : rest.head?.all (fun c => !p c) = true := by
  cases rest with
  | nil => rfl
  | cons c rest =>
    have ends : isBlank c = true ∨ c = ')' := by simpa [Boundary] using boundary
    rcases ends with blank | rfl
    · simp [blanks c blank]
    · simp [closing]

theorem boundary_not_equals (rest : List Char) (boundary : Boundary rest) : rest.head? ≠ some '=' := by
  intro equals
  have ends : (isBlank '=' || '=' == ')') = true := by simpa [Boundary, equals] using boundary
  exact absurd ends (by decide)

theorem first_word (c : Char) (rest : List Char) (start : isWordStart c = true) :
    first c rest = (ofWord (c :: rest.takeWhile isWordPart)).map (·, (rest.takeWhile isWordPart).length) := by
  have other (d : Char) (outside : isWordStart d = false) : c ≠ d := by
    rintro rfl
    rw [outside] at start
    contradiction
  have number := word_start_not_number_start c start
  simp [first, Value.isQuote, other '(' rfl, other ')' rfl, other '>' rfl, other '<' rfl, other '=' rfl, other '!' rfl,
    other '&' rfl, other '|' rfl, other '"' rfl, other '\x27' rfl, number, start]

theorem first_number (c : Char) (rest : List Char) (start : isNumberStart c = true) :
    first c rest = (ofNumber (c :: rest.takeWhile isNumberPart)).map (·, (rest.takeWhile isNumberPart).length) := by
  have other (d : Char) (outside : isNumberStart d = false) : c ≠ d := by
    rintro rfl
    rw [outside] at start
    contradiction
  simp [first, Value.isQuote, other '(' rfl, other ')' rfl, other '>' rfl, other '<' rfl, other '=' rfl, other '!' rfl,
    other '&' rfl, other '|' rfl, other '"' rfl, other '\x27' rfl, start]

theorem first_quoted (q : Char) (rest : List Char) (quote : Value.isQuote q = true) : first q rest =
    if (rest.takeWhile (· != q)).length < rest.length then
      .ok (.literal (.string (String.ofList (rest.takeWhile (· != q)))), (rest.takeWhile (· != q)).length + 1)
    else .error .unterminatedString := by
  have isQuote : q = '"' ∨ q = '\x27' := by simpa [Value.isQuote] using quote
  rcases isQuote with rfl | rfl
  · rfl
  · rfl

theorem first_quote (q : Char) (s rest : List Char) (quote : Value.isQuote q = true) (inside : q ∉ s) :
    first q (s ++ q :: rest) = .ok (.literal (.string (String.ofList s)), s.length + 1) := by
  have body : (s ++ q :: rest).takeWhile (· != q) = s := by
    refine (longest_run (· != q) s (q :: rest) ?_ (by simp)).1
    simp only [List.all_eq_true, bne_iff_ne]
    exact fun c member same => inside (same ▸ member)
  rw [first_quoted q _ quote, body, if_pos (by simp)]

theorem first_spelling (token : Token) (text rest : List Char) (spelling : Spelling token text) (boundary : Boundary rest) :
    ∃ c body, text = c :: body ∧ isBlank c = false ∧ first c (body ++ rest) = .ok (token, body.length) := by
  have notEquals := boundary_not_equals rest boundary
  cases spelling with
  | opening => exact ⟨'(', [], rfl, rfl, rfl⟩
  | closing => exact ⟨')', [], rfl, rfl, rfl⟩
  | comparator op =>
    cases op with
    | eq => exact ⟨'=', ['='], rfl, rfl, by simp [first]⟩
    | ne => exact ⟨'!', ['='], rfl, rfl, by simp [first]⟩
    | lt => exact ⟨'<', [], rfl, rfl, by simp [first, notEquals]⟩
    | le => exact ⟨'<', ['='], rfl, rfl, by simp [first]⟩
    | gt => exact ⟨'>', [], rfl, rfl, by simp [first, notEquals]⟩
    | ge => exact ⟨'>', ['='], rfl, rfl, by simp [first]⟩
  | ampersands => exact ⟨'&', ['&'], rfl, rfl, by simp [first]⟩
  | bars => exact ⟨'|', ['|'], rfl, rfl, by simp [first]⟩
  | bang => exact ⟨'!', [], rfl, rfl, by simp [first, notEquals]⟩
  | word c tail _ start parts stands =>
    have ends := boundary_outside isWordPart rest boundary (by decide) blank_not_word_part
    have taken := (longest_run isWordPart tail rest parts ends).1
    refine ⟨c, tail, rfl, word_start_not_blank c start, ?_⟩
    rw [first_word c _ start, taken, stands]
    rfl
  | number c tail _ start parts stands =>
    have ends := boundary_outside isNumberPart rest boundary (by decide) fun d blank => by
      rw [← Bool.not_eq_true]
      intro part
      have wordPart := number_part_word_part d part
      rw [blank_not_word_part d blank] at wordPart
      contradiction
    have taken := (longest_run isNumberPart tail rest parts ends).1
    refine ⟨c, tail, rfl, number_start_not_blank c start, ?_⟩
    rw [first_number c _ start, taken, stands]
    rfl
  | quoted q s quote inside =>
    refine ⟨q, s ++ [q], rfl, ?_, ?_⟩
    · exact quote_not_blank q quote
    · simpa using first_quote q s rest quote inside

theorem scan_nil (offset : Nat) : scan offset [] = .ok [] := by
  rw [scan.eq_def]

theorem scan_blank (offset : Nat) (c : Char) (rest : List Char) (blank : isBlank c = true) :
    scan offset (c :: rest) = scan (offset + c.utf8Size) rest := by
  rw [scan.eq_def]
  exact if_pos blank

theorem scan_token (offset : Nat) (c : Char) (rest : List Char) (token : Token) (taken : Nat) (solid : isBlank c = false)
    (read : first c rest = .ok (token, taken)) : scan offset (c :: rest) =
      (scan (offset + c.utf8Size + width (rest.take taken)) (rest.drop taken)).map ((offset, token) :: ·) := by
  rw [scan.eq_def]
  simp only [solid, read]
  cases scan (offset + c.utf8Size + width (rest.take taken)) (rest.drop taken) <;> rfl

theorem scan_fault (offset : Nat) (c : Char) (rest : List Char) (fault : SyntaxFault) (solid : isBlank c = false)
    (read : first c rest = .error fault) : scan offset (c :: rest) = .error ⟨offset, fault⟩ := by
  rw [scan.eq_def]
  simp only [solid, read]
  rfl

theorem width_append (a b : List Char) : width (a ++ b) = width a + width b := by
  induction a with
  | nil => simp [width]
  | cons c a ih => simp [width, ih, Nat.add_assoc]

theorem scan_first (offset : Nat) (c : Char) (body rest : List Char) (token : Token) (solid : isBlank c = false)
    (read : first c (body ++ rest) = .ok (token, body.length)) : scan offset (c :: body ++ rest) =
      (scan (offset + width (c :: body)) rest).map ((offset, token) :: ·) := by
  rw [List.cons_append, scan_token offset c _ token body.length solid read, List.take_left, List.drop_left, Nat.add_assoc]
  rfl

theorem scan_spelling (offset : Nat) (token : Token) (text rest : List Char) (spelling : Spelling token text)
    (boundary : Boundary rest) :
    scan offset (text ++ rest) = (scan (offset + width text) rest).map ((offset, token) :: ·) := by
  obtain ⟨c, body, rfl, solid, read⟩ := first_spelling token text rest spelling boundary
  exact scan_first offset c body rest token solid read

def Scanned (text rest : List Char) (tokens : List Token) : Prop :=
  ∀ offset, ∃ placed : List (Nat × Token), placed.map (·.2) = tokens ∧
    scan offset (text ++ rest) = (scan (offset + width text) rest).map (placed ++ ·)

theorem scanned_nil (rest : List Char) : Scanned [] rest [] := by
  intro offset
  refine ⟨[], rfl, ?_⟩
  change scan offset rest = (scan offset rest).map ([] ++ ·)
  cases scan offset rest <;> rfl

theorem scanned_blank (c : Char) (rest : List Char) (blank : isBlank c = true) : Scanned [c] rest [] := by
  intro offset
  refine ⟨[], rfl, ?_⟩
  rw [List.singleton_append, scan_blank offset c rest blank]
  change scan (offset + c.utf8Size) rest = (scan (offset + c.utf8Size) rest).map ([] ++ ·)
  cases scan (offset + c.utf8Size) rest <;> rfl

theorem scanned_first (c : Char) (body rest : List Char) (token : Token) (solid : isBlank c = false)
    (read : first c (body ++ rest) = .ok (token, body.length)) : Scanned (c :: body) rest [token] :=
  fun offset => ⟨[(offset, token)], rfl, scan_first offset c body rest token solid read⟩

theorem scanned_spelling (token : Token) (text rest : List Char) (spelling : Spelling token text)
    (boundary : Boundary rest) : Scanned text rest [token] :=
  fun offset => ⟨[(offset, token)], rfl, scan_spelling offset token text rest spelling boundary⟩

theorem scanned_append (a b rest : List Char) (ts us : List Token) (front : Scanned a (b ++ rest) ts)
    (back : Scanned b rest us) : Scanned (a ++ b) rest (ts ++ us) := by
  intro offset
  obtain ⟨placed, shown, read⟩ := front offset
  obtain ⟨placed', shown', read'⟩ := back (offset + width a)
  refine ⟨placed ++ placed', by rw [List.map_append, shown, shown'], ?_⟩
  rw [List.append_assoc, read, read', width_append, Nat.add_assoc]
  cases scan (offset + (width a + width b)) rest with
  | error e => rfl
  | ok tokens => simp [Except.map]

theorem scanned_split (text rest : List Char) (ts : List Token) (scanned : Scanned text rest ts) (offset : Nat)
    (placed : List (Nat × Token)) (read : scan offset (text ++ rest) = .ok placed) :
    ∃ later, scan (offset + width text) rest = .ok later ∧ placed.map (·.2) = ts ++ later.map (·.2) := by
  obtain ⟨before, shown, onward⟩ := scanned offset
  rw [onward] at read
  cases later : scan (offset + width text) rest with
  | error e => simp [later, Except.map] at read
  | ok after =>
    obtain rfl : before ++ after = placed := by simpa [later, Except.map] using read
    exact ⟨after, rfl, by rw [List.map_append, shown]⟩

theorem scanned_whole (text : List Char) (tokens : List Token) (scanned : Scanned text [] tokens) :
    ∃ placed, scan 0 text = .ok placed ∧ placed.map (·.2) = tokens := by
  obtain ⟨placed, shown, read⟩ := scanned 0
  refine ⟨placed, ?_, shown⟩
  simpa [scan_nil, Except.map] using read

end SignalRules.Token
