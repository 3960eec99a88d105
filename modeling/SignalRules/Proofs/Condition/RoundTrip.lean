import SignalRules.Proofs.Condition.Lexeme
import SignalRules.Proofs.Condition.Printing
import SignalRules.Proofs.Condition.ReaderComplete

set_option autoImplicit false

namespace SignalRules

namespace Condition

theorem parse_eq_ok_iff (source : String) (c : Condition) : parse source = .ok c ↔
    ∃ placed, Token.scan 0 source.toList = .ok placed ∧ Derives (.chain .or) (placed.map (·.2)) c := by
  unfold parse
  cases scanned : Token.scan 0 source.toList with
  | error e => simp [Except.bind]
  | ok placed => simp [Except.bind, ofTokens_eq_ok_iff]

theorem parse_legal (source : String) (c : Condition) (read : parse source = .ok c) : c.Legal := by
  obtain ⟨placed, scanned, derived⟩ := (parse_eq_ok_iff source c).mp read
  exact derives_legal (.chain .or) _ c derived (Token.scan_names 0 source.toList placed scanned)

end Condition

-- However the scan of the text goes on, it does not have these leaves in these places.
def Token.Astray (text rest : List Char) (leaves : List Condition) : Prop :=
  ∀ offset placed more, Token.scan offset (text ++ rest) = .ok placed →
    Condition.Apart (Token.leaves (placed.map (·.2))) (leaves ++ more)

theorem astray_front (a b rest : List Char) (front back : List Condition) (astray : Token.Astray a (b ++ rest) front) :
    Token.Astray (a ++ b) rest (front ++ back) := by
  intro offset placed more scanned
  rw [List.append_assoc] at scanned ⊢
  exact astray offset placed (back ++ more) scanned

theorem astray_back (a b rest : List Char) (ts : List Token) (back : List Condition)
    (front : Token.Scanned a (b ++ rest) ts) (astray : Token.Astray b rest back) :
    Token.Astray (a ++ b) rest (Token.leaves ts ++ back) := by
  intro offset placed more scanned
  rw [List.append_assoc] at scanned
  obtain ⟨later, onward, shown⟩ := Token.scanned_split a (b ++ rest) ts front offset placed scanned
  rw [shown, Token.leaves_append, List.append_assoc]
  exact Condition.apart_append _ _ _ (astray _ later more onward)

def Misprinted (text : String) (leaves : List Condition) : Prop :=
  ∀ rest, Token.Boundary rest → Token.Astray text.toList rest leaves

theorem misprinted_before (a b : String) (front back : List Condition) (misprinted : Misprinted a front) :
    Misprinted (a ++ " " ++ b) (front ++ back) := by
  intro rest boundary
  rw [String.toList_append, String.toList_append, List.append_assoc]
  exact astray_front _ _ rest front back (misprinted _ (boundary_space _))

theorem misprinted_after (a b : String) (ts : List Token) (back : List Condition) (printed : Printed a ts)
    (misprinted : Misprinted b back) : Misprinted (a ++ " " ++ b) (Token.leaves ts ++ back) := by
  intro rest boundary
  rw [String.toList_append, String.toList_append, List.append_assoc]
  have gap := Token.scanned_blank ' ' (b.toList ++ rest) rfl
  exact astray_back _ _ rest ts back (printed _ (boundary_space _))
    (astray_back [' '] _ rest [] back gap (misprinted rest boundary))

theorem misprinted_parenthesized (yes : Bool) (text : String) (leaves : List Condition)
    (misprinted : Misprinted text leaves) : Misprinted (Condition.parenthesized yes text) leaves := by
  cases yes with
  | false => exact misprinted
  | true =>
    intro rest boundary
    have opening : Token.Scanned ['('] (text.toList ++ [')'] ++ rest) [.opening] :=
      Token.scanned_first '(' [] _ .opening rfl rfl
    have body := astray_front text.toList [')'] rest leaves [] (misprinted _ (boundary_closing rest))
    have whole := astray_back ['('] _ rest [.opening] _ opening body
    rw [List.append_nil, Token.leaves_silent .opening [] rfl] at whole
    simpa [Condition.parenthesized, Token.leaves] using whole

theorem misprinted_leaf (value : Value) (text : String) (token : Token) (other : Condition)
    (leaf : token.leaf? = some other) (different : other ≠ .literal value) (unequal : other.eqv (.literal value) = false)
    (read : ∀ rest, Token.Boundary rest →
      ∃ body after, text.toList ++ rest = body ++ after ∧ Token.Scanned body after [token]) :
    Misprinted text [.literal value] := by
  intro rest boundary offset placed more scanned
  obtain ⟨body, after, split, first⟩ := read rest boundary
  rw [split] at scanned
  obtain ⟨later, -, shown⟩ := Token.scanned_split body after [token] first offset placed scanned
  rw [shown, Token.leaves_append]
  constructor
  · simp [Token.leaves, leaf, different]
  · simp [Token.leaves, leaf, Condition.eqvAll, unequal]

theorem misprinted_string (s : String) (quote : '"' ∈ s.toList) :
    Misprinted (Value.string s).literal [.literal (.string s)] := by
  obtain ⟨before, after, split, inside⟩ := List.eq_append_cons_of_mem quote
  have different : String.ofList before ≠ s := by
    rintro rfl
    exact inside (by simpa using quote)
  refine misprinted_leaf _ _ (.literal (.string (String.ofList before))) (.literal (.string (String.ofList before))) rfl ?_ ?_ ?_
  · simpa using different
  · simpa [Condition.eqv, Value.eqv] using different
  · intro rest _
    refine ⟨'"' :: (before ++ ['"']), after ++ '"' :: rest, by simp [Value.literal, split], ?_⟩
    have read := Token.first_quote '"' before (after ++ '"' :: rest) rfl inside
    exact Token.scanned_first '"' (before ++ ['"']) _ _ rfl (by simpa using read)

theorem misprinted_word (value : Value) (legal : IsName value.literal) : Misprinted value.literal [.literal value] :=
  misprinted_leaf value _ (.signal value.literal) (.signal value.literal) rfl (by simp) rfl fun rest boundary =>
    ⟨value.literal.toList, rest, rfl, printed_signal _ legal rest boundary⟩

theorem misprinted_negative_infinity :
    Misprinted (Value.float (.infinity true)).literal [.literal (.float (.infinity true))] := by
  intro rest _ offset placed more scanned
  change Token.scan offset ('-' :: ("inf".toList ++ rest)) = .ok placed at scanned
  have refused : Token.first '-' ("inf".toList ++ rest) = .error (.invalidNumber (String.ofList ['-'])) := by
    rw [Token.first_number '-' _ rfl]
    rfl
  rw [Token.scan_fault offset '-' _ _ rfl refused] at scanned
  cases scanned

theorem misprinted_literal (value : Value) (unplain : ¬Condition.PlainPart (.literal value)) :
    Misprinted value.literal [.literal value] := by
  cases value with
  | bool b => exact absurd trivial unplain
  | int i => exact absurd trivial unplain
  | string s => exact misprinted_string s (Decidable.not_not.mp unplain)
  | float x =>
    cases x with
    | finite negative rank => exact absurd rfl unplain
    | nan => exact misprinted_word (.float .nan) (name_of_word 'N' "aN".toList "NaN" rfl rfl rfl)
    | infinity negative =>
      cases negative with
      | true => exact misprinted_negative_infinity
      | false => exact misprinted_word (.float (.infinity false)) (name_of_word 'i' "nf".toList "inf" rfl rfl rfl)

theorem enclosed_leaves (yes : Bool) (c : Condition) (legal : c.Legal) : Token.leaves (enclosed yes c.tokens) = c.leaves := by
  rw [Token.leaves_enclosed]
  exact derives_leaves c.phrase c.tokens c (derives_tokens c legal)

mutual
theorem misprinted_display : ∀ c : Condition, c.Legal → ¬c.Plain → Misprinted c.display c.leaves
  | .signal name, _, unplain => absurd (Condition.plain_signal name) unplain
  | .literal value, _, unplain => by
    rw [Condition.plain_literal] at unplain
    simpa [Condition.display] using misprinted_literal value unplain
  | .not c, legal, unplain => by
    rw [Condition.legal_not] at legal
    rw [Condition.plain_not] at unplain
    have operand := misprinted_parenthesized (c.isJoin || c.isCompare) _ _ (misprinted_display c legal unplain)
    rw [Condition.display_not, Condition.leaves_not]
    exact misprinted_after "not" _ [.not] c.leaves printed_not operand
  | .compare op l r, legal, unplain => by
    rw [Condition.legal_compare] at legal
    rw [Condition.plain_compare] at unplain
    rw [Condition.display, Condition.leaves_compare]
    by_cases plain : l.Plain
    · have left := printed_parenthesized (!l.isAtom) _ _ (printed_display l legal.1 plain)
      have right := misprinted_parenthesized (!r.isAtom) _ _ (misprinted_display r legal.2 fun other => unplain ⟨plain, other⟩)
      have whole := misprinted_after _ _ _ _ (printed_spaced _ _ _ _ left (printed_comparator op)) right
      rw [Token.leaves_append, enclosed_leaves _ l legal.1, Token.leaves_silent _ [] rfl] at whole
      simpa [Token.leaves] using whole
    · have left := misprinted_parenthesized (!l.isAtom) _ _ (misprinted_display l legal.1 plain)
      have front := misprinted_before _ op.symbol l.leaves [] left
      rw [List.append_nil] at front
      exact misprinted_before _ _ l.leaves r.leaves front
  | .join op cs, legal, unplain => by
    rw [Condition.legal_join] at legal
    rw [Condition.plain_join] at unplain
    rw [Condition.leaves_join]
    exact misprinted_chain op cs legal.2 unplain

theorem misprinted_chain (op : Connective) : ∀ cs : List Condition, (∀ c ∈ cs, c.Legal) → ¬(∀ c ∈ cs, c.Plain) →
    Misprinted (Condition.join op cs).display (Condition.leavesAll cs)
  | [], _, unplain => absurd (by simp) unplain
  | [c], legal, unplain => by
    have operand := misprinted_display c (legal c List.mem_cons_self) (by simpa using unplain)
    simpa [Condition.display, Condition.displayAll] using misprinted_parenthesized c.isJoin _ _ operand
  | c :: d :: cs, legal, unplain => by
    have here := legal c List.mem_cons_self
    rw [Condition.display_join_cons, Condition.leaves_all_cons]
    by_cases plain : c.Plain
    · have operand := printed_parenthesized c.isJoin _ _ (printed_display c here plain)
      have later := misprinted_chain op (d :: cs) (fun e member => legal e (List.mem_cons_of_mem c member)) fun others =>
        unplain (List.forall_mem_cons.mpr ⟨plain, others⟩)
      have whole := misprinted_after _ _ _ _ (printed_spaced _ _ _ _ operand (printed_connective op)) later
      rw [Token.leaves_append, enclosed_leaves _ c here, Token.leaves_connective] at whole
      simpa [Token.leaves] using whole
    · have operand := misprinted_parenthesized c.isJoin _ _ (misprinted_display c here plain)
      have front := misprinted_before _ op.word c.leaves [] operand
      rw [List.append_nil] at front
      exact misprinted_before _ _ c.leaves _ front
end

theorem parse_display_plain (c : Condition) (legal : c.Legal) (plain : c.Plain) : Condition.parse c.display = .ok c := by
  have printed := printed_display c legal plain [] rfl
  obtain ⟨placed, scanned, shown⟩ := Token.scanned_whole c.display.toList c.tokens printed
  refine (Condition.parse_eq_ok_iff c.display c).mpr ⟨placed, scanned, ?_⟩
  rw [shown]
  exact derives_loosest c.tokens c (derives_tokens c legal)

theorem parse_name (name : String) (legal : IsName name) : Condition.parse name = .ok (.signal name) := by
  have read := parse_display_plain (.signal name) ((Condition.legal_signal name).mpr legal) (Condition.plain_signal name)
  rwa [Condition.display] at read

theorem parse_display_unplain (c d : Condition) (legal : c.Legal) (unplain : ¬c.Plain)
    (read : Condition.parse c.display = .ok d) : d ≠ c ∧ d.eqv c = false := by
  obtain ⟨placed, scanned, derived⟩ := (Condition.parse_eq_ok_iff c.display d).mp read
  have astray := misprinted_display c legal unplain [] rfl 0 placed [] (by simpa using scanned)
  rw [derives_leaves (.chain .or) _ d derived, List.append_nil] at astray
  constructor
  · rintro rfl
    exact astray.1 rfl
  · rw [← Bool.not_eq_true]
    intro same
    have unequal := astray.2
    rw [Condition.eqv_leaves d c same] at unequal
    contradiction

theorem value_eqv_refl (value : Value) (plain : Condition.PlainPart (.literal value)) : value.eqv value = true := by
  cases value with
  | bool b => simp [Value.eqv]
  | int i => simp [Value.eqv]
  | string s => simp [Value.eqv]
  | float x =>
    cases x with
    | finite negative rank => simp [Value.eqv, Binary64.eqv, Binary64.order, Binary64.key]
    | nan => cases plain
    | infinity negative => cases plain

mutual
theorem plain_eqv_refl : ∀ c : Condition, c.Plain → c.eqv c = true
  | .signal name, _ => by simp [Condition.eqv]
  | .literal value, plain => by
    rw [Condition.plain_literal] at plain
    simpa [Condition.eqv] using value_eqv_refl value plain
  | .not c, plain => by
    rw [Condition.plain_not] at plain
    simpa [Condition.eqv] using plain_eqv_refl c plain
  | .compare op l r, plain => by
    rw [Condition.plain_compare] at plain
    simp [Condition.eqv, plain_eqv_refl l plain.1, plain_eqv_refl r plain.2]
  | .join op cs, plain => by
    rw [Condition.plain_join] at plain
    simpa [Condition.eqv] using plain_eqv_refl_all cs plain

theorem plain_eqv_refl_all : ∀ cs : List Condition, (∀ c ∈ cs, c.Plain) → Condition.eqvAll cs cs = true
  | [], _ => rfl
  | c :: cs, plain => by
    have here := plain_eqv_refl c (plain c List.mem_cons_self)
    have later := plain_eqv_refl_all cs fun d member => plain d (List.mem_cons_of_mem c member)
    simp [Condition.eqvAll, here, later]
end

-- Reading back holds of the tree as it stands and up to the equality of numbers, for which a NaN is not itself.
def Condition.ReadsBack (c : Condition) : Prop :=
  (Condition.parse c.display = .ok c ↔ c.Plain) ∧
    ((∃ d, Condition.parse c.display = .ok d ∧ d.eqv c = true) ↔ c.Plain)

theorem legal_reads_back (c : Condition) (legal : c.Legal) : c.ReadsBack := by
  by_cases plain : c.Plain
  · have read := parse_display_plain c legal plain
    exact ⟨⟨fun _ => plain, fun _ => read⟩, ⟨fun _ => plain, fun _ => ⟨c, read, plain_eqv_refl c plain⟩⟩⟩
  · refine ⟨⟨fun read => ?_, fun plain' => absurd plain' plain⟩, ⟨?_, fun plain' => absurd plain' plain⟩⟩
    · exact absurd rfl (parse_display_unplain c c legal plain read).1
    · rintro ⟨d, read, same⟩
      have unequal := (parse_display_unplain c d legal plain read).2
      rw [same] at unequal
      contradiction

theorem canonical_text_reads_back :
    (∀ c : Condition, c.Legal → c.ReadsBack) ∧
      (∀ source c, Condition.parse source = .ok c → c.Legal ∧ c.ReadsBack) := by
  refine ⟨legal_reads_back, fun source c read => ?_⟩
  have legal := Condition.parse_legal source c read
  exact ⟨legal, legal_reads_back c legal⟩

theorem canonical_text_reads_back_mode :
    let mode (s : String) := Condition.not (.compare .eq (.signal "mode") (.literal (.string s)))
    (Condition.parse (mode "auto").display = .ok (mode "auto")) ∧
      Condition.parse (mode "a\"b").display ≠ .ok (mode "a\"b") := by
  have legal (s : String) : (Condition.not (.compare .eq (.signal "mode") (.literal (.string s)))).Legal := by
    rw [Condition.legal_not, Condition.legal_compare, Condition.legal_signal]
    exact ⟨name_of_word 'm' "ode".toList "mode" rfl rfl rfl, Condition.legal_literal _⟩
  have plain (s : String) :
      (Condition.not (.compare .eq (.signal "mode") (.literal (.string s)))).Plain ↔ '"' ∉ s.toList := by
    rw [Condition.plain_not, Condition.plain_compare, Condition.plain_literal]
    exact ⟨And.right, fun unquoted => ⟨Condition.plain_signal _, unquoted⟩⟩
  constructor
  · exact (canonical_text_reads_back.1 _ (legal "auto")).1.mpr ((plain "auto").mpr (by decide))
  · intro read
    have unquoted := (plain "a\"b").mp ((canonical_text_reads_back.1 _ (legal "a\"b")).1.mp read)
    exact absurd unquoted (by decide)

end SignalRules
