import SignalRules.Proofs.Condition.ReaderComplete

set_option autoImplicit false

namespace SignalRules

-- Token lists that no condition has: two comparators around one operand, `not` after a comparator, unequal
-- parentheses, and a whole condition followed by what cannot continue it.
inductive Misformed : List Token → Prop where
  | chainedComparison (ps xs ys zs : List Token) (x y : Condition) (op op' : Comparator) (left : Derives .operand xs x)
      (middle : Derives .operand ys y) : Misformed (ps ++ (xs ++ .compare op :: (ys ++ .compare op' :: zs)))
  | comparedNegation (ps zs : List Token) (op : Comparator) : Misformed (ps ++ .compare op :: .not :: zs)
  | unbalanced (ts : List Token) (unequal : ts.count .opening ≠ ts.count .closing) : Misformed ts
  | trailing (ts zs : List Token) (c : Condition) (token : Token) (whole : Derives (.chain .or) ts c)
      (connective : ∀ op : Connective, token ≠ op.token) (comparator : ∀ op, token ≠ .compare op) :
      Misformed (ts ++ token :: zs)

theorem feed_operand_stuck (e : OpenExpression) (outer : List OpenExpression) (last : Condition) (xs us : List Token)
    (x : Condition) (operand : Derives .operand xs x) :
    ∃ fault, ConditionReader.feed ⟨e, outer, some last⟩ (xs ++ us) = .error fault := by
  cases operand with
  | signal name => exact ⟨_, rfl⟩
  | literal value => exact ⟨_, rfl⟩
  | parenthesized ts _ inner => exact ⟨_, rfl⟩

theorem feed_comparator_stuck (e : OpenExpression) (outer : List OpenExpression) (pair : Condition × Comparator)
    (last : Condition) (op : Comparator) (us : List Token) :
    ConditionReader.feed ⟨{ e with comparing := some pair }, outer, some last⟩ (.compare op :: us) = .error .chainedComparison :=
  rfl

theorem feed_comparator (r : ConditionReader) (op : Comparator) (us : List Token) :
    (∃ fault, r.feed (.compare op :: us) = .error fault) ∨
      ∃ last, r.feed (.compare op :: us) =
        ConditionReader.feed ⟨{ r.current with comparing := some (last, op) }, r.outer, none⟩ us := by
  obtain ⟨⟨a, b, n, left⟩, outer, operand⟩ := r
  cases operand with
  | none => exact .inl ⟨_, rfl⟩
  | some last =>
    cases left with
    | none => exact .inr ⟨last, rfl⟩
    | some pair => exact .inl ⟨_, rfl⟩

theorem feed_chained_stuck (r : ConditionReader) (xs ys zs : List Token) (x y : Condition) (op op' : Comparator)
    (left : Derives .operand xs x) (middle : Derives .operand ys y) :
    ∃ fault, r.feed (xs ++ .compare op :: (ys ++ .compare op' :: zs)) = .error fault := by
  obtain ⟨e, outer, operand⟩ := r
  cases operand with
  | some last => exact feed_operand_stuck e outer last xs _ x left
  | none =>
    rw [ConditionReader.feed_through _ _ _ _ (derives_reached .operand xs x left e outer)]
    rcases feed_comparator ⟨e, outer, some x⟩ op (ys ++ .compare op' :: zs) with stuck | ⟨last, read⟩
    · exact stuck
    · rw [read, ConditionReader.feed_through _ _ _ _ (derives_reached .operand ys y middle _ outer)]
      exact ⟨_, feed_comparator_stuck e outer (last, op) y op' zs⟩

theorem feed_negation_stuck (r : ConditionReader) (zs : List Token) (op : Comparator) :
    ∃ fault, r.feed (.compare op :: .not :: zs) = .error fault := by
  rcases feed_comparator r op (.not :: zs) with stuck | ⟨last, read⟩
  · exact stuck
  · rw [read]
    exact ⟨_, rfl⟩

theorem not_derives_of_stuck (ps us : List Token) (c : Condition)
    (stuck : ∀ r : ConditionReader, ∃ fault, r.feed us = .error fault) : ¬Derives (.chain .or) (ps ++ us) c := by
  intro derived
  obtain ⟨r, read, -⟩ := (ConditionReader.feed_finish_iff _ c).mpr derived
  rw [ConditionReader.feed_append] at read
  cases middle : ConditionReader.start.feed ps with
  | error fault => simp [middle, Except.bind] at read
  | ok r' =>
    obtain ⟨fault, refused⟩ := stuck r'
    simp [middle, Except.bind, refused] at read

theorem trailing_not_derives (ts zs : List Token) (c d : Condition) (token : Token) (whole : Derives (.chain .or) ts c)
    (connective : ∀ op : Connective, token ≠ op.token) (comparator : ∀ op, token ≠ .compare op) :
    ¬Derives (.chain .or) (ts ++ token :: zs) d := by
  intro derived
  obtain ⟨r, read, -⟩ := (ConditionReader.feed_finish_iff _ d).mpr derived
  obtain ⟨e, last, reached, -⟩ := derives_reached (.chain .or) ts c whole []
  rw [ConditionReader.feed_through ConditionReader.start _ _ _ reached] at read
  cases token with
  | and => exact connective .and rfl
  | or => exact connective .or rfl
  | compare op => exact comparator op rfl
  | signal name => cases read
  | literal value => cases read
  | not => cases read
  | opening => cases read
  | closing => cases read

theorem misformed_not_derives (ts : List Token) (c : Condition) (misformed : Misformed ts) : ¬Derives (.chain .or) ts c := by
  cases misformed with
  | chainedComparison ps xs ys zs x y op op' left middle =>
    exact not_derives_of_stuck ps _ c fun r => feed_chained_stuck r xs ys zs x y op op' left middle
  | comparedNegation ps zs op => exact not_derives_of_stuck ps _ c fun r => feed_negation_stuck r zs op
  | unbalanced _ unequal => exact fun derived => unequal (derives_balanced (.chain .or) ts c derived)
  | trailing ts zs c' token whole connective comparator =>
    exact trailing_not_derives ts zs c' c token whole connective comparator

theorem ofTokens_refuses (length : Nat) (tokens : List (Nat × Token))
    (underivable : ∀ c, ¬Derives (.chain .or) (tokens.map (·.2)) c) : ∃ e, Condition.ofTokens length tokens = .error e := by
  cases read : Condition.ofTokens length tokens with
  | error e => exact ⟨e, rfl⟩
  | ok c => exact absurd ((Condition.ofTokens_eq_ok_iff length tokens c).mp read) (underivable c)

theorem reader_decides_grammar (length : Nat) (tokens : List (Nat × Token)) :
    (∀ c, Condition.ofTokens length tokens = .ok c ↔ Derives (.chain .or) (tokens.map (·.2)) c) ∧
      (∀ c d, Derives (.chain .or) (tokens.map (·.2)) c → Derives (.chain .or) (tokens.map (·.2)) d → c = d) ∧
      ((∀ c, ¬Derives (.chain .or) (tokens.map (·.2)) c) → ∃ e, Condition.ofTokens length tokens = .error e) ∧
      (Misformed (tokens.map (·.2)) → ∃ e, Condition.ofTokens length tokens = .error e) := by
  have exact_tree := Condition.ofTokens_eq_ok_iff length tokens
  refine ⟨exact_tree, ?_, ofTokens_refuses length tokens, ?_⟩
  · intro c d first second
    have same := ((exact_tree c).mpr first).symm.trans ((exact_tree d).mpr second)
    exact Except.ok.inj same
  · intro misformed
    exact ofTokens_refuses length tokens fun c => misformed_not_derives _ c misformed

theorem reader_decides_grammar_chained :
    ∃ e, Condition.ofTokens 9 [(0, .literal (.int 1)), (2, .compare .lt), (4, .signal "x"), (6, .compare .lt),
      (8, .literal (.int 5))] = .error e :=
  (reader_decides_grammar 9 _).2.2.2
    (.chainedComparison [] [.literal (.int 1)] [.signal "x"] [.literal (.int 5)] _ _ .lt .lt (.literal (.int 1)) (.signal "x"))

end SignalRules
