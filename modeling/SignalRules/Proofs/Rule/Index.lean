import SignalRules.Proofs.Condition.Parts
import SignalRules.Rule.Set

set_option autoImplicit false

namespace SignalRules

def Rule.Mentions (rule : Rule) (name : String) : Prop := .signal name ∈ rule.condition.parts

theorem mentions_iff (rule : Rule) (name : String) : rule.Mentions name ↔ name ∈ rule.condition.occurrences :=
  (Condition.mem_occurrences name rule.condition).symm

instance (rule : Rule) (name : String) : Decidable (rule.Mentions name) :=
  decidable_of_iff _ (mentions_iff rule name).symm

theorem mem_signals (c : Condition) (name : String) : name ∈ c.signals ↔ name ∈ c.occurrences :=
  List.mem_eraseDups

namespace RuleIndex

theorem ids_insert (index : RuleIndex) (name other : String) (ids : List Nat) :
    RuleIndex.ids (index.insert name ids) other = if other = name then ids else index.ids other := by
  unfold RuleIndex.ids
  rw [NameMap.get?_insert]
  by_cases same : other = name
  · simp [same]
  · simp [same]

def Filled (index : RuleIndex) : Prop := ∀ name, index.get? name ≠ some []

theorem add_filled (index : RuleIndex) (id : Nat) (name : String) (filled : index.Filled) : (index.add id name).Filled := by
  intro other
  unfold add
  by_cases listed : (index.ids name).getLast? = some id
  · simpa [listed] using filled other
  · simp only [listed, if_false]
    rw [NameMap.get?_insert]
    by_cases same : other = name
    · simp [same]
    · simpa [same] using filled other

theorem add_all_filled (names : List String) (index : RuleIndex) (id : Nat) (filled : index.Filled) :
    RuleIndex.Filled (names.foldl (fun index name => index.add id name) index) := by
  induction names generalizing index with
  | nil => exact filled
  | cons name names ih => exact ih (index.add id name) (add_filled index id name filled)

theorem contains_iff_ids (index : RuleIndex) (filled : index.Filled) (name : String) :
    index.contains name = true ↔ index.ids name ≠ [] := by
  have full := filled name
  unfold NameMap.contains RuleIndex.ids
  cases found : index.get? name with
  | none => simp
  | some ids =>
    rw [found] at full
    simpa using full

theorem ids_add (index : RuleIndex) (id : Nat) (name other : String) : (index.add id name).ids other =
    if other = name ∧ (index.ids other).getLast? ≠ some id then index.ids other ++ [id] else index.ids other := by
  unfold add
  by_cases listed : (index.ids name).getLast? = some id
  · by_cases same : other = name
    · subst same
      simp [listed]
    · simp [listed, same]
  · simp only [listed, if_false]
    rw [ids_insert]
    by_cases same : other = name
    · subst same
      simp [listed]
    · simp [same]

-- A name is listed at its first addition; at a later one the id is the last of its list.
theorem ids_add_all (names : List String) (index : RuleIndex) (id : Nat) (name : String) :
    (names.foldl (fun index name => index.add id name) index).ids name =
      if name ∈ names ∧ (index.ids name).getLast? ≠ some id then index.ids name ++ [id] else index.ids name := by
  induction names generalizing index with
  | nil => simp
  | cons first names ih =>
    rw [List.foldl_cons, ih (index.add id first)]
    rw [ids_add]
    by_cases same : name = first
    · subst same
      by_cases listed : (index.ids name).getLast? = some id
      · simp [listed]
      · simp [listed]
    · simp [same]

end RuleIndex

namespace RuleSet

structure Indexed (s : RuleSet) : Prop where
  positions : ∀ (i : Nat) (rule : Rule), s.rules[i]? = some rule → rule.id = i
  listed : ∀ name, s.index.ids name = (s.rules.filter (·.Mentions name)).map Rule.id
  filled : s.index.Filled

theorem id_lt_size (s : RuleSet) (indexed : s.Indexed) (rule : Rule) (member : rule ∈ s.rules) : rule.id < s.size := by
  obtain ⟨i, bound, found⟩ := List.getElem_of_mem member
  have position := indexed.positions i rule (by rw [List.getElem?_eq_getElem bound, found])
  rw [position]
  exact bound

theorem get_id (s : RuleSet) (indexed : s.Indexed) (rule : Rule) (member : rule ∈ s.rules) : s.get? rule.id = some rule := by
  obtain ⟨i, bound, found⟩ := List.getElem_of_mem member
  have here : s.rules[i]? = some rule := by rw [List.getElem?_eq_getElem bound, found]
  rw [get?, indexed.positions i rule here, here]

theorem size_not_listed (s : RuleSet) (indexed : s.Indexed) (name : String) :
    (s.index.ids name).getLast? ≠ some s.size := by
  intro last
  have member := List.mem_of_getLast? last
  rw [indexed.listed] at member
  obtain ⟨rule, inside, id⟩ := List.mem_map.mp member
  have bound := id_lt_size s indexed rule (List.mem_filter.mp inside).1
  omega

theorem empty_indexed : empty.Indexed :=
  ⟨fun i rule found => by simp [empty] at found, fun _ => rfl, fun name => by simp [empty]⟩

theorem add_indexed (s : RuleSet) (rule : Rule) (indexed : s.Indexed) (next : rule.id = s.size) : (s.add rule).Indexed := by
  constructor
  · intro i other found
    rcases Nat.lt_trichotomy i s.rules.length with before | here | after
    · rw [add, List.getElem?_append_left before] at found
      exact indexed.positions i other found
    · subst here
      have same : rule = other := by simpa [add] using found
      rw [← same, next]
      rfl
    · simp [add, List.getElem?_append, Nat.not_lt_of_lt after, Nat.sub_ne_zero_of_lt after] at found
  · intro name
    have fresh := size_not_listed s indexed name
    have ids := RuleIndex.ids_add_all rule.condition.signals s.index rule.id name
    rw [next] at ids
    rw [add, next, ids, indexed.listed]
    by_cases mentions : rule.Mentions name
    · have read : name ∈ rule.condition.signals := (mem_signals _ name).mpr ((mentions_iff rule name).mp mentions)
      simp [read, mentions, fresh, next, ← indexed.listed]
    · have unread : name ∉ rule.condition.signals := fun read =>
        mentions ((mentions_iff rule name).mpr ((mem_signals _ name).mp read))
      simp [unread, mentions]
  · exact RuleIndex.add_all_filled rule.condition.signals s.index rule.id indexed.filled

theorem rule_eq_ok_iff (block : RuleBlock) (id : Nat) (rule : Rule) : block.rule id = .ok rule ↔
    ∃ condition emit action, block.readCondition = .ok condition ∧ block.emit = some emit ∧ emit.action = .ok action ∧
      rule = ⟨id, condition, action⟩ := by
  unfold RuleBlock.rule
  cases block.readCondition with
  | error fault => simp
  | ok condition =>
    cases block.emit with
    | none => simp
    | some emit =>
      cases acted : emit.action with
      | error fault => simp [acted]
      | ok action => simp [acted, eq_comm]

theorem rule_id (block : RuleBlock) (id : Nat) (rule : Rule) (read : block.rule id = .ok rule) : rule.id = id := by
  obtain ⟨condition, emit, action, _, _, _, rfl⟩ := (rule_eq_ok_iff block id rule).mp read
  rfl

theorem extend_indexed (blocks : List RuleBlock) (s s' : RuleSet) (indexed : s.Indexed) (extended : s.extend blocks = .ok s') :
    s'.Indexed := by
  induction blocks generalizing s with
  | nil =>
    cases extended
    exact indexed
  | cons block blocks ih =>
    cases read : block.rule s.size with
    | error fault => simp [extend, read] at extended
    | ok rule =>
      rw [extend, read] at extended
      exact ih (s.add rule) (add_indexed s rule indexed (rule_id block s.size rule read)) extended

theorem compile_indexed (blocks : List RuleBlock) (s : RuleSet) (compiled : compile blocks = .ok s) : s.Indexed :=
  extend_indexed blocks empty s empty_indexed compiled

theorem dependents_eq (s : RuleSet) (indexed : s.Indexed) (name : String) :
    s.dependents name = s.rules.filter (·.Mentions name) := by
  have found (rules : List Rule) (inside : ∀ rule ∈ rules, rule ∈ s.rules) : rules.filterMap (fun rule => s.get? rule.id) = rules := by
    induction rules with
    | nil => rfl
    | cons rule rules ih =>
      have here := get_id s indexed rule (inside rule List.mem_cons_self)
      have later := ih fun other member => inside other (List.mem_cons_of_mem rule member)
      simp [here, later]
  rw [dependents, indexed.listed, List.filterMap_map]
  exact found _ fun rule member => (List.mem_filter.mp member).1

theorem mem_dependents (s : RuleSet) (indexed : s.Indexed) (rule : Rule) (name : String) :
    rule ∈ s.dependents name ↔ rule ∈ s.rules ∧ rule.Mentions name := by
  simp [dependents_eq s indexed]

theorem ids_ascending (s : RuleSet) (indexed : s.Indexed) (p : Rule → Bool) :
    ((s.rules.filter p).map Rule.id).Pairwise (· < ·) := by
  have ordered : s.rules.Pairwise fun a b => a.id < b.id := by
    rw [List.pairwise_iff_getElem]
    intro i j left right before
    rw [indexed.positions i _ (List.getElem?_eq_getElem left), indexed.positions j _ (List.getElem?_eq_getElem right)]
    exact before
  exact List.pairwise_map.mpr (ordered.filter p)

end RuleSet
end SignalRules
