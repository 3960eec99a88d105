import SignalRules.Proofs.Condition.RoundTrip
import SignalRules.Proofs.Rule.Compilation

set_option autoImplicit false

namespace SignalRules

structure RuleSet.Exact (blocks : List RuleBlock) (s : RuleSet) : Prop where
  size : s.size = blocks.length
  declared : ∀ (i : Nat) (block : RuleBlock) (rule : Rule), blocks[i]? = some block → s.get? i = some rule →
    block.rule i = .ok rule
  positions : ∀ i, i < s.size → ∃ rule, s.get? i = some rule ∧ rule.id = i
  ascending : ∀ name, (s.index.ids name).Pairwise (· < ·)
  listed : ∀ name id, id ∈ s.index.ids name ↔ ∃ rule, s.get? id = some rule ∧ rule.Mentions name
  contained : ∀ name, s.index.contains name = true ↔ s.index.ids name ≠ []
  sorted : s.watched.Pairwise (· < ·)
  watched : ∀ name, name ∈ s.watched ↔ ∃ rule ∈ s.rules, rule.Mentions name
  dependents : ∀ name, (s.dependents name).map some = (s.index.ids name).map s.get?

namespace RuleSet

theorem mem_ids (s : RuleSet) (indexed : s.Indexed) (name : String) (id : Nat) :
    id ∈ s.index.ids name ↔ ∃ rule, s.get? id = some rule ∧ rule.Mentions name := by
  rw [indexed.listed]
  constructor
  · intro member
    obtain ⟨rule, inside, rfl⟩ := List.mem_map.mp member
    obtain ⟨inside, mentions⟩ := List.mem_filter.mp inside
    exact ⟨rule, get_id s indexed rule inside, of_decide_eq_true mentions⟩
  · rintro ⟨rule, found, mentions⟩
    have inside : rule ∈ s.rules.filter (·.Mentions name) :=
      List.mem_filter.mpr ⟨List.mem_of_getElem? found, decide_eq_true mentions⟩
    exact List.mem_map.mpr ⟨rule, inside, indexed.positions id rule found⟩

theorem mem_watched (s : RuleSet) (indexed : s.Indexed) (name : String) :
    name ∈ s.watched ↔ ∃ rule ∈ s.rules, rule.Mentions name := by
  rw [watched, NameMap.mem_names, RuleIndex.contains_iff_ids s.index indexed.filled, indexed.listed]
  simp

theorem dependents_listed (s : RuleSet) (indexed : s.Indexed) (name : String) :
    (s.dependents name).map some = (s.index.ids name).map s.get? := by
  rw [dependents_eq s indexed, indexed.listed, List.map_map]
  refine List.map_congr_left fun rule member => ?_
  exact (get_id s indexed rule (List.mem_filter.mp member).1).symm

end RuleSet

theorem index_is_exact (blocks : List RuleBlock) (s : RuleSet) (compiled : RuleSet.compile blocks = .ok s) :
    s.Exact blocks := by
  have indexed := RuleSet.compile_indexed blocks s compiled
  obtain ⟨length, each⟩ := declared_each blocks 0 s.rules (RuleSet.compile_declared blocks s compiled)
  constructor
  · exact length
  · intro i block rule here there
    simpa using each i block rule here there
  · intro i inside
    have found : s.get? i = some (s.rules.get ⟨i, inside⟩) := List.getElem?_eq_getElem inside
    exact ⟨_, found, indexed.positions i _ found⟩
  · intro name
    rw [indexed.listed]
    exact RuleSet.ids_ascending s indexed _
  · exact RuleSet.mem_ids s indexed
  · exact RuleIndex.contains_iff_ids s.index indexed.filled
  · exact NameMap.names_sorted s.index
  · exact RuleSet.mem_watched s indexed
  · exact RuleSet.dependents_listed s indexed

-- A name that stands twice in a condition, and a longer one that begins with another.
def hatchBlocks : List RuleBlock :=
  [⟨some (.text "b and (a or not b)"), some ⟨some "open", some (.bool true), none, []⟩, []⟩,
    ⟨some (.text "a.b"), some ⟨some "level", some (.bool true), some (.integer 20), []⟩, []⟩,
    ⟨some (.text "b"), some ⟨some "b", some (.bool false), none, []⟩, []⟩]

def hatchCondition : Condition := .join .and [.signal "b", .join .or [.signal "a", .not (.signal "b")]]

def hatchRules : RuleSet :=
  ((RuleSet.empty.add ⟨0, hatchCondition, ⟨"open", .bool true, none⟩⟩).add
    ⟨1, .signal "a.b", ⟨"level", .bool true, some 20⟩⟩).add ⟨2, .signal "b", ⟨"b", .bool false, none⟩⟩

theorem compile_hatch : RuleSet.compile hatchBlocks = .ok hatchRules := by
  have a : IsName "a" := name_of_word 'a' [] "a" rfl rfl rfl
  have b : IsName "b" := name_of_word 'b' [] "b" rfl rfl rfl
  have dotted : IsName "a.b" := name_of_word 'a' ".b".toList "a.b" rfl rfl rfl
  have legal : hatchCondition.Legal := by
    simp [hatchCondition, Condition.legal_join, Condition.legal_not, Condition.legal_signal, a, b]
  have plain : hatchCondition.Plain := by
    simp [hatchCondition, Condition.plain_join, Condition.plain_not, Condition.plain_signal]
  have first : Condition.parse "b and (a or not b)" = .ok hatchCondition := parse_display_plain hatchCondition legal plain
  simp only [hatchBlocks, RuleSet.compile, RuleSet.extend, RuleBlock.rule, RuleBlock.readCondition,
    Yaml.Datum.scalarText?, Yaml.Datum.untagged, first, parse_name "a.b" dotted, parse_name "b" b]
  rfl

theorem index_is_exact_hatch :
    RuleSet.compile hatchBlocks = .ok hatchRules ∧ hatchRules.Exact hatchBlocks ∧
      hatchRules.watched = ["a", "a.b", "b"] ∧ hatchRules.index.ids "b" = [0, 2] :=
  ⟨compile_hatch, index_is_exact hatchBlocks hatchRules compile_hatch, by decide, by decide⟩

end SignalRules
