import Mathlib.Logic.Relation
import SignalRules.Proofs.Condition.Kleene

set_option autoImplicit false

namespace SignalRules

namespace Connective

theorem pick_assoc (op : Connective) (s t u : Truth) : op.pick (op.pick s t) u = op.pick s (op.pick t u) := by
  cases op <;> cases s <;> cases t <;> cases u <;> rfl

theorem pick_comm (op : Connective) (s t : Truth) : op.pick s t = op.pick t s := by
  cases op <;> cases s <;> cases t <;> rfl

theorem pick_neutral (op : Connective) (t : Truth) : op.pick op.neutral t = t := by
  cases op <;> cases t <;> rfl

theorem pick_left_comm (op : Connective) (s t u : Truth) : op.pick s (op.pick t u) = op.pick t (op.pick s u) := by
  rw [← pick_assoc, pick_comm op s t, pick_assoc]

@[simp] theorem extreme_cons (op : Connective) (t : Truth) (ts : List Truth) :
    op.extreme (t :: ts) = op.pick t (op.extreme ts) := rfl

theorem extreme_append (op : Connective) (ss ts : List Truth) :
    op.extreme (ss ++ ts) = op.pick (op.extreme ss) (op.extreme ts) := by
  induction ss with
  | nil => exact (pick_neutral op _).symm
  | cons s ss ih => rw [List.cons_append, extreme_cons, extreme_cons, ih, pick_assoc]

theorem extreme_perm (op : Connective) (ss ts : List Truth) (same : ss.Perm ts) : op.extreme ss = op.extreme ts :=
  same.foldr_eq' (fun s _ t _ rest => pick_left_comm op t s rest) op.neutral

end Connective

namespace Condition

inductive Rearranges : Condition → Condition → Prop where
  | permute (op : Connective) (cs ds : List Condition) (same : cs.Perm ds) : Rearranges (join op cs) (join op ds)
  | splice (op : Connective) (front inner back : List Condition) :
      Rearranges (join op (front ++ join op inner :: back)) (join op (front ++ inner ++ back))
  | group (op : Connective) (front inner back : List Condition) :
      Rearranges (join op (front ++ inner ++ back)) (join op (front ++ join op inner :: back))
  | operand (op : Connective) (front back : List Condition) (c d : Condition) (inside : Rearranges c d) :
      Rearranges (join op (front ++ c :: back)) (join op (front ++ d :: back))
  | negated (c d : Condition) (inside : Rearranges c d) : Rearranges (not c) (not d)
  | left (op : Comparator) (l l' r : Condition) (inside : Rearranges l l') : Rearranges (compare op l r) (compare op l' r)
  | right (op : Comparator) (l r r' : Condition) (inside : Rearranges r r') : Rearranges (compare op l r) (compare op l r')

def Rearranged : Condition → Condition → Prop := Relation.ReflTransGen Rearranges

def Alike (store : Store) (c d : Condition) : Prop := side store c (truth store c) = side store d (truth store d)

theorem alike_truth (store : Store) (c d : Condition) (alike : Alike store c d) : truth store c = truth store d := by
  rw [← truth_of_side store c, alike, truth_of_side]

theorem truth_all_map (store : Store) (cs : List Condition) : truthAll store cs = cs.map (truth store) := by
  induction cs with
  | nil => rfl
  | cons c cs ih => rw [truthAll, ih, List.map_cons]

theorem join_alike (store : Store) (op : Connective) (cs ds : List Condition)
    (same : op.extreme (truthAll store cs) = op.extreme (truthAll store ds)) : Alike store (join op cs) (join op ds) :=
  congrArg Truth.value? same

theorem extreme_spliced (store : Store) (op : Connective) (front inner back : List Condition) :
    op.extreme (truthAll store (front ++ join op inner :: back)) =
      op.extreme (truthAll store (front ++ inner ++ back)) := by
  simp only [truth_all_map, List.map_append, List.map_cons, truth, Connective.extreme_append, Connective.extreme_cons,
    Connective.pick_assoc]

theorem rearranges_alike (store : Store) (c d : Condition) (rearranges : Rearranges c d) : Alike store c d := by
  induction rearranges with
  | permute op cs ds same =>
    apply join_alike
    rw [truth_all_map, truth_all_map]
    exact op.extreme_perm _ _ (same.map (truth store))
  | splice op front inner back => exact join_alike store op _ _ (extreme_spliced store op front inner back)
  | group op front inner back => exact join_alike store op _ _ (extreme_spliced store op front inner back).symm
  | operand op front back c d _ ih =>
    apply join_alike
    simp only [truth_all_map, List.map_append, List.map_cons, alike_truth store c d ih]
  | negated c d _ ih =>
    change (truth store (not c)).value? = (truth store (not d)).value?
    rw [truth, truth, alike_truth store c d ih]
  | left op l l' r _ ih =>
    change (truth store (compare op l r)).value? = (truth store (compare op l' r)).value?
    rw [truth, truth, ih]
  | right op l r r' _ ih =>
    change (truth store (compare op l r)).value? = (truth store (compare op l r')).value?
    rw [truth, truth, ih]

theorem rearranged_alike (store : Store) (c d : Condition) (rearranged : Rearranged c d) : Alike store c d := by
  induction rearranged with
  | refl => rfl
  | tail _ last ih => exact ih.trans (rearranges_alike store _ _ last)

end Condition

theorem evaluation_order_is_immaterial (c d : Condition) (rearranged : c.Rearranged d) (store : Store) :
    Truth.ofVerdict (c.evaluate store) = Truth.ofVerdict (d.evaluate store) := by
  have verdict (e : Condition) : Truth.ofVerdict (e.evaluate store) = e.truth store := Condition.truth_in store .condition e
  rw [verdict, verdict, Condition.alike_truth store c d (Condition.rearranged_alike store c d rearranged)]

-- `(fault and (door and alarm)) == door`
def groupedCondition : Condition :=
  .compare .eq (.join .and [.signal "fault", .join .and [.signal "door", .signal "alarm"]]) (.signal "door")

-- `(alarm and fault and door) == door`
def flatCondition : Condition :=
  .compare .eq (.join .and [.signal "alarm", .signal "fault", .signal "door"]) (.signal "door")

theorem grouped_flat : groupedCondition.Rearranged flatCondition := by
  have spliced := Condition.Rearranges.splice .and [.signal "fault"] [.signal "door", .signal "alarm"] []
  have moved := List.perm_append_singleton (Condition.signal "alarm") [.signal "fault", .signal "door"]
  have permuted := Condition.Rearranges.permute .and _ _ moved
  exact .tail (.single (.left .eq _ _ (.signal "door") spliced)) (.left .eq _ _ (.signal "door") permuted)

theorem evaluation_order_is_immaterial_door :
    let opened : Store := NameMap.empty.insert "door" (.bool true)
    let closed : Store := NameMap.empty.insert "door" (.bool false)
    groupedCondition.Rearranged flatCondition ∧
      Truth.ofVerdict (groupedCondition.evaluate opened) = Truth.ofVerdict (flatCondition.evaluate opened) ∧
      Truth.ofVerdict (groupedCondition.evaluate closed) = Truth.ofVerdict (flatCondition.evaluate closed) ∧
      groupedCondition.evaluate opened = .error (.missing "fault") ∧
      flatCondition.evaluate opened = .error (.missing "alarm") ∧ groupedCondition.evaluate closed = .ok true :=
  ⟨grouped_flat, evaluation_order_is_immaterial _ _ grouped_flat _, evaluation_order_is_immaterial _ _ grouped_flat _,
    rfl, rfl, rfl⟩

end SignalRules
