import SignalRules.Transport.Relay

set_option autoImplicit false

namespace SignalRules

namespace SourceRead

def goesOn : SourceRead → Bool
  | data bytes => !bytes.isEmpty
  | interrupted => true
  | failed _ => false

def bytes : SourceRead → List UInt8
  | data bytes => bytes
  | interrupted => []
  | failed _ => []

def reason? : SourceRead → Option String
  | data _ => none
  | interrupted => none
  | failed reason => some reason

def given (reads : List SourceRead) : List UInt8 := (reads.takeWhile goesOn).flatMap bytes

def failure? (reads : List SourceRead) : Option String := (reads.dropWhile goesOn).head?.bind reason?

end SourceRead

namespace Relay

-- Answers to polls that hand over the bytes, then report the failure, once, and then the end. They may break off anywhere.
def Tells (data : List UInt8) (failure : Option String) (answers : List Parcel) : Prop :=
  ∃ (pieces : List (List UInt8)) (left : List UInt8), data = pieces.flatten ++ left ∧ [] ∉ pieces ∧
    (answers = pieces.map .ok ∨ left = [] ∧ ∃ ends,
      answers = pieces.map .ok ++ failure.toList.map .error ++ List.replicate ends (.ok []))

inductive Takes : List UInt8 → Option String → Parcel → List UInt8 → Option String → Prop where
  | piece (piece left : List UInt8) (failure : Option String) :
      piece ≠ [] → Takes (piece ++ left) failure (.ok piece) left failure
  | failure (reason : String) : Takes [] (some reason) (.error reason) [] none
  | ended : Takes [] none (.ok []) [] none

theorem tells_nothing (data : List UInt8) (failure : Option String) : Tells data failure [] :=
  ⟨[], data, rfl, List.not_mem_nil, .inl rfl⟩

theorem nothing_left (pieces : List (List UInt8)) (left : List UInt8) (filled : [] ∉ pieces)
    (enough : (pieces.flatten ++ left).length ≤ pieces.length) : left = [] := by
  have counted : pieces.length ≤ pieces.flatten.length := by
    clear enough
    induction pieces with
    | nil => exact Nat.le_refl _
    | cons piece pieces ih =>
      have one := List.length_pos_iff.mpr (List.ne_of_not_mem_cons filled).symm
      have more := ih (List.not_mem_of_not_mem_cons filled)
      rw [List.length_cons, List.flatten_cons, List.length_append]
      omega
  rw [List.length_append] at enough
  exact List.eq_nil_of_length_eq_zero (by omega)

theorem told_out (answers : List Parcel) (told : Tells [] none answers) :
    ∃ ends, answers = List.replicate ends (.ok []) := by
  obtain ⟨pieces, left, data, filled, answered⟩ := told
  have nothing : pieces = [] := by
    apply List.eq_nil_iff_forall_not_mem.mpr
    intro piece member
    have blank := List.flatten_eq_nil_iff.mp (List.append_eq_nil_iff.mp data.symm).1 piece member
    exact filled (blank ▸ member)
  subst nothing
  rcases answered with rfl | ⟨_, ends, rfl⟩
  · exact ⟨0, rfl⟩
  · exact ⟨ends, rfl⟩

theorem takes_tells (data data' : List UInt8) (failure failure' : Option String) (answer : Parcel) (answers : List Parcel)
    (taken : Takes data failure answer data' failure') (later : Tells data' failure' answers) :
    Tells data failure (answer :: answers) := by
  cases taken with
  | piece piece _ _ filled =>
    obtain ⟨pieces, left, rfl, others, answered⟩ := later
    refine ⟨piece :: pieces, left, ?_, ?_, ?_⟩
    · rw [List.flatten_cons, List.append_assoc]
    · exact List.not_mem_cons_of_ne_of_not_mem filled.symm others
    · rcases answered with rfl | ⟨rfl, ends, rfl⟩
      · exact .inl rfl
      · exact .inr ⟨rfl, ends, rfl⟩
  | failure reason =>
    obtain ⟨ends, rfl⟩ := told_out answers later
    exact ⟨[], [], rfl, List.not_mem_nil, .inr ⟨rfl, ends, rfl⟩⟩
  | ended =>
    obtain ⟨ends, rfl⟩ := told_out answers later
    exact ⟨[], [], rfl, List.not_mem_nil, .inr ⟨rfl, ends + 1, rfl⟩⟩

-- What is left in a relay: the bytes that are pending, those of the queue, and behind them the failure.
def Holds (r : Relay) (data : List UInt8) (failure : Option String) : Prop :=
  ∃ chunks : List (List UInt8), r.parcels = chunks.map .ok ++ failure.toList.map .error ∧
    data = r.pending.drop r.offset ++ chunks.flatten

theorem forward_given (reads : List SourceRead) : ∃ chunks : List (List UInt8),
    forward reads = chunks.map .ok ++ (SourceRead.failure? reads).toList.map .error ∧
      SourceRead.given reads = chunks.flatten := by
  induction reads with
  | nil => exact ⟨[], rfl, rfl⟩
  | cons read reads ih =>
    obtain ⟨chunks, queued, given⟩ := ih
    cases read with
    | data bytes =>
      cases bytes with
      | nil => exact ⟨[], rfl, rfl⟩
      | cons b bytes => exact ⟨(b :: bytes) :: chunks, congrArg _ queued, congrArg _ given⟩
    | interrupted => exact ⟨chunks, queued, given⟩
    | failed reason => exact ⟨[], rfl, rfl⟩

theorem start_holds (reads : List SourceRead) :
    (start reads).Holds (SourceRead.given reads) (SourceRead.failure? reads) := forward_given reads

theorem drop_served (capacity : Nat) (r : Relay) :
    (r.serve capacity).2.pending.drop (r.serve capacity).2.offset = (r.pending.drop r.offset).drop capacity := by
  rw [List.drop_drop]
  simp only [serve]
  rcases Nat.le_total (r.pending.length - r.offset) capacity with beyond | within
  · rw [Nat.min_eq_left beyond, List.drop_eq_nil_of_le (by omega), List.drop_eq_nil_of_le (by omega)]
  · rw [Nat.min_eq_right within]

theorem serve_takes (capacity : Nat) (r : Relay) (data : List UInt8) (failure : Option String) (roomy : 0 < capacity)
    (pending : r.offset < r.pending.length) (holds : r.Holds data failure) :
    ∃ data', Takes data failure (r.serve capacity).1 data' failure ∧ (r.serve capacity).2.Holds data' failure := by
  obtain ⟨chunks, queued, rfl⟩ := holds
  have filled : (r.pending.drop r.offset).take capacity ≠ [] := by
    apply List.ne_nil_of_length_pos
    rw [List.length_take, List.length_drop]
    omega
  have taken := Takes.piece _ ((r.pending.drop r.offset).drop capacity ++ chunks.flatten) failure filled
  rw [← List.append_assoc, List.take_append_drop] at taken
  exact ⟨_, taken, chunks, queued, by rw [drop_served]⟩

theorem openNext_takes (capacity : Nat) (roomy : 0 < capacity) (chunks : List (List UInt8)) (failure : Option String) :
    let (answer, r) := openNext capacity (chunks.map .ok ++ failure.toList.map .error)
    ∃ data' failure', Takes chunks.flatten failure answer data' failure' ∧ r.Holds data' failure' := by
  induction chunks with
  | nil =>
    cases failure with
    | none => exact ⟨[], none, .ended, [], rfl, rfl⟩
    | some reason => exact ⟨[], none, .failure reason, [], rfl, rfl⟩
  | cons chunk chunks ih =>
    cases chunk with
    | nil => exact ih
    | cons b bytes =>
      obtain ⟨data', taken, holds⟩ := serve_takes capacity ⟨chunks.map .ok ++ failure.toList.map .error, b :: bytes, 0⟩
        _ failure roomy (Nat.succ_pos bytes.length) ⟨chunks, rfl, rfl⟩
      exact ⟨data', failure, taken, holds⟩

theorem poll_takes (capacity : Nat) (r : Relay) (data : List UInt8) (failure : Option String) (roomy : 0 < capacity)
    (holds : r.Holds data failure) :
    ∃ data' failure', Takes data failure (r.poll capacity).1 data' failure' ∧ (r.poll capacity).2.Holds data' failure' := by
  rw [poll]
  split
  · next pending =>
    obtain ⟨data', taken, left⟩ := serve_takes capacity r data failure roomy pending holds
    exact ⟨data', failure, taken, left⟩
  · next spent =>
    obtain ⟨chunks, queued, rfl⟩ := holds
    rw [queued, List.drop_eq_nil_of_le (Nat.le_of_not_lt spent)]
    exact openNext_takes capacity roomy chunks failure

theorem openNext_fits (capacity : Nat) (parcels : List Parcel) (bytes : List UInt8)
    (answered : (openNext capacity parcels).1 = .ok bytes) : bytes.length ≤ capacity := by
  fun_induction openNext capacity parcels with
  | case1 =>
    cases answered
    exact Nat.zero_le capacity
  | case2 reason rest => cases answered
  | case3 chunk rest blank ih => exact ih answered
  | case4 chunk rest filled =>
    cases answered
    exact List.length_take_le _ _

theorem poll_fits (capacity : Nat) (r : Relay) (bytes : List UInt8) (answered : (r.poll capacity).1 = .ok bytes) :
    bytes.length ≤ capacity := by
  rw [poll] at answered
  split at answered
  · cases answered
    exact List.length_take_le _ _
  · exact openNext_fits capacity r.parcels bytes answered

def answers (r : Relay) : List Nat → List Parcel
  | [] => []
  | capacity :: capacities => (r.poll capacity).1 :: (r.poll capacity).2.answers capacities

theorem answers_tell (capacities : List Nat) (r : Relay) (data : List UInt8) (failure : Option String)
    (roomy : ∀ capacity ∈ capacities, 0 < capacity) (holds : r.Holds data failure) :
    Tells data failure (r.answers capacities) := by
  induction capacities generalizing r data failure with
  | nil => exact tells_nothing data failure
  | cons capacity capacities ih =>
    obtain ⟨first, later⟩ := List.forall_mem_cons.mp roomy
    obtain ⟨data', failure', taken, left⟩ := poll_takes capacity r data failure first holds
    exact takes_tells _ _ _ _ _ _ taken (ih _ data' failure' later left)

def weight (parcel : Parcel) : Nat := parcel.toOption.elim 1 List.length

theorem size_cons (parcel : Parcel) (parcels : List Parcel) (pending : List UInt8) (offset : Nat) :
    size ⟨parcel :: parcels, pending, offset⟩ = weight parcel + size ⟨parcels, pending, offset⟩ := rfl

theorem size_holds (r : Relay) (data : List UInt8) (failure : Option String) (holds : r.Holds data failure) :
    r.size = data.length + failure.toList.length := by
  obtain ⟨parcels, pending, offset⟩ := r
  obtain ⟨chunks, rfl, rfl⟩ := holds
  simp only [List.length_append, List.length_drop]
  induction chunks with
  | nil =>
    cases failure with
    | none => rfl
    | some reason => exact Nat.add_comm _ _
  | cons chunk chunks ih =>
    have first : weight (.ok chunk) = chunk.length := rfl
    rw [List.map_cons, List.cons_append, size_cons, ih, first, List.flatten_cons, List.length_append]
    omega

def ending (failure : Option String) : FeedEnd := failure.elim .closed .failsOnce

theorem drain_succ (capacity fuel : Nat) (r : Relay) : r.drain capacity (fuel + 1) =
    match r.poll capacity with
    | (.error reason, _) => ([], .failsOnce reason)
    | (.ok bytes, rest) =>
      if bytes.isEmpty then ([], .closed) else (bytes ++ (rest.drain capacity fuel).1, (rest.drain capacity fuel).2) := by
  cases polled : r.poll capacity with
  | mk answer rest =>
    rw [drain.eq_def, polled]
    cases answer <;> rfl

theorem drain_holds (capacity fuel : Nat) (r : Relay) (data : List UInt8) (failure : Option String)
    (roomy : 0 < capacity) (enough : data.length < fuel) (holds : r.Holds data failure) :
    r.drain capacity fuel = (data, ending failure) := by
  induction fuel generalizing r data with
  | zero => exact absurd enough (Nat.not_lt_zero _)
  | succ fuel ih =>
    obtain ⟨data', failure', taken, left⟩ := poll_takes capacity r data failure roomy holds
    rw [drain_succ]
    generalize r.poll capacity = polled at taken left
    obtain ⟨answer, rest⟩ := polled
    cases taken with
    | piece piece _ _ filled =>
      have shorter := List.length_pos_iff.mpr filled
      rw [List.length_append] at enough
      simp only [List.isEmpty_iff, if_neg filled, ih rest data' (by omega) left]
    | failure reason => rfl
    | ended => rfl

-- The line transport gets what the source gives, to the last byte.
theorem feed_given (name : String) (reads : List SourceRead) :
    feed name reads = ⟨name, SourceRead.given reads, ending (SourceRead.failure? reads)⟩ := by
  have holds := start_holds reads
  have size := size_holds _ _ _ holds
  rw [feed, drain_holds bufferSize _ _ _ _ (by decide) (by omega) holds]

end Relay

end SignalRules
