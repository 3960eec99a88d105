import SignalRules.Proofs.Transport.Relaying
import SignalRules.Transport.Handoff

set_option autoImplicit false

namespace SignalRules

namespace Courier

def upcoming (source : List SourceRead) : Courier → List Parcel
  | reading => Relay.forward source
  | posting (.ok bytes) => .ok bytes :: Relay.forward source
  | posting (.error reason) => [.error reason]
  | leaving => []
  | gone => []

def steps (source : List SourceRead) : Courier → Nat
  | reading => 2 * source.length + 2
  | posting (.ok _) => 2 * source.length + 3
  | posting (.error _) => 2
  | leaving => 1
  | gone => 0

theorem upcoming_read (source : List SourceRead) :
    (afterRead source.head?).upcoming source.tail = Relay.forward source := by
  cases source with
  | nil => rfl
  | cons read source =>
    cases read with
    | data bytes => cases bytes <;> rfl
    | interrupted => rfl
    | failed reason => rfl

theorem upcoming_post (source : List SourceRead) (parcel : Parcel) :
    (posting parcel).upcoming source = parcel :: (afterPost parcel).upcoming source := by
  cases parcel <;> rfl

theorem read_filled (read : Option SourceRead) : afterRead read ≠ posting (.ok []) := by
  match read with
  | none | some .interrupted | some (.failed _) => simp [afterRead]
  | some (.data bytes) => cases bytes <;> simp [afterRead]

theorem steps_read (source : List SourceRead) : (afterRead source.head?).steps source.tail < reading.steps source := by
  cases source with
  | nil => exact Nat.one_lt_two
  | cons read source =>
    cases read with
    | data bytes =>
      cases bytes with
      | nil => exact Nat.lt_add_left _ Nat.one_lt_two
      | cons b bytes =>
        simp only [afterRead, List.isEmpty_cons, List.head?_cons, List.tail_cons, steps, List.length_cons]
        exact Nat.lt_succ_self _
    | interrupted => simp [afterRead, steps]
    | failed reason => simp [afterRead, steps]

theorem steps_post (source : List SourceRead) (parcel : Parcel) :
    (afterPost parcel).steps source < (posting parcel).steps source := by
  cases parcel <;> simp [afterPost, steps]

end Courier

namespace Relay

def behind (r : Relay) (parcels : List Parcel) : Relay := { r with parcels := r.parcels ++ parcels }

theorem openNext_behind (capacity : Nat) (parcels later : List Parcel) (stocked : size ⟨parcels, [], 0⟩ ≠ 0) :
    openNext capacity (parcels ++ later) =
      ((openNext capacity parcels).1, (openNext capacity parcels).2.behind later) := by
  induction parcels with
  | nil => exact absurd rfl stocked
  | cons parcel parcels ih =>
    cases parcel with
    | error reason => rfl
    | ok bytes =>
      cases bytes with
      | nil => exact ih (by simpa [size, Except.toOption] using stocked)
      | cons b bytes => rfl

theorem poll_behind (capacity : Nat) (r : Relay) (later : List Parcel) (stocked : r.size ≠ 0) :
    (r.behind later).poll capacity = ((r.poll capacity).1, (r.poll capacity).2.behind later) := by
  have whole : (r.behind later).poll capacity =
      if r.offset < r.pending.length then (r.behind later).serve capacity else openNext capacity (r.parcels ++ later) := rfl
  rw [whole, poll]
  split
  · rfl
  · next spent =>
    rw [size, Nat.sub_eq_zero_of_le (Nat.le_of_not_lt spent)] at stocked
    exact openNext_behind capacity r.parcels later stocked

theorem pending_le_size (r : Relay) : r.pending.length - r.offset ≤ r.size := by
  obtain ⟨parcels, pending, offset⟩ := r
  induction parcels with
  | nil => exact Nat.le_refl _
  | cons parcel parcels ih => exact Nat.le_trans ih (Nat.le_add_left _ _)

theorem size_behind (r : Relay) (later : List Parcel) : r.size ≤ (r.behind later).size := by
  obtain ⟨parcels, pending, offset⟩ := r
  induction parcels with
  | nil => exact pending_le_size ⟨later, pending, offset⟩
  | cons parcel parcels ih => exact Nat.add_le_add_left ih (weight parcel)

theorem openNext_parcels (capacity : Nat) (parcels : List Parcel) : (openNext capacity parcels).2.parcels <:+ parcels := by
  fun_induction openNext capacity parcels with
  | case1 => exact List.suffix_rfl
  | case2 reason rest => exact List.suffix_cons _ rest
  | case3 bytes rest blank ih => exact ih.trans (List.suffix_cons _ rest)
  | case4 bytes rest filled => exact List.suffix_cons _ rest

theorem poll_parcels (capacity : Nat) (r : Relay) : (r.poll capacity).2.parcels <:+ r.parcels := by
  rw [poll]
  split
  · exact List.suffix_rfl
  · exact openNext_parcels capacity r.parcels

theorem nothing_queued (r : Relay) (filled : .ok [] ∉ r.parcels) (empty : r.size = 0) : r.parcels = [] := by
  obtain ⟨parcels, pending, offset⟩ := r
  cases parcels with
  | nil => rfl
  | cons parcel parcels =>
    have weightless : weight parcel = 0 := (Nat.add_eq_zero_iff.mp empty).1
    cases parcel with
    | error reason => exact absurd weightless Nat.one_ne_zero
    | ok bytes =>
      have blank : bytes = [] := List.eq_nil_of_length_eq_zero weightless
      exact absurd (blank ▸ List.mem_cons_self) filled

end Relay

namespace Handoff

def whole (h : Handoff) : Relay := h.relay.behind (h.courier.upcoming h.source)

theorem advance_whole (h : Handoff) : h.advance.whole = h.whole := by
  obtain ⟨source, courier, relay⟩ := h
  cases courier with
  | reading => exact congrArg relay.behind (Courier.upcoming_read source)
  | posting parcel =>
    simp only [advance]
    split
    · simp only [whole, Relay.behind, Courier.upcoming_post, List.append_assoc, List.singleton_append]
    · rfl
  | leaving => rfl
  | gone => rfl

theorem waits_iff (h : Handoff) : h.waits = true ↔ h.relay.size = 0 ∧ h.courier ≠ .gone := by
  cases there : h.courier <;> simp [waits, there, Courier.isGone]

theorem answers_iff (h : Handoff) : h.waits = false ↔ h.relay.size ≠ 0 ∨ h.courier = .gone := by
  cases there : h.courier <;> simp [waits, there, Courier.isGone]

theorem poll_waiting (capacity : Nat) (h : Handoff) (waits : h.waits = true) : h.poll capacity = (none, h) := if_pos waits

theorem poll_answered (capacity : Nat) (h : Handoff) (answers : h.waits = false) :
    h.poll capacity = (some (h.relay.poll capacity).1, { h with relay := (h.relay.poll capacity).2 }) := by
  rw [poll, answers]
  rfl

-- Where nothing will come any more, the relay is the whole already.
theorem poll_whole (capacity : Nat) (h : Handoff) (answers : h.waits = false) :
    h.whole.poll capacity = ((h.relay.poll capacity).1, whole { h with relay := (h.relay.poll capacity).2 }) := by
  rcases (answers_iff h).mp answers with stocked | gone
  · exact Relay.poll_behind capacity h.relay _ stocked
  · simp only [whole, gone, Courier.upcoming, Relay.behind, List.append_nil]

inductive Move where
  | advance
  | poll (capacity : Nat)

structure Answered where
  capacity : Nat
  answer : Parcel

def run (h : Handoff) : List Move → List Answered × Handoff
  | [] => ([], h)
  | .advance :: moves => h.advance.run moves
  | .poll capacity :: moves =>
    let (answer, polled) := h.poll capacity
    let (answered, last) := polled.run moves
    (answer.toList.map (⟨capacity, ·⟩) ++ answered, last)

theorem run_waiting (capacity : Nat) (moves : List Move) (h : Handoff) (waits : h.waits = true) :
    h.run (.poll capacity :: moves) = h.run moves := by
  simp only [run, poll_waiting capacity h waits]
  rfl

theorem run_answered (capacity : Nat) (moves : List Move) (h : Handoff) (answers : h.waits = false) :
    let polled : Handoff := { h with relay := (h.relay.poll capacity).2 }
    h.run (.poll capacity :: moves) = (⟨capacity, (h.relay.poll capacity).1⟩ :: (polled.run moves).1, (polled.run moves).2) := by
  simp only [run, poll_answered capacity h answers]
  rfl

theorem run_whole (moves : List Move) (h : Handoff) :
    (h.run moves).1.map (·.answer) = h.whole.answers ((h.run moves).1.map (·.capacity)) := by
  induction moves generalizing h with
  | nil => rfl
  | cons move moves ih =>
    cases move with
    | advance =>
      rw [← advance_whole]
      exact ih h.advance
    | poll capacity =>
      cases waits : h.waits with
      | true =>
        rw [run_waiting capacity moves h waits]
        exact ih h
      | false =>
        rw [run_answered capacity moves h waits]
        simp only [List.map_cons, Relay.answers, poll_whole capacity h waits, ih]

theorem run_fits (moves : List Move) (h : Handoff) (a : Answered) (member : a ∈ (h.run moves).1) :
    .poll a.capacity ∈ moves ∧ ∀ bytes, a.answer = .ok bytes → bytes.length ≤ a.capacity := by
  induction moves generalizing h with
  | nil => cases member
  | cons move moves ih =>
    cases move with
    | advance => exact (ih h.advance member).imp_left (List.mem_cons_of_mem _)
    | poll capacity =>
      cases waits : h.waits with
      | true =>
        rw [run_waiting capacity moves h waits] at member
        exact (ih h member).imp_left (List.mem_cons_of_mem _)
      | false =>
        rw [run_answered capacity moves h waits] at member
        rcases List.mem_cons.mp member with rfl | later
        · exact ⟨List.mem_cons_self, Relay.poll_fits capacity h.relay⟩
        · exact (ih _ later).imp_left (List.mem_cons_of_mem _)

structure Filled (h : Handoff) : Prop where
  queued : .ok [] ∉ h.relay.parcels
  posted : h.courier ≠ .posting (.ok [])

def stepsLeft (h : Handoff) : Nat := h.courier.steps h.source

theorem start_filled (reads : List SourceRead) : (start reads).Filled := ⟨List.not_mem_nil, Courier.noConfusion⟩

theorem advance_filled (h : Handoff) (filled : h.Filled) : h.advance.Filled := by
  obtain ⟨source, courier, relay⟩ := h
  obtain ⟨queued, posted⟩ := filled
  cases courier with
  | reading => exact ⟨queued, Courier.read_filled source.head?⟩
  | posting parcel =>
    simp only [advance]
    split
    · refine ⟨?_, by cases parcel <;> simp [Courier.afterPost]⟩
      have own : parcel ≠ .ok [] := fun blank => posted (congrArg _ blank)
      simp [queued, own.symm]
    · exact ⟨queued, posted⟩
  | leaving => exact ⟨queued, Courier.noConfusion⟩
  | gone => exact ⟨queued, posted⟩

theorem advance_steps (h : Handoff) : h.advance.stepsLeft < h.stepsLeft ∨
    h.advance = h ∧ (slots ≤ h.relay.parcels.length ∨ h.courier = .gone) := by
  obtain ⟨source, courier, relay⟩ := h
  cases courier with
  | reading => exact .inl (Courier.steps_read source)
  | posting parcel =>
    simp only [advance]
    split
    · exact .inl (Courier.steps_post source parcel)
    · next full => exact .inr ⟨rfl, .inl (Nat.le_of_not_lt full)⟩
  | leaving => exact .inl Nat.one_pos
  | gone => exact .inr ⟨rfl, .inr rfl⟩

-- Whoever waits does so before an empty queue, in which there is room for the courier's parcel.
theorem advance_waiting (h : Handoff) (filled : h.Filled) (waits : h.waits = true) : h.advance.stepsLeft < h.stepsLeft := by
  obtain ⟨empty, there⟩ := (waits_iff h).mp waits
  refine (advance_steps h).resolve_right fun ⟨_, stuck⟩ => ?_
  rcases stuck with full | gone
  · rw [Relay.nothing_queued h.relay filled.queued empty] at full
    exact absurd full (by decide)
  · exact there gone

theorem advance_answers (h : Handoff) (answers : h.waits = false) : h.advance.waits = false := by
  obtain ⟨source, courier, relay⟩ := h
  have held := (answers_iff _).mp answers
  apply (answers_iff _).mpr
  cases courier with
  | reading => exact held.imp_right Courier.noConfusion
  | posting parcel =>
    have stocked : relay.size ≠ 0 := held.resolve_right Courier.noConfusion
    simp only [advance]
    split
    · refine .inl (Nat.ne_of_gt ?_)
      exact Nat.lt_of_lt_of_le (Nat.pos_of_ne_zero stocked) (Relay.size_behind relay [parcel])
    · exact held
  | leaving => exact .inr rfl
  | gone => exact .inr rfl

theorem run_filled (moves : List Move) (h : Handoff) (filled : h.Filled) :
    (h.run moves).2.Filled ∧ (h.run moves).2.stepsLeft ≤ h.stepsLeft := by
  induction moves generalizing h with
  | nil => exact ⟨filled, Nat.le_refl _⟩
  | cons move moves ih =>
    cases move with
    | advance =>
      obtain ⟨filled', later⟩ := ih h.advance (advance_filled h filled)
      refine ⟨filled', Nat.le_trans later ?_⟩
      rcases advance_steps h with fewer | ⟨same, _⟩
      · exact Nat.le_of_lt fewer
      · exact Nat.le_of_eq (congrArg stepsLeft same)
    | poll capacity =>
      cases waits : h.waits with
      | true =>
        rw [run_waiting capacity moves h waits]
        exact ih h filled
      | false =>
        rw [run_answered capacity moves h waits]
        exact ih _ ⟨fun member => filled.queued ((Relay.poll_parcels capacity h.relay).subset member), filled.posted⟩

theorem answers_after (turns : Nat) (h : Handoff) (filled : h.Filled) (soon : h.waits = false ∨ h.stepsLeft ≤ turns) :
    (h.run (List.replicate turns .advance)).2.waits = false := by
  induction turns generalizing h with
  | zero =>
    cases waits : h.waits with
    | true =>
      have enough := soon.resolve_left (by simp [waits])
      exact absurd (Nat.lt_of_lt_of_le (advance_waiting h filled waits) enough) (Nat.not_lt_zero _)
    | false => exact waits
  | succ turns ih =>
    apply ih h.advance (advance_filled h filled)
    cases waits : h.waits with
    | true =>
      have enough := soon.resolve_left (by simp [waits])
      exact .inr (Nat.le_of_lt_succ (Nat.lt_of_lt_of_le (advance_waiting h filled waits) enough))
    | false => exact .inl (advance_answers h waits)

end Handoff

-- Reads and polls may fall between each other in any way. The polls hand over the bytes of the source, in order and at least
-- one at a time, then report its failure, once, and from then on the end. They overfill no buffer, they are those of the
-- relay that is fed from, and a poll that waits is answered when the courier has had its turns.
theorem source_arrives_intact (reads : List SourceRead) (moves : List Handoff.Move)
    (roomy : ∀ capacity, Handoff.Move.poll capacity ∈ moves → 0 < capacity) :
    let data := SourceRead.given reads
    let failure := SourceRead.failure? reads
    let (answered, last) := (Handoff.start reads).run moves
    let answers := answered.map (·.answer)
    (∃ (pieces : List (List UInt8)) (left : List UInt8), data = pieces.flatten ++ left ∧ [] ∉ pieces ∧
      (data.length ≤ answers.length → left = []) ∧
      (answers = pieces.map .ok ∨ left = [] ∧ ∃ ends,
        answers = pieces.map .ok ++ failure.toList.map .error ++ List.replicate ends (.ok []))) ∧
      (∀ a ∈ answered, ∀ bytes, a.answer = .ok bytes → bytes.length ≤ a.capacity) ∧
      answers = (Relay.start reads).answers (answered.map (·.capacity)) ∧
      ∀ turns ≥ 2 * reads.length + 2, ∀ capacity,
        ((last.run (List.replicate turns .advance)).2.poll capacity).1 ≠ none := by
  intro data failure
  have whole := Handoff.run_whole moves (Handoff.start reads)
  have fits := Handoff.run_fits moves (Handoff.start reads)
  obtain ⟨filled, steps⟩ := Handoff.run_filled moves (Handoff.start reads) (Handoff.start_filled reads)
  generalize (Handoff.start reads).run moves = ran at whole fits filled steps ⊢
  obtain ⟨answered, last⟩ := ran
  refine ⟨?_, fun a member => (fits a member).2, whole, fun turns enough capacity => ?_⟩
  · have positive : ∀ capacity ∈ answered.map (·.capacity), 0 < capacity := by
      rw [List.forall_mem_map]
      exact fun a member => roomy _ (fits a member).1
    have told := Relay.answers_tell _ _ data failure positive (Relay.start_holds reads)
    obtain ⟨pieces, left, given, others, answers⟩ : Relay.Tells data failure (answered.map (·.answer)) := whole ▸ told
    refine ⟨pieces, left, given, others, fun enough => ?_, answers⟩
    rcases answers with unfinished | ⟨nothing, _⟩
    · rw [given, unfinished, List.length_map] at enough
      exact Relay.nothing_left pieces left others enough
    · exact nothing
  · rw [Handoff.poll_answered capacity _ (Handoff.answers_after turns last filled (.inr (Nat.le_trans steps enough)))]
    exact Option.some_ne_none _

-- An interrupted read, two reads of which the second is handed over byte by byte, and a failure; the next read is never made.
def tornReads : List SourceRead := [.interrupted, .data [115, 61, 51], .data [10, 113], .failed "stream closed", .data [0]]

def tornMoves : List Handoff.Move :=
  [.poll 4, .advance, .advance, .poll 4, .advance, .poll 2, .advance, .poll 2, .poll 2, .advance, .advance, .advance,
    .poll 1, .poll 1, .poll 1, .poll 1, .advance, .poll 8]

theorem source_arrives_intact_torn :
    let (answered, last) := (Handoff.start tornReads).run tornMoves
    let answers := [.ok [115, 61], .ok [51], .ok [10], .ok [113], .error "stream closed", .ok []]
    (∀ capacity, Handoff.Move.poll capacity ∈ tornMoves → 0 < capacity) ∧ answered.map (·.answer) = answers ∧
      (Relay.start tornReads).answers [2, 2, 1, 1, 1, 8] = answers ∧
      ∀ capacity, ((last.run (List.replicate 12 .advance)).2.poll capacity).1 ≠ none := by
  have roomy : ∀ capacity, Handoff.Move.poll capacity ∈ tornMoves → 0 < capacity := by
    simp [tornMoves]
  obtain ⟨_, _, agree, prompt⟩ := source_arrives_intact tornReads tornMoves roomy
  exact ⟨roomy, rfl, agree.symm, prompt 12 (by decide)⟩

end SignalRules
