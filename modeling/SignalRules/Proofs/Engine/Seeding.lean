import SignalRules.Proofs.Engine.Writes
import SignalRules.Proofs.Signal.Wire

set_option autoImplicit false

namespace SignalRules

def Inbound.updates (line : String) : Bool := (Inbound.ofLine? line).any Inbound.isUpdate

def EntryFault.ofEntry (entry : String) : EntryFault := if '=' ∈ entry.toList then .emptyName else .noSeparator

namespace Inbound

theorem updates_iff (line : String) : updates line = true ↔ ∃ name raw, ofLine? line = some (.update name raw) := by
  rw [updates]
  cases ofLine? line with
  | none => simp
  | some m => cases m <;> simp [isUpdate]

-- What a line says by its cut; the line need not be trimmed before.
theorem of_line_uncut (line : String) (uncut : Text.splitOnce '=' line.toList = none) : updates line = false := by
  rw [updates, ofLine?, InboundLine.ofText, InboundLine.ofTrimmed, Text.splitOnce_trim '=' _ (by decide), uncut]
  by_cases empty : (Text.trim line.toList).isEmpty = true
  · rw [if_pos empty]
    rfl
  · rw [if_neg empty]
    by_cases quits : Text.trim line.toList = "quit".toList
    · simp only [Option.map_none, if_pos quits]
      rfl
    · simp only [Option.map_none, if_neg quits]
      rfl

theorem of_line_cut (line : String) (before after : List Char) (cut : Text.splitOnce '=' line.toList = some (before, after)) :
    ofLine? line = if (Text.trim before).isEmpty then none
      else some (.update (String.ofList (Text.trim before)) (String.ofList (Text.trim after))) := by
  have cut' := Text.splitOnce_trim '=' line.toList (by decide)
  rw [cut] at cut'
  have filled : (Text.trim line.toList).isEmpty = false := by
    cases trimmed : Text.trim line.toList with
    | nil =>
      rw [trimmed] at cut'
      cases cut'
    | cons c rest => rfl
  rw [ofLine?, InboundLine.ofText, InboundLine.ofTrimmed, filled, cut']
  by_cases nameless : (Text.trim before).isEmpty = true
  · simp [Text.trim_drop, nameless, InboundLine.message?]
  · simp [Text.trim_drop, Text.trim_trim_end, nameless, InboundLine.message?]

end Inbound

namespace Store

theorem read_entry_update (entry name raw : String) (read : Inbound.ofLine? entry = some (.update name raw)) :
    readEntry entry = .ok (name, Value.ofText raw) := by
  cases cut : Text.splitOnce '=' entry.toList with
  | none =>
    have silent := Inbound.of_line_uncut entry cut
    rw [(Inbound.updates_iff entry).mpr ⟨name, raw, read⟩] at silent
    cases silent
  | some parts =>
    rw [Inbound.of_line_cut entry parts.1 parts.2 cut] at read
    by_cases nameless : (Text.trim parts.1).isEmpty = true
    · simp [nameless] at read
    · simp only [nameless, Bool.false_eq_true, if_false, Option.some.injEq, Inbound.update.injEq] at read
      obtain ⟨rfl, rfl⟩ := read
      rw [readEntry, cut, Value.ofText, String.toList_ofList, Text.trim_trimmed _ (Text.trimmed_trim parts.2)]
      simp only [nameless, Bool.false_eq_true, if_false]

theorem read_entry_fault (entry : String) (silent : Inbound.updates entry = false) :
    readEntry entry = .error (.ofEntry entry) := by
  cases cut : Text.splitOnce '=' entry.toList with
  | none =>
    have absent := Text.splitOnce_eq_none_iff.mp cut
    rw [readEntry, cut, EntryFault.ofEntry, if_neg absent]
  | some parts =>
    have present : '=' ∈ entry.toList := by simp [(Text.splitOnce_eq_some cut).1]
    rw [Inbound.updates, Inbound.of_line_cut entry parts.1 parts.2 cut] at silent
    by_cases nameless : (Text.trim parts.1).isEmpty = true
    · rw [readEntry, cut, EntryFault.ofEntry, if_pos present]
      simp only [nameless, if_true]
    · simp [nameless, Inbound.isUpdate] at silent

theorem seed_eq (entries : List String) (store : Store) : seed store entries =
    match entries.find? (!Inbound.updates ·) with
    | none => .ok ((entries.filterMap Inbound.ofLine?).foldl heed store)
    | some entry => .error ⟨entry, .ofEntry entry⟩ := by
  induction entries generalizing store with
  | nil => rfl
  | cons entry entries ih =>
    cases updating : Inbound.updates entry with
    | false =>
      rw [seed, read_entry_fault entry updating, List.find?_cons_of_pos (by simp [updating])]
    | true =>
      obtain ⟨name, raw, read⟩ := (Inbound.updates_iff entry).mp updating
      rw [seed, read_entry_update entry name raw read, List.find?_cons_of_neg (by simp [updating]),
        List.filterMap_cons_some read]
      exact ih (store.insert name (Value.ofText raw))

end Store

theorem Engine.handle_all_heeded (messages : List Inbound) (e : Engine) :
    e.Heeded messages (messages.foldl (fun e message => (e.handle message).2) e) := by
  induction messages generalizing e with
  | nil => exact heeded_nothing e e rfl rfl
  | cons message messages ih => exact heeded_trans e _ _ [message] _ (handle_heeded e message) (ih _)

theorem seeding_is_replaying (entries : List String) (rules : RuleSet) (outlet : Outlet) :
    let messages := entries.filterMap Inbound.ofLine?
    let replayed := messages.foldl (fun e message => (e.handle message).2) (Engine.start rules NameMap.empty outlet)
    ((∃ store, Store.ofEntries entries = .ok store) ↔
        ∀ entry ∈ entries, ∃ name raw, Inbound.ofLine? entry = some (.update name raw)) ∧
      (∀ store, Store.ofEntries entries = .ok store → replayed.store = store) ∧
      ∀ e, Store.ofEntries entries = .error e →
        entries.find? (!Inbound.updates ·) = some e.entry ∧ e.fault = .ofEntry e.entry := by
  intro messages replayed
  have heeded : replayed.store = messages.foldl Store.heed NameMap.empty :=
    (Engine.handle_all_heeded messages (Engine.start rules NameMap.empty outlet)).store
  have seeded := Store.seed_eq entries NameMap.empty
  simp only [← Inbound.updates_iff]
  rw [Store.ofEntries, seeded, heeded]
  cases first : entries.find? (!Inbound.updates ·) with
  | none =>
    refine ⟨⟨?_, ?_⟩, ?_, ?_⟩
    · intro _ entry member
      simpa using List.find?_eq_none.mp first entry member
    · exact fun _ => ⟨_, rfl⟩
    · intro store same
      simpa using same
    · intro e failed
      cases failed
  | some entry =>
    refine ⟨⟨?_, ?_⟩, ?_, ?_⟩
    · rintro ⟨store, seeded⟩
      cases seeded
    · intro all
      have silent := List.find?_some first
      rw [all entry (List.mem_of_find?_eq_some first)] at silent
      cases silent
    · intro store seeded
      cases seeded
    · intro e failed
      cases failed
      exact ⟨rfl, rfl⟩

end SignalRules
