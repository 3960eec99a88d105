set_option autoImplicit false

namespace SignalRules

variable {α : Type}

namespace NameMap

def place (name : String) (value : α) : List (String × α) → List (String × α)
  | [] => [(name, value)]
  | (key, old) :: rest =>
    if name < key then (name, value) :: (key, old) :: rest
    else if name = key then (name, value) :: rest
    else (key, old) :: place name value rest

def lookup (name : String) : List (String × α) → Option α
  | [] => none
  | (key, value) :: rest => if name = key then some value else lookup name rest

theorem lookup_place (name query : String) (value : α) (entries : List (String × α)) :
    lookup query (place name value entries) = if query = name then some value else lookup query entries := by
  induction entries with
  | nil => simp [place, lookup]
  | cons entry rest ih =>
    rcases entry with ⟨key, old⟩
    by_cases hlt : name < key
    · simp [place, lookup, hlt]
    · by_cases heq : name = key
      · subst heq
        by_cases hq : query = name <;> simp [place, lookup, hq]
      · by_cases hk : query = key
        · simp [place, lookup, hlt, heq, hk]
          intro h
          exact absurd h.symm heq
        · simp [place, lookup, hlt, heq, hk, ih]

theorem mem_place {name : String} {value : α} {entries : List (String × α)} {entry : String × α}
    (h : entry ∈ place name value entries) : entry = (name, value) ∨ entry ∈ entries := by
  induction entries with
  | nil => simpa [place] using h
  | cons first rest ih =>
    rcases first with ⟨key, old⟩
    unfold place at h
    split at h
    · simpa using h
    · split at h
      · rcases List.mem_cons.mp h with h | h
        · exact .inl h
        · exact .inr (List.mem_cons_of_mem _ h)
      · rcases List.mem_cons.mp h with h | h
        · exact .inr (h ▸ List.mem_cons_self)
        · rcases ih h with h | h
          · exact .inl h
          · exact .inr (List.mem_cons_of_mem _ h)

theorem lt_of_not_lt_of_ne {a b : String} (h : ¬a < b) (hne : ¬a = b) : b < a := by
  rcases Std.lt_trichotomy a b with hl | he | hg
  · exact absurd hl h
  · exact absurd he hne
  · exact hg

theorem pairwise_place {name : String} {value : α} {entries : List (String × α)}
    (h : entries.Pairwise fun a b => a.1 < b.1) : (place name value entries).Pairwise fun a b => a.1 < b.1 := by
  induction entries with
  | nil => simp [place]
  | cons first rest ih =>
    rcases first with ⟨key, old⟩
    rw [List.pairwise_cons] at h
    obtain ⟨hhead, hrest⟩ := h
    unfold place
    split
    · rename_i hlt
      refine List.pairwise_cons.mpr ⟨?_, List.pairwise_cons.mpr ⟨hhead, hrest⟩⟩
      intro entry hmem
      rcases List.mem_cons.mp hmem with rfl | hmem
      · exact hlt
      · exact String.lt_trans hlt (hhead entry hmem)
    · split
      · rename_i heq
        refine List.pairwise_cons.mpr ⟨?_, hrest⟩
        intro entry hmem
        exact heq ▸ hhead entry hmem
      · rename_i hlt hne
        refine List.pairwise_cons.mpr ⟨?_, ih hrest⟩
        intro entry hmem
        rcases mem_place hmem with rfl | hmem
        · exact lt_of_not_lt_of_ne hlt hne
        · exact hhead entry hmem

end NameMap

structure NameMap (α : Type) where
  entries : List (String × α)
  sorted : entries.Pairwise fun a b => a.1 < b.1

namespace NameMap

def empty : NameMap α := ⟨[], .nil⟩
instance : Inhabited (NameMap α) := ⟨empty⟩

def get? (m : NameMap α) (name : String) : Option α := lookup name m.entries
def contains (m : NameMap α) (name : String) : Bool := (m.get? name).isSome
def insert (m : NameMap α) (name : String) (value : α) : NameMap α := ⟨place name value m.entries, pairwise_place m.sorted⟩
def names (m : NameMap α) : List String := m.entries.map (·.1)
def size (m : NameMap α) : Nat := m.entries.length
def isEmpty (m : NameMap α) : Bool := m.entries.isEmpty

@[simp] theorem get?_empty (name : String) : (empty : NameMap α).get? name = none := rfl

theorem get?_insert (m : NameMap α) (name query : String) (value : α) :
    (m.insert name value).get? query = if query = name then some value else m.get? query :=
  lookup_place name query value m.entries

theorem mem_names (m : NameMap α) (name : String) : name ∈ m.names ↔ m.contains name = true := by
  rw [names, contains, get?]
  induction m.entries with
  | nil => simp [lookup]
  | cons entry rest ih =>
    rcases entry with ⟨key, value⟩
    by_cases same : name = key
    · simp [lookup, same]
    · simpa [lookup, same] using ih

theorem names_sorted (m : NameMap α) : m.names.Pairwise (· < ·) := List.pairwise_map.mpr m.sorted

end NameMap
end SignalRules
