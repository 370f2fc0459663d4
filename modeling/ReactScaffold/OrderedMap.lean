/-!
# Maps that keep their order

A map is a list of entries, read in the order in which the keys were first inserted. Inserting a
key that is present changes its value and leaves its place.
-/

namespace ReactScaffold

/-- Entries in the order of first insertion. -/
abbrev OrderedMap (κ α : Type) := List (κ × α)

namespace OrderedMap

variable {κ α : Type} [DecidableEq κ]

/-- The value of the first entry with the key. -/
def get? (m : OrderedMap κ α) (k : κ) : Option α :=
  match m with
  | [] => none
  | (k', v) :: rest => if k' = k then some v else get? rest k

/-- Sets the value of a key. -/
def insert (m : OrderedMap κ α) (k : κ) (v : α) : OrderedMap κ α :=
  match m with
  | [] => [(k, v)]
  | (k', v') :: rest => if k' = k then (k', v) :: rest else (k', v') :: insert rest k v

/-- The keys in order. -/
def keys (m : OrderedMap κ α) : List κ := m.map (·.1)

/-- Inserts all entries, one after the other. -/
def insertAll (m : OrderedMap κ α) (entries : List (κ × α)) : OrderedMap κ α :=
  entries.foldl (fun m e => insert m e.1 e.2) m

/-- The map of a list of entries in which a key may be repeated. -/
def ofEntries (entries : List (κ × α)) : OrderedMap κ α := insertAll [] entries

@[simp] theorem get?_insert_self (m : OrderedMap κ α) (k : κ) (v : α) :
    get? (insert m k v) k = some v := by
  induction m with
  | nil => simp [insert, get?]
  | cons e rest ih =>
    obtain ⟨k', v'⟩ := e
    by_cases h : k' = k <;> simp [insert, get?, h, ih]

theorem get?_insert_of_ne (m : OrderedMap κ α) {k k' : κ} (v : α) (h : k ≠ k') :
    get? (insert m k v) k' = get? m k' := by
  induction m with
  | nil => simp [insert, get?, h]
  | cons e rest ih =>
    obtain ⟨k₀, v₀⟩ := e
    by_cases h₀ : k₀ = k
    · subst h₀
      simp [insert, get?, h]
    · simp only [insert, h₀, if_false, get?, ih]

theorem keys_insert (m : OrderedMap κ α) (k : κ) (v : α) :
    keys (insert m k v) = if k ∈ keys m then keys m else keys m ++ [k] := by
  induction m with
  | nil => simp [insert, keys]
  | cons e rest ih =>
    obtain ⟨k', v'⟩ := e
    by_cases h : k' = k
    · simp [insert, keys, h]
    · have hne : ¬k = k' := fun he => h he.symm
      by_cases hm : k ∈ rest.map (·.1) <;>
        simp only [keys, insert, h, hne, hm, if_true, if_false, List.map_cons, List.mem_cons,
          false_or] at ih ⊢ <;>
        simp only [ih, List.cons_append]

end OrderedMap

end ReactScaffold
