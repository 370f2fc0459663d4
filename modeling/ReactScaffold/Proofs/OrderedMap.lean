import ReactScaffold.OrderedMap
import Mathlib

/-!
# Ordered maps with distinct keys

Inserting entries keeps the keys distinct. The keys that are there keep their places, new ones
follow in the order of the entries, and the values of the entries take precedence.
-/

namespace ReactScaffold

namespace OrderedMap

variable {κ α : Type} [DecidableEq κ]

theorem nodup_keys_insert {m : OrderedMap κ α} (h : (keys m).Nodup) (k : κ) (v : α) :
    (keys (insert m k v)).Nodup := by
  rw [keys_insert]
  split_ifs with hk
  · exact h
  · rw [List.nodup_append]
    refine ⟨h, List.nodup_singleton k, ?_⟩
    rintro a ha b hb rfl
    exact hk (List.mem_singleton.1 hb ▸ ha)

theorem nodup_keys_insertAll {m : OrderedMap κ α} (h : (keys m).Nodup) (entries : List (κ × α)) :
    (keys (insertAll m entries)).Nodup := by
  induction entries generalizing m with
  | nil => exact h
  | cons e entries ih => exact ih (nodup_keys_insert h e.1 e.2)

theorem mem_insert {m : OrderedMap κ α} {k : κ} {v : α} {e : κ × α} (h : e ∈ insert m k v) :
    e ∈ m ∨ e = (k, v) := by
  induction m with
  | nil => exact .inr (List.mem_singleton.1 h)
  | cons first rest ih =>
      obtain ⟨k', v'⟩ := first
      rw [insert] at h
      split_ifs at h with hk
      · rcases List.mem_cons.1 h with rfl | hrest
        · exact .inr (by rw [hk])
        · exact .inl (List.mem_cons_of_mem _ hrest)
      · rcases List.mem_cons.1 h with rfl | hrest
        · exact .inl List.mem_cons_self
        · exact (ih hrest).imp_left (List.mem_cons_of_mem _)

theorem mem_insertAll {m : OrderedMap κ α} {entries : List (κ × α)} {e : κ × α}
    (h : e ∈ insertAll m entries) : e ∈ m ∨ e ∈ entries := by
  induction entries generalizing m with
  | nil => exact .inl h
  | cons first entries ih =>
      rcases ih h with hm | hrest
      · rcases mem_insert hm with hold | rfl
        · exact .inl hold
        · exact .inr List.mem_cons_self
      · exact .inr (List.mem_cons_of_mem _ hrest)

theorem insert_of_notMem {m : OrderedMap κ α} {k : κ} (h : k ∉ keys m) (v : α) :
    insert m k v = m ++ [(k, v)] := by
  induction m with
  | nil => rfl
  | cons first rest ih =>
      obtain ⟨k', v'⟩ := first
      rw [keys, List.map_cons, List.mem_cons, not_or] at h
      rw [insert, if_neg (Ne.symm h.1), ih h.2, List.cons_append]

/-- Inserting entries with new, distinct keys appends them. -/
theorem insertAll_of_disjoint {m : OrderedMap κ α} {entries : List (κ × α)}
    (hnodup : (keys entries).Nodup) (h : ∀ k ∈ keys entries, k ∉ keys m) :
    insertAll m entries = m ++ entries := by
  induction entries generalizing m with
  | nil => rw [List.append_nil]; rfl
  | cons e entries ih =>
      rw [keys, List.map_cons, List.nodup_cons] at hnodup
      have hstep : insertAll m (e :: entries) = insertAll (m ++ [e]) entries := by
        show insertAll (insert m e.1 e.2) entries = _
        rw [insert_of_notMem (h e.1 (by simp [keys]))]
      rw [hstep, ih hnodup.2, List.append_assoc, List.singleton_append]
      intro k hk hmem
      rw [keys, List.map_append, List.mem_append] at hmem
      rcases hmem with hold | hnew
      · exact h k (List.mem_cons_of_mem _ hk) hold
      · rw [List.map_singleton, List.mem_singleton] at hnew
        exact hnodup.1 (hnew ▸ hk)

theorem ofEntries_of_nodup {entries : List (κ × α)} (h : (keys entries).Nodup) :
    ofEntries entries = entries := insertAll_of_disjoint h (by simp [keys])

omit [DecidableEq κ] in
theorem keys_cons (e : κ × α) (m : OrderedMap κ α) : keys (e :: m) = e.1 :: keys m := rfl

theorem get?_eq_none_iff {m : OrderedMap κ α} {k : κ} : get? m k = none ↔ k ∉ keys m := by
  induction m with
  | nil => simp [get?, keys]
  | cons e m ih =>
      obtain ⟨k', v⟩ := e
      rw [get?, keys_cons, List.mem_cons, not_or]
      by_cases hk : k' = k
      · simp [hk]
      · rw [if_neg hk, ih]
        exact ⟨fun h => ⟨Ne.symm hk, h⟩, fun h => h.2⟩

theorem mem_of_get?_eq_some {m : OrderedMap κ α} {k : κ} {v : α} (h : get? m k = some v) :
    (k, v) ∈ m := by
  induction m with
  | nil => cases h
  | cons e m ih =>
      obtain ⟨k', v'⟩ := e
      rw [get?] at h
      split_ifs at h with hk
      · rw [Option.some.inj h, hk]
        exact List.mem_cons_self
      · exact List.mem_cons_of_mem _ (ih h)

/-- An entry of a map with distinct keys is found by its key. -/
theorem get?_of_mem {m : OrderedMap κ α} (hnodup : (keys m).Nodup) {e : κ × α} (h : e ∈ m) :
    get? m e.1 = some e.2 := by
  induction m with
  | nil => cases h
  | cons first m ih =>
      rw [keys_cons, List.nodup_cons] at hnodup
      rw [get?]
      rcases List.mem_cons.1 h with rfl | hmem
      · exact if_pos rfl
      · have hne : first.1 ≠ e.1 := fun he => hnodup.1 (he ▸ List.mem_map_of_mem hmem)
        rw [if_neg hne]
        exact ih hnodup.2 hmem

/-- The order of the entries does not matter to what is found in a map with distinct keys. -/
theorem get?_perm {m m' : OrderedMap κ α} (h : m.Perm m') (hnodup : (keys m').Nodup) (k : κ) :
    get? m k = get? m' k := by
  have hnodup' : (keys m).Nodup := (h.map Prod.fst).nodup_iff.2 hnodup
  cases hfound : get? m' k with
  | none =>
      rw [get?_eq_none_iff] at hfound ⊢
      exact fun hk => hfound ((h.map Prod.fst).mem_iff.1 hk)
  | some v => exact get?_of_mem hnodup' (h.mem_iff.2 (mem_of_get?_eq_some hfound))

/-- The keys after entries are inserted: those that were there, then the new ones. -/
theorem keys_insertAll (m : OrderedMap κ α) {entries : List (κ × α)}
    (hnodup : (keys entries).Nodup) :
    keys (insertAll m entries) = keys m ++ (keys entries).filter (· ∉ keys m) := by
  induction entries generalizing m with
  | nil => exact (List.append_nil _).symm
  | cons e entries ih =>
      rw [keys_cons, List.nodup_cons] at hnodup
      have hfilter : (keys entries).filter (· ∉ keys (insert m e.1 e.2)) =
          (keys entries).filter (· ∉ keys m) := by
        refine List.filter_congr fun k hk => ?_
        have hne : k ≠ e.1 := fun he => hnodup.1 (he ▸ hk)
        rw [keys_insert]
        split_ifs
        · rfl
        · simp [hne]
      show keys (insertAll (insert m e.1 e.2) entries) = _
      rw [ih _ hnodup.2, hfilter, keys_cons, List.filter_cons, keys_insert]
      by_cases hmem : e.1 ∈ keys m
      · simp [hmem]
      · simp [hmem]

/-- The values after entries are inserted: those of the entries, else those that were there. -/
theorem get?_insertAll (m : OrderedMap κ α) {entries : List (κ × α)}
    (hnodup : (keys entries).Nodup) (k : κ) :
    get? (insertAll m entries) k = (get? entries k).or (get? m k) := by
  induction entries generalizing m with
  | nil => rfl
  | cons e entries ih =>
      obtain ⟨k', v⟩ := e
      rw [keys_cons, List.nodup_cons] at hnodup
      show get? (insertAll (insert m k' v) entries) k = _
      rw [ih _ hnodup.2, get?]
      split_ifs with hk
      · have hnone : get? entries k = none := get?_eq_none_iff.2 (hk ▸ hnodup.1)
        rw [hnone, ← hk, get?_insert_self]
        rfl
      · rw [get?_insert_of_ne m v hk]

/-- Inserting the value that a key has changes nothing. -/
theorem insert_of_get? {m : OrderedMap κ α} {k : κ} {v : α} (h : get? m k = some v) :
    insert m k v = m := by
  induction m with
  | nil => cases h
  | cons first m ih =>
      obtain ⟨k', v'⟩ := first
      rw [get?] at h
      rw [insert]
      split_ifs at h ⊢ with hk
      · rw [Option.some.inj h]
      · rw [ih h]

theorem insertAll_of_get? {m : OrderedMap κ α} {entries : List (κ × α)}
    (h : ∀ e ∈ entries, get? m e.1 = some e.2) : insertAll m entries = m := by
  induction entries with
  | nil => rfl
  | cons e entries ih =>
      obtain ⟨hhead, htail⟩ := List.forall_mem_cons.1 h
      show insertAll (insert m e.1 e.2) entries = m
      rw [insert_of_get? hhead, ih htail]

/-- Inserting the same entries again changes nothing. -/
theorem insertAll_again (m : OrderedMap κ α) {entries : List (κ × α)}
    (hnodup : (keys entries).Nodup) :
    insertAll (insertAll m entries) entries = insertAll m entries := by
  refine insertAll_of_get? fun e he => ?_
  rw [get?_insertAll m hnodup, get?_of_mem hnodup he]
  rfl

theorem insert_insert_self (m : OrderedMap κ α) (k : κ) (v w : α) :
    insert (insert m k v) k w = insert m k w := by
  induction m with
  | nil => simp [insert]
  | cons e m ih =>
    obtain ⟨k', v'⟩ := e
    by_cases h : k' = k
    · simp [insert, h]
    · simp [insert, h, ih]

/-- A key that is there keeps its place, so that it does not matter when its value is set. -/
theorem insert_comm_of_mem {m : OrderedMap κ α} {k k' : κ} (hmem : k ∈ keys m) (hne : k ≠ k')
    (v v' : α) : insert (insert m k' v') k v = insert (insert m k v) k' v' := by
  induction m with
  | nil => cases hmem
  | cons e m ih =>
    obtain ⟨first, w⟩ := e
    rw [keys_cons, List.mem_cons] at hmem
    by_cases h : first = k
    · subst h
      simp [insert, hne]
    · have hrest := ih (hmem.resolve_left (Ne.symm h))
      by_cases h' : first = k'
      · simp [insert, h', Ne.symm hne]
      · simp [insert, h, h', hrest]

theorem insert_insertAll_of_notMem {m : OrderedMap κ α} {entries : List (κ × α)} {k : κ}
    (hmem : k ∈ keys m) (h : k ∉ keys entries) (v : α) :
    insert (insertAll m entries) k v = insertAll (insert m k v) entries := by
  induction entries generalizing m with
  | nil => rfl
  | cons e entries ih =>
    rw [keys_cons, List.mem_cons, not_or] at h
    have hmem' : k ∈ keys (insert m e.1 e.2) := by
      rw [keys_insert]
      split_ifs
      · exact hmem
      · exact List.mem_append_left _ hmem
    show insert (insertAll (insert m e.1 e.2) entries) k v =
      insertAll (insert (insert m k v) e.1 e.2) entries
    rw [ih hmem' h.2, insert_comm_of_mem hmem h.1]

/-- An entry may be set after entries are inserted or among them. -/
theorem insert_insertAll (m : OrderedMap κ α) {entries : List (κ × α)}
    (hnodup : (keys entries).Nodup) (k : κ) (v : α) :
    insert (insertAll m entries) k v = insertAll m (insert entries k v) := by
  induction entries generalizing m with
  | nil => rfl
  | cons e entries ih =>
    obtain ⟨k', v'⟩ := e
    rw [keys_cons, List.nodup_cons] at hnodup
    show insert (insertAll (insert m k' v') entries) k v =
      insertAll m (insert ((k', v') :: entries) k v)
    rw [insert]
    split_ifs with h
    · subst h
      have hmem : k' ∈ keys (insert m k' v') := by
        rw [keys_insert]
        split_ifs with hk
        · exact hk
        · simp
      rw [insert_insertAll_of_notMem hmem hnodup.1, insert_insert_self]
      rfl
    · exact ih (insert m k' v') hnodup.2

/-- Inserting entries and then others is inserting the first with the others put over them. -/
theorem insertAll_insertAll (m : OrderedMap κ α) {first : List (κ × α)}
    (hnodup : (keys first).Nodup) (second : List (κ × α)) :
    insertAll (insertAll m first) second = insertAll m (insertAll first second) := by
  induction second generalizing first with
  | nil => rfl
  | cons e second ih =>
    show insertAll (insert (insertAll m first) e.1 e.2) second = _
    rw [insert_insertAll m hnodup, ih (nodup_keys_insert hnodup e.1 e.2)]
    rfl

/-- The map holds entries in which keys may be repeated: each key has the place of its first entry
and the value of its last. -/
structure Collapses (entries : List (κ × α)) (m : OrderedMap κ α) : Prop where
  keys : keys m = (OrderedMap.keys entries).eraseDups
  values (k : κ) : get? m k = get? entries.reverse k

theorem ofEntries_concat (entries : List (κ × α)) (e : κ × α) :
    ofEntries (entries ++ [e]) = insert (ofEntries entries) e.1 e.2 := by
  rw [ofEntries, insertAll, List.foldl_append]
  rfl

theorem keys_ofEntries (entries : List (κ × α)) :
    keys (ofEntries entries) = (keys entries).eraseDups := by
  induction entries using List.reverseRecOn with
  | nil => rfl
  | append_singleton entries e ih =>
    have hkeys : keys (entries ++ [e]) = keys entries ++ [e.1] := List.map_append
    rw [ofEntries_concat, keys_insert, ih, hkeys, List.eraseDups_append]
    by_cases h : e.1 ∈ keys entries
    · rw [if_pos (List.mem_eraseDups.2 h)]
      simp [h, List.removeAll]
    · rw [if_neg (mt List.mem_eraseDups.1 h)]
      simp [h, List.removeAll, List.eraseDups_cons]

theorem get?_ofEntries (entries : List (κ × α)) (k : κ) :
    get? (ofEntries entries) k = get? entries.reverse k := by
  induction entries using List.reverseRecOn with
  | nil => rfl
  | append_singleton entries e ih =>
    rw [ofEntries_concat, List.reverse_append, List.reverse_singleton, List.singleton_append]
    by_cases h : e.1 = k
    · subst h
      rw [get?_insert_self, get?, if_pos rfl]
    · rw [get?_insert_of_ne _ _ h, get?, if_neg h, ih]

theorem collapses_ofEntries (entries : List (κ × α)) : Collapses entries (ofEntries entries) where
  keys := keys_ofEntries entries
  values := get?_ofEntries entries

/-- A map with distinct keys is told by its keys and their values. -/
theorem eq_of_keys_of_get? {m m' : OrderedMap κ α} (hnodup : (keys m).Nodup)
    (hkeys : keys m = keys m') (hvalues : ∀ k, get? m k = get? m' k) : m = m' := by
  induction m generalizing m' with
  | nil => exact (List.map_eq_nil_iff.1 hkeys.symm).symm
  | cons e m ih =>
    obtain ⟨e', m', rfl⟩ : ∃ e' rest, m' = e' :: rest := by
      cases m' with
      | nil => cases hkeys
      | cons e' m' => exact ⟨e', m', rfl⟩
    rw [keys_cons, List.nodup_cons] at hnodup
    rw [keys_cons, keys_cons, List.cons.injEq] at hkeys
    obtain ⟨hkey, hrest⟩ := hkeys
    have hvalue : e.2 = e'.2 := by
      have h := hvalues e.1
      rw [get?, get?, if_pos rfl, if_pos hkey.symm] at h
      exact Option.some.inj h
    rw [Prod.ext hkey hvalue, ih hnodup.2 hrest fun k => ?_]
    by_cases hk : k = e.1
    · rw [hk, get?_eq_none_iff.2 hnodup.1, get?_eq_none_iff.2 (hrest ▸ hnodup.1)]
    · have h := hvalues k
      rwa [get?, get?, if_neg (Ne.symm hk), if_neg (hkey ▸ Ne.symm hk)] at h

theorem collapses_iff {entries : List (κ × α)} {m : OrderedMap κ α} :
    Collapses entries m ↔ m = ofEntries entries := by
  constructor
  · intro h
    have hkeys : keys (ofEntries entries) = keys m := (keys_ofEntries entries).trans h.keys.symm
    have hnodup : (keys (ofEntries entries)).Nodup :=
      nodup_keys_insertAll (m := []) List.nodup_nil entries
    refine (eq_of_keys_of_get? hnodup hkeys fun k => ?_).symm
    exact (get?_ofEntries entries k).trans (h.values k).symm
  · rintro rfl
    exact collapses_ofEntries entries

end OrderedMap

end ReactScaffold
