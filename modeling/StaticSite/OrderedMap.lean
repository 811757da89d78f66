/-
Maps that keep the order in which their keys were first inserted.

Front matter, template attributes, the template store and the file tree are all maps of this kind:
inserting a new key appends it, inserting a known key replaces its value and leaves it in place.
-/

namespace StaticSite

/-- Keys with values, in the order in which the keys were first inserted. -/
structure OrderedMap (κ : Type) (α : Type) where
  entries : List (κ × α)
  deriving Repr, DecidableEq

namespace OrderedMap

variable {κ α : Type} [DecidableEq κ]

/-- The map without entries. -/
def empty : OrderedMap κ α := ⟨[]⟩

instance : EmptyCollection (OrderedMap κ α) := ⟨empty⟩

instance : Inhabited (OrderedMap κ α) := ⟨empty⟩

/-- The value of a key in a list of entries. -/
def find? (key : κ) : List (κ × α) → Option α
  | [] => none
  | (k, v) :: rest => if k = key then some v else find? key rest

/-- The entries after an insertion: replaced in place, or appended. -/
def put (key : κ) (value : α) : List (κ × α) → List (κ × α)
  | [] => [(key, value)]
  | (k, v) :: rest => if k = key then (k, value) :: rest else (k, v) :: put key value rest

/-- The value of a key. -/
def get? (m : OrderedMap κ α) (key : κ) : Option α := find? key m.entries

/-- Is the key in the map? -/
def contains (m : OrderedMap κ α) (key : κ) : Bool := (m.get? key).isSome

/-- Set the value of a key. -/
def insert (m : OrderedMap κ α) (key : κ) (value : α) : OrderedMap κ α :=
  ⟨put key value m.entries⟩

/-- Insert pairs from left to right. -/
def insertAll (m : OrderedMap κ α) (pairs : List (κ × α)) : OrderedMap κ α :=
  pairs.foldl (fun m (k, v) => m.insert k v) m

/-- The map that results from inserting pairs from left to right. -/
def ofList (pairs : List (κ × α)) : OrderedMap κ α := empty.insertAll pairs

/-- Remove a key. -/
def erase (m : OrderedMap κ α) (key : κ) : OrderedMap κ α :=
  ⟨m.entries.filter fun (k, _) => k ≠ key⟩

/-- The keys in the order of their first insertion. -/
def keys (m : OrderedMap κ α) : List κ := m.entries.map (·.1)

/-- The number of keys. -/
def size (m : OrderedMap κ α) : Nat := m.entries.length

/-- Has the map no entries? -/
def isEmpty (m : OrderedMap κ α) : Bool := m.entries.isEmpty

/-- Keep the entries that satisfy a test. -/
def filter (m : OrderedMap κ α) (p : κ → α → Bool) : OrderedMap κ α :=
  ⟨m.entries.filter fun (k, v) => p k v⟩

/-- Insertion keeps the keys of a list of entries and appends a new one. -/
theorem map_fst_put (key : κ) (value : α) (entries : List (κ × α)) :
    (put key value entries).map (·.1) =
      if (find? key entries).isSome then entries.map (·.1) else entries.map (·.1) ++ [key] := by
  induction entries with
  | nil => rfl
  | cons entry rest ih =>
    obtain ⟨k, v⟩ := entry
    by_cases h : k = key
    · simp [put, find?, h]
    · simp only [put, find?, h, if_false, List.map_cons, ih]
      split <;> rfl

/-- A new key is appended with its value. -/
theorem put_of_not_mem {key : κ} (value : α) {entries : List (κ × α)}
    (h : key ∉ entries.map (·.1)) : put key value entries = entries ++ [(key, value)] := by
  induction entries with
  | nil => rfl
  | cons entry rest ih =>
      obtain ⟨k, v⟩ := entry
      rw [List.map_cons, List.mem_cons, not_or] at h
      rw [put, if_neg (Ne.symm h.1), ih h.2, List.cons_append]

/-- Pairs with distinct keys that are no keys of a map are appended to it. -/
theorem insertAll_of_nodup {pairs : List (κ × α)} (h : (pairs.map (·.1)).Nodup)
    {m : OrderedMap κ α} (hnew : ∀ key ∈ pairs.map (·.1), key ∉ m.keys) :
    m.insertAll pairs = ⟨m.entries ++ pairs⟩ := by
  induction pairs generalizing m with
  | nil => simp [insertAll]
  | cons pair pairs ih =>
      obtain ⟨k, v⟩ := pair
      rw [List.map_cons, List.nodup_cons] at h
      have hput : m.insert k v = ⟨m.entries ++ [(k, v)]⟩ :=
        congrArg mk (put_of_not_mem v (hnew k List.mem_cons_self))
      have hrest : ∀ key ∈ pairs.map (·.1), key ∉ (m.insert k v).keys := by
        intro key hkey hmem
        rw [hput, keys, List.map_append, List.mem_append] at hmem
        rcases hmem with hold | hlast
        · exact hnew key (List.mem_cons_of_mem _ hkey) hold
        · obtain rfl := List.mem_singleton.mp hlast
          exact h.1 hkey
      have hstep : m.insertAll ((k, v) :: pairs) = (m.insert k v).insertAll pairs := rfl
      rw [hstep, ih h.2 hrest, hput, List.append_assoc]
      rfl

/-- A map made of pairs with distinct keys consists of these pairs in their order. -/
theorem ofList_of_nodup {pairs : List (κ × α)} (h : (pairs.map (·.1)).Nodup) :
    ofList pairs = ⟨pairs⟩ :=
  insertAll_of_nodup h fun _ _ => List.not_mem_nil

theorem mem_of_find?_eq_some {key : κ} {value : α} {entries : List (κ × α)}
    (h : find? key entries = some value) : (key, value) ∈ entries := by
  induction entries with
  | nil => cases h
  | cons entry rest ih =>
      obtain ⟨k, v⟩ := entry
      by_cases hk : k = key
      · simp only [find?, hk, if_true, Option.some.injEq] at h
        rw [hk, h]
        exact List.mem_cons_self
      · simp only [find?, hk, if_false] at h
        exact List.mem_cons_of_mem _ (ih h)

theorem isSome_find?_of_mem {key : κ} {entries : List (κ × α)} (h : key ∈ entries.map (·.1)) :
    (find? key entries).isSome := by
  induction entries with
  | nil => cases h
  | cons entry rest ih =>
      obtain ⟨k, v⟩ := entry
      by_cases hk : k = key
      · simp [find?, hk]
      · rw [List.map_cons, List.mem_cons] at h
        simpa [find?, hk] using ih (h.resolve_left (Ne.symm hk))

/-- With distinct keys an entry is what its key leads to. -/
theorem find?_of_mem {key : κ} {value : α} {entries : List (κ × α)}
    (hnodup : (entries.map (·.1)).Nodup) (h : (key, value) ∈ entries) :
    find? key entries = some value := by
  induction entries with
  | nil => cases h
  | cons entry rest ih =>
      obtain ⟨k, v⟩ := entry
      rw [List.map_cons, List.nodup_cons] at hnodup
      rcases List.mem_cons.mp h with heq | hrest
      · cases heq
        simp [find?]
      · have hne : k ≠ key := by
          rintro rfl
          exact hnodup.1 (List.mem_map.mpr ⟨_, hrest, rfl⟩)
        simpa [find?, hne] using ih hnodup.2 hrest

theorem find?_put_self (key : κ) (value : α) (entries : List (κ × α)) :
    find? key (put key value entries) = some value := by
  induction entries with
  | nil => simp [put, find?]
  | cons entry rest ih =>
    obtain ⟨k, v⟩ := entry
    by_cases h : k = key <;> simp [put, find?, h, ih]

theorem find?_put_of_ne {key other : κ} (h : other ≠ key) (value : α) (entries : List (κ × α)) :
    find? other (put key value entries) = find? other entries := by
  induction entries with
  | nil => simp [put, find?, h.symm]
  | cons entry rest ih =>
    obtain ⟨k, v⟩ := entry
    by_cases hk : k = key
    · subst hk
      simp [put, find?, h.symm]
    · simp only [put, find?, hk, if_false, ih]

@[simp] theorem get?_insert_self (m : OrderedMap κ α) (key : κ) (value : α) :
    (m.insert key value).get? key = some value :=
  find?_put_self key value m.entries

theorem get?_insert_of_ne (m : OrderedMap κ α) {key other : κ} (h : other ≠ key) (value : α) :
    (m.insert key value).get? other = m.get? other :=
  find?_put_of_ne h value m.entries

theorem keys_insert (m : OrderedMap κ α) (key : κ) (value : α) :
    (m.insert key value).keys = if m.contains key then m.keys else m.keys ++ [key] :=
  map_fst_put key value m.entries

/-- Keys stay distinct under an insertion. -/
theorem nodup_keys_insert {m : OrderedMap κ α} (h : m.keys.Nodup) (key : κ) (value : α) :
    (m.insert key value).keys.Nodup := by
  rw [keys_insert]
  split
  · exact h
  · rename_i hnew
    refine List.nodup_append.mpr ⟨h, List.pairwise_singleton _ _, fun k hk k' hk' heq => hnew ?_⟩
    obtain rfl := List.mem_singleton.mp hk'
    subst heq
    exact isSome_find?_of_mem hk

end OrderedMap

end StaticSite
