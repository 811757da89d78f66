/-
Which map a list of insertions makes.

A map holds a list of pairs when it has just the keys of the pairs, in the order of the first pair of
each key, and under each key the value of its last pair.  Main statements: the map that is made by
inserting the pairs one after the other holds them (`holds_ofList`), and no other map does
(`Holds.unique`).  What is seen of such a map from outside is `IsLeftBy`.  A single insertion leaves
the entries of all other keys as they are and where they are (`agreesBut_insert`).
-/
import Mathlib.Data.List.Sort
import StaticSite.OrderedMap

namespace StaticSite.OrderedMap

variable {κ α : Type} [DecidableEq κ]

/-- The last pair of the key has the value. -/
def IsLastValue (pairs : List (κ × α)) (key : κ) (value : α) : Prop :=
  ∃ before after, pairs = before ++ (key, value) :: after ∧ key ∉ after.map (·.1)

/-- Each key of the pairs is in the map, in the order of the first pairs and with the value of its
last pair, and there are no other keys. -/
structure Holds (m : OrderedMap κ α) (pairs : List (κ × α)) : Prop where
  mem_keys : ∀ key, key ∈ m.keys ↔ key ∈ pairs.map (·.1)
  order : m.keys.Pairwise fun a b => (pairs.map (·.1)).idxOf a < (pairs.map (·.1)).idxOf b
  get? : ∀ key value, m.get? key = some value ↔ IsLastValue pairs key value

/-! ## Runs of steps -/

/-- What a step keeps when one more member comes into view, a run keeps of all its members. -/
theorem foldl_keeps {σ ι : Type} {f : σ → ι → σ} {keeps : σ → List ι → Prop}
    (hstep : ∀ state seen x, keeps state seen → keeps (f state x) (seen ++ [x]))
    {state : σ} {seen : List ι} (h : keeps state seen) (more : List ι) :
    keeps (more.foldl f state) (seen ++ more) := by
  induction more generalizing state seen with
  | nil => rwa [List.append_nil]
  | cons x more ih =>
      have hrest := ih (hstep state seen x h)
      rw [List.append_assoc, List.singleton_append] at hrest
      exact hrest

/-! ## The order of first occurrences -/

section FirstOccurrence

variable {keys all : List κ} {last : κ}

/-- One more member at the end changes no first occurrence of a member. -/
theorem pairwise_idxOf_concat (h : keys.Pairwise fun a b => all.idxOf a < all.idxOf b)
    (hkeys : ∀ key ∈ keys, key ∈ all) (last : κ) :
    keys.Pairwise fun a b => (all ++ [last]).idxOf a < (all ++ [last]).idxOf b := by
  apply h.imp_of_mem
  intro a b ha hb hlt
  rwa [List.idxOf_append_of_mem (hkeys _ ha), List.idxOf_append_of_mem (hkeys _ hb)]

/-- A new member at the end comes after all others. -/
theorem pairwise_idxOf_concat_new (h : keys.Pairwise fun a b => all.idxOf a < all.idxOf b)
    (hkeys : ∀ key ∈ keys, key ∈ all) (hnew : last ∉ all) :
    (keys ++ [last]).Pairwise fun a b => (all ++ [last]).idxOf a < (all ++ [last]).idxOf b := by
  refine List.pairwise_append.mpr ⟨pairwise_idxOf_concat h hkeys last,
    List.pairwise_singleton _ _, ?_⟩
  intro a ha b hb
  obtain rfl := List.mem_singleton.mp hb
  rw [List.idxOf_append_of_mem (hkeys a ha), List.idxOf_append_of_notMem hnew]
  exact Nat.lt_of_lt_of_le (List.idxOf_lt_length_of_mem (hkeys a ha)) (Nat.le_add_right _ _)

theorem nodup_of_pairwise_idxOf (h : keys.Pairwise fun a b => all.idxOf a < all.idxOf b) :
    keys.Nodup := by
  apply h.imp
  rintro a b hlt rfl
  exact Nat.lt_irrefl _ hlt

end FirstOccurrence

/-! ## Insertion -/

omit [DecidableEq κ] in
theorem not_isLastValue_nil (key : κ) (value : α) : ¬ IsLastValue [] key value := by
  rintro ⟨before, after, h, -⟩
  cases before <;> cases h

/-- The pair at the end is the last one of its key and changes no last pair of another key. -/
theorem isLastValue_concat {pairs : List (κ × α)} {key other : κ} {value last : α} :
    IsLastValue (pairs ++ [(other, last)]) key value ↔
      if other = key then last = value else IsLastValue pairs key value := by
  constructor
  · rintro ⟨before, after, hpairs, hlast⟩
    rcases List.eq_nil_or_concat after with rfl | ⟨after, final, rfl⟩
    · obtain ⟨-, heq⟩ := List.append_inj' hpairs rfl
      cases heq
      rw [if_pos rfl]
    · rw [List.concat_eq_append, ← List.cons_append, ← List.append_assoc] at hpairs
      obtain ⟨hinit, heq⟩ := List.append_inj' hpairs rfl
      cases heq
      rw [List.concat_eq_append, List.map_append, List.mem_append, not_or] at hlast
      rw [if_neg fun heq => hlast.2 (by simp [heq])]
      exact ⟨before, after, hinit, hlast.1⟩
  · intro h
    split at h
    · rename_i heq
      rw [heq, h]
      exact ⟨pairs, [], rfl, List.not_mem_nil⟩
    · rename_i hne
      obtain ⟨before, after, rfl, hlast⟩ := h
      refine ⟨before, after ++ [(other, last)], by simp, ?_⟩
      rw [List.map_append, List.mem_append, not_or]
      exact ⟨hlast, fun hmem => hne (List.mem_singleton.mp hmem).symm⟩

theorem contains_iff {m : OrderedMap κ α} {key : κ} : m.contains key = true ↔ key ∈ m.keys := by
  constructor
  · intro h
    obtain ⟨value, hvalue⟩ := Option.isSome_iff_exists.mp h
    exact List.mem_map.mpr ⟨_, mem_of_find?_eq_some hvalue, rfl⟩
  · exact isSome_find?_of_mem

theorem mem_keys_insert {m : OrderedMap κ α} {key other : κ} {value : α} :
    other ∈ (m.insert key value).keys ↔ other ∈ m.keys ∨ other = key := by
  rw [keys_insert]
  split
  · rename_i hold
    constructor
    · exact .inl
    · rintro (h | rfl)
      · exact h
      · exact contains_iff.mp hold
  · rw [List.mem_append, List.mem_singleton]

theorem holds_empty : (∅ : OrderedMap κ α).Holds [] where
  mem_keys _ := Iff.rfl
  order := .nil
  get? key value := ⟨nofun, fun h => absurd h (not_isLastValue_nil key value)⟩

/-- An insertion counts as one more pair. -/
theorem Holds.insert {m : OrderedMap κ α} {pairs : List (κ × α)} (h : m.Holds pairs) (key : κ)
    (value : α) : (m.insert key value).Holds (pairs ++ [(key, value)]) where
  mem_keys other := by
    rw [mem_keys_insert, h.mem_keys, List.map_append, List.mem_append]
    exact or_congr_right List.mem_singleton.symm
  order := by
    have hkeys : ∀ k ∈ m.keys, k ∈ pairs.map (·.1) := fun k hk => (h.mem_keys k).mp hk
    rw [keys_insert, List.map_append]
    split
    · exact pairwise_idxOf_concat h.order hkeys key
    · rename_i hnew
      refine pairwise_idxOf_concat_new h.order hkeys fun hmem => hnew ?_
      exact contains_iff.mpr ((h.mem_keys key).mpr hmem)
  get? other result := by
    rw [isLastValue_concat]
    split
    · rename_i heq
      rw [heq, get?_insert_self, Option.some.injEq]
    · rename_i hne
      rw [get?_insert_of_ne m (Ne.symm hne), h.get?]

/-- Inserting pairs one after the other counts them all. -/
theorem Holds.insertAll {m : OrderedMap κ α} {before : List (κ × α)} (h : m.Holds before)
    (pairs : List (κ × α)) : (m.insertAll pairs).Holds (before ++ pairs) := by
  apply foldl_keeps _ h pairs
  rintro m seen ⟨key, value⟩ hseen
  exact hseen.insert key value

/-- A map made of pairs holds them. -/
theorem holds_ofList (pairs : List (κ × α)) : (ofList pairs).Holds pairs :=
  holds_empty.insertAll pairs

/-- An insertion changes no entry of another key and moves none. -/
theorem getElem?_put_of_ne {key other : κ} (h : other ≠ key) (value last : α)
    (entries : List (κ × α)) (place : Nat) :
    (put key value entries)[place]? = some (other, last) ↔
      entries[place]? = some (other, last) := by
  induction entries generalizing place with
  | nil => cases place <;> simp [put, h.symm]
  | cons entry rest ih =>
      obtain ⟨k, v⟩ := entry
      rw [put]
      split
      · rename_i hk
        subst hk
        cases place <;> simp [h.symm]
      · cases place with
        | zero => rfl
        | succ place => exact ih place

/-- All keys but one have the same values in both maps, and their entries the same places. -/
def AgreesBut (key : κ) (m m' : OrderedMap κ α) : Prop :=
  ∀ other, other ≠ key → m.get? other = m'.get? other ∧
    ∀ (place : Nat) (value : α), m.entries[place]? = some (other, value) ↔
      m'.entries[place]? = some (other, value)

theorem agreesBut_insert (m : OrderedMap κ α) (key : κ) (value : α) :
    (m.insert key value).AgreesBut key m := by
  intro other hother
  refine ⟨get?_insert_of_ne m hother value, ?_⟩
  intro place last
  exact getElem?_put_of_ne hother value last m.entries place

/-- Entries under a key that a test leaves out do not matter to it. -/
theorem filter_put {p : κ × α → Bool} {key : κ} (h : ∀ value, p (key, value) = false) (value : α)
    (entries : List (κ × α)) : (put key value entries).filter p = entries.filter p := by
  induction entries with
  | nil => simp [put, h]
  | cons entry entries ih =>
      obtain ⟨k, v⟩ := entry
      rw [put]
      split
      · rename_i hk
        simp [hk, h]
      · rw [List.filter_cons, List.filter_cons, ih]

/-! ## Uniqueness -/

theorem Holds.nodup_keys {m : OrderedMap κ α} {pairs : List (κ × α)} (h : m.Holds pairs) :
    m.keys.Nodup :=
  nodup_of_pairwise_idxOf h.order

/-- With distinct keys a map is its keys with their values. -/
theorem map_some_entries {m : OrderedMap κ α} (h : m.keys.Nodup) :
    (m.entries.map fun entry => (entry.1, some entry.2)) = m.keys.map fun key => (key, m.get? key) := by
  rw [keys, List.map_map]
  refine List.map_congr_left fun entry hentry => ?_
  have hget : m.get? entry.1 = some entry.2 := find?_of_mem h hentry
  simp [hget]

/-- Only one map holds the pairs. -/
theorem Holds.unique {m m' : OrderedMap κ α} {pairs : List (κ × α)} (h : m.Holds pairs)
    (h' : m'.Holds pairs) : m = m' := by
  let keys := pairs.map (·.1)
  have : Std.Antisymm fun a b => keys.idxOf a < keys.idxOf b :=
    ⟨fun _ _ hab hba => absurd hab (Nat.lt_asymm hba)⟩
  have : Std.Irrefl fun a b => keys.idxOf a < keys.idxOf b := ⟨fun _ => Nat.lt_irrefl _⟩
  have hkeys : m.keys = m'.keys :=
    h.order.eq_of_mem_iff h'.order fun key => (h.mem_keys key).trans (h'.mem_keys key).symm
  have hget : ∀ key, m.get? key = m'.get? key := fun key =>
    Option.ext fun value => (h.get? key value).trans (h'.get? key value).symm
  have hentries := map_some_entries h.nodup_keys
  rw [hkeys, List.map_congr_left fun key _ => congrArg (key, ·) (hget key),
    ← map_some_entries h'.nodup_keys] at hentries
  have hinjective : Function.Injective fun entry : κ × α => (entry.1, some entry.2) := by
    rintro ⟨k, v⟩ ⟨k', v'⟩ heq
    simpa using heq
  exact congrArg OrderedMap.mk (List.map_injective_iff.mpr hinjective hentries)

/-! ## What is seen of a map -/

/-- What the insertions of the pairs leave to be seen of a map: distinct keys, which are those of the
pairs in the order of the first pair of each key, and under each key the value of its last pair, and
nothing under all other keys. -/
structure IsLeftBy (pairs : List (κ × α)) (keys : List κ) (get? : κ → Option α) : Prop where
  nodup : keys.Nodup
  mem_keys : ∀ key, key ∈ keys ↔ key ∈ pairs.map (·.1)
  order : keys.Pairwise fun a b => (pairs.map (·.1)).idxOf a < (pairs.map (·.1)).idxOf b
  get?_eq_some : ∀ key value, get? key = some value ↔ IsLastValue pairs key value
  get?_eq_none : ∀ key, get? key = none ↔ key ∉ pairs.map (·.1)

theorem get?_eq_none_iff {m : OrderedMap κ α} {key : κ} : m.get? key = none ↔ key ∉ m.keys := by
  rw [← contains_iff, contains, Bool.not_eq_true, Option.isSome_eq_false_iff,
    Option.isNone_iff_eq_none]

theorem Holds.isLeftBy {m : OrderedMap κ α} {pairs : List (κ × α)} (h : m.Holds pairs) :
    IsLeftBy pairs m.keys m.get? where
  nodup := h.nodup_keys
  mem_keys := h.mem_keys
  order := h.order
  get?_eq_some := h.get?
  get?_eq_none key := get?_eq_none_iff.trans (not_congr (h.mem_keys key))

end StaticSite.OrderedMap
