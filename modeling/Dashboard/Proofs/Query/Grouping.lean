import Dashboard.Proofs.FirstSeen
import Dashboard.Query.Grouping
import Mathlib.Data.List.Induction

/-!
# Query.Grouping · groups are what their items say

Groups keep their values in a row and find them through an index. Seen from outside there are the
keys in order and the value of each key, and an update is described in these words.

* **`Groups.Coherent`** is the invariant that ties the index to the entries. The empty groups have
  it and every update keeps it.
* **`keys_update_of_mem`**, **`keys_update_of_notMem`**, **`get?_update_self`**,
  **`get?_update_of_ne`** say what one update does to coherent groups.
* **`Groups.collect`** updates once for each item of a list. **`toList_collect`**: the groups then
  hold, for each key of the items, the value that comes from the items with that key in their order,
  and **`firstSeen_keys_collect`**: the keys stand in order of first appearance.
-/

namespace Dashboard

namespace Groups

variable {α : Type} {groups : Groups α} {key k : String} {place : Nat} {initial v : α} {f : α → α}

/-- The keys in the order of first use. -/
def keys (groups : Groups α) : List String := groups.toList.map (·.1)

/-- The index knows the places of the keys, and nothing else. -/
structure Coherent (groups : Groups α) : Prop where
  index_eq_some_iff : ∀ {key : String} {place : Nat},
    groups.index[key]? = some place ↔ groups.keys[place]? = some key

/-! ## Reading coherent groups -/

/-- There are as many keys as entries. -/
theorem length_keys : groups.keys.length = groups.entries.size := by
  simp [keys, toList]

/-- The key in a place is that of the entry there. -/
theorem keys_getElem? : groups.keys[place]? = (groups.entries[place]?).map (·.1) := by
  simp [keys, toList]

/-- A key without a place is not there. -/
theorem Coherent.index_eq_none_iff (h : groups.Coherent) :
    groups.index[key]? = none ↔ key ∉ groups.keys := by
  rw [List.mem_iff_getElem?, Option.eq_none_iff_forall_ne_some, not_exists]
  exact forall_congr' fun place => not_congr h.index_eq_some_iff

/-- Looking a key up finds the value that stands beside it. -/
theorem Coherent.get?_eq_some_iff (h : groups.Coherent) :
    groups.get? key = some v ↔ (key, v) ∈ groups.toList := by
  have hunfold : groups.get? key = some v ↔
      ∃ place, groups.index[key]? = some place ∧
        ∃ entry, groups.entries[place]? = some entry ∧ entry.2 = v := by
    simp only [get?, Option.bind_eq_bind, Option.bind_eq_some_iff, Option.some.injEq]
  rw [hunfold, toList, Array.mem_toList_iff, Array.mem_iff_getElem?]
  constructor
  · rintro ⟨place, hplace, ⟨k, w⟩, hentry, rfl⟩
    have hkey := h.index_eq_some_iff.1 hplace
    rw [keys_getElem?, hentry] at hkey
    obtain rfl := Option.some.inj hkey
    exact ⟨place, hentry⟩
  · rintro ⟨place, hentry⟩
    refine ⟨place, h.index_eq_some_iff.2 ?_, (key, v), hentry, rfl⟩
    rw [keys_getElem?, hentry]
    rfl

/-- A key without a group is not there. -/
theorem Coherent.get?_eq_none_iff (h : groups.Coherent) :
    groups.get? key = none ↔ key ∉ groups.keys := by
  rw [Option.eq_none_iff_forall_ne_some]
  simp only [ne_eq, h.get?_eq_some_iff, keys, List.mem_map, Prod.exists]
  constructor
  · rintro hnone ⟨k, v, hmem, rfl⟩
    exact hnone v hmem
  · intro hkey v hmem
    exact hkey ⟨key, v, hmem, rfl⟩

/-! ## One update -/

/-- Without groups the index is coherent. -/
theorem coherent_empty : (empty : Groups α).Coherent where
  index_eq_some_iff := by simp [empty, keys, toList]

/-- At a key that is there, an update changes the entry in its place. -/
theorem Coherent.update_of_mem (h : groups.Coherent) (hkey : key ∈ groups.keys) (initial : α)
    (f : α → α) :
    ∃ place, groups.index[key]? = some place ∧
      groups.update key initial f = { groups with
        entries := groups.entries.modify place fun entry => (entry.1, f entry.2) } := by
  obtain ⟨place, hplace⟩ := List.mem_iff_getElem?.1 hkey
  have hindex := h.index_eq_some_iff.2 hplace
  refine ⟨place, hindex, ?_⟩
  rw [update, hindex]

/-- At a new key, an update puts an entry at the end. -/
theorem Coherent.update_of_notMem (h : groups.Coherent) (hkey : key ∉ groups.keys) (initial : α)
    (f : α → α) :
    groups.update key initial f =
      { index := groups.index.insert key groups.entries.size
        entries := groups.entries.push (key, f initial) } := by
  rw [update, h.index_eq_none_iff.2 hkey]

/-- At a key that is there, the keys stay as they are. -/
theorem Coherent.keys_update_of_mem (h : groups.Coherent) (hkey : key ∈ groups.keys) :
    (groups.update key initial f).keys = groups.keys := by
  obtain ⟨place, -, hupdate⟩ := h.update_of_mem hkey initial f
  rw [hupdate]
  apply List.ext_getElem?
  intro i
  rw [keys_getElem?, keys_getElem?, Array.getElem?_modify]
  split
  · rw [Option.map_map]
    rfl
  · rfl

/-- A new key goes to the end. -/
theorem Coherent.keys_update_of_notMem (h : groups.Coherent) (hkey : key ∉ groups.keys) :
    (groups.update key initial f).keys = groups.keys ++ [key] := by
  rw [h.update_of_notMem hkey]
  simp [keys, toList]

/-- The places after a key was put at the end. -/
theorem getElem?_concat_eq_some_iff {keys : List String} :
    (keys ++ [key])[place]? = some k ↔
      keys[place]? = some k ∨ place = keys.length ∧ key = k := by
  rw [List.getElem?_append]
  split
  · rename_i hlt
    have hne : place ≠ keys.length := Nat.ne_of_lt hlt
    simp [hne]
  · rename_i hge
    have hnone : keys[place]? = none := List.getElem?_eq_none (Nat.le_of_not_lt hge)
    rw [hnone, List.getElem?_singleton]
    split <;> simp <;> omega

/-- An update keeps the index in step with the entries. -/
theorem Coherent.update (h : groups.Coherent) (key : String) (initial : α) (f : α → α) :
    (groups.update key initial f).Coherent := by
  constructor
  intro k i
  by_cases hkey : key ∈ groups.keys
  · rw [h.keys_update_of_mem hkey]
    obtain ⟨place, -, hupdate⟩ := h.update_of_mem hkey initial f
    rw [hupdate]
    exact h.index_eq_some_iff
  · have hnone := h.index_eq_none_iff.2 hkey
    rw [h.keys_update_of_notMem hkey, h.update_of_notMem hkey, getElem?_concat_eq_some_iff,
      Std.HashMap.getElem?_insert, ← length_keys, ← h.index_eq_some_iff]
    by_cases hk : key = k
    · subst hk
      simp [hnone, eq_comm]
    · simp [hk]

/-- The value of the key that is updated; a new key starts from `initial`. -/
theorem Coherent.get?_update_self (h : groups.Coherent) :
    (groups.update key initial f).get? key = some (f ((groups.get? key).getD initial)) := by
  by_cases hkey : key ∈ groups.keys
  · obtain ⟨place, hindex, hupdate⟩ := h.update_of_mem hkey initial f
    have hplace := h.index_eq_some_iff.1 hindex
    rw [keys_getElem?, Option.map_eq_some_iff] at hplace
    obtain ⟨entry, hentry, -⟩ := hplace
    rw [hupdate]
    simp [get?, hindex, hentry, Array.getElem?_modify]
  · have hnone := h.index_eq_none_iff.2 hkey
    rw [h.update_of_notMem hkey]
    simp [get?, hnone]

/-- The other keys keep their values. -/
theorem Coherent.get?_update_of_ne (h : groups.Coherent) (hne : k ≠ key) :
    (groups.update key initial f).get? k = groups.get? k := by
  by_cases hkey : key ∈ groups.keys
  · obtain ⟨place, hindex, hupdate⟩ := h.update_of_mem hkey initial f
    rw [hupdate]
    cases hk : groups.index[k]? with
    | none => simp [get?, hk]
    | some i =>
        -- two keys do not share a place
        have hi : place ≠ i := by
          rintro rfl
          have hplace := h.index_eq_some_iff.1 hindex
          exact hne (Option.some.inj ((h.index_eq_some_iff.1 hk).symm.trans hplace))
        simp [get?, hk, Array.getElem?_modify, hi]
  · rw [h.update_of_notMem hkey]
    cases hk : groups.index[k]? with
    | none => simp [get?, hk, Std.HashMap.getElem?_insert, hne.symm]
    | some i =>
        have hi : i ≠ groups.entries.size := by
          rintro rfl
          have hlast := h.index_eq_some_iff.1 hk
          rw [← length_keys, List.getElem?_eq_none (Nat.le_refl _)] at hlast
          cases hlast
        simp [get?, hk, Std.HashMap.getElem?_insert, hne.symm, Array.getElem?_push, hi]

/-! ## One update for each item -/

section collect

variable {β : Type} (keyOf : β → String) (initial : α) (step : α → β → α)

/-- The groups of a list of items: each item changes the value of its key. -/
def collect (items : List β) : Groups α :=
  items.foldl (fun groups item => groups.update (keyOf item) initial (step · item)) .empty

variable (items : List β)

/-- A last item is put into the group of its key. -/
theorem collect_concat (item : β) :
    collect keyOf initial step (items ++ [item]) =
      (collect keyOf initial step items).update (keyOf item) initial (step · item) := by
  rw [collect, List.foldl_append]
  rfl

/-- Collecting keeps the index coherent. -/
theorem coherent_collect : (collect keyOf initial step items).Coherent := by
  induction items using List.reverseRecOn with
  | nil => exact coherent_empty
  | append_singleton items item ih =>
      rw [collect_concat]
      exact ih.update _ _ _

/-- The keys are those of the items, in order of first appearance. -/
theorem firstSeen_keys_collect :
    FirstSeen (collect keyOf initial step items).keys (items.map keyOf) := by
  induction items using List.reverseRecOn with
  | nil => exact firstSeen_nil
  | append_singleton items item ih =>
      have hcoherent := coherent_collect keyOf initial step items
      rw [collect_concat, List.map_append]
      by_cases hkey : keyOf item ∈ (collect keyOf initial step items).keys
      · rw [hcoherent.keys_update_of_mem hkey]
        exact ih.concat_of_mem hkey
      · rw [hcoherent.keys_update_of_notMem hkey]
        exact ih.concat_of_notMem hkey

/-- The value of a key comes from the items with that key, in their order. -/
theorem getD_get?_collect (k : String) :
    ((collect keyOf initial step items).get? k).getD initial =
      (items.filter fun item => keyOf item = k).foldl step initial := by
  induction items using List.reverseRecOn with
  | nil => simp [collect, empty, get?]
  | append_singleton items item ih =>
      have hcoherent := coherent_collect keyOf initial step items
      rw [collect_concat, List.filter_append, List.foldl_append, ← ih]
      by_cases hk : k = keyOf item
      · subst hk
        rw [hcoherent.get?_update_self]
        simp
      · rw [hcoherent.get?_update_of_ne hk]
        simp [Ne.symm hk]

/-- What the groups of a list hold: its keys, and for each of them the value that comes from the
items with that key. -/
theorem toList_collect :
    (collect keyOf initial step items).toList =
      (collect keyOf initial step items).keys.map fun k =>
        (k, (items.filter fun item => keyOf item = k).foldl step initial) := by
  rw [keys, List.map_map]
  conv_lhs => rw [← List.map_id (collect keyOf initial step items).toList]
  apply List.map_congr_left
  rintro ⟨k, v⟩ hmem
  have hget := (coherent_collect keyOf initial step items).get?_eq_some_iff.2 hmem
  have hvalue := getD_get?_collect keyOf initial step items k
  rw [hget] at hvalue
  exact Prod.ext rfl hvalue

/-- A key has a value if there are items with that key, and then it comes from them. -/
theorem get?_collect (k : String) :
    (collect keyOf initial step items).get? k =
      if (items.filter fun item => keyOf item = k).isEmpty then none
      else some ((items.filter fun item => keyOf item = k).foldl step initial) := by
  have hnone : (collect keyOf initial step items).get? k = none ↔ k ∉ items.map keyOf := by
    rw [(coherent_collect keyOf initial step items).get?_eq_none_iff,
      (firstSeen_keys_collect keyOf initial step items).mem_iff]
  have hempty : (items.filter fun item => keyOf item = k).isEmpty = true ↔
      k ∉ items.map keyOf := by
    simp [List.filter_eq_nil_iff]
  split
  · rename_i h
    exact hnone.2 (hempty.1 h)
  · rename_i h
    obtain ⟨v, hget⟩ := Option.ne_none_iff_exists'.1 fun hget => h (hempty.2 (hnone.1 hget))
    rw [← getD_get?_collect, hget]
    rfl

end collect

end Groups

end Dashboard
