import Mathlib.Data.List.Basic
import Mathlib.Data.List.Nodup

/-!
# FirstSeen · lists without repetitions, in order of first appearance

Groups, columns and references are listed once each, in the order in which they first appear.

* **`FirstSeen keys items`** says that `keys` lists the members of `items` in this way. There is
  only one such list (`FirstSeen.eq`).
* **`FirstSeen.concat_of_mem`**, **`FirstSeen.concat_of_notMem`** say what one more item does.
* **`perm_flatMap_filter`**: the parts that the keys cut out of a list make up the whole list.
-/

namespace Dashboard

variable {α β : Type} [DecidableEq α]

/-- The members of `items`, in the order in which they first appear there. -/
structure FirstSeen (keys items : List α) : Prop where
  mem_iff : ∀ {k : α}, k ∈ keys ↔ k ∈ items
  ordered : keys.Pairwise fun a b => items.idxOf a < items.idxOf b

section firstSeen

variable {keys keys' items : List α} {item : α}

/-- In an empty list nothing is seen. -/
theorem firstSeen_nil : FirstSeen ([] : List α) [] := ⟨Iff.rfl, List.Pairwise.nil⟩

/-- Where all items are the same, there is one to list. -/
theorem firstSeen_singleton (hne : items ≠ []) (hall : ∀ k ∈ items, k = item) :
    FirstSeen [item] items where
  mem_iff {k} := by
    rw [List.mem_singleton]
    constructor
    · rintro rfl
      obtain ⟨k', hk'⟩ := List.exists_mem_of_ne_nil items hne
      exact hall k' hk' ▸ hk'
    · exact hall k
  ordered := List.pairwise_singleton _ _

/-- No member is listed twice. -/
theorem FirstSeen.nodup (h : FirstSeen keys items) : keys.Nodup := by
  apply List.nodup_iff_pairwise_ne.2
  apply h.ordered.imp
  rintro a _ hlt rfl
  exact Nat.lt_irrefl _ hlt

/-- There are no keys exactly if there are no items. -/
theorem FirstSeen.eq_nil_iff (h : FirstSeen keys items) : keys = [] ↔ items = [] := by
  simp only [List.eq_nil_iff_forall_not_mem, h.mem_iff]

/-- The order of first appearance leaves no choice. -/
theorem FirstSeen.eq (h : FirstSeen keys items) (h' : FirstSeen keys' items) : keys = keys' := by
  have hperm : keys.Perm keys' := by
    rw [List.perm_ext_iff_of_nodup h.nodup h'.nodup]
    intro k
    rw [h.mem_iff, h'.mem_iff]
  apply hperm.eq_of_pairwise _ h.ordered h'.ordered
  intro a b _ _ hab hba
  exact absurd hab (Nat.lt_asymm hba)

/-- What is appended does not move first appearances. -/
theorem FirstSeen.ordered_append (h : FirstSeen keys items) (more : List α) :
    keys.Pairwise fun a b => (items ++ more).idxOf a < (items ++ more).idxOf b := by
  apply h.ordered.imp_of_mem
  intro a b ha hb hlt
  rwa [List.idxOf_append_of_mem (h.mem_iff.1 ha), List.idxOf_append_of_mem (h.mem_iff.1 hb)]

/-- An item that was seen before changes nothing. -/
theorem FirstSeen.concat_of_mem (h : FirstSeen keys items) (hitem : item ∈ keys) :
    FirstSeen keys (items ++ [item]) where
  mem_iff {k} := by
    rw [List.mem_append, List.mem_singleton, h.mem_iff]
    constructor
    · exact Or.inl
    · rintro (hk | rfl)
      · exact hk
      · exact h.mem_iff.1 hitem
  ordered := h.ordered_append [item]

/-- A new item goes to the end. -/
theorem FirstSeen.concat_of_notMem (h : FirstSeen keys items) (hitem : item ∉ keys) :
    FirstSeen (keys ++ [item]) (items ++ [item]) where
  mem_iff {k} := by
    rw [List.mem_append, List.mem_append, h.mem_iff]
  ordered := by
    rw [List.pairwise_append]
    refine ⟨h.ordered_append [item], List.pairwise_singleton _ _, ?_⟩
    intro a ha b hb
    obtain rfl := List.mem_singleton.1 hb
    have hnew : b ∉ items := fun hmem => hitem (h.mem_iff.2 hmem)
    have hseen : items.idxOf a < items.length := List.idxOf_lt_length_iff.2 (h.mem_iff.1 ha)
    rw [List.idxOf_append_of_mem (h.mem_iff.1 ha), List.idxOf_append_of_notMem hnew]
    omega

end firstSeen

/-! ## Parts of a list -/

/-- The parts of a list that distinct keys cut out make up the members that have one of the
keys. -/
theorem perm_flatMap_filter_mem (key : β → α) (items : List β) {keys : List α} (h : keys.Nodup) :
    (keys.flatMap fun k => items.filter fun item => key item = k).Perm
      (items.filter fun item => key item ∈ keys) := by
  induction keys with
  | nil => simp
  | cons k rest ih =>
      obtain ⟨hk, hrest⟩ := List.nodup_cons.1 h
      -- among the members with one of the keys, first those with `k`, then the others
      have hsplit := List.filter_append_perm (fun item => key item = k)
        (items.filter fun item => key item ∈ k :: rest)
      have hfirst : (items.filter fun item => key item ∈ k :: rest).filter
          (fun item => key item = k) = items.filter fun item => key item = k := by
        rw [List.filter_filter]
        apply List.filter_congr
        intro item _
        by_cases heq : key item = k <;> simp [heq]
      have hothers : (items.filter fun item => key item ∈ k :: rest).filter
          (fun item => !decide (key item = k)) = items.filter fun item => key item ∈ rest := by
        rw [List.filter_filter]
        apply List.filter_congr
        intro item _
        by_cases heq : key item = k
        · simp [heq, hk]
        · simp [heq]
      rw [hfirst, hothers] at hsplit
      rw [List.flatMap_cons]
      exact ((ih hrest).append_left _).trans hsplit

/-- The parts of a list by its own keys make up the whole list: every item stands in one part. -/
theorem perm_flatMap_filter (key : β → α) {items : List β} {keys : List α}
    (h : FirstSeen keys (items.map key)) :
    (keys.flatMap fun k => items.filter fun item => key item = k).Perm items := by
  have hall : (items.filter fun item => key item ∈ keys) = items := by
    apply List.filter_eq_self.2
    intro item hitem
    exact decide_eq_true (h.mem_iff.2 (List.mem_map_of_mem hitem))
  have hparts := perm_flatMap_filter_mem key items h.nodup
  rwa [hall] at hparts

end Dashboard
