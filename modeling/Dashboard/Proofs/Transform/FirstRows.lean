import Dashboard.Proofs.Transform.Duplicates
import Dashboard.Transform.Step

/-!
# Transform.FirstRows · the first row with each key stays

The removal of duplicates remembers the keys it has seen. What it keeps can be said without a
memory: the rows whose key no earlier row of the table has.

* **`firstRows`** are these rows, and **`keepFirst_eq_firstRows`** says that they are kept.
* One key is finer than another if rows that have it in common have the other in common too. Of the
  rows that are kept by a finer key, the same are kept by the coarser one as of all rows
  (**`keepFirst_of_finer`**), and of the rows that are kept by the coarser key the finer one keeps
  all (**`keepFirst_of_coarser`**).
* **`KeyOrder.canonical_key_eq`**: the key in the order of the columns is finer than the key by
  name.
* **`run?_removeDuplicates`** puts this together for the step.
-/

namespace Dashboard

/-- The rows whose key no earlier row of the list has, in their order. -/
def firstRows (key : Row → String) (rows : List Row) : List Row :=
  (rows.zipIdx.filter fun p => key p.1 ∉ (rows.take p.2).map key).map (·.1)

section keys

variable {key fine coarse : Row → String} {seen other fineSeen coarseSeen : List String}
  {front back rows : List Row} {row : Row}

/-! ## The memory -/

/-- Only the members of the memory count. -/
theorem keepFirst_congr (h : ∀ k, k ∈ seen ↔ k ∈ other) (rows : List Row) :
    keepFirst key seen rows = keepFirst key other rows := by
  induction rows generalizing seen other with
  | nil => rfl
  | cons row rest ih =>
      simp only [keepFirst, h]
      split
      · exact ih h
      · rw [ih]
        intro k
        rw [List.mem_cons, List.mem_cons, h]

/-- After some rows, the memory holds their keys. -/
theorem keepFirst_append (key : Row → String) (seen : List String) (front back : List Row) :
    keepFirst key seen (front ++ back) =
      keepFirst key seen front ++ keepFirst key (front.map key ++ seen) back := by
  induction front generalizing seen with
  | nil => rfl
  | cons row front ih =>
      rw [List.cons_append, keepFirst, keepFirst, List.map_cons, List.cons_append]
      split
      · rename_i hseen
        rw [ih]
        -- the key of a dropped row is in the memory already
        refine congrArg _ (keepFirst_congr (fun k => ?_) back)
        simp only [List.mem_cons, List.mem_append]
        refine ⟨.inr, ?_⟩
        rintro (rfl | hk)
        · exact .inr hseen
        · exact hk
      · rw [ih, List.cons_append]
        refine congrArg _ (congrArg _ (keepFirst_congr (fun k => ?_) back))
        simp only [List.mem_cons, List.mem_append]
        exact or_left_comm

/-- A row with a key that was seen before it may as well be missing. -/
theorem keepFirst_append_cons_of_mem (h : key row ∈ front.map key ++ seen) :
    keepFirst key seen (front ++ row :: back) = keepFirst key seen (front ++ back) := by
  rw [keepFirst_append, keepFirst_append, keepFirst, if_pos h]

/-! ## First rows -/

/-- One more row at the end is a first row if its key is new. -/
theorem firstRows_concat (key : Row → String) (rows : List Row) (row : Row) :
    firstRows key (rows ++ [row]) =
      firstRows key rows ++ if key row ∈ rows.map key then [] else [row] := by
  have hfront : ∀ p ∈ rows.zipIdx, (rows ++ [row]).take p.2 = rows.take p.2 := by
    intro p hp
    have hlt := List.snd_lt_of_mem_zipIdx hp
    exact List.take_append_of_le_length (by omega)
  have hkept : (rows.zipIdx.filter fun p => key p.1 ∉ ((rows ++ [row]).take p.2).map key) =
      rows.zipIdx.filter fun p => key p.1 ∉ (rows.take p.2).map key :=
    List.filter_congr fun p hp => by rw [hfront p hp]
  rw [firstRows, List.zipIdx_append, List.filter_append, hkept, List.map_append, ← firstRows]
  refine congrArg _ ?_
  by_cases hkey : key row ∈ rows.map key
  · rw [if_pos hkey]
    simp [hkey]
  · rw [if_neg hkey]
    simp [hkey]

/-- **The rows that are kept are the first rows with their key.** -/
theorem keepFirst_eq_firstRows (key : Row → String) (rows : List Row) :
    keepFirst key [] rows = firstRows key rows := by
  induction rows using List.reverseRecOn with
  | nil => rfl
  | append_singleton rows row ih =>
      rw [keepFirst_append, firstRows_concat, ih, List.append_nil]
      rfl

/-! ## Two keys -/

/-- Of the rows kept by a finer key, the same are kept by the coarser one as of all rows. -/
theorem keepFirst_of_finer (hfine : ∀ a b, fine a = fine b → coarse a = coarse b)
    (hseen : ∀ a, fine a ∈ fineSeen → coarse a ∈ coarseSeen) (rows : List Row) :
    keepFirst coarse coarseSeen (keepFirst fine fineSeen rows) =
      keepFirst coarse coarseSeen rows := by
  induction rows generalizing fineSeen coarseSeen with
  | nil => rfl
  | cons row rest ih =>
      rw [keepFirst]
      split
      · rename_i hmem
        rw [ih hseen, keepFirst, if_pos (hseen row hmem)]
      · rw [keepFirst, keepFirst]
        split
        · rename_i hmem
          refine ih fun a ha => ?_
          rcases List.mem_cons.1 ha with heq | ha
          · rwa [hfine a row heq]
          · exact hseen a ha
        · refine congrArg _ (ih fun a ha => ?_)
          rcases List.mem_cons.1 ha with heq | ha
          · exact hfine a row heq ▸ List.mem_cons_self
          · exact List.mem_cons_of_mem _ (hseen a ha)

/-- Rows with different keys are all kept. -/
theorem keepFirst_eq_self (hnodup : (rows.map key).Nodup) (hseen : ∀ row ∈ rows, key row ∉ seen) :
    keepFirst key seen rows = rows := by
  induction rows generalizing seen with
  | nil => rfl
  | cons row rest ih =>
      obtain ⟨hnot, hnodup⟩ := List.nodup_cons.1 hnodup
      rw [keepFirst, if_neg (hseen row List.mem_cons_self), ih hnodup]
      intro other hother hmem
      rcases List.mem_cons.1 hmem with heq | hmem
      · exact hnot (heq ▸ List.mem_map_of_mem hother)
      · exact hseen other (List.mem_cons_of_mem _ hother) hmem

/-- Of the rows kept by a coarser key, the finer one keeps all. -/
theorem keepFirst_of_coarser (hfine : ∀ a b, fine a = fine b → coarse a = coarse b)
    (rows : List Row) :
    keepFirst fine [] (keepFirst coarse [] rows) = keepFirst coarse [] rows := by
  refine keepFirst_eq_self ?_ fun _ _ => List.not_mem_nil
  have hcoarse := List.pairwise_map.1 (nodup_map_keepFirst coarse [] rows)
  exact List.pairwise_map.2 (hcoarse.imp fun hne heq => hne (hfine _ _ heq))

end keys

/-! ## Keys of rows -/

namespace KeyOrder

variable {a b : Row}

/-- **Rows with the same key in the order of their columns have the same key by name.** -/
theorem canonical_key_eq (h : KeyOrder.preserve.key a = KeyOrder.preserve.key b) :
    KeyOrder.canonical.key a = KeyOrder.canonical.key b := by
  rw [key_eq_iff] at h ⊢
  exact Fields.rel_get?_of_forall₂ h

/-- Rows with the same cells under the same names have the same key by name. -/
theorem canonical_key_eq_of_get?_eq (h : ∀ name, a.get? name = b.get? name) :
    KeyOrder.canonical.key a = KeyOrder.canonical.key b := by
  rw [key_eq_iff]
  intro name
  rw [h name]
  cases b.get? name with
  | none => exact .none
  | some cell => exact .some (Cell.looksAlike_iff.2 rfl)

end KeyOrder

/-! ## The step -/

/-- The step keeps the first row of each key. -/
theorem run?_removeDuplicates (order : KeyOrder) (dataset : Dataset) :
    (Step.table (.removeDuplicates order)).run? dataset = some (firstRows order.key dataset) :=
  congrArg some (keepFirst_eq_firstRows order.key dataset)

/-- **The removal of duplicates.** It keeps the rows whose key no earlier row has. So a second run
changes nothing. With columns compared by name, of two rows with the same cells under the same names
the second may as well be missing, and the table is the same whether duplicates with the same order
of columns were removed before or are removed after. -/
theorem removeDuplicates_eq_firstRows (dataset : Dataset) :
    (∀ order, (Step.table (.removeDuplicates order)).run? dataset =
      some (firstRows order.key dataset)) ∧
    (∀ order, ((Step.table (.removeDuplicates order)).run? dataset).bind
        (Step.table (.removeDuplicates order)).run? =
      (Step.table (.removeDuplicates order)).run? dataset) ∧
    (∀ (front between back : Dataset) (a b : Row),
      dataset = front ++ a :: (between ++ b :: back) → (∀ name, a.get? name = b.get? name) →
        (Step.table (.removeDuplicates .canonical)).run? dataset =
          (Step.table (.removeDuplicates .canonical)).run? (front ++ a :: (between ++ back))) ∧
    ((Step.table (.removeDuplicates .preserve)).run? dataset).bind
        (Step.table (.removeDuplicates .canonical)).run? =
      (Step.table (.removeDuplicates .canonical)).run? dataset ∧
    ((Step.table (.removeDuplicates .canonical)).run? dataset).bind
        (Step.table (.removeDuplicates .preserve)).run? =
      (Step.table (.removeDuplicates .canonical)).run? dataset := by
  simp only [run?_removeDuplicates, Option.bind_some, Option.some.injEq, ← keepFirst_eq_firstRows]
  refine ⟨fun _ => trivial, fun order => keepFirst_of_coarser (fun _ _ => id) dataset, ?_,
    keepFirst_of_finer (fun _ _ => KeyOrder.canonical_key_eq)
      (fun _ hmem => absurd hmem List.not_mem_nil) dataset,
    keepFirst_of_coarser (fun _ _ => KeyOrder.canonical_key_eq) dataset⟩
  rintro front between back a b rfl hcells
  have hseen : KeyOrder.canonical.key b ∈
      (front ++ a :: between).map KeyOrder.canonical.key ++ [] := by
    rw [List.append_nil, ← KeyOrder.canonical_key_eq_of_get?_eq hcells]
    exact List.mem_map_of_mem (by simp)
  have hdrop := @keepFirst_append_cons_of_mem _ [] (front ++ a :: between) back b hseen
  simpa only [List.append_assoc, List.cons_append] using hdrop

/-- Two rows that differ in the order of their columns. -/
def swappedColumns : Dataset :=
  [.ofList [("city", .text "Oslo"), ("sold", .number (.ofNat 3))],
    .ofList [("sold", .number (.ofNat 3)), ("city", .text "Oslo")]]

/-- They count once if columns are compared by name. -/
theorem removeDuplicates_swappedColumns :
    (∀ name, (Row.ofList [("city", .text "Oslo"), ("sold", .number (.ofNat 3))]).get? name =
      (Row.ofList [("sold", .number (.ofNat 3)), ("city", .text "Oslo")]).get? name) ∧
    (Step.table (.removeDuplicates .canonical)).run? swappedColumns =
      (Step.table (.removeDuplicates .canonical)).run? (swappedColumns.take 1) := by
  have hcells : ∀ name, (Row.ofList [("city", .text "Oslo"), ("sold", .number (.ofNat 3))]).get?
      name = (Row.ofList [("sold", .number (.ofNat 3)), ("city", .text "Oslo")]).get? name := by
    intro name
    by_cases hcity : name = "city"
    · subst hcity
      rfl
    · by_cases hsold : name = "sold"
      · subst hsold
        rfl
      · simp only [Row.ofList, List.foldl_cons, List.foldl_nil, Row.get?_insert_of_ne _ _ hcity,
          Row.get?_insert_of_ne _ _ hsold]
  exact ⟨hcells, (removeDuplicates_eq_firstRows swappedColumns).2.2.1 [] [] [] _ _ rfl hcells⟩

end Dashboard
