import Dashboard.Proofs.Row.Likeness
import Dashboard.Transform.Step

/-!
# Transform.Duplicates · which rows count as duplicates

Duplicates are found by the JSON text of rows. A row is dropped if an earlier kept row has the same
text, and that is nearly to say that the two rows are identical: null and the numbers that are not
finite have one text.

* **`DropsOnly alike`**: a list of rows with some of them left out, each for an earlier kept row
  that it is alike.
* **`KeyOrder.key_eq_iff`**: rows have the same key exactly if they look alike.
* **`dropsOnly_removeDuplicates_iff`**: every dropped row looks like an earlier kept row. It is
  identical to one exactly if the table has no two rows that look alike and are not identical, as
  in a table of finite numbers (`dropsOnly_removeDuplicates_of_isFinite`).
-/

namespace Dashboard

/-! ## Leaving rows out -/

/-- The result holds the rows in order, but for rows that are alike an earlier row of the result.
Rows that were kept before count as earlier. -/
inductive DropsOnly (alike : Row → Row → Prop) : List Row → List Row → List Row → Prop
  | nil {kept : List Row} : DropsOnly alike kept [] []
  | keep {kept rest result : List Row} {row : Row} (h : DropsOnly alike (row :: kept) rest result) :
      DropsOnly alike kept (row :: rest) (row :: result)
  | drop {kept rest result : List Row} {row earlier : Row} (hearlier : earlier ∈ kept)
      (halike : alike earlier row) (h : DropsOnly alike kept rest result) :
      DropsOnly alike kept (row :: rest) result

section keys

variable {alike : Row → Row → Prop} {key : Row → String} {seen : List String}
  {kept rows result : List Row} {row : Row}

/-- Every row is alike a row that was kept, be it itself. -/
theorem DropsOnly.exists_alike (h : DropsOnly alike kept rows result) (hrefl : ∀ row, alike row row)
    (hrow : row ∈ rows) : ∃ other ∈ kept ++ result, alike other row := by
  induction h with
  | nil => cases hrow
  | @keep kept rest result first _ ih =>
      rcases List.mem_cons.1 hrow with rfl | hrow
      · exact ⟨row, List.mem_append_right _ List.mem_cons_self, hrefl row⟩
      · obtain ⟨other, hother, halike⟩ := ih hrow
        refine ⟨other, ?_, halike⟩
        simp only [List.cons_append, List.mem_cons, List.mem_append] at hother ⊢
        exact or_left_comm.1 hother
  | @drop kept rest result first earlier hearlier halike _ ih =>
      rcases List.mem_cons.1 hrow with rfl | hrow
      · exact ⟨earlier, List.mem_append_left _ hearlier, halike⟩
      · exact ih hrow

/-- A row that is kept has a key that was not seen before. -/
theorem key_notMem_of_mem_keepFirst (hrow : row ∈ keepFirst key seen rows) : key row ∉ seen := by
  induction rows generalizing seen with
  | nil => cases hrow
  | cons first rest ih =>
      rw [keepFirst] at hrow
      split at hrow
      · exact ih hrow
      · rename_i hnot
        rcases List.mem_cons.1 hrow with rfl | hrow
        · exact hnot
        · exact fun hseen => ih hrow (List.mem_cons_of_mem _ hseen)

/-- No two kept rows have the same key. -/
theorem nodup_map_keepFirst (key : Row → String) (seen : List String) (rows : List Row) :
    ((keepFirst key seen rows).map key).Nodup := by
  induction rows generalizing seen with
  | nil => exact .nil
  | cons first rest ih =>
      rw [keepFirst]
      split
      · exact ih seen
      · refine List.nodup_cons.2 ⟨fun hmem => ?_, ih _⟩
        obtain ⟨row, hrow, heq⟩ := List.mem_map.1 hmem
        exact key_notMem_of_mem_keepFirst hrow (heq ▸ List.mem_cons_self)

/-- A row is dropped for the first one with its key. -/
theorem dropsOnly_keepFirst
    (h : ∀ a ∈ kept ++ rows, ∀ b ∈ kept ++ rows, key a = key b → alike a b) :
    DropsOnly alike kept rows (keepFirst key (kept.map key) rows) := by
  induction rows generalizing kept with
  | nil => exact .nil
  | cons row rest ih =>
      have hrow : row ∈ kept ++ row :: rest := List.mem_append_right _ List.mem_cons_self
      rw [keepFirst]
      split
      · rename_i hseen
        obtain ⟨earlier, hearlier, hkey⟩ := List.mem_map.1 hseen
        refine .drop hearlier (h _ (List.mem_append_left _ hearlier) _ hrow hkey) (ih ?_)
        intro a ha b hb
        have hsub : kept ++ rest ⊆ kept ++ row :: rest :=
          ((List.sublist_cons_self row rest).append_left kept).subset
        exact h a (hsub ha) b (hsub hb)
      · refine .keep (@ih (row :: kept) ?_)
        intro a ha b hb
        have hsub : row :: kept ++ rest ⊆ kept ++ row :: rest :=
          (List.perm_middle (a := row)).symm.subset
        exact h a (hsub ha) b (hsub hb)

/-- Rows are dropped only for rows that they are alike exactly if the same key means to be alike. -/
theorem dropsOnly_keepFirst_iff (hequiv : Equivalence alike)
    (hkey : ∀ a b, alike a b → key a = key b) :
    DropsOnly alike [] rows (keepFirst key [] rows) ↔
      ∀ a ∈ rows, ∀ b ∈ rows, key a = key b → alike a b := by
  constructor
  · intro h a ha b hb heq
    obtain ⟨a', ha', haa⟩ := h.exists_alike hequiv.refl ha
    obtain ⟨b', hb', hbb⟩ := h.exists_alike hequiv.refl hb
    have hkeys : key a' = key b' := by rw [hkey _ _ haa, heq, hkey _ _ hbb]
    -- kept rows with the same key are one row
    obtain rfl : a' = b' :=
      List.inj_on_of_nodup_map (nodup_map_keepFirst key [] rows) ha' hb' hkeys
    exact hequiv.trans (hequiv.symm haa) hbb
  · exact fun h => @dropsOnly_keepFirst alike key [] rows h

end keys

/-! ## Keys of rows -/

namespace KeyOrder

variable {order : KeyOrder} {related : Cell → Cell → Prop} {a b : Row}

/-- The same names with related cells: in the same order, or in any order. -/
def Alike (order : KeyOrder) (related : Cell → Cell → Prop) (a b : Row) : Prop :=
  match order with
  | .preserve => a.Alike related b
  | .canonical => a.AlikeByName related b

/-- The names with what a function makes of their cells, in the order that counts. -/
def mapped {α : Type} (order : KeyOrder) (f : Cell → α) (row : Row) : List (String × α) :=
  match order with
  | .preserve => row.mapped f
  | .canonical => row.sorted.mapped f

/-- Rows are alike exactly if a function that decides about the cells makes the same of them. -/
theorem alike_iff {α : Type} {f : Cell → α} (h : ∀ c d, related c d ↔ f c = f d) :
    order.Alike related a b ↔ order.mapped f a = order.mapped f b := by
  cases order with
  | preserve => exact Row.alike_iff h
  | canonical => exact Row.alike_sorted_iff.symm.trans (Row.alike_iff h)

/-- **Rows have the same key exactly if they look alike.** -/
theorem key_eq_iff : order.key a = order.key b ↔ order.Alike Cell.LooksAlike a b := by
  cases order with
  | preserve => exact Row.toJson_eq_iff
  | canonical => exact Row.toJson_sorted_eq_iff

/-- Being alike with identical cells is an equivalence. -/
theorem equivalence_alike_identical (order : KeyOrder) :
    Equivalence (order.Alike Cell.Identical) := by
  have h (a b : Row) := @alike_iff order Cell.Identical a b _ Cell.representative
    fun _ _ => Cell.identical_iff
  exact ⟨fun a => (h a a).2 rfl, fun hab => (h _ _).2 ((h _ _).1 hab).symm,
    fun hab hbc => (h _ _).2 (((h _ _).1 hab).trans ((h _ _).1 hbc))⟩

/-- Rows with related cells are alike with cells in a weaker relation. -/
theorem Alike.imp {weaker : Cell → Cell → Prop} (h : order.Alike related a b)
    (himp : ∀ c ∈ a.cells, ∀ d ∈ b.cells, related c d → weaker c d) : order.Alike weaker a b := by
  cases order with
  | preserve =>
      obtain ⟨hlength, hcells⟩ := List.forall₂_iff_zip.1 h
      refine List.forall₂_iff_zip.2 ⟨hlength, fun {f g} hmem => ?_⟩
      obtain ⟨hf, hg⟩ := List.of_mem_zip hmem
      obtain ⟨hname, hcell⟩ := hcells hmem
      exact ⟨hname, himp _ (List.mem_map_of_mem hf) _ (List.mem_map_of_mem hg) hcell⟩
  | canonical =>
      intro name
      have hname := h name
      cases hc : a.get? name <;> cases hd : b.get? name <;> rw [hc, hd] at hname
      · exact .none
      · cases hname
      · cases hname
      · obtain ⟨hcell⟩ := hname
        have hca := List.mem_map_of_mem (f := Prod.snd) (Row.get?_eq_some_iff.1 hc)
        have hdb := List.mem_map_of_mem (f := Prod.snd) (Row.get?_eq_some_iff.1 hd)
        exact .some (himp _ hca _ hdb hcell)

end KeyOrder

/-! ## Tables -/

section tables

variable {order : KeyOrder} {dataset : Dataset} {a b : Row}

/-- Finite cells that look alike are identical. -/
theorem Cell.LooksAlike.identical_of_isFinite {c d : Cell} (h : c.LooksAlike d)
    (hc : c.isFinite = true) (hd : d.isFinite = true) : c.Identical d := by
  rcases h with h | ⟨hc', hd'⟩
  · exact h
  · have hnull : ∀ cell : Cell, cell.isFinite = true → cell.isWrittenNull = true →
        cell = .null := by
      intro cell hfin hwritten
      cases cell <;> simp_all [isWrittenNull, isFinite]
    rw [hnull c hc hc', hnull d hd hd']
    trivial

/-- Rows with identical cells look alike. -/
theorem KeyOrder.Alike.looksAlike (h : order.Alike Cell.Identical a b) :
    order.Alike Cell.LooksAlike a b := h.imp fun _ _ _ _ => Or.inl

/-- Only identical rows are dropped exactly if all rows that look alike are identical. -/
theorem dropsOnly_removeDuplicates_identical_iff (order : KeyOrder) (dataset : Dataset) :
    DropsOnly (order.Alike Cell.Identical) [] dataset
        ((TableChange.removeDuplicates order).apply dataset) ↔
      ∀ a ∈ dataset, ∀ b ∈ dataset, order.Alike Cell.LooksAlike a b →
        order.Alike Cell.Identical a b := by
  rw [TableChange.apply, dropsOnly_keepFirst_iff order.equivalence_alike_identical
    fun _ _ h => KeyOrder.key_eq_iff.2 h.looksAlike]
  simp only [KeyOrder.key_eq_iff]

/-- In a table of finite numbers every dropped row is identical to an earlier kept row. -/
theorem dropsOnly_removeDuplicates_of_isFinite
    (h : ∀ row ∈ dataset, ∀ cell ∈ row.cells, cell.isFinite = true) :
    DropsOnly (order.Alike Cell.Identical) [] dataset
      ((TableChange.removeDuplicates order).apply dataset) := by
  rw [dropsOnly_removeDuplicates_identical_iff]
  intro a ha b hb halike
  exact halike.imp fun c hc d hd hcell => hcell.identical_of_isFinite (h a ha c hc) (h b hb d hd)

/-- **What a table loses with its duplicates.** Every dropped row looks like an earlier kept row,
and no two kept rows look alike. The dropped rows are identical to earlier kept rows exactly if rows
of the table that look alike are identical. -/
theorem dropsOnly_removeDuplicates_iff (order : KeyOrder) (dataset : Dataset) :
    DropsOnly (order.Alike Cell.LooksAlike) [] dataset
        ((TableChange.removeDuplicates order).apply dataset) ∧
      ((TableChange.removeDuplicates order).apply dataset).Pairwise
        (fun a b => ¬order.Alike Cell.LooksAlike a b) ∧
      (DropsOnly (order.Alike Cell.Identical) [] dataset
          ((TableChange.removeDuplicates order).apply dataset) ↔
        ∀ a ∈ dataset, ∀ b ∈ dataset, order.Alike Cell.LooksAlike a b →
          order.Alike Cell.Identical a b) := by
  refine ⟨?_, ?_, dropsOnly_removeDuplicates_identical_iff order dataset⟩
  · exact @dropsOnly_keepFirst _ _ [] _ fun _ _ _ _ => KeyOrder.key_eq_iff.1
  · have hkeys := nodup_map_keepFirst order.key [] dataset
    exact (List.pairwise_map.1 hkeys).imp fun hne halike => hne (KeyOrder.key_eq_iff.2 halike)

/-- A row with an infinite number and a row with null. -/
def infiniteAndNull : Dataset :=
  [.ofList [("a", .number (.infinite false))], .ofList [("a", .null)]]

/-- A step can make an infinite number of a text. Its row has the text of a row with null, which is
then dropped although it is identical to no other row. -/
theorem not_dropsOnly_infiniteAndNull :
    (Step.cells "a" .toNumber).run?
        [.ofList [("a", .text "Infinity")], .ofList [("a", .null)]] = some infiniteAndNull ∧
      ∀ order, (TableChange.removeDuplicates order).apply infiniteAndNull =
          [.ofList [("a", .number (.infinite false))]] ∧
        ¬DropsOnly (order.Alike Cell.Identical) [] infiniteAndNull
          ((TableChange.removeDuplicates order).apply infiniteAndNull) := by
  refine ⟨by decide +kernel, fun order => ⟨by cases order <;> decide +kernel, ?_⟩⟩
  have hkey : order.key (.ofList [("a", .number (.infinite false))]) =
      order.key (.ofList [("a", .null)]) := by
    cases order <;> decide +kernel
  have hcells (R : Cell → Cell → Prop) (h : order.Alike R
      (.ofList [("a", .number (.infinite false))]) (.ofList [("a", .null)])) :
      R (.number (.infinite false)) .null := by
    cases order with
    | preserve =>
        obtain ⟨⟨-, hcell⟩, -⟩ := List.forall₂_cons.1 h
        exact hcell
    | canonical =>
        obtain ⟨hcell⟩ := h "a"
        exact hcell
  rw [dropsOnly_removeDuplicates_identical_iff]
  intro h
  exact hcells _ (h _ List.mem_cons_self _ (by simp [infiniteAndNull]) (KeyOrder.key_eq_iff.1 hkey))

end tables

end Dashboard
