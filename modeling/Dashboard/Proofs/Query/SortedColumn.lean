import Dashboard.Proofs.ColumnType
import Dashboard.Proofs.Query.Comparison

/-!
# Query.SortedColumn · sorting by a number column

Inference and sorting each decide on their own which cells are numbers. They differ on texts of
white space: these count as zero where the type of a column is inferred, and are sorted as texts.

* **`SortOrder.InOrder`** says that numbers do not fall, or do not rise.
* **`filledCells_sortRows`**: the cells of a number column stand in the order of their numbers, with
  the white space apart, at the end where texts are sorted to.
-/

namespace Dashboard

namespace SortOrder

/-- The numbers do not fall where the order is upwards, and do not rise where it is downwards. -/
def InOrder (order : SortOrder) (x y : Binary64) : Prop :=
  match order with
  | .asc => x.atMost y = true
  | .desc => y.atMost x = true

/-- Two lists one after the other, the second one first where the order is downwards. -/
def join {α : Type} (order : SortOrder) (first last : List α) : List α :=
  match order with
  | .asc => first ++ last
  | .desc => last ++ first

/-- Whether a cell of a number column belongs to the part in front. -/
def isInFront (order : SortOrder) (cell : Cell) : Bool :=
  match order with
  | .asc => !cell.isSpace
  | .desc => cell.isSpace

variable {order : SortOrder} {cells first last : List Cell}

/-- Joining two parts keeps all cells. -/
theorem join_perm : (order.join first last).Perm (first ++ last) := by
  cases order with
  | asc => exact .refl _
  | desc => exact List.perm_append_comm

/-- In either order, what is put last has the greater numbers. -/
theorem pairwise_join : (order.join first last).Pairwise (fun a b =>
    order.InOrder a.toNumber b.toNumber) ↔
      first.Pairwise (fun a b => order.InOrder a.toNumber b.toNumber) ∧
      last.Pairwise (fun a b => order.InOrder a.toNumber b.toNumber) ∧
      ∀ a ∈ first, ∀ b ∈ last, a.toNumber.atMost b.toNumber = true := by
  cases order with
  | asc => exact List.pairwise_append
  | desc =>
      simp only [join, List.pairwise_append, InOrder]
      constructor
      · rintro ⟨hlast, hfirst, hacross⟩
        exact ⟨hfirst, hlast, fun a ha b hb => hacross b hb a ha⟩
      · rintro ⟨hfirst, hlast, hacross⟩
        exact ⟨hlast, hfirst, fun b hb a ha => hacross a ha b hb⟩

end SortOrder

/-! ## Cells in the order of sorting -/

section cells

variable {order : SortOrder} {a b : Cell} {cells : List Cell}

/-- Of two cells of a number column in order, the numbers are in order, and behind the part in front
there are only cells of the other part. -/
theorem inOrder_of_isLE (ha : a.isNumeric = true) (hb : b.isNumeric = true)
    (h : (order.apply (a.order b)).isLE = true) :
    (a.isSpace = false → b.isSpace = false → order.InOrder a.toNumber b.toNumber) ∧
      (order.isInFront b = true → order.isInFront a = true) := by
  have hnumbers : a.isSpace = false → b.isSpace = false →
      a.order b = a.toNumber.totalOrder b.toNumber := by
    intro has hbs
    rw [Cell.order_eq_keyedFirst, keyedFirst, Cell.sortNumber?_of_isNumeric ha,
      Cell.sortNumber?_of_isNumeric hb, has, hbs]
    rfl
  have hna := Cell.isNaN_toNumber ha
  have hnb := Cell.isNaN_toNumber hb
  constructor
  · intro has hbs
    rw [hnumbers has hbs] at h
    cases order with
    | asc => exact Binary64.atMost_of_totalOrder hna hnb h
    | desc =>
        have hswap : (a.toNumber.totalOrder b.toNumber).swap = b.toNumber.totalOrder a.toNumber :=
          Std.OrientedCmp.eq_swap.symm
        rw [SortOrder.apply, hswap] at h
        exact Binary64.atMost_of_totalOrder hnb hna h
  · rw [Cell.order_eq_keyedFirst, keyedFirst, Cell.sortNumber?_of_isNumeric ha,
      Cell.sortNumber?_of_isNumeric hb] at h
    unfold SortOrder.isInFront
    cases order <;> cases has : a.isSpace <;> cases hbs : b.isSpace <;> simp_all [SortOrder.apply]

/-- Cells of a number column in order are the numbers, and the white space at one end. -/
theorem eq_join (hnumeric : ∀ cell ∈ cells, cell.isNumeric = true)
    (h : cells.Pairwise fun a b => (order.apply (a.order b)).isLE = true) :
    cells = order.join (cells.filter fun cell => !cell.isSpace) (cells.filter Cell.isSpace) := by
  have hfront : cells.Pairwise fun a b => order.isInFront b = true → order.isInFront a = true :=
    h.imp_of_mem fun ha hb hle => (inOrder_of_isLE (hnumeric _ ha) (hnumeric _ hb) hle).2
  have hsplit := eq_filter_append_filter hfront
  cases order with
  | asc =>
      have hback : (cells.filter fun cell => !SortOrder.asc.isInFront cell) =
          cells.filter Cell.isSpace := List.filter_congr fun cell _ => Bool.not_not _
      rw [hback] at hsplit
      exact hsplit
  | desc => exact hsplit

/-- In an ordered column of numbers, those that are not white space are in order as numbers. -/
theorem pairwise_numbers (hnumeric : ∀ cell ∈ cells, cell.isNumeric = true)
    (h : cells.Pairwise fun a b => (order.apply (a.order b)).isLE = true) :
    (cells.filter fun cell => !cell.isSpace).Pairwise fun a b =>
      order.InOrder a.toNumber b.toNumber := by
  refine (h.filter _).imp_of_mem fun ha hb hle => ?_
  obtain ⟨ha, has⟩ := List.mem_filter.1 ha
  obtain ⟨hb, hbs⟩ := List.mem_filter.1 hb
  exact (inOrder_of_isLE (hnumeric _ ha) (hnumeric _ hb) hle).1 (Bool.not_eq_true' _ ▸ has)
    (Bool.not_eq_true' _ ▸ hbs)

/-- White space is in order with numbers that are not positive, and only with these. -/
theorem pairwise_join_iff {numbers spaces : List Cell}
    (hspaces : ∀ cell ∈ spaces, cell.isSpace = true)
    (hordered : numbers.Pairwise fun a b => order.InOrder a.toNumber b.toNumber) :
    (order.join numbers spaces).Pairwise (fun a b => order.InOrder a.toNumber b.toNumber) ↔
      spaces = [] ∨ ∀ cell ∈ numbers, cell.toNumber.atMost (.zero false) = true := by
  have hzero : ∀ cell ∈ spaces, cell.toNumber = .zero false :=
    fun cell hcell => Cell.toNumber_of_isSpace (hspaces cell hcell)
  have hself : order.InOrder (.zero false) (.zero false) := by cases order <;> rfl
  have hlast : spaces.Pairwise fun a b => order.InOrder a.toNumber b.toNumber := by
    refine List.pairwise_of_forall_mem_list fun a ha b hb => ?_
    rw [hzero a ha, hzero b hb]
    exact hself
  rw [SortOrder.pairwise_join]
  constructor
  · rintro ⟨-, -, hacross⟩
    cases spaces with
    | nil => exact .inl rfl
    | cons space rest =>
        refine .inr fun cell hcell => ?_
        have hle := hacross cell hcell space List.mem_cons_self
        rwa [hzero space List.mem_cons_self] at hle
  · rintro (rfl | hle)
    · exact ⟨hordered, hlast, nofun⟩
    · refine ⟨hordered, hlast, fun a ha b hb => ?_⟩
      rw [hzero b hb]
      exact hle a ha

end cells

/-! ## Sorted tables -/

section tables

open ColumnType

variable {dataset : Dataset} {sample : Nat} {name : String}

/-- Sorting rows by a field is stable. -/
theorem sortedStably_sortRows (name : String) (order : SortOrder) (field : Option String)
    (dataset : Dataset) :
    SortedStably (compareBy order name) dataset (sortRows (.field name) order field dataset) := by
  have hsort : sortRows (.field name) order field dataset =
      sortWith (compareBy order name) dataset := by
    cases dataset with
    | nil => rw [sortRows, sortWith, List.mergeSort_nil]
    | cons row rest => rfl
  rw [hsort]
  exact sortedStably_sortWith _ dataset

/-- **The order of a number column.** The table is sorted by a column that is inferred to hold
numbers. Its cells that are not blank are those of white space and the others. The others stand in
the order of their numbers; the white space stands behind them upwards, and in front of them
downwards. As white space reads as zero, all of the cells are in the order of their numbers exactly
if there is no white space or no positive number. -/
theorem filledCells_sortRows (order : SortOrder) (field : Option String)
    (hsample : dataset.length ≤ sample) (h : (name, .number) ∈ infer dataset sample) :
    ∃ numbers spaces : List Cell,
      filledCells (sortRows (.field name) order field dataset) name = order.join numbers spaces ∧
      (numbers ++ spaces).Perm (filledCells dataset name) ∧
      (∀ cell ∈ numbers, cell.isSpace = false) ∧ (∀ cell ∈ spaces, cell.isSpace = true) ∧
      numbers.Pairwise (fun a b => order.InOrder a.toNumber b.toNumber) ∧
      ((order.join numbers spaces).Pairwise (fun a b => order.InOrder a.toNumber b.toNumber) ↔
        spaces = [] ∨ ∀ cell ∈ numbers, cell.toNumber.atMost (.zero false) = true) := by
  have hsorted := sortedStably_sortRows name order field dataset
  have hperm : (filledCells (sortRows (.field name) order field dataset) name).Perm
      (filledCells dataset name) := (hsorted.perm.map _).filter _
  have hordered : (filledCells (sortRows (.field name) order field dataset) name).Pairwise
      fun a b => (order.apply (a.order b)).isLE = true :=
    (List.pairwise_map.2 hsorted.ordered).filter _
  generalize filledCells (sortRows (.field name) order field dataset) name = cells at hperm hordered
  have hnumeric : ∀ cell ∈ cells, cell.isNumeric = true := fun cell hcell =>
    (isNumeric_of_infer hsample h).2 cell (hperm.subset hcell)
  have hspaces : ∀ cell ∈ cells.filter Cell.isSpace, cell.isSpace = true :=
    fun cell hcell => (List.mem_filter.1 hcell).2
  have hnumbers := pairwise_numbers hnumeric hordered
  have hsplit := eq_join hnumeric hordered
  refine ⟨_, _, hsplit, ?_, ?_, hspaces, hnumbers, pairwise_join_iff hspaces hnumbers⟩
  · exact (SortOrder.join_perm.symm.trans (.of_eq hsplit.symm)).trans hperm
  · exact fun cell hcell => Bool.not_eq_true' _ ▸ (List.mem_filter.1 hcell).2

/-- A number, a text of a number, a blank cell, and white space. -/
def mixedNumbers : Dataset :=
  [.ofList [("a", .number (.ofInt (-3)))], .ofList [("a", .text "5")], .ofList [("a", .text "")],
    .ofList [("a", .text " ")]]

/-- Sorted downwards, the white space stands in front of the two numbers. -/
theorem filledCells_sortRows_mixedNumbers :
    mixedNumbers.length ≤ 4 ∧ ("a", .number) ∈ infer mixedNumbers 4 ∧
      ∃ numbers spaces : List Cell,
        filledCells (sortRows (.field "a") .desc none mixedNumbers) "a" = spaces ++ numbers ∧
        (numbers ++ spaces).Perm [.number (.ofInt (-3)), .text "5", .text " "] ∧
        (∀ cell ∈ numbers, cell.isSpace = false) ∧ (∀ cell ∈ spaces, cell.isSpace = true) ∧
        numbers.Pairwise fun a b => b.toNumber.atMost a.toNumber = true := by
  have hsample : mixedNumbers.length ≤ 4 := by decide
  have hnumber : ("a", .number) ∈ infer mixedNumbers 4 := by decide +kernel
  have hfilled : filledCells mixedNumbers "a" =
      [.number (.ofInt (-3)), .text "5", .text " "] := by decide +kernel
  obtain ⟨numbers, spaces, hcells, hperm, hnumbers, hspaces, hordered, -⟩ :=
    filledCells_sortRows .desc none hsample hnumber
  rw [hfilled] at hperm
  exact ⟨hsample, hnumber, numbers, spaces, hcells, hperm, hnumbers, hspaces, hordered⟩

/-- Sorted upwards, the white space stands behind the positive number, although it reads as zero. -/
theorem not_pairwise_mixedNumbers :
    mixedNumbers.length ≤ 4 ∧ ("a", .number) ∈ infer mixedNumbers 4 ∧
      filledCells (sortRows (.field "a") .asc none mixedNumbers) "a" =
        [.number (.ofInt (-3)), .text "5", .text " "] ∧
      ¬(filledCells (sortRows (.field "a") .asc none mixedNumbers) "a").Pairwise fun a b =>
        a.toNumber.atMost b.toNumber = true := by
  have hcells : filledCells (sortRows (.field "a") .asc none mixedNumbers) "a" =
      [.number (.ofInt (-3)), .text "5", .text " "] := by
    have hsorted : sortRows (.field "a") .asc none mixedNumbers = mixedNumbers :=
      List.mergeSort_of_pairwise (by decide +kernel)
    rw [hsorted]
    decide +kernel
  refine ⟨by decide, by decide +kernel, hcells, ?_⟩
  rw [hcells]
  decide +kernel

end tables

end Dashboard
