import Dashboard.Proofs.Binary64.Order
import Dashboard.Proofs.StableSort
import Dashboard.Transform.TableChange

/-!
# Query.Comparison · the comparisons of sorting are total preorders

A comparison is a total preorder (`Std.TransCmp`) if swapping its arguments swaps its answer and
"at most" is transitive. Then every cell is equal to itself, and equality is transitive.

* **`keyedFirst`** puts the values that have a key in front of those that have none, in an order of
  their own. Both mixed comparisons have this form: numbers in front of texts, and cells that are
  filled in front of blank ones.
* **`transCmp_comparisons`**: every comparison that is sorted by is a total preorder.
-/

namespace Dashboard

/-! ## Making comparisons from comparisons -/

section build

variable {α β : Type}

/-- Comparison by what a function reads off the values. -/
theorem transCmp_on (f : α → β) (cmp : β → β → Ordering) [Std.TransCmp cmp] :
    Std.TransCmp fun a b => cmp (f a) (f b) where
  eq_swap := Std.OrientedCmp.eq_swap
  isLE_trans := Std.TransCmp.isLE_trans

/-- The reversal of a comparison. -/
theorem transCmp_swap (cmp : α → α → Ordering) [Std.TransCmp cmp] :
    Std.TransCmp fun a b => (cmp a b).swap := by
  have hswap : (fun a b => (cmp a b).swap) = fun a b => cmp b a := by
    funext a b
    exact Std.OrientedCmp.eq_swap.symm
  rw [hswap]
  infer_instance

/-- The values with a key come first and are compared by their keys by `inside`; the values without
a key are compared by `outside`. -/
def keyedFirst (key? : α → Option β) (inside : β → β → Ordering) (outside : α → α → Ordering)
    (a b : α) : Ordering :=
  match key? a, key? b with
  | some x, some y => inside x y
  | some _, none => .lt
  | none, some _ => .gt
  | none, none => outside a b

instance transCmp_keyedFirst {key? : α → Option β} {inside : β → β → Ordering}
    {outside : α → α → Ordering} [Std.TransCmp inside] [Std.TransCmp outside] :
    Std.TransCmp (keyedFirst key? inside outside) where
  eq_swap {a b} := by
    unfold keyedFirst
    cases key? a with
    | none =>
        cases key? b with
        | none => exact Std.OrientedCmp.eq_swap
        | some y => rfl
    | some x =>
        cases key? b with
        | none => rfl
        | some y => exact Std.OrientedCmp.eq_swap
  isLE_trans {a b c} hab hbc := by
    unfold keyedFirst at hab hbc ⊢
    cases ha : key? a with
    | none =>
        cases hb : key? b with
        | some y =>
            -- a value without a key is not at most one with a key
            rw [ha, hb] at hab
            cases hab
        | none =>
            cases hc : key? c with
            | some z =>
                rw [hb, hc] at hbc
                cases hbc
            | none =>
                rw [ha, hb] at hab
                rw [hb, hc] at hbc
                exact Std.TransCmp.isLE_trans hab hbc
    | some x =>
        cases hc : key? c with
        | none => rfl
        | some z =>
            cases hb : key? b with
            | none =>
                rw [hb, hc] at hbc
                cases hbc
            | some y =>
                rw [ha, hb] at hab
                rw [hb, hc] at hbc
                exact Std.TransCmp.isLE_trans hab hbc

end build

/-! ## Cells -/

instance : Std.TransCmp Text.order :=
  transCmp_on String.toList compare

/-- Different strings are never equal in the order of strings. -/
instance : Std.LawfulEqCmp Text.order where
  eq_of_compare h := String.toList_inj.1 (Std.LawfulEqCmp.eq_of_compare h)

namespace Cell

/-- The comparison of cells that are not sorted as numbers: without regard to case, then as they
stand. -/
def textOrder (a b : Cell) : Ordering :=
  (Text.order (Text.lowerString a.toText) (Text.lowerString b.toText)).then
    (Text.order a.toText b.toText)

instance : Std.TransCmp textOrder := by
  have hfolded := transCmp_on (fun c : Cell => Text.lowerString c.toText) Text.order
  have hplain := transCmp_on toText Text.order
  exact inferInstanceAs (Std.TransCmp (compareLex _ _))

/-- Cells are ordered by their numbers first, and without a number by their texts. -/
theorem order_eq_keyedFirst : order = keyedFirst sortNumber? Binary64.totalOrder textOrder := by
  funext a b
  unfold order keyedFirst textOrder
  cases a.sortNumber? <;> cases b.sortNumber? <;> rfl

instance : Std.TransCmp order := by
  rw [order_eq_keyedFirst]
  infer_instance

end Cell

/-! ## Rows -/

instance (order : SortOrder) (key : String) : Std.TransCmp (compareBy order key) := by
  have hasc := transCmp_on (fun row : Row => row.cell key) Cell.order
  cases order with
  | asc => exact hasc
  | desc => exact transCmp_swap _

/-- The row itself, if its cell in a column is not blank. -/
def filled? (column : String) (row : Row) : Option Row :=
  if (row.cell column).isBlank then none else some row

/-- With blanks last, rows are compared among those with a filled cell. -/
theorem compareBlanksLast_eq_keyedFirst (order : SortOrder) (column : String) :
    compareBlanksLast order column =
      keyedFirst (filled? column) (compareBy order column) fun _ _ => .eq := by
  funext a b
  unfold compareBlanksLast keyedFirst filled?
  cases (a.cell column).isBlank <;> cases (b.cell column).isBlank <;> rfl

instance (order : SortOrder) (column : String) :
    Std.TransCmp (compareBlanksLast order column) := by
  have hblank : Std.TransCmp fun _ _ : Row => Ordering.eq :=
    { eq_swap := rfl, isLE_trans := fun _ _ => rfl }
  rw [compareBlanksLast_eq_keyedFirst]
  infer_instance

instance (direction : LimitDirection) (field : String) :
    Std.TransCmp (compareRank direction field) := by
  have hbottom := transCmp_on (fun row : Row => (row.cell field).toNumberOrZero)
    Binary64.totalOrder
  cases direction with
  | top => exact @Std.TransCmp.opposite _ _ hbottom
  | bottom => exact hbottom

/-- Sorting by a transitive comparison is stable. -/
theorem sortedStably_sortWith (cmp : Row → Row → Ordering) [Std.TransCmp cmp]
    (dataset : Dataset) : SortedStably cmp dataset (sortWith cmp dataset) :=
  sortedStably_mergeSort dataset

/-- **Every comparison that is sorted by is a total preorder**, whatever cells the rows hold: that of
cells, its reversal, the one with blank cells last, the rankings from both ends, and that of fields
by name. -/
theorem transCmp_comparisons :
    Std.TransCmp Cell.order ∧
      (∀ order key, Std.TransCmp (compareBy order key)) ∧
      (∀ order column, Std.TransCmp (compareBlanksLast order column)) ∧
      (∀ direction field, Std.TransCmp (compareRank direction field)) ∧
      Std.TransCmp fun a b : String × Cell => Text.order a.1 b.1 := by
  refine ⟨inferInstance, ?_, ?_, ?_, ?_⟩
  · intro order key
    infer_instance
  · intro order column
    infer_instance
  · intro direction field
    infer_instance
  · exact transCmp_on Prod.fst Text.order

end Dashboard
