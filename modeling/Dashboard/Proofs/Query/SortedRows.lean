import Dashboard.Proofs.Query.SortedColumn

/-!
# Query.SortedRows · sorting a chart

A word says what the rows are sorted by: the value or the label of the chart, or a field by name.

* **`SortsBy`** says which field a word stands for in a dataset.
* **`Arranged`** says how the rows are sorted: neighbours are in order, and rows with equal cells
  come as they came before, upwards as well as downwards.
* **`sortRows_ofToken`**: sorting gives the one arrangement by the field of the word, and leaves a
  dataset alone in which the word stands for no field.
-/

namespace Dashboard

/-- The field that a word stands for when a dataset is sorted. The value is the field that is given,
else the second one of the first row; the label is the first one; and every other word is the name
of a field. -/
inductive SortsBy (dataset : Dataset) (field : Option String) : String → String → Prop
  | given {name : String} (h : field = some name) : SortsBy dataset field "value" name
  | value {name : String} (hfield : field = none) (h : dataset.fields[1]? = some name) :
      SortsBy dataset field "value" name
  | label {name : String} (h : dataset.fields[0]? = some name) : SortsBy dataset field "label" name
  | named {name : String} (hvalue : name ≠ "value") (hlabel : name ≠ "label") :
      SortsBy dataset field name name

/-- The rows of a dataset in the order of a column. Rows that are equal there keep their order. -/
structure Arranged (order : SortOrder) (name : String) (dataset sorted : Dataset) : Prop where
  perm : sorted.Perm dataset
  neighbours : sorted.IsChain fun a b =>
    (order.apply ((a.cell name).order (b.cell name))).isLE
  ties : ∀ row : Row,
    (sorted.filter fun other => (row.cell name).order (other.cell name) = .eq) =
      dataset.filter fun other => (row.cell name).order (other.cell name) = .eq

section sorting

variable {first : Row} {rest dataset sorted : Dataset} {field : Option String}
  {token name : String} {order : SortOrder}

/-- The name at a position is that among the names. -/
theorem Row.keyAt?_eq (row : Row) (index : Nat) : row.keyAt? index = row.keys[index]? :=
  List.getElem?_map.symm

/-- A word is resolved to the field that it stands for. -/
theorem resolve?_ofToken :
    (SortBy.ofToken token).resolve? first field = some name ↔
      SortsBy (first :: rest) field token name := by
  constructor
  · intro h
    unfold SortBy.ofToken at h
    split_ifs at h with hvalue hlabel
    · subst hvalue
      cases hfield : field with
      | none =>
          rw [SortBy.resolve?, hfield, Option.none_or, Row.keyAt?_eq] at h
          exact .value rfl h
      | some given =>
          rw [SortBy.resolve?, hfield, Option.some_or] at h
          exact .given h
    · subst hlabel
      rw [SortBy.resolve?, Row.keyAt?_eq] at h
      exact .label h
    · obtain rfl := Option.some.inj h
      exact .named hvalue hlabel
  · intro h
    cases h with
    | given h => rw [h]; rfl
    | value hfield h => rw [hfield, ← h]; exact Row.keyAt?_eq first 1
    | label h => rw [← h]; exact Row.keyAt?_eq first 0
    | named hvalue hlabel => rw [SortBy.ofToken, if_neg hvalue, if_neg hlabel]; rfl

/-- Equal cells are equal in either order. -/
theorem compareBy_eq_eq {a b : Row} :
    compareBy order name a b = .eq ↔ (a.cell name).order (b.cell name) = .eq := by
  cases order with
  | asc => exact Iff.rfl
  | desc => exact Ordering.swap_eq_eq

/-- Rows are arranged exactly if they are sorted stably. -/
theorem arranged_iff_sortedStably :
    Arranged order name dataset sorted ↔
      SortedStably (compareBy order name) dataset sorted := by
  have htrans : Trans (fun a b => (compareBy order name a b).isLE = true)
      (fun a b => (compareBy order name a b).isLE = true)
      (fun a b => (compareBy order name a b).isLE = true) := ⟨Std.TransCmp.isLE_trans⟩
  constructor
  · intro h
    refine ⟨h.perm, List.IsChain.pairwise h.neighbours, ?_⟩
    simp only [compareBy_eq_eq]
    exact h.ties
  · intro h
    refine ⟨h.perm, List.Pairwise.isChain h.ordered, ?_⟩
    have hties := h.ties
    simp only [compareBy_eq_eq] at hties
    exact hties

/-- There is one arrangement of the rows, and sorting finds it. -/
theorem eq_sortRows_iff :
    sorted = sortRows (.field name) order field dataset ↔ Arranged order name dataset sorted := by
  have hsort := sortedStably_sortRows name order field dataset
  rw [arranged_iff_sortedStably]
  constructor
  · rintro rfl
    exact hsort
  · intro h
    exact h.eq hsort

/-- Two ways to ask for the same field sort alike. -/
theorem sortRows_congr {key : SortBy} (h : key.resolve? first field = some name) :
    sortRows key order field (first :: rest) =
      sortRows (.field name) order field (first :: rest) := by
  rw [sortRows, h]
  rfl

/-- **Sorting gives the one arrangement.** If a word stands for a field, sorting by the word gives a
permutation of the rows in which neighbours are in the order of the field, and rows that are equal
there keep the order in which they came, in both directions; and there is no other such list. If it
stands for none, the rows stay as they are. -/
theorem sortRows_ofToken (token : String) (order : SortOrder) (field : Option String)
    (dataset : Dataset) :
    (∀ name, SortsBy dataset field token name → ∀ sorted : Dataset,
      sorted = sortRows (.ofToken token) order field dataset ↔
        Arranged order name dataset sorted) ∧
    ((∀ name, ¬SortsBy dataset field token name) →
      sortRows (.ofToken token) order field dataset = dataset) := by
  cases dataset with
  | nil =>
      refine ⟨fun name _ sorted => ?_, fun _ => rfl⟩
      have hsort : sorted = sortRows (.field name) order field [] ↔
          Arranged order name [] sorted := eq_sortRows_iff
      exact hsort
  | cons first rest =>
      constructor
      · intro name hname sorted
        rw [sortRows_congr (resolve?_ofToken.2 hname), eq_sortRows_iff]
      · intro hnone
        have hresolve : (SortBy.ofToken token).resolve? first field = none :=
          Option.eq_none_iff_forall_ne_some.2 fun name hname =>
            hnone name (resolve?_ofToken.1 hname)
        rw [sortRows, hresolve]

end sorting

end Dashboard
