import Dashboard.Proofs.Binary64.WholeSum
import Dashboard.Proofs.Query.Aggregation

/-!
# Query.Totals · an aggregation keeps the total

The numbers of an aggregation are made of parts of the dataset. The parts are the groups or, with a
second field, the places of the table that are not empty, and every row stands in exactly one part.

* **`exists_parts`** is this partition, for both forms of the outcome.
* **`total_of_sum`**: with whole numbers that stay exact, the sums of the parts add up to the sum
  over all rows. **`total_of_count`**: the counts add up to the number of rows.
* **`totals_preserved`** states both for the numbers in any order.
-/

namespace Dashboard

/-- The numbers of an aggregation, row by row; places without a number are left out. -/
def Aggregation.values : Aggregation → List Binary64
  | .grouped g => g.points.map (·.2)
  | .pivoted p => p.rows.flatMap fun row => row.2.filterMap id

section parts

variable (spec : AggregationSpec) (dataset : Dataset)

/-- Rows of a dataset are made up of those with each text of a field of the dataset. -/
theorem perm_flatMap_rowsWith {rows : Dataset} (field : String) (h : rows ⊆ dataset) :
    ((distinctTexts field dataset).flatMap (rows.rowsWith field)).Perm rows := by
  have hseen := firstSeen_distinctTexts field dataset
  have hall : (rows.filter fun row => row.groupKey field ∈ distinctTexts field dataset) = rows := by
    apply List.filter_eq_self.2
    intro row hrow
    exact decide_eq_true (hseen.mem_iff.2 (List.mem_map_of_mem (h hrow)))
  have hparts := perm_flatMap_filter_mem (fun row : Row => row.groupKey field) rows hseen.nodup
  rwa [hall] at hparts

/-- The numbers that there are come from the parts that are not empty. -/
theorem filterMap_reduced? (parts : List Dataset) :
    parts.filterMap spec.reduced? = (parts.filter (!·.isEmpty)).map spec.reduced := by
  induction parts with
  | nil => rfl
  | cons part parts ih =>
      cases part with
      | nil => simpa [AggregationSpec.reduced?] using ih
      | cons row rows => simpa [AggregationSpec.reduced?] using ih

/-- **The numbers of an aggregation come from parts that make up the dataset.** -/
theorem exists_parts :
    ∃ parts : List Dataset, (aggregate spec dataset).values = parts.map spec.reduced ∧
      parts.flatten.Perm dataset := by
  cases hsplit : spec.splitField? with
  | none =>
      refine ⟨(distinctTexts spec.dimension dataset).map (dataset.rowsWith spec.dimension), ?_, ?_⟩
      · rw [aggregate_of_splitField?_none hsplit, Aggregation.values, List.map_map, List.map_map]
        rfl
      · rw [← List.flatMap_def]
        exact perm_flatMap_rowsWith dataset spec.dimension (List.Subset.refl _)
  | some field =>
      let cells := (distinctTexts spec.dimension dataset).flatMap fun key =>
        (distinctTexts field dataset).map ((dataset.rowsWith spec.dimension key).rowsWith field)
      refine ⟨cells.filter (!·.isEmpty), ?_, ?_⟩
      · rw [aggregate_of_splitField?_some hsplit, Aggregation.values, ← filterMap_reduced?,
          List.filterMap_flatMap, List.flatMap_map]
        simp only [List.filterMap_map]
        rfl
      · rw [List.flatten_filter_not_isEmpty, ← List.flatMap_id, List.flatMap_assoc]
        refine (List.Perm.flatMap_left _ fun key _ => ?_).trans
          (perm_flatMap_rowsWith dataset spec.dimension (List.Subset.refl _))
        rw [List.flatMap_id, ← List.flatMap_def]
        exact perm_flatMap_rowsWith dataset field List.filter_sublist.subset

end parts

/-! ## Sums and counts -/

section totals

variable {spec : AggregationSpec} {dataset : Dataset} {values : List Binary64}

/-- The sums of all groups add up to the sum over all rows. -/
theorem total_of_sum (haggregator : spec.aggregator = .sum)
    (hexact : Binary64.SumsExactly (dataset.map (·.measured spec.measure)))
    (hvalues : values.Perm (aggregate spec dataset).values) :
    Binary64.sum values = Binary64.sum (dataset.map (·.measured spec.measure)) := by
  obtain ⟨parts, hparts, hperm⟩ := exists_parts spec dataset
  let numbers := parts.map (·.map (·.measured spec.measure))
  have hsums : (aggregate spec dataset).values = numbers.map Binary64.sum := by
    rw [hparts, List.map_map]
    apply List.map_congr_left
    intro part _
    rw [AggregationSpec.reduced, haggregator]
    rfl
  have hrows : (dataset.map (·.measured spec.measure)).Perm numbers.flatten := by
    rw [← List.map_flatten]
    exact (hperm.map _).symm
  rw [hsums] at hvalues
  have hnumbers := hexact.perm hrows
  calc Binary64.sum values = Binary64.sum (numbers.map Binary64.sum) :=
        (hnumbers.map_sum.sum_perm hvalues.symm).symm
    _ = Binary64.sum numbers.flatten := hnumbers.sum_map_sum
    _ = Binary64.sum (dataset.map (·.measured spec.measure)) := (hexact.sum_perm hrows).symm

/-- The counts of all groups add up to the number of rows. -/
theorem total_of_count (haggregator : spec.aggregator = .count)
    (hlength : dataset.length ≤ 2 ^ (53 : Nat))
    (hvalues : values.Perm (aggregate spec dataset).values) :
    (Binary64.sum values).isIntegral = true ∧
      (Binary64.sum values).truncate = dataset.length := by
  obtain ⟨parts, hparts, hperm⟩ := exists_parts spec dataset
  have hcounts : (aggregate spec dataset).values = (parts.map List.length).map .ofNat := by
    rw [hparts, List.map_map]
    apply List.map_congr_left
    intro part _
    rw [AggregationSpec.reduced, haggregator, Aggregator.reduce, List.length_map,
      Function.comp_apply]
  have htotal : (parts.map List.length).sum = dataset.length := by
    rw [← List.length_flatten, hperm.length_eq]
  rw [← htotal] at hlength
  rw [hcounts] at hvalues
  have hexact := Binary64.SumsExactly.of_counts hlength
  rw [← hexact.sum_perm hvalues.symm, Binary64.SumsExactly.truncate_sum_counts hlength, htotal]
  exact ⟨hexact.isIntegral_sum, rfl⟩

/-- **Totals are preserved.** The numbers of a sum by groups, with or without a second field, add up
to the sum over all rows, to the bit and in any order, if the rows have whole numbers whose absolute
values add up to at most `2 ^ 53`; and this is their exact sum. The numbers of a count by groups add
up to the number of rows, if these are at most `2 ^ 53`. -/
theorem totals_preserved (spec : AggregationSpec) (dataset : Dataset) (values : List Binary64)
    (hvalues : values.Perm (aggregate spec dataset).values) :
    (spec.aggregator = .sum →
      (∀ row ∈ dataset, (row.measured spec.measure).isIntegral = true) →
      (dataset.map fun row => (row.measured spec.measure).truncate.natAbs).sum ≤ 2 ^ (53 : Nat) →
      Binary64.sum values = Binary64.sum (dataset.map (·.measured spec.measure)) ∧
      (Binary64.sum values).isIntegral = true ∧
      (Binary64.sum values).truncate =
        (dataset.map fun row => (row.measured spec.measure).truncate).sum) ∧
    (spec.aggregator = .count → dataset.length ≤ 2 ^ (53 : Nat) →
      (Binary64.sum values).same (.ofNat dataset.length) = true ∧
      (Binary64.sum values).isIntegral = true ∧
      (Binary64.sum values).truncate = dataset.length) := by
  constructor
  · intro haggregator hwhole hbounded
    have hexact : Binary64.SumsExactly (dataset.map (·.measured spec.measure)) :=
      ⟨List.forall_mem_map.2 hwhole, by rwa [List.map_map]⟩
    rw [total_of_sum haggregator hexact hvalues, hexact.truncate_sum, List.map_map]
    exact ⟨rfl, hexact.isIntegral_sum, rfl⟩
  · intro haggregator hlength
    obtain ⟨hwhole, hvalue⟩ := total_of_count haggregator hlength hvalues
    obtain ⟨hwhole', hvalue'⟩ := Binary64.ofNat_of_le hlength
    exact ⟨Binary64.same_of_truncate_eq hwhole hwhole' (hvalue.trans hvalue'.symm), hwhole, hvalue⟩

end totals

/-- Amounts at the limit: a great one, a negative one, a negative zero as a text, a truth value. -/
def someBalances : Dataset :=
  [.ofList [("account", .text "a"), ("kind", .text "x"),
      ("amount", .number (.ofNat 9007199254740989))],
    .ofList [("account", .text "b"), ("amount", .number (.ofInt (-2)))],
    .ofList [("account", .text "a"), ("amount", .text "-0")],
    .ofList [("account", .text "b"), ("kind", .text "x"), ("amount", .bool true)]]

/-- The amounts by account and kind add up to the total in another order too, and the counts by
account add up to the four rows. -/
theorem totals_of_balances :
    Binary64.sum [.zero true, .ofInt (-2), .ofNat 1, .ofNat 9007199254740989] =
        Binary64.sum (someBalances.map (·.measured "amount")) ∧
      (Binary64.sum [.zero true, .ofInt (-2), .ofNat 1, .ofNat 9007199254740989]).truncate =
        9007199254740988 ∧
      (Binary64.sum [.ofNat 2, .ofNat 2]).same (.ofNat 4) = true := by
  have hsums : (aggregate ⟨"account", "amount", .sum, some "kind"⟩ someBalances).values =
      [.ofNat 9007199254740989, .zero true, .ofNat 1, .ofInt (-2)] := by
    rw [@aggregate_of_splitField?_some _ "kind" rfl]
    decide +kernel
  have hcounts : (aggregate ⟨"account", "amount", .count, none⟩ someBalances).values =
      [.ofNat 2, .ofNat 2] := by
    rw [aggregate_of_splitField?_none rfl]
    decide +kernel
  obtain ⟨hsum, -, hvalue⟩ := (totals_preserved ⟨"account", "amount", .sum, some "kind"⟩
    someBalances [.zero true, .ofInt (-2), .ofNat 1, .ofNat 9007199254740989]
    (by rw [hsums]; decide +kernel)).1 rfl (by decide +kernel) (by decide +kernel)
  obtain ⟨hcount, -, -⟩ := (totals_preserved ⟨"account", "amount", .count, none⟩ someBalances
    [.ofNat 2, .ofNat 2] (by rw [hcounts])).2 rfl (by decide)
  exact ⟨hsum, hvalue.trans (by decide +kernel), hcount⟩

end Dashboard
