import Dashboard.Proofs.Query.Comparison
import Dashboard.Proofs.Query.Flattening
import Dashboard.Query.Widget

/-!
# Query.TopGroups · the groups with the greatest numbers

A chart of the greatest groups can be asked for in two ways: the rows of an aggregation are sorted
downwards by their value and cut off, or they are limited by a ranking of the measure. The two
compare rows in different ways, one by cells and one by numbers.

* **`GroupedSeries.Outranks`**: a group has a greater number than another one, or the same number
  and was seen first. **`GroupedSeries.IsTop`**: some groups are those that outrank all others.
* **`GroupedSeries.ranked`** sorts the groups themselves. Sorting their rows gives the rows of this
  list (`GroupedSeries.sortWith_toDataset`), whichever of the two comparisons is used.
* **`Board.prepare_isTop`**: a chart that is sorted downwards by its value and limited shows the
  groups with the greatest numbers, and a limit by the measure alone shows the same.
-/

namespace Dashboard

namespace GroupedSeries

variable {g : GroupedSeries} {texts : List String} {a b point : String × Binary64} {count : Nat}
  {kept kept' : List (String × Binary64)}

/-! ## Rankings of groups -/

/-- The number of `a` is greater in the total order of numbers, or it is the same and the key of `a`
is the first of the two among the texts of the rows. -/
def Outranks (texts : List String) (a b : String × Binary64) : Prop :=
  b.2.totalOrder a.2 = .lt ∨
    b.2.totalOrder a.2 = .eq ∧ texts.idxOf a.1 < texts.idxOf b.1

instance : Decidable (Outranks texts a b) :=
  inferInstanceAs (Decidable (_ ∨ _ ∧ _))

/-- The first `count` groups of the ranking, or all if there are no more, in the order of the
ranking: they outrank all groups that are left out. -/
structure IsTop (g : GroupedSeries) (texts : List String) (count : Nat)
    (kept : List (String × Binary64)) : Prop where
  length_eq : kept.length = min count g.points.length
  nodup : kept.Nodup
  mem_points : ∀ point ∈ kept, point ∈ g.points
  ordered : kept.Pairwise (Outranks texts)
  outranks : ∀ point ∈ kept, ∀ dropped ∈ g.points, dropped ∉ kept → Outranks texts point dropped

/-- Comparison of groups by their numbers, the greater number first. -/
def compareDown (a b : String × Binary64) : Ordering := b.2.totalOrder a.2

instance : Std.TransCmp compareDown := by
  have hup := transCmp_on (fun point : String × Binary64 => point.2) Binary64.totalOrder
  exact @Std.TransCmp.opposite _ _ hup

/-- A group that outranks another one has no smaller number. -/
theorem Outranks.isLE (h : Outranks texts a b) : (b.2.totalOrder a.2).isLE = true := by
  rcases h with hlt | ⟨heq, -⟩
  · rw [hlt]
    rfl
  · rw [heq]
    rfl

/-- Of two groups one at most outranks the other. -/
theorem Outranks.asymm (h : Outranks texts a b) : ¬Outranks texts b a := by
  have hswap : a.2.totalOrder b.2 = (b.2.totalOrder a.2).swap := Std.OrientedCmp.eq_swap
  intro h'
  rw [Outranks, hswap] at h'
  rcases h with hlt | ⟨heq, hfirst⟩
  · rw [hlt] at h'
    rcases h' with hgt | ⟨hgt, -⟩ <;> cases hgt
  · rw [heq] at h'
    rcases h' with hlt | ⟨-, hfirst'⟩
    · cases hlt
    · exact Nat.lt_asymm hfirst hfirst'

/-- The ranking leaves no choice. -/
theorem IsTop.eq (h : g.IsTop texts count kept) (h' : g.IsTop texts count kept') :
    kept = kept' := by
  have hlength : kept'.length = kept.length := h'.length_eq.trans h.length_eq.symm
  have hsubset : kept ⊆ kept' := by
    intro point hpoint
    by_contra hnot
    -- another group stands in its place, and the two would outrank each other
    have hother : ∃ other ∈ kept', other ∉ kept := by
      by_contra hall
      push Not at hall
      have hperm : kept'.Perm kept :=
        (List.subperm_of_subset h'.nodup hall).perm_of_length_le (Nat.le_of_eq hlength.symm)
      exact hnot (hperm.mem_iff.2 hpoint)
    obtain ⟨other, hother, hout⟩ := hother
    have hover := h.outranks point hpoint other (h'.mem_points other hother) hout
    have hunder := h'.outranks other hother point (h.mem_points point hpoint) hnot
    exact hover.asymm hunder
  have hperm : kept.Perm kept' :=
    (List.subperm_of_subset h.nodup hsubset).perm_of_length_le (Nat.le_of_eq hlength)
  apply hperm.eq_of_pairwise _ h.ordered h'.ordered
  intro a b _ _ hab hba
  exact absurd hba hab.asymm

/-- The groups in the order of their ranking. -/
def ranked (g : GroupedSeries) : List (String × Binary64) :=
  g.points.mergeSort fun a b => (compareDown a b).isLE

/-- The ranking is a stable sort of the groups. -/
theorem sortedStably_ranked : SortedStably compareDown g.points g.ranked :=
  sortedStably_mergeSort g.points

/-- In the ranking every group outranks those behind it. -/
theorem pairwise_ranked (h : FirstSeen (g.points.map (·.1)) texts) :
    g.ranked.Pairwise (Outranks texts) := by
  have hordered := List.pairwise_map.1 h.ordered
  apply sortedStably_ranked.pairwise.imp
  rintro a b (hlt | ⟨heq, hab⟩)
  · exact .inl hlt
  · exact .inr ⟨heq, List.pairwise_iff_forall_sublist.1 hordered hab⟩

/-- The first groups of the ranking are the top. -/
theorem isTop_take_ranked (h : FirstSeen (g.points.map (·.1)) texts) (count : Nat) :
    g.IsTop texts count (g.ranked.take count) := by
  have hperm : g.ranked.Perm g.points := sortedStably_ranked.perm
  have hsplit := pairwise_ranked h
  rw [← List.take_append_drop count g.ranked, List.pairwise_append] at hsplit
  obtain ⟨hordered, -, hacross⟩ := hsplit
  refine ⟨?_, ?_, ?_, hordered, ?_⟩
  · rw [List.length_take, hperm.length_eq]
  · have hranked : g.ranked.Nodup := hperm.nodup_iff.2 h.nodup.of_map
    exact hranked.sublist (List.take_sublist _ _)
  · intro point hpoint
    exact hperm.mem_iff.1 (List.mem_of_mem_take hpoint)
  · intro point hpoint dropped hdropped hnot
    have hmem : dropped ∈ g.ranked.take count ++ g.ranked.drop count := by
      rw [List.take_append_drop]
      exact hperm.mem_iff.2 hdropped
    rcases List.mem_append.1 hmem with htake | hdrop
    · exact absurd htake hnot
    · exact hacross point hpoint dropped hdrop

/-! ## Rankings of rows -/

/-- The row of a group has its number under the measure. -/
theorem cell_measure_row : (g.row point).cell g.measure = .number point.2 := by
  rw [Row.cell, get?_measure_row]
  rfl

/-- The second name of the row of a group is that of the measure. -/
theorem keyAt?_one_row (hne : g.dimension ≠ g.measure) :
    (g.row point).keyAt? 1 = some g.measure := by
  have hfields : (g.row point).fields =
      [(g.dimension, .text point.1), (g.measure, .number point.2)] := by
    simp [row, Row.insert, Row.empty, Fields.insert, hne]
  rw [Row.keyAt?, hfields]
  rfl

/-- Sorting downwards by the measure compares the numbers. -/
theorem compareBy_row : compareBy .desc g.measure (g.row a) (g.row b) = compareDown a b := by
  rw [compareBy, cell_measure_row, cell_measure_row]
  exact Std.OrientedCmp.eq_swap.symm

/-- The ranking by the measure compares the numbers, unless one of them is not a number. -/
theorem compareRank_row (ha : a.2.isNaN = false) (hb : b.2.isNaN = false) :
    compareRank .top g.measure (g.row a) (g.row b) = compareDown a b := by
  have hnumber : ∀ x : Binary64, x.isNaN = false → (Cell.number x).toNumberOrZero = x := by
    intro x hx
    rw [Cell.toNumberOrZero, Cell.toNumber, hx]
    rfl
  rw [compareRank, cell_measure_row, cell_measure_row, hnumber _ ha, hnumber _ hb]
  rfl

/-- If rows are compared as their groups are, sorting the rows is sorting the groups. -/
theorem sortWith_toDataset {compare : Row → Row → Ordering}
    (h : ∀ a ∈ g.points, ∀ b ∈ g.points, compare (g.row a) (g.row b) = compareDown a b) :
    sortWith compare g.toDataset = g.ranked.map g.row := by
  rw [toDataset_eq_map, sortWith, ranked]
  symm
  apply List.map_mergeSort
  intro a ha b hb
  rw [h a ha b hb]

/-- The value of the rows is the measure. -/
theorem sortRows_toDataset (hne : g.dimension ≠ g.measure) :
    sortRows .value .desc none g.toDataset = g.ranked.map g.row := by
  have hsort : sortWith (compareBy .desc g.measure) g.toDataset = g.ranked.map g.row :=
    sortWith_toDataset fun _ _ _ _ => compareBy_row
  rw [← hsort, toDataset_eq_map]
  cases g.points with
  | nil => rw [List.map_nil, sortRows, sortWith, List.mergeSort_nil]
  | cons point rest =>
      rw [List.map_cons, sortRows, SortBy.resolve?, Option.none_or, keyAt?_one_row hne]

/-- Without NaN, a limit keeps the rows of the first groups of the ranking. -/
theorem limitRows_toDataset {count : Int} (hcount : 0 < count)
    (hnan : ∀ point ∈ g.points, point.2.isNaN = false) :
    limitRows count .top (some g.measure) g.toDataset =
      (g.ranked.map g.row).take count.toNat := by
  have hsort : sortWith (compareRank .top g.measure) g.toDataset = g.ranked.map g.row :=
    sortWith_toDataset fun a ha b hb => compareRank_row (hnan a ha) (hnan b hb)
  rw [limitRows, if_neg (Int.not_le.2 hcount), hsort]

end GroupedSeries

/-! ## Charts of the greatest groups -/

/-- Without a second field there are groups, in the order in which they are first seen. -/
theorem exists_grouped {spec : AggregationSpec}
    (h : spec.colorBy = none ∨ spec.colorBy = some spec.dimension) (dataset : Dataset) :
    ∃ g, aggregate spec dataset = .grouped g ∧ g.dimension = spec.dimension ∧
      g.measure = spec.measure ∧
      FirstSeen (g.points.map (·.1)) (dataset.map (·.groupKey spec.dimension)) := by
  have haggregate := aggregate_of_splitField?_none (splitField?_eq_none h) dataset
  have hseen := firstSeen_distinctTexts spec.dimension dataset
  rw [← keys_aggregate spec, haggregate] at hseen
  exact ⟨_, haggregate, rfl, rfl, hseen⟩

/-- **The greatest groups.** A widget aggregates without a second field, sorts downwards by the value
and limits to a positive count without a field of its own. It shows the rows of the groups with the
greatest numbers, the greatest first and equal ones in the order in which the filtered rows have
them; no number that is left out is greater than one that is shown. If no group has a not-a-number,
a limit by the measure shows the same rows without sorting. -/
theorem Board.prepare_isTop (board : Board) (widget : Widget) (dataset : Dataset)
    {spec : AggregationSpec} {count : Int} {direction : LimitDirection}
    (haggregation : widget.config.aggregation = some spec)
    (hcolor : spec.colorBy = none ∨ spec.colorBy = some spec.dimension)
    (hne : spec.measure ≠ spec.dimension)
    (hsort : widget.config.sort = some ⟨.value, .desc, none⟩)
    (hlimit : widget.config.limit = some ⟨count, direction, none⟩) (hcount : 0 < count) :
    ∃ g kept, aggregate spec (board.filtered widget dataset) = .grouped g ∧
      board.prepare widget dataset = kept.map g.row ∧
      g.IsTop ((board.filtered widget dataset).map (·.groupKey spec.dimension)) count.toNat kept ∧
      (∀ point ∈ kept, ∀ dropped ∈ g.points, dropped ∉ kept →
        (dropped.2.totalOrder point.2).isLE = true) ∧
      ((∀ point ∈ g.points, point.2.isNaN = false) →
        board.prepare { widget with config := { widget.config with
            sort := none, limit := some ⟨count, .top, some spec.measure⟩ } } dataset =
          board.prepare widget dataset) := by
  obtain ⟨g, haggregate, hdimension, hmeasure, hseen⟩ :=
    exists_grouped hcolor (board.filtered widget dataset)
  have hdiffer : g.dimension ≠ g.measure := by
    rw [hdimension, hmeasure]
    exact hne.symm
  have hrows : board.prepare widget dataset = (g.ranked.take count.toNat).map g.row := by
    rw [prepare, arrange, haggregation, hsort, hlimit]
    dsimp only [SortSpec.apply, LimitSpec.apply]
    rw [haggregate, Aggregation.toDataset, GroupedSeries.sortRows_toDataset hdiffer, limitRows,
      if_neg (Int.not_le.2 hcount), List.map_take]
  have htop := GroupedSeries.isTop_take_ranked hseen count.toNat
  refine ⟨g, _, haggregate, hrows, htop, ?_, ?_⟩
  · intro point hpoint dropped hdropped hnot
    exact (htop.outranks point hpoint dropped hdropped hnot).isLE
  · intro hnan
    have hlimited := GroupedSeries.limitRows_toDataset hcount hnan
    rw [hmeasure] at hlimited
    have hfiltered : board.filtered { widget with config := { widget.config with
        sort := none, limit := some ⟨count, .top, some spec.measure⟩ } } dataset =
        board.filtered widget dataset := rfl
    rw [hrows, prepare, arrange, haggregation]
    dsimp only [LimitSpec.apply]
    rw [hfiltered, haggregate, Aggregation.toDataset, hlimited, List.map_take]

/-- Amounts by region: two regions have the same sum, one amount is a text and one is no number, one
region is missing. -/
def someAmounts : Dataset :=
  [.ofList [("region", .text "East"), ("amount", .number (.ofNat 80))],
    .ofList [("region", .text "North"), ("amount", .number (.ofNat 100))],
    .ofList [("region", .text "South"), ("amount", .number (.ofNat 900))],
    .ofList [("region", .text "West"), ("amount", .text "150")],
    .ofList [("amount", .number (.ofNat 40))],
    .ofList [("region", .text "North"), ("amount", .number (.ofNat 50))],
    .ofList [("region", .text "East"), ("amount", .text "n/a")]]

/-- A chart of the two regions besides the south with the greatest sums. -/
def topChart : Widget :=
  ⟨"chart", "barChart", { (default : WidgetConfig) with
    filters := [⟨"region", .notEquals, .scalar (.text "South")⟩]
    aggregation := some ⟨"region", "amount", .sum, none⟩
    sort := some ⟨.value, .desc, none⟩
    limit := some ⟨2, .bottom, none⟩ }⟩

/-- The two regions with the same sum are shown in the order in which they are seen, and so they are
without sorting. -/
theorem prepare_two_regions :
    Board.prepare default topChart someAmounts =
        [.ofList [("region", .text "North"), ("amount", .number (.ofNat 150))],
          .ofList [("region", .text "West"), ("amount", .number (.ofNat 150))]] ∧
      Board.prepare default { topChart with config := { topChart.config with
          sort := none, limit := some ⟨2, .top, some "amount"⟩ } } someAmounts =
        Board.prepare default topChart someAmounts := by
  have hgroups : aggregate ⟨"region", "amount", .sum, none⟩
      (Board.filtered default topChart someAmounts) = .grouped ⟨"region", "amount",
        [("East", .ofNat 80), ("North", .ofNat 150), ("West", .ofNat 150), ("null", .ofNat 40)]⟩ :=
    (aggregate_of_splitField?_none rfl _).trans (by decide +kernel)
  obtain ⟨g, kept, haggregate, hrows, htop, -, hlimited⟩ :=
    Board.prepare_isTop default topChart someAmounts rfl (.inl rfl) (by decide) rfl rfl (by decide)
  obtain rfl := Aggregation.grouped.inj (haggregate.symm.trans hgroups)
  have hkept : kept = [("North", .ofNat 150), ("West", .ofNat 150)] :=
    htop.eq ⟨by decide, by decide +kernel, by decide +kernel, by decide +kernel, by decide +kernel⟩
  refine ⟨?_, hlimited (by decide +kernel)⟩
  rw [hrows, hkept]
  decide +kernel

end Dashboard
