import Dashboard.Proofs.Binary64.Order
import Dashboard.Proofs.Query.Aggregation

/-!
# Query.Extremes · the least and the greatest number of a group

A minimum is folded from infinity and a maximum from minus infinity. No group is empty and no row
contributes a not-a-number, so these seeds are never seen unless a row holds them.

* **`Selects`** is what both folds have in common: of two numbers one is kept, by a key.
* **`AggregationSpec.Reports`** says which numbers an aggregation reports for which rows, and
  **`AggregationSpec.IsExtreme`** that a number is the least or the greatest one of rows.
* **`AggregationSpec.isExtreme_of_reports`**: every number that is reported is the extreme of its
  own group, or of its own pair of texts.
-/

namespace Dashboard

namespace Binary64

/-! ## Folds that keep one of two numbers -/

/-- The operation keeps the number with the lesser key, and of equal keys the left one. The key is
the level or its opposite, and no number has a greater key than the seed. -/
structure Selects (op : Binary64 → Binary64 → Binary64) (key : Binary64 → Int)
    (seed : Binary64) : Prop where
  apply_eq : ∀ x y, x.isNaN = false → y.isNaN = false → op x y = if key y < key x then y else x
  level_eq : ∀ x y, key x = key y → x.level = y.level
  isNaN_seed : seed.isNaN = false
  key_le_seed : ∀ x, x.isNaN = false → key x ≤ key seed

/-- No level is further from zero than that of the infinities. -/
theorem magnitude_le_infinite {x : Binary64} (h : x.isNaN = false) (s : Bool) :
    x.magnitude ≤ (infinite s).magnitude := by
  cases x with
  | nan => cases h
  | infinite => exact Nat.le_refl _
  | finite s' m e hc => exact Nat.le_of_lt (magnitude_finite_lt hc)

/-- The minimum keeps the number with the lesser level. -/
theorem selects_min : Selects min level (infinite false) where
  apply_eq x y hx hy := by
    simp only [min, hx, Bool.false_eq_true, if_false, less_iff hy hx]
  level_eq _ _ h := h
  isNaN_seed := rfl
  key_le_seed x h := by
    have hle := magnitude_le_infinite h false
    have habs := natAbs_level x
    have hseed : (infinite false).level = (infinite false).magnitude := rfl
    omega

/-- The maximum keeps the number with the greater level. -/
theorem selects_max : Selects max (fun x => -x.level) (infinite true) where
  apply_eq x y hx hy := by
    simp only [max, hx, Bool.false_eq_true, if_false, less_iff hx hy, Int.neg_lt_neg_iff]
  level_eq _ _ h := Int.neg_inj.1 h
  isNaN_seed := rfl
  key_le_seed x h := by
    have hle := magnitude_le_infinite h true
    have habs := natAbs_level x
    have hseed : (infinite true).level = -((infinite true).magnitude : Int) := rfl
    omega

section fold

variable {op : Binary64 → Binary64 → Binary64} {key : Binary64 → Int} {seed init : Binary64}
  {xs : List Binary64}

/-- A step keeps one of the two numbers, and it has the least key. -/
theorem Selects.step (h : Selects op key seed) {x y : Binary64} (hx : x.isNaN = false)
    (hy : y.isNaN = false) :
    (op x y = x ∨ op x y = y) ∧ key (op x y) ≤ key x ∧ key (op x y) ≤ key y := by
  rw [h.apply_eq x y hx hy]
  split
  · exact ⟨.inr rfl, by omega, Int.le_refl _⟩
  · exact ⟨.inl rfl, Int.le_refl _, by omega⟩

/-- A fold keeps one of the numbers, and it has the least key. -/
theorem Selects.foldl (h : Selects op key seed) (hinit : init.isNaN = false)
    (hxs : ∀ x ∈ xs, x.isNaN = false) :
    xs.foldl op init ∈ init :: xs ∧ ∀ x ∈ init :: xs, key (xs.foldl op init) ≤ key x := by
  induction xs generalizing init with
  | nil =>
      refine ⟨List.mem_cons_self, fun x hx => ?_⟩
      rw [List.mem_singleton.1 hx]
      exact Int.le_refl _
  | cons y ys ih =>
      obtain ⟨hy, hys⟩ := List.forall_mem_cons.1 hxs
      obtain ⟨hkept, hleft, hright⟩ := h.step hinit hy
      have hstep : (op init y).isNaN = false := by
        rcases hkept with heq | heq <;> rw [heq]
        · exact hinit
        · exact hy
      obtain ⟨hmem, hleast⟩ := ih hstep hys
      rw [List.foldl_cons]
      constructor
      · rcases List.mem_cons.1 hmem with heq | hmem
        · rcases hkept with hkept | hkept <;> rw [heq, hkept] <;> simp
        · exact List.mem_cons_of_mem _ (List.mem_cons_of_mem _ hmem)
      · intro x hx
        have hfirst := hleast _ List.mem_cons_self
        rcases List.mem_cons.1 hx with rfl | hx
        · omega
        · rcases List.mem_cons.1 hx with rfl | hx
          · omega
          · exact hleast x (List.mem_cons_of_mem _ hx)

/-- The fold of some numbers from the seed has the value of one of them: if it is the seed, the
numbers have the value of the seed. -/
theorem Selects.exists_same (h : Selects op key seed) (hne : xs ≠ [])
    (hxs : ∀ x ∈ xs, x.isNaN = false) : ∃ x ∈ xs, (xs.foldl op seed).same x = true := by
  obtain ⟨hmem, hleast⟩ := h.foldl h.isNaN_seed hxs
  rcases List.mem_cons.1 hmem with heq | hmem
  · obtain ⟨x, hx⟩ := List.exists_mem_of_ne_nil xs hne
    have hle := hleast x (List.mem_cons_of_mem _ hx)
    rw [heq] at hle ⊢
    have hkey : key seed = key x := Int.le_antisymm hle (h.key_le_seed x (hxs x hx))
    exact ⟨x, hx, same_iff_level_eq.2 ⟨⟨h.isNaN_seed, hxs x hx⟩, h.level_eq _ _ hkey⟩⟩
  · exact ⟨_, hmem, same_self (hxs _ hmem)⟩

end fold

/-- Only an infinity has the value of an infinity. -/
theorem eq_infinite_of_same {s : Bool} {x : Binary64} (h : (infinite s).same x = true) :
    x = .infinite s := by
  obtain ⟨⟨-, hx⟩, hlevel⟩ := same_iff_level_eq.1 h
  cases x with
  | nan => cases hx
  | infinite s' =>
      cases s <;> cases s'
      · rfl
      · exact absurd hlevel (by decide)
      · exact absurd hlevel (by decide)
      · rfl
  | finite s' m e hc =>
      have hmagnitude : (finite s' m e hc).magnitude = (infinite s).magnitude := by
        rw [← natAbs_level, ← natAbs_level, hlevel]
      exact absurd hmagnitude (Nat.ne_of_lt (magnitude_finite_lt hc))

end Binary64

/-! ## Numbers of groups -/

namespace AggregationSpec

/-- The numbers that an aggregation reports, each with the rows of its group or of its pair of
texts. -/
inductive Reports (spec : AggregationSpec) (dataset : Dataset) : Dataset → Binary64 → Prop
  | group {g : GroupedSeries} {key : String} {v : Binary64}
      (h : aggregate spec dataset = .grouped g) (hpoint : (key, v) ∈ g.points) :
      Reports spec dataset (dataset.rowsWith spec.dimension key) v
  | pair {p : PivotedSeries} {field name : String} {entry : String × List (Option Binary64)}
      {v : Binary64} (h : aggregate spec dataset = .pivoted p) (hfield : spec.colorBy = some field)
      (hentry : entry ∈ p.rows) (hplace : (name, some v) ∈ p.labelled entry) :
      Reports spec dataset ((dataset.rowsWith spec.dimension entry.1).rowsWith field name) v

/-- The number is the extreme that the aggregator asks for: some row has its value and no row has a
number beyond it. It is a number, and it is infinite only if a row is. -/
structure IsExtreme (spec : AggregationSpec) (rows : Dataset) (v : Binary64) : Prop where
  attained : ∃ row ∈ rows, v.same (row.measured spec.measure) = true
  least : spec.aggregator = .min → ∀ row ∈ rows, v.atMost (row.measured spec.measure) = true
  greatest : spec.aggregator = .max → ∀ row ∈ rows, (row.measured spec.measure).atMost v = true
  infinite : ∀ s, v = .infinite s → ∃ row ∈ rows, row.measured spec.measure = .infinite s
  isNaN_eq_false : v.isNaN = false

variable {spec : AggregationSpec} {dataset rows : Dataset} {v : Binary64}

/-- A number that has the value of a row is no not-a-number, and infinite only if the row is. -/
theorem IsExtreme.of_attained (attained : ∃ row ∈ rows, v.same (row.measured spec.measure) = true)
    (least : spec.aggregator = .min → ∀ row ∈ rows, v.atMost (row.measured spec.measure) = true)
    (greatest : spec.aggregator = .max →
      ∀ row ∈ rows, (row.measured spec.measure).atMost v = true) :
    spec.IsExtreme rows v := by
  obtain ⟨row, hrow, hsame⟩ := attained
  refine ⟨⟨row, hrow, hsame⟩, least, greatest, ?_, (Binary64.same_iff_level_eq.1 hsame).1.1⟩
  rintro s rfl
  exact ⟨row, hrow, Binary64.eq_infinite_of_same hsame⟩

/-- What a fold that selects makes of the numbers of rows has the value of one of the rows and a key
that is at most that of each of them. -/
theorem attained_of_selects {op : Binary64 → Binary64 → Binary64} {key : Binary64 → Int}
    {seed : Binary64} (h : Binary64.Selects op key seed) (hne : rows ≠ [])
    (hv : v = (rows.map (·.measured spec.measure)).foldl op seed) :
    v.isNaN = false ∧ (∃ row ∈ rows, v.same (row.measured spec.measure) = true) ∧
      ∀ row ∈ rows, key v ≤ key (row.measured spec.measure) := by
  have hnumbers : ∀ x ∈ rows.map (·.measured spec.measure), x.isNaN = false :=
    List.forall_mem_map.2 fun row _ => Cell.isNaN_toNumberOrZero _
  have hleast := (h.foldl h.isNaN_seed hnumbers).2
  obtain ⟨x, hx, hsame⟩ := h.exists_same (by simpa using hne) hnumbers
  rw [← hv] at hleast hsame
  obtain ⟨row, hrow, rfl⟩ := List.mem_map.1 hx
  exact ⟨(Binary64.same_iff_level_eq.1 hsame).1.1, ⟨row, hrow, hsame⟩, fun row hrow =>
    hleast _ (List.mem_cons_of_mem _ (List.mem_map_of_mem hrow))⟩

/-- Reduced by minimum or maximum, rows give an extreme of them. -/
theorem isExtreme_reduced (h : spec.aggregator = .min ∨ spec.aggregator = .max) (hne : rows ≠ []) :
    spec.IsExtreme rows (spec.reduced rows) := by
  have hnumber : ∀ row : Row, (row.measured spec.measure).isNaN = false := fun row =>
    Cell.isNaN_toNumberOrZero _
  rcases h with h | h
  · have hfold : spec.reduced rows =
        (rows.map (·.measured spec.measure)).foldl Binary64.min (.infinite false) := by
      rw [reduced, h, Aggregator.reduce]
    obtain ⟨hnan, hattained, hkey⟩ := attained_of_selects Binary64.selects_min hne hfold
    refine .of_attained hattained (fun _ row hrow => ?_) (fun hmax => by rw [h] at hmax; cases hmax)
    exact (Binary64.atMost_iff hnan (hnumber row)).2 (hkey row hrow)
  · have hfold : spec.reduced rows =
        (rows.map (·.measured spec.measure)).foldl Binary64.max (.infinite true) := by
      rw [reduced, h, Aggregator.reduce]
    obtain ⟨hnan, hattained, hkey⟩ := attained_of_selects Binary64.selects_max hne hfold
    refine .of_attained hattained (fun hmin => by rw [h] at hmin; cases hmin) (fun _ row hrow => ?_)
    exact (Binary64.atMost_iff (hnumber row) hnan).2 (Int.neg_le_neg_iff.1 (hkey row hrow))

/-- What an aggregation reports for rows is made of these rows, which are not none. -/
theorem eq_reduced_of_reports (h : spec.Reports dataset rows v) :
    rows ≠ [] ∧ v = spec.reduced rows := by
  cases h with
  | @group g key v h hpoint =>
      cases hsplit : spec.splitField? with
      | some field =>
          rw [aggregate_of_splitField?_some hsplit] at h
          cases h
      | none =>
          rw [aggregate_of_splitField?_none hsplit] at h
          obtain rfl := Aggregation.grouped.inj h
          obtain ⟨k, hk, heq⟩ := List.mem_map.1 hpoint
          obtain ⟨rfl, rfl⟩ := Prod.mk.inj heq
          exact ⟨rowsWith_ne_nil spec.dimension dataset hk, rfl⟩
  | @pair p field name entry v h hfield hentry hplace =>
      cases hsplit : spec.splitField? with
      | none =>
          rw [aggregate_of_splitField?_none hsplit] at h
          cases h
      | some other =>
          obtain rfl : other = field :=
            Option.some.inj ((Option.filter_eq_some_iff.1 hsplit).1.symm.trans hfield)
          rw [aggregate_of_splitField?_some hsplit] at h
          obtain rfl := Aggregation.pivoted.inj h
          obtain ⟨k, -, rfl⟩ := List.mem_map.1 hentry
          rw [labelled_map, List.mem_map] at hplace
          obtain ⟨name, -, heq⟩ := hplace
          obtain ⟨rfl, hcell⟩ := Prod.mk.inj heq
          have hne : spec.reduced? ((dataset.rowsWith spec.dimension k).rowsWith other name) ≠
              none := by
            rw [hcell]
            exact Option.some_ne_none v
          exact ⟨fun hnil => hne (reduced?_eq_none_iff.2 hnil), eq_reduced_of_reduced? hcell⟩

/-- **Minima and maxima of groups.** An aggregation asks for minima or for maxima, with or without a
second field. Every number that it reports has the value of some row of its group, or of its pair of
texts, and no row of these has a lesser number, or a greater one. So an infinity is reported only
where a row holds it, and a not-a-number never. -/
theorem isExtreme_of_reports (h : spec.aggregator = .min ∨ spec.aggregator = .max)
    (hreports : spec.Reports dataset rows v) : spec.IsExtreme rows v := by
  obtain ⟨hne, rfl⟩ := eq_reduced_of_reports hreports
  exact isExtreme_reduced h hne

end AggregationSpec

/-- Readings of two sites; one is no number and one is infinite. -/
def someReadings : Dataset :=
  [.ofList [("site", .text "A"), ("kind", .text "x"), ("value", .text "n/a")],
    .ofList [("site", .text "A"), ("kind", .text "x"), ("value", .number (.ofInt (-5)))],
    .ofList [("site", .text "A"), ("kind", .text "y"), ("value", .text "-Infinity")],
    .ofList [("site", .text "B"), ("kind", .text "x")]]

/-- The greatest reading of `A` and `x` is the zero that stands for what is no number; that of `A`
and `y` is minus infinity, which is held by a row. The least reading of `A` is the same. -/
theorem isExtreme_readings :
    AggregationSpec.IsExtreme ⟨"site", "value", .max, some "kind"⟩
        ((someReadings.rowsWith "site" "A").rowsWith "kind" "x") (.zero false) ∧
      AggregationSpec.IsExtreme ⟨"site", "value", .max, some "kind"⟩
        ((someReadings.rowsWith "site" "A").rowsWith "kind" "y") (.infinite true) ∧
      AggregationSpec.IsExtreme ⟨"site", "value", .min, none⟩
        (someReadings.rowsWith "site" "A") (.infinite true) := by
  have hpivoted := @aggregate_of_splitField?_some
    ⟨"site", "value", .max, some "kind"⟩ "kind" rfl someReadings
  have hgrouped := @aggregate_of_splitField?_none ⟨"site", "value", .min, none⟩ rfl someReadings
  refine ⟨?_, ?_, ?_⟩
  · exact AggregationSpec.isExtreme_of_reports (.inr rfl)
      (@AggregationSpec.Reports.pair _ _ _ _ _ ("A", [some (.zero false), some (.infinite true)]) _
        hpivoted rfl (by decide +kernel) (by decide +kernel))
  · exact AggregationSpec.isExtreme_of_reports (.inr rfl)
      (@AggregationSpec.Reports.pair _ _ _ _ _ ("A", [some (.zero false), some (.infinite true)]) _
        hpivoted rfl (by decide +kernel) (by decide +kernel))
  · exact AggregationSpec.isExtreme_of_reports (.inl rfl)
      (.group hgrouped (by decide +kernel))

end Dashboard
