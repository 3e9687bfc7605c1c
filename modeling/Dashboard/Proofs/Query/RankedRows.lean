import Dashboard.Proofs.Query.Comparison
import Dashboard.Query.Aggregation

/-!
# Query.RankedRows · limiting a chart

A limit with a field keeps the rows that rank highest by the number of the field: the greatest
numbers at the top, the least ones at the bottom. What is no number ranks as zero, and negative zero
just below zero.

* **`Ranked`** says that rows stand in the order of their ranks, and rows of equal rank as they
  came.
* **`FirstRanked`** says which rows of a ranking are kept, and how they compare to those that are
  dropped.
* **`limitRows_eq`**: what a limit keeps, and that of two limits one after the other the smaller
  count decides.
-/

namespace Dashboard

/-- The number `x` ranks at least as high as `y`. -/
def LimitDirection.Ranks (direction : LimitDirection) (x y : Binary64) : Prop :=
  match direction with
  | .top => (y.totalOrder x).isLE = true
  | .bottom => (x.totalOrder y).isLE = true

/-- The number `x` is at least `y` at the top, and at most `y` at the bottom. -/
def LimitDirection.Bounds (direction : LimitDirection) (x y : Binary64) : Prop :=
  match direction with
  | .top => y.atMost x = true
  | .bottom => x.atMost y = true

instance (direction : LimitDirection) (x y : Binary64) : Decidable (direction.Ranks x y) :=
  match direction with
  | .top => inferInstanceAs (Decidable (_ = true))
  | .bottom => inferInstanceAs (Decidable (_ = true))

instance (direction : LimitDirection) (x y : Binary64) : Decidable (direction.Bounds x y) :=
  match direction with
  | .top => inferInstanceAs (Decidable (_ = true))
  | .bottom => inferInstanceAs (Decidable (_ = true))

/-- The rows of a dataset in the order of their ranks by a field, each as often as it was. Rows with
the same number keep their order. -/
structure Ranked (direction : LimitDirection) (field : String) (dataset ranked : Dataset) :
    Prop where
  perm : ranked.Perm dataset
  ordered : ranked.Pairwise fun a b => direction.Ranks (a.measured field) (b.measured field)
  ties : ∀ row ∈ dataset,
    (ranked.filter fun other => other.measured field = row.measured field) =
      dataset.filter fun other => other.measured field = row.measured field

/-- The first `count` rows of the ranking, or all if there are no more, and the rows behind them.
What is kept ranks at least as high as what is dropped, and of rows with the same number the
earliest ones are kept. -/
structure FirstRanked (direction : LimitDirection) (field : String) (count : Nat)
    (dataset kept dropped : Dataset) : Prop where
  ranked : Ranked direction field dataset (kept ++ dropped)
  length_eq : kept.length = min count dataset.length
  above : ∀ row ∈ kept, ∀ other ∈ dropped,
    direction.Ranks (row.measured field) (other.measured field) ∧
      direction.Bounds (row.measured field) (other.measured field)
  earliest : ∀ row ∈ dataset,
    (kept.filter fun other => other.measured field = row.measured field) <+:
      dataset.filter fun other => other.measured field = row.measured field

section ranking

variable {direction : LimitDirection} {field : String} {dataset ranked kept dropped : Dataset}
  {a b : Row} {x y : Binary64} {count : Nat}

/-- Of numbers other than NaN, the one that ranks higher is the bound of the other. -/
theorem bounds_of_ranks (hx : x.isNaN = false) (hy : y.isNaN = false)
    (h : direction.Ranks x y) : direction.Bounds x y := by
  cases direction with
  | top => exact Binary64.atMost_of_totalOrder hy hx h
  | bottom => exact Binary64.atMost_of_totalOrder hx hy h

/-- Rows are compared by the ranks of their numbers. -/
theorem isLE_compareRank :
    (compareRank direction field a b).isLE = true ↔
      direction.Ranks (a.measured field) (b.measured field) := by
  cases direction <;> exact Iff.rfl

/-- Rows are equal in the ranking exactly if they have the same number. -/
theorem compareRank_eq_eq :
    compareRank direction field a b = .eq ↔ b.measured field = a.measured field := by
  cases direction with
  | top => exact Binary64.totalOrder_eq_eq
  | bottom => exact Binary64.totalOrder_eq_eq.trans eq_comm

/-- Rows are ranked exactly if they are sorted stably by the ranks. -/
theorem ranked_iff_sortedStably :
    Ranked direction field dataset ranked ↔
      SortedStably (compareRank direction field) dataset ranked := by
  constructor
  · intro h
    refine ⟨h.perm, h.ordered.imp isLE_compareRank.2, ?_⟩
    intro a
    simp only [compareRank_eq_eq]
    by_cases hnone : ∃ row ∈ dataset, row.measured field = a.measured field
    · obtain ⟨row, hrow, heq⟩ := hnone
      rw [← heq]
      exact h.ties row hrow
    · push Not at hnone
      have hnil : (dataset.filter fun b => b.measured field = a.measured field) = [] := by
        simpa [List.filter_eq_nil_iff] using hnone
      have hperm := h.perm.filter fun b => b.measured field = a.measured field
      rw [hnil] at hperm ⊢
      exact hperm.eq_nil
  · intro h
    refine ⟨h.perm, h.ordered.imp isLE_compareRank.1, ?_⟩
    intro row _
    have hties := h.ties row
    simp only [compareRank_eq_eq] at hties
    exact hties

/-- Where a ranking is cut, the rows in front are its first ones. -/
theorem Ranked.firstRanked (h : Ranked direction field dataset ranked) (count : Nat) :
    FirstRanked direction field count dataset (ranked.take count) (ranked.drop count) := by
  have hsplit : ranked.take count ++ ranked.drop count = ranked := List.take_append_drop _ _
  refine ⟨by rwa [hsplit], ?_, ?_, ?_⟩
  · rw [List.length_take, h.perm.length_eq]
  · intro row hrow other hother
    have hordered := h.ordered
    rw [← hsplit, List.pairwise_append] at hordered
    have hranks := hordered.2.2 row hrow other hother
    exact ⟨hranks, bounds_of_ranks (Cell.isNaN_toNumberOrZero _) (Cell.isNaN_toNumberOrZero _)
      hranks⟩
  · intro row hrow
    rw [← h.ties row hrow]
    exact (List.take_prefix count ranked).filter _

/-- What is kept is the ranking up to the count. -/
theorem FirstRanked.eq_take (h : FirstRanked direction field count dataset kept dropped) :
    kept = (kept ++ dropped).take count := by
  rw [List.take_eq_take_min, h.ranked.perm.length_eq, ← h.length_eq, List.take_left]

/-- By a field, the first rows of the ranking are kept. -/
theorem limitRows_of_pos {count : Int} (hcount : 0 < count) (direction : LimitDirection)
    (field : String) (dataset : Dataset) :
    limitRows count direction (some field) dataset =
      (sortWith (compareRank direction field) dataset).take count.toNat := by
  rw [limitRows, if_neg (Int.not_le.2 hcount)]

/-- Without a field, the first rows are kept. -/
theorem limitRows_none_of_pos {count : Int} (hcount : 0 < count) (direction : LimitDirection)
    (dataset : Dataset) :
    limitRows count direction none dataset = dataset.take count.toNat := by
  rw [limitRows, if_neg (Int.not_le.2 hcount)]

/-- There is one choice of rows, and a limit finds it. -/
theorem eq_limitRows_iff {count : Int} (hcount : 0 < count) :
    kept = limitRows count direction (some field) dataset ↔
      ∃ dropped, FirstRanked direction field count.toNat dataset kept dropped := by
  rw [limitRows_of_pos hcount]
  have hsorted := sortedStably_sortWith (compareRank direction field) dataset
  constructor
  · rintro rfl
    exact ⟨_, (ranked_iff_sortedStably.2 hsorted).firstRanked _⟩
  · rintro ⟨dropped, h⟩
    rw [h.eq_take, (ranked_iff_sortedStably.1 h.ranked).eq hsorted]

/-- Ranking the first rows of a ranking again changes nothing. -/
theorem limitRows_limitRows {m n : Int} (hm : 0 < m) (hn : 0 < n) (direction : LimitDirection)
    (field : Option String) (dataset : Dataset) :
    limitRows m direction field (limitRows n direction field dataset) =
      limitRows (min m n) direction field dataset := by
  have hmin : 0 < min m n := Int.lt_min.2 ⟨hm, hn⟩
  have htoNat : (min m n).toNat = min m.toNat n.toNat := by omega
  cases field with
  | none =>
      rw [limitRows_none_of_pos hn, limitRows_none_of_pos hm, limitRows_none_of_pos hmin,
        List.take_take, htoNat]
  | some field =>
      have hordered := (sortedStably_sortWith (compareRank direction field) dataset).ordered
      have hagain : sortWith (compareRank direction field)
          ((sortWith (compareRank direction field) dataset).take n.toNat) =
          (sortWith (compareRank direction field) dataset).take n.toNat :=
        List.mergeSort_of_pairwise (hordered.sublist (List.take_sublist _ _))
      rw [limitRows_of_pos hn, limitRows_of_pos hm, limitRows_of_pos hmin, hagain,
        List.take_take, htoNat]

/-- **What a limit keeps.** A count that is not positive keeps everything. Without a field the first
rows are kept. With a field the first rows of the ranking are kept, and no other choice of rows has
the properties that make them the first ones. A limit of a limit is the limit by the smaller
count. -/
theorem limitRows_eq (direction : LimitDirection) (dataset : Dataset) :
    (∀ count : Int, count ≤ 0 → ∀ field, limitRows count direction field dataset = dataset) ∧
    (∀ count : Int, 0 < count →
      limitRows count direction none dataset = dataset.take count.toNat) ∧
    (∀ count : Int, 0 < count → ∀ field kept,
      kept = limitRows count direction (some field) dataset ↔
        ∃ dropped, FirstRanked direction field count.toNat dataset kept dropped) ∧
    (∀ m n : Int, 0 < m → 0 < n → ∀ field,
      limitRows m direction field (limitRows n direction field dataset) =
        limitRows (min m n) direction field dataset) := by
  refine ⟨?_, ?_, ?_, ?_⟩
  · intro count hcount field
    exact if_pos hcount
  · intro count hcount
    exact limitRows_none_of_pos hcount direction dataset
  · intro count hcount field kept
    exact eq_limitRows_iff hcount
  · intro m n hm hn field
    exact limitRows_limitRows hm hn direction field dataset

end ranking

/-- A row with a name and a score. -/
def scored (name : String) (score : Cell) : Row := .ofList [("name", .text name), ("score", score)]

/-- Scores as numbers and as texts; the first one is no number. -/
def someScores : Dataset :=
  [scored "a" (.text "n/a"), scored "b" (.number (.ofNat 7)), scored "c" (.number (.ofNat 0)),
    scored "d" (.text "7"), scored "e" (.number (.ofInt (-1)))]

/-- The best three are the two sevens, in order, and the first of the two zeros. -/
theorem limitRows_scores :
    limitRows 3 .top (some "score") someScores =
        [scored "b" (.number (.ofNat 7)), scored "d" (.text "7"), scored "a" (.text "n/a")] ∧
      limitRows 2 .top (some "score") (limitRows 3 .top (some "score") someScores) =
        limitRows 2 .top (some "score") someScores ∧
      limitRows 2 .bottom none someScores = someScores.take 2 ∧
      limitRows (-1) .bottom (some "score") someScores = someScores := by
  obtain ⟨-, -, hkept, hagain⟩ := limitRows_eq .top someScores
  obtain ⟨hall, hhead, -, -⟩ := limitRows_eq .bottom someScores
  refine ⟨?_, ?_, hhead 2 (by decide), hall (-1) (by decide) _⟩
  · refine ((hkept 3 (by decide) "score" _).2
      ⟨[scored "c" (.number (.ofNat 0)), scored "e" (.number (.ofInt (-1)))], ?_⟩).symm
    exact ⟨⟨by decide +kernel, by decide +kernel, by decide +kernel⟩, by decide +kernel,
      by decide +kernel, by decide +kernel⟩
  · exact hagain 2 3 (by decide) (by decide) (some "score")

end Dashboard
