import Dashboard.Text.CaseTable
import Mathlib.Data.List.Basic

/-!
# Text.CaseTable · mapped characters stay

A table of case mappings maps no character that it maps to. What has been mapped is thus in its
final form. This is read off the table by runs: no run reaches a character that belongs to a run,
or to the characters that become more than one.

* **`CaseRun.avoids`** says that a run covers none of some evenly spaced code points, and
  **`IsSettled`** that this holds of all that a table maps to.
* **`mapCodePoint_of_mem`**: in a settled table what a code point maps to maps to itself.
* **`isSettled_upper`**, **`isSettled_lower`**: both tables are settled.
-/

namespace Dashboard

namespace Text

variable {runs : List CaseRun} {special : List (Nat × List Nat)} {run other : CaseRun} {n m : Nat}

/-! ## Runs -/

/-- The code point that a code point of the run maps to. -/
def CaseRun.target (run : CaseRun) (n : Nat) : Nat := (n + run.shift).toNat

/-- Whether the run covers none of the code points `low`, `low + step`, …, `high`. These are told
apart from the run by its ends or, where all of both are two apart, by being odd or even. -/
def CaseRun.avoids (run : CaseRun) (low high step : Nat) : Bool :=
  Nat.blt high run.first || Nat.blt run.last low ||
    ((Nat.beq low high || Nat.beq step 2) && Nat.beq run.step 2 &&
      Nat.beq ((low + run.first) % 2) 1)

/-- A run covers the code points between its ends, in its steps. -/
theorem covers_iff : run.covers n = true ↔
    run.first ≤ n ∧ n ≤ run.last ∧ (n - run.first) % run.step = 0 := by
  simp [CaseRun.covers, and_assoc]

/-- A run covers no code point that it avoids. -/
theorem not_covers_of_avoids {low high step : Nat} (h : run.avoids low high step = true)
    (hlow : low ≤ m) (hhigh : m ≤ high) (hstep : (m - low) % step = 0) :
    run.covers m = false := by
  rw [← Bool.not_eq_true, covers_iff]
  rintro ⟨hfirst, hlast, hmod⟩
  simp only [CaseRun.avoids, Bool.or_eq_true, Bool.and_eq_true, Nat.blt_eq, Nat.beq_eq] at h
  rcases h with (h | h) | ⟨⟨heven, htwo⟩, hodd⟩
  · omega
  · omega
  · rw [htwo] at hmod
    rcases heven with heq | rfl <;> omega

/-- The targets of a run are as far apart as its code points. -/
theorem target_sub_target (h : 0 ≤ run.first + run.shift) (hn : run.first ≤ n) :
    run.target n - run.target run.first = n - run.first := by
  unfold CaseRun.target
  omega

/-! ## Tables -/

/-- What the table maps to belongs to no run and is not among the special characters. -/
structure IsSettled (runs : List CaseRun) (special : List (Nat × List Nat)) : Prop where
  target_nonneg : ∀ run ∈ runs, 0 ≤ run.first + run.shift
  avoids_target : (runs.all fun run => runs.all fun other =>
    other.avoids (run.target run.first) (run.target run.last) run.step) = true
  special_target : (runs.all fun run => special.all fun entry =>
    Nat.blt entry.1 (run.target run.first) || Nat.blt (run.target run.last) entry.1) = true
  avoids_special : ((special.flatMap (·.2)).eraseDups.all fun m => runs.all (·.avoids m m 1)) = true
  special_special :
    ((special.flatMap (·.2)).eraseDups.all fun m => special.all fun entry => !Nat.beq entry.1 m) =
      true

/-- A code point in no run and not special maps to itself. -/
theorem mapCodePoint_of_settled (hruns : ∀ run ∈ runs, run.covers m = false)
    (hspecial : ∀ entry ∈ special, entry.1 ≠ m) : mapCodePoint runs special m = [m] := by
  have hlookup : special.lookup m = none := by
    rw [List.lookup_eq_none_iff]
    intro entry hentry
    rw [bne_iff_ne]
    exact (hspecial entry hentry).symm
  have hfind : runs.find? (·.covers m) = none := by
    rw [List.find?_eq_none]
    intro run hrun
    rw [hruns run hrun]
    exact Bool.false_ne_true
  rw [mapCodePoint, hlookup, hfind]

/-- The code points that special characters become map to themselves. -/
theorem IsSettled.map_special (h : IsSettled runs special) (hm : m ∈ special.flatMap (·.2)) :
    mapCodePoint runs special m = [m] := by
  have hmapped : m ∈ (special.flatMap (·.2)).eraseDups := List.mem_eraseDups.2 hm
  apply mapCodePoint_of_settled
  · intro run hrun
    have havoids := List.all_eq_true.1 (List.all_eq_true.1 h.avoids_special m hmapped) run hrun
    exact not_covers_of_avoids havoids (Nat.le_refl m) (Nat.le_refl m) (Nat.mod_one _)
  · intro entry hentry heq
    have hother := List.all_eq_true.1 (List.all_eq_true.1 h.special_special m hmapped) entry hentry
    rw [heq, Nat.beq_refl] at hother
    cases hother

/-- The code points that a run maps to map to themselves. -/
theorem IsSettled.map_target (h : IsSettled runs special) (hrun : run ∈ runs)
    (hcovers : run.covers n = true) :
    mapCodePoint runs special (run.target n) = [run.target n] := by
  obtain ⟨hfirst, hlast, hmod⟩ := covers_iff.1 hcovers
  have hnonneg := h.target_nonneg run hrun
  have hlow : run.target run.first ≤ run.target n := by
    unfold CaseRun.target
    omega
  have hhigh : run.target n ≤ run.target run.last := by
    unfold CaseRun.target
    omega
  apply mapCodePoint_of_settled
  · intro other hother
    have havoids := List.all_eq_true.1 (List.all_eq_true.1 h.avoids_target run hrun) other hother
    refine not_covers_of_avoids havoids hlow hhigh ?_
    rw [target_sub_target hnonneg hfirst, hmod]
  · intro entry hentry heq
    have hends := List.all_eq_true.1 (List.all_eq_true.1 h.special_target run hrun) entry hentry
    rw [heq, Bool.or_eq_true, Nat.blt_eq, Nat.blt_eq] at hends
    omega

/-- In a settled table, what a code point maps to maps to itself. -/
theorem mapCodePoint_of_mem (h : IsSettled runs special) (hm : m ∈ mapCodePoint runs special n) :
    mapCodePoint runs special m = [m] := by
  rw [mapCodePoint] at hm
  split at hm
  · rename_i mapped hlookup
    obtain ⟨before, after, hspecial, -⟩ := List.lookup_eq_some_iff.1 hlookup
    apply h.map_special
    rw [hspecial, List.flatMap_append, List.flatMap_cons]
    exact List.mem_append_right _ (List.mem_append_left _ hm)
  · rename_i hlookup
    split at hm
    · rename_i run hfind
      obtain rfl := List.mem_singleton.1 hm
      exact h.map_target (List.mem_of_find?_eq_some hfind) (by simpa using List.find?_some hfind)
    · rename_i hfind
      obtain rfl := List.mem_singleton.1 hm
      rw [mapCodePoint, hlookup, hfind]

/-- The table of upper case forms is settled. -/
theorem isSettled_upper : IsSettled upperRuns upperSpecial where
  target_nonneg := by decide +kernel
  avoids_target := by decide +kernel
  special_target := by decide +kernel
  avoids_special := by decide +kernel
  special_special := by decide +kernel

/-- The table of lower case forms is settled. -/
theorem isSettled_lower : IsSettled lowerRuns lowerSpecial where
  target_nonneg := by decide +kernel
  avoids_target := by decide +kernel
  special_target := by decide +kernel
  avoids_special := by decide +kernel
  special_special := by decide +kernel

end Text

end Dashboard
