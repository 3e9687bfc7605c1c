import Dashboard.Proofs.Row.Modify
import Dashboard.Proofs.Transform.Composition
import Dashboard.Proofs.Transform.Edits

/-!
# Transform.Independent · steps that may change places

A change of cells looks at one column and writes it in place. So changes of different columns may be
made in either order, and a step that changes cells may be moved past others of this kind. A step
whose pattern is no pattern is not among them: it fails at its position, wherever that is.

* **`Step.Independent`**: two steps that change the cells of different columns.
* **`Pipeline.runFrom_swap`**: two neighbours change places, and from this
  **`Pipeline.runFrom_passing`**: a step is moved past any number of others.
* **`Pipeline.apply_move?`**: what a move does not change.
* **`independent_steps_commute`** puts these together.
-/

namespace Dashboard

/-! ## Steps -/

/-- The steps change the cells of different columns, and neither searches for a text that is no
pattern. -/
inductive Step.Independent : Step → Step → Prop
  | cells {column other : String} {change further : CellChange} (hne : column ≠ other)
      (hvalid : ¬(Step.cells column change).IsInvalid)
      (hfurther : ¬(Step.cells other further).IsInvalid) :
      Independent (.cells column change) (.cells other further)

namespace Step

variable {first second : Step}

/-- Independence is symmetric. -/
theorem Independent.symm (h : first.Independent second) : second.Independent first := by
  cases h with
  | cells hne hvalid hfurther => exact .cells hne.symm hfurther hvalid

/-- A change in a valid step can be applied. -/
theorem exists_apply?_of_not_isInvalid {column : String} {change : CellChange}
    (h : ¬(Step.cells column change).IsInvalid) : ∃ f, change.apply? = some f := by
  rw [← Option.ne_none_iff_exists']
  intro hnone
  exact h (change?_eq_none_iff.1 (by rw [change?, hnone, Option.map_none]))

/-- Both orders succeed and give the same rows. -/
theorem Independent.exists_run? (h : first.Independent second) (dataset : Dataset) :
    ∃ middle middle' result, first.run? dataset = some middle ∧ second.run? middle = some result ∧
      second.run? dataset = some middle' ∧ first.run? middle' = some result := by
  cases h with
  | @cells column other change further hne hvalid hfurther =>
      obtain ⟨f, hf⟩ := exists_apply?_of_not_isInvalid hvalid
      obtain ⟨g, hg⟩ := exists_apply?_of_not_isInvalid hfurther
      refine ⟨_, _, _, run?_cells hf column dataset, run?_cells hg other _,
        run?_cells hg other dataset, ?_⟩
      rw [run?_cells hf, List.map_map, List.map_map]
      refine congrArg some (List.map_congr_left fun row _ => ?_)
      exact (row.modify_comm hne).symm

end Step

/-! ## Runs -/

namespace Pipeline

variable {first second step : Step} {p moved : Pipeline} {source target : Nat}

/-- Two independent neighbours change places. -/
theorem runFrom_swap (h : first.Independent second) (index : Nat) (rest : List Step)
    (dataset : Dataset) :
    runFrom index (first :: second :: rest) dataset =
      runFrom index (second :: first :: rest) dataset := by
  obtain ⟨middle, middle', result, hfirst, hsecond, hsecond', hfirst'⟩ := h.exists_run? dataset
  rw [runFrom_cons_of_run? hfirst, runFrom_cons_of_run? hsecond, runFrom_cons_of_run? hsecond',
    runFrom_cons_of_run? hfirst']

/-- Runs with the same first steps are the same if the runs of the others are, from every position
and on all rows. -/
theorem runFrom_append_congr {steps others : List Step}
    (h : ∀ index dataset, runFrom index steps dataset = runFrom index others dataset)
    (before : List Step) (index : Nat) (dataset : Dataset) :
    runFrom index (before ++ steps) dataset = runFrom index (before ++ others) dataset := by
  rw [runFrom_append, runFrom_append, funext (h _)]

/-- A step is moved past others that it is independent of. -/
theorem runFrom_passing {passed : List Step} (h : ∀ other ∈ passed, step.Independent other)
    (after : List Step) (index : Nat) (dataset : Dataset) :
    runFrom index (step :: (passed ++ after)) dataset =
      runFrom index (passed ++ step :: after) dataset := by
  induction passed generalizing index dataset with
  | nil => rfl
  | cons other passed ih =>
      rw [List.cons_append, runFrom_swap (h other List.mem_cons_self)]
      have hrest := ih fun later hlater => h later (List.mem_cons_of_mem other hlater)
      exact runFrom_append_congr hrest [other] index dataset

/-- **What a move does not change.** A step may be moved past any number of steps that it is
independent of: the same rows, and the same error. -/
theorem apply_move? (h : p.move? source target = some moved)
    (hstep : p.steps[source]? = some step)
    (hpassed : ∀ index other, p.steps[index]? = some other → index ≠ source →
      min source target ≤ index → index ≤ max source target → step.Independent other)
    (dataset : Dataset) : moved.apply dataset = p.apply dataset := by
  rcases Nat.le_total source target with hle | hle
  · obtain ⟨before, taken, passed, after, hsteps, hmoved, rfl, rfl⟩ := exists_passed_of_move? h hle
    obtain rfl : taken = step := by simpa [hsteps] using hstep
    have hindependent : ∀ other ∈ passed, taken.Independent other := by
      intro other hother
      obtain ⟨k, hk, rfl⟩ := List.getElem_of_mem hother
      refine hpassed (before.length + (k + 1)) _ ?_ (by omega) (by omega) (by omega)
      rw [hsteps, List.getElem?_append_right (Nat.le_add_right _ _), Nat.add_sub_cancel_left,
        List.getElem?_cons_succ, List.getElem?_append_left hk, List.getElem?_eq_getElem hk]
    rw [apply, apply, hsteps, hmoved]
    exact (runFrom_append_congr (runFrom_passing hindependent after) before 0 dataset).symm
  · -- moved back, the step passes the others from the left
    obtain ⟨before, taken, passed, after, hmoved, hsteps, rfl, rfl⟩ :=
      exists_passed_of_move? (move?_of_move? h) hle
    obtain rfl : taken = step := by simpa [hsteps] using hstep
    have hindependent : ∀ other ∈ passed, taken.Independent other := by
      intro other hother
      obtain ⟨k, hk, rfl⟩ := List.getElem_of_mem hother
      refine hpassed (before.length + k) _ ?_ (by omega) (by omega) (by omega)
      rw [hsteps, List.getElem?_append_right (Nat.le_add_right _ _), Nat.add_sub_cancel_left,
        List.getElem?_append_left hk, List.getElem?_eq_getElem hk]
    rw [apply, apply, hsteps, hmoved]
    exact runFrom_append_congr (runFrom_passing hindependent after) before 0 dataset

end Pipeline

/-- **Independent steps commute.** On every dataset, two steps that change the cells of different
columns succeed in either order and give the same rows, their fields in the same order. So where
they are neighbours in a pipeline, moving one past the other changes no result of it: the same rows,
or the same error of another step. -/
theorem independent_steps_commute {first second : Step} (h : first.Independent second) :
    (∀ dataset, ∃ middle middle' result,
      first.run? dataset = some middle ∧ second.run? middle = some result ∧
        second.run? dataset = some middle' ∧ first.run? middle' = some result) ∧
      ∀ (p : Pipeline) (index : Nat), p.steps[index]? = some first →
        p.steps[index + 1]? = some second →
        ∃ moved, p.move? index (index + 1) = some moved ∧
          p.move? (index + 1) index = some moved ∧
          ∀ dataset, moved.apply dataset = p.apply dataset := by
  refine ⟨h.exists_run?, fun p index hfirst hsecond => ?_⟩
  obtain ⟨hlt, hget⟩ := List.getElem?_eq_some_iff.1 hsecond
  obtain ⟨hlt', hget'⟩ := List.getElem?_eq_some_iff.1 hfirst
  have hsteps : p.steps =
      p.steps.take index ++ first :: second :: p.steps.drop (index + 1 + 1) := by
    rw [← hget, List.getElem_cons_drop, ← hget', List.getElem_cons_drop, List.take_append_drop]
  have hmove := Pipeline.move?_neighbours hsteps
  rw [List.length_take, Nat.min_eq_left (Nat.le_of_lt hlt')] at hmove
  refine ⟨_, hmove.1, hmove.2, Pipeline.apply_move? hmove.1 hfirst ?_⟩
  intro position other hother hne hmin hmax
  obtain rfl : position = index + 1 := by omega
  rw [hsecond] at hother
  exact Option.some.inj hother ▸ h

/-- A sorted list of prices, whose names and amounts are put right. -/
def priceList : Pipeline :=
  ⟨[.table (.sort "price" default), .cells "name" (.findReplace "[0-9]+" "n"),
    .cells "price" (.round 2), .rows (.delete "note")]⟩

/-- The names may be put right before or after the prices. -/
theorem independent_steps_commute_priceList :
    (Step.cells "name" (.findReplace "[0-9]+" "n")).Independent (.cells "price" (.round 2)) ∧
      ∃ moved, priceList.move? 1 2 = some moved ∧ priceList.move? 2 1 = some moved ∧
        ∀ dataset, moved.apply dataset = priceList.apply dataset := by
  have hpattern : (Pattern.ofString? "[0-9]+").isSome = true := by decide +kernel
  have hnames : ¬(Step.cells "name" (.findReplace "[0-9]+" "n")).IsInvalid := by
    rintro ⟨_, _, _, heq, hnone⟩
    cases heq
    rw [hnone] at hpattern
    cases hpattern
  have hprices : ¬(Step.cells "price" (.round 2)).IsInvalid := by
    rintro ⟨_, _, _, heq, -⟩
    cases heq
  have hindependent := Step.Independent.cells (by decide) hnames hprices
  exact ⟨hindependent, (independent_steps_commute hindependent).2 priceList 1 rfl rfl⟩

end Dashboard
