import Dashboard.Transform.Pipeline

/-!
# Transform.Failure · when a pipeline fails

A run of a pipeline goes from step to step and stops where a text that is to be searched for is no
pattern. Whether a text is a pattern does not depend on the rows, so neither does the failure.

* **`Step.IsInvalid`**: a step searches for a text that is no pattern. These are the steps that make
  no change (`Step.change?_eq_none_iff`).
* **`FirstInvalid`**: an error names the first such step and its text.
* **`Pipeline.runFrom_add`**: a run that starts at a later position fails at a later position.
* **`Pipeline.failsAt_runs`**: all runs of a pipeline fail exactly if it has such a step, and the
  error names the first one.
-/

namespace Dashboard

/-! ## Steps -/

/-- The step replaces the matches of a text that is no pattern. -/
def Step.IsInvalid (step : Step) : Prop :=
  ∃ column find replacement, step = .cells column (.findReplace find replacement) ∧
    Pattern.ofString? find = none

/-- Only a search for a text that is no pattern cannot be applied. -/
theorem CellChange.apply_eq_none_iff {change : CellChange} :
    change.apply? = none ↔
      ∃ find replacement, change = .findReplace find replacement ∧ Pattern.ofString? find = none := by
  unfold CellChange.apply?
  cases change with
  | findReplace find replacement =>
      rw [Option.map_eq_none_iff]
      constructor
      · intro hnone
        exact ⟨find, replacement, rfl, hnone⟩
      · rintro ⟨_, _, heq, hnone⟩
        obtain ⟨rfl, rfl⟩ := CellChange.findReplace.inj heq
        exact hnone
  | trim | changeCase | removeCurrency | round | toNumber => simp

/-- A step makes a change, whatever the rows are, unless it searches for a text that is no
pattern. -/
theorem Step.change?_eq_none_iff {step : Step} : step.change? = none ↔ step.IsInvalid := by
  cases step with
  | cells column change =>
      rw [change?, Option.map_eq_none_iff, CellChange.apply_eq_none_iff]
      constructor
      · rintro ⟨find, replacement, rfl, hnone⟩
        exact ⟨column, find, replacement, rfl, hnone⟩
      · rintro ⟨_, find, replacement, heq, hnone⟩
        exact ⟨find, replacement, (Step.cells.inj heq).2, hnone⟩
  | rows | keep | table | unknown => simp [change?, IsInvalid]

/-- A change of cells runs on a column of every row. -/
theorem Step.run?_cells {change : CellChange} {f : Cell → Cell} (h : change.apply? = some f)
    (column : String) (dataset : Dataset) :
    (Step.cells column change).run? dataset =
      some (dataset.map fun row => row.modify column f) := by
  rw [run?, change?, h]
  rfl

/-- A step fails exactly if it is invalid. -/
theorem Step.run?_eq_none_iff {step : Step} {dataset : Dataset} :
    step.run? dataset = none ↔ step.IsInvalid := by
  rw [run?, Option.map_eq_none_iff, change?_eq_none_iff]

/-- A step either searches for a text that is no pattern, or it runs. -/
theorem Step.isInvalid_or_run? (step : Step) (dataset : Dataset) :
    step.IsInvalid ∨ ¬step.IsInvalid ∧ ∃ changed, step.run? dataset = some changed := by
  by_cases hinvalid : step.IsInvalid
  · exact .inl hinvalid
  · refine .inr ⟨hinvalid, ?_⟩
    rw [← Step.run?_eq_none_iff] at hinvalid
    exact Option.ne_none_iff_exists'.1 hinvalid

/-! ## Errors -/

/-- The error for a later position. -/
def InvalidPattern.shift (e : InvalidPattern) (count : Nat) : InvalidPattern :=
  ⟨e.step + count, e.pattern⟩

/-- The error names the position and the text of the first step that searches for a text that is no
pattern. -/
structure FirstInvalid (steps : List Step) (e : InvalidPattern) : Prop where
  searches : ∃ column replacement,
    steps[e.step]? = some (.cells column (.findReplace e.pattern replacement))
  invalid : Pattern.ofString? e.pattern = none
  first : ∀ step ∈ steps.take e.step, ¬step.IsInvalid

section first

variable {step : Step} {steps rest : List Step} {e : InvalidPattern}

/-- Where there is a first invalid step, there is an invalid step. -/
theorem FirstInvalid.exists_isInvalid (h : FirstInvalid steps e) :
    ∃ step ∈ steps, step.IsInvalid := by
  obtain ⟨column, replacement, hstep⟩ := h.searches
  exact ⟨_, List.mem_of_getElem? hstep, column, e.pattern, replacement, rfl, h.invalid⟩

/-- An invalid step at the head is the first one. -/
theorem firstInvalid_cons_of_isInvalid (h : step.IsInvalid) :
    FirstInvalid (step :: rest) e ↔ e = ⟨0, step.pattern⟩ := by
  constructor
  · intro hfirst
    obtain ⟨index, text⟩ := e
    cases index with
    | zero =>
        obtain ⟨column, replacement, hstep⟩ := hfirst.searches
        rw [List.getElem?_cons_zero] at hstep
        obtain rfl := Option.some.inj hstep
        rfl
    | succ index => exact absurd h (hfirst.first step List.mem_cons_self)
  · rintro rfl
    obtain ⟨column, find, replacement, rfl, hnone⟩ := h
    exact ⟨⟨column, replacement, rfl⟩, hnone, nofun⟩

/-- Behind a valid step the first invalid one is that of the others. -/
theorem firstInvalid_cons_of_not (h : ¬step.IsInvalid) :
    FirstInvalid (step :: rest) e ↔ ∃ later, FirstInvalid rest later ∧ e = later.shift 1 := by
  constructor
  · intro hfirst
    obtain ⟨index, text⟩ := e
    obtain ⟨column, replacement, hstep⟩ := hfirst.searches
    cases index with
    | zero =>
        rw [List.getElem?_cons_zero] at hstep
        exact absurd ⟨column, text, replacement, Option.some.inj hstep, hfirst.invalid⟩ h
    | succ index =>
        refine ⟨⟨index, text⟩, ⟨⟨column, replacement, hstep⟩, hfirst.invalid, ?_⟩, rfl⟩
        intro other hother
        exact hfirst.first other (List.mem_cons_of_mem _ hother)
  · rintro ⟨later, hlater, rfl⟩
    refine ⟨hlater.searches, hlater.invalid, ?_⟩
    intro other hother
    rcases List.mem_cons.1 hother with rfl | hother
    · exact h
    · exact hlater.first other hother

/-- If there is such a step, there is a first one. -/
theorem exists_firstInvalid_iff :
    (∃ e, FirstInvalid steps e) ↔ ∃ step ∈ steps, step.IsInvalid := by
  constructor
  · rintro ⟨e, he⟩
    exact he.exists_isInvalid
  · rintro ⟨step, hmem, hstep⟩
    induction steps with
    | nil => cases hmem
    | cons head rest ih =>
        by_cases hhead : head.IsInvalid
        · exact ⟨_, (firstInvalid_cons_of_isInvalid hhead).2 rfl⟩
        · rcases List.mem_cons.1 hmem with rfl | hmem
          · exact absurd hstep hhead
          · obtain ⟨later, hlater⟩ := ih hmem
            exact ⟨_, (firstInvalid_cons_of_not hhead).2 ⟨later, hlater, rfl⟩⟩

end first

/-! ## Runs -/

namespace Pipeline

variable {steps : List Step} {dataset : Dataset} {e : InvalidPattern}

/-- An invalid step ends the run with its place and its text. -/
theorem runFrom_cons_of_isInvalid {step : Step} (h : step.IsInvalid) (index : Nat)
    (rest : List Step) (dataset : Dataset) :
    runFrom index (step :: rest) dataset = .error ⟨index, step.pattern⟩ := by
  rw [runFrom, Step.run?_eq_none_iff.2 h]

/-- A step that runs hands its rows on to the next one. -/
theorem runFrom_cons_of_run? {step : Step} {changed : Dataset}
    (h : step.run? dataset = some changed) (index : Nat) (rest : List Step) :
    runFrom index (step :: rest) dataset = runFrom (index + 1) rest changed := by
  rw [runFrom, h]

/-- A change of the rows does not change the failure. -/
theorem map_eq_error_iff {outcome : Except InvalidPattern Dataset} {f : Dataset → Dataset} :
    outcome.map f = .error e ↔ outcome = .error e := by
  cases outcome with
  | ok result =>
      constructor
      · nofun
      · nofun
  | error other => exact Iff.rfl

/-- A changed failure comes from one before. -/
theorem mapError_eq_error_iff {outcome : Except InvalidPattern Dataset}
    {f : InvalidPattern → InvalidPattern} :
    outcome.mapError f = .error e ↔ ∃ other, outcome = .error other ∧ e = f other := by
  cases outcome with
  | ok result =>
      constructor
      · nofun
      · rintro ⟨_, hok, -⟩
        cases hok
  | error other =>
      constructor
      · intro herror
        exact ⟨other, rfl, (Except.error.inj herror).symm⟩
      · rintro ⟨_, herror, rfl⟩
        obtain rfl := Except.error.inj herror
        rfl

/-- A run that starts at a later position gives the same rows, and fails at a later position. -/
theorem runFrom_add (index count : Nat) (steps : List Step) (dataset : Dataset) :
    runFrom (index + count) steps dataset =
      (runFrom index steps dataset).mapError (·.shift count) := by
  induction steps generalizing index dataset with
  | nil => rfl
  | cons step rest ih =>
      rcases step.isInvalid_or_run? dataset with hinvalid | ⟨-, changed, hrun⟩
      · rw [runFrom_cons_of_isInvalid hinvalid, runFrom_cons_of_isInvalid hinvalid]
        rfl
      · rw [runFrom_cons_of_run? hrun, runFrom_cons_of_run? hrun, ← ih, Nat.add_right_comm]

/-- A run fails with the error that names the first step whose text is no pattern. -/
theorem runFrom_eq_error_iff : runFrom 0 steps dataset = .error e ↔ FirstInvalid steps e := by
  induction steps generalizing dataset e with
  | nil =>
      constructor
      · nofun
      · intro hfirst
        obtain ⟨_, hmem, -⟩ := hfirst.exists_isInvalid
        cases hmem
  | cons step rest ih =>
      rcases step.isInvalid_or_run? dataset with hinvalid | ⟨hvalid, changed, hrun⟩
      · rw [runFrom_cons_of_isInvalid hinvalid, firstInvalid_cons_of_isInvalid hinvalid,
          Except.error.injEq, eq_comm]
      · -- the rest runs from position 1, so its error is one position further
        rw [runFrom_cons_of_run? hrun, firstInvalid_cons_of_not hvalid, runFrom_add,
          mapError_eq_error_iff]
        simp only [← @ih changed]

/-- An outcome that fails exactly if some step searches for a text that is no pattern. The error
then names the first such step. -/
structure FailsAt (steps : List Step) (outcome : Except InvalidPattern Dataset) : Prop where
  fails_iff : (∃ e, outcome = .error e) ↔ ∃ step ∈ steps, step.IsInvalid
  error_iff : ∀ e, outcome = .error e ↔ FirstInvalid steps e

/-- If the errors are those of the first invalid step, the outcome fails as said. -/
theorem failsAt_of_error_iff {outcome : Except InvalidPattern Dataset}
    (h : ∀ e, outcome = .error e ↔ FirstInvalid steps e) : FailsAt steps outcome where
  fails_iff := by
    simp only [h]
    exact exists_firstInvalid_iff
  error_iff := h

/-- **When a pipeline fails.** Whatever the rows are, running all steps, both previews and the final
run fail exactly if some step searches for a text that is no pattern. The error names the position
and the text of the first such step. No other step and no cell makes a run fail. -/
theorem failsAt_runs (p : Pipeline) (dataset : Dataset) :
    FailsAt p.steps (p.apply dataset) ∧ FailsAt p.steps (p.preview dataset) ∧
      (∀ count, FailsAt p.steps (p.previewRows count dataset)) ∧
      FailsAt p.steps (p.commit dataset) := by
  have happly : ∀ e, p.apply dataset = .error e ↔ FirstInvalid p.steps e :=
    fun _ => runFrom_eq_error_iff
  have hpreview : ∀ count, FailsAt p.steps (p.previewRows count dataset) := by
    intro count
    apply failsAt_of_error_iff
    intro e
    rw [previewRows, map_eq_error_iff, happly]
  exact ⟨failsAt_of_error_iff happly, hpreview defaultPreview, hpreview,
    failsAt_of_error_iff happly⟩

end Pipeline

end Dashboard
