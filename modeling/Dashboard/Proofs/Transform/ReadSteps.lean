import Dashboard.Proofs.Query.ReadBack

/-!
# Transform.ReadSteps · steps that were read, written again

The reader of steps refuses counts that do not fit, so the steps that come from a document are those
that can be written, but for the signs of zeros, which no document keeps.

* **`Step.countsFit_of_decode?`**: the counts of a step that was read fit.
* **`Pipeline.decode?_toTree_eq_dropZeroSigns`**: such a pipeline with finite numbers is read from
  its own document as the same steps; only the sign of negative zero is lost.
-/

namespace Dashboard

open Document (exists_of_list? exists_of_required exists_of_withDefault natBelow?_lt)

namespace Step

variable {step : Step} {kind : String} {body : Tree}

/-! ## Counts

Decimals and a number of rows are the only counts. A step of another kind has none, whatever was
read of its members. -/

/-- A step that is read has counts that fit. -/
def Fits (read : Option Step) : Prop := ∀ step ∈ read, step.countsFit = true

/-- What is not read has no counts. -/
theorem fits_none : Fits none := nofun

/-- A step with counts that fit fits. -/
theorem fits_some (h : step.countsFit = true) : Fits (some step) := by
  rintro _ ⟨⟩
  exact h

/-- A step that is read in two parts fits if it does after the first. -/
theorem fits_bind {α : Type} {read : Option α} {f : α → Option Step}
    (h : ∀ a, read = some a → Fits (f a)) : Fits (read.bind f) := by
  intro step hstep
  obtain ⟨a, ha, hstep⟩ := Option.bind_eq_some_iff.1 hstep
  exact h a ha step hstep

/-- A change of cells that is read fits if it has counts that fit. -/
theorem fits_cells? {change : CellChange} (h : ∀ column, (cells column change).countsFit = true) :
    Fits (cells? change body) := by
  refine fits_bind fun fields _ => ?_
  split
  · exact fits_bind fun column _ => fits_some (h column)
  · exact fits_none

/-- The changes of cells that are read fit. -/
theorem fits_cellStep? : Fits (cellStep? kind body) := by
  unfold cellStep?
  split
  case h_5 =>
    refine fits_bind fun fields _ => ?_
    split
    · refine fits_bind fun column _ => fits_bind fun decimals hdecimals => fits_some ?_
      rcases exists_of_withDefault hdecimals with rfl | ⟨t, ht⟩
      · rfl
      · exact decide_eq_true (natBelow?_lt ht)
    · exact fits_none
  all_goals
    repeat' first
      | exact fits_none
      | exact fits_some rfl
      | exact fits_cells? fun _ => rfl
      | refine fits_bind fun _ _ => ?_
      | split

/-- The changes of rows that are read fit. -/
theorem fits_rowStep? : Fits (rowStep? kind body) := by
  unfold rowStep?
  split
  all_goals
    repeat' first
      | exact fits_none
      | exact fits_some rfl
      | refine fits_bind fun _ _ => ?_
      | split

/-- The changes of the table that are read fit. -/
theorem fits_tableStep? : Fits (tableStep? kind body) := by
  unfold tableStep?
  split
  case h_5 =>
    refine fits_bind fun fields _ => ?_
    split
    · refine fits_bind fun count hcount => fits_bind fun side _ => fits_some ?_
      obtain ⟨t, ht⟩ := exists_of_required hcount
      exact decide_eq_true (natBelow?_lt ht)
    · exact fits_none
  all_goals
    repeat' first
      | exact fits_none
      | exact fits_some rfl
      | refine fits_bind fun _ _ => ?_
      | split

/-- The steps that are read fit. -/
theorem fits_ofBody? : Fits (ofBody? kind body) := by
  unfold ofBody?
  split
  · exact fits_cellStep?
  · split
    · exact fits_rowStep?
    · split
      · exact fits_tableStep?
      · split
        · exact fits_none
        · exact fits_some rfl

/-- **The counts of a step that was read fit.** -/
theorem countsFit_of_decode? {δ : Type} [Document δ] {d : δ} (h : decode? d = some step) :
    step.countsFit = true := by
  suffices hfits : Fits (decode? d) from hfits step h
  unfold decode?
  split
  · refine fits_bind fun items _ => ?_
    split
    · exact fits_bind fun kind _ => fits_bind fun rest _ => fits_ofBody?
    · exact fits_none
  · refine fits_bind fun fields _ => ?_
    split
    · exact fits_bind fun kind _ => fits_bind fun body _ => fits_ofBody?
    · exact fits_none

/-! ## Signs of zeros -/

/-- The step itself, where negative zero counts as zero. -/
def dropZeroSigns : Step → Step
  | .rows (.fillNull column value) => .rows (.fillNull column value.dropZeroSign)
  | .keep (.meets condition) => .keep (.meets condition.dropZeroSigns)
  | step => step

/-- Either a step holds cells, in one of two ways, or it does not change. -/
theorem dropZeroSigns_cases (step : Step) :
    (∃ column value, step = .rows (.fillNull column value)) ∨
      (∃ condition, step = .keep (.meets condition)) ∨
        (step.dropZeroSigns = step ∧ step.heldCells = [] ∧ step.same step = true) := by
  cases step with
  | cells column change => exact .inr (.inr ⟨rfl, rfl, beq_self_eq_true _⟩)
  | table change => exact .inr (.inr ⟨rfl, rfl, beq_self_eq_true _⟩)
  | unknown => exact .inr (.inr ⟨rfl, rfl, rfl⟩)
  | rows change =>
      cases change with
      | fillNull column value => exact .inl ⟨column, value, rfl⟩
      | _ => exact .inr (.inr ⟨rfl, rfl, beq_self_eq_true _⟩)
  | keep test =>
      cases test with
      | meets condition => exact .inr (.inl ⟨condition, rfl⟩)
      | filled columns => exact .inr (.inr ⟨rfl, rfl, beq_self_eq_true _⟩)

/-- The signs of zeros do not show in the document of a step. -/
theorem toTree_dropZeroSigns (step : Step) : step.dropZeroSigns.toTree = step.toTree := by
  rcases step.dropZeroSigns_cases with ⟨column, value, rfl⟩ | ⟨condition, rfl⟩ | ⟨heq, -, -⟩
  · rw [dropZeroSigns, toTree, toTree, members, members, Cell.toTree_dropZeroSign]
    rfl
  · rw [dropZeroSigns, Condition.dropZeroSigns, toTree, toTree, members, members,
      Target.toTree_dropZeroSigns]
    rfl
  · rw [heq]

/-- Without the signs of zeros a step with finite cells can be saved. -/
theorem isSavable_dropZeroSigns (hcounts : step.countsFit = true)
    (hfin : ∀ cell ∈ step.heldCells, cell.isFinite = true) : step.dropZeroSigns.IsSavable := by
  rcases step.dropZeroSigns_cases with ⟨column, value, rfl⟩ | ⟨condition, rfl⟩ | ⟨heq, hnone, -⟩
  · refine ⟨List.forall_mem_singleton.2 ?_, rfl⟩
    exact Cell.isSavable_dropZeroSign (hfin value List.mem_cons_self)
  · exact ⟨Target.isSavable_of_mem_dropZeroSigns hfin, rfl⟩
  · rw [heq]
    exact ⟨hnone ▸ nofun, hcounts⟩

/-- A step whose counts fit is read without the signs of zeros. -/
theorem decode?_toTree_eq_dropZeroSigns (hcounts : step.countsFit = true)
    (hfin : ∀ cell ∈ step.heldCells, cell.isFinite = true) :
    decode? step.toTree = some step.dropZeroSigns := by
  rw [← toTree_dropZeroSigns]
  exact decode?_toTree (isSavable_dropZeroSigns hcounts hfin)

/-- Without the signs of zeros a step is the same. -/
theorem same_dropZeroSigns (hfin : ∀ cell ∈ step.heldCells, cell.isFinite = true) :
    step.same step.dropZeroSigns = true := by
  rcases step.dropZeroSigns_cases with ⟨column, value, rfl⟩ | ⟨condition, rfl⟩ | ⟨heq, -, hsame⟩
  · rw [dropZeroSigns, same, Cell.same_dropZeroSign (hfin value List.mem_cons_self),
      beq_self_eq_true]
    rfl
  · exact Condition.same_dropZeroSigns hfin
  · rw [heq, hsame]

end Step

/-! ## Pipelines -/

namespace Pipeline

variable {p : Pipeline}

/-- The cells that the steps hold. -/
def heldCells (p : Pipeline) : List Cell := p.steps.flatMap Step.heldCells

/-- The pipeline itself, where negative zero counts as zero. -/
def dropZeroSigns (p : Pipeline) : Pipeline := ⟨p.steps.map Step.dropZeroSigns⟩

/-- What holds of every pipeline that was read. -/
def IsRead (p : Pipeline) : Prop := ∀ step ∈ p.steps, step.countsFit = true

/-- A pipeline that is decoded has counts that fit. -/
theorem isRead_of_decode? {δ : Type} [Document δ] {d : δ} (h : decode? d = some p) :
    p.IsRead := by
  obtain ⟨fields, -, h⟩ := Option.bind_eq_some_iff.1 h
  split at h
  · obtain ⟨steps, hsteps, h⟩ := Option.bind_eq_some_iff.1 h
    obtain rfl := Option.some.inj h
    intro step hstep
    rcases exists_of_withDefault hsteps with rfl | ⟨items, hitems⟩
    · cases hstep
    · obtain ⟨t, ht⟩ := exists_of_list? hitems step hstep
      exact Step.countsFit_of_decode? ht
  · cases h

/-- **A pipeline that was read is read from its own document.** -/
theorem decode?_toTree_eq_dropZeroSigns (hread : p.IsRead)
    (hfin : ∀ cell ∈ p.heldCells, cell.isFinite = true) :
    decode? p.toTree = some p.dropZeroSigns := by
  have hsteps : Document.list? Step.decode? (Tree.list (p.steps.map Step.toTree)) =
      some (p.steps.map Step.dropZeroSigns) :=
    Document.list?_map fun step hstep =>
      Step.decode?_toTree_eq_dropZeroSigns (hread step hstep)
        (List.forall_mem_flatMap.1 hfin step hstep)
  calc decode? p.toTree =
        (Document.list? Step.decode? (Tree.list (p.steps.map Step.toTree))).bind fun steps =>
          some ⟨steps⟩ := rfl
    _ = some p.dropZeroSigns := by
        rw [hsteps, Option.bind_some]
        rfl

/-- Without the signs of zeros a pipeline is the same. -/
theorem same_dropZeroSigns (hfin : ∀ cell ∈ p.heldCells, cell.isFinite = true) :
    p.same p.dropZeroSigns = true := by
  have hsteps : ((p.steps.zip (p.steps.map Step.dropZeroSigns)).all fun s => s.1.same s.2) = true :=
    all_zip_map fun step hstep =>
      Step.same_dropZeroSigns (List.forall_mem_flatMap.1 hfin step hstep)
  rw [same, dropZeroSigns, size, size, hsteps, List.length_map, beq_self_eq_true]
  rfl

end Pipeline

end Dashboard
