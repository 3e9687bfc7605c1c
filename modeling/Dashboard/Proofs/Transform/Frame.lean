import Dashboard.Proofs.Row.Outside
import Dashboard.Transform.Pipeline
import Mathlib.Data.List.Forall2

/-!
# Transform.Frame · what the steps of a pipeline leave alone

A step names the columns that it writes to. It keeps the rows or the other columns as they are: a
step that selects or orders rows changes none of them, and a step that changes rows changes each of
them in its place, and only under the names that it writes to.

* **`Step.written`** are the names that a step writes to.
* **`Step.Frame`** says for each kind of step what it keeps, and **`Step.frame_of_run?`** that every
  step keeps it.
* **`Pipeline.exists_source`**: every row that a pipeline returns is, apart from the names that the
  steps write to, a row that the pipeline was given.
-/

namespace Dashboard

/-! ## Changes of rows -/

/-- The names that a change of rows writes to. -/
def RowChange.written : RowChange → List String
  | .fillNull column _ => [column]
  | .extractDate column part target => [dateTarget column part target]
  | .rename old new => [old, new]
  | .delete column => [column]
  | .split _ _ targets => targets
  | .concat _ _ target => [target]
  | .calculated target _ => [target]

/-- Inserting parts under some names keeps the row the same outside of them. -/
theorem Row.sameOutside_insertParts {names targets : List String} (row : Row)
    (parts : List (List Char)) (h : targets ⊆ names) :
    row.SameOutside names (row.insertParts targets parts) := by
  induction targets generalizing row parts with
  | nil => exact SameOutside.refl names row
  | cons target rest ih =>
      obtain ⟨htarget, hrest⟩ := List.cons_subset.1 h
      cases parts with
      | nil => exact (sameOutside_insert row _ htarget).trans (ih _ _ hrest)
      | cons part parts => exact (sameOutside_insert row _ htarget).trans (ih _ _ hrest)

/-- A change of rows leaves the fields alone that it does not write to. -/
theorem RowChange.sameOutside_apply (change : RowChange) (row : Row) :
    row.SameOutside change.written (change.apply row) := by
  cases change with
  | fillNull column value =>
      show row.SameOutside [column]
        (if (row.cell column).isBlank then row.insert column value else row)
      split
      · exact row.sameOutside_insert _ List.mem_cons_self
      · exact Row.SameOutside.refl _ row
  | extractDate column part target => exact row.sameOutside_insert _ List.mem_cons_self
  | rename old new =>
      exact row.sameOutside_rename List.mem_cons_self (List.mem_cons_of_mem _ List.mem_cons_self)
  | delete column => exact row.sameOutside_erase List.mem_cons_self
  | split column separator targets => exact row.sameOutside_insertParts _ (List.Subset.refl _)
  | concat columns separator target => exact row.sameOutside_insert _ List.mem_cons_self
  | calculated target formula => exact row.sameOutside_insert _ List.mem_cons_self

/-! ## Changes of tables -/

/-- Keeping first rows leaves rows out, and nothing else. -/
theorem keepFirst_sublist (key : Row → String) (seen : List String) (rows : List Row) :
    (keepFirst key seen rows).Sublist rows := by
  induction rows generalizing seen with
  | nil => exact List.Sublist.refl []
  | cons row rest ih =>
      unfold keepFirst
      split
      · exact (ih seen).cons row
      · exact (ih _).cons_cons row

/-- What a change of a table keeps: sorting keeps all rows, the others keep some of them in order. -/
def TableChange.Frame : TableChange → Dataset → Dataset → Prop
  | .removeDuplicates _, before, after => after.Sublist before
  | .sort _ _, before, after => after.Perm before
  | .limit _ _, before, after => after.Sublist before

/-- A change of a table keeps what it says. -/
theorem TableChange.frame_apply (change : TableChange) (dataset : Dataset) :
    change.Frame dataset (change.apply dataset) := by
  cases change with
  | removeDuplicates order => exact keepFirst_sublist order.key [] dataset
  | sort column order => exact List.mergeSort_perm dataset _
  | limit count side =>
      cases side with
      | top => exact List.take_sublist count dataset
      | bottom => exact List.drop_sublist _ dataset

/-! ## Steps -/

namespace Step

variable {step : Step} {dataset result : Dataset}

/-- The names that a step writes to. -/
def written : Step → List String
  | .cells column _ => [column]
  | .rows change => change.written
  | .keep _ => []
  | .table _ => []
  | .unknown => []

/-- What a step keeps of a dataset. A step that selects rows keeps them as they are and in order,
and so does removing duplicates and limiting; sorting keeps all rows as they are. The other steps
keep the number of rows and their order: in each row the fields that they do not write to stay the
same, in order, and a change of cells in place adds, drops and moves no field at all. -/
def Frame : Step → Dataset → Dataset → Prop
  | .cells column _, before, after =>
      List.Forall₂ (fun row changed => changed.keys = row.keys ∧ row.SameOutside [column] changed)
        before after
  | .rows change, before, after =>
      List.Forall₂ (fun row changed => row.SameOutside change.written changed) before after
  | .keep _, before, after => after.Sublist before
  | .table change, before, after => change.Frame before after
  | .unknown, before, after => after = before

/-- Rows that are changed one by one keep what each of the changes keeps. -/
theorem forall₂_map_self {kept : Row → Row → Prop} {f : Row → Row} (h : ∀ row, kept row (f row)) :
    List.Forall₂ kept dataset (dataset.map f) := by
  rw [List.forall₂_map_right_iff, List.forall₂_same]
  exact fun row _ => h row

/-- The change that a step makes keeps what a step of its kind has to keep. -/
theorem frame_change {change : Dataset → Dataset} (h : step.change? = some change)
    (dataset : Dataset) : step.Frame dataset (change dataset) := by
  cases step with
  | cells column cellChange =>
      obtain ⟨f, -, rfl⟩ := Option.map_eq_some_iff.1 h
      apply forall₂_map_self
      intro row
      exact ⟨row.keys_modify column f, row.sameOutside_modify f List.mem_cons_self⟩
  | rows rowChange =>
      obtain rfl := Option.some.inj h
      exact forall₂_map_self rowChange.sameOutside_apply
  | keep test =>
      obtain rfl := Option.some.inj h
      exact List.filter_sublist
  | table tableChange =>
      obtain rfl := Option.some.inj h
      exact tableChange.frame_apply dataset
  | unknown =>
      obtain rfl := Option.some.inj h
      rfl

/-- **A step touches only what it names.** Whatever the dataset is, where a step succeeds, it keeps
what a step of its kind has to keep. -/
theorem frame_of_run? (h : step.run? dataset = some result) : step.Frame dataset result := by
  obtain ⟨change, hchange, rfl⟩ := Option.map_eq_some_iff.1 h
  exact frame_change hchange dataset

/-- Names of two kinds, and a row in which they stand behind an age. -/
def someNames : Dataset :=
  [.ofList [("name", .text "Ada King"), ("age", .number (.ofNat 36)), ("id", .number (.ofNat 1))],
    .ofList [("age", .null), ("name", .text "Grace"), ("last", .text "?")]]

/-- Splitting the names over their own column and another one, where their own is listed twice, and
renaming the ages to names: the other columns stay, in order. -/
theorem frame_split_names :
    Frame (.rows (.split "name" " " ["name", "last", "name"])) someNames
      [.ofList [("name", .text ""), ("age", .number (.ofNat 36)), ("id", .number (.ofNat 1)),
          ("last", .text "King")],
        .ofList [("age", .null), ("name", .text ""), ("last", .text "")]] ∧
    Frame (.rows (.rename "age" "name")) someNames
      [.ofList [("name", .number (.ofNat 36)), ("id", .number (.ofNat 1))],
        .ofList [("name", .null), ("last", .text "?")]] ∧
    Frame (.table (.limit 1 .bottom)) someNames [someNames[1]] :=
  ⟨frame_of_run? (by decide +kernel), frame_of_run? (by decide +kernel),
    frame_of_run? (by decide +kernel)⟩

/-- Every row of the result comes from a row that it was made of. -/
theorem exists_of_forall₂ {kept : Row → Row → Prop} (h : List.Forall₂ kept dataset result)
    {row : Row} (hrow : row ∈ result) : ∃ source ∈ dataset, kept source row := by
  induction h with
  | nil => cases hrow
  | @cons source changed rest changedRest hkept _ ih =>
      rcases List.mem_cons.1 hrow with rfl | hrow
      · exact ⟨source, List.mem_cons_self, hkept⟩
      · obtain ⟨later, hlater, hsame⟩ := ih hrow
        exact ⟨later, List.mem_cons_of_mem _ hlater, hsame⟩

/-- Every row after a step is, apart from the names that the step writes to, a row from before. -/
theorem exists_source {change : Dataset → Dataset} (h : step.change? = some change)
    {row : Row} (hrow : row ∈ change dataset) :
    ∃ source ∈ dataset, source.SameOutside step.written row := by
  have hframe := frame_change h dataset
  have hsame : row ∈ dataset → ∃ source ∈ dataset, source.SameOutside step.written row :=
    fun hmem => ⟨row, hmem, Row.SameOutside.refl _ row⟩
  cases step with
  | cells column cellChange =>
      obtain ⟨source, hmem, -, hsource⟩ := exists_of_forall₂ hframe hrow
      exact ⟨source, hmem, hsource⟩
  | rows rowChange => exact exists_of_forall₂ hframe hrow
  | keep test => exact hsame (hframe.subset hrow)
  | table tableChange =>
      cases tableChange with
      | removeDuplicates order => exact hsame (hframe.subset hrow)
      | sort column order => exact hsame (hframe.subset hrow)
      | limit count side => exact hsame (hframe.subset hrow)
  | unknown => exact hsame (hframe ▸ hrow)

end Step

namespace Pipeline

/-- Every row comes from one that is the same outside of what the steps write. -/
theorem exists_source_runFrom {steps : List Step} {index : Nat} {dataset result : Dataset}
    (h : runFrom index steps dataset = .ok result) {row : Row} (hrow : row ∈ result) :
    ∃ source ∈ dataset, source.SameOutside (steps.flatMap Step.written) row := by
  induction steps generalizing index dataset with
  | nil =>
      obtain rfl := Except.ok.inj h
      exact ⟨row, hrow, Row.SameOutside.refl _ row⟩
  | cons step rest ih =>
      rw [runFrom] at h
      split at h
      · rename_i changed hrun
        obtain ⟨middle, hmiddle, hafter⟩ := ih h
        obtain ⟨change, hchange, rfl⟩ := Option.map_eq_some_iff.1 hrun
        obtain ⟨source, hsource, hbefore⟩ := Step.exists_source hchange hmiddle
        have hfirst : step.written ⊆ (step :: rest).flatMap Step.written := by
          rw [List.flatMap_cons]
          exact List.subset_append_left _ _
        have hlater : rest.flatMap Step.written ⊆ (step :: rest).flatMap Step.written := by
          rw [List.flatMap_cons]
          exact List.subset_append_right _ _
        exact ⟨source, hsource, (hbefore.mono hfirst).trans (hafter.mono hlater)⟩
      · cases h

/-- **A pipeline touches only what its steps name.** Every row that it returns is, apart from the
names that its steps write to, a row of the dataset. -/
theorem exists_source {p : Pipeline} {dataset result : Dataset} (h : p.apply dataset = .ok result)
    {row : Row} (hrow : row ∈ result) :
    ∃ source ∈ dataset, source.SameOutside (p.steps.flatMap Step.written) row :=
  exists_source_runFrom h hrow

end Pipeline

end Dashboard
