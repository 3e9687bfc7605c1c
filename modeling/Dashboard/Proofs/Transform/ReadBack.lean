import Dashboard.Proofs.Row.ReadBack
import Dashboard.Transform.Pipeline

/-!
# Transform.ReadBack · written pipelines read back

A step is written as an object that begins with its kind, and the reader picks its members by name.
So each kind has to write the members that the reader asks for, under their names, and leave out
only those whose absence the reader takes for the value at hand.

* **`Step.IsSavable`** asks that the numbers of a step are finite and no negative zero, and that its
  counts fit the integers of their width.
* **`Step.decode?_toTree`**: the document of such a step is decoded to the step.
* **`Pipeline.ofJson?_toJson`**: so a saved pipeline is read as the same pipeline.
-/

namespace Dashboard

open Dashboard.Tree (Writable FitsInteger)
open Document (natBelow?)

/-! ## Values -/

/-- Only negative zero has a sign to drop. -/
theorem Cell.dropZeroSign_of_ne {cell : Cell} (hne : cell ≠ .number (.zero true)) :
    cell.dropZeroSign = cell := by
  cases cell with
  | null | bool | text => rfl
  | number x =>
      have hx : x ≠ .zero true := fun hx => hne (congrArg Cell.number hx)
      rw [dropZeroSign, Binary64.dropZeroSign_of_ne hx]

/-- Cells that come back as they are: no infinite number, no not-a-number and no negative zero. -/
def Cell.IsSavable (cell : Cell) : Prop := cell.isFinite = true ∧ cell ≠ .number (.zero true)

instance (cell : Cell) : Decidable cell.IsSavable := inferInstanceAs (Decidable (_ ∧ _))

/-- A cell that can be saved is read back. -/
theorem Cell.IsSavable.ofTree?_toTree {cell : Cell} (h : cell.IsSavable) :
    Cell.ofTree? cell.toTree = some cell := by
  rw [Cell.ofTree?_toTree h.1, dropZeroSign_of_ne h.2]

/-- The document of a cell is no list. -/
theorem Cell.items?_toTree (cell : Cell) : cell.toTree.items? = none := by
  cases cell with
  | null | bool | text => rfl
  | number x =>
      rw [toTree, numberTree]
      split <;> rfl

namespace Target

variable {target : Target} {depth : Nat}

/-- The cells of a target. -/
def cells : Target → List Cell
  | .scalar cell => [cell]
  | .list cells => cells

/-- A target is decoded from its document: a cell from a cell, a list from a list. -/
theorem decode?_toTree (h : ∀ cell ∈ target.cells, cell.IsSavable) :
    decode? target.toTree = some target := by
  cases target with
  | scalar cell =>
      have hcell := (h cell List.mem_cons_self).ofTree?_toTree
      change ofTree? cell.toTree = _
      rw [ofTree?, cell.items?_toTree, Option.bind_none, hcell]
      rfl
  | list cells =>
      have hcells : (cells.map Cell.toTree).mapM Cell.ofTree? = some cells :=
        mapM_map_of_leftInverse fun cell hcell => (h cell hcell).ofTree?_toTree
      change ofTree? (.list (cells.map Cell.toTree)) = _
      rw [ofTree?, Tree.items?, Option.bind_some, hcells]

/-- The document of a target can be written. -/
theorem writable_toTree (h : ∀ cell ∈ target.cells, cell.IsSavable) :
    Writable (depth + 1) target.toTree := by
  cases target with
  | scalar cell => exact Cell.writable_toTree (h cell List.mem_cons_self).1
  | list cells =>
      refine .list fun t ht => ?_
      obtain ⟨cell, hcell, rfl⟩ := List.mem_map.1 ht
      exact Cell.writable_toTree (h cell hcell).1

end Target

/-! ## Members -/

namespace Document

/-- A count within its range is read back. -/
theorem natBelow?_integer {n bound : Nat} (h : n < bound) :
    natBelow? bound (Tree.integer n) = some n := if_pos h

/-- A member is found if no other one has its name. -/
theorem fieldsByName?_cons {name : String} {t : Tree} {members : List (String × Tree)}
    (h : ∀ m ∈ members, m.1 ≠ name) :
    fieldsByName? [name] (Tree.object ((name, t) :: members)) = some [some t] := by
  have hnone : members.filter (·.1 == name) = [] :=
    List.filter_eq_nil_iff.2 fun m hm => by simpa using h m hm
  have honce : occurrences name ((name, t) :: members) ≤ 1 := by
    simp [occurrences, hnone]
  simp [fieldsByName?, members?, Tree.members?, honce]

/-- The members of other names are left. -/
theorem others?_cons {name : String} {t : Tree} {members : List (String × Tree)}
    (h : ∀ m ∈ members, m.1 ≠ name) :
    others? [name] (Tree.object ((name, t) :: members)) = some (.object members) := by
  have hothers : ((name, t) :: members).filter (fun m => !List.contains [name] m.1) = members := by
    rw [List.filter_cons_of_neg (by simp), List.filter_eq_self]
    intro m hm
    simpa using h m hm
  have htyped : (members.map id).mapM (fun m : String × Tree =>
      (resolve? m.2).map fun typed => (m.1, typed)) = some members :=
    mapM_map_of_leftInverse fun _ _ => rfl
  rw [List.map_id] at htyped
  change Option.bind (List.mapM _ (List.filter _ ((name, t) :: members))) _ = _
  rw [hothers]
  exact congrArg (·.bind fun typed => some (Tree.object typed)) htyped

end Document

/-! ## Steps -/

namespace Step

variable {step : Step} {depth : Nat}

/-- The cells that a step holds. -/
def heldCells : Step → List Cell
  | .rows (.fillNull _ value) => [value]
  | .keep (.meets condition) => condition.target.cells
  | _ => []

/-- The counts of a step are integers of the width that they are read with: 32 bits for decimals, 64
bits for a number of rows. -/
def countsFit : Step → Bool
  | .cells _ (.round decimals) => decimals < 2 ^ (32 : Nat)
  | .table (.limit count _) => count < 2 ^ (64 : Nat)
  | _ => true

/-- The cells of a step are written without loss, and its counts are within the range of their
fields. -/
structure IsSavable (step : Step) : Prop where
  cells : ∀ cell ∈ step.heldCells, cell.IsSavable
  counts : step.countsFit = true

instance (step : Step) : Decidable step.IsSavable :=
  decidable_of_iff (_ ∧ _) ⟨fun h => ⟨h.1, h.2⟩, fun h => ⟨h.1, h.2⟩⟩

/-- Texts are read back. -/
theorem texts?_textsTree (texts : List String) : texts? (textsTree texts) = some texts :=
  mapM_map_of_leftInverse fun _ _ => rfl

/-- No member of a step is named like its kind. -/
theorem ne_type_of_mem_members (step : Step) : ∀ m ∈ step.members, m.1 ≠ "type" := by
  cases step with
  | cells column change => cases change <;> simp [members]
  | rows change => cases change <;> simp [members]
  | keep test => cases test <;> simp [members]
  | table change => cases change <;> simp [members]
  | unknown => simp [members]

/-- A step is decoded by its kind from its other members. -/
theorem decode?_toTree_eq_ofBody? (step : Step) :
    decode? step.toTree = ofBody? step.kind (.object step.members) := by
  have hkind := @Document.fieldsByName?_cons "type" (.text step.kind) _ step.ne_type_of_mem_members
  have hbody := @Document.others?_cons "type" (.text step.kind) _ step.ne_type_of_mem_members
  have hitems : Document.items? step.toTree = none := rfl
  rw [← toTree] at hkind hbody
  simp only [decode?, hitems, hkind, hbody, Option.bind_eq_bind, Option.bind_some]
  rfl

/-! ### Kinds

Each name that the reader looks up is a literal, so looking it up among the members that the step
writes is evaluation. Decoding the documents of the found members is left, where these are no
literals themselves. -/

/-- A change of cells is read back from its members. -/
theorem ofBody?_cells {column : String} {change : CellChange}
    (h : (cells column change).countsFit = true) :
    ofBody? (cells column change).kind (.object (cells column change).members) =
      some (cells column change) := by
  cases change with
  | trim | findReplace | removeCurrency | toNumber => rfl
  | changeCase form => cases form <;> rfl
  | round decimals =>
      have hdecimals : natBelow? (2 ^ (32 : Nat)) (Tree.integer decimals) = some decimals :=
        Document.natBelow?_integer (of_decide_eq_true h)
      calc ofBody? "round" (.object (cells column (.round decimals)).members) =
            (natBelow? (2 ^ (32 : Nat)) (Tree.integer decimals)).bind fun decimals =>
              some (cells column (.round decimals)) := rfl
        _ = some (cells column (.round decimals)) := by rw [hdecimals, Option.bind_some]

/-- A change of rows is read back from its members. -/
theorem ofBody?_rows {change : RowChange} (h : (rows change).IsSavable) :
    ofBody? (rows change).kind (.object (rows change).members) = some (rows change) := by
  cases change with
  | rename | delete | calculated => rfl
  | fillNull column value =>
      have hvalue := (h.cells value List.mem_cons_self).ofTree?_toTree
      calc ofBody? "fillNull" (.object (rows (.fillNull column value)).members) =
            (Cell.ofTree? value.toTree).bind fun value =>
              some (rows (.fillNull column value)) := rfl
        _ = some (rows (.fillNull column value)) := by rw [hvalue, Option.bind_some]
  | extractDate column part target =>
      cases target with
      | none => cases part <;> rfl
      | some target => cases part <;> rfl
  | split column separator targets =>
      calc ofBody? "split" (.object (rows (.split column separator targets)).members) =
            (texts? (textsTree targets)).bind fun targets =>
              some (rows (.split column separator targets)) := rfl
        _ = some (rows (.split column separator targets)) := by
            rw [texts?_textsTree, Option.bind_some]
  | concat columns separator target =>
      calc ofBody? "concat" (.object (rows (.concat columns separator target)).members) =
            (texts? (textsTree columns)).bind fun columns =>
              some (rows (.concat columns separator target)) := rfl
        _ = some (rows (.concat columns separator target)) := by
            rw [texts?_textsTree, Option.bind_some]

/-- A test on rows is read back from its members. -/
theorem ofBody?_keep {test : RowTest} (h : (keep test).IsSavable) :
    ofBody? (keep test).kind (.object (keep test).members) = some (keep test) := by
  cases test with
  | filled columns =>
      calc ofBody? "removeNulls" (.object (keep (.filled columns)).members) =
            (texts? (textsTree columns)).bind fun columns => some (keep (.filled columns)) := rfl
        _ = some (keep (.filled columns)) := by rw [texts?_textsTree, Option.bind_some]
  | meets condition =>
      obtain ⟨column, operator, target⟩ := condition
      have htarget := Target.decode?_toTree h.cells
      have hoperator : Operator.decode? (Tree.text operator.word) = some operator := by
        cases operator <;> rfl
      calc ofBody? "filterRows" (.object (keep (.meets ⟨column, operator, target⟩)).members) =
            (Operator.decode? (Tree.text operator.word)).bind fun operator =>
              (Target.decode? target.toTree).bind fun target =>
                some (keep (.meets ⟨column, operator, target⟩)) := rfl
        _ = some (keep (.meets ⟨column, operator, target⟩)) := by
            rw [hoperator, Option.bind_some, htarget, Option.bind_some]

/-- A change of the table is read back from its members. -/
theorem ofBody?_table {change : TableChange} (h : (table change).countsFit = true) :
    ofBody? (table change).kind (.object (table change).members) = some (table change) := by
  cases change with
  | removeDuplicates order => cases order <;> rfl
  | sort column order => cases order <;> rfl
  | limit count side =>
      have hcount : Document.count? (Tree.integer count) = some count :=
        Document.natBelow?_integer (of_decide_eq_true h)
      have hside : LimitDirection.decode? (Tree.text side.word) = some side := by
        cases side <;> rfl
      calc ofBody? "limit" (.object (table (.limit count side)).members) =
            (Document.count? (Tree.integer count)).bind fun count =>
              (LimitDirection.decode? (Tree.text side.word)).bind fun side =>
                some (table (.limit count side)) := rfl
        _ = some (table (.limit count side)) := by
            rw [hcount, Option.bind_some, hside, Option.bind_some]

/-- **A step is decoded from its document.** -/
theorem decode?_toTree (h : step.IsSavable) : decode? step.toTree = some step := by
  rw [decode?_toTree_eq_ofBody?]
  cases step with
  | cells column change => exact ofBody?_cells h.counts
  | rows change => exact ofBody?_rows h
  | keep test => exact ofBody?_keep h
  | table change => exact ofBody?_table h.counts
  | unknown => rfl

/-! ### Limits of the reader -/

/-- The document of texts can be written. -/
theorem writable_textsTree (texts : List String) : Writable (depth + 1) (textsTree texts) := by
  refine .list fun t ht => ?_
  obtain ⟨s, -, rfl⟩ := List.mem_map.1 ht
  exact .text s

/-- A count within 64 bits can be written. -/
theorem writable_count {n : Nat} (h : n < 2 ^ (64 : Nat)) : Writable depth (.integer n) := by
  refine .integer ?_
  rw [FitsInteger]
  omega

/-- The members of a step can be written. -/
theorem writable_members (h : step.IsSavable) : ∀ m ∈ step.members, Writable (depth + 1) m.2 := by
  cases step with
  | unknown => simp [members]
  | cells column change =>
      cases change with
      | trim | removeCurrency | toNumber | changeCase | findReplace =>
          simp [members, Writable.text]
      | round decimals =>
          have hdecimals : decimals < 2 ^ (32 : Nat) := of_decide_eq_true h.counts
          simp [members, Writable.text, writable_count (lt_trans hdecimals (by decide))]
  | rows change =>
      cases change with
      | rename | delete | calculated => simp [members, Writable.text]
      | split | concat => simp [members, Writable.text, writable_textsTree]
      | extractDate column part target => cases target <;> simp [members, Writable.text]
      | fillNull column value =>
          have hvalue := h.cells value List.mem_cons_self
          simp [members, Writable.text, Cell.writable_toTree hvalue.1]
  | keep test =>
      cases test with
      | filled columns => simp [members, writable_textsTree]
      | meets condition =>
          have htarget : Writable (depth + 1) condition.target.toTree :=
            Target.writable_toTree h.cells
          simp [members, Writable.text, htarget]
  | table change =>
      cases change with
      | removeDuplicates | sort => simp [members, Writable.text]
      | limit count side =>
          have hcount : count < 2 ^ (64 : Nat) := of_decide_eq_true h.counts
          simp [members, Writable.text, writable_count hcount]

/-- The document of a step can be written. -/
theorem writable_toTree (h : step.IsSavable) : Writable (depth + 2) step.toTree :=
  .object (List.forall_mem_cons.2 ⟨.text _, writable_members h⟩)

end Step

/-! ## Pipelines -/

namespace Pipeline

variable {p : Pipeline} {depth : Nat}

/-- The document of a pipeline is decoded as the pipeline. -/
theorem decode?_toTree (h : ∀ step ∈ p.steps, step.IsSavable) : decode? p.toTree = some p := by
  have hsteps : (p.steps.map Step.toTree).mapM Step.decode? = some p.steps :=
    mapM_map_of_leftInverse fun step hstep => Step.decode?_toTree (h step hstep)
  calc decode? p.toTree =
        ((p.steps.map Step.toTree).mapM Step.decode?).bind fun steps => some ⟨steps⟩ := rfl
    _ = some p := by rw [hsteps, Option.bind_some]

/-- The document of a pipeline can be written. -/
theorem writable_toTree (h : ∀ step ∈ p.steps, step.IsSavable) :
    Writable (depth + 4) p.toTree := by
  have hsteps : Writable (depth + 3) (.list (p.steps.map Step.toTree)) := by
    refine .list fun t ht => ?_
    obtain ⟨step, hstep, rfl⟩ := List.mem_map.1 ht
    exact Step.writable_toTree (h step hstep)
  exact .object (List.forall_mem_singleton.2 hsteps)

end Pipeline

end Dashboard
