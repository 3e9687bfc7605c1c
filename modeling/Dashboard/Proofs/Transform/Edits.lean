import Dashboard.Transform.Pipeline

/-!
# Transform.Edits · steps that are inserted, removed and moved

Inserting and removing at one position undo each other. A move removes a step and inserts it again,
so taking the step out at its new position leaves what taking it out at its old one does: the other
steps keep their order, and moving it back gives the old list. No edit loses a step or makes one.

* **`Pipeline.remove?_insert`**, **`Pipeline.insert_of_remove?`**: undoing one by the other.
* **`Pipeline.move?_of_remove?`**: a move, as a removal with an insertion.
* **`PipelineEdit.perm_apply`**, **`PipelineEdit.perm_run`**: the steps after one edit, and after
  any number of them.
* **`edits_keep_steps`** puts these together.
-/

namespace Dashboard

namespace Pipeline

variable {p rest moved : Pipeline} {step : Step} {index source target : Nat}

/-! ## Removing and inserting -/

/-- A step is removed from between those before and behind it. -/
theorem remove?_eq_some_iff : p.remove? index = some (step, rest) ↔
    ∃ before after, p.steps = before ++ step :: after ∧ before.length = index ∧
      rest.steps = before ++ after := by
  rw [remove?, Option.map_eq_some_iff]
  constructor
  · rintro ⟨taken, hget, heq⟩
    obtain ⟨rfl, rfl⟩ := Prod.mk.inj heq
    obtain ⟨hlt, rfl⟩ := List.getElem?_eq_some_iff.1 hget
    refine ⟨p.steps.take index, p.steps.drop (index + 1), ?_, ?_, ?_⟩
    · rw [List.getElem_cons_drop, List.take_append_drop]
    · rw [List.length_take, Nat.min_eq_left (Nat.le_of_lt hlt)]
    · exact List.eraseIdx_eq_take_drop_succ p.steps index
  · rintro ⟨before, after, hsteps, rfl, hrest⟩
    refine ⟨step, by simp [hsteps], ?_⟩
    obtain ⟨steps⟩ := rest
    obtain rfl : steps = before ++ after := hrest
    simp [remove, hsteps, List.eraseIdx_append_of_length_le]

/-- There is no step to remove behind the last one. -/
theorem remove?_eq_none_iff : p.remove? index = none ↔ p.size ≤ index := by
  rw [remove?, Option.map_eq_none_iff, List.getElem?_eq_none_iff, size]

/-- There is a step to remove in every place. -/
theorem exists_remove? (h : index < p.size) : ∃ step rest, p.remove? index = some (step, rest) := by
  have hsome : p.remove? index ≠ none := mt remove?_eq_none_iff.1 (Nat.not_le.2 h)
  obtain ⟨⟨step, rest⟩, hremove⟩ := Option.ne_none_iff_exists'.1 hsome
  exact ⟨step, rest, hremove⟩

/-- Removing leaves one step less. -/
theorem size_of_remove? (h : p.remove? index = some (step, rest)) : p.size = rest.size + 1 := by
  obtain ⟨before, after, hsteps, -, hrest⟩ := remove?_eq_some_iff.1 h
  rw [size, size, hsteps, hrest, List.length_append, List.length_append, List.length_cons,
    Nat.add_assoc]

/-- A position behind the end is taken for the end. -/
theorem remove?_insert (p : Pipeline) (index : Nat) (step : Step) :
    (p.insert index step).remove? (min index p.size) = some (step, p) :=
  remove?_eq_some_iff.2 ⟨p.steps.take index, p.steps.drop index, rfl, List.length_take,
    (List.take_append_drop index p.steps).symm⟩

/-- A step that was removed is put back. -/
theorem insert_of_remove? (h : p.remove? index = some (step, rest)) :
    rest.insert index step = p := by
  obtain ⟨before, after, hsteps, rfl, hrest⟩ := remove?_eq_some_iff.1 h
  obtain ⟨steps⟩ := p
  obtain rfl : steps = before ++ step :: after := hsteps
  rw [insert, hrest, List.take_left, List.drop_left]

/-- The step that is removed stood in the place. -/
theorem getElem?_of_remove? (h : p.remove? index = some (step, rest)) :
    p.steps[index]? = some step := by
  obtain ⟨before, after, hsteps, rfl, -⟩ := remove?_eq_some_iff.1 h
  rw [hsteps, List.getElem?_append_right (Nat.le_refl _), Nat.sub_self, List.getElem?_cons_zero]

/-- A step is removed from a place that is there. -/
theorem lt_size_of_remove? (h : p.remove? index = some (step, rest)) : index < p.size :=
  (List.getElem?_eq_some_iff.1 (getElem?_of_remove? h)).1

/-! ## Moving -/

/-- To move a step is to remove it and to insert it. -/
theorem move?_of_remove? (h : p.remove? source = some (step, rest)) (htarget : target < p.size) :
    p.move? source target = some (rest.insert target step) := by
  obtain ⟨taken, hget, heq⟩ := Option.map_eq_some_iff.1 h
  obtain ⟨rfl, rfl⟩ := Prod.mk.inj heq
  rw [move?, if_pos htarget, hget, Option.map_some]

/-- A move fails exactly if one of its places is not there. -/
theorem move?_eq_none_iff : p.move? source target = none ↔ p.size ≤ source ∨ p.size ≤ target := by
  unfold move?
  split
  · rename_i htarget
    rw [Option.map_eq_none_iff, List.getElem?_eq_none_iff, or_iff_left (Nat.not_le.2 htarget), size]
  · rename_i htarget
    exact iff_of_true rfl (.inr (Nat.not_lt.1 htarget))

/-- A move that is in range takes a step out and puts it in. -/
theorem exists_remove?_of_move? (h : p.move? source target = some moved) :
    ∃ step rest, p.remove? source = some (step, rest) ∧ target < p.size ∧
      moved = rest.insert target step := by
  have hrange : ¬(p.size ≤ source ∨ p.size ≤ target) := fun hout => by
    rw [move?_eq_none_iff.2 hout] at h
    cases h
  obtain ⟨hsource, htarget⟩ := not_or.1 hrange
  obtain ⟨step, rest, hremove⟩ := exists_remove? (Nat.not_le.1 hsource)
  rw [move?_of_remove? hremove (Nat.not_le.1 htarget)] at h
  exact ⟨step, rest, hremove, Nat.not_le.1 htarget, (Option.some.inj h).symm⟩

/-- Taken out at its new position, a moved step leaves the other steps as they were. -/
theorem remove?_of_move? (h : p.remove? source = some (step, rest)) (htarget : target < p.size) :
    (rest.insert target step).remove? target = some (step, rest) := by
  have hle : target ≤ rest.size := by
    rw [size_of_remove? h] at htarget
    exact Nat.le_of_lt_succ htarget
  have hback := rest.remove?_insert target step
  rwa [Nat.min_eq_left hle] at hback

/-- Moving a step back gives the old pipeline. -/
theorem move?_of_move? (h : p.move? source target = some moved) :
    moved.move? target source = some p := by
  obtain ⟨step, rest, hremove, htarget, rfl⟩ := exists_remove?_of_move? h
  have hback := remove?_of_move? hremove htarget
  have hsize : (rest.insert target step).size = p.size := by
    rw [size_of_remove? hback, size_of_remove? hremove]
  rw [move?_of_remove? hback (hsize ▸ lt_size_of_remove? hremove), insert_of_remove? hremove]

/-- What the steps are before and after a step is moved past those behind it. -/
theorem exists_passed_of_move? (h : p.move? source target = some moved) (hle : source ≤ target) :
    ∃ before step passed after, p.steps = before ++ step :: (passed ++ after) ∧
      moved.steps = before ++ (passed ++ step :: after) ∧ before.length = source ∧
      source + passed.length = target := by
  obtain ⟨step, rest, hremove, htarget, rfl⟩ := exists_remove?_of_move? h
  obtain ⟨before, after, hsteps, rfl, hrest⟩ := remove?_eq_some_iff.1 hremove
  obtain ⟨count, rfl⟩ := Nat.exists_eq_add_of_le hle
  have hcount : count ≤ after.length := by
    rw [size, hsteps, List.length_append, List.length_cons] at htarget
    omega
  refine ⟨before, step, after.take count, after.drop count, ?_, ?_, rfl, ?_⟩
  · rw [hsteps, List.take_append_drop]
  · rw [insert, hrest, List.take_length_add_append, List.drop_length_add_append, List.append_assoc]
  · rw [List.length_take, Nat.min_eq_left hcount]

/-- Neighbours change places by a move of either one. -/
theorem move?_neighbours {first second : Step} {before after : List Step}
    (h : p.steps = before ++ first :: second :: after) :
    p.move? before.length (before.length + 1) = some ⟨before ++ second :: first :: after⟩ ∧
      p.move? (before.length + 1) before.length =
        some ⟨before ++ second :: first :: after⟩ := by
  have hsize : before.length + 1 < p.size := by
    rw [size, h, List.length_append, List.length_cons, List.length_cons]
    omega
  have hremove : p.remove? before.length = some (first, ⟨before ++ second :: after⟩) :=
    remove?_eq_some_iff.2 ⟨before, second :: after, h, rfl, rfl⟩
  have hremove' : p.remove? (before.length + 1) = some (second, ⟨before ++ first :: after⟩) :=
    remove?_eq_some_iff.2 ⟨before ++ [first], after, by simp [h], by simp, by simp⟩
  constructor
  · rw [move?_of_remove? hremove hsize, insert, List.take_length_add_append,
      List.drop_length_add_append]
    simp
  · rw [move?_of_remove? hremove' (Nat.lt_of_succ_lt hsize), insert, List.take_left,
      List.drop_left]

end Pipeline

/-! ## Sequences of edits -/

/-- An edit of the list of steps. -/
inductive PipelineEdit where
  | push (step : Step)
  | insert (index : Nat) (step : Step)
  | remove (index : Nat)
  | move (source target : Nat)

namespace PipelineEdit

/-- What an edit makes of a pipeline, and the steps that it takes out. Out of range a move and a
removal do nothing. -/
def apply (p : Pipeline) : PipelineEdit → Pipeline × List Step
  | .push step => (p.push step, [])
  | .insert index step => (p.insert index step, [])
  | .remove index =>
    match p.remove? index with
    | some (step, rest) => (rest, [step])
    | none => (p, [])
  | .move source target => ((p.move? source target).getD p, [])

/-- The steps that an edit puts in. -/
def inserted : PipelineEdit → List Step
  | .push step => [step]
  | .insert _ step => [step]
  | .remove _ => []
  | .move _ _ => []

/-- What edits one after the other make of a pipeline, and the steps that they take out. -/
def run (p : Pipeline) : List PipelineEdit → Pipeline × List Step
  | [] => (p, [])
  | edit :: rest =>
    let later := run (edit.apply p).1 rest
    (later.1, (edit.apply p).2 ++ later.2)

end PipelineEdit

/-- Inserting adds the step to the others. -/
theorem Pipeline.perm_insert (p : Pipeline) (index : Nat) (step : Step) :
    (p.insert index step).steps.Perm (step :: p.steps) := by
  have hmiddle := @List.perm_middle _ step (p.steps.take index) (p.steps.drop index)
  rwa [List.take_append_drop] at hmiddle

/-- Removing takes the step from the others. -/
theorem Pipeline.perm_of_remove? {p rest : Pipeline} {step : Step} {index : Nat}
    (h : p.remove? index = some (step, rest)) : p.steps.Perm (step :: rest.steps) := by
  rw [← insert_of_remove? h]
  exact rest.perm_insert index step

namespace PipelineEdit

/-- One edit: the steps that are left or taken out are those that were there or are put in. -/
theorem perm_apply (p : Pipeline) (edit : PipelineEdit) :
    ((edit.apply p).1.steps ++ (edit.apply p).2).Perm (p.steps ++ edit.inserted) := by
  cases edit with
  | push step =>
      rw [apply, inserted, List.append_nil]
      rfl
  | insert index step =>
      rw [apply, inserted, List.append_nil]
      exact (p.perm_insert index step).trans (List.perm_append_singleton step p.steps).symm
  | remove index =>
      rw [apply, inserted, List.append_nil]
      cases hremove : p.remove? index with
      | none => rw [List.append_nil]
      | some taken =>
          obtain ⟨step, rest⟩ := taken
          exact (List.perm_append_singleton step rest.steps).trans
            (Pipeline.perm_of_remove? hremove).symm
  | move source target =>
      rw [apply, inserted, List.append_nil, List.append_nil]
      cases hmove : p.move? source target with
      | none => rfl
      | some moved =>
          obtain ⟨step, rest, hremove, -, rfl⟩ := Pipeline.exists_remove?_of_move? hmove
          exact (rest.perm_insert target step).trans (Pipeline.perm_of_remove? hremove).symm

/-- Any number of edits: the steps that are left or taken out are those that were there or are put
in. -/
theorem perm_run (p : Pipeline) (edits : List PipelineEdit) :
    ((run p edits).1.steps ++ (run p edits).2).Perm (p.steps ++ edits.flatMap inserted) := by
  induction edits generalizing p with
  | nil => rfl
  | cons edit rest ih =>
      rw [List.perm_iff_count]
      intro step
      have hfirst := (perm_apply p edit).count_eq step
      have hrest := (ih (edit.apply p).1).count_eq step
      simp only [run, List.flatMap_cons, List.count_append] at hfirst hrest ⊢
      omega

end PipelineEdit

/-- **No edit loses a step.** A move within the pipeline puts the step at its new position. Taken
out there, it leaves the others as they were, and moving it back gives the old pipeline. An inserted
step is at its position, or at the end if that is nearer, and taking it out gives the old pipeline.
A move or a removal out of range does nothing. After any number of edits, the steps of the pipeline
with those that were taken out are the steps of the old pipeline with those that were put in, each
as often as there. -/
theorem edits_keep_steps (p : Pipeline) :
    (∀ source target, source < p.size → target < p.size →
      ∃ step rest moved, p.remove? source = some (step, rest) ∧
        p.move? source target = some moved ∧ moved.steps[target]? = some step ∧
        moved.remove? target = some (step, rest) ∧ moved.move? target source = some p) ∧
      (∀ source target, p.size ≤ source ∨ p.size ≤ target →
        p.move? source target = none ∧ ((PipelineEdit.move source target).apply p) = (p, [])) ∧
      (∀ index step, (p.insert index step).steps[min index p.size]? = some step ∧
        (p.insert index step).remove? (min index p.size) = some (step, p)) ∧
      (∀ index, p.size ≤ index → p.remove? index = none) ∧
      ∀ edits, ((PipelineEdit.run p edits).1.steps ++ (PipelineEdit.run p edits).2).Perm
        (p.steps ++ edits.flatMap PipelineEdit.inserted) := by
  refine ⟨?_, ?_, ?_, fun _ => Pipeline.remove?_eq_none_iff.2, PipelineEdit.perm_run p⟩
  · intro source target hsource htarget
    obtain ⟨step, rest, hremove⟩ := Pipeline.exists_remove? hsource
    have hmove := Pipeline.move?_of_remove? hremove htarget
    have hmoved := Pipeline.remove?_of_move? hremove htarget
    exact ⟨step, rest, _, hremove, hmove, Pipeline.getElem?_of_remove? hmoved, hmoved,
      Pipeline.move?_of_move? hmove⟩
  · intro source target hout
    have hnone := Pipeline.move?_eq_none_iff.2 hout
    exact ⟨hnone, by rw [PipelineEdit.apply, hnone, Option.getD_none]⟩
  · intro index step
    have hback := p.remove?_insert index step
    exact ⟨Pipeline.getElem?_of_remove? hback, hback⟩

/-- Three columns are deleted. -/
def threeDeletions : Pipeline :=
  ⟨[.rows (.delete "a"), .rows (.delete "b"), .rows (.delete "c")]⟩

/-- The first of three steps moves to the end and back, and there is no fourth one to move. -/
theorem edits_keep_steps_threeDeletions : 0 < threeDeletions.size ∧ 2 < threeDeletions.size ∧
    threeDeletions.size ≤ 3 ∧
    (∃ step rest moved, threeDeletions.remove? 0 = some (step, rest) ∧
      threeDeletions.move? 0 2 = some moved ∧ moved.steps[2]? = some step ∧
      moved.remove? 2 = some (step, rest) ∧ moved.move? 2 0 = some threeDeletions) ∧
    threeDeletions.move? 3 0 = none ∧ threeDeletions.remove? 3 = none := by
  obtain ⟨hmove, hout, -, hnone, -⟩ := edits_keep_steps threeDeletions
  exact ⟨by decide, by decide, by decide, hmove 0 2 (by decide) (by decide),
    (hout 3 0 (.inl (by decide))).1, hnone 3 (by decide)⟩

end Dashboard
