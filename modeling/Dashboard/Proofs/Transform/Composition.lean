import Dashboard.Proofs.Transform.Failure

/-!
# Transform.Composition · pipelines put together and taken apart

A run carries nothing from step to step but the rows and the position. So steps can be run in two
parts, and steps that change nothing can be left out; only the positions of errors move.

* **`Pipeline.runFrom_append`**: running two lists of steps is running the second one on the rows of
  the first.
* **`known`** leaves out the steps of an unknown kind. **`FirstInvalid.known`** says where the first
  failing step stands then, and **`Pipeline.runFrom_known`** that the rows stay the same.
* **`Pipeline.apply_append_and_known`** puts these together.
-/

namespace Dashboard

/-! ## Steps of an unknown kind -/

/-- The steps without those of an unknown kind. -/
def known (steps : List Step) : List Step := steps.filter (· ≠ .unknown)

/-- How many of the steps in front of a position are of an unknown kind. -/
def unknownBefore (steps : List Step) (index : Nat) : Nat :=
  (steps.take index).count .unknown

section known

variable {step : Step} {steps rest : List Step} {e : InvalidPattern}

/-- An unknown step at the head is left out. -/
theorem known_cons_unknown : known (.unknown :: rest) = known rest :=
  List.filter_cons_of_neg (by simp)

/-- Any other step at the head is kept. -/
theorem known_cons_of_ne (h : step ≠ .unknown) : known (step :: rest) = step :: known rest :=
  List.filter_cons_of_pos (by simpa using h)

/-- Each step is known or unknown. -/
theorem length_known_add_count (steps : List Step) :
    (known steps).length + steps.count .unknown = steps.length := by
  induction steps with
  | nil => rfl
  | cons step rest ih =>
      by_cases hunknown : step = .unknown
      · rw [hunknown, known_cons_unknown, List.count_cons_self, List.length_cons]
        omega
      · rw [known_cons_of_ne hunknown, List.count_cons_of_ne hunknown, List.length_cons,
          List.length_cons]
        omega

/-- The error of a run without the unknown steps names the same step, at its new position. -/
theorem FirstInvalid.known (h : FirstInvalid steps e) :
    FirstInvalid (known steps) ⟨e.step - unknownBefore steps e.step, e.pattern⟩ := by
  obtain ⟨column, replacement, hstep⟩ := h.searches
  obtain ⟨hlt, hget⟩ := List.getElem?_eq_some_iff.1 hstep
  have hsplit : steps = steps.take e.step ++ .cells column (.findReplace e.pattern replacement) ::
      steps.drop (e.step + 1) := by
    rw [← hget, List.getElem_cons_drop, List.take_append_drop]
  have hknown : Dashboard.known steps = Dashboard.known (steps.take e.step) ++
      .cells column (.findReplace e.pattern replacement) ::
        Dashboard.known (steps.drop (e.step + 1)) := by
    rw [← known_cons_of_ne (by nofun), Dashboard.known, Dashboard.known, Dashboard.known,
      ← List.filter_append, ← hsplit]
  have hlength : e.step - unknownBefore steps e.step =
      (Dashboard.known (steps.take e.step)).length := by
    have htake := length_known_add_count (steps.take e.step)
    rw [List.length_take, Nat.min_eq_left (Nat.le_of_lt hlt)] at htake
    rw [unknownBefore]
    omega
  rw [hlength, hknown]
  refine ⟨⟨column, replacement, ?_⟩, h.invalid, ?_⟩
  · rw [List.getElem?_append_right (Nat.le_refl _), Nat.sub_self, List.getElem?_cons_zero]
  · intro step hmem
    rw [List.take_left] at hmem
    exact h.first step (List.mem_filter.1 hmem).1

end known

/-! ## Runs -/

namespace Pipeline

/-- Running steps one after the other is running the later ones on the rows of the earlier ones. -/
theorem runFrom_append (index : Nat) (p q : List Step) (dataset : Dataset) :
    runFrom index (p ++ q) dataset =
      (runFrom index p dataset).bind (runFrom (index + p.length) q) := by
  induction p generalizing index dataset with
  | nil => rfl
  | cons step rest ih =>
      rw [List.cons_append]
      rcases step.isInvalid_or_run? dataset with hinvalid | ⟨-, changed, hrun⟩
      · rw [runFrom_cons_of_isInvalid hinvalid, runFrom_cons_of_isInvalid hinvalid]
        rfl
      · rw [runFrom_cons_of_run? hrun, runFrom_cons_of_run? hrun, ih, List.length_cons,
          Nat.add_right_comm, Nat.add_assoc]

/-- Steps of an unknown kind change no rows, so a run that succeeds does so without them. The
position does not matter for the rows. -/
theorem runFrom_known {steps : List Step} {index : Nat} {dataset result : Dataset}
    (h : runFrom index steps dataset = .ok result) (start : Nat) :
    runFrom start (known steps) dataset = .ok result := by
  induction steps generalizing index start dataset with
  | nil => exact h
  | cons step rest ih =>
      rcases step.isInvalid_or_run? dataset with hinvalid | ⟨-, changed, hrun⟩
      · rw [runFrom_cons_of_isInvalid hinvalid] at h
        cases h
      · rw [runFrom_cons_of_run? hrun] at h
        by_cases hunknown : step = .unknown
        · subst hunknown
          obtain rfl : dataset = changed := Option.some.inj hrun
          rw [known_cons_unknown]
          exact ih h start
        · rw [known_cons_of_ne hunknown, runFrom_cons_of_run? hrun]
          exact ih h (start + 1)

/-- **Pipelines compose.** Running two lists of steps as one pipeline is running the second one on
the rows of the first; an error of the second one names a position that is further by the length of
the first. Leaving out the steps of an unknown kind keeps the rows and the failure; the error names a
position that is nearer by the number of steps that were left out before it. -/
theorem apply_append_and_known (p q : List Step) (dataset : Dataset) :
    apply ⟨p ++ q⟩ dataset =
        ((apply ⟨p⟩ dataset).bind fun middle => (apply ⟨q⟩ middle).mapError (·.shift p.length)) ∧
      apply ⟨known p⟩ dataset =
        (apply ⟨p⟩ dataset).mapError fun e => ⟨e.step - unknownBefore p e.step, e.pattern⟩ := by
  constructor
  · have hlater : runFrom (0 + p.length) q =
        fun middle => (apply ⟨q⟩ middle).mapError (·.shift p.length) := by
      funext middle
      exact runFrom_add 0 p.length q middle
    rw [apply, runFrom_append, hlater]
    rfl
  · cases hrun : apply ⟨p⟩ dataset with
    | ok result => exact runFrom_known hrun 0
    | error e => exact runFrom_eq_error_iff.2 (runFrom_eq_error_iff.1 hrun).known

end Pipeline

end Dashboard
