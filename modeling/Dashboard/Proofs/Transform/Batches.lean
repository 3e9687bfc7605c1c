import Dashboard.Proofs.Transform.Failure
import Mathlib.Data.List.Forall2

/-!
# Transform.Batches · pipelines that run batch by batch

Most steps look at one row at a time. A pipeline of such steps gives for each row a list of rows,
whatever stands around the row, so a dataset can be cut into batches that are run on their own.

* **`Step.IsRowLocal`**: the step is none of those that need the whole table.
* **`Step.exists_flatMap`**: such a step replaces each row by a list of rows.
* **`Pipeline.runFrom_of_isRowLocal`**: so does a run of such steps, or it fails for all datasets
  alike.
* **`Pipeline.apply_batches`**: running on two batches is running on each of them.
-/

namespace Dashboard

/-! ## Steps -/

/-- The step looks at each row on its own: it neither removes duplicates nor sorts nor limits. -/
def Step.IsRowLocal : Step → Prop
  | .table _ => False
  | _ => True

instance : DecidablePred Step.IsRowLocal := fun step =>
  match step with
  | .cells _ _ => inferInstanceAs (Decidable True)
  | .rows _ => inferInstanceAs (Decidable True)
  | .keep _ => inferInstanceAs (Decidable True)
  | .table _ => inferInstanceAs (Decidable False)
  | .unknown => inferInstanceAs (Decidable True)

/-- A step that looks at each row on its own replaces each row by a list of rows. -/
theorem Step.exists_flatMap {step : Step} {change : Dataset → Dataset} (hlocal : step.IsRowLocal)
    (h : step.change? = some change) :
    ∃ f : Row → List Row, ∀ dataset : Dataset, change dataset = dataset.flatMap f := by
  cases step with
  | cells column cellChange =>
      obtain ⟨f, -, rfl⟩ := Option.map_eq_some_iff.1 h
      exact ⟨fun row => [row.modify column f], fun dataset => List.map_eq_flatMap⟩
  | rows rowChange =>
      obtain rfl := Option.some.inj h
      exact ⟨fun row => [rowChange.apply row], fun dataset => List.map_eq_flatMap⟩
  | keep test =>
      obtain rfl := Option.some.inj h
      refine ⟨fun row => (Option.guard test.accepts row).toList, fun dataset => ?_⟩
      rw [← List.filterMap_eq_flatMap_toList, List.filterMap_eq_filter]
  | table tableChange => exact hlocal.elim
  | unknown =>
      obtain rfl := Option.some.inj h
      exact ⟨fun row => [row], fun dataset => (List.flatMap_singleton' dataset).symm⟩

/-! ## Runs -/

namespace Pipeline

/-- A run of such steps replaces each row by a list of rows, or it fails whatever the rows are. -/
theorem runFrom_of_isRowLocal {steps : List Step} (h : ∀ step ∈ steps, step.IsRowLocal)
    (index : Nat) :
    (∃ e, ∀ dataset, runFrom index steps dataset = .error e) ∨
      ∃ f : Row → List Row, ∀ dataset : Dataset,
        runFrom index steps dataset = .ok (dataset.flatMap f) := by
  induction steps generalizing index with
  | nil => exact .inr ⟨fun row => [row], fun dataset => by rw [runFrom, List.flatMap_singleton']⟩
  | cons step rest ih =>
      obtain ⟨hstep, hrest⟩ := List.forall_mem_cons.1 h
      cases hchange : step.change? with
      | none =>
          have hinvalid := Step.change?_eq_none_iff.1 hchange
          exact .inl ⟨_, runFrom_cons_of_isInvalid hinvalid index rest⟩
      | some change =>
          obtain ⟨f, hf⟩ := Step.exists_flatMap hstep hchange
          have hrun : ∀ dataset : Dataset, runFrom index (step :: rest) dataset =
              runFrom (index + 1) rest (dataset.flatMap f) := by
            intro dataset
            apply runFrom_cons_of_run?
            rw [Step.run?, hchange, Option.map_some, hf]
          rcases ih hrest (index + 1) with ⟨e, he⟩ | ⟨g, hg⟩
          · exact .inl ⟨e, fun dataset => (hrun dataset).trans (he _)⟩
          · refine .inr ⟨fun row => (f row).flatMap g, fun dataset => ?_⟩
            rw [hrun, hg, List.flatMap_assoc]

/-- **Pipelines run batch by batch.** If no step removes duplicates, sorts or limits, the result on
one batch followed by another is the result on the first followed by the result on the second, and
the pipeline fails on both together exactly if it fails on each of them, with the same error. -/
theorem apply_batches {p : Pipeline} (h : ∀ step ∈ p.steps, step.IsRowLocal) (a b : Dataset) :
    p.apply (a ++ b) = ((p.apply a).bind fun first => (p.apply b).map (first ++ ·)) ∧
      ∀ e, (p.apply (a ++ b) = .error e ↔ p.apply a = .error e) ∧
        (p.apply (a ++ b) = .error e ↔ p.apply b = .error e) := by
  rcases runFrom_of_isRowLocal h 0 with ⟨e, he⟩ | ⟨f, hf⟩
  · have hfails : ∀ dataset, p.apply dataset = .error e := he
    rw [hfails, hfails, hfails]
    exact ⟨rfl, fun _ => ⟨Iff.rfl, Iff.rfl⟩⟩
  · have hruns : ∀ dataset : Dataset, p.apply dataset = .ok (dataset.flatMap f) := hf
    rw [hruns, hruns, hruns, List.flatMap_append]
    exact ⟨rfl, fun _ => ⟨⟨nofun, nofun⟩, ⟨nofun, nofun⟩⟩⟩

end Pipeline

/-- Drops the rows without a price, doubles the price, and renames it. -/
def doubledPrices : Pipeline :=
  ⟨[.keep (.filled ["price"]), .rows (.calculated "double" "2*\x7bprice\x7d"), .unknown,
    .rows (.rename "price" "single")]⟩

/-- Two batches with prices and without. -/
def priceBatches : Dataset × Dataset :=
  ([.ofList [("price", .number (.ofNat 4))], .ofList [("price", .text "")]],
    [.ofList [("name", .text "tea")], .ofList [("price", .text " 3 "), ("name", .text "bun")]])

/-- The doubled prices of two batches are those of the one and then those of the other. -/
theorem apply_doubledPrices :
    doubledPrices.apply (priceBatches.1 ++ priceBatches.2) =
      .ok [.ofList [("single", .number (.ofNat 4)), ("double", .number (.ofNat 8))],
        .ofList [("single", .text " 3 "), ("name", .text "bun"), ("double", .number (.ofNat 6))]] :=
  (Pipeline.apply_batches (by decide) priceBatches.1 priceBatches.2).1.trans (by decide +kernel)

end Dashboard
