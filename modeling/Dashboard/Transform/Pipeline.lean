import Dashboard.Transform.Label

/-!
# Transform.Pipeline · steps in sequence

A pipeline is a list of steps. Running it starts from the given rows, which stay as they are.

* **`Pipeline.insert`**, **`remove?`** and **`move?`** edit the list.
* **`Pipeline.apply`** runs all steps; the first step whose pattern is no pattern stops the run with
  its position (`InvalidPattern`).
-/

namespace Dashboard

/-- A text that is to be searched for is no pattern. -/
structure InvalidPattern where
  /-- The position of the step. -/
  step : Nat
  pattern : String
deriving DecidableEq, Repr

/-- The message of the error. -/
def InvalidPattern.message (e : InvalidPattern) : String :=
  "invalid pattern " ++ inQuotes e.pattern ++ " in step " ++ toString e.step

/-- Steps in sequence. -/
structure Pipeline where
  steps : List Step
deriving DecidableEq

namespace Pipeline

/-- The pipeline without steps. -/
def empty : Pipeline := ⟨[]⟩

instance : Inhabited Pipeline := ⟨empty⟩

/-! ## Editing -/

/-- How many steps there are. -/
def size (p : Pipeline) : Nat := p.steps.length

/-- Whether there are no steps. -/
def isEmpty (p : Pipeline) : Bool := p.steps.isEmpty

/-- Adds a step at the end. -/
def push (p : Pipeline) (step : Step) : Pipeline := ⟨p.steps ++ [step]⟩

/-- Adds a step at a position, or at the end if the position is behind it. -/
def insert (p : Pipeline) (index : Nat) (step : Step) : Pipeline :=
  ⟨p.steps.take index ++ step :: p.steps.drop index⟩

/-- Removes the step at a position. -/
def remove (p : Pipeline) (index : Nat) : Pipeline := ⟨p.steps.eraseIdx index⟩

/-- The step at a position, and the pipeline without it. -/
def remove? (p : Pipeline) (index : Nat) : Option (Step × Pipeline) :=
  p.steps[index]?.map fun step => (step, p.remove index)

/-- Moves the step at a position so that it ends up at another one. -/
def move? (p : Pipeline) (source target : Nat) : Option Pipeline :=
  if target < p.size then
    p.steps[source]?.map fun step => (p.remove source).insert target step
  else none

/-- The labels of the steps. -/
def labels (p : Pipeline) : List String := p.steps.map Step.label

/-! ## Running -/

/-- Runs steps from a position on. -/
def runFrom : Nat → List Step → Dataset → Except InvalidPattern Dataset
  | _, [], dataset => .ok dataset
  | index, step :: rest, dataset =>
    match step.run? dataset with
    | some changed => runFrom (index + 1) rest changed
    | none => .error ⟨index, step.pattern⟩

/-- Runs all steps. -/
def apply (p : Pipeline) (dataset : Dataset) : Except InvalidPattern Dataset :=
  runFrom 0 p.steps dataset

/-- Runs all steps and keeps the first rows. -/
def previewRows (p : Pipeline) (count : Nat) (dataset : Dataset) :
    Except InvalidPattern Dataset :=
  (p.apply dataset).map (·.take count)

/-- How many rows a preview has unless the settings say otherwise. -/
def defaultPreview : Nat := 20

/-- Runs all steps and keeps the first rows of a preview. -/
def preview (p : Pipeline) (dataset : Dataset) : Except InvalidPattern Dataset :=
  p.previewRows defaultPreview dataset

/-- The whole result of a pipeline that is done with. -/
def commit (p : Pipeline) (dataset : Dataset) : Except InvalidPattern Dataset := p.apply dataset

/-- Equality of pipelines, numbers by value. -/
def same (p q : Pipeline) : Bool :=
  p.size == q.size && (p.steps.zip q.steps).all fun s => s.1.same s.2

/-! ## Documents -/

/-- The document of a pipeline. -/
def toTree (p : Pipeline) : Tree := .object [("steps", .list (p.steps.map Step.toTree))]

/-- The JSON text of a pipeline. -/
def toJson (p : Pipeline) : String := p.toTree.compactText

/-- Decodes a pipeline. -/
def decode? {δ : Type} [Document δ] (d : δ) : Option Pipeline := do
  let [steps] ← Document.record? ["steps"] d | none
  let steps ← Document.withDefault [] (Document.list? Step.decode?) steps
  some ⟨steps⟩

/-- Reads a pipeline from JSON text. -/
def ofJson? (text : String) : Option Pipeline := (Tree.ofJson? text).bind decode?

end Pipeline

end Dashboard
