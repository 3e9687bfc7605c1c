import Dashboard.Transform.Pipeline

/-!
# Config.PipelineDocument · saved pipelines

A pipeline that stands on its own, with a name and a description.
-/

namespace Dashboard

/-- A saved pipeline. -/
structure PipelineDocument where
  name : Option String
  description : Option String
  pipeline : Pipeline

namespace PipelineDocument

/-- Decodes a saved pipeline. -/
def decode? {δ : Type} [Document δ] (d : δ) : Option PipelineDocument := do
  let [name, description, steps] ← Document.record? ["name", "description", "steps"] d | none
  let name ← Document.optional Document.text? name
  let description ← Document.optional Document.text? description
  let steps ← Document.withDefault [] (Document.list? Step.decode?) steps
  some ⟨name, description, ⟨steps⟩⟩

end PipelineDocument

end Dashboard
