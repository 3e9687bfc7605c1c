import Dashboard.ColumnType
import Dashboard.Transform.Pipeline

/-!
# Config.Settings · tunables

How many rows are sampled for the types of columns, and how many a preview has.
-/

namespace Dashboard

/-- The tunables of the program. -/
structure Settings where
  /-- Rows sampled for the types of columns. -/
  inferenceSample : Nat := ColumnType.defaultSample
  /-- Rows of a preview. -/
  previewRows : Nat := Pipeline.defaultPreview
deriving DecidableEq, Repr

namespace Settings

instance : Inhabited Settings := ⟨{}⟩

/-- The document of settings. -/
def toTree (settings : Settings) : Tree :=
  .object [("inferenceSample", .integer settings.inferenceSample),
    ("previewRows", .integer settings.previewRows)]

/-- Decodes settings; what is absent keeps its default. -/
def decode? {δ : Type} [Document δ] (d : δ) : Option Settings := do
  let [sample, rows] ← Document.record? ["inferenceSample", "previewRows"] d | none
  let sample ← Document.withDefault ColumnType.defaultSample Document.count? sample
  let rows ← Document.withDefault Pipeline.defaultPreview Document.count? rows
  some ⟨sample, rows⟩

end Settings

end Dashboard
