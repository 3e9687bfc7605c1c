import Dashboard.Config.Settings
import Dashboard.Query.Widget

/-!
# Config.Manifest · saved dashboards

* **`Manifest`** is a dashboard with its settings and the pipeline that prepares its rows.
* **`prepare`** runs the pipeline, **`preview`** keeps the first rows of that, and **`query`** gives
  the rows of a widget.
* **`toTree`** and **`decode?`** write and read it; **`same`** compares manifests.
-/

namespace Dashboard

/-- A dashboard has no widget with this id. -/
structure UnknownWidget where
  id : String
deriving DecidableEq, Repr

/-- The message of the error. -/
def UnknownWidget.message (e : UnknownWidget) : String := "Unknown widget: " ++ e.id

namespace Board

/-- The members of the document of a dashboard. -/
def toMembers (board : Board) : List (String × Tree) :=
  [("global", board.globalFilter.toTree), ("widgets", .list (board.widgets.map Widget.toTree)),
    ("live", .object (board.live.map fun (id, value) => (id, value.toTree)))]

/-- Whether two sets of live values have the same ids with equal values. -/
def sameLive (a b : LiveValues) : Bool :=
  a.length == b.length && a.all fun (id, value) =>
    match b.lookup id with
    | some other => value.same other
    | none => false

/-- Equality of dashboards, numbers by value. -/
def same (a b : Board) : Bool :=
  a.globalFilter == b.globalFilter && a.widgets.length == b.widgets.length &&
    ((a.widgets.zip b.widgets).all fun p => p.1.same p.2) && sameLive a.live b.live

end Board

/-- A saved dashboard. -/
structure Manifest where
  settings : Settings
  board : Board
  /-- The steps that come before every query. -/
  pipeline : Option Pipeline

namespace Manifest

instance : Inhabited Manifest := ⟨⟨default, default, none⟩⟩

/-- The prepared rows; without a pipeline the rows as they are. -/
def prepare (manifest : Manifest) (dataset : Dataset) : Except InvalidPattern Dataset :=
  match manifest.pipeline with
  | some pipeline => pipeline.apply dataset
  | none => .ok dataset

/-- The first of the prepared rows. -/
def preview (manifest : Manifest) (dataset : Dataset) : Except InvalidPattern Dataset :=
  (manifest.prepare dataset).map (·.take manifest.settings.previewRows)

/-- The rows that a widget shows of prepared rows. -/
def query (manifest : Manifest) (id : String) (dataset : Dataset) :
    Except UnknownWidget Dataset :=
  match manifest.board.query? id dataset with
  | some rows => .ok rows
  | none => .error ⟨id⟩

/-- The document of a manifest. -/
def toTree (manifest : Manifest) : Tree :=
  .object (("settings", manifest.settings.toTree) :: manifest.board.toMembers ++
    (manifest.pipeline.map fun pipeline => ("pipeline", pipeline.toTree)).toList)

/-- Decodes a manifest. -/
def decode? {δ : Type} [Document δ] (d : δ) : Option Manifest := do
  let [settings, state, widgets, live, pipeline] ←
    Document.record? ["settings", "global", "widgets", "live", "pipeline"] d | none
  let settings ← Document.withDefault default Settings.decode? settings
  let board ← Board.ofFields? [state, widgets, live]
  let pipeline ← Document.optional Pipeline.decode? pipeline
  some ⟨settings, board, pipeline⟩

/-- Equality of pipelines that may be absent, numbers by value. -/
def samePipeline : Option Pipeline → Option Pipeline → Bool
  | none, none => true
  | some a, some b => a.same b
  | _, _ => false

/-- Equality of manifests, numbers by value. -/
def same (a b : Manifest) : Bool :=
  a.settings == b.settings && a.board.same b.board && samePipeline a.pipeline b.pipeline

/-- Whether reading the document of a manifest gives it back. -/
def survives (manifest : Manifest) : Bool :=
  match decode? manifest.toTree with
  | some read => manifest.same read
  | none => false

end Manifest

end Dashboard
