import Dashboard.Query.LiveValue

/-!
# Query.CrossFilter · widgets that filter other widgets

A widget whose kind has `filter` in it broadcasts its live value to the widgets it applies to.

* **`Binding`** is what the broadcast needs of a widget.
* **`constraints`** lists the fields with the live values that constrain a target, and
  **`crossFilter`** keeps the rows that pass all of them.
-/

namespace Dashboard

/-- What a widget broadcasts about, and to whom. -/
structure Link where
  /-- The widgets that it filters. -/
  applyTo : List String
  /-- The field that it filters. -/
  filterField : Option String
  /-- The field that it filters if there is no `filterField`. -/
  dateField : Option String
deriving DecidableEq, Repr

namespace Link

instance : Inhabited Link := ⟨⟨[], none, none⟩⟩

/-- The members of a link in a document. -/
def toMembers (link : Link) : List (String × Tree) :=
  [("applyTo", .list (link.applyTo.map .text))] ++
    (link.filterField.map fun field => ("filterField", Tree.text field)).toList ++
    (link.dateField.map fun field => ("dateField", Tree.text field)).toList

/-- The names of the members of a link. -/
def names : List String := ["applyTo", "filterField", "dateField"]

/-- Decodes a link from its fields. -/
def ofFields? {δ : Type} [Document δ] (fields : List (Option δ)) : Option Link := do
  let [applyTo, filterField, dateField] ← some fields | none
  let applyTo ← Document.withDefault [] (Document.list? Document.text?) applyTo
  let filterField ← Document.optional Document.text? filterField
  let dateField ← Document.optional Document.text? dateField
  some ⟨applyTo, filterField, dateField⟩

/-- Decodes a link. -/
def decode? {δ : Type} [Document δ] (d : δ) : Option Link :=
  (Document.record? names d).bind ofFields?

/-- The field that is filtered. -/
def field? (link : Link) : Option String := link.filterField.or link.dateField

end Link

/-- A widget as the broadcast sees it. -/
structure Binding where
  id : String
  kind : String
  link : Link
deriving DecidableEq, Repr

namespace Binding

/-- A filter widget on a field. -/
def filterOn (id field : String) (applyTo : List String) : Binding :=
  ⟨id, "filter", ⟨applyTo, some field, none⟩⟩

/-- The document of a binding. -/
def toTree (binding : Binding) : Tree :=
  .object [("id", .text binding.id), ("type", .text binding.kind),
    ("config", .object binding.link.toMembers)]

/-- Decodes a binding. -/
def decode? {δ : Type} [Document δ] (d : δ) : Option Binding := do
  let [id, kind, config] ← Document.record? ["id", "type", "config"] d | none
  let id ← Document.required Document.text? id
  let kind ← Document.withDefault "" Document.text? kind
  let link ← Document.withDefault default Link.decode? config
  some ⟨id, kind, link⟩

/-- Whether this is a filter widget. -/
def isFilter (binding : Binding) : Bool :=
  Text.occurs "filter".toList (Text.lower binding.kind.toList)

/-- Whether it filters a widget. -/
def targets (binding : Binding) (id : String) : Bool := binding.link.applyTo.any (· == id)

end Binding

/-- Live values by the ids of widgets. -/
abbrev LiveValues := List (String × LiveValue)

/-- The constraint that a widget puts on a target: a field and a live value. -/
def constraint? (target : String) (live : LiveValues) (binding : Binding) :
    Option (String × LiveValue) :=
  if binding.isFilter && binding.targets target then do
    let value ← live.lookup binding.id
    let field ← binding.link.field?
    if value.isUnconstrained then none else some (field, value)
  else none

/-- The constraints that widgets put on a target. -/
def constraints (target : String) (bindings : List Binding) (live : LiveValues) :
    List (String × LiveValue) :=
  bindings.filterMap (constraint? target live)

/-- The rows that pass all constraints on a target; without constraints all of them. -/
def crossFilter (target : String) (bindings : List Binding) (live : LiveValues)
    (dataset : Dataset) : Dataset :=
  let active := constraints target bindings live
  if active.isEmpty then dataset
  else dataset.filter fun row => active.all fun (field, value) => value.accepts (row.cell field)

end Dashboard
