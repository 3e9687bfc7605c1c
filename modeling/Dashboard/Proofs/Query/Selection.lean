import Dashboard.Proofs.Query.FilterChain

/-!
# Query.Selection · one selection, three filters

What a user selects of a field reaches the rows in three ways: as the live value of a filter widget,
as conditions of the widget that shows the rows, and, where texts are chosen, as a filter of the
dashboard. Each way tests cells on its own.

* **`Selection`** is what can be selected, with its **`live`** value and its **`conditions`**.
* **`Selection.accepts_live`**: the live value and the conditions accept the same cells.
* **`crossFilter_insert`**: a filter widget that speaks to a target keeps the rows that its live
  value accepts, of those that the other filter widgets keep.
* **`crossFilter_selection`** puts these together.
-/

namespace Dashboard

/-- What a user selects of a field. -/
inductive Selection where
  /-- Some cells, at least one. -/
  | among (cells : List Cell) (nonempty : cells ≠ [])
  /-- A text that stands for a choice. -/
  | containing (text : String) (nonempty : text ≠ "") (choice : text ≠ LiveValue.allWord)
  /-- A range between two bounds, which are compared as in filters. -/
  | between (low high : Cell) (low_filled : low.isBlank = false)
      (high_filled : high.isBlank = false)
  /-- A range between two bounds, which are compared as numbers. -/
  | numbersBetween (low high : Cell) (low_filled : low.isBlank = false)
      (high_filled : high.isBlank = false)

namespace Selection

/-- What a filter widget emits for a selection. -/
def live : Selection → LiveValue
  | among cells _ => .list cells
  | containing text _ _ => .text text
  | between low high _ _ => .range ⟨some low, some high⟩
  | numbersBetween low high _ _ => .numericRange ⟨some low, some high⟩

/-- The conditions on a field that ask for a selection. -/
def conditions (field : String) : Selection → List Condition
  | among cells _ => [⟨field, .isIn, .list cells⟩]
  | containing text _ _ => [⟨field, .contains, .scalar (.text text)⟩]
  | between low high _ _ => [⟨field, .between, .list [low, high]⟩]
  | numbersBetween low high _ _ => [⟨field, .gte, .scalar low⟩, ⟨field, .lte, .scalar high⟩]

variable {selection : Selection} {field : String} {texts : List String} {row : Row}

/-- No selection is skipped. -/
theorem isUnconstrained_live (selection : Selection) :
    selection.live.isUnconstrained = false := by
  cases selection with
  | among cells nonempty => exact List.isEmpty_eq_false_iff.2 nonempty
  | containing text nonempty choice => simp [live, LiveValue.isUnconstrained, nonempty, choice]
  | between low high => rfl
  | numbersBetween low high => rfl

/-- A bound that is filled in is tested. -/
theorem boundHolds_of_filled {bound : Cell} (h : bound.isBlank = false) (test : Cell → Bool) :
    LiveValue.boundHolds (some bound) test = test bound := by
  simp [LiveValue.boundHolds, LiveValue.closed?, Option.filter, h]

/-- The live value of a selection and its conditions accept the same cells. -/
theorem accepts_live (selection : Selection) (field : String) (row : Row) :
    selection.live.accepts (row.cell field) =
      (selection.conditions field).all fun condition => condition.accepts row := by
  cases selection with
  | among cells nonempty =>
      have hcells : cells.isEmpty = false := List.isEmpty_eq_false_iff.2 nonempty
      simp only [live, LiveValue.accepts, hcells, Bool.false_or, conditions, List.all_cons,
        List.all_nil, Bool.and_true, Condition.accepts, Operator.test]
  | containing text nonempty choice =>
      have hskipped : (text.isEmpty || text == LiveValue.allWord) = false :=
        isUnconstrained_live (.containing text nonempty choice)
      simp only [live, LiveValue.accepts, hskipped, Bool.false_or, conditions, List.all_cons,
        List.all_nil, Bool.and_true, Condition.accepts, Operator.test, Target.toText, Cell.toText]
  | between low high low_filled high_filled =>
      simp only [live, LiveValue.accepts, boundHolds_of_filled low_filled,
        boundHolds_of_filled high_filled, conditions, List.all_cons, List.all_nil, Bool.and_true,
        Condition.accepts, Operator.test]
  | numbersBetween low high low_filled high_filled =>
      simp only [live, LiveValue.accepts, boundHolds_of_filled low_filled,
        boundHolds_of_filled high_filled, conditions, List.all_cons, List.all_nil, Bool.and_true,
        Condition.accepts, Operator.test, Target.toNumber]

/-- Chosen texts are tested as in a filter of the dashboard. -/
theorem accepts_live_of_texts (h : selection.live = .list (texts.map Cell.text)) :
    selection.live.accepts (row.cell field) =
      GlobalFilter.acceptsDynamic ⟨"", [⟨field, texts⟩], none⟩ row := by
  have hskipped : (LiveValue.list (texts.map Cell.text)).isUnconstrained = false :=
    h ▸ isUnconstrained_live selection
  have hcells : (texts.map Cell.text).isEmpty = false := hskipped
  have htexts : texts.isEmpty = false := List.isEmpty_map ▸ hcells
  rw [h]
  simp only [LiveValue.accepts, hcells, Bool.false_or, Cell.isAmong, List.any_map,
    GlobalFilter.acceptsDynamic, List.filter_cons, htexts, Bool.not_false, if_true,
    List.filter_nil, List.all_cons, List.all_nil, Bool.and_true, DynamicFilter.accepts]
  rfl

end Selection

/-! ## A filter widget among others -/

section emitter

variable {target field : String} {emitter : Binding} {before after : List Binding}
  {live : LiveValues} {value : LiveValue} {dataset : Dataset}

/-- The binding is a filter on a field, names the target and has a live value. -/
structure Binding.Broadcasts (emitter : Binding) (target field : String) (live : LiveValues)
    (value : LiveValue) : Prop where
  isFilter : emitter.isFilter = true
  target_mem : target ∈ emitter.link.applyTo
  field_eq : emitter.link.field? = some field
  lookup_eq : live.lookup emitter.id = some value

/-- Without widgets no row is dropped. -/
theorem crossFilter_nil : crossFilter target [] live dataset = dataset :=
  rfl

/-- One more filter widget keeps the rows that its live value accepts. -/
theorem crossFilter_insert (h : emitter.Broadcasts target field live value)
    (hvalue : value.isUnconstrained = false) :
    crossFilter target (before ++ emitter :: after) live dataset =
      (crossFilter target (before ++ after) live dataset).filter fun row =>
        value.accepts (row.cell field) := by
  have hconstraint : constraint? target live emitter = some (field, value) :=
    constraint?_eq_some_iff.2 ⟨h.isFilter, h.target_mem, h.lookup_eq, h.field_eq, hvalue⟩
  simp only [crossFilter_eq_filter, constraints, List.filterMap_append, List.filterMap_cons_some hconstraint,
    List.filter_filter, List.all_append, List.all_cons]
  apply List.filter_congr
  intro row _
  ac_rfl

/-- **One selection, three filters.** A filter widget emits what is selected of a field to a target.
Alone it keeps the rows that the conditions for the selection keep; and if texts are selected, the
rows that the filter of the dashboard by these texts keeps, on a target that wants it. Among other
filter widgets it does the same to what these keep. -/
theorem crossFilter_selection (selection : Selection)
    (h : emitter.Broadcasts target field live selection.live) (dataset : Dataset) :
    crossFilter target [emitter] live dataset =
        filterRows (selection.conditions field) dataset ∧
      (∀ (texts : List String) (config : WidgetConfig),
        selection.live = .list (texts.map Cell.text) → config.applyGlobalFilters = true →
        crossFilter target [emitter] live dataset =
          Board.filterGlobally ⟨"", [⟨field, texts⟩], none⟩ config dataset) ∧
      ∀ before after : List Binding,
        crossFilter target (before ++ emitter :: after) live dataset =
          filterRows (selection.conditions field)
            (crossFilter target (before ++ after) live dataset) := by
  have hlive : ∀ before after : List Binding,
      crossFilter target (before ++ emitter :: after) live dataset =
        (crossFilter target (before ++ after) live dataset).filter fun row =>
          selection.live.accepts (row.cell field) :=
    fun _ _ => crossFilter_insert h selection.isUnconstrained_live
  have halone : crossFilter target [emitter] live dataset =
      dataset.filter fun row => selection.live.accepts (row.cell field) := by
    rw [← List.nil_append [emitter], hlive, List.nil_append, crossFilter_nil]
  refine ⟨?_, ?_, ?_⟩
  · rw [halone, filterRows_eq_filter]
    simp only [selection.accepts_live]
  · intro texts config htexts hconfig
    rw [halone, Board.filterGlobally, if_pos hconfig, GlobalFilter.apply_eq_filter_accepts]
    apply List.filter_congr
    intro row _
    rw [Selection.accepts_live_of_texts htexts]
    simp [GlobalFilter.acceptsDate, GlobalFilter.acceptsSearch]
  · intro before after
    rw [hlive, filterRows_eq_filter]
    simp only [selection.accepts_live]

end emitter

/-- Amounts as a number, as texts, as what is no number, and missing. -/
def unevenAmounts : Dataset :=
  [.ofList [("amount", .number (.ofNat 9))], .ofList [("amount", .text "10")],
    .ofList [("amount", .text "n/a")], .ofList [("amount", .number .quietNaN)],
    .ofList [("amount", .bool true)], .ofList []]

/-- A filter widget on the amount that names a table. -/
def amountSlider : Binding := .filterOn "slider" "amount" ["table"]

/-- The bounds are a text and a number. A range compares the text `"10"` with the text `"9"` as
texts, so that it lies below; as numbers both amounts lie between the bounds. -/
theorem crossFilter_amounts :
    crossFilter "table" [amountSlider]
        [("slider", .range ⟨some (.text "9"), some (.number (.ofNat 10))⟩)] unevenAmounts =
      filterRows [⟨"amount", .between, .list [.text "9", .number (.ofNat 10)]⟩] unevenAmounts ∧
    filterRows [⟨"amount", .between, .list [.text "9", .number (.ofNat 10)]⟩] unevenAmounts =
      [unevenAmounts[0]] ∧
    crossFilter "table" [amountSlider]
        [("slider", .numericRange ⟨some (.text "9"), some (.number (.ofNat 10))⟩)] unevenAmounts =
      filterRows [⟨"amount", .gte, .scalar (.text "9")⟩,
        ⟨"amount", .lte, .scalar (.number (.ofNat 10))⟩] unevenAmounts ∧
    filterRows [⟨"amount", .gte, .scalar (.text "9")⟩,
        ⟨"amount", .lte, .scalar (.number (.ofNat 10))⟩] unevenAmounts =
      [unevenAmounts[0], unevenAmounts[1]] := by
  have hslider : ∀ value, amountSlider.Broadcasts "table" "amount" [("slider", value)] value :=
    fun value => ⟨by decide +kernel, by decide, rfl, rfl⟩
  have hrange := crossFilter_selection (.between (.text "9") (.number (.ofNat 10)) rfl rfl)
    (hslider _) unevenAmounts
  have hnumeric := crossFilter_selection
    (.numbersBetween (.text "9") (.number (.ofNat 10)) rfl rfl) (hslider _) unevenAmounts
  exact ⟨hrange.1, by decide +kernel, hnumeric.1, by decide +kernel⟩

end Dashboard
