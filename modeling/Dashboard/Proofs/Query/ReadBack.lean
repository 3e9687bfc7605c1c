import Dashboard.Proofs.Row.Likeness
import Dashboard.Proofs.Transform.ReadBack
import Dashboard.Proofs.Tree.Record
import Dashboard.Query.Widget

/-!
# Query.ReadBack · written widgets read back

The configuration of a widget is written as an object, where the members of its link stand among the
others. Members are left out where there is nothing to write, and a sorting is written as one word
for the value, the label or a field.

* **`WidgetConfig.IsRead`** holds of every configuration that was read: its count is a 64-bit
  integer, and the word of its sorting means the same sorting.
* **`Widget.decode?_toTree`**: the document of such a widget is read as the widget, where only the
  sign of negative zero is lost.
-/

namespace Dashboard

open Document (exists_of_list? exists_of_optional exists_of_required exists_of_withDefault
  optional_map_self optionalMember lookup_optionalMember map_fst_optionalMember)

/-! ## Filters of the dashboard -/

/-- A list of texts is decoded as the texts. -/
theorem list?_text (texts : List String) :
    Document.list? Document.text? (Tree.list (texts.map .text)) = some texts :=
  mapM_map_of_leftInverse fun _ _ => rfl

/-- A filter by texts is read back. -/
theorem DynamicFilter.decode?_toTree (filter : DynamicFilter) :
    decode? filter.toTree = some filter := by
  calc decode? filter.toTree =
        (Document.list? Document.text? (Tree.list (filter.values.map .text))).bind fun values =>
          some ⟨filter.field, values⟩ := rfl
    _ = some filter := by rw [list?_text, Option.bind_some]

/-- A date range is read back. -/
theorem DateRange.decode?_toTree (range : DateRange) : decode? range.toTree = some range := by
  obtain ⟨start, stop⟩ := range
  cases start <;> cases stop <;> rfl

/-- The filters of the dashboard are read back. -/
theorem GlobalFilter.decode?_toTree (state : GlobalFilter) :
    decode? state.toTree = some state := by
  obtain ⟨search, dynamic, dateRange⟩ := state
  have hdynamic : Document.list? DynamicFilter.decode?
      (Tree.list (dynamic.map DynamicFilter.toTree)) = some dynamic :=
    mapM_map_of_leftInverse fun filter _ => filter.decode?_toTree
  have hrange : Document.optional DateRange.decode? (dateRange.map DateRange.toTree) =
      some dateRange := optional_map_self (fun _ => rfl) fun range _ => range.decode?_toTree
  calc decode? (toTree ⟨search, dynamic, dateRange⟩) =
        (Document.list? DynamicFilter.decode?
            (Tree.list (dynamic.map DynamicFilter.toTree))).bind fun dynamic =>
          (Document.optional DateRange.decode?
              (dateRange.map DateRange.toTree)).bind fun dateRange =>
            some ⟨search, dynamic, dateRange⟩ := by cases dateRange <;> rfl
    _ = some ⟨search, dynamic, dateRange⟩ := by
        rw [hdynamic, Option.bind_some, hrange, Option.bind_some]

/-! ## Parts of a configuration -/

/-- A specification of an aggregation is read back. -/
theorem AggregationSpec.decode?_toTree (spec : AggregationSpec) :
    decode? spec.toTree = some spec := by
  obtain ⟨dimension, measure, aggregator, colorBy⟩ := spec
  cases aggregator <;> cases colorBy <;> rfl

/-- The word of what is sorted by means the same. A field of the name of another word does not. -/
def SortBy.IsRead (key : SortBy) : Prop := ofToken key.token = key

/-- A key that is read from a word can be read back. -/
theorem SortBy.isRead_ofToken (token : String) : (ofToken token).IsRead := by
  unfold ofToken
  split
  · rfl
  · split
    · rfl
    · rename_i hvalue hlabel
      rw [IsRead, SortBy.token, ofToken, if_neg hvalue, if_neg hlabel]

/-- A specification of an order is read back. -/
theorem SortSpec.decode?_toTree {spec : SortSpec} (h : spec.key.IsRead) :
    decode? spec.toTree = some spec := by
  obtain ⟨key, order, field⟩ := spec
  calc decode? (toTree ⟨key, order, field⟩) = some ⟨.ofToken key.token, order, field⟩ := by
        cases order <;> cases field <;> rfl
    _ = some ⟨key, order, field⟩ := by rw [show SortBy.ofToken key.token = key from h]

/-- A specification of an order that is decoded can be read back. -/
theorem SortSpec.isRead_of_decode? {δ : Type} [Document δ] {d : δ} {spec : SortSpec}
    (h : decode? d = some spec) : spec.key.IsRead := by
  obtain ⟨fields, -, h⟩ := Option.bind_eq_some_iff.1 h
  split at h
  · obtain ⟨token, -, h⟩ := Option.bind_eq_some_iff.1 h
    obtain ⟨order, -, h⟩ := Option.bind_eq_some_iff.1 h
    obtain ⟨field, -, h⟩ := Option.bind_eq_some_iff.1 h
    obtain rfl := Option.some.inj h
    exact SortBy.isRead_ofToken token
  · cases h

/-- The count is a 64-bit integer. -/
def LimitSpec.IsRead (spec : LimitSpec) : Prop :=
  Binary64.int64Min ≤ spec.count ∧ spec.count ≤ Binary64.int64Max

/-- A specification of a limit is read back. -/
theorem LimitSpec.decode?_toTree {spec : LimitSpec} (h : spec.IsRead) :
    decode? spec.toTree = some spec := by
  obtain ⟨count, direction, field⟩ := spec
  have hcount : decodeCount? (Tree.integer count) = some count :=
    Option.filter_eq_some_iff.2 ⟨rfl, decide_eq_true h⟩
  calc decode? (toTree ⟨count, direction, field⟩) =
        (decodeCount? (Tree.integer count)).bind fun count => some ⟨count, direction, field⟩ := by
        cases direction <;> cases field <;> rfl
    _ = some ⟨count, direction, field⟩ := by rw [hcount, Option.bind_some]

/-- A specification of a limit that is decoded can be read back. -/
theorem LimitSpec.isRead_of_decode? {δ : Type} [Document δ] {d : δ} {spec : LimitSpec}
    (h : decode? d = some spec) : spec.IsRead := by
  obtain ⟨fields, -, h⟩ := Option.bind_eq_some_iff.1 h
  split at h
  · obtain ⟨count, hcount, h⟩ := Option.bind_eq_some_iff.1 h
    obtain ⟨direction, -, h⟩ := Option.bind_eq_some_iff.1 h
    obtain ⟨field, -, h⟩ := Option.bind_eq_some_iff.1 h
    obtain rfl := Option.some.inj h
    obtain ⟨t, ht⟩ := exists_of_required hcount
    have hfits : Binary64.int64Min ≤ count ∧ count ≤ Binary64.int64Max :=
      of_decide_eq_true (Option.filter_eq_some_iff.1 ht).2
    exact hfits
  · cases h

/-! ## Conditions -/

namespace Cell

variable {cell : Cell}

/-- A cell is written without the sign of zero. -/
theorem toTree_dropZeroSign (cell : Cell) : cell.dropZeroSign.toTree = cell.toTree := by
  cases cell with
  | null | bool | text => rfl
  | number x => exact numberTree_dropZeroSign x

/-- Without the sign of zero a finite cell can be saved. -/
theorem isSavable_dropZeroSign (h : cell.isFinite = true) : cell.dropZeroSign.IsSavable := by
  cases cell with
  | null => exact ⟨rfl, nofun⟩
  | bool b => exact ⟨rfl, nofun⟩
  | text s => exact ⟨rfl, nofun⟩
  | number x =>
      refine ⟨(Binary64.isFinite_dropZeroSign x).trans h, ?_⟩
      intro heq
      have hx : x.dropZeroSign = .zero true := Cell.number.inj heq
      cases hzero : x.isZero with
      | true =>
          rw [Binary64.dropZeroSign_of_isZero hzero] at hx
          exact absurd hx (by decide)
      | false =>
          rw [Binary64.dropZeroSign_of_not_isZero hzero] at hx
          rw [hx] at hzero
          cases hzero

end Cell

namespace Target

variable {target : Target}

/-- The target itself, where negative zero counts as zero. -/
def dropZeroSigns : Target → Target
  | .scalar cell => .scalar cell.dropZeroSign
  | .list cells => .list (cells.map Cell.dropZeroSign)

/-- The signs of zeros do not show in the document of a target. -/
theorem toTree_dropZeroSigns (target : Target) : target.dropZeroSigns.toTree = target.toTree := by
  cases target with
  | scalar cell => exact cell.toTree_dropZeroSign
  | list cells =>
      simp only [dropZeroSigns, toTree, List.map_map, Function.comp_def, Cell.toTree_dropZeroSign]

/-- Without the signs of zeros the finite cells of a target can be saved. -/
theorem isSavable_of_mem_dropZeroSigns (h : ∀ cell ∈ target.cells, cell.isFinite = true) :
    ∀ cell ∈ target.dropZeroSigns.cells, cell.IsSavable := by
  cases target with
  | scalar cell => exact List.forall_mem_singleton.2 (Cell.isSavable_dropZeroSign
      (h cell List.mem_cons_self))
  | list cells =>
      intro dropped hdropped
      obtain ⟨cell, hcell, rfl⟩ := List.mem_map.1 hdropped
      exact Cell.isSavable_dropZeroSign (h cell hcell)

/-- Without the signs of zeros a target is the same. -/
theorem same_dropZeroSigns (h : ∀ cell ∈ target.cells, cell.isFinite = true) :
    target.same target.dropZeroSigns = true := by
  cases target with
  | scalar cell => exact Cell.same_dropZeroSign (h cell List.mem_cons_self)
  | list cells =>
      have hcells : ((cells.zip (cells.map Cell.dropZeroSign)).all fun p => p.1.same p.2) = true :=
        all_zip_map fun cell hcell => Cell.same_dropZeroSign (h cell hcell)
      rw [dropZeroSigns, same, hcells, List.length_map, beq_self_eq_true]
      rfl

end Target

namespace Condition

variable {condition : Condition}

/-- The condition itself, where negative zero counts as zero. -/
def dropZeroSigns (condition : Condition) : Condition :=
  { condition with target := condition.target.dropZeroSigns }

/-- A condition is read back, but for the signs of zeros. -/
theorem decode?_toTree (h : ∀ cell ∈ condition.target.cells, cell.isFinite = true) :
    decode? condition.toTree = some condition.dropZeroSigns := by
  obtain ⟨field, operator, target⟩ := condition
  have htarget : Target.decode? target.toTree = some target.dropZeroSigns := by
    rw [← target.toTree_dropZeroSigns]
    exact Target.decode?_toTree (Target.isSavable_of_mem_dropZeroSigns h)
  have hoperator : Operator.decode? (Tree.text operator.word) = some operator := by
    cases operator <;> rfl
  calc decode? (toTree ⟨field, operator, target⟩) =
        (Operator.decode? (Tree.text operator.word)).bind fun operator =>
          (Target.decode? target.toTree).bind fun target => some ⟨field, operator, target⟩ := rfl
    _ = some (dropZeroSigns ⟨field, operator, target⟩) := by
        rw [hoperator, Option.bind_some, htarget, Option.bind_some]
        rfl

/-- Without the signs of zeros a condition is the same. -/
theorem same_dropZeroSigns (h : ∀ cell ∈ condition.target.cells, cell.isFinite = true) :
    condition.same condition.dropZeroSigns = true := by
  rw [same, dropZeroSigns, Target.same_dropZeroSigns h, beq_self_eq_true, beq_self_eq_true]
  rfl

end Condition

/-! ## Configurations -/

namespace Link

/-- A link writes its target widgets, and its fields where there are any. -/
theorem toMembers_eq (link : Link) :
    link.toMembers = ("applyTo", .list (link.applyTo.map .text)) ::
      (optionalMember "filterField" (link.filterField.map .text) ++
        optionalMember "dateField" (link.dateField.map .text)) := by
  simp only [toMembers, Document.toList_map_eq_optionalMember]
  rfl

/-- A link writes each of its members at most once, in order. -/
theorem sublist_names (link : Link) : (link.toMembers.map Prod.fst).Sublist names := by
  rw [toMembers_eq, List.map_cons, List.map_append]
  exact ((map_fst_optionalMember _ _).append (map_fst_optionalMember _ _)).cons_cons "applyTo"

/-- A link is read from its own members. -/
theorem ofFields?_toMembers (link : Link) :
    (Document.fieldsByName? names (Tree.object link.toMembers)).bind ofFields? = some link := by
  have hnodup : (link.toMembers.map Prod.fst).Nodup :=
    (show names.Nodup by decide).sublist link.sublist_names
  have hfields : Document.fieldsByName? names (Tree.object link.toMembers) =
      some [some (.list (link.applyTo.map .text)), link.filterField.map .text,
        link.dateField.map .text] := by
    rw [Document.fieldsByName?_object hnodup, toMembers_eq]
    simp [names, List.lookup_append, lookup_optionalMember, List.lookup_cons]
  have hoptional (o : Option String) :
      Document.optional Document.text? (o.map Tree.text) = some o :=
    optional_map_self (fun _ => rfl) fun _ _ => rfl
  rw [hfields, Option.bind_some]
  simp only [ofFields?, Option.bind_eq_bind, Option.bind_some, Document.withDefault, list?_text,
    hoptional]

end Link

namespace WidgetConfig

variable {config : WidgetConfig}

/-- The cells that the filters hold. -/
def cells (config : WidgetConfig) : List Cell := config.filters.flatMap (·.target.cells)

/-- The configuration itself, where negative zero counts as zero. -/
def dropZeroSigns (config : WidgetConfig) : WidgetConfig :=
  { config with filters := config.filters.map Condition.dropZeroSigns }

/-- What holds of every configuration that was read. -/
structure IsRead (config : WidgetConfig) : Prop where
  sort : ∀ spec ∈ config.sort, spec.key.IsRead
  limit : ∀ spec ∈ config.limit, spec.IsRead

/-- A configuration that is decoded can be read back. -/
theorem isRead_of_decode? {δ : Type} [Document δ] {d : δ} (h : decode? d = some config) :
    config.IsRead := by
  obtain ⟨fields, -, h⟩ := Option.bind_eq_some_iff.1 h
  split at h
  · obtain ⟨applyGlobal, -, h⟩ := Option.bind_eq_some_iff.1 h
    obtain ⟨filters, -, h⟩ := Option.bind_eq_some_iff.1 h
    obtain ⟨aggregation, -, h⟩ := Option.bind_eq_some_iff.1 h
    obtain ⟨sort, hsort, h⟩ := Option.bind_eq_some_iff.1 h
    obtain ⟨limit, hlimit, h⟩ := Option.bind_eq_some_iff.1 h
    obtain ⟨others, -, h⟩ := Option.bind_eq_some_iff.1 h
    obtain ⟨link, -, h⟩ := Option.bind_eq_some_iff.1 h
    obtain rfl := Option.some.inj h
    refine ⟨fun spec hspec => ?_, fun spec hspec => ?_⟩
    · obtain ⟨t, ht⟩ := exists_of_optional hsort spec hspec
      exact SortSpec.isRead_of_decode? ht
    · obtain ⟨t, ht⟩ := exists_of_optional hlimit spec hspec
      exact LimitSpec.isRead_of_decode? ht
  · cases h

/-- The members that do not belong to the link. -/
def ownMembers (config : WidgetConfig) : List (String × Tree) :=
  [("applyGlobalFilters", .bool config.applyGlobalFilters),
    ("filters", .list (config.filters.map Condition.toTree))] ++
    (optionalMember "aggregation" (config.aggregation.map AggregationSpec.toTree) ++
      (optionalMember "sort" (config.sort.map SortSpec.toTree) ++
        optionalMember "limit" (config.limit.map LimitSpec.toTree)))

/-- A configuration writes the members of its link and then its own. -/
theorem toTree_eq (config : WidgetConfig) :
    config.toTree = .object (config.link.toMembers ++ config.ownMembers) := by
  simp only [toTree, ownMembers, Document.toList_map_eq_optionalMember, List.append_assoc]

/-- A configuration writes each of its own members at most once, in order. -/
theorem sublist_names (config : WidgetConfig) :
    (config.ownMembers.map Prod.fst).Sublist names := by
  simp only [ownMembers, List.map_append]
  exact (List.Sublist.refl ["applyGlobalFilters", "filters"]).append
    ((map_fst_optionalMember _ _).append
      ((map_fst_optionalMember _ _).append (map_fst_optionalMember _ _)))

/-- A configuration writes no member twice. -/
theorem nodup_members (config : WidgetConfig) :
    ((config.link.toMembers ++ config.ownMembers).map Prod.fst).Nodup := by
  have hnodup : (Link.names ++ names).Nodup := by decide
  rw [List.map_append]
  exact hnodup.sublist (config.link.sublist_names.append config.sublist_names)

/-- The reader finds each member by its name. -/
theorem fieldsByName?_toTree (config : WidgetConfig) :
    Document.fieldsByName? names config.toTree =
      some [some (.bool config.applyGlobalFilters),
        some (.list (config.filters.map Condition.toTree)),
        config.aggregation.map AggregationSpec.toTree, config.sort.map SortSpec.toTree,
        config.limit.map LimitSpec.toTree] := by
  rw [toTree_eq, Document.fieldsByName?_object config.nodup_members, Link.toMembers_eq]
  simp [names, ownMembers, List.lookup_append, lookup_optionalMember, List.lookup_cons]

/-- The other members are those of the link. -/
theorem others?_toTree (config : WidgetConfig) :
    Document.others? names config.toTree = some (.object config.link.toMembers) := by
  have hapart : ∀ name ∈ Link.names, names.contains name = false := by decide
  have hlink : config.link.toMembers.filter (fun m => !names.contains m.1) =
      config.link.toMembers := by
    rw [List.filter_eq_self]
    intro m hm
    rw [hapart m.1 (config.link.sublist_names.subset (List.mem_map_of_mem hm))]
    rfl
  have hown : config.ownMembers.filter (fun m => !names.contains m.1) = [] := by
    rw [List.filter_eq_nil_iff]
    intro m hm
    have hname : m.1 ∈ names := config.sublist_names.subset (List.mem_map_of_mem hm)
    simpa using hname
  rw [toTree_eq, Document.others?_object, List.filter_append, hlink, hown, List.append_nil]

/-- **A configuration is decoded from its document**, whatever members are left out: those of the
link have other names than the rest. -/
theorem decode?_toTree (hread : config.IsRead)
    (hfin : ∀ cell ∈ config.cells, cell.isFinite = true) :
    decode? config.toTree = some config.dropZeroSigns := by
  have hfilters : Document.list? Condition.decode?
      (Tree.list (config.filters.map Condition.toTree)) =
        some (config.filters.map Condition.dropZeroSigns) :=
    Document.list?_map fun condition hcondition =>
      Condition.decode?_toTree (List.forall_mem_flatMap.1 hfin condition hcondition)
  have haggregation : Document.optional AggregationSpec.decode?
      (config.aggregation.map AggregationSpec.toTree) = some config.aggregation :=
    optional_map_self (fun _ => rfl) fun spec _ => spec.decode?_toTree
  have hsort : Document.optional SortSpec.decode? (config.sort.map SortSpec.toTree) =
      some config.sort :=
    optional_map_self (fun _ => rfl) fun spec hspec =>
      SortSpec.decode?_toTree (hread.sort spec hspec)
  have hlimit : Document.optional LimitSpec.decode? (config.limit.map LimitSpec.toTree) =
      some config.limit :=
    optional_map_self (fun _ => rfl) fun spec hspec =>
      LimitSpec.decode?_toTree (hread.limit spec hspec)
  have hglobal : Document.bool? (Tree.bool config.applyGlobalFilters) =
      some config.applyGlobalFilters := rfl
  simp only [decode?, fieldsByName?_toTree, others?_toTree, Option.bind_eq_bind, Option.bind_some,
    Document.withDefault, hglobal, hfilters, haggregation, hsort, hlimit, Link.ofFields?_toMembers]
  rfl

/-- Without the signs of zeros the configuration is the same. -/
theorem same_dropZeroSigns (hfin : ∀ cell ∈ config.cells, cell.isFinite = true) :
    config.same config.dropZeroSigns = true := by
  have hfilters : ((config.filters.zip (config.filters.map Condition.dropZeroSigns)).all
      fun p => p.1.same p.2) = true :=
    all_zip_map fun condition hcondition =>
      Condition.same_dropZeroSigns (List.forall_mem_flatMap.1 hfin condition hcondition)
  simp only [same, dropZeroSigns, hfilters, List.length_map, beq_self_eq_true, Bool.and_self]

end WidgetConfig

/-! ## Widgets -/

namespace Widget

variable {widget : Widget}

/-- The widget itself, where negative zero counts as zero. -/
def dropZeroSigns (widget : Widget) : Widget :=
  { widget with config := widget.config.dropZeroSigns }

/-- A widget that is decoded can be read back. -/
theorem isRead_of_decode? {δ : Type} [Document δ] {d : δ} (h : decode? d = some widget) :
    widget.config.IsRead := by
  obtain ⟨fields, -, h⟩ := Option.bind_eq_some_iff.1 h
  split at h
  · obtain ⟨id, -, h⟩ := Option.bind_eq_some_iff.1 h
    obtain ⟨kind, -, h⟩ := Option.bind_eq_some_iff.1 h
    obtain ⟨config, hconfig, h⟩ := Option.bind_eq_some_iff.1 h
    obtain rfl := Option.some.inj h
    rcases exists_of_withDefault hconfig with rfl | ⟨t, ht⟩
    · exact ⟨nofun, nofun⟩
    · exact WidgetConfig.isRead_of_decode? ht
  · cases h

/-- **A widget is decoded from its document.** -/
theorem decode?_toTree (hread : widget.config.IsRead)
    (hfin : ∀ cell ∈ widget.config.cells, cell.isFinite = true) :
    decode? widget.toTree = some widget.dropZeroSigns := by
  calc decode? widget.toTree =
        (WidgetConfig.decode? widget.config.toTree).bind fun config =>
          some ⟨widget.id, widget.kind, config⟩ := rfl
    _ = some widget.dropZeroSigns := by
        rw [WidgetConfig.decode?_toTree hread hfin, Option.bind_some]
        rfl

/-- Without the signs of zeros a widget is the same. -/
theorem same_dropZeroSigns (hfin : ∀ cell ∈ widget.config.cells, cell.isFinite = true) :
    widget.same widget.dropZeroSigns = true := by
  rw [same, dropZeroSigns, WidgetConfig.same_dropZeroSigns hfin, beq_self_eq_true,
    beq_self_eq_true]
  rfl

end Widget

end Dashboard
