import Dashboard.Config.Manifest
import Dashboard.Proofs.Query.LiveValue
import Dashboard.Proofs.Transform.ReadSteps

/-!
# Config.ReadBack · saved dashboards read back

A manifest is written as an object of its settings, its dashboard and its pipeline, if there is one.
The reader finds these parts by name, so a manifest is read back as soon as each part is.

* **`Manifest.IsRead`** gathers what holds of the parts of every manifest that was read.
* **`Manifest.decode?_toTree`**: such a manifest with finite numbers is read from its document as
  itself, but for the sign of negative zero.
* **`Manifest.exists_decode?_toTree`**: so a manifest that was read survives saving, and each live
  value comes back as the kind that it was.
-/

namespace Dashboard

open Document (exists_of_list? exists_of_map? exists_of_optional exists_of_withDefault natBelow?_lt
  nodup_of_map?)

/-! ## Settings -/

namespace Settings

variable {settings : Settings}

/-- The counts are within 64 bits. -/
structure IsRead (settings : Settings) : Prop where
  sample : settings.inferenceSample < 2 ^ (64 : Nat)
  rows : settings.previewRows < 2 ^ (64 : Nat)

/-- The default settings can have been read. -/
theorem isRead_default : (default : Settings).IsRead := ⟨by decide, by decide⟩

/-- Settings that are decoded can be read back. -/
theorem isRead_of_decode? {δ : Type} [Document δ] {d : δ} (h : decode? d = some settings) :
    settings.IsRead := by
  obtain ⟨fields, -, h⟩ := Option.bind_eq_some_iff.1 h
  split at h
  · obtain ⟨sample, hsample, h⟩ := Option.bind_eq_some_iff.1 h
    obtain ⟨rows, hrows, h⟩ := Option.bind_eq_some_iff.1 h
    obtain rfl := Option.some.inj h
    constructor
    · rcases exists_of_withDefault hsample with rfl | ⟨t, ht⟩
      · exact isRead_default.sample
      · exact natBelow?_lt ht
    · rcases exists_of_withDefault hrows with rfl | ⟨t, ht⟩
      · exact isRead_default.rows
      · exact natBelow?_lt ht
  · cases h

/-- The document of settings is decoded as the settings. -/
theorem decode?_toTree (h : settings.IsRead) : decode? settings.toTree = some settings := by
  have hsample : Document.count? (Tree.integer settings.inferenceSample) =
      some settings.inferenceSample := Document.natBelow?_integer h.sample
  have hrows : Document.count? (Tree.integer settings.previewRows) = some settings.previewRows :=
    Document.natBelow?_integer h.rows
  calc decode? settings.toTree =
        (Document.count? (Tree.integer settings.inferenceSample)).bind fun sample =>
          (Document.count? (Tree.integer settings.previewRows)).bind fun rows =>
            some ⟨sample, rows⟩ := rfl
    _ = some settings := by rw [hsample, Option.bind_some, hrows, Option.bind_some]

end Settings

/-! ## Live values by id -/

namespace LiveValues

variable {live : LiveValues}

/-- The live values themselves, where negative zero counts as zero. -/
def dropZeroSigns (live : LiveValues) : LiveValues := live.map fun p => (p.1, p.2.dropZeroSigns)

/-- What holds of live values that were read. -/
structure IsRead (live : LiveValues) : Prop where
  ids : (live.map Prod.fst).Nodup
  values : ∀ p ∈ live, p.2.IsRead

/-- Live values that are decoded can be read back. -/
theorem isRead_of_map? {δ : Type} [Document δ] {d : δ}
    (h : Document.map? LiveValue.decode? d = some live) : IsRead live := by
  refine ⟨nodup_of_map? h, fun p hp => ?_⟩
  obtain ⟨t, ht⟩ := exists_of_map? h p hp
  exact LiveValue.isRead_of_decode? ht

/-- The document of live values is decoded as the live values, but for the sign of zero. -/
theorem map?_toTree (hread : IsRead live)
    (hfin : ∀ p ∈ live, ∀ cell ∈ p.2.cells, cell.isFinite = true) :
    Document.map? LiveValue.decode? (Tree.object (live.map fun (id, value) => (id, value.toTree))) =
      some (dropZeroSigns live) :=
  Document.map?_map hread.ids fun p hp => LiveValue.decode?_toTree (hread.values p hp) (hfin p hp)

/-- A value is found by its id. -/
theorem lookup_dropZeroSigns (hids : (live.map Prod.fst).Nodup) :
    ∀ p ∈ live, (dropZeroSigns live).lookup p.1 = some p.2.dropZeroSigns := by
  induction live with
  | nil => exact List.forall_mem_nil _
  | cons first rest ih =>
      obtain ⟨hfirst, hrest⟩ := List.nodup_cons.1 hids
      intro p hp
      rw [dropZeroSigns, List.map_cons, List.lookup_cons]
      rcases List.mem_cons.1 hp with rfl | hp
      · rw [beq_self_eq_true]
      · have hne : (p.1 == first.1) = false := by
          refine beq_false_of_ne fun heq => hfirst ?_
          rw [← heq]
          exact List.mem_map_of_mem hp
        rw [hne]
        exact ih hrest p hp

/-- Without the signs of zeros the live values are the same. -/
theorem sameLive_dropZeroSigns (hread : IsRead live)
    (hfin : ∀ p ∈ live, ∀ cell ∈ p.2.cells, cell.isFinite = true) :
    Board.sameLive live (dropZeroSigns live) = true := by
  refine Bool.and_eq_true_iff.2 ⟨beq_iff_eq.2 (List.length_map _).symm, List.all_eq_true.2 ?_⟩
  rintro ⟨id, value⟩ hp
  have hlookup : (dropZeroSigns live).lookup id = some value.dropZeroSigns :=
    lookup_dropZeroSigns hread.ids (id, value) hp
  simp only [hlookup]
  exact LiveValue.same_dropZeroSigns (hread.values (id, value) hp) (hfin (id, value) hp)

end LiveValues

/-! ## Dashboards -/

namespace Board

variable {board : Board}

/-- The cells of the filters of all widgets and of the live values. -/
def cells (board : Board) : List Cell :=
  board.widgets.flatMap (·.config.cells) ++ board.live.flatMap (·.2.cells)

/-- The cells of a board are those of its widgets and of its live values. -/
theorem forall_mem_cells {P : Cell → Prop} :
    (∀ cell ∈ board.cells, P cell) ↔
      (∀ widget ∈ board.widgets, ∀ cell ∈ widget.config.cells, P cell) ∧
        ∀ p ∈ board.live, ∀ cell ∈ p.2.cells, P cell := by
  rw [cells, List.forall_mem_append, List.forall_mem_flatMap, List.forall_mem_flatMap]

/-- The dashboard itself, where negative zero counts as zero. -/
def dropZeroSigns (board : Board) : Board :=
  ⟨board.globalFilter, board.widgets.map Widget.dropZeroSigns,
    LiveValues.dropZeroSigns board.live⟩

/-- What holds of every dashboard that was read. -/
structure IsRead (board : Board) : Prop where
  widgets : ∀ widget ∈ board.widgets, widget.config.IsRead
  live : LiveValues.IsRead board.live

/-- A board that is decoded can be read back. -/
theorem isRead_of_ofFields? {δ : Type} [Document δ] {fields : List (Option δ)}
    (h : ofFields? fields = some board) : board.IsRead := by
  rw [ofFields?, Option.bind_eq_bind, Option.bind_some] at h
  split at h
  · obtain ⟨state, -, h⟩ := Option.bind_eq_some_iff.1 h
    obtain ⟨widgets, hwidgets, h⟩ := Option.bind_eq_some_iff.1 h
    obtain ⟨live, hlive, h⟩ := Option.bind_eq_some_iff.1 h
    obtain rfl := Option.some.inj h
    constructor
    · intro widget hwidget
      rcases exists_of_withDefault hwidgets with rfl | ⟨items, hitems⟩
      · cases hwidget
      · obtain ⟨t, ht⟩ := exists_of_list? hitems widget hwidget
        exact Widget.isRead_of_decode? ht
    · rcases exists_of_withDefault hlive with rfl | ⟨members, hmembers⟩
      · exact ⟨List.nodup_nil, List.forall_mem_nil _⟩
      · exact LiveValues.isRead_of_map? hmembers
  · cases h

/-- The fields of a dashboard that is written. -/
def fields (board : Board) : List (Option Tree) :=
  [some board.globalFilter.toTree, some (.list (board.widgets.map Widget.toTree)),
    some (.object (board.live.map fun (id, value) => (id, value.toTree)))]

/-- The fields of a board are decoded as the board, but for the sign of zero. -/
theorem ofFields?_fields (hread : board.IsRead)
    (hfin : ∀ cell ∈ board.cells, cell.isFinite = true) :
    ofFields? board.fields = some board.dropZeroSigns := by
  obtain ⟨hwidgetCells, hliveCells⟩ := forall_mem_cells.1 hfin
  have hstate := board.globalFilter.decode?_toTree
  have hwidgets : Document.list? Widget.decode? (Tree.list (board.widgets.map Widget.toTree)) =
      some (board.widgets.map Widget.dropZeroSigns) :=
    Document.list?_map fun widget hwidget =>
      Widget.decode?_toTree (hread.widgets widget hwidget) (hwidgetCells widget hwidget)
  have hlive := LiveValues.map?_toTree hread.live hliveCells
  simp only [ofFields?, fields, Document.withDefault, Option.bind_eq_bind, Option.bind_some, hstate,
    hwidgets, hlive]
  rfl

/-- Without the signs of zeros the board is the same. -/
theorem same_dropZeroSigns (hread : board.IsRead)
    (hfin : ∀ cell ∈ board.cells, cell.isFinite = true) :
    board.same board.dropZeroSigns = true := by
  obtain ⟨hwidgetCells, hliveCells⟩ := forall_mem_cells.1 hfin
  have hwidgets : ((board.widgets.zip (board.widgets.map Widget.dropZeroSigns)).all
      fun p => p.1.same p.2) = true :=
    all_zip_map fun widget hwidget => Widget.same_dropZeroSigns (hwidgetCells widget hwidget)
  have hlive := LiveValues.sameLive_dropZeroSigns hread.live hliveCells
  simp only [same, dropZeroSigns, hwidgets, hlive, List.length_map, beq_self_eq_true, Bool.and_self]

end Board

/-! ## Manifests -/

namespace Manifest

variable {manifest : Manifest}

/-- The cells of the dashboard and of the pipeline: all numbers that a manifest holds are among
them, but for the counts and for documents that constrain nothing. -/
def cells (manifest : Manifest) : List Cell :=
  manifest.board.cells ++ manifest.pipeline.toList.flatMap Pipeline.heldCells

/-- The cells of a manifest are those of its board and of its pipeline. -/
theorem forall_mem_cells {P : Cell → Prop} :
    (∀ cell ∈ manifest.cells, P cell) ↔
      (∀ cell ∈ manifest.board.cells, P cell) ∧
        ∀ pipeline ∈ manifest.pipeline, ∀ cell ∈ pipeline.heldCells, P cell := by
  simp only [cells, List.forall_mem_append, List.forall_mem_flatMap, Option.mem_toList,
    Option.mem_def]

/-- The manifest itself, where negative zero counts as zero. -/
def dropZeroSigns (manifest : Manifest) : Manifest :=
  ⟨manifest.settings, manifest.board.dropZeroSigns, manifest.pipeline.map Pipeline.dropZeroSigns⟩

/-- What holds of every manifest that was read. -/
structure IsRead (manifest : Manifest) : Prop where
  settings : manifest.settings.IsRead
  board : manifest.board.IsRead
  pipeline : ∀ pipeline ∈ manifest.pipeline, pipeline.IsRead

/-- A manifest that is decoded can be read back. -/
theorem isRead_of_decode? {δ : Type} [Document δ] {d : δ} (h : decode? d = some manifest) :
    manifest.IsRead := by
  obtain ⟨fields, -, h⟩ := Option.bind_eq_some_iff.1 h
  split at h
  · obtain ⟨settings, hsettings, h⟩ := Option.bind_eq_some_iff.1 h
    obtain ⟨board, hboard, h⟩ := Option.bind_eq_some_iff.1 h
    obtain ⟨pipeline, hpipeline, h⟩ := Option.bind_eq_some_iff.1 h
    obtain rfl := Option.some.inj h
    refine ⟨?_, Board.isRead_of_ofFields? hboard, fun p hp => ?_⟩
    · rcases exists_of_withDefault hsettings with rfl | ⟨t, ht⟩
      · exact Settings.isRead_default
      · exact Settings.isRead_of_decode? ht
    · obtain ⟨t, ht⟩ := exists_of_optional hpipeline p hp
      exact Pipeline.isRead_of_decode? ht
  · cases h

/-- The reader finds the parts by their names. -/
theorem decode?_toTree_eq (manifest : Manifest) :
    decode? manifest.toTree =
      (Settings.decode? manifest.settings.toTree).bind fun settings =>
        (Board.ofFields? manifest.board.fields).bind fun board =>
          (Document.optional Pipeline.decode? (manifest.pipeline.map Pipeline.toTree)).bind
            fun pipeline => some ⟨settings, board, pipeline⟩ := by
  obtain ⟨settings, board, pipeline⟩ := manifest
  cases pipeline <;> rfl

/-- **A manifest is decoded from its document.** -/
theorem decode?_toTree (hread : manifest.IsRead)
    (hfin : ∀ cell ∈ manifest.cells, cell.isFinite = true) :
    decode? manifest.toTree = some manifest.dropZeroSigns := by
  obtain ⟨hboard, hsteps⟩ := forall_mem_cells.1 hfin
  have hpipeline : Document.optional Pipeline.decode? (manifest.pipeline.map Pipeline.toTree) =
      some (manifest.pipeline.map Pipeline.dropZeroSigns) := by
    refine Document.optional_map (fun _ => rfl) fun p hp => ?_
    exact Pipeline.decode?_toTree_eq_dropZeroSigns (hread.pipeline p hp) (hsteps p hp)
  rw [decode?_toTree_eq, Settings.decode?_toTree hread.settings, Option.bind_some,
    Board.ofFields?_fields hread.board hboard, Option.bind_some, hpipeline, Option.bind_some]
  rfl

/-- Without the signs of zeros the manifest is the same. -/
theorem same_dropZeroSigns (hread : manifest.IsRead)
    (hfin : ∀ cell ∈ manifest.cells, cell.isFinite = true) :
    manifest.same manifest.dropZeroSigns = true := by
  obtain ⟨hboard, hsteps⟩ := forall_mem_cells.1 hfin
  have hpipeline :
      samePipeline manifest.pipeline (manifest.pipeline.map Pipeline.dropZeroSigns) = true := by
    cases hp : manifest.pipeline with
    | none => rfl
    | some p => exact Pipeline.same_dropZeroSigns (hsteps p hp)
  rw [same, dropZeroSigns, Board.same_dropZeroSigns hread.board hboard, hpipeline, beq_self_eq_true]
  rfl

/-- **A manifest that was read survives saving.** Whatever document it was read from, and whichever
members that document left out, the manifest is read again from what is written of it. All live
values are back under their ids, of the same kinds and with equal cells and bounds. -/
theorem decode?_toTree_of_decode? {δ : Type} [Document δ] {d : δ} (h : decode? d = some manifest)
    (hfin : ∀ cell ∈ manifest.cells, cell.isFinite = true) :
    decode? manifest.toTree = some manifest.dropZeroSigns ∧
      manifest.same manifest.dropZeroSigns = true ∧
        List.Forall₂ (fun p q => p.1 = q.1 ∧ p.2.kind = q.2.kind ∧ p.2.same q.2 = true)
          manifest.board.live manifest.dropZeroSigns.board.live := by
  have hread := isRead_of_decode? h
  refine ⟨decode?_toTree hread hfin, same_dropZeroSigns hread hfin, ?_⟩
  refine List.forall₂_map_right_iff.2 (List.forall₂_same.2 fun p hp => ?_)
  have hcells : ∀ cell ∈ p.2.cells, cell.isFinite = true :=
    (Board.forall_mem_cells.1 (forall_mem_cells.1 hfin).1).2 p hp
  exact ⟨rfl, p.2.kind_dropZeroSigns.symm,
    LiveValue.same_dropZeroSigns (hread.board.live.values p hp) hcells⟩

/-- A dashboard as it may be written by hand: with two of the words for sortings, with members of
links among the others, with members out of order or left out, with negative zeros, and with a live
value of every kind. -/
def salesDocument : Tree :=
  .object
    [("live", .object
      [("picker", .text "all"), ("promoted", .bool true),
        ("regions", .list [.text "north", .null]),
        ("day", .object [("end", .null), ("start", .text "2024-01-31")]),
        ("price", .object [("step", .integer 1), ("max", .real (.zero true))]),
        ("draft", .object [("until", .text "today"), ("from", .null)])]),
      ("settings", .object [("previewRows", .integer 5)]),
      ("widgets", .list
        [.object [("id", .text "chart"), ("type", .text "barChart"),
            ("config", .object
              [("limit", .object [("count", .integer 3)]),
                ("sort", .object [("order", .text "desc"), ("by", .text "value")]),
                ("filters", .list [.object [("field", .text "price"), ("condition", .text "gt"),
                  ("value", .real (.zero true))]])])],
          .object [("id", .text "picker"),
            ("config", .object
              [("filterField", .text "region"), ("sort", .object [("by", .text "region")]),
                ("applyTo", .list [.text "chart"])])]]),
      ("pipeline", .object [("steps", .list
        [.object [("column", .text "price"), ("type", .text "round")]])])]

/-- What the document is read as. -/
def sales : Manifest where
  settings := ⟨20, 5⟩
  board :=
    { globalFilter := .empty
      widgets :=
        [⟨"chart", "barChart", ⟨default, false, [⟨"price", .gt, .scalar (.number (.zero true))⟩],
            none, some ⟨.value, .desc, none⟩, some ⟨3, .top, none⟩⟩⟩,
          ⟨"picker", "", ⟨⟨["chart"], some "region", none⟩, false, [], none,
            some ⟨.field "region", .asc, none⟩, none⟩⟩]
      live :=
        [("picker", .text "all"), ("promoted", .toggle true),
          ("regions", .list [.text "north", .null]),
          ("day", .range ⟨some (.text "2024-01-31"), none⟩),
          ("price", .numericRange ⟨none, some (.number (.zero true))⟩),
          ("draft", .other (.object [("from", .null), ("until", .text "today")]))] }
  pipeline := some ⟨[.cells "price" (.round 0)]⟩

/-- A manifest with live values of several kinds is written and read back. -/
theorem decode?_toTree_of_decode?_sales :
    decode? salesDocument = some sales ∧ (∀ cell ∈ sales.cells, cell.isFinite = true) ∧
      decode? sales.toTree = some sales.dropZeroSigns ∧
        sales.same sales.dropZeroSigns = true ∧
          List.Forall₂ (fun p q => p.1 = q.1 ∧ p.2.kind = q.2.kind ∧ p.2.same q.2 = true)
            sales.board.live sales.dropZeroSigns.board.live := by
  have hread : decode? salesDocument = some sales := by rfl
  have hfin : ∀ cell ∈ sales.cells, cell.isFinite = true := by decide
  exact ⟨hread, hfin, decode?_toTree_of_decode? hread hfin⟩

end Manifest

end Dashboard
