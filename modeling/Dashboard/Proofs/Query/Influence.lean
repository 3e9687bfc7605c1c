import Dashboard.Proofs.Query.FilterChain
import Mathlib.Data.List.Forall2
import Mathlib.Data.List.Nodup

/-!
# Query.Influence · what the rows of a widget depend on

A board is queried for the widget with an id. Two boards are compared that may differ in many
widgets and live values.

* **`Board.Agree`**: the boards have the same filter of the dashboard, the same first widget of the
  id, and the same constraints on it.
* **`Agree.query?_eq`**: boards that agree answer alike, through all stages of the query.
* **`Agree.of_perm`**, **`Agree.of_copy`**, **`Agree.of_edits`**: boards agree when widgets are put
  in another order, when an emitter is copied, and when widgets that do not speak to the id are
  edited. **`query?_congr`** puts these together.
-/

namespace Dashboard

namespace Board

variable {a b board : Board} {id : String} {widget emitter copy : Widget}
  {widgets before after : List Widget} {live : LiveValues}

/-- The boards are the same as far as the widget `id` is concerned. -/
structure Agree (a b : Board) (id : String) : Prop where
  globalFilter : a.globalFilter = b.globalFilter
  widget : a.widget? id = b.widget? id
  constrains_iff : ∀ field value, a.Constrains id field value ↔ b.Constrains id field value

/-! ## Boards that agree answer alike -/

/-- Boards that agree admit the same rows. -/
theorem Agree.admits_iff (h : a.Agree b widget.id) {dataset : Dataset} {row : Row} :
    a.Admits widget dataset row ↔ b.Admits widget dataset row := by
  have hacross : (∀ field value, a.Emits widget.id field value →
      value.accepts (row.cell field) = true) ↔
      ∀ field value, b.Emits widget.id field value → value.accepts (row.cell field) = true := by
    simp only [← forall_constrains_iff, h.constrains_iff]
  constructor
  · intro hrow
    exact ⟨h.globalFilter ▸ hrow.globally, hacross.1 hrow.across, hrow.locally⟩
  · intro hrow
    exact ⟨h.globalFilter ▸ hrow.globally, hacross.2 hrow.across, hrow.locally⟩

/-- Boards that agree show the same rows. -/
theorem Agree.prepare_eq (h : a.Agree b widget.id) (dataset : Dataset) :
    a.prepare widget dataset = b.prepare widget dataset := by
  have hfiltered : a.filtered widget dataset = b.filtered widget dataset := by
    rw [filtered_eq_filter, filtered_eq_filter]
    apply List.filter_congr
    intro row _
    rw [decide_eq_decide]
    exact h.admits_iff
  rw [prepare, prepare, hfiltered]

/-- A widget that is found has the id. -/
theorem id_of_widget? (h : board.widget? id = some widget) : widget.id = id := by
  simpa using List.find?_some h

/-- Boards that agree answer alike. -/
theorem Agree.query?_eq (h : a.Agree b id) (dataset : Dataset) :
    a.query? id dataset = b.query? id dataset := by
  rw [query?, query?, h.widget]
  cases hwidget : b.widget? id with
  | none => rfl
  | some widget =>
      obtain rfl := id_of_widget? hwidget
      simp only [Option.map_some, h.prepare_eq]

/-! ## Boards with the same speakers -/

/-- Boards emit the same live values to a widget if the same widgets speak to it, with the same live
values. -/
theorem emits_iff_of_speakers
    (hspeakers : ∀ widget : Widget, widget.SpeaksTo id → (widget ∈ a.widgets ↔ widget ∈ b.widgets))
    (hlive : ∀ widget ∈ b.widgets, widget.SpeaksTo id →
      a.live.lookup widget.id = b.live.lookup widget.id) (field : String) (value : LiveValue) :
    a.Emits id field value ↔ b.Emits id field value := by
  constructor
  · rintro ⟨emitter, hmem, hspeaks, hvalue, hfield⟩
    have hmem' := (hspeakers emitter hspeaks).1 hmem
    exact ⟨emitter, hmem', hspeaks, hlive emitter hmem' hspeaks ▸ hvalue, hfield⟩
  · rintro ⟨emitter, hmem, hspeaks, hvalue, hfield⟩
    exact ⟨emitter, (hspeakers emitter hspeaks).2 hmem, hspeaks,
      (hlive emitter hmem hspeaks).trans hvalue, hfield⟩

/-! ### Another order -/

/-- If the ids are distinct, a widget is found wherever it stands. -/
theorem widget?_eq_some_iff (h : (board.widgets.map (·.id)).Nodup) :
    board.widget? id = some widget ↔ widget ∈ board.widgets ∧ widget.id = id := by
  constructor
  · intro hfound
    exact ⟨List.mem_of_find?_eq_some hfound, id_of_widget? hfound⟩
  · rintro ⟨hmem, rfl⟩
    cases hfound : board.widget? widget.id with
    | none => exact absurd (List.find?_eq_none.1 hfound widget hmem) (by simp)
    | some other =>
        rw [List.inj_on_of_nodup_map h (List.mem_of_find?_eq_some hfound) hmem
          (id_of_widget? hfound)]

/-- The order of the widgets does not matter if their ids are distinct. -/
theorem Agree.of_perm (hperm : board.widgets.Perm widgets)
    (hnodup : (board.widgets.map (·.id)).Nodup) :
    Agree { board with widgets := widgets } board id where
  globalFilter := rfl
  widget := by
    have hnodup' : (widgets.map (·.id)).Nodup := (hperm.map _).nodup_iff.1 hnodup
    ext widget
    rw [widget?_eq_some_iff hnodup', widget?_eq_some_iff hnodup, hperm.mem_iff]
  constrains_iff field value := by
    have hemits : Emits { board with widgets := widgets } id field value ↔
        board.Emits id field value := by
      apply emits_iff_of_speakers
      · intro widget _
        exact hperm.symm.mem_iff
      · intro widget _ _
        rfl
    rw [Constrains, Constrains, hemits]

/-! ### Copies -/

/-- A widget that is put among the others does not hide the one with the id, if it is that one or
comes behind one. -/
theorem widget?_insert (hwidgets : board.widgets = before ++ after)
    (hfirst : copy.id = id → board.widget? id = some copy ∨ ∃ widget ∈ before, widget.id = id) :
    widget? { board with widgets := before ++ copy :: after } id = board.widget? id := by
  simp only [widget?, hwidgets, List.find?_append] at hfirst ⊢
  by_cases hcopy : copy.id = id
  · cases hbefore : before.find? (·.id == id) with
    | some widget => rfl
    | none =>
        rw [hbefore] at hfirst
        rcases hfirst hcopy with hfound | ⟨widget, hmem, hid⟩
        · -- nothing in front has the id, so the copy is the widget that was found
          rw [List.find?_cons_of_pos (by simpa using hcopy)]
          exact hfound.symm
        · exact absurd hid (by simpa using List.find?_eq_none.1 hbefore widget hmem)
  · rw [List.find?_cons_of_neg (by simpa using hcopy)]

/-- A copy of a widget that speaks does not matter, wherever it is put. -/
theorem Agree.of_copy (hwidgets : board.widgets = before ++ after) (hmem : emitter ∈ board.widgets)
    (hkind : copy.kind = emitter.kind) (hlink : copy.config.link = emitter.config.link)
    (hlive : board.live.lookup copy.id = board.live.lookup emitter.id)
    (hfirst : copy.id = id → board.widget? id = some copy ∨ ∃ widget ∈ before, widget.id = id) :
    Agree { board with widgets := before ++ copy :: after } board id where
  globalFilter := rfl
  widget := widget?_insert hwidgets hfirst
  constrains_iff field value := by
    have hspeaks : copy.SpeaksTo id ↔ emitter.SpeaksTo id := by
      rw [Widget.SpeaksTo, Widget.SpeaksTo, hkind, hlink]
    have hemits : Emits { board with widgets := before ++ copy :: after } id field value ↔
        board.Emits id field value := by
      simp only [Emits, List.mem_append, List.mem_cons, hwidgets]
      constructor
      · rintro ⟨widget, hbefore | rfl | hafter, hwidget, hvalue, hfield⟩
        · exact ⟨widget, .inl hbefore, hwidget, hvalue, hfield⟩
        · refine ⟨emitter, ?_, hspeaks.1 hwidget, hlive ▸ hvalue, hlink ▸ hfield⟩
          rwa [hwidgets, List.mem_append] at hmem
        · exact ⟨widget, .inr hafter, hwidget, hvalue, hfield⟩
      · rintro ⟨widget, hbefore | hafter, hwidget⟩
        · exact ⟨widget, .inl hbefore, hwidget⟩
        · exact ⟨widget, .inr (.inr hafter), hwidget⟩
    rw [Constrains, Constrains, hemits]

/-! ### Edits -/

/-- The widget is left as it is, or it is another one than `id`, keeps its id, and does not speak to
`id`, neither before nor after. -/
def EditedBeside (id : String) (old new : Widget) : Prop :=
  new = old ∨ new.id = old.id ∧ old.id ≠ id ∧ ¬old.SpeaksTo id ∧ ¬new.SpeaksTo id

/-- Edits beside a widget keep those that speak to it. -/
theorem mem_iff_of_edits (hedits : List.Forall₂ (EditedBeside id) widgets after)
    (hspeaks : widget.SpeaksTo id) : widget ∈ after ↔ widget ∈ widgets := by
  induction hedits with
  | nil => exact Iff.rfl
  | @cons old new _ _ hedit _ ih =>
      rw [List.mem_cons, List.mem_cons, ih]
      rcases hedit with rfl | ⟨-, -, hold, hnew⟩
      · exact Iff.rfl
      · have hne_old : widget ≠ old := fun heq => hold (heq ▸ hspeaks)
        have hne_new : widget ≠ new := fun heq => hnew (heq ▸ hspeaks)
        simp only [hne_old, hne_new, false_or]

/-- Edits beside a widget keep the widget. -/
theorem find?_eq_of_edits (hedits : List.Forall₂ (EditedBeside id) widgets after) :
    after.find? (·.id == id) = widgets.find? (·.id == id) := by
  induction hedits with
  | nil => rfl
  | cons hedit _ ih =>
      rcases hedit with rfl | ⟨hid, hne, -, -⟩
      · rw [List.find?_cons, List.find?_cons, ih]
      · rw [List.find?_cons_of_neg (by simpa [hid] using hne),
          List.find?_cons_of_neg (by simpa using hne), ih]

/-- Edits beside a widget do not matter to it. -/
theorem Agree.of_edits (hedits : List.Forall₂ (EditedBeside id) board.widgets widgets)
    (hlive : ∀ widget ∈ board.widgets, widget.SpeaksTo id →
      live.lookup widget.id = board.live.lookup widget.id) :
    Agree ⟨board.globalFilter, widgets, live⟩ board id where
  globalFilter := rfl
  widget := find?_eq_of_edits hedits
  constrains_iff field value := by
    have hemits : Emits ⟨board.globalFilter, widgets, live⟩ id field value ↔
        board.Emits id field value :=
      emits_iff_of_speakers (fun _ => mem_iff_of_edits hedits) hlive field value
    rw [Constrains, Constrains, hemits]

/-! ## The answers -/

/-- **Only what speaks to a widget influences its rows.** Boards with the same filter of the
dashboard, the same first widget of an id and the same constraints on it give the same rows for that
id, also when these are aggregated, sorted and limited. So nothing changes when

* widgets with distinct ids are put in another order,
* a copy of an emitter, with the same live value, is put anywhere among the widgets, where it must
  not become the widget of the id itself,
* widgets that do not speak to the id are edited, or live values of such widgets. -/
theorem query?_congr (board : Board) (id : String) (dataset : Dataset) :
    (∀ other : Board, other.globalFilter = board.globalFilter →
      other.widget? id = board.widget? id →
      (∀ field value, other.Constrains id field value ↔ board.Constrains id field value) →
      other.query? id dataset = board.query? id dataset) ∧
    (∀ widgets, board.widgets.Perm widgets → (board.widgets.map (·.id)).Nodup →
      query? { board with widgets := widgets } id dataset = board.query? id dataset) ∧
    (∀ before after emitter copy, board.widgets = before ++ after → emitter ∈ board.widgets →
      copy.kind = emitter.kind → copy.config.link = emitter.config.link →
      board.live.lookup copy.id = board.live.lookup emitter.id →
      (copy.id = id → board.widget? id = some copy ∨ ∃ widget ∈ before, widget.id = id) →
      query? { board with widgets := before ++ copy :: after } id dataset =
        board.query? id dataset) ∧
    (∀ widgets live, List.Forall₂ (EditedBeside id) board.widgets widgets →
      (∀ widget ∈ board.widgets, widget.SpeaksTo id →
        live.lookup widget.id = board.live.lookup widget.id) →
      query? ⟨board.globalFilter, widgets, live⟩ id dataset = board.query? id dataset) := by
  refine ⟨?_, ?_, ?_, ?_⟩
  · intro other hglobal hwidget hconstrains
    exact Agree.query?_eq ⟨hglobal, hwidget, hconstrains⟩ dataset
  · intro widgets hperm hnodup
    exact (Agree.of_perm hperm hnodup).query?_eq dataset
  · intro before after emitter copy hwidgets hmem hkind hlink hlive hfirst
    exact (Agree.of_copy hwidgets hmem hkind hlink hlive hfirst).query?_eq dataset
  · intro widgets live hedits hlive
    exact (Agree.of_edits hedits hlive).query?_eq dataset

end Board

/-- A chart of the region with the greatest amount. -/
def rankedChart : Widget :=
  ⟨"chart", "barChart", { (default : WidgetConfig) with
    aggregation := some ⟨"region", "amount", .sum, none⟩
    sort := some ⟨.value, .desc, none⟩
    limit := some ⟨1, .top, none⟩ }⟩

/-- A board with the chart, a filter for it, and a note that filters something else. -/
def rankedBoard : Board where
  globalFilter := .empty
  widgets := [rankedChart, chartFilter "regions" "textFilter" "region", .plain "notes" "note"]
  live := [("regions", .text "north")]

/-- The answer for the chart stays when another filter says the same, when the widgets are reversed,
when the filter is doubled, and when the note becomes a filter of a table with a live value. -/
theorem query?_ranked_chart :
    Board.query? ⟨.empty, [chartFilter "areas" "Dropdown-Filter" "region", rankedChart],
        [("areas", .text "north"), ("regions", .text "south")]⟩ "chart" someOrders =
      rankedBoard.query? "chart" someOrders ∧
    Board.query? { rankedBoard with widgets := rankedBoard.widgets.reverse } "chart" someOrders =
      rankedBoard.query? "chart" someOrders ∧
    Board.query? { rankedBoard with
        widgets := chartFilter "regions" "textFilter" "region" :: rankedBoard.widgets }
        "chart" someOrders =
      rankedBoard.query? "chart" someOrders ∧
    Board.query? ⟨.empty, [rankedChart, chartFilter "regions" "textFilter" "region",
        ⟨"notes", "noteFilter", { (default : WidgetConfig) with
          link := ⟨["table"], some "region", none⟩ }⟩],
        [("notes", .text "south"), ("regions", .text "north")]⟩ "chart" someOrders =
      rankedBoard.query? "chart" someOrders := by
  obtain ⟨hagree, hperm, hcopy, hedits⟩ := Board.query?_congr rankedBoard "chart" someOrders
  refine ⟨?_, ?_, ?_, ?_⟩
  · apply hagree _ rfl rfl
    intro field value
    simp only [← Board.mem_constraints_iff]
  · exact hperm _ (List.reverse_perm _).symm (by decide +kernel)
  · apply hcopy [] rankedBoard.widgets (chartFilter "regions" "textFilter" "region") _ rfl
      (List.mem_of_getElem? (i := 1) rfl) rfl rfl rfl
    intro hid
    exact absurd hid (by decide)
  · have hnot : ∀ kind link, "chart" ∉ link.applyTo →
        ¬Widget.SpeaksTo ⟨"notes", kind, { (default : WidgetConfig) with link := link }⟩ "chart" :=
      fun _ _ hlink hspeaks => hlink hspeaks.2
    apply hedits
    · exact .cons (.inl rfl) (.cons (.inl rfl) (.cons
        (.inr ⟨rfl, by decide, hnot "note" default (by decide), hnot _ _ (by decide)⟩) .nil))
    · intro widget hmem hspeaks
      simp only [rankedBoard, List.mem_cons, List.not_mem_nil, or_false] at hmem
      rcases hmem with rfl | rfl | rfl
      · rfl
      · rfl
      · exact absurd hspeaks (hnot "note" default (by decide))

end Dashboard
