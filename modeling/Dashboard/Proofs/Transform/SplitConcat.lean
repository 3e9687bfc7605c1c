import Dashboard.Proofs.Text.Split
import Dashboard.Proofs.Transform.Frame

/-!
# Transform.SplitConcat · splitting a column and joining columns undo each other

One step splits the text of a column over other columns, another one joins the texts of columns.
Both write in place, so that they may overwrite what they read, or each other's columns.

* **`Row.textIn`** is the text of a row in a column, empty where there is none.
* **`Row.map_get?_insertParts`**: columns with different names get one part each.
* **`Row.get?_concat_split`**: a text with as many parts as there are columns is joined to itself
  again.
* **`Row.map_get?_split_concat`**: texts without the separator are split into themselves again.
* **`split_concat_undo`** says both of pipelines that run one step after the other.
-/

namespace Dashboard

/-- The text of a row in a column; null and a missing cell count as the empty text. -/
def Row.textIn (row : Row) (column : String) : String := (row.cell column).toTextOrEmpty

namespace Row

variable {row : Row} {targets columns : List String} {parts : List (List Char)}
  {column separator target name text : String} {mark : Char}

/-! ## Parts in columns -/

/-- A text in a column is its text there. -/
theorem textIn_of_get? (h : row.get? name = some (.text text)) : row.textIn name = text := by
  rw [textIn, cell, h]
  rfl

/-- Inserting parts changes nothing under other names. -/
theorem get?_insertParts_of_notMem (row : Row) (parts : List (List Char)) (h : name ∉ targets) :
    (row.insertParts targets parts).get? name = row.get? name :=
  (row.sameOutside_insertParts parts (List.Subset.refl targets)).get?_eq name h

/-- Each of as many columns as there are parts gets its part, if no column is named twice. -/
theorem map_get?_insertParts (hdistinct : targets.Nodup) (hlength : parts.length = targets.length) :
    targets.map (row.insertParts targets parts).get? =
      parts.map fun part => some (.text (String.ofList part)) := by
  induction targets generalizing row parts with
  | nil =>
      rw [List.length_nil, List.length_eq_zero_iff] at hlength
      rw [hlength]
      rfl
  | cons target targets ih =>
      obtain ⟨hnew, hrest⟩ := List.nodup_cons.1 hdistinct
      cases parts with
      | nil => cases hlength
      | cons part parts =>
          -- the later parts do not overwrite the first one
          rw [insertParts, List.map_cons, List.map_cons, get?_insertParts_of_notMem _ _ hnew,
            get?_insert_self, ih hrest (Nat.succ.inj hlength)]

/-- The columns that a text was split over hold its parts. -/
theorem map_textIn_insertParts (hdistinct : targets.Nodup)
    (hlength : parts.length = targets.length) :
    targets.map (row.insertParts targets parts).textIn = parts.map String.ofList := by
  have hget : targets.map (row.insertParts targets parts).get? =
      parts.map fun part => some (.text (String.ofList part)) :=
    map_get?_insertParts hdistinct hlength
  apply List.ext_getElem
  · rw [List.length_map, List.length_map, hlength]
  · intro i hi hi'
    rw [List.length_map] at hi hi'
    rw [List.getElem_map, List.getElem_map]
    apply textIn_of_get?
    simpa [hi, hi'] using congrArg (·[i]?) hget

/-! ## Rows -/

/-- Splitting inserts the parts of the text under the targets. -/
theorem apply_split (row : Row) (column separator : String) (targets : List String) :
    (RowChange.split column separator targets).apply row =
      row.insertParts targets (Text.split separator.toList (row.textIn column).toList) :=
  rfl

/-- Concatenating inserts the joined texts under the target. -/
theorem apply_concat (row : Row) (columns : List String) (separator target : String) :
    (RowChange.concat columns separator target).apply row =
      row.insert target (.text (Text.joinStrings separator (columns.map row.textIn))) :=
  rfl

/-- Splitting a text into as many parts as there are columns and joining these columns writes the
text back. -/
theorem get?_concat_split (row : Row) (target : String) (hdistinct : targets.Nodup)
    (hlength : (Text.split separator.toList (row.textIn column).toList).length = targets.length) :
    ((RowChange.concat targets separator target).apply
        ((RowChange.split column separator targets).apply row)).get? target =
      some (.text (row.textIn column)) := by
  have hid : String.toList ∘ String.ofList = id := funext fun _ => String.toList_ofList
  rw [apply_concat, get?_insert_self, apply_split, map_textIn_insertParts hdistinct hlength,
    Text.joinStrings, List.map_map, hid, List.map_id, Text.join_split, String.ofList_toList]

/-- Joining columns without a character by it and splitting the whole over as many columns gives
each of these the text of its column. -/
theorem map_get?_split_concat (row : Row) (target : String) (hdistinct : targets.Nodup)
    (hne : columns ≠ []) (hlength : columns.length = targets.length)
    (hmark : ∀ column ∈ columns, mark ∉ (row.textIn column).toList) :
    targets.map ((RowChange.split target (String.singleton mark) targets).apply
        ((RowChange.concat columns (String.singleton mark) target).apply row)).get? =
      columns.map fun column => some (.text (row.textIn column)) := by
  have htexts : Text.split [mark] (Text.join [mark] ((columns.map row.textIn).map String.toList)) =
      (columns.map row.textIn).map String.toList := by
    apply Text.split_join
    · simpa using hne
    · simpa using hmark
  rw [apply_split, apply_concat, textIn_of_get? (get?_insert_self _ _ _), Text.joinStrings,
    String.toList_ofList, String.toList_singleton, htexts,
    map_get?_insertParts hdistinct (by simpa using hlength), List.map_map, List.map_map]
  apply List.map_congr_left
  intro column _
  rw [Function.comp_apply, Function.comp_apply, String.ofList_toList]

end Row

/-! ## Pipelines -/

/-- A pipeline of two changes of rows changes every row by the one and then by the other. -/
theorem apply_two_changes (first second : RowChange) (dataset : Dataset) :
    Pipeline.apply ⟨[.rows first, .rows second]⟩ dataset =
      .ok (dataset.map fun row => second.apply (first.apply row)) := by
  show Except.ok ((dataset.map first.apply).map second.apply) = _
  rw [List.map_map]
  rfl

/-- **Splitting and joining undo each other.** Columns with different names are given, which may be
any, also the source. Splitting a column over them and joining them with the same separator, which
may be empty, succeeds, and writes back every text that has as many parts as there are columns.
Joining as many columns, at least one, by a character and splitting the whole over the given ones
succeeds too, and gives them the texts of the columns in every row where no such text contains the
character. In both, null and a missing cell are the empty text. -/
theorem split_concat_undo {targets : List String} (hdistinct : targets.Nodup) (dataset : Dataset)
    (target : String) :
    (∀ column separator : String, ∃ result,
      Pipeline.apply ⟨[.rows (.split column separator targets),
          .rows (.concat targets separator target)]⟩ dataset = .ok result ∧
        List.Forall₂ (fun row changed =>
          (Text.split separator.toList (row.textIn column).toList).length = targets.length →
            changed.get? target = some (.text (row.textIn column))) dataset result) ∧
      ∀ (columns : List String) (mark : Char), columns ≠ [] → columns.length = targets.length →
        ∃ result,
          Pipeline.apply ⟨[.rows (.concat columns (String.singleton mark) target),
              .rows (.split target (String.singleton mark) targets)]⟩ dataset = .ok result ∧
            List.Forall₂ (fun row changed =>
              (∀ column ∈ columns, mark ∉ (row.textIn column).toList) →
                targets.map changed.get? = columns.map fun column =>
                  some (.text (row.textIn column))) dataset result := by
  constructor
  · intro column separator
    refine ⟨_, apply_two_changes _ _ dataset, Step.forall₂_map_self fun row hlength => ?_⟩
    exact row.get?_concat_split target hdistinct hlength
  · intro columns mark hne hlength
    refine ⟨_, apply_two_changes _ _ dataset, Step.forall₂_map_self fun row hmark => ?_⟩
    exact row.map_get?_split_concat target hdistinct hne hlength hmark

/-- A name of two characters and an age. -/
def shortName : Row := .ofList [("name", .text "Al"), ("age", .number (.ofNat 7))]

/-- The columns that are split over are in use: splitting the name between its characters overwrites
it and the age, and joining them writes it back. Joining the name and a missing column into the age
and splitting the age gives both their texts, the missing one empty. -/
theorem split_concat_undo_shortName :
    ["age", "name"].Nodup ∧
      (∃ changed, Pipeline.apply ⟨[.rows (.split "name" "" ["age", "name"]),
          .rows (.concat ["age", "name"] "" "name")]⟩ [shortName] = .ok [changed] ∧
        changed.get? "name" = some (.text "Al")) ∧
      ∃ changed, Pipeline.apply ⟨[.rows (.concat ["name", "nick"] "," "age"),
          .rows (.split "age" "," ["age", "name"])]⟩ [shortName] = .ok [changed] ∧
        ["age", "name"].map changed.get? = [some (.text "Al"), some (.text "")] := by
  have hdistinct : ["age", "name"].Nodup := by decide
  refine ⟨hdistinct, ?_, ?_⟩
  · obtain ⟨result, hrun, hrows⟩ :=
      (split_concat_undo hdistinct [shortName] "name").1 "name" ""
    obtain ⟨changed, rest, hback, hrest, rfl⟩ := List.forall₂_cons_left_iff.1 hrows
    obtain rfl := List.forall₂_nil_left_iff.1 hrest
    exact ⟨changed, hrun, hback (by decide +kernel)⟩
  · obtain ⟨result, hrun, hrows⟩ :=
      (split_concat_undo hdistinct [shortName] "age").2 ["name", "nick"] ',' (by decide) rfl
    obtain ⟨changed, rest, hback, hrest, rfl⟩ := List.forall₂_cons_left_iff.1 hrows
    obtain rfl := List.forall₂_nil_left_iff.1 hrest
    exact ⟨changed, hrun, hback (by decide +kernel)⟩

end Dashboard
