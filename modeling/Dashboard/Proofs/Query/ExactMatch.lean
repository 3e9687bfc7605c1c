import Dashboard.Proofs.Query.FilterChain
import Dashboard.Proofs.Text.Lower

/-!
# Query.ExactMatch · texts that stand in a cell as they are

Three tests look for a text anywhere in a cell, and one at its beginning. They compare lower case
forms, so that case does not matter. A text that stands in a cell as it is should be found all the
more, but a capital sigma at the end of a word has a lower case form of its own.

* **`contains_iff`**, **`startsWith_iff`**, **`accepts_text_iff`**, **`searchFinds_iff`**: what the
  tests compare.
* **`exactMatches_found_iff`**: the texts that are found wherever they stand are those in which the
  forms of all capital sigmas are decided; and every text is found where it does not stand within a
  longer word.
* **`not_found_pascha`**: the first letters of a word in capitals are not found in the word.
-/

namespace Dashboard

variable {needle : String} {cell : Cell}

/-! ## What the tests compare -/

/-- The operator looks for the lower case forms within each other. -/
theorem contains_iff : Operator.contains.test cell (.scalar (.text needle)) = true ↔
    Text.lower needle.toList <:+: Text.lower cell.chars :=
  Text.occurs_iff

/-- The operator looks for the lower case form at the head. -/
theorem startsWith_iff : Operator.startsWith.test cell (.scalar (.text needle)) = true ↔
    Text.lower needle.toList <+: Text.lower cell.chars :=
  List.isPrefixOf_iff_prefix

/-- A live text looks for its lower case form, unless it asks for all. -/
theorem accepts_text_iff : (LiveValue.text needle).accepts cell = true ↔
    needle = LiveValue.allWord ∨ Text.lower needle.toList <:+: Text.lower cell.chars := by
  rw [LiveValue.accepts, Bool.or_eq_true, Bool.or_eq_true, Text.occurs_iff, String.isEmpty_iff,
    beq_iff_eq]
  constructor
  · rintro ((rfl | hall) | hwithin)
    · exact .inr List.nil_infix
    · exact .inl hall
    · exact .inr hwithin
  · rintro (hall | hwithin)
    · exact .inl (.inr hall)
    · exact .inr hwithin

/-- A search for the text, whatever else is filtered by, keeps every row with the cell. -/
def SearchFinds (needle : String) (cell : Cell) : Prop :=
  ∀ (state : GlobalFilter) (dataset : Dataset), state.search = needle →
    ∀ row ∈ dataset, cell ∈ row.cells → row ∈ state.keepFound dataset

/-- To find in the rows that are passed over is to accept each row. -/
theorem searchFinds_iff_accepts : SearchFinds needle cell ↔
    ∀ (state : GlobalFilter) (row : Row), state.search = needle → cell ∈ row.cells →
      state.acceptsSearch row = true := by
  simp only [SearchFinds, GlobalFilter.keepFound_eq_filter, List.mem_filter]
  constructor
  · intro h state row hsearch hcell
    exact (h state [row] hsearch row List.mem_cons_self hcell).2
  · intro h state dataset hsearch row hrow hcell
    exact ⟨hrow, h state row hsearch hcell⟩

/-- The search looks for the lower case form. -/
theorem searchFinds_iff :
    SearchFinds needle cell ↔ Text.lower needle.toList <:+: Text.lower cell.chars := by
  rw [searchFinds_iff_accepts]
  constructor
  · intro h
    by_cases hneedle : needle = ""
    · subst hneedle
      exact List.nil_infix
    · have hrow : (Row.ofList [("", cell)]).cells = [cell] := rfl
      have hfound := h ⟨needle, [], none⟩ (.ofList [("", cell)]) rfl (hrow ▸ List.mem_cons_self)
      rw [GlobalFilter.acceptsSearch_iff, hrow] at hfound
      obtain ⟨found, hmem, hwithin⟩ := hfound hneedle
      rwa [List.mem_singleton.1 hmem] at hwithin
  · rintro h state row rfl hcell
    exact GlobalFilter.acceptsSearch_iff.2 fun _ => ⟨cell, hcell, h⟩

/-! ## Exact matches -/

/-- Whatever holds of the texts of all cells holds of all texts. -/
theorem forall_chars_iff {p : List Char → Prop} : (∀ cell : Cell, p cell.chars) ↔ ∀ t, p t := by
  constructor
  · intro h t
    have ht : (Cell.text (String.ofList t)).chars = t := String.toList_ofList
    exact ht ▸ h (.text (String.ofList t))
  · intro h cell
    exact h cell.chars

/-- **Exact matches are found if no capital sigma is open.** The operator `contains`, the live value
of a text field and the search find a text in every cell in which it stands exactly if the text
neither begins nor ends with a capital sigma whose form is decided outside of the text; and the
operator `starts_with` finds it at the beginning of every cell that begins with it exactly if it
does not end so. Where the text does not stand within a longer word, every text is found. -/
theorem exactMatches_found_iff (needle : String) :
    ((∀ cell : Cell, needle.toList <:+: cell.chars →
        Operator.contains.test cell (.scalar (.text needle)) = true) ↔
      Text.IsClosed needle.toList) ∧
    ((∀ cell : Cell, needle.toList <:+: cell.chars → (LiveValue.text needle).accepts cell = true) ↔
      Text.IsClosed needle.toList) ∧
    ((∀ cell : Cell, needle.toList <:+: cell.chars → SearchFinds needle cell) ↔
      Text.IsClosed needle.toList) ∧
    ((∀ cell : Cell, needle.toList <+: cell.chars →
        Operator.startsWith.test cell (.scalar (.text needle)) = true) ↔
      ¬Text.EndsOpen needle.toList) ∧
    ∀ (cell : Cell) (before after : List Char), cell.chars = before ++ needle.toList ++ after →
      Text.casedNext before.reverse = false → Text.casedNext after = false →
      Operator.contains.test cell (.scalar (.text needle)) = true ∧
        (LiveValue.text needle).accepts cell = true ∧ SearchFinds needle cell ∧
        (before = [] → Operator.startsWith.test cell (.scalar (.text needle)) = true) := by
  have hwithin := Text.forall_lower_infix_iff (s := needle.toList)
  have hstart := Text.forall_lower_prefix_iff (s := needle.toList)
  rw [← forall_chars_iff] at hwithin hstart
  simp only [contains_iff, startsWith_iff, accepts_text_iff, searchFinds_iff]
  refine ⟨hwithin, ?_, hwithin, hstart, ?_⟩
  · by_cases hall : needle = LiveValue.allWord
    · have hclosed : Text.IsClosed needle.toList :=
        Text.isClosed_of_not_mem (hall ▸ by decide +kernel)
      simp only [hall, true_or, implies_true, true_iff]
      exact hall ▸ hclosed
    · simp only [hall, false_or]
      exact hwithin
  · intro cell before after hcell hbefore hafter
    have hfound := Text.lower_infix_of_keepsSigmas
      (Text.keepsSigmas_of_free (s := needle.toList) hbefore hafter)
    rw [← hcell] at hfound
    refine ⟨hfound, .inr hfound, hfound, ?_⟩
    rintro rfl
    rw [hcell, List.nil_append]
    exact Text.lower_prefix_append_iff.2 (Text.keepsSigmas_of_free rfl hafter)

/-- The first three letters of a word stand in it as they are, and are not found by any test: alone
they end in a final sigma. -/
theorem not_found_pascha :
    "ΠΑΣ".toList <+: (Cell.text "ΠΑΣΧΑ").chars ∧
      Operator.contains.test (.text "ΠΑΣΧΑ") (.scalar (.text "ΠΑΣ")) = false ∧
      (LiveValue.text "ΠΑΣ").accepts (.text "ΠΑΣΧΑ") = false ∧
      ¬SearchFinds "ΠΑΣ" (.text "ΠΑΣΧΑ") ∧
      Operator.startsWith.test (.text "ΠΑΣΧΑ") (.scalar (.text "ΠΑΣ")) = false := by
  refine ⟨by decide +kernel, by decide +kernel, by decide +kernel, ?_, by decide +kernel⟩
  rw [searchFinds_iff]
  decide +kernel

end Dashboard
