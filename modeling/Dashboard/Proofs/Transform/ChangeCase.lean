import Dashboard.Proofs.Numeral
import Dashboard.Proofs.Row.Modify
import Dashboard.Proofs.Text.Case
import Dashboard.Transform.Step

/-!
# Transform.ChangeCase · changing the case of a column again

A pipeline is run on data that it has already cleaned. Upper and lower case then stay as they are.
A capitalized text changes again if its first character had become several capital letters.

* **`LetterCase.IsFinal`** says which texts keep the form that they are put in
  (`LetterCase.apply_apply_iff`). All texts of cells that are no texts do
  (`LetterCase.isFinal_toText`).
* **`run?_changeCase_twice`**: when the step changes nothing the second time.
-/

namespace Dashboard

/-! ## Texts -/

namespace LetterCase

/-- A text that has this form keeps it. -/
def IsFinal (form : LetterCase) (s : String) : Prop :=
  form = .capitalize → Text.KeepsHead s.toList

/-- A form is kept by its texts exactly if they are final. -/
theorem apply_apply_iff {form : LetterCase} {s : String} :
    form.apply (form.apply s) = form.apply s ↔ form.IsFinal s := by
  cases form with
  | upper => simp [IsFinal, apply, Text.upper_upper]
  | lower => simp [IsFinal, apply, Text.lower_lower]
  | capitalize => simp [IsFinal, apply, String.ofList_inj, Text.capitalize_capitalize_iff]

end LetterCase

/-- A text that begins with an ASCII character is final when capitalized. -/
theorem Text.keepsHead_of_ascii {s : List Char}
    (h : (s.head?.all fun c => decide (c.toNat < 128)) = true) : KeepsHead s := by
  intro c hc x hx
  rw [hc, Option.all_some, decide_eq_true_eq] at h
  rw [upperChar, if_pos h] at hx
  cases hx

/-- Only a text can lose its form. -/
theorem LetterCase.isFinal_toText (form : LetterCase) {cell : Cell}
    (h : ∀ s, cell ≠ .text s) : form.IsFinal cell.toText := by
  intro _
  apply Text.keepsHead_of_ascii
  cases cell with
  | text s => exact absurd rfl (h s)
  | null => rfl
  | bool b => cases b <;> rfl
  | number x =>
      rw [Cell.toText, Binary64.plainText, String.toList_ofList]
      cases x with
      | nan => rfl
      | infinite s => cases s <;> rfl
      | finite s m e hc =>
          rw [Option.all_eq_true]
          intro c hhead
          rw [decide_eq_true_eq]
          have hliteral := (Numeral.plainChars_of_isFinite (x := .finite s m e hc) rfl).2 c
            (List.mem_of_mem_head? hhead)
          simp only [Decimal.occursInLiteral, Bool.or_eq_true, beq_iff_eq] at hliteral
          rcases hliteral with ((((hdigit | rfl) | rfl) | rfl) | rfl) | rfl
          · exact (Char.isDigit_iff_toNat.1 hdigit).2.trans_lt (by decide)
          all_goals decide

/-- Only a text whose form is not final is changed by the second time. -/
theorem Cell.mapText_mapText_iff (form : LetterCase) (cell : Cell) :
    mapText form.apply (mapText form.apply cell) = mapText form.apply cell ↔
      ∀ s, cell = .text s → form.IsFinal s := by
  have hother : (∀ s, cell ≠ .text s) →
      form.apply (form.apply cell.toText) = form.apply cell.toText :=
    fun h => LetterCase.apply_apply_iff.2 (form.isFinal_toText h)
  cases cell with
  | null => simp [mapText]
  | bool b => simpa [mapText, toText] using hother nofun
  | number x => simpa [mapText, toText] using hother nofun
  | text s => simp [mapText, toText, LetterCase.apply_apply_iff]

/-! ## Tables -/

/-- The step changes the texts of a column. -/
theorem run?_changeCase (dataset : Dataset) (column : String) (form : LetterCase) :
    (Step.cells column (.changeCase form)).run? dataset =
      some (dataset.map fun row => row.modify column (Cell.mapText form.apply)) :=
  rfl

/-- **What changing the case a second time changes.** On every dataset the step succeeds, and so it
does on its own result. Upper and lower case are then final, in every cell. A capitalized column
is, exactly if the first character of each of its texts becomes one capital letter, besides
characters without lower case. -/
theorem run?_changeCase_twice (dataset : Dataset) (column : String) (form : LetterCase) :
    ∃ once twice, (Step.cells column (.changeCase form)).run? dataset = some once ∧
      (Step.cells column (.changeCase form)).run? once = some twice ∧
      (twice = once ↔ (form = .capitalize →
        ∀ row ∈ dataset, ∀ s, row.get? column = some (.text s) → Text.KeepsHead s.toList)) := by
  refine ⟨_, _, run?_changeCase dataset column form, run?_changeCase _ column form, ?_⟩
  rw [List.map_map, List.map_inj_left]
  have hrow : ∀ row : Row,
      (row.modify column (Cell.mapText form.apply)).modify column (Cell.mapText form.apply) =
          row.modify column (Cell.mapText form.apply) ↔
        ∀ s, row.get? column = some (.text s) → form.IsFinal s := by
    intro row
    simp only [Row.modify_modify_iff, Cell.mapText_mapText_iff]
    constructor
    · exact fun h s hs => h _ hs s rfl
    · rintro h cell hcell s rfl
      exact h s hcell
  simp only [Function.comp_apply, hrow]
  exact ⟨fun h hform row hmem s hs => h row hmem s hs hform,
    fun h row hmem s hs hform => h hform row hmem s hs⟩

/-- A name that begins with a ligature of two letters. -/
def ligatureName : Dataset := [.ofList [("name", .text "ﬁona")]]

/-- Both letters of the ligature become capitals, and the second one is put in lower case by the
next time. -/
theorem not_final_ligatureName :
    (Step.cells "name" (.changeCase .capitalize)).run? ligatureName =
        some [.ofList [("name", .text "FIona")]] ∧
      (Step.cells "name" (.changeCase .capitalize)).run? [.ofList [("name", .text "FIona")]] =
        some [.ofList [("name", .text "Fiona")]] ∧
      Row.ofList [("name", .text "Fiona")] ≠ .ofList [("name", .text "FIona")] := by
  refine ⟨?_, ?_, ?_⟩ <;> decide +kernel

end Dashboard
