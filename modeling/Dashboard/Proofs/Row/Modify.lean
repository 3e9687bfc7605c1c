import Dashboard.Proofs.Row.OrderedMap

/-!
# Row.Modify · changes of a column in place

A change of a column acts on one cell of a row, if the row has the column at all. So changes of one
column compose like functions on cells, and changes of different columns do not see each other.

* **`Fields.modify_modify`**, **`Fields.modify_eq_modify_iff`**: changes of one column after each
  other, and when two changes of a column give the same row.
* **`Fields.modify_comm`**: changes of different columns in either order.
* **`Row.cell_modify`**: what is read in the column afterwards.
-/

namespace Dashboard

namespace Fields

variable {key other : String} {f g : Cell → Cell} {fields : List (String × Cell)}

/-- Two changes of one field are one change. -/
theorem modify_modify (key : String) (f g : Cell → Cell) (fields : List (String × Cell)) :
    modify key g (modify key f fields) = modify key (g ∘ f) fields := by
  rw [modify, modify, modify, List.map_map]
  apply List.map_congr_left
  intro field _
  by_cases hkey : field.1 = key <;> simp [hkey]

/-- Changes of different columns may be exchanged. -/
theorem modify_comm (h : key ≠ other) :
    modify other g (modify key f fields) = modify key f (modify other g fields) := by
  rw [modify, modify, modify, modify, List.map_map, List.map_map]
  apply List.map_congr_left
  intro field _
  by_cases hkey : field.1 = key
  · simp [hkey, h]
  · by_cases hother : field.1 = other <;> simp [hkey, hother, h.symm]

/-- Changing a field that is not there changes nothing. -/
theorem modify_of_not_mem (h : key ∉ keys fields) : modify key f fields = fields := by
  have hid : ∀ field ∈ fields, (if field.1 = key then (field.1, f field.2) else field) = field := by
    intro field hfield
    rw [if_neg]
    rintro rfl
    exact h (List.mem_map_of_mem hfield)
  rw [modify, List.map_congr_left hid, List.map_id']

/-- Two changes of a column give the same fields if they agree on its cell. -/
theorem modify_eq_modify_iff (hnodup : (keys fields).Nodup) :
    modify key f fields = modify key g fields ↔ ∀ cell ∈ get? key fields, f cell = g cell := by
  induction fields with
  | nil => simp [modify, get?]
  | cons field rest ih =>
      obtain ⟨name, cell⟩ := field
      obtain ⟨hname, hrest⟩ := List.nodup_cons.1 hnodup
      simp only [modify, get?, List.map_cons, List.lookup_cons] at ih ⊢
      by_cases hkey : name = key
      · have hf := modify_of_not_mem (f := f) (hkey ▸ hname)
        have hg := modify_of_not_mem (f := g) (hkey ▸ hname)
        simp only [modify] at hf hg
        simp [hkey, hf, hg]
      · have hne : (key == name) = false := by simpa using fun heq => hkey heq.symm
        simp [hkey, hne, ih hrest]

/-- The cell under the name is changed. -/
theorem get?_modify_self (key : String) (f : Cell → Cell) (fields : List (String × Cell)) :
    get? key (modify key f fields) = (get? key fields).map f := by
  induction fields with
  | nil => rfl
  | cons field rest ih =>
      obtain ⟨name, cell⟩ := field
      simp only [get?, modify, List.map_cons, List.lookup_cons] at ih ⊢
      by_cases hname : name = key
      · simp [hname]
      · have hne : (key == name) = false := by simpa using fun heq => hname heq.symm
        simp only [if_neg hname, List.lookup_cons, hne]
        exact ih

end Fields

namespace Row

variable {column other : String} {f g : Cell → Cell}

/-- Two changes of one column are one change. -/
theorem modify_modify (row : Row) (column : String) (f g : Cell → Cell) :
    (row.modify column f).modify column g = row.modify column (g ∘ f) :=
  eq_of_fields_eq (Fields.modify_modify column f g row.fields)

/-- Changes of two columns can be exchanged. -/
theorem modify_comm (row : Row) (h : column ≠ other) :
    (row.modify column f).modify other g = (row.modify other g).modify column f :=
  eq_of_fields_eq (Fields.modify_comm h)

/-- Changes of a column come to the same exactly if they do on its cell. -/
theorem modify_eq_modify_iff (row : Row) :
    row.modify column f = row.modify column g ↔ ∀ cell ∈ row.get? column, f cell = g cell := by
  have hfields : Fields.modify column f row.fields = Fields.modify column g row.fields ↔
      ∀ cell ∈ row.get? column, f cell = g cell := Fields.modify_eq_modify_iff row.distinct
  exact ⟨fun h => hfields.1 (congrArg Row.fields h), fun h => eq_of_fields_eq (hfields.2 h)⟩

/-- A change of a column changes nothing the second time if its cell is final. -/
theorem modify_modify_iff (row : Row) (column : String) (f : Cell → Cell) :
    (row.modify column f).modify column f = row.modify column f ↔
      ∀ cell ∈ row.get? column, f (f cell) = f cell := by
  rw [modify_modify, modify_eq_modify_iff]
  rfl

/-- A change that leaves the cell as it is changes nothing. -/
theorem modify_eq_self (row : Row) (h : ∀ cell ∈ row.get? column, f cell = cell) :
    row.modify column f = row := by
  have hid : row.modify column id = row := by
    apply eq_of_fields_eq
    simp [modify, Fields.modify]
  exact ((modify_eq_modify_iff row).2 h).trans hid

/-- A change that leaves null alone is seen in the column also where there is no field. -/
theorem cell_modify (row : Row) (column : String) {f : Cell → Cell} (h : f .null = .null) :
    (row.modify column f).cell column = f (row.cell column) := by
  rw [cell, cell, get?, modify, Fields.get?_modify_self, ← get?]
  cases row.get? column with
  | none => exact h.symm
  | some cell => rfl

end Row

end Dashboard
