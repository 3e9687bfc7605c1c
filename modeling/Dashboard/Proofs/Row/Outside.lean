import Dashboard.Row

/-!
# Row.Outside · what a change of some fields leaves alone

A row is changed under some names. All other fields keep their cells, none of them comes or goes,
and they stay in their order.

* **`Fields.outside`** are the fields with other names than some. A change under these names keeps
  this list as it is (`Fields.outside_insert`, `Fields.outside_map`, `Fields.outside_rename`).
* **`Row.SameOutside`** says this of two rows, by looking up names and by the order of names.
-/

namespace Dashboard

/-! ## Lists of fields -/

namespace Fields

variable {names : List String} {fields : List (String × Cell)} {key name old new : String}
  {cell : Cell}

/-- The fields whose names are not among some names, in order. -/
def outside (names : List String) (fields : List (String × Cell)) : List (String × Cell) :=
  fields.filter fun field => field.1 ∉ names

/-- The fields outside of some names have the other names. -/
theorem keys_outside : keys (outside names fields) = (keys fields).filter (· ∉ names) := by
  rw [keys, keys, outside, List.filter_map]
  rfl

/-- Other names are found among the other fields. -/
theorem get?_outside (h : name ∉ names) : get? name (outside names fields) = get? name fields := by
  induction fields with
  | nil => rfl
  | cons field rest ih =>
      obtain ⟨k, c⟩ := field
      simp only [outside, get?, List.filter_cons, List.lookup_cons] at ih ⊢
      by_cases hk : k ∈ names
      · have hne : (name == k) = false := by
          rw [beq_eq_false_iff_ne]
          rintro rfl
          exact h hk
        simp only [hk, not_true_eq_false, decide_false, Bool.false_eq_true, if_false, hne, ih]
      · simp only [hk, not_false_eq_true, decide_true, if_true, List.lookup_cons, ih]

/-- Inserting under one of the names changes nothing outside. -/
theorem outside_insert (h : key ∈ names) :
    outside names (insert key cell fields) = outside names fields := by
  induction fields with
  | nil => simp [insert, outside, h]
  | cons field rest ih =>
      obtain ⟨k, c⟩ := field
      rw [insert]
      split
      · rename_i hk
        simp [outside, hk, h]
      · simp only [outside, List.filter_cons] at ih ⊢
        rw [ih]

/-- Removing one of the names changes nothing outside. -/
theorem outside_erase (hnodup : (keys fields).Nodup) (h : key ∈ names) :
    outside names (erase key fields) = outside names fields := by
  rw [outside, erase_eq_filter hnodup, List.filter_filter]
  apply List.filter_congr
  intro field _
  by_cases hfield : field.1 = key
  · simp [hfield, h]
  · simp [hfield]

/-- Fields that are changed one by one, where the changed ones stay inside the names. -/
theorem outside_map {f : String × Cell → String × Cell}
    (hin : ∀ field, field.1 ∈ names → (f field).1 ∈ names)
    (hout : ∀ field, field.1 ∉ names → f field = field) :
    outside names (fields.map f) = outside names fields := by
  induction fields with
  | nil => rfl
  | cons field rest ih =>
      simp only [outside, List.map_cons, List.filter_cons] at ih ⊢
      by_cases hfield : field.1 ∈ names
      · have hchanged := hin field hfield
        simp only [hfield, hchanged, not_true_eq_false, decide_false, Bool.false_eq_true, if_false,
          ih]
      · simp only [hout field hfield, ih]

/-- Changing the cell under one of the names changes nothing outside. -/
theorem outside_modify {f : Cell → Cell} (h : key ∈ names) :
    outside names (modify key f fields) = outside names fields := by
  apply outside_map
  · intro field hfield
    split <;> exact hfield
  · intro field hfield
    rw [if_neg]
    rintro rfl
    exact hfield h

/-- Renaming one of the names to another one changes nothing outside. -/
theorem outside_rename (hnodup : (keys fields).Nodup) (hold : old ∈ names) (hnew : new ∈ names) :
    outside names (rename old new fields) = outside names fields := by
  by_cases hmem : old ∈ keys fields
  · by_cases hne : old = new
    · rw [hne, rename_self]
    · rw [rename_eq_map hnodup hmem hne, ← outside_erase hnodup hnew]
      apply outside_map
      · intro field hfield
        split
        · exact hnew
        · exact hfield
      · intro field hfield
        rw [if_neg]
        rintro rfl
        exact hfield hold
  · rw [rename_of_not_mem hmem]

end Fields

/-! ## Rows -/

namespace Row

variable {names more : List String} {row before after other : Row} {key old new : String}
  {cell : Cell}

/-- The rows have the same fields apart from some names: every other name reads the same, also if it
is missing, and the other names stand in the same order. -/
structure SameOutside (names : List String) (before after : Row) : Prop where
  get?_eq : ∀ name ∉ names, after.get? name = before.get? name
  keys_eq : (after.keys.filter (· ∉ names)) = before.keys.filter (· ∉ names)

/-- Rows with the same fields outside of some names are the same outside. -/
theorem sameOutside_of_outside_eq
    (h : Fields.outside names after.fields = Fields.outside names before.fields) :
    before.SameOutside names after where
  get?_eq name hname := by
    rw [get?, get?, ← Fields.get?_outside hname, h, Fields.get?_outside hname]
  keys_eq := by
    rw [keys, keys, ← Fields.keys_outside, h, Fields.keys_outside]

namespace SameOutside

/-- A row is the same as itself outside of any names. -/
theorem refl (names : List String) (row : Row) : row.SameOutside names row :=
  ⟨fun _ _ => rfl, rfl⟩

/-- Being the same outside of some names is transitive. -/
theorem trans (h : before.SameOutside names after) (h' : after.SameOutside names other) :
    before.SameOutside names other :=
  ⟨fun name hname => (h'.get?_eq name hname).trans (h.get?_eq name hname),
    h'.keys_eq.trans h.keys_eq⟩

/-- Rows that are the same outside some names are so outside more names. -/
theorem mono (h : before.SameOutside names after) (hsubset : names ⊆ more) :
    before.SameOutside more after where
  get?_eq name hname := h.get?_eq name fun hmem => hname (hsubset hmem)
  keys_eq := by
    have hfewer : ∀ row : Row, row.keys.filter (· ∉ more) =
        (row.keys.filter (· ∉ names)).filter (· ∉ more) := by
      intro row
      rw [List.filter_filter]
      apply List.filter_congr
      intro name _
      by_cases hname : name ∈ names
      · simp [hname, hsubset hname]
      · simp [hname]
    rw [hfewer after, h.keys_eq, ← hfewer before]

end SameOutside

/-- Inserting under one of the names keeps a row the same outside. -/
theorem sameOutside_insert (row : Row) (cell : Cell) (h : key ∈ names) :
    row.SameOutside names (row.insert key cell) :=
  sameOutside_of_outside_eq (Fields.outside_insert h)

/-- Removing one of the names keeps a row the same outside. -/
theorem sameOutside_erase (row : Row) (h : key ∈ names) :
    row.SameOutside names (row.erase key) :=
  sameOutside_of_outside_eq (Fields.outside_erase row.distinct h)

/-- Renaming one of the names to another one keeps a row the same outside. -/
theorem sameOutside_rename (row : Row) (hold : old ∈ names) (hnew : new ∈ names) :
    row.SameOutside names (row.rename old new) :=
  sameOutside_of_outside_eq (Fields.outside_rename row.distinct hold hnew)

/-- Changing the cell under one of the names keeps a row the same outside. -/
theorem sameOutside_modify (row : Row) (f : Cell → Cell) (h : key ∈ names) :
    row.SameOutside names (row.modify key f) :=
  sameOutside_of_outside_eq (Fields.outside_modify h)

/-- Changing a cell keeps the names. -/
theorem keys_modify (row : Row) (key : String) (f : Cell → Cell) :
    (row.modify key f).keys = row.keys :=
  Fields.keys_modify key f row.fields

end Row

end Dashboard
