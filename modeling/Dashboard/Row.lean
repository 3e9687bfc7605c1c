import Dashboard.Cell

/-!
# Row · ordered records of cells

A row is a list of fields with distinct names, in the order in which they were first written.
The order shows in derived tables and in the search for duplicates.

* **`Fields`** holds the operations on lists of fields. Each comes with the lemma that it keeps the
  names distinct, which is what `Row` asks for. Removing and renaming work at the positions of names;
  **`Fields.erase_eq_filter`** and **`Fields.rename_eq_map`** say what comes out among distinct names.
* **`Row`** wraps them: `insert` replaces in place or appends, `erase` removes, `rename` puts the
  value under its new name in the old place.
-/

namespace Dashboard

/-! ## Lists of fields -/

namespace Fields

/-- The names of a list of fields. -/
def keys (fields : List (String × Cell)) : List String := fields.map (·.1)

/-- The cell under a name. -/
def get? (key : String) (fields : List (String × Cell)) : Option Cell := fields.lookup key

/-- Puts a cell under a name: in place if the name is there, else at the end. -/
def insert (key : String) (cell : Cell) : List (String × Cell) → List (String × Cell)
  | [] => [(key, cell)]
  | (k, c) :: rest => if k = key then (k, cell) :: rest else (k, c) :: insert key cell rest

/-- The position of a name. -/
def position? (key : String) (fields : List (String × Cell)) : Option Nat :=
  fields.findIdx? fun f => f.1 = key

/-- Removes a name. -/
def erase (key : String) (fields : List (String × Cell)) : List (String × Cell) :=
  match position? key fields with
  | none => fields
  | some index => fields.eraseIdx index

/-- Puts the cell under `old` under `new`, in its place; another field of that name is removed. -/
def rename (old new : String) (fields : List (String × Cell)) : List (String × Cell) :=
  match position? old fields with
  | none => fields
  | some index =>
    if old = new then fields
    else
      match position? new fields with
      | none => fields.modify index fun f => (new, f.2)
      | some existing =>
        -- the place moves if the field that is removed stands in front of it
        (fields.eraseIdx existing).modify (if existing < index then index - 1 else index)
          fun f => (new, f.2)

/-- Changes the cell under a name, if the name is there. -/
def modify (key : String) (f : Cell → Cell) (fields : List (String × Cell)) :
    List (String × Cell) :=
  fields.map fun field => if field.1 = key then (field.1, f field.2) else field

/-- Sorts fields by name. -/
def sorted (fields : List (String × Cell)) : List (String × Cell) :=
  fields.mergeSort fun a b => (Text.order a.1 b.1).isLE

/-- Changing a cell keeps the names. -/
theorem keys_modify (key : String) (f : Cell → Cell) (fields : List (String × Cell)) :
    keys (modify key f fields) = keys fields := by
  simp only [keys, modify, List.map_map]
  apply List.map_congr_left
  intro field _
  simp only [Function.comp_apply]
  split <;> rfl

/-- After an insertion there are the old names and the inserted one. -/
theorem mem_keys_insert {key k : String} {cell : Cell} {fields : List (String × Cell)} :
    k ∈ keys (insert key cell fields) ↔ k = key ∨ k ∈ keys fields := by
  induction fields with
  | nil => simp [insert, keys]
  | cons field rest ih =>
    obtain ⟨n, c⟩ := field
    simp only [insert]
    by_cases h : n = key
    · simp [h, keys]
    · simp only [h, if_false]
      simp only [keys, List.map_cons, List.mem_cons] at ih ⊢
      rw [ih]
      constructor
      · rintro (h | h | h) <;> simp [h]
      · rintro (h | h | h) <;> simp [h]

/-- Inserting keeps the names distinct. -/
theorem nodup_keys_insert {key : String} {cell : Cell} {fields : List (String × Cell)}
    (h : (keys fields).Nodup) : (keys (insert key cell fields)).Nodup := by
  induction fields with
  | nil => simp [insert, keys]
  | cons field rest ih =>
    obtain ⟨n, c⟩ := field
    have hn : n ∉ keys rest ∧ (keys rest).Nodup := by simpa [keys] using h
    simp only [insert]
    by_cases hk : n = key
    · rw [if_pos hk]
      simpa [keys] using hn
    · rw [if_neg hk]
      have hmem : n ∉ keys (insert key cell rest) := by
        rw [mem_keys_insert]
        rintro (h | h)
        · exact hk h
        · exact hn.1 h
      have := ih hn.2
      simp only [keys, List.map_cons, List.nodup_cons]
      exact ⟨hmem, this⟩

/-- What was inserted is found under its name. -/
theorem get?_insert_self {key : String} {cell : Cell} {fields : List (String × Cell)} :
    get? key (insert key cell fields) = some cell := by
  induction fields with
  | nil => simp [insert, get?]
  | cons field rest ih =>
    obtain ⟨n, c⟩ := field
    simp only [insert]
    by_cases h : n = key
    · simp [h, get?]
    · have hne : (key == n) = false := by simpa using fun heq => h heq.symm
      rw [if_neg h]
      simp only [get?, List.lookup_cons, hne] at ih ⊢
      exact ih

/-- Inserting changes nothing under other names. -/
theorem get?_insert_of_ne {key k : String} {cell : Cell} {fields : List (String × Cell)}
    (h : k ≠ key) : get? k (insert key cell fields) = get? k fields := by
  induction fields with
  | nil =>
    have hne : (k == key) = false := by simpa using h
    simp [insert, get?, List.lookup_cons, hne]
  | cons field rest ih =>
    obtain ⟨n, c⟩ := field
    simp only [insert]
    by_cases hn : n = key
    · have hne : (k == n) = false := by simpa using fun heq => h (heq.trans hn)
      simp only [hn, if_true, get?, List.lookup_cons] at hne ⊢
      simp only [hne]
    · rw [if_neg hn]
      simp only [get?, List.lookup_cons] at ih ⊢
      rw [ih]

/-- The position of a name is that of its first field. -/
theorem position?_cons {key k : String} {cell : Cell} {rest : List (String × Cell)} :
    position? key ((k, cell) :: rest) =
      if k = key then some 0 else (position? key rest).map (· + 1) := by
  simp [position?, List.findIdx?_cons]

/-- A name without a position is not there. -/
theorem position?_eq_none_iff {key : String} {fields : List (String × Cell)} :
    position? key fields = none ↔ key ∉ keys fields := by
  rw [position?, List.findIdx?_eq_none_iff]
  simp only [decide_eq_false_iff_not, keys, List.mem_map, not_exists, not_and]

/-- When a field goes, the others behind it move up. -/
theorem position?_eraseIdx {old new : String} {fields : List (String × Cell)}
    {index existing : Nat} (hne : old ≠ new) (hold : position? old fields = some index)
    (hnew : position? new fields = some existing) :
    position? old (fields.eraseIdx existing) =
      some (if existing < index then index - 1 else index) := by
  induction fields generalizing index existing with
  | nil => cases hold
  | cons field rest ih =>
    obtain ⟨k, c⟩ := field
    rw [position?_cons] at hold hnew
    by_cases hk : k = new
    · rw [if_pos hk] at hnew
      rw [if_neg (hk ▸ hne.symm), Option.map_eq_some_iff] at hold
      obtain ⟨behind, hbehind, rfl⟩ := hold
      obtain rfl := Option.some.inj hnew
      simp [hbehind]
    · rw [if_neg hk, Option.map_eq_some_iff] at hnew
      obtain ⟨place, hplace, rfl⟩ := hnew
      rw [List.eraseIdx_cons_succ, position?_cons]
      by_cases hk' : k = old
      · rw [if_pos hk'] at hold ⊢
        obtain rfl := Option.some.inj hold
        simp
      · rw [if_neg hk', Option.map_eq_some_iff] at hold
        obtain ⟨behind, hbehind, rfl⟩ := hold
        rw [if_neg hk', ih hbehind hplace, Option.map_some]
        congr 1
        split <;> split <;> omega

/-- Removing a name that is not there changes nothing. -/
theorem erase_of_not_mem {key : String} {fields : List (String × Cell)} (h : key ∉ keys fields) :
    erase key fields = fields := by
  rw [erase, position?_eq_none_iff.2 h]

/-- The first field of the name is removed, field by field. -/
theorem erase_cons {key k : String} {cell : Cell} {rest : List (String × Cell)} :
    erase key ((k, cell) :: rest) = if k = key then rest else (k, cell) :: erase key rest := by
  rw [erase, erase, position?_cons]
  by_cases h : k = key
  · simp [h]
  · simp only [h, if_false]
    cases position? key rest <;> rfl

/-- Among distinct names, removing one keeps all fields of other names. -/
theorem erase_eq_filter {key : String} {fields : List (String × Cell)}
    (h : (keys fields).Nodup) : erase key fields = fields.filter fun f => f.1 ≠ key := by
  induction fields with
  | nil => rfl
  | cons field rest ih =>
    obtain ⟨k, c⟩ := field
    have hk : k ∉ keys rest ∧ (keys rest).Nodup := List.nodup_cons.1 h
    rw [erase_cons, List.filter_cons, ← ih hk.2]
    by_cases hkey : k = key
    · rw [hkey, erase_of_not_mem (hkey ▸ hk.1)]
      simp
    · simp [hkey]

/-- Removing keeps the names distinct. -/
theorem nodup_keys_erase {key : String} {fields : List (String × Cell)}
    (h : (keys fields).Nodup) : (keys (erase key fields)).Nodup := by
  rw [erase_eq_filter h]
  exact h.sublist (List.filter_sublist.map _)

/-- Among distinct names, a removed one is gone. -/
theorem not_mem_keys_erase {key : String} {fields : List (String × Cell)}
    (h : (keys fields).Nodup) : key ∉ keys (erase key fields) := by
  rw [erase_eq_filter h]
  simp [keys]

/-- Replacing a name that is not there changes nothing. -/
theorem map_rename_eq_self {old new : String} {fields : List (String × Cell)}
    (h : old ∉ keys fields) :
    (fields.map fun f => if f.1 = old then (new, f.2) else f) = fields := by
  refine (List.map_congr_left fun field hfield => ?_).trans (List.map_id fields)
  rw [if_neg, id_eq]
  rintro rfl
  exact h (List.mem_map_of_mem hfield)

/-- Among distinct names, changing the field in the position of a name changes those of the name. -/
theorem modify_position {old new : String} {fields : List (String × Cell)} {index : Nat}
    (h : (keys fields).Nodup) (hindex : position? old fields = some index) :
    (fields.modify index fun f => (new, f.2)) =
      fields.map fun f => if f.1 = old then (new, f.2) else f := by
  induction fields generalizing index with
  | nil => cases hindex
  | cons field rest ih =>
    obtain ⟨k, c⟩ := field
    have hk : k ∉ keys rest ∧ (keys rest).Nodup := List.nodup_cons.1 h
    rw [position?_cons] at hindex
    by_cases hold : k = old
    · rw [if_pos hold] at hindex
      obtain rfl := Option.some.inj hindex
      rw [List.modify_zero_cons, List.map_cons, map_rename_eq_self (hold ▸ hk.1), if_pos hold]
    · rw [if_neg hold, Option.map_eq_some_iff] at hindex
      obtain ⟨behind, hbehind, rfl⟩ := hindex
      rw [List.modify_succ_cons, List.map_cons, ih hk.2 hbehind, if_neg hold]

/-- Renaming a field that is not there changes nothing. -/
theorem rename_of_not_mem {old new : String} {fields : List (String × Cell)}
    (h : old ∉ keys fields) : rename old new fields = fields := by
  rw [rename, position?_eq_none_iff.2 h]

/-- Giving a field its own name changes nothing. -/
theorem rename_self {name : String} {fields : List (String × Cell)} :
    rename name name fields = fields := by
  rw [rename]
  cases position? name fields with
  | none => rfl
  | some index => exact if_pos rfl

/-- Among distinct names, a field that is there is renamed by removing the new name and replacing
the old one in its place. -/
theorem rename_eq_map {old new : String} {fields : List (String × Cell)}
    (h : (keys fields).Nodup) (hold : old ∈ keys fields) (hne : old ≠ new) :
    rename old new fields =
      (erase new fields).map fun f => if f.1 = old then (new, f.2) else f := by
  cases hindex : position? old fields with
  | none => exact absurd hold (position?_eq_none_iff.1 hindex)
  | some index =>
    simp only [rename, hindex, if_neg hne]
    have herase : (keys (erase new fields)).Nodup := nodup_keys_erase h
    rw [erase] at herase ⊢
    cases hexisting : position? new fields with
    | none => exact modify_position h hindex
    | some existing =>
      rw [hexisting] at herase
      exact modify_position herase (position?_eraseIdx hne hindex hexisting)

/-- Replacing a name by a new one keeps names distinct. -/
theorem nodup_map_replace {old new : String} {names : List String} (h : names.Nodup)
    (hnew : new ∉ names) : (names.map fun n => if n = old then new else n).Nodup := by
  induction names with
  | nil => simp
  | cons n rest ih =>
    simp only [List.nodup_cons, List.mem_cons, not_or] at h hnew
    simp only [List.map_cons, List.nodup_cons]
    refine ⟨?_, ih h.2 hnew.2⟩
    rw [List.mem_map]
    rintro ⟨m, hm, heq⟩
    by_cases hn : n = old
    · by_cases hmo : m = old
      · exact h.1 (hn ▸ hmo ▸ hm)
      · simp only [hmo, if_false, hn, if_true] at heq
        exact hnew.2 (heq ▸ hm)
    · by_cases hmo : m = old
      · simp only [hmo, if_true, hn, if_false] at heq
        exact hnew.1 heq
      · simp only [hmo, if_false, hn] at heq
        exact h.1 (heq ▸ hm)

/-- Renaming keeps the names distinct. -/
theorem nodup_keys_rename {old new : String} {fields : List (String × Cell)}
    (h : (keys fields).Nodup) : (keys (rename old new fields)).Nodup := by
  by_cases hold : old ∈ keys fields
  · by_cases hne : old = new
    · rw [hne, rename_self]
      exact h
    · have hmap : keys ((erase new fields).map fun f => if f.1 = old then (new, f.2) else f) =
          (keys (erase new fields)).map fun n => if n = old then new else n := by
        simp only [keys, List.map_map]
        apply List.map_congr_left
        intro f _
        simp only [Function.comp_apply]
        split <;> rfl
      rw [rename_eq_map h hold hne, hmap]
      exact nodup_map_replace (nodup_keys_erase h) (not_mem_keys_erase h)
  · rw [rename_of_not_mem hold]
    exact h

/-- Sorting keeps the names distinct. -/
theorem nodup_keys_sorted {fields : List (String × Cell)} (h : (keys fields).Nodup) :
    (keys (sorted fields)).Nodup :=
  ((List.mergeSort_perm fields _).map _).nodup_iff.2 h

end Fields

/-! ## Rows -/

/-- A row: fields with distinct names, in order. -/
structure Row where
  /-- The fields in order. -/
  fields : List (String × Cell)
  /-- No name occurs twice. -/
  distinct : (Fields.keys fields).Nodup
deriving DecidableEq

namespace Row

/-- The row without fields. -/
def empty : Row := ⟨[], List.nodup_nil⟩

instance : Inhabited Row := ⟨empty⟩

/-- The cell under a name. -/
def get? (row : Row) (key : String) : Option Cell := Fields.get? key row.fields

/-- The cell under a name, null if there is none. -/
def cell (row : Row) (key : String) : Cell := (row.get? key).getD .null

/-- Whether a name is there. -/
def contains (row : Row) (key : String) : Bool := (row.get? key).isSome

/-- Puts a cell under a name: in place if the name is there, else at the end. -/
def insert (row : Row) (key : String) (cell : Cell) : Row :=
  ⟨Fields.insert key cell row.fields, Fields.nodup_keys_insert row.distinct⟩

/-- Removes a name. -/
def erase (row : Row) (key : String) : Row :=
  ⟨Fields.erase key row.fields, Fields.nodup_keys_erase row.distinct⟩

/-- Puts the cell under `old` under `new`, in its place; another field of that name is removed. -/
def rename (row : Row) (old new : String) : Row :=
  ⟨Fields.rename old new row.fields, Fields.nodup_keys_rename row.distinct⟩

/-- Renames a field and says whether there was one under the old name. -/
def tryRename (row : Row) (old new : String) : Bool × Row :=
  (row.contains old, row.rename old new)

/-- Changes the cell under a name, if the name is there. -/
def modify (row : Row) (key : String) (f : Cell → Cell) : Row :=
  ⟨Fields.modify key f row.fields, by rw [Fields.keys_modify]; exact row.distinct⟩

/-- The same fields sorted by name. -/
def sorted (row : Row) : Row :=
  ⟨Fields.sorted row.fields, Fields.nodup_keys_sorted row.distinct⟩

/-- The row that arises by inserting pairs one after the other. -/
def ofList (pairs : List (String × Cell)) : Row :=
  pairs.foldl (fun row pair => row.insert pair.1 pair.2) empty

/-- A row gives back what was inserted under a name. -/
@[simp] theorem get?_insert_self (row : Row) (key : String) (cell : Cell) :
    (row.insert key cell).get? key = some cell :=
  Fields.get?_insert_self

/-- A row gives back the same under other names than the inserted one. -/
theorem get?_insert_of_ne (row : Row) {key k : String} (cell : Cell) (h : k ≠ key) :
    (row.insert key cell).get? k = row.get? k :=
  Fields.get?_insert_of_ne h

/-- The name at a position. -/
def keyAt? (row : Row) (index : Nat) : Option String := (row.fields[index]?).map (·.1)

/-- The names in order. -/
def keys (row : Row) : List String := Fields.keys row.fields

/-- The cells in order. -/
def cells (row : Row) : List Cell := row.fields.map (·.2)

/-- How many fields there are. -/
def size (row : Row) : Nat := row.fields.length

/-- Whether there are no fields. -/
def isEmpty (row : Row) : Bool := row.fields.isEmpty

/-! ## Documents -/

/-- The document of a row: an object. -/
def toTree (row : Row) : Tree := .object (row.fields.map fun f => (f.1, f.2.toTree))

/-- Decodes a row from the members of an object; a repeated name overwrites in place. -/
def decode? {δ : Type} [Document δ] (d : δ) : Option Row := do
  let members ← Document.members? d
  let pairs ← members.mapM fun (name, m) => (Cell.decode? m).map (name, ·)
  some (ofList pairs)

/-- The JSON text of a row. -/
def toJson (row : Row) : String := row.toTree.compactText

end Row

end Dashboard
