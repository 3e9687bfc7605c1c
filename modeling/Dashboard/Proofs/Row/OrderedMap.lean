import Dashboard.Proofs.Row.Outside
import Mathlib.Data.List.Induction
import Mathlib.Data.List.Nodup

/-!
# Row.OrderedMap · rows as ordered maps

Whatever operations a row comes from, its names are distinct, and the next operation acts on it as
on a map whose entries have an order.

* **`RowEdit`** are the operations that make and change rows. **`RowEdit.runFields`** runs them on
  bare lists of fields, where nothing but the operations keeps names apart
  (`RowEdit.nodup_keys_runFields`); **`RowEdit.run`** runs them on rows.
* **`Fields.rename_append`**: renaming in the midst of other names changes one field in its place.
* **`Row.IsOrderedMap`** says how inserting, removing and renaming act, and
  **`RowEdit.isOrderedMap_run`** that they do so after any operations.
-/

namespace Dashboard

/-! ## Lists of fields -/

namespace Fields

variable {fields before after : List (String × Cell)} {key name old new : String}
  {cell value : Cell}

/-- A name is there exactly if something is found under it. -/
theorem mem_keys_iff_isSome_get? : key ∈ keys fields ↔ (get? key fields).isSome = true := by
  induction fields with
  | nil => simp [keys, get?]
  | cons field rest ih =>
      obtain ⟨k, c⟩ := field
      simp only [keys, get?, List.map_cons, List.mem_cons, List.lookup_cons] at ih ⊢
      by_cases hk : key = k
      · simp [hk]
      · rw [beq_false_of_ne hk, ih]
        simp [hk]

/-- Nothing is found under a name exactly if it is not there. -/
theorem get?_eq_none_iff : get? key fields = none ↔ key ∉ keys fields := by
  rw [mem_keys_iff_isSome_get?, Bool.not_eq_true, Option.isSome_eq_false_iff,
    Option.isNone_iff_eq_none]

/-! ### Inserting and removing -/

/-- A new name is put at the end. -/
theorem insert_of_not_mem (h : key ∉ keys fields) :
    insert key cell fields = fields ++ [(key, cell)] := by
  induction fields with
  | nil => rfl
  | cons field rest ih =>
      obtain ⟨k, c⟩ := field
      simp only [keys, List.map_cons, List.mem_cons, not_or] at h
      rw [insert, if_neg (Ne.symm h.1), ih h.2, List.cons_append]

/-- Inserting under a name that is there keeps the names. -/
theorem keys_insert_of_mem (h : key ∈ keys fields) :
    keys (insert key cell fields) = keys fields := by
  induction fields with
  | nil => cases h
  | cons field rest ih =>
      obtain ⟨k, c⟩ := field
      rw [insert]
      by_cases hk : k = key
      · rw [if_pos hk]
        rfl
      · have hrest : key ∈ keys rest := by
          simp only [keys, List.map_cons, List.mem_cons] at h
          exact h.resolve_left (Ne.symm hk)
        have hkeys := ih hrest
        simp only [keys] at hkeys
        simp only [if_neg hk, keys, List.map_cons, hkeys]

/-- An existing name keeps its position, a new one comes last. -/
theorem keys_insert : keys (insert key cell fields) =
    if key ∈ keys fields then keys fields else keys fields ++ [key] := by
  by_cases h : key ∈ keys fields
  · rw [if_pos h, keys_insert_of_mem h]
  · rw [if_neg h, insert_of_not_mem h, keys, keys, List.map_append]
    rfl

/-- Removing takes the name out of the names. -/
theorem keys_erase (h : (keys fields).Nodup) :
    keys (erase key fields) = (keys fields).erase key := by
  rw [h.erase_eq_filter, keys, keys, erase_eq_filter h, List.filter_map]
  congr 1
  apply List.filter_congr
  intro field _
  by_cases hfield : field.1 = key
  · simp [hfield]
  · simp [hfield]

/-- Removing takes away what was under the name, and nothing else. -/
theorem get?_erase (h : (keys fields).Nodup) :
    get? name (erase key fields) = if name = key then none else get? name fields := by
  by_cases hname : name = key
  · rw [if_pos hname, get?_eq_none_iff, hname]
    exact not_mem_keys_erase h
  · have houtside : outside [key] (erase key fields) = outside [key] fields :=
      outside_erase h List.mem_cons_self
    have hother : name ∉ [key] := by rwa [List.mem_singleton]
    rw [if_neg hname, ← get?_outside hother, houtside, get?_outside hother]

/-- Removing keeps the other names. -/
theorem mem_keys_erase_of_ne (hnodup : (keys fields).Nodup) (h : name ≠ key) :
    name ∈ keys (erase key fields) ↔ name ∈ keys fields := by
  rw [mem_keys_iff_isSome_get?, get?_erase hnodup, if_neg h, mem_keys_iff_isSome_get?]

/-! ### Renaming -/

/-- The names around a field are all but its own. -/
theorem mem_keys_append_cons : key ∈ keys (before ++ (name, value) :: after) ↔
    key = name ∨ key ∈ keys (before ++ after) := by
  simp only [keys, List.map_append, List.map_cons, List.mem_append, List.mem_cons]
  exact or_left_comm

/-- A field is found among others with other names. -/
theorem get?_append_cons (h : key ∉ keys (before ++ after)) :
    get? key (before ++ (key, value) :: after) = some value := by
  induction before with
  | nil => simp [get?]
  | cons field rest ih =>
      obtain ⟨k, c⟩ := field
      simp only [keys, List.cons_append, List.map_cons, List.mem_cons, not_or] at h
      rw [List.cons_append, get?, List.lookup_cons, beq_false_of_ne h.1]
      exact ih h.2

/-- A name that is there stands at one place, with other names around it. -/
theorem exists_append_of_mem (hnodup : (keys fields).Nodup) (h : key ∈ keys fields) :
    ∃ before value after, fields = before ++ (key, value) :: after ∧
      key ∉ keys (before ++ after) := by
  obtain ⟨⟨k, value⟩, hmem, rfl⟩ := List.mem_map.1 h
  obtain ⟨before, after, rfl⟩ := List.append_of_mem hmem
  refine ⟨before, value, after, rfl, ?_⟩
  rw [keys, List.map_append, List.map_cons] at hnodup
  rw [keys, List.map_append]
  exact (List.nodup_middle.1 hnodup).notMem

/-- Among other names, renaming changes one field in its place. -/
theorem rename_append (hnodup : (keys (before ++ (old, value) :: after)).Nodup) (hne : old ≠ new)
    (hold : old ∉ keys (before ++ after)) (hnew : new ∉ keys (before ++ after)) :
    rename old new (before ++ (old, value) :: after) = before ++ (new, value) :: after := by
  have hmem : old ∈ keys (before ++ (old, value) :: after) := mem_keys_append_cons.2 (.inl rfl)
  have hnew' : new ∉ keys (before ++ (old, value) :: after) :=
    mt mem_keys_append_cons.1 (not_or.2 ⟨hne.symm, hnew⟩)
  rw [keys, List.map_append, List.mem_append, not_or] at hold
  rw [rename_eq_map hnodup hmem hne, erase_of_not_mem hnew', List.map_append, List.map_cons,
    map_rename_eq_self hold.1, map_rename_eq_self hold.2, if_pos rfl]

/-- Another field under the new name goes first. -/
theorem rename_eq_rename_erase (hnodup : (keys fields).Nodup) (hold : old ∈ keys fields)
    (hne : old ≠ new) : rename old new fields = rename old new (erase new fields) := by
  have hold' : old ∈ keys (erase new fields) := (mem_keys_erase_of_ne hnodup hne).2 hold
  rw [rename_eq_map hnodup hold hne, rename_eq_map (nodup_keys_erase hnodup) hold' hne,
    erase_of_not_mem (not_mem_keys_erase hnodup)]

/-! ### Collecting -/

/-- The fields that arise by inserting pairs one after the other. -/
def collect (pairs : List (String × Cell)) : List (String × Cell) :=
  pairs.foldl (fun fields pair => insert pair.1 pair.2 fields) []

/-- What is collected has distinct names. -/
theorem nodup_keys_collect (pairs : List (String × Cell)) : (keys (collect pairs)).Nodup := by
  induction pairs using List.reverseRecOn with
  | nil => exact List.nodup_nil
  | append_singleton pairs pair ih =>
      rw [collect, List.foldl_append]
      exact nodup_keys_insert ih

/-- Pairs with distinct names are collected as they are. -/
theorem collect_of_nodup {pairs : List (String × Cell)} (h : (keys pairs).Nodup) :
    collect pairs = pairs := by
  induction pairs using List.reverseRecOn with
  | nil => rfl
  | append_singleton pairs pair ih =>
      obtain ⟨key, cell⟩ := pair
      have hkeys : key ∉ keys pairs ∧ (keys pairs).Nodup := by
        rw [keys, List.map_append, List.map_singleton, ← List.concat_eq_append,
          List.nodup_concat] at h
        exact h
      rw [collect, List.foldl_append, ← collect, ih hkeys.2]
      exact insert_of_not_mem hkeys.1

/-- The pairs that the members of a document write. -/
def pairs? {δ : Type} [Document δ] (d : δ) : Option (List (String × Cell)) :=
  (Document.members? d).bind fun members =>
    members.mapM fun (name, m) => (Cell.decode? m).map (name, ·)

end Fields

/-! ## Operations -/

/-- The operations that make and change rows. -/
inductive RowEdit where
  | insert (key : String) (cell : Cell)
  | erase (key : String)
  | rename (old new : String)
  | sort
  /-- Starts anew from pairs. -/
  | collect (pairs : List (String × Cell))
  /-- Starts anew from a document that writes a row. -/
  | decode {δ : Type} [Document δ] (document : δ)

namespace RowEdit

/-- The operation on a row. -/
def apply : RowEdit → Row → Row
  | .insert key cell, row => row.insert key cell
  | .erase key, row => row.erase key
  | .rename old new, row => (row.tryRename old new).2
  | .sort, row => row.sorted
  | .collect pairs, _ => .ofList pairs
  | @decode _ _ document, row => (Row.decode? document).getD row

/-- The operation on a bare list of fields. -/
def applyFields : RowEdit → List (String × Cell) → List (String × Cell)
  | .insert key cell, fields => Fields.insert key cell fields
  | .erase key, fields => Fields.erase key fields
  | .rename old new, fields => Fields.rename old new fields
  | .sort, fields => Fields.sorted fields
  | .collect pairs, _ => Fields.collect pairs
  | @decode _ _ document, fields => ((Fields.pairs? document).map Fields.collect).getD fields

/-- The row after some operations, from the empty one. -/
def run (edits : List RowEdit) : Row := edits.foldl (fun row edit => edit.apply row) .empty

/-- The fields after some operations, from none. -/
def runFields (edits : List RowEdit) : List (String × Cell) :=
  edits.foldl (fun fields edit => edit.applyFields fields) []

end RowEdit

/-- A row of pairs has the collected fields. -/
theorem Row.fields_ofList (pairs : List (String × Cell)) :
    (Row.ofList pairs).fields = Fields.collect pairs := by
  induction pairs using List.reverseRecOn with
  | nil => rfl
  | append_singleton pairs pair ih =>
      rw [Row.ofList, Fields.collect, List.foldl_append, List.foldl_append, ← Fields.collect, ← ih]
      rfl

/-- A document is decoded to the row of its pairs. -/
theorem Row.decode?_eq_map_pairs? {δ : Type} [Document δ] (d : δ) :
    Row.decode? d = (Fields.pairs? d).map Row.ofList := by
  unfold Row.decode? Fields.pairs?
  cases Document.members? d with
  | none => rfl
  | some members => exact (Option.map_eq_bind ..).symm

namespace RowEdit

/-- Each operation keeps the names distinct. -/
theorem nodup_keys_applyFields (edit : RowEdit) {fields : List (String × Cell)}
    (h : (Fields.keys fields).Nodup) : (Fields.keys (edit.applyFields fields)).Nodup := by
  cases edit with
  | insert key cell => exact Fields.nodup_keys_insert h
  | erase key => exact Fields.nodup_keys_erase h
  | rename old new => exact Fields.nodup_keys_rename h
  | sort => exact Fields.nodup_keys_sorted h
  | collect pairs => exact Fields.nodup_keys_collect pairs
  | decode document =>
      rw [applyFields]
      cases Fields.pairs? document with
      | none => exact h
      | some pairs => exact Fields.nodup_keys_collect pairs

/-- So the names are distinct after any operations. -/
theorem nodup_keys_runFields (edits : List RowEdit) : (Fields.keys (runFields edits)).Nodup := by
  induction edits using List.reverseRecOn with
  | nil => exact List.nodup_nil
  | append_singleton edits edit ih =>
      rw [runFields, List.foldl_append]
      exact edit.nodup_keys_applyFields ih

/-- An operation acts on a row as on its fields. -/
theorem fields_apply (edit : RowEdit) (row : Row) :
    (edit.apply row).fields = edit.applyFields row.fields := by
  cases edit with
  | insert | erase | rename | sort => rfl
  | collect pairs => exact Row.fields_ofList pairs
  | decode document =>
      rw [apply, applyFields, Row.decode?_eq_map_pairs?]
      cases Fields.pairs? document with
      | none => rfl
      | some pairs => exact Row.fields_ofList pairs

/-- Operations in turn act on rows as on their fields. -/
theorem fields_run (edits : List RowEdit) : (run edits).fields = runFields edits := by
  induction edits using List.reverseRecOn with
  | nil => rfl
  | append_singleton edits edit ih =>
      rw [run, runFields, List.foldl_append, List.foldl_append, ← runFields, ← ih]
      exact fields_apply edit _

end RowEdit

/-! ## Rows -/

namespace Row

variable {row : Row} {old new : String}

/-- Rows with the same fields are equal. -/
theorem eq_of_fields_eq {a b : Row} (h : a.fields = b.fields) : a = b := by
  cases a
  cases b
  cases h
  rfl

/-- A row contains the names of its fields. -/
theorem contains_iff_mem_keys {key : String} : row.contains key = true ↔ key ∈ row.keys :=
  Fields.mem_keys_iff_isSome_get?.symm

/-- Renaming takes the field from its place among the fields without the new name, and puts it back
there under the new name. -/
theorem exists_rename (hold : old ∈ row.keys) (hne : old ≠ new) :
    ∃ before value after, row.get? old = some value ∧
      (row.erase new).fields = before ++ (old, value) :: after ∧
      (row.rename old new).fields = before ++ (new, value) :: after ∧
      old ∉ Fields.keys (before ++ after) ∧ new ∉ Fields.keys (before ++ after) := by
  have hmem : old ∈ (row.erase new).keys := (Fields.mem_keys_erase_of_ne row.distinct hne).2 hold
  obtain ⟨before, value, after, herase, hold'⟩ :=
    Fields.exists_append_of_mem (row.erase new).distinct hmem
  have hnew : new ∉ Fields.keys (before ++ (old, value) :: after) :=
    herase ▸ Fields.not_mem_keys_erase row.distinct
  have hnew' : new ∉ Fields.keys (before ++ after) :=
    fun hmem => hnew (Fields.mem_keys_append_cons.2 (.inr hmem))
  have hvalue : row.get? old = some value := by
    rw [← Fields.get?_append_cons hold', ← herase]
    exact ((Fields.get?_erase row.distinct).trans (if_neg hne)).symm
  refine ⟨before, value, after, hvalue, herase, ?_, hold', hnew'⟩
  calc (row.rename old new).fields = Fields.rename old new (row.erase new).fields :=
        Fields.rename_eq_rename_erase row.distinct hold hne
    _ = before ++ (new, value) :: after := by
        have hdistinct := (row.erase new).distinct
        rw [herase] at hdistinct ⊢
        exact Fields.rename_append hdistinct hne hold' hnew'

/-- Renaming moves what is under the old name to the new one, and nothing else. -/
theorem get?_rename (hold : old ∈ row.keys) (hne : old ≠ new) (name : String) :
    (row.rename old new).get? name =
      if name = new then row.get? old else if name = old then none else row.get? name := by
  obtain ⟨before, value, after, hvalue, -, hrename, hold', hnew⟩ := exists_rename hold hne
  by_cases hname : name = new
  · rw [if_pos hname, hname, hvalue, get?, hrename, Fields.get?_append_cons hnew]
  · rw [if_neg hname]
    by_cases hname' : name = old
    · rw [if_pos hname', hname', get?, hrename, Fields.get?_eq_none_iff,
        Fields.mem_keys_append_cons]
      exact not_or.2 ⟨hne, hold'⟩
    · have hsame : row.SameOutside [old, new] (row.rename old new) :=
        row.sameOutside_rename List.mem_cons_self (List.mem_cons_of_mem _ List.mem_cons_self)
      rw [if_neg hname']
      exact hsame.get?_eq name (by simp [hname, hname'])

/-- The way back goes through the same place, with the names exchanged. -/
theorem rename_rename (hold : old ∈ row.keys) (hnew : new ∉ row.keys) :
    (row.rename old new).rename new old = row := by
  have hne : old ≠ new := fun heq => hnew (heq ▸ hold)
  obtain ⟨before, value, after, -, herase, hrename, hold', hnew'⟩ := exists_rename hold hne
  apply eq_of_fields_eq
  calc ((row.rename old new).rename new old).fields =
        Fields.rename new old (before ++ (new, value) :: after) :=
          congrArg (Fields.rename new old) hrename
    _ = before ++ (old, value) :: after :=
          Fields.rename_append (hrename ▸ (row.rename old new).distinct) hne.symm hnew' hold'
    _ = (row.erase new).fields := herase.symm
    _ = row.fields := Fields.erase_of_not_mem hnew

/-- A name that is there is renamed. -/
theorem tryRename_of_mem (hold : old ∈ row.keys) :
    row.tryRename old new = (true, row.rename old new) := by
  rw [tryRename, contains_iff_mem_keys.2 hold]

/-- If the name is not there, the row stays as it is. -/
theorem tryRename_of_not_mem (hold : old ∉ row.keys) : row.tryRename old new = (false, row) := by
  have hcontains : row.contains old = false := by
    rw [← Bool.not_eq_true, contains_iff_mem_keys]
    exact hold
  have hrename : row.rename old new = row := eq_of_fields_eq (Fields.rename_of_not_mem hold)
  rw [tryRename, hcontains, hrename]

/-- The operations act on the row as on a map whose entries have an order. -/
structure IsOrderedMap (row : Row) : Prop where
  get?_insert : ∀ key cell name,
    (row.insert key cell).get? name = if name = key then some cell else row.get? name
  keys_insert : ∀ key cell,
    (row.insert key cell).keys = if key ∈ row.keys then row.keys else row.keys ++ [key]
  get?_erase : ∀ key name,
    (row.erase key).get? name = if name = key then none else row.get? name
  keys_erase : ∀ key, (row.erase key).keys = row.keys.erase key
  get?_rename : ∀ old new, old ∈ row.keys → old ≠ new → ∀ name,
    (row.tryRename old new).2.get? name =
      if name = new then row.get? old else if name = old then none else row.get? name
  /-- The renamed field stands where it stood among the fields that are left. -/
  fields_rename : ∀ old new, old ∈ row.keys → old ≠ new →
    (row.tryRename old new).1 = true ∧ ∃ before value after,
      (row.erase new).fields = before ++ (old, value) :: after ∧
      (row.tryRename old new).2.fields = before ++ (new, value) :: after
  rename_rename : ∀ old new, old ∈ row.keys → new ∉ row.keys →
    ((row.tryRename old new).2.tryRename new old).2 = row
  rename_of_not_mem : ∀ old new, old ∉ row.keys → row.tryRename old new = (false, row)

/-- Every row is an ordered map. -/
theorem isOrderedMap (row : Row) : row.IsOrderedMap where
  get?_insert key cell name := by
    by_cases hname : name = key
    · rw [if_pos hname, hname, get?_insert_self]
    · rw [if_neg hname, get?_insert_of_ne row cell hname]
  keys_insert key cell := Fields.keys_insert
  get?_erase key name := Fields.get?_erase row.distinct
  keys_erase key := Fields.keys_erase row.distinct
  get?_rename old new hold hne name := get?_rename hold hne name
  fields_rename old new hold hne := by
    obtain ⟨before, value, after, -, herase, hrename, -, -⟩ := exists_rename hold hne
    rw [tryRename_of_mem hold]
    exact ⟨rfl, before, value, after, herase, hrename⟩
  rename_rename old new hold hnew := rename_rename hold hnew
  rename_of_not_mem old new hold := tryRename_of_not_mem hold

end Row

/-- **Rows are ordered maps in every reachable state.** After any operations from the empty row the
names are pairwise distinct, also where the operations work on bare lists of fields, and the next
operation acts as on a map whose entries have an order. -/
theorem RowEdit.isOrderedMap_run (edits : List RowEdit) :
    (runFields edits).Pairwise (·.1 ≠ ·.1) ∧ (run edits).fields = runFields edits ∧
      (run edits).IsOrderedMap :=
  ⟨List.pairwise_map.1 (nodup_keys_runFields edits), fields_run edits, (run edits).isOrderedMap⟩

/-- A field that gives way to a renamed one frees its place, also in front of it. -/
example : (Row.ofList [("a", .null), ("b", .text "x"), ("c", .bool true)]).tryRename "c" "a" =
    (true, .ofList [("b", .text "x"), ("a", .bool true)]) := by
  decide +kernel

end Dashboard
