import Dashboard.Proofs.Query.Comparison
import Dashboard.Proofs.Row.ReadBack

/-!
# Row.Likeness · rows with the same JSON text

The JSON text of a row reads back as a row, so rows with the same text are nearly equal. Nearly: the
text has no form for a number that is not finite, which is written as null.

* **`Cell.Identical`**: the same kind and the same value, where a not-a-number is itself and both
  zeros are one. **`Cell.LooksAlike`**: identical, or written as null both.
* **`Row.ofJson?_bind_toJson`**: what a row reads back as (`Row.jsonForm`).
* **`Row.toJson_eq_iff`**: rows have the same text exactly if they have the same names in order with
  cells that look alike; **`Row.toJson_sorted_eq_iff`**: sorted rows, exactly if this holds name by
  name in any order.
-/

namespace Dashboard

open Dashboard.Tree (compactMember)

/-! ## Numbers -/

namespace Binary64

variable {x y : Binary64}

/-- Numbers other than zero are negative if their levels are. -/
theorem negative_iff_level_neg (h : x.isZero = false) : x.negative = true ↔ x.level < 0 := by
  have hne : x.magnitude ≠ 0 := by simpa [isZero] using h
  unfold level
  cases x.negative with
  | true =>
      simp only [if_true, true_iff]
      omega
  | false => simp

/-- Dropping the sign of zero keeps the level. -/
theorem level_dropZeroSign (x : Binary64) : x.dropZeroSign.level = x.level := by
  cases hzero : x.isZero with
  | true =>
      rw [dropZeroSign_of_isZero hzero, level_eq_zero_iff.2 (eq_of_beq hzero)]
      rfl
  | false => rw [dropZeroSign_of_not_isZero hzero]

/-- The sign of zero is dropped once. -/
theorem dropZeroSign_dropZeroSign (x : Binary64) :
    x.dropZeroSign.dropZeroSign = x.dropZeroSign := by
  cases hzero : x.isZero with
  | true =>
      rw [dropZeroSign_of_isZero hzero]
      exact dropZeroSign_of_isZero rfl
  | false => rw [dropZeroSign_of_not_isZero hzero, dropZeroSign_of_not_isZero hzero]

/-- Numbers have the same value exactly if they are the same but for the sign of zero. -/
theorem same_iff_dropZeroSign_eq (hx : x.isNaN = false) (hy : y.isNaN = false) :
    x.same y = true ↔ x.dropZeroSign = y.dropZeroSign := by
  constructor
  · intro hsame
    obtain ⟨-, hlevel⟩ := same_iff_level_eq.1 hsame
    have hmagnitude : x.magnitude = y.magnitude := by
      rw [← natAbs_level x, ← natAbs_level y, hlevel]
    have hzero : x.isZero = y.isZero := by rw [isZero, isZero, hmagnitude]
    cases hx0 : x.isZero with
    | true => rw [dropZeroSign_of_isZero hx0, dropZeroSign_of_isZero (hzero ▸ hx0)]
    | false =>
        have hy0 : y.isZero = false := hzero ▸ hx0
        have hsign : x.negative = y.negative := by
          rw [Bool.eq_iff_iff, negative_iff_level_neg hx0, negative_iff_level_neg hy0, hlevel]
        rw [dropZeroSign_of_not_isZero hx0, dropZeroSign_of_not_isZero hy0]
        exact eq_of_magnitude_eq hsign hmagnitude
  · intro hdrop
    refine same_iff_level_eq.2 ⟨⟨hx, hy⟩, ?_⟩
    rw [← level_dropZeroSign x, hdrop, level_dropZeroSign]

/-- Both zeros are printed in the same way. -/
theorem plainChars_dropZeroSign (x : Binary64) : x.dropZeroSign.plainChars = x.plainChars := by
  cases hzero : x.isZero with
  | false => rw [dropZeroSign_of_not_isZero hzero]
  | true =>
      rw [dropZeroSign_of_isZero hzero, eq_zero_of_isZero (isFinite_of_isZero hzero) hzero]
      cases x.negative <;> decide +kernel

/-- Numbers of the same value are printed in the same way. -/
theorem plainChars_congr (h : x.same y = true) : x.plainChars = y.plainChars := by
  obtain ⟨⟨hx, hy⟩, -⟩ := same_iff_level_eq.1 h
  rw [← plainChars_dropZeroSign x, (same_iff_dropZeroSign_eq hx hy).1 h, plainChars_dropZeroSign]

/-- One number for all that have the same value, and one for all that are no number. -/
def representative (x : Binary64) : Binary64 := if x.isNaN then quietNaN else x.dropZeroSign

/-- NaN is represented by NaN. -/
theorem isNaN_representative (x : Binary64) : x.representative.isNaN = x.isNaN := by
  unfold representative
  cases hnan : x.isNaN with
  | true => rfl
  | false => exact (isNaN_dropZeroSign x).trans hnan

/-- Finite numbers are represented by finite ones. -/
theorem isFinite_representative (x : Binary64) : x.representative.isFinite = x.isFinite := by
  unfold representative
  cases hnan : x.isNaN with
  | false => exact isFinite_dropZeroSign x
  | true =>
      cases hfin : x.isFinite with
      | false => rfl
      | true => exact absurd (isNaN_of_isFinite hfin) (by rw [hnan]; exact Bool.noConfusion)

/-- Numbers have one representative if they are equal, or both NaN. -/
theorem same_or_isNaN_iff : x.same y = true ∨ x.isNaN = true ∧ y.isNaN = true ↔
    x.representative = y.representative := by
  constructor
  · rintro (hsame | ⟨hx, hy⟩)
    · obtain ⟨⟨hx, hy⟩, -⟩ := same_iff_level_eq.1 hsame
      simp only [representative, hx, hy]
      exact (same_iff_dropZeroSign_eq hx hy).1 hsame
    · rw [representative, representative, hx, hy]
      rfl
  · intro heq
    have hkind : x.isNaN = y.isNaN := by
      rw [← isNaN_representative x, heq, isNaN_representative]
    cases hy : y.isNaN with
    | true => exact .inr ⟨hkind.trans hy, rfl⟩
    | false =>
        have hx : x.isNaN = false := hkind.trans hy
        simp only [representative, hx, hy] at heq
        exact .inl ((same_iff_dropZeroSign_eq hx hy).2 heq)

end Binary64

/-! ## Cells -/

namespace Cell

variable {a b c cell : Cell}

/-- The same kind with the same text, truth value or number. A not-a-number counts as itself, and
both zeros count as one. -/
def Identical : Cell → Cell → Prop
  | .null, .null => True
  | .bool p, .bool q => p = q
  | .number x, .number y => x.same y = true ∨ x.isNaN = true ∧ y.isNaN = true
  | .text s, .text t => s = t
  | _, _ => False

/-- Whether the cell is written as null: null itself, and what is no finite number. -/
def isWrittenNull : Cell → Bool
  | .null => true
  | .number x => !x.isFinite
  | _ => false

/-- The cells are identical, or both are written as null. -/
def LooksAlike (a b : Cell) : Prop :=
  a.Identical b ∨ a.isWrittenNull = true ∧ b.isWrittenNull = true

/-- One cell for all that are identical. -/
def representative : Cell → Cell
  | .number x => .number x.representative
  | cell => cell

/-- The cell that the JSON text of a cell is read as. -/
def jsonForm (cell : Cell) : Cell := if cell.isWrittenNull then .null else cell.dropZeroSign

/-- Cells are identical exactly if they have one representative. -/
theorem identical_iff : a.Identical b ↔ a.representative = b.representative := by
  cases a with
  | null | bool | text => cases b <;> simp [Identical, representative]
  | number x =>
      cases b with
      | null | bool | text => simp [Identical, representative]
      | number y =>
          simp only [Identical, representative, number.injEq]
          exact Binary64.same_or_isNaN_iff

/-- A cell is read back as null exactly if it is written so. -/
theorem jsonForm_eq_null_iff : cell.jsonForm = .null ↔ cell.isWrittenNull = true := by
  unfold jsonForm
  cases hnull : cell.isWrittenNull with
  | true => simp
  | false => cases cell <;> simp_all [isWrittenNull, dropZeroSign]

/-- Cells that are not written as null look alike only if they are identical. -/
theorem identical_iff_jsonForm_eq (ha : a.isWrittenNull = false) (hb : b.isWrittenNull = false) :
    a.Identical b ↔ a.jsonForm = b.jsonForm := by
  unfold jsonForm
  rw [ha, hb]
  cases a with
  | null => cases ha
  | bool | text => cases b <;> simp_all [Identical, isWrittenNull, dropZeroSign]
  | number x =>
      cases b with
      | null => cases hb
      | bool | text => simp [Identical, dropZeroSign]
      | number y =>
          have hx : x.isNaN = false :=
            Binary64.isNaN_of_isFinite (by simpa [isWrittenNull] using ha)
          have hy : y.isNaN = false :=
            Binary64.isNaN_of_isFinite (by simpa [isWrittenNull] using hb)
          simp [Identical, dropZeroSign, hx, Binary64.same_iff_dropZeroSign_eq hx hy]

/-- The representative of a cell is written as null exactly if the cell is. -/
theorem isWrittenNull_representative (cell : Cell) :
    cell.representative.isWrittenNull = cell.isWrittenNull := by
  cases cell with
  | null | bool | text => rfl
  | number x => exact congrArg not x.isFinite_representative

/-- **Cells look alike exactly if their texts are read as the same cell.** -/
theorem looksAlike_iff : a.LooksAlike b ↔ a.jsonForm = b.jsonForm := by
  have hkind : a.Identical b → a.isWrittenNull = b.isWrittenNull := by
    intro h
    rw [← isWrittenNull_representative a, identical_iff.1 h, isWrittenNull_representative]
  unfold LooksAlike
  cases ha : a.isWrittenNull <;> cases hb : b.isWrittenNull
  · rw [identical_iff_jsonForm_eq ha hb]
    simp
  · rw [ha, hb] at hkind
    rw [jsonForm_eq_null_iff.2 hb, jsonForm_eq_null_iff, ha]
    simpa using hkind
  · rw [ha, hb] at hkind
    rw [jsonForm_eq_null_iff.2 ha, eq_comm (a := null), jsonForm_eq_null_iff, hb]
    simpa using hkind
  · rw [jsonForm_eq_null_iff.2 ha, jsonForm_eq_null_iff.2 hb]
    simp

/-- Both zeros are written alike. -/
theorem numberTree_zero (negative : Bool) : numberTree (.zero negative) = .integer 0 := by
  have hwhole : ((Binary64.zero negative).isIntegral &&
      decide ((Binary64.zero negative).wholePart < wholeLimit)) = true := by
    cases negative <;> decide +kernel
  rw [numberTree, if_pos hwhole, Binary64.truncate_zero]

/-- The sign of zero is not written. -/
theorem numberTree_dropZeroSign (x : Binary64) : numberTree x.dropZeroSign = numberTree x := by
  cases hzero : x.isZero with
  | false => rw [Binary64.dropZeroSign_of_not_isZero hzero]
  | true =>
      have hx := Binary64.eq_zero_of_isZero (Binary64.isFinite_of_isZero hzero) hzero
      rw [Binary64.dropZeroSign_of_isZero hzero, hx, numberTree_zero, numberTree_zero]

/-- A number that is not finite has the text of null. -/
theorem compact_numberTree_of_not_isFinite {x : Binary64} (h : x.isFinite = false) :
    (numberTree x).compact = Tree.null.compact := by
  have hwhole : x.isIntegral = false := by
    by_contra hint
    rw [Bool.not_eq_false] at hint
    exact Bool.false_ne_true (h ▸ Binary64.isFinite_of_isIntegral hint)
  rw [numberTree, hwhole, Bool.false_and, if_neg Bool.false_ne_true]
  exact if_neg (Bool.eq_false_iff.1 h)

/-- A cell has the text of the cell that it is read as. -/
theorem compact_toTree_jsonForm (cell : Cell) :
    cell.jsonForm.toTree.compact = cell.toTree.compact := by
  cases cell with
  | null | bool | text => rfl
  | number x =>
      cases hfin : x.isFinite with
      | true => simp only [jsonForm, isWrittenNull, hfin, Bool.not_true, if_neg Bool.false_ne_true,
          dropZeroSign, toTree, numberTree_dropZeroSign]
      | false => simp only [jsonForm, isWrittenNull, hfin, Bool.not_false, if_true, toTree,
          compact_numberTree_of_not_isFinite hfin]

/-- What is read back is finite. -/
theorem isFinite_jsonForm (cell : Cell) : cell.jsonForm.isFinite = true := by
  cases cell with
  | null | bool | text => rfl
  | number x =>
      cases hfin : x.isFinite with
      | true => simp [jsonForm, isWrittenNull, hfin, dropZeroSign, isFinite,
          Binary64.isFinite_dropZeroSign]
      | false => simp [jsonForm, isWrittenNull, hfin, isFinite]

/-- What is read back has no sign of zero. -/
theorem dropZeroSign_jsonForm (cell : Cell) : cell.jsonForm.dropZeroSign = cell.jsonForm := by
  cases cell with
  | null | bool | text => rfl
  | number x =>
      cases hfin : x.isFinite with
      | true => simp [jsonForm, isWrittenNull, hfin, dropZeroSign,
          Binary64.dropZeroSign_dropZeroSign]
      | false => simp [jsonForm, isWrittenNull, hfin, dropZeroSign]

end Cell

/-! ## Rows -/

namespace Tree

/-- The text of an object depends on the texts of its members only. -/
theorem compact_object_congr {members others : List (String × Tree)}
    (h : members.map compactMember = others.map compactMember) :
    (Tree.object members).compact = (Tree.object others).compact := by
  have hflat (l : List (String × Tree)) : (l.flatMap fun m => ',' :: compactMember m) =
      (l.map compactMember).flatMap fun s => ',' :: s := by
    rw [List.flatMap_map]
  have hmembers : compactMembers members = compactMembers others := by
    cases members with
    | nil =>
        rw [List.map_nil, eq_comm, List.map_eq_nil_iff] at h
        rw [h]
    | cons m members =>
        cases others with
        | nil => cases h
        | cons n others =>
            rw [List.map_cons, List.map_cons, List.cons.injEq] at h
            rw [compactMembers_cons, compactMembers_cons, hflat, hflat, h.1, h.2]
  rw [compact, compact, hmembers]

end Tree

namespace Fields

variable {related : Cell → Cell → Prop} {fields others : List (String × Cell)}

/-- Of related cells either both are there or none. -/
theorem isSome_eq_of_rel {x y : Option Cell} (h : Option.Rel related x y) :
    x.isSome = y.isSome := by
  cases h <;> rfl

/-- Fields that agree one by one agree name by name. -/
theorem rel_get?_of_forall₂
    (h : List.Forall₂ (fun f g => f.1 = g.1 ∧ related f.2 g.2) fields others) (name : String) :
    Option.Rel related (get? name fields) (get? name others) := by
  induction h with
  | nil => exact .none
  | @cons f g fields others hfield _ ih =>
      obtain ⟨key, c⟩ := f
      obtain ⟨key', d⟩ := g
      obtain ⟨rfl, hcell⟩ := hfield
      simp only [get?, List.lookup_cons] at ih ⊢
      cases name == key with
      | true => exact .some hcell
      | false => exact ih

/-- Fields with the same distinct names in the same order agree one by one if they do so name by
name. -/
theorem forall₂_of_keys_eq (hnodup : (keys fields).Nodup) (hkeys : keys fields = keys others)
    (h : ∀ name, Option.Rel related (get? name fields) (get? name others)) :
    List.Forall₂ (fun f g => f.1 = g.1 ∧ related f.2 g.2) fields others := by
  induction fields generalizing others with
  | nil =>
      rw [keys, List.map_nil, eq_comm, keys, List.map_eq_nil_iff] at hkeys
      rw [hkeys]
      exact .nil
  | cons f fields ih =>
      obtain ⟨key, c⟩ := f
      cases others with
      | nil => cases hkeys
      | cons g others =>
          obtain ⟨key', d⟩ := g
          obtain ⟨rfl, hrest⟩ : key = key' ∧ keys fields = keys others := List.cons.inj hkeys
          obtain ⟨hnot, hnodup⟩ : key ∉ keys fields ∧ (keys fields).Nodup :=
            List.nodup_cons.1 hnodup
          have hhead := h key
          simp only [get?, List.lookup_cons_self] at hhead
          obtain ⟨hcell⟩ := hhead
          refine .cons ⟨rfl, hcell⟩ (ih hnodup hrest fun name => ?_)
          by_cases hname : name = key
          · -- the name of the first field stands nowhere behind it
            have hnone : get? name fields = none := get?_eq_none_iff.2 (hname ▸ hnot)
            have hnone' : get? name others = none := by
              rw [get?_eq_none_iff, hname, ← hrest]
              exact hnot
            rw [hnone, hnone']
            exact .none
          · have htail := h name
            simp only [get?, List.lookup_cons, beq_false_of_ne hname] at htail
            exact htail

end Fields

namespace Row

variable {α : Type} {related : Cell → Cell → Prop} {f : Cell → α} {a b row : Row} {name : String}
  {cell : Cell}

/-- The names of a row in order, with what a function makes of their cells. -/
def mapped (f : Cell → α) (row : Row) : List (String × α) :=
  row.fields.map fun field => (field.1, f field.2)

/-- The same names in the same order, with related cells. -/
def Alike (related : Cell → Cell → Prop) (a b : Row) : Prop :=
  List.Forall₂ (fun f g => f.1 = g.1 ∧ related f.2 g.2) a.fields b.fields

/-- The same names in any order, with related cells. -/
def AlikeByName (related : Cell → Cell → Prop) (a b : Row) : Prop :=
  ∀ name, Option.Rel related (a.get? name) (b.get? name)

/-- Rows are alike exactly if a function that decides about the cells makes the same of them. -/
theorem alike_iff (h : ∀ c d, related c d ↔ f c = f d) :
    a.Alike related b ↔ a.mapped f = b.mapped f := by
  unfold Alike mapped
  rw [← List.forall₂_eq_eq_eq, List.forall₂_map_left_iff, List.forall₂_map_right_iff]
  simp only [h, Prod.mk.injEq]

/-! ### Texts -/

/-- The row that the JSON text of a row is read as. -/
def jsonForm (row : Row) : Row where
  fields := row.mapped Cell.jsonForm
  distinct := by
    rw [Fields.keys, mapped, List.map_map]
    exact row.distinct

/-- A row that is read back is written as before. -/
theorem toJson_jsonForm (row : Row) : row.jsonForm.toJson = row.toJson := by
  have hmembers : (row.jsonForm.fields.map fun f => (f.1, f.2.toTree)).map compactMember =
      (row.fields.map fun f => (f.1, f.2.toTree)).map compactMember := by
    simp only [jsonForm, mapped, List.map_map]
    apply List.map_congr_left
    intro field _
    simp only [Function.comp_apply, compactMember, Cell.compact_toTree_jsonForm]
  exact congrArg String.ofList (Tree.compact_object_congr hmembers)

/-- **The JSON text of a row reads back**, with null in the place of every number that is not
finite. -/
theorem ofJson?_bind_toJson (row : Row) :
    (Tree.ofJson? row.toJson).bind decode? = some row.jsonForm := by
  have hfinite : ∀ cell ∈ row.jsonForm.cells, cell.isFinite = true := by
    simp only [cells, jsonForm, mapped, List.map_map, List.forall_mem_map]
    exact fun field _ => field.2.isFinite_jsonForm
  have hdrop : row.jsonForm.dropZeroSigns = row.jsonForm := by
    apply eq_of_fields_eq
    simp only [dropZeroSigns, jsonForm, mapped, List.map_map, Function.comp_def,
      Cell.dropZeroSign_jsonForm]
  rw [← toJson_jsonForm, toJson, Tree.ofJson?_compactText (@writable_toTree _ 126 hfinite)]
  exact (decode?_toTree hfinite).trans (congrArg some hdrop)

/-- **Rows have the same text exactly if they have the same names in the same order, with cells that
look alike.** -/
theorem toJson_eq_iff : a.toJson = b.toJson ↔ a.Alike Cell.LooksAlike b := by
  have halike := @alike_iff _ Cell.LooksAlike Cell.jsonForm a b fun _ _ => Cell.looksAlike_iff
  rw [halike]
  constructor
  · intro h
    have hread := ofJson?_bind_toJson a
    rw [h, ofJson?_bind_toJson b, Option.some.injEq] at hread
    exact congrArg fields hread.symm
  · intro h
    have hform : a.jsonForm = b.jsonForm := eq_of_fields_eq h
    rw [← toJson_jsonForm a, hform, toJson_jsonForm]

/-! ### Sorted rows -/

/-- A cell is found under a name exactly if the field is there. -/
theorem get?_eq_some_iff : row.get? name = some cell ↔ (name, cell) ∈ row.fields := by
  constructor
  · intro h
    obtain ⟨before, after, heq, -⟩ := List.lookup_eq_some_iff.1 h
    rw [heq]
    exact List.mem_append_right _ List.mem_cons_self
  · intro h
    obtain ⟨before, after, heq⟩ := List.append_of_mem h
    have hnodup := row.distinct
    rw [heq, Fields.keys, List.map_append, List.map_cons] at hnodup
    have hnot : name ∉ Fields.keys (before ++ after) := by
      rw [Fields.keys, List.map_append]
      exact (List.nodup_middle.1 hnodup).notMem
    rw [get?, heq]
    exact Fields.get?_append_cons hnot

/-- Sorting the names changes nothing under them. -/
theorem get?_sorted (row : Row) (name : String) : row.sorted.get? name = row.get? name := by
  apply Option.ext
  intro cell
  rw [get?_eq_some_iff, get?_eq_some_iff]
  exact (List.mergeSort_perm row.fields _).mem_iff

/-- Rows with the same names have them in the same order once they are sorted. -/
theorem keys_sorted_eq (h : ∀ name, name ∈ a.keys ↔ name ∈ b.keys) :
    a.sorted.keys = b.sorted.keys := by
  have hordered (row : Row) : row.sorted.keys.Pairwise fun m n => (Text.order m n).isLE :=
    have : Std.TransCmp fun f g : String × Cell => Text.order f.1 g.1 :=
      transCmp_on Prod.fst Text.order
    List.pairwise_map.2 (sortedStably_mergeSort row.fields).ordered
  have hperm (row : Row) : row.sorted.keys.Perm row.keys :=
    (List.mergeSort_perm row.fields _).map _
  have hkeys : a.keys.Perm b.keys := (List.perm_ext_iff_of_nodup a.distinct b.distinct).2 h
  refine List.Perm.eq_of_pairwise ?_ (hordered a) (hordered b)
    ((hperm a).trans (hkeys.trans (hperm b).symm))
  intro m n _ _ hmn hnm
  exact Std.LawfulEqCmp.eq_of_compare (Std.OrientedCmp.isLE_antisymm hmn hnm)

/-- Sorted rows are alike exactly if the rows are alike in any order of names. -/
theorem alike_sorted_iff : a.sorted.Alike related b.sorted ↔ a.AlikeByName related b := by
  constructor
  · intro h name
    rw [← get?_sorted a, ← get?_sorted b]
    exact Fields.rel_get?_of_forall₂ h name
  · intro h
    have hnames (name : String) : name ∈ a.keys ↔ name ∈ b.keys := by
      rw [keys, keys, Fields.mem_keys_iff_isSome_get?, Fields.mem_keys_iff_isSome_get?]
      exact iff_of_eq (congrArg (· = true) (Fields.isSome_eq_of_rel (h name)))
    refine Fields.forall₂_of_keys_eq a.sorted.distinct (keys_sorted_eq hnames) fun name => ?_
    have hname := h name
    rw [← get?_sorted a, ← get?_sorted b] at hname
    exact hname

/-- **Sorted rows have the same text exactly if they have the same names, with cells that look
alike.** -/
theorem toJson_sorted_eq_iff :
    a.sorted.toJson = b.sorted.toJson ↔ a.AlikeByName Cell.LooksAlike b := by
  rw [toJson_eq_iff, alike_sorted_iff]

end Row

end Dashboard
