import Dashboard.Proofs.Tree.Canonical
import Dashboard.Proofs.Tree.Record
import Dashboard.Query.LiveValue

/-!
# Query.LiveValue · written live values read back

A live value is written without the name of its kind, and its kind is found again by the shape of
what was written.

* **`LiveValue.IsRead`** holds of every value that was read: an absent bound is never written as a
  bound, and a document of another shape is a canonical one whose shape is none of the others.
* **`LiveValue.decode?_toTree`**: such a value with finite numbers is read as the same kind with the
  same cells and bounds; only the sign of negative zero is lost.
-/

namespace Dashboard

/-! ## Cells -/

namespace Cell

variable {cell : Cell}

/-- The document of a finite cell is in canonical form. -/
theorem isCanonical_toTree (h : cell.isFinite = true) : cell.toTree.IsCanonical := by
  cases cell with
  | null => exact .null
  | bool b => exact .bool b
  | text s => exact .text s
  | number x =>
      rcases numberTree_cases h with ⟨i, -, htree, -⟩ | ⟨htree, -⟩
      · rw [toTree, htree]
        exact .integer i
      · rw [toTree, htree]
        exact .real h

/-- Only null is written as null. -/
theorem toTree_ne_null (h : cell ≠ .null) : cell.toTree ≠ .null := by
  cases cell with
  | null => exact absurd rfl h
  | bool b => nofun
  | text s => nofun
  | number x =>
      rw [toTree, numberTree]
      split <;> rintro ⟨⟩

/-- Only null is read as null. -/
theorem eq_null_of_ofTree? {t : Tree} (h : ofTree? t = some .null) : t = .null := by
  cases t with
  | null => rfl
  | integer i =>
      rw [ofTree?] at h
      split at h <;> cases h
  | bool b => cases h
  | real x => cases h
  | text s => cases h
  | list items => cases h
  | object members => cases h

end Cell

/-! ## Bounds -/

namespace Bounds

/-- The cells of the bounds that are there. -/
def cells (b : Bounds) : List Cell := b.lower.toList ++ b.upper.toList

/-- The bounds themselves, where negative zero counts as zero. -/
def dropZeroSigns (b : Bounds) : Bounds :=
  ⟨b.lower.map Cell.dropZeroSign, b.upper.map Cell.dropZeroSign⟩

/-- No bound that is there is null. -/
def IsRead (b : Bounds) : Prop := b.lower ≠ some .null ∧ b.upper ≠ some .null

end Bounds

namespace LiveValue

section bounds

variable {name lower upper : String} {t : Tree} {bound : Option Cell} {b : Bounds}

/-- A member that is not null is read as a cell. -/
theorem bound?_of_ne_null (h : t.lookup name = some value) (hne : value ≠ .null) :
    bound? name t = (Cell.ofTree? value).map some := by
  unfold bound?
  rw [h]
  cases value with
  | null => exact absurd rfl hne
  | bool | integer | real | text | list | object => rfl

/-- No bound is null. -/
theorem ne_null_of_bound? (h : bound? name t = some bound) : bound ≠ some .null := by
  rintro rfl
  cases hvalue : t.lookup name with
  | none =>
      rw [bound?, hvalue] at h
      cases h
  | some value =>
      by_cases hnull : value = .null
      · rw [bound?, hvalue, hnull] at h
        cases h
      · rw [bound?_of_ne_null hvalue hnull] at h
        obtain ⟨cell, hcell, heq⟩ := Option.map_eq_some_iff.1 h
        obtain rfl := Option.some.inj heq
        exact hnull (Cell.eq_null_of_ofTree? hcell)

/-- Bounds that are decoded can be read back. -/
theorem isRead_of_bounds? (h : bounds? lower upper t = some b) : b.IsRead := by
  obtain ⟨low, hlow, h⟩ := Option.bind_eq_some_iff.1 h
  obtain ⟨high, hhigh, h⟩ := Option.bind_eq_some_iff.1 h
  obtain rfl := Option.some.inj h
  exact ⟨ne_null_of_bound? hlow, ne_null_of_bound? hhigh⟩

/-- A bound is read from the member that it is written as. -/
theorem bound?_of_lookup (h : t.lookup name = some (boundTree bound)) (hne : bound ≠ some .null)
    (hfin : ∀ cell ∈ bound.toList, cell.isFinite = true) :
    bound? name t = some (bound.map Cell.dropZeroSign) := by
  cases bound with
  | none =>
      rw [bound?, h]
      rfl
  | some cell =>
      have hcell : cell ≠ .null := fun heq => hne (congrArg some heq)
      have hread : Cell.ofTree? cell.toTree = some cell.dropZeroSign :=
        Cell.ofTree?_toTree (hfin cell List.mem_cons_self)
      have htree : boundTree (some cell) = cell.toTree := rfl
      rw [bound?_of_ne_null h (htree ▸ Cell.toTree_ne_null hcell), htree, hread]
      rfl

/-- The document of a finite bound is in canonical form. -/
theorem isCanonical_boundTree (h : ∀ cell ∈ bound.toList, cell.isFinite = true) :
    (boundTree bound).IsCanonical := by
  cases bound with
  | none => exact .null
  | some cell => exact Cell.isCanonical_toTree (h cell List.mem_cons_self)

/-- Bounds are read from their members, but for the sign of zero. -/
theorem bounds?_of_lookup (hlow : t.lookup lower = some (boundTree b.lower))
    (hhigh : t.lookup upper = some (boundTree b.upper)) (hread : b.IsRead)
    (hfin : ∀ cell ∈ b.cells, cell.isFinite = true) :
    bounds? lower upper t = some b.dropZeroSigns := by
  obtain ⟨hlowfin, hhighfin⟩ := List.forall_mem_append.1 hfin
  rw [bounds?, bound?_of_lookup hlow hread.1 hlowfin, bound?_of_lookup hhigh hread.2 hhighfin]
  rfl

end bounds

/-! ## Values -/

variable {value : LiveValue} {t : Tree}

/-- The cells of a value. -/
def cells : LiveValue → List Cell
  | .list cells => cells
  | .range b | .numericRange b => b.cells
  | .toggle _ | .text _ | .other _ => []

/-- The value itself, where negative zero counts as zero. -/
def dropZeroSigns : LiveValue → LiveValue
  | .list cells => .list (cells.map Cell.dropZeroSign)
  | .range b => .range b.dropZeroSigns
  | .numericRange b => .numericRange b.dropZeroSigns
  | value => value

/-- What holds of every value that was read. -/
def IsRead : LiveValue → Prop
  | .range b | .numericRange b => b.IsRead
  | .other t => t.IsCanonical ∧ ofCanonical t = .other t
  | .toggle _ | .text _ | .list _ => True

/-- The kind that the shape of a canonical document shows, if its parts can be read. -/
def ofShape? (t : Tree) : Option LiveValue :=
  if t.hasMember "start" || t.hasMember "end" then (bounds? "start" "end" t).map range
  else if t.hasMember "min" || t.hasMember "max" then (bounds? "min" "max" t).map numericRange
  else
    match t with
    | .bool on => some (.toggle on)
    | .text value => some (.text value)
    | .list items => (items.mapM Cell.ofTree?).map list
    | _ => none

/-- A tree without another shape is kept as it is. -/
theorem ofCanonical_eq (t : Tree) : ofCanonical t = (ofShape? t).getD (.other t) := rfl

/-- A live value that is read by its shape can be read back. -/
theorem isRead_of_ofShape? (h : ofShape? t = some value) : value.IsRead := by
  unfold ofShape? at h
  split at h
  · obtain ⟨b, hb, rfl⟩ := Option.map_eq_some_iff.1 h
    exact isRead_of_bounds? hb
  · split at h
    · obtain ⟨b, hb, rfl⟩ := Option.map_eq_some_iff.1 h
      exact isRead_of_bounds? hb
    · split at h
      · obtain rfl := Option.some.inj h
        trivial
      · obtain rfl := Option.some.inj h
        trivial
      · obtain ⟨cells, -, rfl⟩ := Option.map_eq_some_iff.1 h
        trivial
      · cases h

/-- **What was read, is a value of its kind.** -/
theorem isRead_of_decode? {δ : Type} [Document δ] {d : δ} (h : decode? d = some value) :
    value.IsRead := by
  obtain ⟨t, -, rfl⟩ := Option.map_eq_some_iff.1 h
  have hcanonical := Tree.isCanonical_canonical t
  rw [ofTree, ofCanonical_eq]
  cases hshape : ofShape? t.canonical with
  | some value => exact isRead_of_ofShape? hshape
  | none => exact ⟨hcanonical, by rw [ofCanonical_eq, hshape]; rfl⟩

/-! ## Reading what was written -/

/-- Two bounds are sorted by their names when they are written. -/
theorem canonical_boundsTree {lower upper : String} {b : Bounds}
    (horder : Text.order upper lower = .lt) (hfin : ∀ cell ∈ b.cells, cell.isFinite = true) :
    (Tree.object [(lower, boundTree b.lower), (upper, boundTree b.upper)]).canonical =
      .object [(upper, boundTree b.upper), (lower, boundTree b.lower)] := by
  obtain ⟨hlow, hhigh⟩ := List.forall_mem_append.1 hfin
  simp only [Tree.canonical, Tree.canonicalMembers, Tree.insertSorted, horder,
    (isCanonical_boundTree hlow).canonical_eq, (isCanonical_boundTree hhigh).canonical_eq]

/-- A tree is decoded by the shape of its canonical form. -/
theorem decode?_of_ofShape? (h : ofShape? t.canonical = some value) : decode? t = some value := by
  change some (ofCanonical t.canonical) = some value
  rw [ofCanonical_eq, h]
  rfl

/-- A range is read back, but for the sign of zero. -/
theorem decode?_range {b : Bounds} (hread : b.IsRead)
    (hfin : ∀ cell ∈ b.cells, cell.isFinite = true) :
    decode? (range b).toTree = some (.range b.dropZeroSigns) := by
  have hcanonical := @canonical_boundsTree "start" "end" b (by decide) hfin
  have hbounds := @bounds?_of_lookup "start" "end" _ b (congrArg (Tree.lookup "start") hcanonical)
    (congrArg (Tree.lookup "end") hcanonical) hread hfin
  apply decode?_of_ofShape?
  calc ofShape? (range b).toTree.canonical =
        (bounds? "start" "end" (range b).toTree.canonical).map range := by
          rw [toTree, hcanonical]
          rfl
    _ = some (.range b.dropZeroSigns) := by rw [toTree, hbounds, Option.map_some]

/-- A numeric range is read back, but for the sign of zero. -/
theorem decode?_numericRange {b : Bounds} (hread : b.IsRead)
    (hfin : ∀ cell ∈ b.cells, cell.isFinite = true) :
    decode? (numericRange b).toTree = some (.numericRange b.dropZeroSigns) := by
  have hcanonical := @canonical_boundsTree "min" "max" b (by decide) hfin
  have hbounds := @bounds?_of_lookup "min" "max" _ b (congrArg (Tree.lookup "min") hcanonical)
    (congrArg (Tree.lookup "max") hcanonical) hread hfin
  apply decode?_of_ofShape?
  calc ofShape? (numericRange b).toTree.canonical =
        (bounds? "min" "max" (numericRange b).toTree.canonical).map numericRange := by
          rw [toTree, hcanonical]
          rfl
    _ = some (.numericRange b.dropZeroSigns) := by rw [toTree, hbounds, Option.map_some]

/-- A list is read back, but for the sign of zero. -/
theorem decode?_list {cells : List Cell} (hfin : ∀ cell ∈ cells, cell.isFinite = true) :
    decode? (list cells).toTree = some (.list (cells.map Cell.dropZeroSign)) := by
  have hcanonical : (Tree.list (cells.map Cell.toTree)).canonical =
      .list (cells.map Cell.toTree) := by
    apply Tree.IsCanonical.canonical_eq
    refine .list fun t ht => ?_
    obtain ⟨cell, hcell, rfl⟩ := List.mem_map.1 ht
    exact Cell.isCanonical_toTree (hfin cell hcell)
  have hcells : (cells.map Cell.toTree).mapM Cell.ofTree? =
      some (cells.map Cell.dropZeroSign) :=
    mapM_map_of_forall fun cell hcell => Cell.ofTree?_toTree (hfin cell hcell)
  apply decode?_of_ofShape?
  calc ofShape? (list cells).toTree.canonical =
        ((cells.map Cell.toTree).mapM Cell.ofTree?).map list := by
          rw [toTree, hcanonical]
          rfl
    _ = some (.list (cells.map Cell.dropZeroSign)) := by rw [hcells, Option.map_some]

/-- **A live value is read as the kind that it was written as.** -/
theorem decode?_toTree (h : value.IsRead) (hfin : ∀ cell ∈ value.cells, cell.isFinite = true) :
    decode? value.toTree = some value.dropZeroSigns := by
  cases value with
  | toggle on => rfl
  | text s => rfl
  | list cells => exact decode?_list hfin
  | range b => exact decode?_range h hfin
  | numericRange b => exact decode?_numericRange h hfin
  | other t =>
      have hread : decode? t = some (ofTree t) := rfl
      rw [toTree, hread, ofTree, h.1.canonical_eq, h.2]
      rfl

/-! ## Equality -/

/-- Without the sign of zero a bound is the same. -/
theorem sameBound_dropZeroSign {bound : Option Cell}
    (h : ∀ cell ∈ bound.toList, cell.isFinite = true) :
    sameBound bound (bound.map Cell.dropZeroSign) = true := by
  cases bound with
  | none => rfl
  | some cell => exact Cell.same_dropZeroSign (h cell List.mem_cons_self)

/-- Dropping the signs of zeros keeps the kind. -/
theorem kind_dropZeroSigns (value : LiveValue) : value.dropZeroSigns.kind = value.kind := by
  cases value <;> rfl

/-- A value equals itself without the signs of zeros. -/
theorem same_dropZeroSigns (h : value.IsRead)
    (hfin : ∀ cell ∈ value.cells, cell.isFinite = true) :
    value.same value.dropZeroSigns = true := by
  have hbounds (b : Bounds) (hb : ∀ cell ∈ b.cells, cell.isFinite = true) :
      (sameBound b.lower b.dropZeroSigns.lower && sameBound b.upper b.dropZeroSigns.upper) =
        true := by
    obtain ⟨hlow, hhigh⟩ := List.forall_mem_append.1 hb
    rw [Bounds.dropZeroSigns, sameBound_dropZeroSign hlow, sameBound_dropZeroSign hhigh]
    rfl
  cases value with
  | toggle on => exact beq_self_eq_true on
  | text s => exact beq_self_eq_true s
  | list cells =>
      have hcells : ((cells.zip (cells.map Cell.dropZeroSign)).all fun p => p.1.same p.2) = true :=
        all_zip_map fun cell hcell => Cell.same_dropZeroSign (hfin cell hcell)
      rw [dropZeroSigns, same, hcells, List.length_map, beq_self_eq_true]
      rfl
  | range b => exact hbounds b hfin
  | numericRange b => exact hbounds b hfin
  | other t => exact h.1.same_self

end LiveValue

end Dashboard
