import Dashboard.Proofs.Query.Comparison
import Dashboard.Tree.Basic

/-!
# Tree.Canonical · sorted documents

The canonical form of a document sorts the members of its objects by name, each name once, and has
no number that is not finite. A document of this form is its own canonical form.

* **`Tree.IsCanonical`** describes the documents of this form.
* **`Tree.isCanonical_canonical`**: canonical forms have it. **`Tree.IsCanonical.canonical_eq`**:
  such a document does not change.
* **`Tree.IsCanonical.same_self`**: it equals itself, as it holds no not-a-number.
-/

namespace Dashboard

namespace Tree

/-- Members in the order of their names, each name once. -/
def SortedMembers (members : List (String × Tree)) : Prop :=
  members.Pairwise fun a b => Text.order a.1 b.1 = .lt

/-- The documents whose objects have sorted members and whose numbers are finite. -/
inductive IsCanonical : Tree → Prop
  | null : IsCanonical .null
  | bool (b : Bool) : IsCanonical (.bool b)
  | integer (i : Int) : IsCanonical (.integer i)
  | real {x : Binary64} (h : x.isFinite = true) : IsCanonical (.real x)
  | text (s : String) : IsCanonical (.text s)
  | list {items : List Tree} (h : ∀ t ∈ items, IsCanonical t) : IsCanonical (.list items)
  | object {members : List (String × Tree)} (hsorted : SortedMembers members)
      (h : ∀ m ∈ members, IsCanonical m.2) : IsCanonical (.object members)

variable {members sorted : List (String × Tree)} {m : String × Tree} {name : String}
  {value t : Tree}

/-! ## Inserting members -/

/-- After an insertion there are the old members and the inserted one. -/
theorem mem_insertSorted (h : m ∈ insertSorted name value sorted) :
    m = (name, value) ∨ m ∈ sorted := by
  induction sorted with
  | nil => exact .inl (List.mem_singleton.1 h)
  | cons first rest ih =>
      obtain ⟨n, v⟩ := first
      rw [insertSorted] at h
      split at h
      · exact List.mem_cons.1 h
      · rcases List.mem_cons.1 h with rfl | h
        · exact .inl rfl
        · exact .inr (List.mem_cons_of_mem _ h)
      · rcases List.mem_cons.1 h with rfl | h
        · exact .inr List.mem_cons_self
        · exact (ih h).imp_right (List.mem_cons_of_mem _)

/-- Inserting keeps members sorted. -/
theorem sortedMembers_insertSorted (h : SortedMembers sorted) (name : String) (value : Tree) :
    SortedMembers (insertSorted name value sorted) := by
  induction sorted with
  | nil => exact List.pairwise_singleton _ _
  | cons first rest ih =>
      obtain ⟨n, v⟩ := first
      obtain ⟨hfirst, hrest⟩ := List.pairwise_cons.1 h
      rw [insertSorted]
      split
      · rename_i hlt
        refine List.pairwise_cons.2 ⟨fun other hother => ?_, h⟩
        rcases List.mem_cons.1 hother with rfl | hother
        · exact hlt
        · exact Std.TransCmp.lt_trans hlt (hfirst other hother)
      · rename_i heq
        obtain rfl : name = n := Std.LawfulEqCmp.eq_of_compare heq
        exact List.pairwise_cons.2 ⟨hfirst, hrest⟩
      · rename_i hgt
        refine List.pairwise_cons.2 ⟨fun other hother => ?_, ih hrest⟩
        rcases mem_insertSorted hother with rfl | hother
        · exact Std.OrientedCmp.lt_of_gt hgt
        · exact hfirst other hother

/-- A member with a greater name goes to the end. -/
theorem insertSorted_of_lt (h : ∀ m ∈ sorted, Text.order m.1 name = .lt) :
    insertSorted name value sorted = sorted ++ [(name, value)] := by
  induction sorted with
  | nil => rfl
  | cons first rest ih =>
      obtain ⟨n, v⟩ := first
      obtain ⟨hfirst, hrest⟩ := List.forall_mem_cons.1 h
      have hgt : Text.order name n = .gt := Std.OrientedCmp.gt_of_lt hfirst
      rw [insertSorted, hgt, ih hrest]
      rfl

/-! ## Canonical forms -/

mutual

/-- **Canonical forms are sorted and finite.** -/
theorem isCanonical_canonical : ∀ t : Tree, t.canonical.IsCanonical
  | .null => .null
  | .bool b => .bool b
  | .integer i => .integer i
  | .text s => .text s
  | .real x => by
      rw [canonical]
      cases h : x.isFinite with
      | true => exact .real h
      | false => exact .null
  | .list items => .list (isCanonical_canonicalItems items)
  | .object members => by
      obtain ⟨hsorted, h⟩ := isCanonical_canonicalMembers members [] List.Pairwise.nil nofun
      exact .object hsorted h

/-- The canonical forms of items are canonical. -/
theorem isCanonical_canonicalItems : ∀ items : List Tree, ∀ t ∈ canonicalItems items, t.IsCanonical
  | [] => nofun
  | t :: rest => List.forall_mem_cons.2 ⟨isCanonical_canonical t, isCanonical_canonicalItems rest⟩

/-- The canonical forms of members are canonical, and put in order by name. -/
theorem isCanonical_canonicalMembers : ∀ members sorted : List (String × Tree),
    SortedMembers sorted → (∀ m ∈ sorted, m.2.IsCanonical) →
      SortedMembers (canonicalMembers members sorted) ∧
        ∀ m ∈ canonicalMembers members sorted, m.2.IsCanonical
  | [], _, hsorted, h => ⟨hsorted, h⟩
  | (name, t) :: rest, sorted, hsorted, h => by
      refine isCanonical_canonicalMembers rest _ (sortedMembers_insertSorted hsorted _ _) ?_
      intro m hm
      rcases mem_insertSorted hm with rfl | hm
      · exact isCanonical_canonical t
      · exact h m hm

end

/-- Canonical members that come after sorted ones are appended to them. -/
theorem canonicalMembers_of_sorted (hsorted : SortedMembers (sorted ++ members))
    (h : ∀ m ∈ members, m.2.canonical = m.2) :
    canonicalMembers members sorted = sorted ++ members := by
  induction members generalizing sorted with
  | nil => rw [canonicalMembers, List.append_nil]
  | cons first rest ih =>
      obtain ⟨name, t⟩ := first
      obtain ⟨hfirst, hrest⟩ := List.forall_mem_cons.1 h
      have hlast : ∀ m ∈ sorted, Text.order m.1 name = .lt := by
        intro m hm
        exact (List.pairwise_append.1 hsorted).2.2 m hm _ List.mem_cons_self
      rw [List.append_cons] at hsorted
      rw [canonicalMembers, hfirst, insertSorted_of_lt hlast, ih hsorted hrest, ← List.append_cons]

/-- Items that are their own canonical forms stay as they are. -/
theorem canonicalItems_of_forall {items : List Tree} (h : ∀ t ∈ items, t.canonical = t) :
    canonicalItems items = items := by
  induction items with
  | nil => rfl
  | cons first rest ih =>
      obtain ⟨hfirst, hrest⟩ := List.forall_mem_cons.1 h
      rw [canonicalItems, hfirst, ih hrest]

/-- **A canonical document is its own canonical form.** -/
theorem IsCanonical.canonical_eq (h : t.IsCanonical) : t.canonical = t := by
  induction h with
  | null | bool | integer | text => rfl
  | real hfin => rw [canonical, if_pos hfin]
  | list _ ih => rw [canonical, canonicalItems_of_forall ih]
  | object hsorted _ ih =>
      rw [canonical, @canonicalMembers_of_sorted _ [] hsorted ih, List.nil_append]

/-! ## Equality -/

/-- Items that are the same as themselves are so in a list. -/
theorem sameItems_self {items : List Tree} (h : ∀ t ∈ items, t.same t = true) :
    sameItems items items = true := by
  induction items with
  | nil => rfl
  | cons first rest ih =>
      obtain ⟨hfirst, hrest⟩ := List.forall_mem_cons.1 h
      rw [sameItems, hfirst, ih hrest]
      rfl

/-- Members that are the same as themselves are so in an object. -/
theorem sameMembers_self (h : ∀ m ∈ members, m.2.same m.2 = true) :
    sameMembers members members = true := by
  induction members with
  | nil => rfl
  | cons first rest ih =>
      obtain ⟨name, t⟩ := first
      obtain ⟨hfirst, hrest⟩ := List.forall_mem_cons.1 h
      rw [sameMembers, hfirst, ih hrest, beq_self_eq_true]
      rfl

/-- A canonical document equals itself. -/
theorem IsCanonical.same_self (h : t.IsCanonical) : t.same t = true := by
  induction h with
  | null => rfl
  | bool b => exact beq_self_eq_true b
  | integer i => exact beq_self_eq_true i
  | text s => exact beq_self_eq_true s
  | real hfin => exact Binary64.same_self (Binary64.isNaN_of_isFinite hfin)
  | list _ ih => exact sameItems_self ih
  | object _ _ ih => exact sameMembers_self ih

end Tree

end Dashboard
