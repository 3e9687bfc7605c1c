import Dashboard.Cell
import Dashboard.Proofs.Tree.Canonical
import Dashboard.Proofs.Tree.ReadBack

/-!
# Tree.Json · what every JSON document is

A `Tree` may hold any integer and any double. JSON texts write integers of 64 bits and finite
doubles only, so what is read from them is within the limits of the reader (`Tree.Writable`), and
these trees are all cells.

* **`Tree.writable_of_ofJson?`**: the reader gives no other trees.
* **`Tree.lookup_canonical`**: the canonical form of an object has the last member of each name.
* **`Cell.exists_ofTree?`**: every such document is read as a cell, and
  **`Cell.ofTree?_canonical`**: its canonical form is read as the same one.
-/

namespace Dashboard

namespace Tree

/-! ## Reading -/

section reader

variable {s rest : List Char} {t : Tree} {depth : Nat}

/-- A whole number that is read can be written. -/
theorem writable_of_ofWhole {negative : Bool} {digits : List Char}
    (h : ofWhole negative digits = some t) : t.Writable depth := by
  cases negative with
  | false =>
      simp only [ofWhole, Bool.false_eq_true, if_false] at h
      split_ifs at h with hfits hfinite
      · exact Option.some.inj h ▸ .integer ⟨by omega, by omega⟩
      · exact Option.some.inj h ▸ .real hfinite
  | true =>
      simp only [ofWhole, if_true] at h
      split_ifs at h with hfits hfinite
      · exact Option.some.inj h ▸ .integer ⟨by omega, by omega⟩
      · exact Option.some.inj h ▸ .real hfinite

/-- A number that is read behind its sign can be written. -/
theorem writable_of_scanUnsigned? {negative : Bool}
    (h : scanUnsigned? negative s = some (t, rest)) : t.Writable depth := by
  obtain ⟨⟨whole, s₁⟩, -, h⟩ := Option.bind_eq_some_iff.1 h
  obtain ⟨⟨places, s₂⟩, -, h⟩ := Option.bind_eq_some_iff.1 h
  obtain ⟨⟨power, s₃⟩, -, h⟩ := Option.bind_eq_some_iff.1 h
  dsimp only at h
  split at h
  · obtain ⟨whole, hwhole, h⟩ := Option.bind_eq_some_iff.1 h
    obtain ⟨rfl, -⟩ := Prod.mk.inj (Option.some.inj h)
    exact writable_of_ofWhole hwhole
  · split at h
    · rename_i hfinite
      obtain ⟨rfl, -⟩ := Prod.mk.inj (Option.some.inj h)
      exact .real hfinite
    · cases h

/-- A number that is read can be written. -/
theorem writable_of_scanNumber? (h : scanNumber? s = some (t, rest)) : t.Writable depth := by
  unfold scanNumber? at h
  split at h <;> exact writable_of_scanUnsigned? h

variable {α : Type} {holds : α → Prop} {closing : Char}
  {scanOne : List Char → Option (α × List Char)} {parts : List α}

/-- What holds of each part that is scanned holds of all further parts. -/
theorem forall_of_scanFurther? (hone : ∀ s part rest, scanOne s = some (part, rest) → holds part)
    {bound : List Char} (h : scanFurther? closing scanOne bound s = some (parts, rest)) :
    ∀ part ∈ parts, holds part := by
  induction bound generalizing s parts rest with
  | nil => cases h
  | cons b bound ih =>
      unfold scanFurther? at h
      split at h
      · cases h
      · split_ifs at h
        · obtain ⟨rfl, -⟩ := Prod.mk.inj (Option.some.inj h)
          nofun
        · obtain ⟨⟨part, s₁⟩, hpart, h⟩ := Option.bind_eq_some_iff.1 h
          obtain ⟨⟨more, s₂⟩, hmore, h⟩ := Option.bind_eq_some_iff.1 h
          obtain ⟨rfl, -⟩ := Prod.mk.inj (Option.some.inj h)
          exact List.forall_mem_cons.2 ⟨hone _ _ _ hpart, ih hmore⟩

/-- What holds of every part that is read, holds of the parts of a list or an object. -/
theorem forall_of_scanParts? (hone : ∀ s part rest, scanOne s = some (part, rest) → holds part)
    (h : scanParts? closing scanOne s = some (parts, rest)) : ∀ part ∈ parts, holds part := by
  unfold scanParts? at h
  split at h
  · cases h
  · split_ifs at h
    · obtain ⟨rfl, -⟩ := Prod.mk.inj (Option.some.inj h)
      nofun
    · obtain ⟨⟨part, s₁⟩, hpart, h⟩ := Option.bind_eq_some_iff.1 h
      obtain ⟨⟨more, s₂⟩, hmore, h⟩ := Option.bind_eq_some_iff.1 h
      obtain ⟨rfl, -⟩ := Prod.mk.inj (Option.some.inj h)
      exact List.forall_mem_cons.2 ⟨hone _ _ _ hpart, forall_of_scanFurther? hone hmore⟩

variable {scanTree : List Char → Option (Tree × List Char)}

/-- A member that is read can be written if trees can. -/
theorem writable_of_scanMember? (htree : ∀ s t rest, scanTree s = some (t, rest) → t.Writable depth)
    (s : List Char) (m : String × Tree) (rest : List Char)
    (h : scanMember? scanTree s = some (m, rest)) : m.2.Writable depth := by
  unfold scanMember? at h
  split at h
  · obtain ⟨⟨name, s₁⟩, -, h⟩ := Option.bind_eq_some_iff.1 h
    dsimp only at h
    split at h
    · obtain ⟨⟨t, s₂⟩, ht, h⟩ := Option.bind_eq_some_iff.1 h
      obtain ⟨rfl, -⟩ := Prod.mk.inj (Option.some.inj h)
      exact htree _ _ _ ht
    · cases h
  · cases h

/-- A document is within the limits if what is nested in it is so for one level less. -/
theorem writable_of_scanWith? {nested : Option (List Char → Option (Tree × List Char))}
    (hnested : ∀ scanTree ∈ nested, ∃ n, depth = n + 1 ∧
      ∀ s t rest, scanTree s = some (t, rest) → t.Writable n)
    (h : scanWith? nested s = some (t, rest)) : t.Writable depth := by
  unfold scanWith? at h
  split at h
  · obtain ⟨rfl, -⟩ := Prod.mk.inj (Option.some.inj h)
    exact .null
  · obtain ⟨rfl, -⟩ := Prod.mk.inj (Option.some.inj h)
    exact .bool true
  · obtain ⟨rfl, -⟩ := Prod.mk.inj (Option.some.inj h)
    exact .bool false
  · obtain ⟨⟨value, s₁⟩, -, h⟩ := Option.bind_eq_some_iff.1 h
    obtain ⟨rfl, -⟩ := Prod.mk.inj (Option.some.inj h)
    exact .text value
  · obtain ⟨scanTree, htree, h⟩ := Option.bind_eq_some_iff.1 h
    obtain ⟨⟨items, s₁⟩, hitems, h⟩ := Option.bind_eq_some_iff.1 h
    obtain ⟨rfl, -⟩ := Prod.mk.inj (Option.some.inj h)
    obtain ⟨n, rfl, hn⟩ := hnested scanTree htree
    exact .list (forall_of_scanParts? hn hitems)
  · obtain ⟨scanTree, htree, h⟩ := Option.bind_eq_some_iff.1 h
    obtain ⟨⟨members, s₁⟩, hmembers, h⟩ := Option.bind_eq_some_iff.1 h
    obtain ⟨rfl, -⟩ := Prod.mk.inj (Option.some.inj h)
    obtain ⟨n, rfl, hn⟩ := hnested scanTree htree
    exact .object (forall_of_scanParts? (writable_of_scanMember? hn) hmembers)
  · exact writable_of_scanNumber? h

/-- A tree that is read can be written. -/
theorem writable_of_scan? (depth : Nat) :
    ∀ s t rest, scan? depth s = some (t, rest) → t.Writable depth := by
  induction depth with
  | zero => exact fun _ _ _ h => @writable_of_scanWith? _ _ _ _ none nofun h
  | succ depth ih =>
      intro s t rest h
      refine writable_of_scanWith? ?_ h
      rintro scanTree ⟨⟩
      exact ⟨depth, rfl, ih⟩

/-- **JSON texts write integers of 64 bits and finite doubles**, nested at most 127 deep. -/
theorem writable_of_ofJson? {text : String} (h : ofJson? text = some t) : t.Writable maxDepth := by
  unfold ofJson? ofJsonChars? at h
  split at h
  · rename_i hscan
    split_ifs at h
    exact Option.some.inj h ▸ writable_of_scan? maxDepth _ _ _ hscan
  · cases h

end reader

/-! ## Members -/

section members

variable {members sorted : List (String × Tree)} {key name : String} {value t : Tree}

/-- The last member of a name: of members with one name this one stands. -/
def lastMember? (name : String) (members : List (String × Tree)) : Option Tree :=
  members.reverse.lookup name

/-- An inserted member hides those of its name, and no other. -/
theorem lookup_insertSorted (key name : String) (value : Tree) (sorted : List (String × Tree)) :
    (insertSorted name value sorted).lookup key =
      ([(name, value)].lookup key).or (sorted.lookup key) := by
  induction sorted with
  | nil => exact Option.or_none.symm
  | cons first rest ih =>
      obtain ⟨n, v⟩ := first
      rw [insertSorted]
      split
      · exact @List.lookup_append _ _ _ [(name, value)] _ _
      · rename_i heq
        obtain rfl : name = n := Std.LawfulEqCmp.eq_of_compare heq
        simp only [List.lookup_cons, List.lookup_nil]
        cases key == name <;> rfl
      · rename_i hgt
        have hne : name ≠ n := by
          rintro rfl
          have hself : Text.order name name = .eq := Std.ReflCmp.compare_self
          cases hself.symm.trans hgt
        rw [List.lookup_cons, ih]
        simp only [List.lookup_cons, List.lookup_nil]
        by_cases hkey : key = n
        · have hother : (key == name) = false := beq_eq_false_iff_ne.2 (hkey ▸ hne.symm)
          rw [hother, hkey, beq_self_eq_true]
          rfl
        · rw [beq_eq_false_iff_ne.2 hkey]

/-- Of members with one name the last one is found. -/
theorem lookup_canonicalMembers :
    (canonicalMembers members sorted).lookup key =
      ((lastMember? key members).map canonical).or (sorted.lookup key) := by
  induction members generalizing sorted with
  | nil => rfl
  | cons first rest ih =>
      obtain ⟨name, t⟩ := first
      have hfirst : [(name, t.canonical)].lookup key = ([(name, t)].lookup key).map canonical := by
        simp only [List.lookup_cons, List.lookup_nil]
        cases key == name <;> rfl
      rw [canonicalMembers, ih, lookup_insertSorted, lastMember?, lastMember?, List.reverse_cons,
        List.lookup_append, Option.map_or, hfirst, Option.or_assoc]

/-- The canonical form of an object has the last member of each name. -/
theorem lookup_canonical :
    (Tree.object members).canonical.lookup key = (lastMember? key members).map canonical := by
  rw [canonical, lookup, lookup_canonicalMembers]
  exact Option.or_none

/-- There is a last member exactly if there is a member of the name. -/
theorem isSome_lastMember?_iff :
    (lastMember? key members).isSome = true ↔ key ∈ members.map (·.1) := by
  simp [lastMember?, List.lookup_isSome_iff, List.mem_map]

/-- The last member of a name is one of the members. -/
theorem mem_of_lastMember? (h : lastMember? key members = some t) : (key, t) ∈ members := by
  obtain ⟨before, after, heq, -⟩ := List.lookup_eq_some_iff.1 h
  rw [← List.mem_reverse, heq]
  exact List.mem_append_right _ List.mem_cons_self

end members

/-- Only null has null for its canonical form. -/
theorem Writable.canonical_ne_null {t : Tree} {depth : Nat} (h : t.Writable depth)
    (hne : t ≠ .null) :
    t.canonical ≠ .null := by
  cases h with
  | null => exact absurd rfl hne
  | real hfin =>
      rw [canonical, if_pos hfin]
      exact hne
  | bool | integer | text | list | object => nofun

end Tree

/-! ## Cells -/

namespace Cell

variable {t : Tree} {depth : Nat}

/-- Every document is a cell: a list or an object is the one with its text. -/
theorem exists_ofTree? (h : t.Writable depth) : ∃ cell, ofTree? t = some cell := by
  cases h with
  | null | bool | real | text | list | object => exact ⟨_, rfl⟩
  | integer hfits => exact ⟨_, if_pos hfits⟩

/-- A cell is read alike from the canonical form of a tree. -/
theorem ofTree?_canonical (h : t.Writable depth) : ofTree? t.canonical = ofTree? t := by
  have hcanonical := (Tree.isCanonical_canonical t).canonical_eq
  cases h with
  | null | bool | integer | text => rfl
  | real hfin => rw [Tree.canonical, if_pos hfin]
  | list | object => exact congrArg (fun t => some (Cell.text t.compactText)) hcanonical

end Cell

end Dashboard
