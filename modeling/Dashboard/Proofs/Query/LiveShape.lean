import Dashboard.Proofs.Query.LiveValue
import Dashboard.Proofs.Tree.Json

/-!
# Query.LiveShape · the shape of a document decides what it constrains

The kind of a live value is found by asking an object for its members in order, and a document whose
parts cannot be read falls back to one that constrains nothing. No JSON document gets there: every
part of it is a cell.

* **`LiveValue.ReadsBound name members bound`**: what a bound is read as, by the last member of its
  name.
* **`LiveValue.exists_bounds?`**: both bounds of an object can always be read.
* **`LiveValue.decode?_by_shape`**: the kind for each shape, and the shapes that constrain nothing.
-/

namespace Dashboard

namespace LiveValue

/-- What a bound is read as: open if there is no member of this name or if it is null, and else the
cell that the last such member is read as. -/
inductive ReadsBound (name : String) (members : List (String × Tree)) : Option Cell → Prop
  | absent (h : Tree.lastMember? name members = none) : ReadsBound name members none
  | null (h : Tree.lastMember? name members = some .null) : ReadsBound name members none
  | cell {t : Tree} {cell : Cell} (h : Tree.lastMember? name members = some t) (hne : t ≠ .null)
      (hcell : Cell.decode? t = some cell) : ReadsBound name members (some cell)

/-- The names of the bounds of ranges and of numeric ranges. -/
def rangeNames : List String := ["start", "end", "min", "max"]

section shapes

variable {members : List (String × Tree)} {items : List Tree} {name : String} {depth : Nat}

/-- Bringing an object into canonical form keeps its names. -/
theorem hasMember_canonical :
    (Tree.object members).canonical.hasMember name = true ↔ name ∈ members.map (·.1) := by
  rw [Tree.hasMember, Tree.lookup_canonical, Option.isSome_map, Tree.isSome_lastMember?_iff]

/-- A bound of an object is always read, as the last member of its name says. -/
theorem exists_bound? (h : (Tree.object members).Writable depth) (name : String) :
    ∃ bound, bound? name (Tree.object members).canonical = some bound ∧
      ReadsBound name members bound := by
  cases hlast : Tree.lastMember? name members with
  | none =>
      refine ⟨none, ?_, .absent hlast⟩
      rw [bound?, Tree.lookup_canonical, hlast]
      rfl
  | some t =>
      have hlookup : (Tree.object members).canonical.lookup name = some t.canonical := by
        rw [Tree.lookup_canonical, hlast, Option.map_some]
      by_cases hnull : t = .null
      · subst hnull
        refine ⟨none, ?_, .null hlast⟩
        rw [bound?, hlookup]
        rfl
      · obtain ⟨n, ht⟩ : ∃ n, t.Writable n := by
          cases h with
          | object h => exact ⟨_, h _ (Tree.mem_of_lastMember? hlast)⟩
        obtain ⟨cell, hcell⟩ := Cell.exists_ofTree? ht
        refine ⟨some cell, ?_, .cell hlast hnull hcell⟩
        rw [bound?_of_ne_null hlookup (ht.canonical_ne_null hnull), Cell.ofTree?_canonical ht,
          hcell]
        rfl

/-- Both bounds of an object can be read, whatever its members are. -/
theorem exists_bounds? (h : (Tree.object members).Writable depth) (lower upper : String) :
    ∃ b, bounds? lower upper (Tree.object members).canonical = some b ∧
      ReadsBound lower members b.lower ∧ ReadsBound upper members b.upper := by
  obtain ⟨low, hlow, hlower⟩ := exists_bound? h lower
  obtain ⟨high, hhigh, hupper⟩ := exists_bound? h upper
  exact ⟨⟨low, high⟩, by rw [bounds?, hlow, hhigh]; rfl, hlower, hupper⟩

/-- Every tree is decoded, by its canonical form. -/
theorem decode?_eq (t : Tree) : decode? t = some (ofCanonical t.canonical) := rfl

/-- An object with a member of one of the names of a range is that range. -/
theorem decode?_object_range (h : (Tree.object members).Writable depth)
    (hnames : "start" ∈ members.map (·.1) ∨ "end" ∈ members.map (·.1)) :
    ∃ b, decode? (Tree.object members) = some (.range b) ∧ ReadsBound "start" members b.lower ∧
      ReadsBound "end" members b.upper := by
  obtain ⟨b, hb, hlower, hupper⟩ := exists_bounds? h "start" "end"
  refine ⟨b, decode?_of_ofShape? ?_, hlower, hupper⟩
  simp only [← hasMember_canonical] at hnames
  unfold ofShape?
  rw [if_pos (Bool.or_eq_true_iff.2 hnames), hb, Option.map_some]

/-- With a name of a numeric bound and none of a bound, an object is a numeric range. -/
theorem decode?_object_numericRange (h : (Tree.object members).Writable depth)
    (hstart : "start" ∉ members.map (·.1)) (hend : "end" ∉ members.map (·.1))
    (hnames : "min" ∈ members.map (·.1) ∨ "max" ∈ members.map (·.1)) :
    ∃ b, decode? (Tree.object members) = some (.numericRange b) ∧
      ReadsBound "min" members b.lower ∧ ReadsBound "max" members b.upper := by
  obtain ⟨b, hb, hlower, hupper⟩ := exists_bounds? h "min" "max"
  refine ⟨b, decode?_of_ofShape? ?_, hlower, hupper⟩
  simp only [← hasMember_canonical] at hstart hend hnames
  unfold ofShape?
  rw [if_neg (by simp [hstart, hend]), if_pos (Bool.or_eq_true_iff.2 hnames), hb, Option.map_some]

/-- An object without these members constrains nothing. -/
theorem decode?_object_other (hnames : ∀ name ∈ rangeNames, name ∉ members.map (·.1)) :
    decode? (Tree.object members) = some (.other (Tree.object members).canonical) := by
  have hnone : ofShape? (Tree.object members).canonical = none := by
    simp only [rangeNames, List.forall_mem_cons, ← hasMember_canonical] at hnames
    obtain ⟨hstart, hend, hmin, hmax, -⟩ := hnames
    unfold ofShape?
    rw [if_neg (by simp [hstart, hend]), if_neg (by simp [hmin, hmax]), Tree.canonical]
  rw [decode?_eq, ofCanonical_eq, hnone]
  rfl

/-- All items of a list can be read. -/
theorem exists_mapM_canonicalItems (h : ∀ t ∈ items, t.Writable depth) :
    ∃ cells, (Tree.canonicalItems items).mapM Cell.ofTree? = some cells ∧
      List.Forall₂ (fun t cell => Cell.decode? t = some cell) items cells := by
  induction items with
  | nil => exact ⟨[], rfl, .nil⟩
  | cons t rest ih =>
      obtain ⟨ht, hrest⟩ := List.forall_mem_cons.1 h
      obtain ⟨cells, hcells, hforall⟩ := ih hrest
      obtain ⟨cell, hcell⟩ := Cell.exists_ofTree? ht
      refine ⟨cell :: cells, ?_, .cons hcell hforall⟩
      rw [Tree.canonicalItems, List.mapM_cons, Cell.ofTree?_canonical ht, hcell, hcells]
      rfl

/-- A list is a list of as many cells. -/
theorem decode?_list_items (h : (Tree.list items).Writable depth) :
    ∃ cells, decode? (Tree.list items) = some (.list cells) ∧
      List.Forall₂ (fun t cell => Cell.decode? t = some cell) items cells := by
  cases h with
  | list h =>
      obtain ⟨cells, hcells, hforall⟩ := exists_mapM_canonicalItems h
      refine ⟨cells, decode?_of_ofShape? ?_, hforall⟩
      have hshape : ofShape? (.list (Tree.canonicalItems items)) =
          ((Tree.canonicalItems items).mapM Cell.ofTree?).map list := rfl
      rw [Tree.canonical, hshape, hcells, Option.map_some]

end shapes

/-- The documents that constrain nothing: null, numbers, and objects without the members of a
range. -/
def IsShapeless : Tree → Prop
  | .null | .integer _ | .real _ => True
  | .bool _ | .text _ | .list _ => False
  | .object members => ∀ name ∈ rangeNames, name ∉ members.map (·.1)

/-- Every other document has a kind that was found by its shape. -/
theorem decode?_other_iff {t : Tree} {depth : Nat} (h : t.Writable depth) :
    (∃ other, decode? t = some (.other other)) ↔ IsShapeless t := by
  cases h with
  | null => exact ⟨fun _ => trivial, fun _ => ⟨_, rfl⟩⟩
  | integer => exact ⟨fun _ => trivial, fun _ => ⟨_, rfl⟩⟩
  | @real _ x hfin =>
      refine ⟨fun _ => trivial, fun _ => ⟨.real x, ?_⟩⟩
      rw [decode?_eq, Tree.canonical, if_pos hfin]
      rfl
  | bool | text => exact ⟨nofun, nofun⟩
  | list h =>
      refine ⟨?_, nofun⟩
      rintro ⟨other, hother⟩
      obtain ⟨cells, hcells, -⟩ := decode?_list_items (.list h)
      rw [hcells] at hother
      cases hother
  | @object _ members h =>
      refine ⟨?_, fun hnames => ⟨_, decode?_object_other hnames⟩⟩
      rintro ⟨other, hother⟩
      have hrange : ¬("start" ∈ members.map (·.1) ∨ "end" ∈ members.map (·.1)) := by
        intro hnames
        obtain ⟨b, hb, -⟩ := decode?_object_range (.object h) hnames
        rw [hb] at hother
        cases hother
      obtain ⟨hstart, hend⟩ := not_or.1 hrange
      have hnumeric : ¬("min" ∈ members.map (·.1) ∨ "max" ∈ members.map (·.1)) := by
        intro hnames
        obtain ⟨b, hb, -⟩ := decode?_object_numericRange (.object h) hstart hend hnames
        rw [hb] at hother
        cases hother
      obtain ⟨hmin, hmax⟩ := not_or.1 hnumeric
      simp only [IsShapeless, rangeNames, List.forall_mem_cons]
      exact ⟨hstart, hend, hmin, hmax, nofun⟩

/-- **The shape of a document decides what it constrains.** A JSON object with `start` or `end` is a
range, another one with `min` or `max` a numeric range, and a list is a list. All bounds and items
are read as cells, whatever they are, however deep they are nested and whatever else the object
holds. Only null, numbers and other objects constrain nothing. -/
theorem decode?_by_shape :
    (∀ text t, Tree.ofJson? text = some t → t.Writable Tree.maxDepth) ∧
      (∀ (depth : Nat) (members : List (String × Tree)), (Tree.object members).Writable depth →
        ("start" ∈ members.map (·.1) ∨ "end" ∈ members.map (·.1) →
          ∃ b, decode? (Tree.object members) = some (.range b) ∧
            ReadsBound "start" members b.lower ∧ ReadsBound "end" members b.upper) ∧
        ("start" ∉ members.map (·.1) → "end" ∉ members.map (·.1) →
          "min" ∈ members.map (·.1) ∨ "max" ∈ members.map (·.1) →
            ∃ b, decode? (Tree.object members) = some (.numericRange b) ∧
              ReadsBound "min" members b.lower ∧ ReadsBound "max" members b.upper)) ∧
      (∀ (depth : Nat) (items : List Tree), (Tree.list items).Writable depth →
        ∃ cells, decode? (Tree.list items) = some (.list cells) ∧
          List.Forall₂ (fun t cell => Cell.decode? t = some cell) items cells) ∧
      ∀ (depth : Nat) (t : Tree), t.Writable depth →
        ((∃ other, decode? t = some (.other other)) ↔ IsShapeless t) :=
  ⟨fun _ _ => Tree.writable_of_ofJson?,
    fun _ _ h => ⟨decode?_object_range h, decode?_object_numericRange h⟩,
    fun _ _ => decode?_list_items, fun _ _ => decode?_other_iff⟩

/-- Here the lower bound is null and the upper one is a list with an object in it. -/
theorem decode?_by_shape_nested :
    ∃ b, decode? (Tree.object [("start", .null), ("step", .integer 5),
        ("end", .list [.integer 1, .object [("a", .null)]])]) = some (.range b) ∧
      b.lower = none ∧ b.upper = some (.text "[1,\x7b\"a\":null\x7d]") := by
  have hwritable : (Tree.object [("start", .null), ("step", .integer 5),
      ("end", .list [.integer 1, .object [("a", .null)]])]).Writable Tree.maxDepth := by
    refine .object ?_
    simp only [List.forall_mem_cons]
    refine ⟨.null, .integer ⟨by decide, by decide⟩, .list ?_, List.forall_mem_nil _⟩
    simp only [List.forall_mem_cons]
    refine ⟨.integer ⟨by decide, by decide⟩, .object ?_, List.forall_mem_nil _⟩
    simp only [List.forall_mem_cons]
    exact ⟨.null, List.forall_mem_nil _⟩
  have hjson := decode?_by_shape.1 _ _ (Tree.ofJson?_compactText hwritable)
  obtain ⟨⟨lower, upper⟩, hb, hlower, hupper⟩ :=
    (decode?_by_shape.2.1 _ _ hjson).1 (.inl (by decide))
  refine ⟨_, hb, ?_, ?_⟩
  · cases hlower with
    | absent h | null h => rfl
    | cell h hne =>
        obtain rfl := Option.some.inj h
        exact absurd rfl hne
  · cases hupper with
    | absent h => cases h
    | null h => cases h
    | cell h _ hcell =>
        obtain rfl := Option.some.inj h
        have hread : Cell.decode? (Tree.list [.integer 1, .object [("a", .null)]]) =
            some (.text "[1,\x7b\"a\":null\x7d]") := by decide +kernel
        exact hcell.symm.trans hread

end LiveValue

end Dashboard
