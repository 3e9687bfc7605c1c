import Dashboard.Proofs.Decimal.ReadBack
import Dashboard.Proofs.Formula.Reading
import Dashboard.Proofs.Formula.Segments

/-!
# Formula.Substitution · pasting numbers into a formula binds the names in its tree

A formula is read only after the numbers of a row have been pasted into its text. Here the two
levels are related: the text with the numbers in it spells the tree of the formula with the trees
of the numbers in place of the names.

* **`Operand`** is a leaf of a formula, a literal or a reference, and **`Operand.Written`** says
  how it is written. The grammar is the one of `Formula.Grammar` over these leaves.
* **`Derives.scans`**: the segments of a derived text are put together as its derivation is.
* **`derives_printed`**: a printed number is one factor. Its sign is a unary minus, which binds
  tighter than every operator around it and costs one level of depth.
* **`evaluateRow_eq_eval`** puts these together.
-/

namespace Dashboard

namespace Formula

/-! ## Leaves -/

/-- A leaf of a formula. -/
inductive Operand where
  | literal (s : List Char)
  /-- The number in a column. -/
  | reference (name : String)
deriving DecidableEq, Repr

namespace Operand

/-- How an operand is written: a reference is a name in braces. -/
inductive Written : List Char → Operand → Prop
  | literal {s : List Char} (h : Decimal.Plain s) : Written s (.literal s)
  | reference {name : String} (h : '\x7d' ∉ name.toList) :
      Written ('\x7b' :: (name.toList ++ ['\x7d'])) (.reference name)

/-- The name that an operand refers to. -/
def name? : Operand → Option String
  | .literal _ => none
  | .reference name => some name

/-- The number that an operand stands for in a row. Negative zero counts as zero. -/
def value (row : Row) : Operand → Binary64
  | .literal s => literalValue s
  | .reference name => (valueIn row name).dropZeroSign

end Operand

/-- The names that a tree refers to, from left to right. -/
def Expr.names (e : Expr Operand) : List String := e.leaves.filterMap Operand.name?

/-- The tree of a printed number: the sign is a unary minus. -/
def printedTree : List Char → Expr (List Char)
  | '-' :: s => .negated (.leaf s)
  | s => .leaf s

/-- The tree that an operand becomes in a row. -/
def Operand.tree (row : Row) : Operand → Expr (List Char)
  | .literal s => .leaf s
  | .reference name => printedTree (valueIn row name).plainChars

/-! ## Trees in place of leaves -/

namespace Expr

variable {α β : Type}

/-- A tree with trees in place of its leaves takes the values of these for those of the leaves. -/
theorem eval_bind (e : Expr α) (f : α → Expr β) (value : β → Binary64) :
    (e.bind f).eval value = e.eval fun a => (f a).eval value := by
  induction e with
  | leaf a => rfl
  | group e ih => exact ih
  | negated e ih => exact congrArg (- ·) ih
  | binary op a b iha ihb => exact congrArg₂ op.apply iha ihb

/-- The value of a tree depends on the values of its own leaves only. -/
theorem eval_congr {e : Expr α} {value value' : α → Binary64}
    (h : ∀ a ∈ e.leaves, value a = value' a) : e.eval value = e.eval value' := by
  induction e with
  | leaf a => exact h a (List.mem_singleton_self a)
  | group e ih => exact ih h
  | negated e ih => exact congrArg (- ·) (ih h)
  | binary op a b iha ihb =>
      have ha := iha fun x hx => h x (List.mem_append_left _ hx)
      have hb := ihb fun x hx => h x (List.mem_append_right _ hx)
      exact congrArg₂ op.apply ha hb

/-- Trees in place of leaves add no more than their own depth. -/
theorem depth_bind_le {e : Expr α} {f : α → Expr β} {k : Nat}
    (h : ∀ a ∈ e.leaves, (f a).depth ≤ k) : (e.bind f).depth ≤ e.depth + k := by
  induction e with
  | leaf a =>
      rw [depth, Nat.zero_add]
      exact h a (List.mem_singleton_self a)
  | group e ih =>
      have hle := ih h
      simp only [bind, depth]
      omega
  | negated e ih =>
      have hle := ih h
      simp only [bind, depth]
      omega
  | binary op a b iha ihb =>
      have ha := iha fun x hx => h x (List.mem_append_left _ hx)
      have hb := ihb fun x hx => h x (List.mem_append_right _ hx)
      simp only [bind, depth]
      omega

/-- The names of a tree are those of its references. -/
theorem mem_names {e : Expr Operand} {name : String} :
    name ∈ e.names ↔ Operand.reference name ∈ e.leaves := by
  constructor
  · intro h
    obtain ⟨a, ha, hname⟩ := List.mem_filterMap.1 h
    cases a with
    | literal s => cases hname
    | reference other =>
        obtain rfl : other = name := Option.some.inj hname
        exact ha
  · intro h
    exact List.mem_filterMap.2 ⟨_, h, rfl⟩

end Expr

/-! ## Printed numbers -/

section printed

variable {x : Binary64} {s w : List Char}

/-- A plain text is printed without a sign. -/
theorem printedTree_of_plain (h : Decimal.Plain s) : printedTree s = .leaf s := by
  unfold printedTree
  split
  · rename_i t
    rcases h.chars '-' List.mem_cons_self with hc | hc
    · exact absurd hc (by decide)
    · exact absurd hc (by decide)
  · rfl

/-- The sign of a literal goes through rounding. -/
theorem literalValue_eq (s : List Char) (negative : Bool) :
    ((Decimal.ofPlain s).withSign negative).toBinary64 =
      if negative then -literalValue s else literalValue s := by
  cases negative with
  | false => rfl
  | true => exact Decimal.toBinary64_not (Decimal.ofPlain s)

/-- **A printed number is one factor.** Its tree has at most one minus sign and the value of the
number. -/
theorem derives_printed (hfin : x.isFinite = true) :
    (∀ w, Spaces w → Derives Literal .factor (w ++ x.plainChars) (printedTree x.plainChars)) ∧
      (printedTree x.plainChars).depth ≤ 1 ∧
      (printedTree x.plainChars).eval literalValue = x.dropZeroSign := by
  obtain ⟨s, hplain, hchars, hvalue⟩ := Decimal.exists_plain_plainChars hfin
  rw [literalValue_eq] at hvalue
  rw [hchars]
  cases hsign : x.dropZeroSign.negative with
  | false =>
      rw [hsign] at hvalue
      have htree : printedTree (Decimal.signChars false ++ s) = .leaf s :=
        printedTree_of_plain hplain
      rw [htree]
      exact ⟨fun w hw => .leaf hw ⟨rfl, hplain⟩, Nat.zero_le 1, hvalue⟩
  | true =>
      rw [hsign] at hvalue
      have hleaf : Derives Literal .factor s (.leaf s) := .of_leaf ⟨rfl, hplain⟩
      exact ⟨fun w hw => .negated hw hleaf, le_rfl, hvalue⟩

end printed

/-! ## Cutting a text into segments -/

section scans

variable {s w : List Char}

/-- White space has no other characters in it. -/
theorem not_mem_of_spaces {c : Char} (hc : isSpace c = false) (h : Spaces w) : c ∉ w := by
  intro hmem
  rw [h c hmem] at hc
  cases hc

/-- A plain text has no other characters in it. -/
theorem not_mem_of_plain {c : Char} (hc : isLiteralChar c = false) (h : Decimal.Plain s) :
    c ∉ s := by
  intro hmem
  rw [isLiteralChar_iff.2 (h.chars c hmem)] at hc
  cases hc

/-- White space is cut into marks. -/
theorem scans_spaces (h : Spaces w) : Scans w (w.map .mark) :=
  scans_marks (not_mem_of_spaces (by decide) h)

/-- A plain text is cut into marks. -/
theorem scans_plain (h : Decimal.Plain s) : Scans s (s.map .mark) :=
  scans_marks (not_mem_of_plain (by decide) h)

/-- Any character but an opening brace is a mark. -/
theorem scans_char {c : Char} (h : '\x7b' ≠ c) : Scans [c] [.mark c] :=
  scans_marks (s := [c]) (by simpa using h)

/-- Operators are no braces. -/
theorem symbol_ne (op : Operator) : '\x7b' ≠ op.symbol := by
  cases op <;> decide

end scans

/-! ## From the formula to the text that is read -/

/-- In a row, the segments `segs` spell the tree `e` as a text of `part`: their references are the
names of the tree, and with finite numbers in place of the names they derive the tree with the
trees of these numbers. -/
structure SpellsIn (row : Row) (part : Part) (segs : List Segment) (e : Expr Operand) : Prop where
  names : segs.filterMap Segment.name? = e.names
  derives : (∀ name ∈ e.names, (valueIn row name).isFinite = true) →
    Derives Literal part (segs.flatMap (Segment.substitute row)) (e.bind (Operand.tree row))

section spellsIn

variable {row : Row} {part : Part} {s w w' : List Char} {a b segs : List Segment}
  {e x y : Expr Operand} {op : Operator}

/-- A written operand is cut into segments that spell it. -/
theorem SpellsIn.leaf {operand : Operand} (hw : Spaces w) (h : Operand.Written s operand) :
    ∃ segs, Scans (w ++ s) segs ∧ SpellsIn row .factor segs (.leaf operand) := by
  cases h with
  | literal hplain =>
      refine ⟨_, (scans_spaces hw).append (scans_plain hplain), ?_, ?_⟩
      · rw [← List.map_append, filterMap_marks]
        rfl
      · intro _
        rw [List.flatMap_append, flatMap_marks, flatMap_marks]
        exact .leaf hw ⟨rfl, hplain⟩
  | @reference name hname =>
      refine ⟨_, (scans_spaces hw).append (scans_reference hname), ?_, ?_⟩
      · rw [List.filterMap_append, filterMap_marks]
        rfl
      · intro hfin
        have hvalue : (valueIn row name).isFinite = true := hfin name (List.mem_singleton_self name)
        rw [List.flatMap_append, flatMap_marks, List.flatMap_singleton]
        exact (derives_printed hvalue).1 w hw

/-- Segments in parentheses spell the group. -/
theorem SpellsIn.group (hw : Spaces w) (h : SpellsIn row .expression segs e) (hw' : Spaces w') :
    SpellsIn row .factor
      (w.map .mark ++ ([.mark '('] ++ (segs ++ (w'.map .mark ++ [.mark ')'])))) (.group e) := by
  constructor
  · simp only [List.filterMap_append, filterMap_marks, h.names, List.nil_append]
    exact List.append_nil _
  · intro hfin
    simp only [List.flatMap_append, flatMap_marks, List.flatMap_singleton]
    exact .group hw (h.derives hfin) hw'

/-- Segments behind a minus sign spell the negation. -/
theorem SpellsIn.negated (hw : Spaces w) (h : SpellsIn row .factor segs e) :
    SpellsIn row .factor (w.map .mark ++ ([.mark '-'] ++ segs)) (.negated e) := by
  constructor
  · simp only [List.filterMap_append, filterMap_marks, h.names, List.nil_append]
    rfl
  · intro hfin
    simp only [List.flatMap_append, flatMap_marks, List.flatMap_singleton]
    exact .negated hw (h.derives hfin)

/-- An operator between two operands, where `join` is the rule of the grammar for it. -/
theorem SpellsIn.binary {left right : Part} (hx : SpellsIn row left a x)
    (hy : SpellsIn row right b y)
    (join : ∀ {s t : List Char} {x y : Expr (List Char)}, Derives Literal left s x →
      Derives Literal right t y →
      Derives Literal part (s ++ (w ++ op.symbol :: t)) (.binary op x y)) :
    SpellsIn row part (a ++ (w.map .mark ++ ([.mark op.symbol] ++ b))) (.binary op x y) := by
  have hnames : (Expr.binary op x y).names = x.names ++ y.names := List.filterMap_append
  constructor
  · simp only [List.filterMap_append, filterMap_marks, hx.names, hy.names, List.nil_append, hnames]
    rfl
  · intro hfin
    rw [hnames] at hfin
    have hleft := hx.derives fun name h => hfin name (List.mem_append_left _ h)
    have hright := hy.derives fun name h => hfin name (List.mem_append_right _ h)
    simp only [List.flatMap_append, flatMap_marks, List.flatMap_singleton]
    exact join hleft hright

/-- **Pasting follows the derivation.** A formula is cut into segments that spell its tree in every
row. -/
theorem Derives.scans (h : Derives Operand.Written part s e) (row : Row) :
    ∃ segs, Scans s segs ∧ SpellsIn row part segs e := by
  induction h with
  | leaf hw ha => exact SpellsIn.leaf hw ha
  | group hw _ hw' ih =>
      obtain ⟨segs, hscan, hspell⟩ := ih
      have hclose := (scans_spaces hw').append (scans_char (c := ')') (by decide))
      exact ⟨_, (scans_spaces hw).append ((scans_char (c := '(') (by decide)).append
        (hscan.append hclose)), hspell.group hw hw'⟩
  | negated hw _ ih =>
      obtain ⟨segs, hscan, hspell⟩ := ih
      exact ⟨_, (scans_spaces hw).append ((scans_char (c := '-') (by decide)).append hscan),
        hspell.negated hw⟩
  | factor _ ih =>
      obtain ⟨segs, hscan, hspell⟩ := ih
      exact ⟨segs, hscan, hspell.names, fun hfin => .factor (hspell.derives hfin)⟩
  | @product s w t a b op _ hw hop _ iha ihb =>
      obtain ⟨left, hleft, hx⟩ := iha
      obtain ⟨right, hright, hy⟩ := ihb
      exact ⟨_, hleft.append ((scans_spaces hw).append ((scans_char (symbol_ne op)).append hright)),
        hx.binary hy fun ha hb => .product ha hw hop hb⟩
  | term _ ih =>
      obtain ⟨segs, hscan, hspell⟩ := ih
      exact ⟨segs, hscan, hspell.names, fun hfin => .term (hspell.derives hfin)⟩
  | @sum s w t a b op _ hw hop _ iha ihb =>
      obtain ⟨left, hleft, hx⟩ := iha
      obtain ⟨right, hright, hy⟩ := ihb
      exact ⟨_, hleft.append ((scans_spaces hw).append ((scans_char (symbol_ne op)).append hright)),
        hx.binary hy fun ha hb => .sum ha hw hop hb⟩

end spellsIn

/-! ## Values -/

/-- A whole formula is cut into segments that spell its tree, and the white space at its end. -/
theorem Spells.segments_eq {formula : String} {e : Expr Operand}
    (h : Spells Operand.Written formula.toList e) (row : Row) :
    ∃ segs w, segments formula = segs ++ w.map .mark ∧ Spaces w ∧
      SpellsIn row .expression segs e := by
  obtain ⟨s, w, htext, hderives, hw⟩ := h
  obtain ⟨segs, hscan, hspell⟩ := hderives.scans row
  refine ⟨segs, w, ?_, hw, hspell⟩
  rw [segments, htext]
  exact (hscan.append (scans_spaces hw)).scanSegments_eq

/-- The tree of a formula in a row opens at most one more minus sign, and its value binds the names
to the numbers of the row. -/
theorem bind_tree {row : Row} {e : Expr Operand}
    (hfin : ∀ name ∈ e.names, (valueIn row name).isFinite = true) :
    (e.bind (Operand.tree row)).depth ≤ e.depth + 1 ∧
      (e.bind (Operand.tree row)).eval literalValue = e.eval (Operand.value row) := by
  constructor
  · apply Expr.depth_bind_le
    intro a ha
    cases a with
    | literal s => exact Nat.zero_le 1
    | reference name => exact (derives_printed (hfin name (Expr.mem_names.2 ha))).2.1
  · rw [Expr.eval_bind]
    apply Expr.eval_congr
    intro a ha
    cases a with
    | literal s => rfl
    | reference name => exact (derives_printed (hfin name (Expr.mem_names.2 ha))).2.2

/-- White space behind the segments stays behind the substituted text. -/
theorem toList_substitute {formula : String} {row : Row} {segs : List Segment} {w : List Char}
    (h : segments formula = segs ++ w.map .mark) :
    (Formula.substitute formula row).toList = segs.flatMap (Segment.substitute row) ++ w := by
  rw [substitute_eq, String.toList_ofList, h, List.flatMap_append, flatMap_marks]

/-- The text with the numbers of a row in it is read as the value of the tree of the formula. -/
theorem read_substitute {formula : String} {row : Row} {e : Expr Operand}
    (h : Spells Operand.Written formula.toList e) (hdepth : e.depth ≤ 255)
    (hfin : ∀ name ∈ e.names, (valueIn row name).isFinite = true) :
    read (Formula.substitute formula row).toList = .ok (e.eval (Operand.value row)) := by
  obtain ⟨segs, w, hsegs, hw, hspell⟩ := h.segments_eq row
  obtain ⟨hbound, hvalue⟩ := bind_tree hfin
  rw [toList_substitute hsegs, read_eq_ok_iff]
  exact ⟨_, ⟨_, w, rfl, hspell.derives hfin, hw⟩, le_trans hbound (Nat.succ_le_succ hdepth), hvalue⟩

/-- **Substitution binds names.** In a row where every number that a formula refers to is finite,
the formula has the value of its own tree with the names bound to these numbers, so no printed
number changes how the operators around it group. -/
theorem evaluateRow_eq_eval {formula : String} {row : Row} {e : Expr Operand}
    (h : Spells Operand.Written formula.toList e) (hdepth : e.depth ≤ 255)
    (hfin : ∀ name ∈ e.names, (valueIn row name).isFinite = true) :
    evaluateRow formula row = .ok (e.eval (Operand.value row)) := by
  rw [evaluateRow, evaluate_eq_read]
  exact read_substitute h hdepth hfin

/-- The text `3--2.5*2` that is read here still groups as `3 - (-2.5 * 2)`. -/
theorem evaluateRow_negative_fraction :
    evaluateRow "\x7ba\x7d-\x7bb\x7d*2"
      (.ofList [("a", .number (.ofNat 3)), ("b", .text "-2.5")]) = .ok (.ofNat 8) := by
  have ha := Derives.of_leaf (@Operand.Written.reference "a" (by decide))
  have hb := Derives.of_leaf (@Operand.Written.reference "b" (by decide))
  have htwo := Derives.of_leaf (Operand.Written.literal (@Decimal.plain_digit '2' (by decide)))
  have hproduct := @Derives.product _ _ _ [] _ _ _ .mul (.factor hb) nofun rfl htwo
  have hsum := @Derives.sum _ _ _ [] _ _ _ .sub (.term (.factor ha)) nofun rfl hproduct
  rw [evaluateRow_eq_eval ⟨_, [], rfl, hsum, nofun⟩ (by decide) (by decide +kernel)]
  decide +kernel

end Formula

end Dashboard
