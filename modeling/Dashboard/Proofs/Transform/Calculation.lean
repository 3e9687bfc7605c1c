import Dashboard.Proofs.Formula.Substitution
import Dashboard.Transform.RowChange

/-!
# Transform.Calculation · when a calculated cell is null

A formula that is well formed can still fail in a row. Numbers are pasted as text, an infinite
number is pasted as a word, and the grammar has no words.

* **`Derives.not_mem`**: a character that stands nowhere in the grammar (`Foreign`) occurs in no
  derived text.
* **`letter_mem_plainChars`**: the text of an infinite number has such a character.
* **`evaluateRow_isOk_iff`**: so a well-formed formula has a value exactly in the rows where every
  number that it refers to is finite, and the calculated cell is null in the others.
-/

namespace Dashboard

namespace Formula

/-! ## Foreign characters -/

/-- A character that stands nowhere in the grammar. -/
structure Foreign (c : Char) : Prop where
  space : isSpace c = false
  literal : isLiteralChar c = false
  symbol : ∀ op : Operator, c ≠ op.symbol
  opening : c ≠ '('
  closing : c ≠ ')'

section foreign

variable {c : Char} {s t w : List Char}

/-- A foreign character stands in no operation of texts without it. -/
theorem Foreign.not_mem_operation (hc : Foreign c) {op : Operator} (hs : c ∉ s) (hw : Spaces w)
    (ht : c ∉ t) : c ∉ s ++ (w ++ op.symbol :: t) := by
  simp only [List.mem_append, List.mem_cons, not_or]
  exact ⟨hs, not_mem_of_spaces hc.space hw, hc.symbol op, ht⟩

/-- A foreign character occurs in no derived text. -/
theorem Derives.not_mem {part : Part} {e : Expr (List Char)} (h : Derives Literal part s e)
    (hc : Foreign c) : c ∉ s := by
  induction h with
  | leaf hw ha =>
      obtain ⟨rfl, hplain⟩ := ha
      rw [List.mem_append, not_or]
      exact ⟨not_mem_of_spaces hc.space hw, not_mem_of_plain hc.literal hplain⟩
  | group hw _ hw' ih =>
      simp only [List.mem_append, List.mem_cons, List.not_mem_nil, or_false, not_or]
      exact ⟨not_mem_of_spaces hc.space hw, hc.opening, ih, not_mem_of_spaces hc.space hw',
        hc.closing⟩
  | negated hw _ ih =>
      simp only [List.mem_append, List.mem_cons, not_or]
      exact ⟨not_mem_of_spaces hc.space hw, hc.symbol .sub, ih⟩
  | factor _ ih => exact ih
  | product _ hw _ _ iha ihb => exact hc.not_mem_operation iha hw ihb
  | term _ ih => exact ih
  | sum _ hw _ _ iha ihb => exact hc.not_mem_operation iha hw ihb

/-- The first letter of the word for an infinity is foreign. -/
theorem foreign_letter : Foreign 'I' := by
  refine ⟨by decide, by decide, ?_, by decide, by decide⟩
  intro op
  cases op <;> decide

end foreign

variable {row : Row} {name : String}

/-! ## Words -/

/-- The text of an infinite number is a word. -/
theorem letter_mem_plainChars {x : Binary64} (hnan : x.isNaN = false)
    (hfin : x.isFinite = false) : 'I' ∈ x.plainChars := by
  cases x with
  | nan s p h => cases hnan
  | finite s m e h => cases hfin
  | infinite s => exact List.mem_append_right _ List.mem_cons_self

/-- The value of a name in a row is never NaN. -/
theorem isNaN_valueIn (row : Row) (name : String) : (valueIn row name).isNaN = false := by
  unfold valueIn
  cases row.get? name with
  | none => rfl
  | some cell => exact cell.isNaN_toNumberOrZero

/-! ## Formulas in rows -/

/-- A text that can be read refers to finite numbers only. -/
theorem isFinite_of_read {formula : String} {e : Expr Operand} {v : Binary64}
    (h : Spells Operand.Written formula.toList e)
    (hread : read (Formula.substitute formula row).toList = .ok v) (hname : name ∈ e.names) :
    (valueIn row name).isFinite = true := by
  by_contra hinf
  rw [Bool.not_eq_true] at hinf
  obtain ⟨segs, w, hsegs, -, hspell⟩ := h.segments_eq row
  obtain ⟨d, ⟨t, u, ht, hderives, hu⟩, -, -⟩ := read_eq_ok_iff.1 hread
  rw [toList_substitute hsegs] at ht
  rw [← hspell.names] at hname
  obtain ⟨seg, hseg, hsome⟩ := List.mem_filterMap.1 hname
  obtain rfl : seg = .reference name := by
    cases seg with
    | mark c => cases hsome
    | reference other => rw [Option.some.inj hsome]
  have hletter := letter_mem_plainChars (isNaN_valueIn row name) hinf
  have hmem : 'I' ∈ t ++ u := by
    rw [← ht]
    exact List.mem_append_left _ (List.mem_flatMap.2 ⟨_, hseg, hletter⟩)
  rcases List.mem_append.1 hmem with hmem | hmem
  · exact hderives.not_mem foreign_letter hmem
  · exact not_mem_of_spaces foreign_letter.space hu hmem

/-- **When a calculated cell is null.** A well-formed formula has a value exactly in the rows where
every number that it refers to is finite, and in the others the calculated cell is null. -/
theorem evaluateRow_isOk_iff {formula : String} {e : Expr Operand}
    (h : Spells Operand.Written formula.toList e) (hdepth : e.depth ≤ 255) :
    ((∃ v, evaluateRow formula row = .ok v) ↔
        ∀ name ∈ e.names, (valueIn row name).isFinite = true) ∧
      (RowChange.calculate formula row = .null ↔
        ∃ name ∈ e.names, (valueIn row name).isFinite = false) := by
  have hok : (∃ v, evaluateRow formula row = .ok v) ↔
      ∀ name ∈ e.names, (valueIn row name).isFinite = true := by
    constructor
    · rintro ⟨v, hv⟩ name hname
      rw [evaluateRow, evaluate_eq_read] at hv
      exact isFinite_of_read h hv hname
    · intro hfin
      refine ⟨e.eval (Operand.value row), ?_⟩
      rw [evaluateRow, evaluate_eq_read]
      exact read_substitute h hdepth hfin
  refine ⟨hok, ?_⟩
  have hnull : RowChange.calculate formula row = .null ↔ ¬∃ v, evaluateRow formula row = .ok v := by
    unfold RowChange.calculate
    cases evaluateRow formula row <;> simp
  rw [hnull, hok]
  simp only [not_forall, Bool.not_eq_true, exists_prop]

/-- The formula spells a quotient with a reference. -/
theorem spells_reciprocal : Spells Operand.Written "1/\x7ba\x7d".toList
    (.binary .div (.leaf (.literal ['1'])) (.leaf (.reference "a"))) := by
  have hone := Derives.of_leaf (Operand.Written.literal (@Decimal.plain_digit '1' (by decide)))
  have ha := Derives.of_leaf (@Operand.Written.reference "a" (by decide))
  have hquotient := @Derives.product _ _ _ [] _ _ _ .div (.factor hone) nofun rfl ha
  exact ⟨_, [], rfl, .term hquotient, nofun⟩

/-- The reciprocal of a column has a value where the cell is `4`, and none where it is infinite. -/
theorem calculate_reciprocal :
    (∃ v, evaluateRow "1/\x7ba\x7d" (.ofList [("a", .number (.ofNat 4))]) = .ok v) ∧
      RowChange.calculate "1/\x7ba\x7d" (.ofList [("a", .text "Infinity")]) = .null :=
  ⟨(evaluateRow_isOk_iff spells_reciprocal (by decide)).1.2 (by decide +kernel),
    (evaluateRow_isOk_iff spells_reciprocal (by decide)).2.2 ⟨"a", by decide, by decide +kernel⟩⟩

/-- A well-formed formula without a value: the first letter of the pasted word is refused. -/
theorem not_isOk_reciprocal :
    (∃ e, Spells Operand.Written "1/\x7ba\x7d".toList e ∧ e.depth ≤ 255) ∧
      evaluateRow "1/\x7ba\x7d" (.ofList [("a", .text "Infinity")]) =
        .error (.unexpectedChar 'I' 2) :=
  ⟨⟨_, spells_reciprocal, by decide⟩, by decide +kernel⟩

end Formula

end Dashboard
