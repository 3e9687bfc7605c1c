import Dashboard.Proofs.Decimal.Nearest
import Dashboard.Proofs.Numeral.Literal

/-!
# Numeral.Denotation · what numeric literals denote

* **`Literal.Denotes`**: a literal denotes infinity or the double nearest to the decimal that it
  writes. The statement does not mention how the double is computed.
* **`Literal.value`** computes it (**`Literal.denotes_iff`**), and it depends on the text of the
  literal alone (**`Literal.value_eq_of_chars_eq`**).
-/

namespace Dashboard

namespace Numeral

namespace Literal

variable {l m : Literal} {x : Binary64}

/-- What a literal denotes. -/
def Denotes : Literal → Binary64 → Prop
  | .infinity sign, x => x = .infinite sign.isNegative
  | .decimal l, x => Binary64.IsNearest l.decimal.negative l.decimal.span x

/-- The double that a literal denotes. -/
def value : Literal → Binary64
  | .infinity sign => .infinite sign.isNegative
  | .decimal l => l.decimal.toBinary64

/-- A literal denotes its value. -/
theorem denotes_value (l : Literal) : l.Denotes l.value := by
  cases l with
  | infinity sign => rfl
  | decimal l => exact l.decimal.isNearest_toBinary64

/-- A literal denotes one double. -/
theorem denotes_iff : l.Denotes x ↔ l.value = x := by
  constructor
  · intro h
    cases l with
    | infinity sign => exact h.symm
    | decimal l => exact l.decimal.isNearest_toBinary64.unique h
  · rintro rfl
    exact denotes_value l

/-- No literal denotes NaN. -/
theorem isNaN_value (l : Literal) : l.value.isNaN = false := by
  cases l with
  | infinity sign => rfl
  | decimal l => exact l.decimal.isNearest_toBinary64.isNaN_eq

/-! ## Texts of literals -/

/-- No decimal is written like an infinity. -/
theorem decimal_chars_ne_infinity (l : DecimalLiteral) (sign : Sign) :
    l.chars ≠ (Literal.infinity sign).chars := by
  intro h
  have hletter : 'I' ∈ l.chars := by
    rw [h]
    exact List.mem_append_right _ List.mem_cons_self
  exact absurd (l.occursInLiteral_chars 'I' hletter) (by decide)

/-- Literals that are written alike have one value. -/
theorem value_eq_of_chars_eq (h : l.chars = m.chars) : l.value = m.value := by
  cases l with
  | infinity sign =>
      cases m with
      | infinity sign' =>
          have hsign : sign.chars = sign'.chars := List.append_cancel_right h
          rw [value, value]
          revert hsign
          cases sign <;> cases sign' <;> decide
      | decimal m => exact absurd h.symm (decimal_chars_ne_infinity m sign)
  | decimal l =>
      cases m with
      | infinity sign => exact absurd h (decimal_chars_ne_infinity l sign)
      | decimal m =>
          have hl := ofChars?_eq_some_iff_literal.2 ⟨l, rfl, rfl⟩
          have hm := ofChars?_eq_some_iff_literal.2 ⟨m, rfl, rfl⟩
          have hchars : l.chars = m.chars := h
          rw [hchars, hm] at hl
          rw [value, value, Option.some.inj hl]

/-- No literal is empty. -/
theorem chars_ne_nil (l : Literal) : l.chars ≠ [] := by
  cases l with
  | infinity sign => exact List.append_ne_nil_of_right_ne_nil _ (List.cons_ne_nil _ _)
  | decimal l =>
      obtain ⟨d, rest, hscan, -⟩ := l.exists_scan_append []
      intro hnil
      have hnil : l.chars = [] := hnil
      rw [hnil] at hscan
      cases hscan

end Literal

end Numeral

end Dashboard
