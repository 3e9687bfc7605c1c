import Dashboard.Proofs.Numeral
import Dashboard.Proofs.Numeral.Denotation
import Mathlib.Data.List.Induction
import Mathlib.Data.Nat.Digits.Defs

/-!
# Numeral.Strict · the texts that read strictly

```text
number      := blank | literal | hexadecimal
hexadecimal := '0' ('x' | 'X') hexdigits        with a value below 2 ^ 64
```

* **`HexLiteral`** is a hexadecimal literal, with its text `chars` and its `value`. **`Form`** are
  all documented forms of a number, with what they denote.
* **`ReadsAsDocumented t x`**: `x` is what the text `t` should be read as. Each form that has this
  text denotes `x`, and without a form `x` is not a number.
* **`hexadecimal?_eq_some_iff`**: the digits of a hexadecimal literal are read with a plus sign in
  front of them, too.
* **`strict_readsAsDocumented_iff`**: all texts are read as documented but the hexadecimal literals
  with a plus sign behind the mark. These read like the literals without the sign.
-/

namespace Dashboard

open Text Decimal

namespace Numeral

variable {t ds : List Char} {n : Nat} {x : Binary64}

/-! ## Hexadecimal literals -/

/-- The value of a hexadecimal digit, and `0` for any other character. -/
def hexValue (c : Char) : Nat := (hexDigit? c).getD 0

/-- The natural number that hexadecimal digits write. -/
def ofHexDigits (ds : List Char) : Nat := Nat.ofDigits 16 (ds.map hexValue).reverse

/-- A hexadecimal literal: a mark and one or more digits, with a value below `2 ^ 64`. -/
structure HexLiteral where
  mark : Char
  digits : List Char
  isMark : mark = 'x' ∨ mark = 'X'
  isDigit : ∀ c ∈ digits, (hexDigit? c).isSome = true
  ne_nil : digits ≠ []
  value_lt : ofHexDigits digits < 2 ^ (64 : Nat)

namespace HexLiteral

def chars (h : HexLiteral) : List Char := '0' :: h.mark :: h.digits

/-- The text with a plus sign behind the mark. -/
def charsWithPlus (h : HexLiteral) : List Char := '0' :: h.mark :: '+' :: h.digits

def value (h : HexLiteral) : Nat := ofHexDigits h.digits

/-- What the literal denotes: the double nearest to its value. -/
def Denotes (h : HexLiteral) (x : Binary64) : Prop :=
  Binary64.IsNearest false (h.value * Binary64.unitsPerOne : Nat) x

end HexLiteral

/-- One more digit multiplies by sixteen. -/
theorem ofHexDigits_append (ds : List Char) (c : Char) :
    ofHexDigits (ds ++ [c]) = 16 * ofHexDigits ds + hexValue c := by
  rw [ofHexDigits, List.map_append, List.map_singleton, List.reverse_concat, Nat.ofDigits_cons,
    ← ofHexDigits, Nat.add_comm]

/-- The digits are read from left to right. -/
theorem foldlM_hexDigit?_eq_some_iff :
    ds.foldlM (fun n c => (hexDigit? c).map (16 * n + ·)) 0 = some n ↔
      (∀ c ∈ ds, (hexDigit? c).isSome = true) ∧ ofHexDigits ds = n := by
  induction ds using List.reverseRecOn generalizing n with
  | nil =>
      rw [List.foldlM_nil]
      simp [ofHexDigits]
  | append_singleton ds c ih =>
      rw [List.foldlM_append, Option.bind_eq_bind, Option.bind_eq_some_iff, ofHexDigits_append]
      constructor
      · rintro ⟨m, hm, hn⟩
        obtain ⟨hds, rfl⟩ := ih.1 hm
        obtain ⟨v, hv, rfl⟩ : ∃ v, hexDigit? c = some v ∧ 16 * ofHexDigits ds + v = n := by
          simpa using hn
        refine ⟨List.forall_mem_append.2 ⟨hds, ?_⟩, by rw [hexValue, hv, Option.getD_some]⟩
        simp [hv]
      · rintro ⟨hds, rfl⟩
        obtain ⟨hds, hc⟩ := List.forall_mem_append.1 hds
        obtain ⟨v, hv⟩ := Option.isSome_iff_exists.1 (hc c (List.mem_singleton_self c))
        exact ⟨_, ih.2 ⟨hds, rfl⟩, by simp [hexValue, hv]⟩

/-- Digits are read if there are any and all are hexadecimal. -/
theorem ofDigits?_hexDigit?_eq_some_iff :
    ofDigits? hexDigit? 16 ds = some n ↔
      ds ≠ [] ∧ (∀ c ∈ ds, (hexDigit? c).isSome = true) ∧ ofHexDigits ds = n := by
  cases ds with
  | nil => simp [ofDigits?]
  | cons c ds => simp only [ofDigits?, foldlM_hexDigit?_eq_some_iff, ne_eq, reduceCtorEq,
      not_false_eq_true, true_and]

/-- The digits behind the mark, and a plus sign that may stand in front of them. -/
theorem hexadecimal?_eq_some_iff {mark : Char} (hmark : mark = 'x' ∨ mark = 'X') :
    hexadecimal? t = some n ↔
      ∃ h : HexLiteral, h.mark = mark ∧ (h.digits = t ∨ '+' :: h.digits = t) ∧ h.value = n := by
  have hread : ∀ ds,
      (ofDigits? hexDigit? 16 ds).filter (fun n => decide (n < 2 ^ (64 : Nat))) = some n ↔
        ∃ h : HexLiteral, h.mark = mark ∧ h.digits = ds ∧ h.value = n := by
    intro ds
    rw [Option.filter_eq_some_iff, ofDigits?_hexDigit?_eq_some_iff, decide_eq_true_iff]
    constructor
    · rintro ⟨⟨hne, hdigit, rfl⟩, hlt⟩
      exact ⟨⟨mark, ds, hmark, hdigit, hne, hlt⟩, rfl, rfl, rfl⟩
    · rintro ⟨h, -, rfl, rfl⟩
      exact ⟨⟨h.ne_nil, h.isDigit, rfl⟩, h.value_lt⟩
  unfold hexadecimal?
  split
  · rename_i r
    rw [hread]
    constructor
    · rintro ⟨h, hh, rfl, hn⟩
      exact ⟨h, hh, .inr rfl, hn⟩
    · rintro ⟨h, hh, hdigits | hdigits, hn⟩
      · exact absurd (h.isDigit '+' (by rw [hdigits]; exact List.mem_cons_self)) (by decide)
      · exact ⟨h, hh, (List.cons.inj hdigits).2, hn⟩
  · rename_i hplus
    rw [hread]
    constructor
    · rintro ⟨h, hh, rfl, hn⟩
      exact ⟨h, hh, .inl rfl, hn⟩
    · rintro ⟨h, hh, hdigits | hdigits, hn⟩
      · exact ⟨h, hh, hdigits, hn⟩
      · exact absurd hdigits.symm (hplus _)

/-- Behind the mark a hexadecimal number is read, or else NaN. -/
theorem strictTrimmed_mark {mark : Char} (hmark : mark = 'x' ∨ mark = 'X') {r : List Char} :
    strictTrimmed ('0' :: mark :: r) = ((hexadecimal? r).map Binary64.ofNat).getD .quietNaN := by
  rcases hmark with rfl | rfl <;> rfl

namespace HexLiteral

variable (h : HexLiteral)

/-- A hexadecimal number denotes the double of its value. -/
theorem denotes_ofNat : h.Denotes (.ofNat h.value) := by
  have hnearest := Binary64.isNearest_ofUnits false (h.value * Binary64.unitsPerOne) Nat.one_pos
  rwa [Nat.cast_one, div_one] at hnearest

/-- A hexadecimal number is read as the double of its value. -/
theorem strictTrimmed_chars : strictTrimmed h.chars = .ofNat h.value := by
  rw [chars, strictTrimmed_mark h.isMark,
    (hexadecimal?_eq_some_iff h.isMark).2 ⟨h, rfl, .inl rfl, rfl⟩, Option.map_some,
    Option.getD_some]

/-- With a plus sign behind the mark it is read in the same way. -/
theorem strictTrimmed_charsWithPlus : strictTrimmed h.charsWithPlus = .ofNat h.value := by
  rw [charsWithPlus, strictTrimmed_mark h.isMark,
    (hexadecimal?_eq_some_iff h.isMark).2 ⟨h, rfl, .inr rfl, rfl⟩, Option.map_some,
    Option.getD_some]

end HexLiteral

/-! ## The documented forms -/

/-- The documented forms of a number. -/
inductive Form where
  | blank
  | literal (l : Literal)
  | hexadecimal (h : HexLiteral)

namespace Form

/-- The text of a form, without white space at its ends. -/
def chars : Form → List Char
  | .blank => []
  | .literal l => l.chars
  | .hexadecimal h => h.chars

/-- What a form denotes: blank text denotes zero. -/
def Denotes : Form → Binary64 → Prop
  | .blank, x => x = .zero false
  | .literal l, x => l.Denotes x
  | .hexadecimal h, x => h.Denotes x

/-- No form denotes NaN. -/
theorem isNaN_of_denotes {f : Form} (h : f.Denotes x) : x.isNaN = false := by
  cases f with
  | blank =>
      obtain rfl : x = .zero false := h
      rfl
  | literal l => rw [← Literal.denotes_iff.1 h, l.isNaN_value]
  | hexadecimal => exact Binary64.IsNearest.isNaN_eq h

/-- A text of one of the forms is read as what the form denotes. -/
theorem denotes_strictChars {s : List Char} (f : Form) (h : f.chars = trim s) :
    f.Denotes (strictChars s) := by
  cases f with
  | blank =>
      rw [strictChars, ← h]
      rfl
  | literal l =>
      have hl : l.chars = trim s := h
      rw [strictChars_of_trim_ne_nil (hl ▸ l.chars_ne_nil), ← hl, strictTrimmed_literal]
      exact l.denotes_value
  | hexadecimal hex =>
      have hhex : hex.chars = trim s := h
      rw [strictChars_of_trim_ne_nil (hhex ▸ List.cons_ne_nil _ _), ← hhex,
        hex.strictTrimmed_chars]
      exact hex.denotes_ofNat

/-- A plus sign behind the mark stands in none of the forms. -/
theorem chars_ne_charsWithPlus (f : Form) (h : HexLiteral) : f.chars ≠ h.charsWithPlus := by
  intro heq
  cases f with
  | blank => cases heq
  | literal l =>
      cases l with
      | infinity sign =>
          cases sign <;> exact absurd (List.cons.inj heq).1 (by decide)
      | decimal l =>
          have hl : l.chars = h.charsWithPlus := heq
          have hmark := l.occursInLiteral_chars h.mark (by
            rw [hl]
            exact List.mem_cons_of_mem _ List.mem_cons_self)
          rcases h.isMark with hx | hx <;> rw [hx] at hmark <;> exact absurd hmark (by decide)
  | hexadecimal hex =>
      have hdigits : hex.digits = '+' :: h.digits := (List.cons.inj (List.cons.inj heq).2).2
      exact absurd (hex.isDigit '+' (by rw [hdigits]; exact List.mem_cons_self)) (by decide)

end Form

/-- What is read as a number has one of the forms, or a plus sign behind the mark of its hexadecimal
digits. -/
theorem exists_form_of_isNaN_eq_false (h : (strictTrimmed t).isNaN = false) :
    (∃ f : Form, f.chars = t) ∨ ∃ hex : HexLiteral, hex.charsWithPlus = t := by
  cases hmark : ['0', 'x'].isPrefixOf t || ['0', 'X'].isPrefixOf t with
  | true =>
      obtain ⟨mark, r, hm, rfl⟩ := exists_mark hmark
      rw [strictTrimmed_mark hm] at h
      cases hread : hexadecimal? r with
      | none =>
          rw [hread] at h
          cases h
      | some n =>
          obtain ⟨hex, rfl, hdigits, -⟩ := (hexadecimal?_eq_some_iff hm).1 hread
          rcases hdigits with rfl | rfl
          · exact .inl ⟨.hexadecimal hex, rfl⟩
          · exact .inr ⟨hex, rfl⟩
  | false =>
      obtain ⟨l, hl⟩ := exists_literal_of_strictTrimmed hmark h
      exact .inl ⟨.literal l, hl⟩

/-! ## The strict reading -/

/-- What a trimmed text should be read as. -/
structure ReadsAsDocumented (t : List Char) (x : Binary64) : Prop where
  /-- Each form with this text denotes the number. -/
  denotes (f : Form) : f.chars = t → f.Denotes x ∧ x.isNaN = false
  /-- Without a form the text is not a number. -/
  isNaN_eq : (∀ f : Form, f.chars ≠ t) → x.isNaN = true

/-- **The strict reading.** A text is read as documented unless a plus sign stands between the mark
and the digits of a hexadecimal literal. Then it is read like the literal without the sign. -/
theorem strict_readsAsDocumented_iff (s : String) :
    (ReadsAsDocumented (trim s.toList) (strict s) ↔
        ∀ hex : HexLiteral, hex.charsWithPlus ≠ trim s.toList) ∧
      ∀ hex : HexLiteral, hex.charsWithPlus = trim s.toList → hex.Denotes (strict s) := by
  have hplus : ∀ hex : HexLiteral, hex.charsWithPlus = trim s.toList → hex.Denotes (strict s) := by
    intro hex hhex
    rw [strict, strictChars_of_trim_ne_nil (hhex ▸ List.cons_ne_nil _ _), ← hhex,
      hex.strictTrimmed_charsWithPlus]
    exact hex.denotes_ofNat
  refine ⟨⟨fun hreads hex hhex => ?_, fun hno => ⟨fun f hf => ?_, fun hforms => ?_⟩⟩, hplus⟩
  · have hnan := hreads.isNaN_eq fun f => hhex ▸ f.chars_ne_charsWithPlus hex
    rw [(hplus hex hhex).isNaN_eq] at hnan
    cases hnan
  · have hdenotes := f.denotes_strictChars hf
    exact ⟨hdenotes, Form.isNaN_of_denotes hdenotes⟩
  · by_contra hnumber
    rw [Bool.not_eq_true, strict,
      strictChars_of_trim_ne_nil fun hnil => hforms .blank hnil.symm] at hnumber
    rcases exists_form_of_isNaN_eq_false hnumber with ⟨f, hf⟩ | ⟨hex, hhex⟩
    · exact hforms f hf
    · exact hno hex hhex

/-- The hexadecimal literal `0x1F`. -/
def thirtyOne : HexLiteral :=
  ⟨'x', ['1', 'F'], .inl rfl, List.all_eq_true.1 (by decide), by decide, by decide⟩

/-- A decimal between white space is read as documented, and a plus sign behind the mark is
overlooked. -/
theorem readsAsDocumented_decimal_and_denotes_plus :
    ReadsAsDocumented (trim "\t-1.5e3 ".toList) (strict "\t-1.5e3 ") ∧
      thirtyOne.Denotes (strict "0x+1F") := by
  constructor
  · refine (strict_readsAsDocumented_iff "\t-1.5e3 ").1.2 fun hex hhex => ?_
    exact absurd (List.cons.inj hhex).1 (by decide)
  · exact (strict_readsAsDocumented_iff "0x+1F").2 thirtyOne (by decide)

/-- The text `0x+1F` has none of the documented forms, and it is read as a number. -/
theorem not_readsAsDocumented_plus :
    ¬ReadsAsDocumented (trim "0x+1F".toList) (strict "0x+1F") := by
  intro h
  have htrim : trim "0x+1F".toList = thirtyOne.charsWithPlus := by decide
  have hnan := h.isNaN_eq fun f => htrim ▸ f.chars_ne_charsWithPlus thirtyOne
  have hnumber : (strict "0x+1F").isNaN = false := by decide +kernel
  rw [hnumber] at hnan
  cases hnan

end Numeral

end Dashboard
