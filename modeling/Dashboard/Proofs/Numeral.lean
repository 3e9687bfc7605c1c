import Dashboard.Numeral
import Dashboard.Proofs.Decimal.ReadBack
import Dashboard.Proofs.Numeral.Leading

/-!
# Numeral · the strict and the lenient reading of a text

The strict reading takes a whole text, the lenient one takes the longest number at its head. Where
the first gives a number, the second gives the same one, with two exceptions: it finds no number in
white space, and of a hexadecimal literal it takes the zero before the mark.

* **`Numeral.strictTrimmed_literal`**, **`Numeral.exists_literal_of_strictTrimmed`**: but for
  hexadecimal literals, the strict reading reads literals and nothing else.
* **`Numeral.leadingChars?_eq`**: the lenient reading of a text that reads strictly. White space
  goes on with no literal, so the lenient reading takes all of a literal in front of it and no more.
* **`Numeral.strict_plainText`**: a printed number reads strictly as that number, where negative
  zero counts as zero.
-/

namespace Dashboard

open Text

namespace Decimal

variable {s : List Char}

/-! ## Signs -/

/-- A plain text has no sign. -/
theorem scanSign_of_plain (h : Plain s) : scanSign s = (false, s) :=
  scanSign_of_head fun c hc => h.chars c (List.mem_of_mem_head? hc)

/-- A minus sign in front of a text without a sign negates what is scanned. -/
theorem scan_minus (h : scanSign s = (false, s)) :
    scan ('-' :: s) = (scan s).map fun p => (p.1.withSign true, p.2) := by
  have hminus : scanSign ('-' :: s) = (true, s) := rfl
  simp only [scan, h, hminus]
  split <;> rfl

/-- A sign in front of a plain text is the sign of its decimal. -/
theorem ofChars?_signed (h : Plain s) (negative : Bool) :
    ofChars? (signChars negative ++ s) = some ((ofPlain s).withSign negative) := by
  have hplain : ofChars? s = some (ofPlain s) := (ofChars?_eq_some_iff h.chars).2 ⟨h, rfl⟩
  cases negative with
  | false => exact hplain
  | true =>
      have hscan := scan_minus (scanSign_of_plain h)
      rw [scan_of_ofChars? hplain] at hscan
      change ofChars? ('-' :: s) = _
      rw [ofChars?, hscan]
      rfl

/-- A plain text with perhaps a sign has characters of literals only. -/
theorem occursInLiteral_of_signed (h : Plain s) (negative : Bool) :
    ∀ c ∈ signChars negative ++ s, occursInLiteral c = true := by
  have hchars : ∀ c ∈ s, occursInLiteral c = true := fun c hc => by
    rcases h.chars c hc with hdigit | rfl
    · simp [occursInLiteral, hdigit]
    · decide
  cases negative with
  | false => exact hchars
  | true => exact List.forall_mem_cons.2 ⟨by decide, hchars⟩

end Decimal

namespace Numeral

variable {s : List Char}

/-! ## White space -/

/-- White space does not occur in decimals. -/
theorem not_occursInLiteral_of_isBlank {c : Char} (h : isBlank c = true) :
    Decimal.occursInLiteral c = false := by
  by_contra hliteral
  rw [Bool.not_eq_false] at hliteral
  simp only [Decimal.occursInLiteral, Bool.or_eq_true, beq_iff_eq] at hliteral
  rcases hliteral with ((((hdigit | rfl) | rfl) | rfl) | rfl) | rfl
  · rw [Char.isDigit, Bool.and_eq_true, decide_eq_true_iff, decide_eq_true_iff] at hdigit
    have hlow : 48 ≤ c.toNat := hdigit.1
    have hhigh : c.toNat ≤ 57 := hdigit.2
    simp only [isBlank, Bool.or_eq_true, Bool.and_eq_true, decide_eq_true_eq, beq_iff_eq] at h
    omega
  all_goals exact absurd h (by decide)

/-- White space does not occur in literals. -/
theorem not_occurs_of_isBlank {c : Char} (h : isBlank c = true) : Literal.occurs c = false := by
  have hword : infinityWord.any isBlank = false := by decide
  rw [Literal.occurs, not_occursInLiteral_of_isBlank h, Bool.or_false, Bool.eq_false_iff, ne_eq,
    List.contains_iff_mem]
  exact fun hmem => List.any_eq_false.1 hword c hmem h

/-- A text without the white space in front of it is the trimmed text and white space. -/
theorem exists_blanks (s : List Char) :
    ∃ blanks, trimStart s = trim s ++ blanks ∧ (∀ c ∈ blanks, isBlank c = true) := by
  refine ⟨((trimStart s).reverse.takeWhile isBlank).reverse, ?_, ?_⟩
  · rw [trim, trimEnd, ← List.reverse_append, List.takeWhile_append_dropWhile, List.reverse_reverse]
  · intro c hc
    exact List.mem_takeWhile_imp (List.mem_reverse.1 hc)

/-- A text of white space is trimmed away from its head as well. -/
theorem trimStart_eq_nil (h : trim s = []) : trimStart s = [] := by
  obtain ⟨blanks, hsplit, hblanks⟩ := exists_blanks s
  rw [h, List.nil_append] at hsplit
  -- what is left starts with no white space
  have hstop := stops_dropWhile isBlank s
  cases blanks with
  | nil => exact hsplit
  | cons c blanks =>
      have hhead : isBlank c = false := hstop c (by rw [← trimStart, hsplit]; rfl)
      rw [hblanks c List.mem_cons_self] at hhead
      cases hhead

/-! ## Both readings -/

/-- Whether the trimmed text starts with the mark of hexadecimal digits. -/
def isHexadecimal (s : List Char) : Bool :=
  ['0', 'x'].isPrefixOf (trim s) || ['0', 'X'].isPrefixOf (trim s)

variable {t : List Char}

/-- The mark of a hexadecimal number is a zero in front of an x, in either case. -/
theorem exists_mark (h : (['0', 'x'].isPrefixOf t || ['0', 'X'].isPrefixOf t) = true) :
    ∃ mark r, (mark = 'x' ∨ mark = 'X') ∧ t = '0' :: mark :: r := by
  rw [Bool.or_eq_true, List.isPrefixOf_iff_prefix, List.isPrefixOf_iff_prefix] at h
  rcases h with ⟨r, rfl⟩ | ⟨r, rfl⟩
  · exact ⟨'x', r, .inl rfl, rfl⟩
  · exact ⟨'X', r, .inr rfl, rfl⟩

/-- The lenient reading of a hexadecimal literal ends before its mark. -/
theorem leadingTrimmed?_hexadecimal {c : Char} (hc : c = 'x' ∨ c = 'X') (r : List Char) :
    leadingTrimmed? ('0' :: c :: r) = some (.zero false) := by
  rcases hc with rfl | rfl <;> rfl

/-- A text without a mark of hexadecimal digits is a word for infinity or is read as a decimal. -/
theorem strictTrimmed_cases
    (h : (['0', 'x'].isPrefixOf t || ['0', 'X'].isPrefixOf t) = false) :
    (t = infinityWord ∨ t = '+' :: infinityWord ∨ t = '-' :: infinityWord) ∨
      strictTrimmed t = ((Decimal.ofChars? t).map Decimal.toBinary64).getD .quietNaN := by
  unfold strictTrimmed
  split
  · rename_i hword
    exact .inl (hword.imp_right .inl)
  · split
    · rename_i hword
      exact .inl (.inr (.inr hword))
    · refine .inr ?_
      split
      · cases h
      · cases h
      · exact double?_of_literalBytes t

/-- No character of another kind stands in a text over the characters of literals. -/
theorem not_mem_of_occursInLiteral {c : Char} (h : ∀ c ∈ t, Decimal.occursInLiteral c = true)
    (hc : Decimal.occursInLiteral c = false) : c ∉ t := fun hmem => by
  rw [h c hmem] at hc
  cases hc

/-- A text over the characters of literals has no mark of hexadecimal digits. -/
theorem isPrefixOf_mark_eq_false (h : ∀ c ∈ t, Decimal.occursInLiteral c = true) :
    (['0', 'x'].isPrefixOf t || ['0', 'X'].isPrefixOf t) = false := by
  rw [Bool.eq_false_iff]
  intro hmark
  rw [Bool.or_eq_true, List.isPrefixOf_iff_prefix, List.isPrefixOf_iff_prefix] at hmark
  rcases hmark with hlower | hupper
  · exact not_mem_of_occursInLiteral h (by decide) (hlower.subset (by decide : 'x' ∈ ['0', 'x']))
  · exact not_mem_of_occursInLiteral h (by decide) (hupper.subset (by decide : 'X' ∈ ['0', 'X']))

/-- A text over the characters of literals is no word and has no mark of hexadecimal digits, so it
is read as a literal. -/
theorem strictTrimmed_of_occursInLiteral (h : ∀ c ∈ t, Decimal.occursInLiteral c = true) :
    strictTrimmed t = ((Decimal.ofChars? t).map Decimal.toBinary64).getD .quietNaN := by
  rcases strictTrimmed_cases (isPrefixOf_mark_eq_false h) with hword | hdecimal
  · have hforeign : 'I' ∉ t := not_mem_of_occursInLiteral h (by decide)
    rcases hword with rfl | rfl | rfl <;> exact absurd (by decide) hforeign
  · exact hdecimal

/-- A literal is read as the double that it denotes. -/
theorem strictTrimmed_literal (l : Literal) : strictTrimmed l.chars = l.value := by
  cases l with
  | infinity sign => cases sign <;> rfl
  | decimal l =>
      have hliteral := ofChars?_eq_some_iff_literal.2 ⟨l, rfl, rfl⟩
      rw [Literal.chars, strictTrimmed_of_occursInLiteral l.occursInLiteral_chars, hliteral,
        Option.map_some, Option.getD_some, Literal.value]

/-- Without a mark of hexadecimal digits, what reads strictly is a literal. -/
theorem exists_literal_of_strictTrimmed
    (h : (['0', 'x'].isPrefixOf t || ['0', 'X'].isPrefixOf t) = false)
    (hnumber : (strictTrimmed t).isNaN = false) : ∃ l : Literal, l.chars = t := by
  rcases strictTrimmed_cases h with hword | hdecimal
  · rcases hword with rfl | rfl | rfl
    · exact ⟨.infinity .absent, rfl⟩
    · exact ⟨.infinity .plus, rfl⟩
    · exact ⟨.infinity .minus, rfl⟩
  · rw [hdecimal] at hnumber
    cases hd : Decimal.ofChars? t with
    | none =>
        rw [hd] at hnumber
        cases hnumber
    | some d =>
        obtain ⟨l, hl, -⟩ := ofChars?_eq_some_iff_literal.1 hd
        exact ⟨.decimal l, hl⟩

/-- A text is read without the white space around it. -/
theorem strictChars_of_trim_ne_nil (h : trim s ≠ []) : strictChars s = strictTrimmed (trim s) := by
  have hempty : (trim s).isEmpty = false := by simpa using h
  rw [strictChars, hempty, if_neg Bool.false_ne_true]

/-- **The lenient reading of a text that reads strictly.** It finds no number in white space, and
the zero before the mark of a hexadecimal literal; any other text it reads as the same number. -/
theorem leadingChars?_eq (h : (strictChars s).isNaN = false) :
    leadingChars? s =
      if (trim s).isEmpty then none
      else if isHexadecimal s then some (.zero false)
      else some (strictChars s) := by
  obtain ⟨blanks, hsplit, hblanks⟩ := exists_blanks s
  have hstop : Stops Literal.occurs blanks := fun c hc =>
    not_occurs_of_isBlank (hblanks c (List.mem_of_mem_head? hc))
  rw [leadingChars?_eq_leadingTrimmed?]
  by_cases hnil : trim s = []
  · rw [trimStart_eq_nil hnil, hnil]
    rfl
  · have hempty : (trim s).isEmpty = false := by simpa using hnil
    rw [strictChars_of_trim_ne_nil hnil] at h ⊢
    rw [hsplit, hempty, if_neg Bool.false_ne_true]
    cases hhex : isHexadecimal s with
    | true =>
        obtain ⟨mark, r, hmark, hr⟩ := exists_mark hhex
        rw [if_pos rfl, hr]
        exact leadingTrimmed?_hexadecimal hmark _
    | false =>
        obtain ⟨l, hl⟩ := exists_literal_of_strictTrimmed hhex h
        rw [if_neg Bool.false_ne_true, ← hl, strictTrimmed_literal, leadingTrimmed?_append l hstop]

/-! ## Printed numbers -/

/-- Without white space there is nothing to trim. -/
theorem trim_eq_self (h : ∀ c ∈ s, isBlank c = false) : trim s = s := by
  have hstart : Stops isBlank s := fun c hc => h c (List.mem_of_mem_head? hc)
  have hend : Stops isBlank s.reverse := fun c hc =>
    h c (List.mem_reverse.1 (List.mem_of_mem_head? hc))
  rw [trim, trimStart, dropWhile_of_stops hstart, trimEnd, dropWhile_of_stops hend,
    List.reverse_reverse]

/-- There is nothing to trim from a decimal. -/
theorem trim_of_occursInLiteral (h : ∀ c ∈ s, Decimal.occursInLiteral c = true) : trim s = s :=
  trim_eq_self fun c hc => Bool.eq_false_iff.2 fun hblank => by
    have hliteral := h c hc
    rw [not_occursInLiteral_of_isBlank hblank] at hliteral
    cases hliteral

/-- A text of such characters is read as a decimal, or else as NaN. -/
theorem strictChars_of_occursInLiteral (hne : s ≠ [])
    (h : ∀ c ∈ s, Decimal.occursInLiteral c = true) :
    strictChars s = ((Decimal.ofChars? s).map Decimal.toBinary64).getD .quietNaN := by
  have hempty : s.isEmpty = false := by simpa using hne
  rw [strictChars, trim_of_occursInLiteral h, hempty, if_neg Bool.false_ne_true,
    strictTrimmed_of_occursInLiteral h]

section plain

variable {x : Binary64}

/-- A finite number is printed with the characters of literals. -/
theorem plainChars_of_isFinite (hfin : x.isFinite = true) :
    x.plainChars ≠ [] ∧ ∀ c ∈ x.plainChars, Decimal.occursInLiteral c = true := by
  obtain ⟨t, hplain, hchars, -⟩ := Decimal.exists_plain_plainChars hfin
  obtain ⟨c, hc, -⟩ := hplain.digit
  rw [hchars]
  exact ⟨List.append_ne_nil_of_right_ne_nil _ (List.ne_nil_of_mem hc),
    Decimal.occursInLiteral_of_signed hplain _⟩

/-- A printed number is not empty. -/
theorem isEmpty_trim_plainChars (h : x.isNaN = false) :
    (trim x.plainChars).isEmpty = false := by
  cases x with
  | nan => cases h
  | infinite s => cases s <;> decide
  | finite s m e hc =>
      obtain ⟨hne, hliteral⟩ := plainChars_of_isFinite (x := .finite s m e hc) rfl
      rw [trim_of_occursInLiteral hliteral]
      simpa using hne

/-- A printed finite number is read back, but for the sign of zero. -/
theorem strictChars_plainChars_of_isFinite (hfin : x.isFinite = true) :
    strictChars x.plainChars = x.dropZeroSign := by
  obtain ⟨hne, hliteral⟩ := plainChars_of_isFinite hfin
  obtain ⟨t, hplain, hchars, hvalue⟩ := Decimal.exists_plain_plainChars hfin
  rw [strictChars_of_occursInLiteral hne hliteral, hchars, Decimal.ofChars?_signed hplain,
    Option.map_some, hvalue, Option.getD_some]

/-- **Printed numbers read strictly.** -/
theorem strict_plainText (h : x.isNaN = false) : strict x.plainText = x.dropZeroSign := by
  rw [strict, Binary64.plainText, String.toList_ofList]
  cases x with
  | nan => cases h
  | infinite s => cases s <;> decide +kernel
  | finite => exact strictChars_plainChars_of_isFinite rfl

/-- A printed number is no hexadecimal literal. -/
theorem isHexadecimal_plainChars (h : x.isNaN = false) : isHexadecimal x.plainChars = false := by
  cases x with
  | nan => cases h
  | infinite s => cases s <;> decide
  | finite s m e hc =>
      obtain ⟨-, hliteral⟩ := plainChars_of_isFinite (x := .finite s m e hc) rfl
      rw [isHexadecimal, trim_of_occursInLiteral hliteral]
      exact isPrefixOf_mark_eq_false hliteral

end plain

end Numeral

end Dashboard
