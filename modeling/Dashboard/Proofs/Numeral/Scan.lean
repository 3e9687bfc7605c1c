import Dashboard.Proofs.Numeral.Literal
import Dashboard.Proofs.Text.Bytes

/-!
# Numeral.Scan · the scanner of bytes and the scanner of characters

The lenient reading looks for the end of a number with positions in the bytes of the text, the
scanner of decimals goes through its characters. Both stop at the same place.

* **`restAt_sign`**, **`mantissaEnd?_cases`**, **`restAt_exponentEnd`**: each loop over bytes starts
  and ends between two characters, where the scanner of characters starts and ends.
* **`double?_chars`**, **`double?_dropPoints`**: the part that was scanned is read as the decimal
  that it writes, also without a point at its end.
* **`scanLeading_eq`**: no cut fails, the part in front of the last one is a literal, and the answer
  is that of the scanner of characters.
-/

namespace Dashboard

open Text Decimal

namespace Numeral

variable {t rest : List Char} {n : Nat}

/-! ## The loops over bytes -/

/-- Behind the sign the text goes on as the scanner of characters says. -/
theorem restAt_sign (h : RestAt t n rest) :
    RestAt t (skipOne ['+', '-'] (bytes t) n) (scanSign rest).2 := by
  have hrest : (scanSign rest).2 =
      if rest.head?.any ['+', '-'].contains then rest.tail else rest := by
    cases rest with
    | nil => rfl
    | cons c rest =>
        by_cases hc : c = '+' ∨ c = '-'
        · rcases hc with rfl | rfl <;> rfl
        · rw [not_or] at hc
          have hsign : scanSign (c :: rest) = (false, c :: rest) :=
            scanSign_append_of_ne .absent (by simpa using hc)
          rw [hsign]
          simp [hc.1, hc.2]
  rw [hrest]
  exact h.skipOne (by decide)

/-- The loops for the mantissa find no digit, or they stop where the mantissa ends. -/
theorem mantissaEnd?_cases (h : RestAt t n rest) :
    (mantissaEnd? (bytes t) n = none ∧ (scanDigits rest).1 ++ (scanPlaces rest).1 = []) ∨
      ∃ position, mantissaEnd? (bytes t) n = some position ∧
        (scanDigits rest).1 ++ (scanPlaces rest).1 ≠ [] ∧
        RestAt t position (scanPlaces rest).2 := by
  have hwhole : RestAt t (skipDigits (bytes t) n) (scanDigits rest).2 := h.skipDigits
  have hsome : n < skipDigits (bytes t) n ↔ (scanDigits rest).1 ≠ [] := h.lt_skipDigits_iff
  have hpoint : standsAt ['.'] (bytes t) (skipDigits (bytes t) n) =
      (scanDigits rest).2.head?.any ['.'].contains := hwhole.standsAt (by decide)
  unfold mantissaEnd?
  dsimp only
  by_cases hstands : standsAt ['.'] (bytes t) (skipDigits (bytes t) n) = true
  · obtain ⟨r, hr⟩ : ∃ r, (scanDigits rest).2 = '.' :: r := by
      obtain ⟨c, hc, hmem⟩ := (Option.any_eq_true _ _).1 (hpoint.symm.trans hstands)
      obtain rfl : c = '.' := by simpa using hmem
      exact List.head?_eq_some_iff.1 hc
    have hbehind := hwhole.step_of_standsAt (by decide) hstands
    rw [hr, List.tail_cons] at hbehind
    have hfraction : RestAt t _ (scanDigits r).2 := hbehind.skipDigits
    have hmore : _ ↔ (scanDigits r).1 ≠ [] := hbehind.lt_skipDigits_iff
    have hplaces : scanPlaces rest =
        if (scanDigits rest).1.isEmpty && (scanDigits r).1.isEmpty then ([], '.' :: r)
        else scanDigits r := by
      simp only [scanPlaces, hr, scanFraction]
    rw [if_pos hstands]
    by_cases hdigit : (scanDigits r).1 ≠ [] ∨ (scanDigits rest).1 ≠ []
    · have hempty : ((scanDigits rest).1.isEmpty && (scanDigits r).1.isEmpty) = false := by
        rw [Bool.and_eq_false_iff, List.isEmpty_eq_false_iff, List.isEmpty_eq_false_iff]
        exact hdigit.symm
      rw [hempty, if_neg Bool.false_ne_true] at hplaces
      rw [if_pos (hdigit.imp hmore.2 hsome.2), hplaces]
      refine .inr ⟨_, rfl, ?_, hfraction⟩
      rwa [ne_eq, List.append_eq_nil_iff, not_and_or, or_comm]
    · rw [if_neg fun hlt => hdigit (hlt.imp hmore.1 hsome.1)]
      rw [not_or, not_not, not_not] at hdigit
      rw [hdigit.1, hdigit.2, List.isEmpty_nil, Bool.and_self, if_pos rfl] at hplaces
      rw [hplaces, hdigit.2]
      exact .inl ⟨rfl, rfl⟩
  · have hplaces : scanPlaces rest = ([], (scanDigits rest).2) :=
      scanFraction_of_ne fun c hc hdot => hstands (by rw [hpoint, Option.mem_def.1 hc, hdot]; rfl)
    rw [if_neg hstands, hplaces, List.append_nil]
    by_cases hdigit : (scanDigits rest).1 = []
    · exact .inl ⟨if_neg fun hlt => hsome.1 hlt hdigit, hdigit⟩
    · exact .inr ⟨_, if_pos (hsome.2 hdigit), hdigit, hwhole⟩

/-- Behind the exponent the text goes on as the scanner of characters says. -/
theorem restAt_exponentEnd (h : RestAt t n rest) :
    RestAt t (exponentEnd (bytes t) n) (scanExponent rest).2 := by
  have hmark : standsAt ['e', 'E'] (bytes t) n = rest.head?.any ['e', 'E'].contains :=
    h.standsAt (by decide)
  unfold exponentEnd
  dsimp only
  by_cases hstands : standsAt ['e', 'E'] (bytes t) n = true
  · obtain ⟨c, r, rfl, hc⟩ : ∃ c r, rest = c :: r ∧ (c = 'e' ∨ c = 'E') := by
      obtain ⟨c, hc, hmem⟩ := (Option.any_eq_true _ _).1 (hmark.symm.trans hstands)
      obtain ⟨r, hr⟩ := List.head?_eq_some_iff.1 hc
      exact ⟨c, r, hr, by simpa using hmem⟩
    have hsign := restAt_sign (h.step_of_standsAt (by decide) hstands)
    rw [List.tail_cons] at hsign
    have hdigits : RestAt t _ (scanDigits (scanSign r).2).2 := hsign.skipDigits
    have hmore : _ ↔ (scanDigits (scanSign r).2).1 ≠ [] := hsign.lt_skipDigits_iff
    simp only [if_pos hstands, hmore, scanExponent, if_pos hc]
    by_cases hnone : (scanDigits (scanSign r).2).1 = []
    · simpa only [hnone, ne_eq, not_true_eq_false, if_false, List.isEmpty_nil, if_true] using h
    · simpa only [hnone, ne_eq, not_false_eq_true, if_true, List.isEmpty_eq_false_iff.2 hnone,
        Bool.false_eq_true, if_false] using hdigits
  · have hplace : scanExponent rest = (0, rest) :=
      scanExponent_of_ne fun c hc => by
        constructor <;> rintro rfl <;> exact hstands (by rw [hmark, Option.mem_def.1 hc]; rfl)
    rwa [if_neg hstands, hplace]

/-! ## The part that was scanned -/

/-- No character of a decimal begins the word for NaN. -/
theorem toLower_ne_of_occursInLiteral {c : Char} (h : occursInLiteral c = true) :
    c.toLower ≠ 'n' := by
  simp only [occursInLiteral, Bool.or_eq_true, beq_iff_eq] at h
  rcases h with ((((hdigit | rfl) | rfl) | rfl) | rfl) | rfl
  · have hlower : c.toLower = c := by
      rw [Char.isDigit, Bool.and_eq_true, decide_eq_true_iff, decide_eq_true_iff] at hdigit
      have hle : c.toNat ≤ 57 := hdigit.2
      refine dif_neg ?_
      rintro ⟨hge, -⟩
      have hge : 65 ≤ c.toNat := hge
      omega
    rw [hlower]
    rintro rfl
    exact absurd hdigit (by decide)
  all_goals decide

/-- Each word for a double has an `n`, which occurs in no literal. -/
theorem double?_of_occursInLiteral (h : ∀ c ∈ t, occursInLiteral c = true) :
    double? t = (ofChars? t).map toBinary64 := by
  obtain ⟨sign, hsplit, -⟩ := exists_sign t
  have hword : 'n' ∉ (scanSign t).2.map Char.toLower := by
    intro hmem
    obtain ⟨c, hc, hlower⟩ := List.mem_map.1 hmem
    exact toLower_ne_of_occursInLiteral
      (h c (by rw [hsplit]; exact List.mem_append_right _ hc)) hlower
  have hne : ∀ w : List Char, 'n' ∈ w → (scanSign t).2.map Char.toLower ≠ w := by
    rintro w hw rfl
    exact hword hw
  unfold double?
  dsimp only
  rw [if_neg (not_or.2 ⟨hne _ (by decide), hne _ (by decide)⟩), if_neg (hne _ (by decide))]

/-- A decimal is read as its double. -/
theorem double?_chars (l : DecimalLiteral) : double? l.chars = some l.decimal.toBinary64 := by
  rw [double?_of_occursInLiteral l.occursInLiteral_chars,
    ofChars?_eq_some_iff_literal.2 ⟨l, rfl, rfl⟩, Option.map_some]

/-- Points in front of digits stay. -/
theorem dropPoints_append_digits {ds : List Char} (hd : ∀ c ∈ ds, c.isDigit = true)
    (hne : ds ≠ []) (s : List Char) : dropPoints (s ++ ds) = s ++ ds := by
  obtain ⟨front, last, rfl⟩ : ∃ front last, ds = front ++ [last] :=
    ⟨_, _, (List.dropLast_concat_getLast hne).symm⟩
  have hlast : (last == '.') = false := by
    rw [beq_eq_false_iff_ne]
    rintro rfl
    exact absurd (hd '.' (by simp)) (by decide)
  rw [dropPoints, ← List.append_assoc, List.reverse_concat,
    List.dropWhile_cons_of_neg (by simp [hlast]), ← List.reverse_concat, List.reverse_reverse]

/-- A point at the end is dropped. -/
theorem dropPoints_append_point (s : List Char) : dropPoints (s ++ ['.']) = dropPoints s := by
  rw [dropPoints, List.reverse_concat, List.dropWhile_cons_of_pos rfl, ← dropPoints]

/-- A point at the end of a literal can be left out: the literal ends with digits, or with digits
and a point. -/
theorem exists_dropPoints (l : DecimalLiteral) :
    ∃ m : DecimalLiteral, m.chars = dropPoints l.chars ∧ m.decimal = l.decimal := by
  obtain ⟨sign, mantissa, exponent⟩ := l
  cases exponent with
  | some e =>
      refine ⟨_, ?_, rfl⟩
      have hdrop := dropPoints_append_digits e.isDigit e.ne_nil
        (sign.chars ++ (mantissa.chars ++ (e.mark :: e.sign.chars)))
      simpa [DecimalLiteral.chars, DecimalLiteral.exponentChars, Exponent.chars] using hdrop.symm
  | none =>
      have hchars (m : Mantissa) :
          (DecimalLiteral.mk sign m none).chars = sign.chars ++ m.chars := by
        simp [DecimalLiteral.chars, DecimalLiteral.exponentChars]
      cases hfraction : mantissa.fraction with
      | none =>
          obtain ⟨hmantissa, hne⟩ := mantissa.chars_of_none hfraction
          refine ⟨_, ?_, rfl⟩
          rw [hchars, hmantissa, dropPoints_append_digits mantissa.isDigit_whole hne]
      | some ds =>
          obtain ⟨hmantissa, hdigit, hne⟩ := mantissa.chars_of_some hfraction
          by_cases hnil : ds = []
          · subst hnil
            rw [List.append_nil] at hne
            refine ⟨⟨sign, ⟨mantissa.whole, none, by simpa using mantissa.isDigit_whole,
              by simpa using hne⟩, none⟩, ?_, ?_⟩
            · rw [hchars, hchars, hmantissa, ← List.append_assoc, dropPoints_append_point,
                dropPoints_append_digits mantissa.isDigit_whole hne, Mantissa.chars,
                Mantissa.pointChars, List.append_nil]
            · simp [DecimalLiteral.decimal, hfraction]
          · refine ⟨_, ?_, rfl⟩
            have hdrop :=
              dropPoints_append_digits hdigit hnil (sign.chars ++ (mantissa.whole ++ ['.']))
            simpa [hchars, hmantissa] using hdrop.symm

/-- Points at the end of a decimal do not change its double. -/
theorem double?_dropPoints (l : DecimalLiteral) :
    double? (dropPoints l.chars) = some l.decimal.toBinary64 := by
  obtain ⟨m, hchars, hdecimal⟩ := exists_dropPoints l
  rw [← hchars, double?_chars, hdecimal]

/-! ## Whole texts -/

/-- The bytes of literals are those of their characters. -/
theorem describes_isLiteralByte : Describes isLiteralByte occursInLiteral := by
  have hchars := describes_isDigitByte.or
    (@describes_contains ['.', 'e', 'E', '+', '-'] (by decide))
  have hliteral : occursInLiteral =
      fun c => c.isDigit || ['.', 'e', 'E', '+', '-'].contains c := by
    funext c
    simp [occursInLiteral, Bool.or_assoc, Bool.beq_eq_decide_eq]
  rw [hliteral]
  exact hchars

/-- What the test of bytes lets through is read as a decimal, and no decimal is held back. -/
theorem double?_of_literalBytes (t : List Char) :
    (if (bytes t).all isLiteralByte then (double? t).getD .quietNaN else .quietNaN) =
      ((ofChars? t).map toBinary64).getD .quietNaN := by
  rw [describes_isLiteralByte.all]
  by_cases hall : t.all occursInLiteral = true
  · rw [if_pos hall, double?_of_occursInLiteral (List.all_eq_true.1 hall)]
  · have hnone : ofChars? t = none := by
      cases hd : ofChars? t with
      | none => rfl
      | some d =>
          obtain ⟨l, rfl, -⟩ := ofChars?_eq_some_iff_literal.1 hd
          exact absurd (List.all_eq_true.2 l.occursInLiteral_chars) hall
    rw [if_neg hall, hnone]
    rfl

/-- The scanner of characters, on a text that starts with no white space. -/
def leadingTrimmed? (t : List Char) : Option Binary64 :=
  if infinityWord.isPrefixOf (scanSign t).2 then some (.infinite (scanSign t).1)
  else (scan t).map (·.1.toBinary64)

/-- A text can be cut where one of its end parts starts. -/
theorem exists_cutAt (h : RestAt t n rest) : ∃ l, cutAt t n = .ok (l, rest) ∧ t = l ++ rest := by
  obtain ⟨l, hcut⟩ := h
  exact ⟨l, by rw [cutAt, hcut], (eq_append_of_cut? hcut).1⟩

/-- A minus sign at the head is what the scanner takes for one. -/
theorem isPrefixOf_minus (t : List Char) : ['-'].isPrefixOf t = (scanSign t).1 := by
  unfold scanSign
  split
  · rfl
  · rfl
  · rename_i hminus
    rw [Bool.eq_false_iff, ne_eq, List.isPrefixOf_iff_prefix]
    rintro ⟨r, rfl⟩
    exact hminus r rfl

/-- **The scanner of bytes reads what the scanner of characters reads.** It never fails. -/
theorem scanLeading_eq (s : List Char) :
    scanLeading s = .ok (leadingTrimmed? (trimStart s)) := by
  unfold scanLeading leadingTrimmed?
  generalize trimStart s = t
  have hsign := restAt_sign (restAt_zero t)
  obtain ⟨signChars, hcut, -⟩ := exists_cutAt hsign
  simp only [hcut, isPrefixOf_minus, bind, Except.bind, pure, Except.pure]
  cases hword : infinityWord.isPrefixOf (scanSign t).2 with
  | true => rfl
  | false =>
      rcases mantissaEnd?_cases hsign with ⟨hnone, hdigits⟩ | ⟨position, hsome, hdigits, hrest⟩
      · have hscan := scan_eq t
        simp only [if_pos hdigits] at hscan
        rw [hnone, hscan]
        rfl
      · have hscan := scan_eq t
        simp only [if_neg hdigits] at hscan
        obtain ⟨l, hl, hdecimal⟩ := exists_literal_of_scan hscan
        obtain ⟨part, hpart, happend⟩ := exists_cutAt (restAt_exponentEnd hrest)
        obtain rfl : part = l.chars := List.append_cancel_right (happend.symm.trans hl)
        have hread := double?_dropPoints l
        rw [hdecimal] at hread
        simp only [hsome, hpart, hread, hscan, Bool.false_eq_true, if_false, Option.map_some]

/-- The reader of bytes reads what that of characters reads behind the white space. -/
theorem leadingChars?_eq_leadingTrimmed? (s : List Char) :
    leadingChars? s = leadingTrimmed? (trimStart s) := by
  rw [leadingChars?, scanLeading_eq]

end Numeral

end Dashboard
