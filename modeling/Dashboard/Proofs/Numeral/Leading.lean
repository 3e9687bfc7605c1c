import Dashboard.Proofs.Numeral.Denotation
import Dashboard.Proofs.Numeral.Scan

/-!
# Numeral.Leading · the lenient reading is maximal

The lenient reading of a text finds the longest numeric literal behind the white space in front, if
one stands there, and reads what this literal denotes.

* **`IsLongest t l`**: of all literals at the head of a text, `l` is the longest.
* **`leadingTrimmed?_cases`**: the scanner of characters finds it. For a word this is because no
  decimal starts with a letter, for a decimal because the scanner takes no less than any literal.
* **`leadingTrimmed?_append`**: in front of a rest that no literal goes on with, a literal is read.
* **`leading?_longest`**: the scanner of bytes finds the longest literal too, and it never fails on
  the way.
-/

namespace Dashboard

open Text Decimal

namespace Numeral

variable {t rest : List Char} {l m : Literal}

/-- Of all literals at the head of a text this is the longest. -/
structure IsLongest (t : List Char) (l : Literal) : Prop where
  isPrefix : l.chars <+: t
  length_le (m : Literal) : m.chars <+: t → m.chars.length ≤ l.chars.length

/-- There is one longest literal at the head of a text. -/
theorem IsLongest.chars_eq (hl : IsLongest t l) (hm : IsLongest t m) : l.chars = m.chars :=
  have hlength := hm.length_le l hl.isPrefix
  (List.prefix_of_prefix_length_le hl.isPrefix hm.isPrefix hlength).eq_of_length
    (le_antisymm hlength (hl.length_le m hm.isPrefix))

/-! ## The scanner of characters -/

/-- Behind the sign of a word stands the word. -/
theorem scanSign_infinity (sign : Sign) (rest : List Char) :
    scanSign ((Literal.infinity sign).chars ++ rest) = (sign.isNegative, infinityWord ++ rest) := by
  cases sign <;> rfl

/-- Behind the sign of a decimal stands no word. -/
theorem not_infinityWord_prefix (l : DecimalLiteral) (rest : List Char) :
    ¬infinityWord <+: (scanSign (l.chars ++ rest)).2 := by
  rw [l.scanSign_append]
  rintro ⟨r, hr⟩
  have hletter : (l.mantissa.chars ++ (l.exponentChars ++ rest)).head? = some 'I' := by
    rw [← show infinityWord ++ r = l.mantissa.chars ++ (l.exponentChars ++ rest) from hr]
    rfl
  exact absurd (l.mantissa.head_append _ 'I' hletter) (by decide)

/-- Where a word stands at the head of a text, no other literal does. -/
theorem chars_eq_of_word {sign : Sign} (h : t = (Literal.infinity sign).chars ++ rest)
    (hm : m.chars <+: t) : m.chars = (Literal.infinity sign).chars := by
  obtain ⟨rest', hrest'⟩ := hm
  cases m with
  | infinity sign' =>
      -- the first character tells the sign
      rw [h] at hrest'
      cases sign <;> cases sign' <;>
        first | rfl | exact absurd (List.cons.inj hrest').1 (by decide)
  | decimal m =>
      have hnot := not_infinityWord_prefix m rest'
      rw [show m.chars ++ rest' = t from hrest', h, scanSign_infinity] at hnot
      exact absurd ⟨rest, rfl⟩ hnot

/-- No infinity stands at the head of a text unless the word stands behind its sign. -/
theorem not_isPrefix_infinity {sign : Sign} (hword : ¬infinityWord <+: (scanSign t).2) :
    ¬(Literal.infinity sign).chars <+: t := by
  rintro ⟨rest, rfl⟩
  rw [scanSign_infinity] at hword
  exact hword ⟨rest, rfl⟩

/-- **The scanner of characters finds the longest literal.** -/
theorem leadingTrimmed?_cases (t : List Char) :
    (leadingTrimmed? t = none ∧ ∀ l : Literal, ¬l.chars <+: t) ∨
      ∃ l : Literal, IsLongest t l ∧ leadingTrimmed? t = some l.value := by
  have hstands : infinityWord.isPrefixOf (scanSign t).2 = true ↔ infinityWord <+: (scanSign t).2 :=
    List.isPrefixOf_iff_prefix
  unfold leadingTrimmed?
  by_cases hword : infinityWord <+: (scanSign t).2
  · obtain ⟨sign, hsplit, hsign⟩ := exists_sign t
    obtain ⟨rest, hrest⟩ := hword
    have ht : t = (Literal.infinity sign).chars ++ rest := by
      rw [Literal.chars, List.append_assoc, hrest, ← hsplit]
    refine .inr ⟨.infinity sign, ⟨⟨rest, ht.symm⟩, fun m hm => ?_⟩, ?_⟩
    · exact (congrArg List.length (chars_eq_of_word ht hm)).le
    · rw [if_pos (hstands.2 ⟨rest, hrest⟩), Literal.value, hsign]
  · rw [if_neg (hstands.not.2 hword)]
    cases hscan : scan t with
    | none =>
        refine .inl ⟨rfl, fun l hl => ?_⟩
        cases l with
        | infinity sign => exact not_isPrefix_infinity hword hl
        | decimal l =>
            obtain ⟨rest, hrest⟩ := hl
            obtain ⟨d, left, hsome, -⟩ := l.exists_scan_append rest
            rw [show l.chars ++ rest = t from hrest, hscan] at hsome
            cases hsome
    | some p =>
        obtain ⟨d, left⟩ := p
        obtain ⟨l, hl, rfl⟩ := exists_literal_of_scan hscan
        refine .inr ⟨.decimal l, ⟨⟨left, hl.symm⟩, fun m hm => ?_⟩, rfl⟩
        cases m with
        | infinity sign => exact absurd hm (not_isPrefix_infinity hword)
        | decimal m =>
            obtain ⟨rest, hrest⟩ := hm
            have hrest : m.chars ++ rest = t := hrest
            obtain ⟨d', left', hsome, hle⟩ := m.exists_scan_append rest
            rw [hrest, hscan] at hsome
            obtain ⟨-, rfl⟩ := Prod.mk.inj (Option.some.inj hsome)
            have hlength := congrArg List.length (hrest.trans hl)
            rw [List.length_append, List.length_append] at hlength
            change m.chars.length ≤ l.chars.length
            omega

/-! ## Literals in front of a rest -/

/-- Whether a character can stand somewhere in a word or a decimal. -/
def Literal.occurs (c : Char) : Bool := infinityWord.contains c || occursInLiteral c

/-- Literals consist of their own characters. -/
theorem Literal.occurs_chars (l : Literal) : ∀ c ∈ l.chars, Literal.occurs c = true := by
  cases l with
  | infinity sign => exact List.all_eq_true.1 (by cases sign <;> decide)
  | decimal l =>
      intro c hc
      rw [Literal.occurs, l.occursInLiteral_chars c hc, Bool.or_true]

/-- In front of a rest that no literal goes on with, a literal is the longest. -/
theorem isLongest_append (l : Literal) (hrest : Stops Literal.occurs rest) :
    IsLongest (l.chars ++ rest) l := by
  refine ⟨List.prefix_append _ _, fun m hm => Nat.not_lt.1 fun hlt => ?_⟩
  obtain ⟨more, hmore⟩ := List.prefix_of_prefix_length_le (List.prefix_append _ _) hm hlt.le
  rw [← hmore, List.prefix_append_right_inj] at hm
  cases more with
  | nil =>
      rw [← hmore, List.append_nil] at hlt
      exact absurd hlt (Nat.lt_irrefl _)
  | cons c more =>
      obtain ⟨rest', rfl⟩ := hm
      have hc := m.occurs_chars c (by
        rw [← hmore]
        exact List.mem_append_right _ List.mem_cons_self)
      rw [hrest c rfl] at hc
      cases hc

/-- A literal in front of other characters is read whole. -/
theorem leadingTrimmed?_append (l : Literal) (hrest : Stops Literal.occurs rest) :
    leadingTrimmed? (l.chars ++ rest) = some l.value := by
  have hl := isLongest_append l hrest
  rcases leadingTrimmed?_cases (l.chars ++ rest) with ⟨-, hno⟩ | ⟨m, hm, hsome⟩
  · exact absurd hl.isPrefix (hno l)
  · rw [hsome, Literal.value_eq_of_chars_eq (hm.chars_eq hl)]

/-! ## The lenient reading -/

/-- **The lenient reading.** Its scanner cuts the text only between characters, and what it has
scanned is always a literal. It answers nothing exactly if behind the white space in front stands no
literal, and a double exactly if the longest literal there denotes it. -/
theorem leading?_longest (s : String) :
    scanLeading s.toList = .ok (leading? s) ∧
      (leading? s = none ↔ ∀ l : Literal, ¬l.chars <+: trimStart s.toList) ∧
      ∀ x, leading? s = some x ↔ ∃ l, IsLongest (trimStart s.toList) l ∧ l.Denotes x := by
  have hleading : leading? s = leadingTrimmed? (trimStart s.toList) :=
    leadingChars?_eq_leadingTrimmed? s.toList
  rw [hleading]
  refine ⟨scanLeading_eq s.toList, ?_⟩
  rcases leadingTrimmed?_cases (trimStart s.toList) with ⟨hnone, hno⟩ | ⟨l, hl, hsome⟩
  · rw [hnone]
    refine ⟨⟨fun _ => hno, fun _ => rfl⟩, fun x => ⟨nofun, ?_⟩⟩
    rintro ⟨l, hl, -⟩
    exact absurd hl.isPrefix (hno l)
  · rw [hsome]
    refine ⟨⟨nofun, fun hno => absurd hl.isPrefix (hno l)⟩, fun x => ⟨fun hx => ?_, ?_⟩⟩
    · exact ⟨l, hl, Literal.denotes_iff.2 (Option.some.inj hx)⟩
    · rintro ⟨m, hm, hx⟩
      rw [← Literal.denotes_iff.1 hx, Literal.value_eq_of_chars_eq (hl.chars_eq hm)]

/-- A point at the end of the digits belongs to the number, an incomplete exponent does not. -/
example : scanLeading " -5.e+é".toList = .ok (some (.ofInt (-5))) := by decide +kernel

end Numeral

end Dashboard
