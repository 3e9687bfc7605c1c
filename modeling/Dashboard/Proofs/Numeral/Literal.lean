import Dashboard.Numeral
import Dashboard.Proofs.Decimal.Literal

/-!
# Numeral.Literal · the grammar of numeric literals

```text
literal  := sign? ('Infinity' | decimal)
decimal  := mantissa exponent?
mantissa := digits ('.' digits?)? | '.' digits
exponent := ('e' | 'E') sign? digits
sign     := '+' | '-'
```

The grammar is stated by the parts of a literal, without reference to a scanner.

* **`Mantissa`**, **`Exponent`**, **`DecimalLiteral`** and **`Literal`** are the parts, each with
  its text `chars`. **`DecimalLiteral.decimal`** is the decimal that the text writes.
* **`exists_literal_of_scan`**: what the scanner of decimals takes from a text is a literal.
* **`exists_scan_append`**: it takes no less than any literal at the head of the text.
* **`ofChars?_eq_some_iff_literal`**: whole texts are read as decimals exactly if they are
  literals.
-/

namespace Dashboard

open Text

/-! ## The scanner on one more character -/

namespace Decimal

variable {s whole : List Char} {d : Decimal}

/-- Whether a character can stand somewhere in a literal. -/
def occursInLiteral (c : Char) : Bool :=
  c.isDigit || c == '.' || c == 'e' || c == 'E' || c == '+' || c == '-'

/-- Without a point there is no fraction. -/
theorem scanFraction_of_ne (h : ∀ c ∈ s.head?, c ≠ '.') : scanFraction whole s = ([], s) := by
  unfold scanFraction
  split
  · exact absurd rfl (h '.' rfl)
  · rfl

/-- Without a letter e there is no exponent. -/
theorem scanExponent_of_ne (h : ∀ c ∈ s.head?, c ≠ 'e' ∧ c ≠ 'E') : scanExponent s = (0, s) := by
  cases s with
  | nil => rfl
  | cons c s =>
      obtain ⟨hlower, hupper⟩ := h c rfl
      simp [scanExponent, hlower, hupper]

/-- A text that is a decimal is scanned to its end. -/
theorem scan_of_ofChars? (h : ofChars? s = some d) : scan s = some (d, []) := by
  unfold ofChars? at h
  split at h
  · rename_i hscan
    rw [hscan, Option.some.inj h]
  · cases h

end Decimal

open Decimal

namespace Numeral

/-! ## The parts of a literal -/

/-- A sign that may be left out. -/
inductive Sign where
  | absent
  | plus
  | minus
deriving DecidableEq, Repr

namespace Sign

def chars : Sign → List Char
  | .absent => []
  | .plus => ['+']
  | .minus => ['-']

def isNegative : Sign → Bool
  | .minus => true
  | _ => false

end Sign

/-- Digits with at most one point before, behind or between them. -/
structure Mantissa where
  /-- The digits in front of the point. -/
  whole : List Char
  /-- The digits behind the point; none if there is no point. -/
  fraction : Option (List Char)
  isDigit : ∀ c ∈ whole ++ fraction.getD [], c.isDigit = true
  ne_nil : whole ++ fraction.getD [] ≠ []

namespace Mantissa

/-- The point with the digits behind it. -/
def pointChars (m : Mantissa) : List Char :=
  match m.fraction with
  | some ds => '.' :: ds
  | none => []

def chars (m : Mantissa) : List Char := m.whole ++ m.pointChars

end Mantissa

/-- A power of ten. -/
structure Exponent where
  mark : Char
  sign : Sign
  digits : List Char
  isMark : mark = 'e' ∨ mark = 'E'
  isDigit : ∀ c ∈ digits, c.isDigit = true
  ne_nil : digits ≠ []

namespace Exponent

def chars (e : Exponent) : List Char := e.mark :: (e.sign.chars ++ e.digits)

def value (e : Exponent) : Int :=
  if e.sign.isNegative then -(ofDigits e.digits) else ofDigits e.digits

end Exponent

/-- A decimal literal: the exponent may be left out. -/
structure DecimalLiteral where
  sign : Sign
  mantissa : Mantissa
  exponent : Option Exponent

namespace DecimalLiteral

def exponentChars (l : DecimalLiteral) : List Char := l.exponent.elim [] Exponent.chars

def chars (l : DecimalLiteral) : List Char :=
  l.sign.chars ++ (l.mantissa.chars ++ l.exponentChars)

/-- The decimal that the literal writes: each digit behind the point takes one from the power of
ten. -/
def decimal (l : DecimalLiteral) : Decimal :=
  ⟨l.sign.isNegative, ofDigits (l.mantissa.whole ++ l.mantissa.fraction.getD []),
    l.exponent.elim 0 Exponent.value - (l.mantissa.fraction.getD []).length⟩

end DecimalLiteral

/-- A numeric literal. -/
inductive Literal where
  | infinity (sign : Sign)
  | decimal (l : DecimalLiteral)

/-- The text of a literal. -/
def Literal.chars : Literal → List Char
  | .infinity sign => sign.chars ++ infinityWord
  | .decimal l => l.chars

/-! ## The scanners of the parts -/

variable {s rest tail : List Char} {d : Decimal}

/-- The scanner of signs takes a sign. -/
theorem exists_sign (s : List Char) :
    ∃ sign : Sign, s = sign.chars ++ (scanSign s).2 ∧ sign.isNegative = (scanSign s).1 := by
  unfold scanSign
  split
  · exact ⟨.plus, rfl, rfl⟩
  · exact ⟨.minus, rfl, rfl⟩
  · exact ⟨.absent, rfl, rfl⟩

/-- The sign in front of other characters is scanned. -/
theorem scanSign_append_of_ne (sign : Sign) (h : ∀ c ∈ s.head?, c ≠ '+' ∧ c ≠ '-') :
    scanSign (sign.chars ++ s) = (sign.isNegative, s) := by
  cases sign with
  | plus => rfl
  | minus => rfl
  | absent =>
      rw [Sign.chars, List.nil_append]
      unfold scanSign
      split
      · exact absurd rfl (h '+' rfl).1
      · exact absurd rfl (h '-' rfl).2
      · rfl

/-- The digits and the point at the head of a text: the digits behind the point, and the rest. -/
def scanPlaces (s : List Char) : List Char × List Char :=
  scanFraction (scanDigits s).1 (scanDigits s).2

/-- The scanner of decimals by its parts. -/
theorem scan_eq (s : List Char) :
    scan s =
      let body := (scanSign s).2
      let ds := (scanDigits body).1 ++ (scanPlaces body).1
      let power := scanExponent (scanPlaces body).2
      if ds = [] then none
      else some (⟨(scanSign s).1, ofDigits ds, power.1 - (scanPlaces body).1.length⟩, power.2) := by
  simp only [scan, scanPlaces, Bool.and_eq_true, List.isEmpty_iff, List.append_eq_nil_iff]

/-- If there is a digit, the scanners of digits and places take a mantissa. -/
theorem exists_mantissa (h : (scanDigits s).1 ++ (scanPlaces s).1 ≠ []) :
    ∃ m : Mantissa, s = m.chars ++ (scanPlaces s).2 ∧ m.whole = (scanDigits s).1 ∧
      m.fraction.getD [] = (scanPlaces s).1 := by
  have hwhole : ∀ c ∈ (scanDigits s).1, c.isDigit = true := fun _ hc => List.mem_takeWhile_imp hc
  have hsplit : (scanDigits s).1 ++ (scanDigits s).2 = s := List.takeWhile_append_dropWhile
  have without : scanPlaces s = ([], (scanDigits s).2) → ∃ m : Mantissa,
      s = m.chars ++ (scanPlaces s).2 ∧ m.whole = (scanDigits s).1 ∧
        m.fraction.getD [] = (scanPlaces s).1 := by
    intro hplaces
    rw [hplaces, List.append_nil] at h
    refine ⟨⟨(scanDigits s).1, none, by simpa using hwhole, by simpa using h⟩, ?_, rfl, ?_⟩
    · rw [hplaces, Mantissa.chars, Mantissa.pointChars, List.append_nil, hsplit]
    · rw [hplaces]
      rfl
  cases hrest : (scanDigits s).2 with
  | nil => exact without (by rw [scanPlaces, hrest]; rfl)
  | cons c r =>
      by_cases hc : c = '.'
      · subst hc
        cases hnone : (scanDigits s).1.isEmpty && (scanDigits r).1.isEmpty with
        | true =>
            have hplaces : scanPlaces s = ([], (scanDigits s).2) := by
              simp only [scanPlaces, hrest, scanFraction, hnone, if_true]
            exact without hplaces
        | false =>
            have hplaces : scanPlaces s = ((scanDigits r).1, (scanDigits r).2) := by
              simp [scanPlaces, hrest, scanFraction, hnone]
            have hfraction : ∀ c ∈ (scanDigits r).1, c.isDigit = true :=
              fun _ hc => List.mem_takeWhile_imp hc
            rw [hplaces] at h
            refine ⟨⟨(scanDigits s).1, some (scanDigits r).1,
              List.forall_mem_append.2 ⟨hwhole, hfraction⟩, h⟩, ?_, rfl, ?_⟩
            · have hr : (scanDigits r).1 ++ (scanDigits r).2 = r :=
                List.takeWhile_append_dropWhile
              rw [hplaces, Mantissa.chars, Mantissa.pointChars, List.append_assoc,
                List.cons_append, hr, ← hrest, hsplit]
            · rw [hplaces]
              rfl
      · refine without ?_
        rw [scanPlaces, hrest]
        unfold scanFraction
        split
        · rename_i heq
          exact absurd (List.cons.inj heq).1 hc
        · rfl

/-- The scanner of exponents takes an exponent, if there is one. -/
theorem exists_exponent (s : List Char) :
    ∃ e : Option Exponent, s = e.elim [] Exponent.chars ++ (scanExponent s).2 ∧
      e.elim 0 Exponent.value = (scanExponent s).1 := by
  cases s with
  | nil => exact ⟨none, rfl, rfl⟩
  | cons c r =>
      by_cases hmark : c = 'e' ∨ c = 'E'
      · obtain ⟨sign, hr, hsign⟩ := exists_sign r
        cases hnone : (scanDigits (scanSign r).2).1.isEmpty with
        | true =>
            refine ⟨none, ?_, ?_⟩ <;> simp [scanExponent, hmark, hnone]
        | false =>
            refine ⟨some ⟨c, sign, (scanDigits (scanSign r).2).1, hmark,
              fun _ hc => List.mem_takeWhile_imp hc, by simpa using hnone⟩, ?_, ?_⟩
            · have hbody : (scanDigits (scanSign r).2).1 ++ (scanDigits (scanSign r).2).2 =
                  (scanSign r).2 := List.takeWhile_append_dropWhile
              simp only [Option.elim_some, Exponent.chars, scanExponent, if_pos hmark, hnone,
                Bool.false_eq_true, if_false, List.cons_append, List.append_assoc, hbody, ← hr]
            · simp only [Option.elim_some, Exponent.value, scanExponent, if_pos hmark, hnone,
                Bool.false_eq_true, if_false, hsign]
      · refine ⟨none, ?_, ?_⟩ <;> simp [scanExponent, hmark]

/-- **What the scanner takes from a text is a literal.** -/
theorem exists_literal_of_scan (h : scan s = some (d, rest)) :
    ∃ l : DecimalLiteral, s = l.chars ++ rest ∧ l.decimal = d := by
  simp only [scan_eq] at h
  split at h
  · cases h
  · rename_i hdigits
    obtain ⟨rfl, rfl⟩ := Prod.mk.inj (Option.some.inj h)
    obtain ⟨sign, hs, hsign⟩ := exists_sign s
    obtain ⟨m, hbody, hwhole, hfraction⟩ :=
      exists_mantissa hdigits
    obtain ⟨e, htail, hvalue⟩ := exists_exponent (scanPlaces (scanSign s).2).2
    refine ⟨⟨sign, m, e⟩, ?_, ?_⟩
    · rw [DecimalLiteral.chars, DecimalLiteral.exponentChars, List.append_assoc,
        List.append_assoc, ← htail, ← hbody, ← hs]
    · rw [DecimalLiteral.decimal, hwhole, hfraction, hvalue, hsign]

/-! ## Literals at the head of a text -/

/-- The first character of two texts in a row is that of the first one. -/
theorem mem_of_mem_head?_append {c : Char} (hne : s ≠ []) (hc : c ∈ (s ++ tail).head?) : c ∈ s := by
  obtain ⟨first, rest, rfl⟩ := List.exists_cons_of_ne_nil hne
  obtain rfl : first = c := by simpa using hc
  exact List.mem_cons_self

/-- Digits in front of a text are scanned with those at its head. -/
theorem scanDigits_append_of_digits {ds : List Char} (h : ∀ c ∈ ds, c.isDigit = true)
    (tail : List Char) :
    scanDigits (ds ++ tail) = (ds ++ (scanDigits tail).1, (scanDigits tail).2) := by
  simp only [scanDigits, List.takeWhile_append_of_pos h, List.dropWhile_append_of_pos h]

/-- Scanning digits leaves no more than there was. -/
theorem length_scanDigits_le (s : List Char) : (scanDigits s).2.length ≤ s.length :=
  (List.dropWhile_sublist _).length_le

/-- Scanning a fraction leaves no more than there was. -/
theorem length_scanFraction_le (whole s : List Char) :
    (scanFraction whole s).2.length ≤ s.length := by
  unfold scanFraction
  split
  · rename_i r
    have hle := length_scanDigits_le r
    dsimp only
    split
    · exact Nat.le_refl _
    · exact Nat.le_succ_of_le hle
  · exact Nat.le_refl _

namespace Mantissa

variable (m : Mantissa) {ds : List Char}

/-- The whole part consists of digits. -/
theorem isDigit_whole : ∀ c ∈ m.whole, c.isDigit = true :=
  fun c hc => m.isDigit c (List.mem_append_left _ hc)

/-- Without a fraction the mantissa is its whole part, which is not empty. -/
theorem chars_of_none (h : m.fraction = none) : m.chars = m.whole ∧ m.whole ≠ [] := by
  have hne := m.ne_nil
  rw [h, Option.getD_none, List.append_nil] at hne
  exact ⟨by rw [chars, pointChars, h, List.append_nil], hne⟩

/-- With a fraction the mantissa has a point and digits around it. -/
theorem chars_of_some (h : m.fraction = some ds) :
    m.chars = m.whole ++ '.' :: ds ∧ (∀ c ∈ ds, c.isDigit = true) ∧ m.whole ++ ds ≠ [] := by
  have hne := m.ne_nil
  have hdigit := m.isDigit
  rw [h, Option.getD_some] at hne hdigit
  exact ⟨by rw [chars, pointChars, h], fun c hc => hdigit c (List.mem_append_right _ hc), hne⟩

/-- A mantissa consists of digits and points. -/
theorem isDigit_or_point : ∀ c ∈ m.chars, c.isDigit = true ∨ c = '.' := by
  refine List.forall_mem_append.2 ⟨fun c hc => .inl (m.isDigit_whole c hc), ?_⟩
  unfold pointChars
  cases hfraction : m.fraction with
  | none => simp
  | some ds =>
      exact List.forall_mem_cons.2
        ⟨.inr rfl, fun c hc => .inl ((m.chars_of_some hfraction).2.1 c hc)⟩

/-- A mantissa begins with a digit or a point. -/
theorem head_append (tail : List Char) :
    ∀ c ∈ (m.chars ++ tail).head?, c.isDigit = true ∨ c = '.' := by
  have hne : m.chars ≠ [] := by
    cases hfraction : m.fraction with
    | none =>
        obtain ⟨hchars, hne⟩ := m.chars_of_none hfraction
        rwa [hchars]
    | some ds => simp [(m.chars_of_some hfraction).1]
  exact fun c hc => m.isDigit_or_point c (mem_of_mem_head?_append hne hc)

/-- The scanners of digits and places go through a mantissa. What is behind it they take as far as
it goes on with digits, and with a point if the mantissa has none. -/
theorem scanPlaces_append (tail : List Char) :
    match m.fraction with
    | none => (scanDigits (m.chars ++ tail)).1 = m.whole ++ (scanDigits tail).1 ∧
        scanPlaces (m.chars ++ tail) =
          scanFraction (m.whole ++ (scanDigits tail).1) (scanDigits tail).2
    | some ds => (scanDigits (m.chars ++ tail)).1 = m.whole ∧
        scanPlaces (m.chars ++ tail) = (ds ++ (scanDigits tail).1, (scanDigits tail).2) := by
  have hwhole := m.isDigit_whole
  cases hfraction : m.fraction with
  | none =>
      have hscan := scanDigits_append_of_digits hwhole tail
      rw [(m.chars_of_none hfraction).1]
      exact ⟨congrArg Prod.fst hscan, by rw [scanPlaces, hscan]⟩
  | some ds =>
      obtain ⟨hchars, hdigit, hne⟩ := m.chars_of_some hfraction
      have hscan : scanDigits (m.whole ++ '.' :: (ds ++ tail)) = (m.whole, '.' :: (ds ++ tail)) :=
        scanDigits_append hwhole (stops_cons.2 (by decide))
      rw [hchars, List.append_assoc, List.cons_append]
      refine ⟨congrArg Prod.fst hscan, ?_⟩
      have hempty : (m.whole.isEmpty && (ds ++ (scanDigits tail).1).isEmpty) = false := by
        rw [Bool.and_eq_false_iff, List.isEmpty_eq_false_iff, List.isEmpty_eq_false_iff]
        by_contra hnil
        rw [not_or, not_not, not_not, List.append_eq_nil_iff] at hnil
        exact hne (by rw [hnil.1, hnil.2.1, List.append_nil])
      simp only [scanPlaces, hscan, scanFraction, scanDigits_append_of_digits hdigit, hempty,
        Bool.false_eq_true, if_false]

/-- The scanners take at least the mantissa, with a digit. -/
theorem scanPlaces_append_le (tail : List Char) :
    (scanDigits (m.chars ++ tail)).1 ++ (scanPlaces (m.chars ++ tail)).1 ≠ [] ∧
      (scanPlaces (m.chars ++ tail)).2.length ≤ tail.length := by
  have hplaces := m.scanPlaces_append tail
  have hlength := length_scanDigits_le tail
  cases hfraction : m.fraction with
  | none =>
      simp only [hfraction] at hplaces
      rw [hplaces.1, hplaces.2]
      refine ⟨?_, (length_scanFraction_le _ _).trans hlength⟩
      simp [(m.chars_of_none hfraction).2]
  | some ds =>
      simp only [hfraction] at hplaces
      rw [hplaces.1, hplaces.2, ← List.append_assoc]
      exact ⟨List.append_ne_nil_of_left_ne_nil (m.chars_of_some hfraction).2.2 _, hlength⟩

/-- The scanners take exactly the mantissa if neither a digit nor a point stands behind it. -/
theorem scanPlaces_append_of_stops (h : ∀ c ∈ tail.head?, c.isDigit = false ∧ c ≠ '.') :
    (scanDigits (m.chars ++ tail)).1 = m.whole ∧
      scanPlaces (m.chars ++ tail) = (m.fraction.getD [], tail) := by
  have hplaces := m.scanPlaces_append tail
  have htail : scanDigits tail = ([], tail) :=
    @scanDigits_append [] tail (by simp) fun c hc => (h c hc).1
  have hpoint (whole : List Char) : scanFraction whole tail = ([], tail) :=
    scanFraction_of_ne fun c hc => (h c hc).2
  cases hfraction : m.fraction <;> simpa [hfraction, htail, hpoint] using hplaces

end Mantissa

namespace Exponent

variable (e : Exponent)

/-- The scanner of exponents takes an exponent and all digits behind it. -/
theorem scanExponent_append (tail : List Char) :
    scanExponent (e.chars ++ tail) =
      (if e.sign.isNegative then -(ofDigits (e.digits ++ (scanDigits tail).1) : Int)
        else ofDigits (e.digits ++ (scanDigits tail).1), (scanDigits tail).2) := by
  have hhead : ∀ c ∈ (e.digits ++ tail).head?, c ≠ '+' ∧ c ≠ '-' := by
    intro c hc
    have hdigit := e.isDigit c (mem_of_mem_head?_append e.ne_nil hc)
    constructor <;> rintro rfl <;> exact absurd hdigit (by decide)
  have hempty : (e.digits ++ (scanDigits tail).1).isEmpty = false :=
    List.isEmpty_eq_false_iff.2 (List.append_ne_nil_of_left_ne_nil e.ne_nil _)
  rw [chars, List.cons_append, List.append_assoc]
  simp only [scanExponent, if_pos e.isMark, scanSign_append_of_ne e.sign hhead,
    scanDigits_append_of_digits e.isDigit, hempty, Bool.false_eq_true, if_false]

/-- An exponent begins with no digit or point. -/
theorem head_chars : ∀ c ∈ (e.chars ++ tail).head?, c.isDigit = false ∧ c ≠ '.' := by
  intro c hc
  obtain rfl : e.mark = c := by simpa [chars] using hc
  rcases e.isMark with hmark | hmark <;> rw [hmark] <;> decide

end Exponent

/-- Scanning an exponent leaves no more than there was. -/
theorem length_scanExponent_le (s : List Char) : (scanExponent s).2.length ≤ s.length := by
  obtain ⟨e, hs, -⟩ := exists_exponent s
  exact (List.suffix_iff_exists_eq_append.2 ⟨_, hs⟩).length_le

namespace DecimalLiteral

variable (l : DecimalLiteral)

/-- Behind the sign of a literal stands its mantissa. -/
theorem scanSign_append (rest : List Char) :
    scanSign (l.chars ++ rest) =
      (l.sign.isNegative, l.mantissa.chars ++ (l.exponentChars ++ rest)) := by
  have hhead : ∀ c ∈ (l.mantissa.chars ++ (l.exponentChars ++ rest)).head?, c ≠ '+' ∧ c ≠ '-' := by
    intro c hc
    rcases l.mantissa.head_append _ c hc with hdigit | rfl
    · constructor <;> rintro rfl <;> exact absurd hdigit (by decide)
    · decide
  rw [chars, List.append_assoc, List.append_assoc]
  exact scanSign_append_of_ne l.sign hhead

/-- What the scanner leaves of a text with a literal at its head is no longer than what stands
behind the literal. -/
theorem length_rest_le (rest : List Char) :
    (scanExponent (scanPlaces (l.mantissa.chars ++ (l.exponentChars ++ rest))).2).2.length ≤
      rest.length := by
  unfold exponentChars
  cases l.exponent with
  | none =>
      rw [Option.elim_none, List.nil_append]
      exact (length_scanExponent_le _).trans (l.mantissa.scanPlaces_append_le rest).2
  | some e =>
      rw [Option.elim_some, (l.mantissa.scanPlaces_append_of_stops e.head_chars).2,
        e.scanExponent_append]
      exact length_scanDigits_le rest

/-- **The scanner takes no less than any literal at the head of a text.** -/
theorem exists_scan_append (rest : List Char) :
    ∃ d left, scan (l.chars ++ rest) = some (d, left) ∧ left.length ≤ rest.length := by
  have hdigits := (l.mantissa.scanPlaces_append_le (l.exponentChars ++ rest)).1
  have hscan := scan_eq (l.chars ++ rest)
  simp only [l.scanSign_append, if_neg hdigits] at hscan
  exact ⟨_, _, hscan, l.length_rest_le rest⟩

/-- The scanner on a literal. -/
theorem scan_chars : scan l.chars = some (l.decimal, []) := by
  have hsign := l.scanSign_append []
  have hplaces := @Mantissa.scanPlaces_append_of_stops (l.exponentChars ++ []) l.mantissa (by
    unfold exponentChars
    cases l.exponent with
    | none => simp
    | some e => exact e.head_chars)
  have hpower : scanExponent (l.exponentChars ++ []) = (l.exponent.elim 0 Exponent.value, []) := by
    unfold exponentChars
    cases l.exponent with
    | none => rfl
    | some e =>
        rw [Option.elim_some, e.scanExponent_append]
        simp [scanDigits, Exponent.value]
  have hscan := scan_eq (l.chars ++ [])
  simp only [hsign, hplaces.1, hplaces.2, hpower, if_neg l.mantissa.ne_nil] at hscan
  rwa [List.append_nil] at hscan

end DecimalLiteral

/-- **Whole texts.** A text is read as a decimal exactly if it is a decimal literal, as the one that
the literal writes. -/
theorem ofChars?_eq_some_iff_literal :
    ofChars? s = some d ↔ ∃ l : DecimalLiteral, l.chars = s ∧ l.decimal = d := by
  constructor
  · intro h
    obtain ⟨l, hs, hd⟩ := exists_literal_of_scan (scan_of_ofChars? h)
    exact ⟨l, by rw [hs, List.append_nil], hd⟩
  · rintro ⟨l, rfl, rfl⟩
    rw [ofChars?, l.scan_chars]

/-! ## The characters of literals -/

namespace DecimalLiteral

/-- A decimal consists of characters of literals. -/
theorem occursInLiteral_chars (l : DecimalLiteral) : ∀ c ∈ l.chars, occursInLiteral c = true := by
  have hdigit : ∀ c : Char, c.isDigit = true → occursInLiteral c = true := fun c hc => by
    simp [occursInLiteral, hc]
  have hsign (sign : Sign) : ∀ c ∈ sign.chars, occursInLiteral c = true :=
    List.all_eq_true.1 (by cases sign <;> decide)
  have hmantissa : ∀ c ∈ l.mantissa.chars, occursInLiteral c = true := fun c hc => by
    rcases l.mantissa.isDigit_or_point c hc with hc | rfl
    · exact hdigit c hc
    · decide
  have hexponent (e : Exponent) : ∀ c ∈ e.chars, occursInLiteral c = true := by
    refine List.forall_mem_cons.2 ⟨?_, List.forall_mem_append.2
      ⟨hsign e.sign, fun c hc => hdigit c (e.isDigit c hc)⟩⟩
    rcases e.isMark with hmark | hmark <;> rw [hmark] <;> decide
  refine List.forall_mem_append.2 ⟨hsign l.sign, List.forall_mem_append.2 ⟨hmantissa, ?_⟩⟩
  unfold exponentChars
  cases l.exponent with
  | none => simp
  | some e => exact hexponent e

end DecimalLiteral

end Numeral

end Dashboard
