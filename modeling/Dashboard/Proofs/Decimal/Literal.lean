import Dashboard.Decimal.Basic
import Dashboard.Proofs.Text.Span

/-!
# Decimal.Literal · which runs of digits and points are one decimal

The scanner of decimals goes through a text from left to right. Here its answer on a text without
a sign and without an exponent is given in closed form.

* **`ofChars?_digits`**, **`ofChars?_point`**: digits alone, and digits around one point.
* **`ofChars?_eq_some_iff`**: of the texts over digits and points, exactly those with a digit and
  at most one point are decimals (`Plain`), and the decimal is `ofPlain`.
-/

namespace Dashboard

namespace Decimal

open Text

/-- A text of digits and points with at least one digit and at most one point. -/
structure Plain (s : List Char) : Prop where
  /-- Only digits and points occur. -/
  chars : ∀ c ∈ s, c.isDigit = true ∨ c = '.'
  /-- A digit occurs. -/
  digit : ∃ c ∈ s, c.isDigit = true
  /-- No second point occurs. -/
  point : s.count '.' ≤ 1

/-- The decimal of a plain text: its digits without the point, and a place for each digit after
the point. -/
def ofPlain (s : List Char) : Decimal :=
  ⟨false, ofDigits (s.filter Char.isDigit), -((s.dropWhile Char.isDigit).length - 1 : Nat)⟩

/-! ## The parts of the scanner -/

/-- All digits in front of another character are scanned. -/
theorem scanDigits_append {ds rest : List Char} (hd : ∀ c ∈ ds, c.isDigit = true)
    (hr : Stops Char.isDigit rest) : scanDigits (ds ++ rest) = (ds, rest) := by
  unfold scanDigits
  rw [takeWhile_append_of_stops hd hr, dropWhile_append_of_stops hd hr]

/-- A text that starts with a digit or a point has no sign. -/
theorem scanSign_of_head {s : List Char} (h : ∀ c ∈ s.head?, c.isDigit = true ∨ c = '.') :
    scanSign s = (false, s) := by
  unfold scanSign
  split
  · exact absurd (h '+' rfl) (by decide)
  · exact absurd (h '-' rfl) (by decide)
  · rfl

/-- A text that starts with a point has no exponent. -/
theorem scanExponent_of_head {s : List Char} (h : ∀ c ∈ s.head?, c = '.') :
    scanExponent s = (0, s) := by
  cases s with
  | nil => rfl
  | cons c s =>
      obtain rfl : c = '.' := h c rfl
      rfl

/-- Digits in front of a point or an end begin with a digit or a point, if at all. -/
theorem head?_digits_append {ds rest : List Char} (hd : ∀ c ∈ ds, c.isDigit = true)
    (hr : ∀ c ∈ rest.head?, c = '.') : ∀ c ∈ (ds ++ rest).head?, c.isDigit = true ∨ c = '.' := by
  intro c hc
  cases ds with
  | nil => exact .inr (hr c hc)
  | cons d ds =>
      obtain rfl : d = c := by simpa using hc
      exact .inl (hd d List.mem_cons_self)

/-- The scanner on digits alone. -/
theorem scan_digits {ds : List Char} (hd : ∀ c ∈ ds, c.isDigit = true) :
    scan ds = if ds = [] then none else some (⟨false, ofDigits ds, 0⟩, []) := by
  have hsign : scanSign ds = (false, ds) := by
    have hhead : ∀ c ∈ (ds ++ []).head?, c.isDigit = true ∨ c = '.' :=
      head?_digits_append hd (by simp)
    rw [List.append_nil] at hhead
    exact scanSign_of_head hhead
  have hwhole : scanDigits (ds ++ []) = (ds, []) := scanDigits_append hd stops_nil
  rw [List.append_nil] at hwhole
  cases ds with
  | nil => rfl
  | cons d ds => simp [scan, hsign, hwhole, scanFraction, scanExponent]

/-- A point counts as one if a digit stands on either side of it. -/
theorem scanFraction_point {whole fraction rest : List Char}
    (hf : ∀ c ∈ fraction, c.isDigit = true) (hr : ∀ c ∈ rest.head?, c = '.') :
    scanFraction whole ('.' :: (fraction ++ rest)) =
      if whole = [] ∧ fraction = [] then ([], '.' :: (fraction ++ rest)) else (fraction, rest) := by
  have hstop : Stops Char.isDigit rest := by
    intro c hc
    rw [hr c hc]
    decide
  simp only [scanFraction, scanDigits_append hf hstop]
  simp

/-- The scanner on digits, a point, digits, and a rest that is empty or starts with another
point. -/
theorem scan_point {whole fraction rest : List Char} (hw : ∀ c ∈ whole, c.isDigit = true)
    (hf : ∀ c ∈ fraction, c.isDigit = true) (hr : ∀ c ∈ rest.head?, c = '.') :
    scan (whole ++ '.' :: (fraction ++ rest)) =
      if whole = [] ∧ fraction = [] then none
      else some (⟨false, ofDigits (whole ++ fraction), -(fraction.length : Int)⟩, rest) := by
  have hsign : scanSign (whole ++ '.' :: (fraction ++ rest)) =
      (false, whole ++ '.' :: (fraction ++ rest)) :=
    scanSign_of_head (head?_digits_append hw (by simp))
  have hwhole : scanDigits (whole ++ '.' :: (fraction ++ rest)) =
      (whole, '.' :: (fraction ++ rest)) := scanDigits_append hw (by simp)
  have hfraction := @scanFraction_point whole fraction rest hf hr
  by_cases hne : whole = [] ∧ fraction = []
  · simp only [scan, hsign, hwhole, hfraction, if_pos hne]
    simp [hne.1]
  · have hempty : (whole.isEmpty && fraction.isEmpty) = false := by simpa using hne
    simp only [scan, hsign, hwhole, hfraction, if_neg hne, hempty, scanExponent_of_head hr]
    simp

/-- Digits are read as a natural number. -/
theorem ofChars?_digits {ds : List Char} (hd : ∀ c ∈ ds, c.isDigit = true) (hne : ds ≠ []) :
    ofChars? ds = some ⟨false, ofDigits ds, 0⟩ := by
  rw [ofChars?, scan_digits hd, if_neg hne]

/-- Digits around a point are read with a place for each digit behind it. -/
theorem ofChars?_point {whole fraction : List Char} (hw : ∀ c ∈ whole, c.isDigit = true)
    (hf : ∀ c ∈ fraction, c.isDigit = true) (hne : ¬(whole = [] ∧ fraction = [])) :
    ofChars? (whole ++ '.' :: fraction) =
      some ⟨false, ofDigits (whole ++ fraction), -(fraction.length : Int)⟩ := by
  have h := @scan_point whole fraction [] hw hf (by simp)
  rw [List.append_nil] at h
  rw [ofChars?, h, if_neg hne]

/-! ## Plain texts -/

/-- A text over digits and points is a run of digits, or a run of digits, a point, another run
and a rest that is empty or starts with a second point. -/
theorem exists_runs {s : List Char} (h : ∀ c ∈ s, c.isDigit = true ∨ c = '.') :
    (∀ c ∈ s, c.isDigit = true) ∨
      ∃ whole fraction rest, s = whole ++ '.' :: (fraction ++ rest) ∧
        (∀ c ∈ whole, c.isDigit = true) ∧ (∀ c ∈ fraction, c.isDigit = true) ∧
        ∀ c ∈ rest.head?, c = '.' := by
  have point_of_stop : ∀ t : List Char, (∀ c ∈ t, c ∈ s) →
      ∀ c ∈ (t.dropWhile Char.isDigit).head?, c = '.' := by
    intro t ht c hc
    have hstop := stops_dropWhile Char.isDigit t c hc
    have hmem := ht c ((List.dropWhile_sublist _).subset (List.mem_of_mem_head? hc))
    rcases h c hmem with hd | hd
    · rw [hstop] at hd
      cases hd
    · exact hd
  have hs : s.takeWhile Char.isDigit ++ s.dropWhile Char.isDigit = s :=
    List.takeWhile_append_dropWhile
  cases hdrop : s.dropWhile Char.isDigit with
  | nil => exact .inl (List.dropWhile_eq_nil_iff.1 hdrop)
  | cons c t =>
      obtain rfl : c = '.' := point_of_stop s (fun _ hc => hc) c (by rw [hdrop]; rfl)
      have ht : ∀ c ∈ t, c ∈ s := by
        intro c hc
        rw [← hs, hdrop]
        simp [hc]
      refine .inr ⟨s.takeWhile Char.isDigit, t.takeWhile Char.isDigit, t.dropWhile Char.isDigit,
        ?_, ?_, ?_, point_of_stop t ht⟩
      · rw [List.takeWhile_append_dropWhile, ← hdrop, hs]
      · exact fun c hc => List.mem_takeWhile_imp hc
      · exact fun c hc => List.mem_takeWhile_imp hc

/-- There is no point among digits. -/
theorem count_point {ds : List Char} (hd : ∀ c ∈ ds, c.isDigit = true) : ds.count '.' = 0 := by
  rw [List.count_eq_zero]
  intro h
  exact absurd (hd '.' h) (by decide)

/-- Digits are a plain text. -/
theorem plain_digits {ds : List Char} (hd : ∀ c ∈ ds, c.isDigit = true) (hne : ds ≠ []) :
    Plain ds := by
  obtain ⟨d, hmem⟩ := List.exists_mem_of_ne_nil ds hne
  exact ⟨fun c hc => .inl (hd c hc), ⟨d, hmem, hd d hmem⟩, by rw [count_point hd]; omega⟩

/-- A digit is a plain text. -/
theorem plain_digit {c : Char} (h : c.isDigit = true) : Plain [c] :=
  plain_digits (List.forall_mem_singleton.2 h) (List.cons_ne_nil c [])

/-- Digits around a point are a plain text. -/
theorem plain_point {whole fraction : List Char} (hw : ∀ c ∈ whole, c.isDigit = true)
    (hf : ∀ c ∈ fraction, c.isDigit = true) (hne : ¬(whole = [] ∧ fraction = [])) :
    Plain (whole ++ '.' :: fraction) := by
  refine ⟨?_, ?_, ?_⟩
  · intro c hc
    rcases List.mem_append.1 hc with hc | hc
    · exact .inl (hw c hc)
    · rcases List.mem_cons.1 hc with hc | hc
      · exact .inr hc
      · exact .inl (hf c hc)
  · have hdigits : whole ++ fraction ≠ [] := by simpa using hne
    obtain ⟨d, hmem⟩ := List.exists_mem_of_ne_nil _ hdigits
    rcases List.mem_append.1 hmem with hmem | hmem
    · exact ⟨d, by simp [hmem], hw d hmem⟩
    · exact ⟨d, by simp [hmem], hf d hmem⟩
  · rw [List.count_append, List.count_cons_self, count_point hw, count_point hf]

/-- Digits have no places behind a point. -/
theorem ofPlain_digits {ds : List Char} (hd : ∀ c ∈ ds, c.isDigit = true) :
    ofPlain ds = ⟨false, ofDigits ds, 0⟩ := by
  have hdrop : ds.dropWhile Char.isDigit = [] := List.dropWhile_eq_nil_iff.2 hd
  rw [ofPlain, hdrop, List.filter_eq_self.2 hd]
  rfl

/-- Digits around a point have a place for each digit behind it. -/
theorem ofPlain_point {whole fraction : List Char} (hw : ∀ c ∈ whole, c.isDigit = true)
    (hf : ∀ c ∈ fraction, c.isDigit = true) :
    ofPlain (whole ++ '.' :: fraction) =
      ⟨false, ofDigits (whole ++ fraction), -(fraction.length : Int)⟩ := by
  have hdrop : (whole ++ '.' :: fraction).dropWhile Char.isDigit = '.' :: fraction :=
    dropWhile_append_of_stops hw (stops_cons.2 (by decide))
  have hfilter : (whole ++ '.' :: fraction).filter Char.isDigit = whole ++ fraction := by
    rw [List.filter_append, List.filter_cons_of_neg (by decide), List.filter_eq_self.2 hw,
      List.filter_eq_self.2 hf]
  rw [ofPlain, hdrop, hfilter]
  rfl

/-- A plain text with a point has the shape digits, point, digits: what follows the second run is
empty. -/
theorem Plain.rest_eq_nil {whole fraction rest : List Char}
    (h : Plain (whole ++ '.' :: (fraction ++ rest))) (hr : ∀ c ∈ rest.head?, c = '.') :
    rest = [] := by
  cases rest with
  | nil => rfl
  | cons c rest =>
      obtain rfl : c = '.' := hr c rfl
      have hpoint := h.point
      simp only [List.count_append, List.count_cons_self] at hpoint
      omega

/-- **Literals.** A text over digits and points is one decimal exactly if it has a digit and at
most one point, and the decimal is then made of its digits and the places after the point. -/
theorem ofChars?_eq_some_iff {s : List Char} {d : Decimal}
    (h : ∀ c ∈ s, c.isDigit = true ∨ c = '.') :
    ofChars? s = some d ↔ Plain s ∧ d = ofPlain s := by
  rcases exists_runs h with hd | ⟨whole, fraction, rest, rfl, hw, hf, hr⟩
  · by_cases hne : s = []
    · subst hne
      constructor
      · intro hsome
        cases hsome
      · rintro ⟨⟨-, ⟨c, hc, -⟩, -⟩, -⟩
        cases hc
    · rw [ofChars?_digits hd hne, ofPlain_digits hd]
      constructor
      · intro hsome
        exact ⟨plain_digits hd hne, (Option.some.inj hsome).symm⟩
      · rintro ⟨-, rfl⟩
        rfl
  · by_cases hrest : rest = []
    · subst hrest
      rw [List.append_nil] at h ⊢
      by_cases hne : whole = [] ∧ fraction = []
      · obtain ⟨rfl, rfl⟩ := hne
        constructor
        · intro hsome
          cases hsome
        · rintro ⟨⟨-, ⟨c, hc, hdigit⟩, -⟩, -⟩
          obtain rfl : c = '.' := by simpa using hc
          exact absurd hdigit (by decide)
      · rw [ofChars?_point hw hf hne, ofPlain_point hw hf]
        constructor
        · intro hsome
          exact ⟨plain_point hw hf hne, (Option.some.inj hsome).symm⟩
        · rintro ⟨-, rfl⟩
          rfl
    · -- a second point is left over: neither side holds
      have hnone : ofChars? (whole ++ '.' :: (fraction ++ rest)) = none := by
        obtain ⟨c, t, rfl⟩ := List.exists_cons_of_ne_nil hrest
        rw [ofChars?, scan_point hw hf hr]
        by_cases hne : whole = [] ∧ fraction = []
        · rw [if_pos hne]
        · rw [if_neg hne]
      rw [hnone]
      constructor
      · intro hsome
        cases hsome
      · rintro ⟨hplain, -⟩
        exact absurd (hplain.rest_eq_nil hr) hrest

end Decimal

end Dashboard
