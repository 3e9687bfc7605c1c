import Dashboard.Calendar.Layout
import Dashboard.Proofs.Text.Span

/-!
# Calendar.Number · the numbers in written dates

A layout takes a limited number of digits for each number. Where no digit is left behind a number,
the number is the whole run of digits, however many the layout would have taken. So layouts that
take different numbers at one place can be compared.

* **`scanNumber?_append`**: what is read of a run of digits.
* **`scanNumber?_iff`**: which numbers are read with no digit left behind them.
* **`Leads`** says of a text itself that it starts with a number of one or two digits;
  **`leads_iff`** that this is what is read.
-/

namespace Dashboard

namespace Calendar

open Text

variable {least most n : Nat} {s r t run : List Char} {c : Char}

/-! ## Characters -/

/-- Digits are no white space. -/
theorem not_isBlank_of_isDigit (h : c.isDigit = true) : isBlank c = false := by
  have hrange := Char.isDigit_iff_toNat.1 h
  simp only [show '0'.toNat = 48 from rfl, show '9'.toNat = 57 from rfl] at hrange
  simp only [isBlank, Bool.or_eq_false_iff, Bool.and_eq_false_iff, decide_eq_false_iff_not,
    beq_eq_false_iff_ne]
  omega

/-- In front of what is not white space nothing is trimmed. -/
theorem trimStart_cons (h : isBlank c = false) : trimStart (c :: s) = c :: s :=
  dropWhile_of_stops (stops_cons.2 h)

/-- White space is dropped once. -/
theorem trimStart_trimStart (s : List Char) : trimStart (trimStart s) = trimStart s :=
  dropWhile_of_stops (stops_dropWhile isBlank s)

/-- There is no white space to drop in front of digits. -/
theorem trimStart_append_digits (hrun : ∀ d ∈ run, d.isDigit = true) (hne : run ≠ []) :
    trimStart (run ++ r) = run ++ r := by
  obtain ⟨d, ds, rfl⟩ := List.exists_cons_of_ne_nil hne
  exact trimStart_cons (not_isBlank_of_isDigit (hrun d List.mem_cons_self))

/-! ## Numbers -/

/-- Every text is a run of digits and what follows them. -/
theorem exists_run (s : List Char) :
    ∃ run rest, s = run ++ rest ∧ (∀ d ∈ run, d.isDigit = true) ∧ Stops Char.isDigit rest :=
  ⟨s.takeWhile Char.isDigit, s.dropWhile Char.isDigit, List.takeWhile_append_dropWhile.symm,
    fun _ hd => List.mem_takeWhile_imp hd, stops_dropWhile _ s⟩

/-- Of a run of digits as many are taken as the layout takes. -/
theorem takeWhile_take_append (hrun : ∀ d ∈ run, d.isDigit = true) (hr : Stops Char.isDigit r) :
    ((run ++ r).take most).takeWhile Char.isDigit = run.take most := by
  rw [List.take_append]
  apply takeWhile_append_of_stops
  · exact fun d hd => hrun d (List.mem_of_mem_take hd)
  · intro d hd
    cases hmore : most - run.length with
    | zero => rw [hmore] at hd; cases hd
    | succ k => rw [hmore, List.head?_take, if_neg (Nat.succ_ne_zero k)] at hd; exact hr d hd

/-- Of a run of digits as many are read as the layout takes. -/
theorem scanNumber?_append (hrun : ∀ d ∈ run, d.isDigit = true) (hr : Stops Char.isDigit r) :
    scanNumber? least most (run ++ r) =
      if (run.take most).length < least ∨ run.take most = [] then none
      else some (Decimal.ofDigits (run.take most), run.drop most ++ r) := by
  have hdrop : (run ++ r).drop (run.take most).length = run.drop most ++ r := by
    rw [List.drop_append, List.length_take]
    rcases Nat.le_total most run.length with hle | hle
    · rw [Nat.min_eq_left hle, Nat.sub_eq_zero_of_le hle, List.drop_zero]
    · rw [Nat.min_eq_right hle, Nat.sub_self, List.drop_zero, List.drop_length,
        List.drop_of_length_le hle]
  rw [scanNumber?, takeWhile_take_append hrun hr, hdrop]
  simp only [List.isEmpty_iff]

/-- The digits that the layout does not take are left. -/
theorem left_of_scanNumber? (hrun : ∀ d ∈ run, d.isDigit = true) (hr : Stops Char.isDigit r)
    (h : scanNumber? least most (run ++ r) = some (n, t)) : t = run.drop most ++ r := by
  rw [scanNumber?_append hrun hr] at h
  split at h
  · cases h
  · exact (Prod.mk.inj (Option.some.inj h)).2.symm

/-- A number with no digit left behind it is the whole run of digits, if the layout takes that
many. -/
theorem scanNumber?_iff (hr : Stops Char.isDigit r) : scanNumber? 1 most s = some (n, r) ↔
    ∃ run, s = run ++ r ∧ (∀ d ∈ run, d.isDigit = true) ∧ run ≠ [] ∧ run.length ≤ most ∧
      n = Decimal.ofDigits run := by
  constructor
  · intro h
    obtain ⟨run, rest, rfl, hrun, hrest⟩ := exists_run s
    rw [scanNumber?_append hrun hrest] at h
    split at h
    · cases h
    · rename_i htaken
      obtain ⟨rfl, rfl⟩ := Prod.mk.inj (Option.some.inj h)
      have hall : run.drop most = [] := by
        by_contra hmore
        obtain ⟨d, ds, hds⟩ := List.exists_cons_of_ne_nil hmore
        have hdigit : d.isDigit = true :=
          hrun d (List.mem_of_mem_drop (hds ▸ List.mem_cons_self))
        rw [hds, List.cons_append, stops_cons, hdigit] at hr
        cases hr
      have hlength := List.drop_eq_nil_iff.1 hall
      rw [List.take_of_length_le hlength] at htaken
      exact ⟨run, by rw [hall, List.nil_append], hrun, fun hnil => htaken (.inr hnil), hlength,
        by rw [List.take_of_length_le hlength]⟩
  · rintro ⟨run, rfl, hrun, hne, hlength, rfl⟩
    have hpos := List.length_pos_iff.2 hne
    rw [scanNumber?_append hrun hr, List.take_of_length_le hlength,
      List.drop_of_length_le hlength, List.nil_append, if_neg]
    rw [not_or, Nat.not_lt]
    exact ⟨hpos, hne⟩

/-- Asking for fewer digits does not change what is read. -/
theorem scanNumber?_of_scanFixed? {count : Nat} (hcount : 1 ≤ count)
    (h : scanFixed? count s = some (n, r)) : scanNumber? 1 count s = some (n, r) := by
  rw [scanFixed?, scanNumber?] at h
  split at h
  · cases h
  · rename_i hlong
    rw [scanNumber?, if_neg fun hshort => hlong (hshort.imp_left fun hlt => hlt.trans_le hcount)]
    exact h

/-- The first character of a number is a digit. -/
theorem exists_digit_of_scanNumber? (h : scanNumber? least most s = some (n, r)) :
    ∃ d ds, s = d :: ds ∧ d.isDigit = true := by
  cases s with
  | nil => simp [scanNumber?] at h
  | cons d ds =>
      refine ⟨d, ds, rfl, ?_⟩
      by_contra hdigit
      have hempty : ((d :: ds).take most).takeWhile Char.isDigit = [] := by
        cases most with
        | zero => rfl
        | succ k => rw [List.take_succ_cons, List.takeWhile_cons_of_neg hdigit]
      rw [scanNumber?, hempty, if_pos (.inr rfl)] at h
      cases h

/-! ## Short numbers -/

/-- The text starts with a whole number of one or two digits, which white space may precede. -/
def Leads (s : List Char) (n : Nat) (rest : List Char) : Prop :=
  ∃ blanks digits, s = blanks ++ (digits ++ rest) ∧ (∀ c ∈ blanks, isBlank c = true) ∧
    (∀ d ∈ digits, d.isDigit = true) ∧ digits ≠ [] ∧ digits.length ≤ 2 ∧
    n = Decimal.ofDigits digits ∧ Stops Char.isDigit rest

/-- A short number leads a text if it is scanned and no digit is left behind it. -/
theorem leads_iff : Leads s n r ↔ scanShortNumber? s = some (n, r) ∧ Stops Char.isDigit r := by
  constructor
  · rintro ⟨blanks, run, rfl, hblanks, hrun, hne, hlength, rfl, hr⟩
    refine ⟨?_, hr⟩
    rw [scanShortNumber?, trimStart, List.dropWhile_append_of_pos hblanks, ← trimStart,
      trimStart_append_digits hrun hne]
    exact (scanNumber?_iff hr).2 ⟨run, rfl, hrun, hne, hlength, rfl⟩
  · rintro ⟨h, hr⟩
    obtain ⟨run, hs, hrun, hne, hlength, rfl⟩ := (scanNumber?_iff hr).1 h
    refine ⟨s.takeWhile isBlank, run, ?_, fun _ hc => List.mem_takeWhile_imp hc, hrun, hne,
      hlength, rfl, hr⟩
    rw [← hs, trimStart, List.takeWhile_append_dropWhile]

end Calendar

end Dashboard
