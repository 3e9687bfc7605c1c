import Dashboard.Proofs.Decimal.ReadBack
import Dashboard.Tree.Printer
import Dashboard.Tree.Reader

/-!
# Tree.Number · numbers in JSON

A number in JSON is a sign, a whole part, maybe places after a point and maybe a power of ten. The
printer writes such texts, and the reader takes them apart again wherever the text after them does
not go on as a number.

* **`NumberText`** are the parts of such a text, **`NumberText.Regular`** says which parts make one.
* **`scanNumber?_chars`**: the reader makes of a regular text the tree that its parts denote
  (`NumberText.tree?`).
* **`exists_numberText_integerChars`**, **`exists_numberText_rawChars`**: integers of 64 bits and
  finite numbers are written as regular texts that denote them.
-/

namespace Dashboard

open Text (Stops stops_nil stops_cons)

/-! ## Texts of numbers -/

/-- The parts of the text of a number. -/
structure NumberText where
  negative : Bool
  whole : List Char
  /-- The digits after a point. -/
  places : Option (List Char)
  /-- The sign and the digits of a power of ten. -/
  power : Option (Bool × List Char)

namespace NumberText

/-- The text of the places, with their point. -/
def placesChars : Option (List Char) → List Char
  | some ds => '.' :: ds
  | none => []

/-- The text of the power, with its mark and its sign. -/
def powerChars : Option (Bool × List Char) → List Char
  | some (negative, ds) => 'e' :: (if negative then '-' else '+') :: ds
  | none => []

/-- The text. -/
def chars (t : NumberText) : List Char :=
  Decimal.signChars t.negative ++ (t.whole ++ (placesChars t.places ++ powerChars t.power))

/-- The power of ten; `0` if none is written. -/
def exponent : Option (Bool × List Char) → Int
  | some (negative, ds) => if negative then -(Decimal.ofDigits ds : Int) else Decimal.ofDigits ds
  | none => 0

/-- The decimal that the text denotes. -/
def decimal (t : NumberText) : Decimal :=
  ⟨t.negative, Decimal.ofDigits (t.whole ++ t.places.getD []),
    exponent t.power - (t.places.getD []).length⟩

/-- The tree of the text: an integer if there is only a whole part and it fits, else a number, which
has to be finite. -/
def tree? (t : NumberText) : Option Tree :=
  if t.places.isNone && t.power.isNone then Tree.ofWhole t.negative t.whole
  else if t.decimal.toBinary64.isFinite then some (.real t.decimal.toBinary64)
  else none

/-- A run of digits that is not empty. -/
structure Digits (ds : List Char) : Prop where
  ne_nil : ds ≠ []
  isDigit : ∀ c ∈ ds, c.isDigit = true

/-- A whole part: one zero, or digits that do not begin with zero. -/
structure Whole (ds : List Char) : Prop extends Digits ds where
  head : ds = ['0'] ∨ ∀ c ∈ ds.head?, c ≠ '0'

/-- The parts make the text of a number. -/
structure Regular (t : NumberText) : Prop where
  whole : Whole t.whole
  places : ∀ ds ∈ t.places, Digits ds
  power : ∀ p ∈ t.power, Digits p.2

end NumberText

/-! ## The parts of the scanner -/

namespace Tree

open NumberText

/-- A character with which a number could go on. -/
def continuesNumber (c : Char) : Bool := c.isDigit || c == '.' || c == 'e' || c == 'E'

variable {rest ds : List Char}

/-- What does not go on as a number does not go on with a digit. -/
theorem stops_isDigit (h : Stops continuesNumber rest) : Stops Char.isDigit rest := by
  intro c hc
  have hc := h c hc
  simp only [continuesNumber, Bool.or_eq_false_iff] at hc
  exact hc.1.1.1

/-- What does not go on as a number begins with no point or letter e. -/
theorem head_ne_of_stops (h : Stops continuesNumber rest) :
    ∀ c ∈ rest.head?, c ≠ '.' ∧ c ≠ 'e' ∧ c ≠ 'E' := by
  intro c hc
  have hc := h c hc
  simp only [continuesNumber, Bool.or_eq_false_iff, beq_eq_false_iff_ne] at hc
  exact ⟨hc.1.1.2, hc.1.2, hc.2⟩

/-- A whole part in front of another character is scanned. -/
theorem scanWhole?_append (h : Whole ds) (hrest : Stops Char.isDigit rest) :
    scanWhole? (ds ++ rest) = some (ds, rest) := by
  rcases h.head with rfl | hhead
  · rfl
  · have hscan := Decimal.scanDigits_append h.isDigit hrest
    obtain ⟨c, cs, rfl⟩ := List.exists_cons_of_ne_nil h.ne_nil
    have hc : c ≠ '0' := hhead c rfl
    rw [List.cons_append] at hscan ⊢
    unfold scanWhole?
    split
    · rename_i heq
      exact absurd (List.cons.inj heq).1 hc
    · rw [hscan]
      rfl

/-- Places behind a point are scanned, or none without a point. -/
theorem scanPlaces?_append {places : Option (List Char)} (h : ∀ ds ∈ places, Digits ds)
    (hrest : Stops Char.isDigit rest) (hpoint : ∀ c ∈ rest.head?, c ≠ '.') :
    scanPlaces? (placesChars places ++ rest) = some (places, rest) := by
  cases places with
  | none =>
      unfold scanPlaces?
      split
      · rename_i heq
        rw [placesChars, List.nil_append] at heq
        exact absurd rfl (hpoint '.' (by rw [heq]; rfl))
      · rfl
  | some ds =>
      have hds := h ds rfl
      have hne : ds.isEmpty = false := by simpa using hds.ne_nil
      simp [placesChars, scanPlaces?, Decimal.scanDigits_append hds.isDigit hrest, hne]

/-- A power is scanned, or none without the letter e. -/
theorem scanPower?_append {power : Option (Bool × List Char)} (h : ∀ p ∈ power, Digits p.2)
    (hrest : Stops continuesNumber rest) :
    scanPower? (powerChars power ++ rest) = some (power.map fun p => exponent (some p), rest) := by
  cases power with
  | none =>
      cases rest with
      | nil => rfl
      | cons c rest =>
          obtain ⟨-, he, hE⟩ := head_ne_of_stops hrest c rfl
          simp [powerChars, scanPower?, he, hE]
  | some p =>
      obtain ⟨negative, ds⟩ := p
      have hds := h (negative, ds) rfl
      have hne : ds.isEmpty = false := by simpa using hds.ne_nil
      have hscan := Decimal.scanDigits_append hds.isDigit (stops_isDigit hrest)
      cases negative with
      | true => simp [powerChars, scanPower?, Decimal.scanSign, hscan, hne, exponent]
      | false => simp [powerChars, scanPower?, Decimal.scanSign, hscan, hne, exponent]

/-- A power, or what follows without one, begins with no digit or point. -/
theorem stops_powerChars (power : Option (Bool × List Char)) (hrest : Stops continuesNumber rest) :
    Stops Char.isDigit (powerChars power ++ rest) ∧
      ∀ c ∈ (powerChars power ++ rest).head?, c ≠ '.' := by
  cases power with
  | none => exact ⟨stops_isDigit hrest, fun c hc => (head_ne_of_stops hrest c hc).1⟩
  | some p => exact ⟨stops_cons.2 (by decide), by simp [powerChars]⟩

/-- Places, or what follows without any, begin with no digit. -/
theorem stops_placesChars (places : Option (List Char)) (hrest : Stops Char.isDigit rest) :
    Stops Char.isDigit (placesChars places ++ rest) := by
  cases places with
  | none => exact hrest
  | some ds => exact stops_cons.2 (by decide)

/-- The text of a number is scanned behind its sign. -/
theorem scanUnsigned?_append {t : NumberText} (h : t.Regular)
    (hrest : Stops continuesNumber rest) :
    scanUnsigned? t.negative
        (t.whole ++ (placesChars t.places ++ (powerChars t.power ++ rest))) =
      t.tree?.map fun tree => (tree, rest) := by
  obtain ⟨hstop, hpoint⟩ := stops_powerChars t.power hrest
  have hwhole := scanWhole?_append h.whole (stops_placesChars t.places hstop)
  have hplaces := scanPlaces?_append h.places hstop hpoint
  have hpower := scanPower?_append h.power hrest
  have hdecimal : Decimal.mk t.negative (Decimal.ofDigits (t.whole ++ t.places.getD []))
      ((t.power.map fun p => exponent (some p)).getD 0 - (t.places.getD []).length) =
        t.decimal := by
    unfold decimal
    cases t.power with
    | none => rfl
    | some p => rfl
  simp only [scanUnsigned?, hwhole, hplaces, hpower, Option.bind_eq_bind, Option.bind_some,
    Option.isNone_map, hdecimal, tree?]
  split
  · rw [Option.map_eq_bind]
    rfl
  · rw [Option.map_if]

/-- **What the reader makes of the text of a number.** -/
theorem scanNumber?_chars {t : NumberText} (h : t.Regular) (hrest : Stops continuesNumber rest) :
    scanNumber? (t.chars ++ rest) = t.tree?.map fun tree => (tree, rest) := by
  have hunsigned := scanUnsigned?_append h hrest
  rw [chars, List.append_assoc, List.append_assoc, List.append_assoc, ← hunsigned]
  cases t.negative with
  | true => rfl
  | false =>
      obtain ⟨c, cs, hcs⟩ := List.exists_cons_of_ne_nil h.whole.ne_nil
      have hdigit := h.whole.isDigit c (by rw [hcs]; exact List.mem_cons_self)
      rw [hcs]
      unfold scanNumber?
      split
      · rename_i heq
        obtain rfl : c = '-' := (List.cons.inj heq).1
        exact absurd hdigit (by decide)
      · rfl

/-! ## Integers -/

/-- The digits of a number other than zero do not begin with zero. -/
theorem head_digits_ne_zero {n : Nat} (hn : 0 < n) : ∀ c ∈ (Decimal.digits n).head?, c ≠ '0' := by
  induction n using Nat.strongRecOn with
  | ind n ih =>
      by_cases hlt : n < 10
      · have hdigit : ∀ n < 10, 0 < n → Nat.digitChar n ≠ '0' := by decide
        rw [Decimal.digits, Nat.toDigits_of_lt_base hlt]
        simpa using hdigit n hlt hn
      · have hle : 10 ≤ n := Nat.le_of_not_lt hlt
        obtain ⟨c, cs, hcs⟩ := List.exists_cons_of_ne_nil (@Nat.toDigits_ne_nil (n / 10) 10)
        have hhead := ih (n / 10) (by omega) (by omega)
        rw [Decimal.digits, hcs] at hhead
        rw [Decimal.digits, Nat.toDigits_of_base_le (by decide) hle, hcs]
        exact hhead

/-- The digits of a natural number are a whole part. -/
theorem whole_digits (n : Nat) : Whole (Decimal.digits n) where
  ne_nil := Nat.toDigits_ne_nil
  isDigit := Decimal.isDigit_digits n
  head := by
    rcases Nat.eq_zero_or_pos n with rfl | hn
    · exact .inl rfl
    · exact .inr (head_digits_ne_zero hn)

/-- Integers of 64 bits, with or without a sign. -/
def FitsInteger (i : Int) : Prop := -(2 ^ (63 : Nat)) ≤ i ∧ i < 2 ^ (64 : Nat)

/-- The digits of an integer are read back. -/
theorem ofWhole_digits {i : Int} (h : FitsInteger i) :
    ofWhole (i < 0) (Decimal.digits i.natAbs) = some (.integer i) := by
  obtain ⟨hlow, hhigh⟩ := h
  by_cases hneg : i < 0
  · have hfits : 0 < i.natAbs ∧ i.natAbs ≤ 2 ^ (63 : Nat) := by omega
    have hvalue : -(i.natAbs : Int) = i := by omega
    simp only [ofWhole, Decimal.ofDigits_digits, decide_eq_true hneg, if_true, if_pos hfits, hvalue]
  · have hfits : i.natAbs < 2 ^ (64 : Nat) := by omega
    have hvalue : (i.natAbs : Int) = i := by omega
    simp only [ofWhole, Decimal.ofDigits_digits, decide_eq_false hneg, Bool.false_eq_true, if_false,
      if_pos hfits, hvalue]

/-- An integer of 64 bits is written as the text of a number without point and power. -/
theorem exists_numberText_integerChars {i : Int} (h : FitsInteger i) :
    ∃ t : NumberText, t.Regular ∧ integerChars i = t.chars ∧ t.tree? = some (.integer i) := by
  refine ⟨⟨i < 0, Decimal.digits i.natAbs, none, none⟩, ⟨whole_digits _, nofun, nofun⟩, ?_, ?_⟩
  · rw [chars, integerChars, placesChars, powerChars, List.append_nil, List.append_nil]
  · rw [tree?, ofWhole_digits h]
    rfl

/-! ## Numbers -/

section real

variable {x : Binary64} {d : Decimal} {n k : Nat}

/-- The digits of a natural number are a run of digits. -/
theorem digits_digits (n : Nat) : Digits (Decimal.digits n) := (whole_digits n).toDigits

/-- So are the last ones of them. -/
theorem digits_drop (hk : k < (Decimal.digits n).length) : Digits ((Decimal.digits n).drop k) where
  ne_nil := mt List.drop_eq_nil_iff.1 (Nat.not_le_of_lt hk)
  isDigit c hc := Decimal.isDigit_digits n c (List.mem_of_mem_drop hc)

/-- Zero is a whole part. -/
theorem whole_zero : Whole ['0'] := whole_digits 0

/-- The first digits of a positive number are a whole part. -/
theorem whole_take (hn : 0 < n) (hk : 0 < k) : Whole ((Decimal.digits n).take k) := by
  obtain ⟨k, rfl⟩ := Nat.exists_eq_add_of_lt hk
  obtain ⟨c, cs, hcs⟩ := List.exists_cons_of_ne_nil (whole_digits n).ne_nil
  have hhead := head_digits_ne_zero hn
  have hdigit := Decimal.isDigit_digits n
  rw [Nat.zero_add, hcs, List.take_succ_cons]
  rw [hcs] at hhead hdigit
  refine ⟨⟨List.cons_ne_nil _ _, fun d hd => hdigit d ?_⟩, .inr hhead⟩
  exact (List.take_sublist (k + 1) (c :: cs)).subset hd

/-- So are its digits with zeros behind them. -/
theorem whole_append_zeros (hn : 0 < n) (e : Nat) :
    Whole (Decimal.digits n ++ List.replicate e '0') := by
  rw [← Decimal.digits_mul_pow hn]
  exact whole_digits _

/-- A whole part and places make the text of a number. -/
theorem regular_of_places (negative : Bool) {whole places : List Char} (hwhole : Whole whole)
    (hplaces : Digits places) : Regular ⟨negative, whole, some places, none⟩ where
  whole := hwhole
  places := by
    rintro _ ⟨rfl⟩
    exact hplaces
  power := nofun

/-- A decimal with places is written without a power: the point stands inside its digits, or zeros
stand between the point and them. -/
theorem exists_numberText_positional (h : d.exponent < 0) :
    ∃ t : NumberText, t.Regular ∧ d.positional = t.chars ∧ t.places.isSome = true ∧
      t.decimal = d := by
  obtain ⟨negative, c, exponent⟩ := d
  cases exponent with
  | ofNat e => exact absurd h (by simp)
  | negSucc e =>
      by_cases hlen : e + 1 < (Decimal.digits c).length
      · have hc : 0 < c := by
          rcases Nat.eq_zero_or_pos c with rfl | hc
          · exact absurd hlen (by simp [Decimal.digits])
          · exact hc
        have hcut : (Decimal.digits c).length - (e + 1) < (Decimal.digits c).length := by omega
        refine ⟨_, regular_of_places negative (whole_take hc (Nat.sub_pos_of_lt hlen))
          (digits_drop hcut), ?_, rfl, ?_⟩
        · simp only [Decimal.positional, if_pos hlen, chars, placesChars, powerChars,
            List.append_nil]
        · simp only [decimal, Option.getD_some, List.take_append_drop, Decimal.ofDigits_digits,
            NumberText.exponent, List.length_drop]
          congr 1
          omega
      · have hzeros : Digits (List.replicate (e + 1 - (Decimal.digits c).length) '0' ++
            Decimal.digits c) :=
          ⟨by simp [(whole_digits c).ne_nil],
            List.forall_mem_append.2 ⟨Decimal.isDigit_replicate _, Decimal.isDigit_digits c⟩⟩
        have hread : Decimal.ofDigits (['0'] ++ (List.replicate
            (e + 1 - (Decimal.digits c).length) '0' ++ Decimal.digits c)) = c := by
          rw [← List.append_assoc, List.singleton_append, ← List.replicate_succ,
            Decimal.ofDigits_zeros_append, Decimal.ofDigits_digits]
        refine ⟨_, regular_of_places negative whole_zero hzeros, ?_, rfl, ?_⟩
        · simp only [Decimal.positional, if_neg hlen, chars, placesChars, powerChars,
            List.append_nil]
          rfl
        · simp only [decimal, Option.getD_some, hread, NumberText.exponent, List.length_append,
            List.length_replicate]
          congr 1
          omega

/-- A whole decimal is written with a zero after the point. -/
theorem exists_numberText_positional_append (hc : 0 < d.coefficient) (h : 0 ≤ d.exponent) :
    ∃ t : NumberText, t.Regular ∧ d.positional ++ ['.', '0'] = t.chars ∧
      t.places.isSome = true ∧ t.decimal.toBinary64 = d.toBinary64 := by
  obtain ⟨negative, c, exponent⟩ := d
  cases exponent with
  | negSucc e => exact absurd h (by simp)
  | ofNat e =>
      refine ⟨_, regular_of_places negative (@whole_append_zeros c hc e) whole_zero.toDigits, ?_,
        rfl, ?_⟩
      · simp [Decimal.positional, chars, placesChars, powerChars]
      · have hread : Decimal.ofDigits (Decimal.digits c ++ List.replicate e '0' ++ ['0']) =
            c * 10 ^ (e + 1) := by
          rw [List.append_assoc, ← List.replicate_succ', Decimal.ofDigits_append_zeros,
            Decimal.ofDigits_digits]
        have hmove := Decimal.toBinary64_mul_pow negative c (e + 1) (-1)
        rw [show (-1 + (e + 1 : Nat) : Int) = e by omega] at hmove
        simp only [decimal, Option.getD_some, hread, NumberText.exponent]
        exact hmove

/-- A decimal in scientific form has one digit before the point. -/
theorem exists_numberText_scientific (hc : 0 < d.coefficient) :
    ∃ t : NumberText, t.Regular ∧ d.scientific = t.chars ∧ t.power.isSome = true ∧
      t.decimal = d := by
  obtain ⟨negative, c, exponent⟩ := d
  have hpower : ∀ i : Int,
      NumberText.exponent (some (decide (i < 0), Decimal.digits i.natAbs)) = i := by
    intro i
    rw [NumberText.exponent, Decimal.ofDigits_digits]
    by_cases hi : i < 0
    · rw [if_pos (decide_eq_true hi)]
      omega
    · rw [if_neg (by simpa using hi)]
      omega
  have hpos : 0 < (Decimal.digits c).length := List.length_pos_iff.2 (whole_digits c).ne_nil
  generalize hi : exponent + (Decimal.digits c).length - 1 = i
  by_cases hlen : (Decimal.digits c).length ≤ 1
  · refine ⟨⟨negative, (Decimal.digits c).take 1, none,
      some (decide (i < 0), Decimal.digits i.natAbs)⟩, ⟨whole_take hc Nat.one_pos, nofun, ?_⟩, ?_,
      rfl, ?_⟩
    · rintro _ ⟨rfl⟩
      exact digits_digits _
    · simp [Decimal.scientific, chars, placesChars, powerChars, hlen, hi]
    · simp only [decimal, hpower, Option.getD_none, List.append_nil, List.take_of_length_le hlen,
        Decimal.ofDigits_digits, List.length_nil]
      congr 1
      omega
  · have hlen' : 1 < (Decimal.digits c).length := Nat.lt_of_not_le hlen
    refine ⟨⟨negative, (Decimal.digits c).take 1, some ((Decimal.digits c).drop 1),
      some (decide (i < 0), Decimal.digits i.natAbs)⟩, ⟨whole_take hc Nat.one_pos, ?_, ?_⟩, ?_,
      rfl, ?_⟩
    · rintro _ ⟨rfl⟩
      exact digits_drop hlen'
    · rintro _ ⟨rfl⟩
      exact digits_digits _
    · simp [Decimal.scientific, chars, placesChars, powerChars, hlen, hi]
    · simp only [decimal, hpower, Option.getD_some, List.take_append_drop,
        Decimal.ofDigits_digits, List.length_drop]
      congr 1
      omega

/-- With places or a power a finite number is read as a double. -/
theorem tree?_of_places_or_power {t : NumberText}
    (h : t.places.isSome = true ∨ t.power.isSome = true)
    (hfin : t.decimal.toBinary64.isFinite = true) :
    t.tree? = some (.real t.decimal.toBinary64) := by
  have hparts : (t.places.isNone && t.power.isNone) = false := by
    rw [Bool.and_eq_false_iff, Option.isNone_eq_false_iff, Option.isNone_eq_false_iff]
    exact h
  rw [tree?, hparts, if_neg Bool.false_ne_true, if_pos hfin]

/-- A finite number is written as the text of a number that denotes it. -/
theorem exists_numberText_rawChars (hfin : x.isFinite = true) :
    ∃ t : NumberText, t.Regular ∧ x.rawChars = t.chars ∧ t.tree? = some (.real x) := by
  have hread : ∀ t : NumberText, (t.places.isSome = true ∨ t.power.isSome = true) →
      t.decimal.toBinary64 = x → t.tree? = some (.real x) := by
    rintro t hparts rfl
    exact tree?_of_places_or_power hparts hfin
  cases hzero : x.isZero with
  | true =>
      refine ⟨_, regular_of_places x.negative whole_zero whole_zero.toDigits, ?_,
        hread _ (.inl rfl) ?_⟩
      · rw [Binary64.rawChars, hzero]
        rfl
      · exact (Binary64.eq_zero_of_isZero hfin hzero).symm
  | false =>
      have hshortest := Decimal.toBinary64_shortest .even hfin hzero
      generalize hd : Decimal.shortest .even x = d at hshortest
      have hc : 0 < d.coefficient := by
        rcases Nat.eq_zero_or_pos d.coefficient with hc | hc
        · rw [← hshortest, Decimal.toBinary64, if_pos hc] at hzero
          cases hzero
        · exact hc
      have hchars : x.rawChars =
          if -5 < ((Decimal.digits d.coefficient).length + d.exponent : Int) ∧
              (Decimal.digits d.coefficient).length + d.exponent ≤ 16 then
            if d.exponent < 0 then d.positional else d.positional ++ ['.', '0']
          else d.scientific := by
        rw [Binary64.rawChars, hzero, hd]
        rfl
      split_ifs at hchars with hsize hplaces
      · obtain ⟨t, hregular, ht, hsome, hvalue⟩ := exists_numberText_positional hplaces
        exact ⟨t, hregular, hchars.trans ht, hread t (.inl hsome) (hvalue ▸ hshortest)⟩
      · obtain ⟨t, hregular, ht, hsome, hvalue⟩ :=
          exists_numberText_positional_append hc (Int.not_lt.1 hplaces)
        exact ⟨t, hregular, hchars.trans ht, hread t (.inl hsome) (hvalue.trans hshortest)⟩
      · obtain ⟨t, hregular, ht, hsome, hvalue⟩ := exists_numberText_scientific hc
        exact ⟨t, hregular, hchars.trans ht, hread t (.inr hsome) (hvalue ▸ hshortest)⟩

end real

end Tree

end Dashboard
