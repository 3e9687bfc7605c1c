import Dashboard.Proofs.Calendar.Form

/-!
# Calendar.Day · which form of a day is read

The forms of a day differ in what stands behind the first number of a text, or in front of any
number. Only two forms are alike in this: both put slashes between three numbers.

* **`outline`** looks at these characters, and **`DayForm.outline_of_scan`** says that a form reads
  texts of its own outline only.
* **`scanMonthName?_of_abbreviation`**: where no letter follows the short name of a month, the full
  name is read like the short one.
* **`DayForm.scan_unique`**: two forms that read one text read the same day and leave the same text,
  if they are not the two with slashes.
-/

namespace Dashboard

namespace Calendar

open Text

variable {s t r r' : List Char} {p q q' : Parts} {c d w : Char} {n m most : Nat} {y : Int}
  {word : List Char}

/-! ## Letters -/

/-- The letters are those of ASCII. -/
theorem isAlpha_iff_toNat :
    c.isAlpha = true ↔ (65 ≤ c.toNat ∧ c.toNat ≤ 90) ∨ (97 ≤ c.toNat ∧ c.toNat ≤ 122) := by
  have hdef : c.isAlpha = (decide (c.val ≥ 'A'.val ∧ c.val ≤ 'Z'.val) ||
      (decide (c.val ≥ 'a'.val) && decide (c.val ≤ 'z'.val))) := rfl
  simp only [hdef, Bool.or_eq_true, Bool.and_eq_true, decide_eq_true_eq]
  rfl

/-- Letters are no white space. -/
theorem not_isBlank_of_isAlpha (h : c.isAlpha = true) : isBlank c = false := by
  have hrange := isAlpha_iff_toNat.1 h
  simp only [isBlank, Bool.or_eq_false_iff, Bool.and_eq_false_iff, decide_eq_false_iff_not,
    beq_eq_false_iff_ne]
  omega

/-- Digits are no letters. -/
theorem not_isAlpha_of_isDigit (h : c.isDigit = true) : c.isAlpha = false := by
  rw [Bool.eq_false_iff, ne_eq, isAlpha_iff_toNat]
  have hrange := Char.isDigit_iff_toNat.1 h
  simp only [show '0'.toNat = 48 from rfl, show '9'.toNat = 57 from rfl] at hrange
  omega

/-- What becomes a letter in lower case is one. -/
theorem isAlpha_of_toLower (h : c.toLower.isAlpha = true) : c.isAlpha = true := by
  unfold Char.toLower at h
  split at h
  · rename_i hupper
    exact isAlpha_iff_toNat.2 (.inl hupper)
  · exact h

/-- What stands first behind white space stands first in the text, if it is no white space. -/
theorem stops_of_trimStart {kind : Char → Bool} (hkind : ∀ c, kind c = true → isBlank c = false)
    (h : Stops kind (trimStart s)) : Stops kind s := by
  cases s with
  | nil => exact stops_nil
  | cons c t =>
      rw [stops_cons, Bool.eq_false_iff]
      intro hc
      rw [trimStart_cons (hkind c hc), stops_cons, hc] at h
      cases h

/-! ## The first number of a text -/

/-- A text without the sign at its head. -/
def dropSign : List Char → List Char
  | '-' :: s => s
  | '+' :: s => s
  | s => s

/-- Without a sign at its head a text stays as it is. -/
theorem dropSign_cons (hminus : c ≠ '-') (hplus : c ≠ '+') : dropSign (c :: s) = c :: s := by
  unfold dropSign
  split
  · exact absurd (List.cons.inj ‹_›).1 hminus
  · exact absurd (List.cons.inj ‹_›).1 hplus
  · rfl

/-- A number is read in front of `r`, behind white space and perhaps a sign. -/
def NumberRead (s r : List Char) : Prop :=
  ∃ most n, scanNumber? 1 most (dropSign (trimStart s)) = some (n, r)

/-- A number behind white space needs no sign. -/
theorem numberRead_of_scanNumber? (h : scanNumber? 1 most (trimStart s) = some (n, r)) :
    NumberRead s r := by
  obtain ⟨d, ds, hs, hd⟩ := exists_digit_of_scanNumber? h
  have hsign : dropSign (d :: ds) = d :: ds := by
    apply dropSign_cons <;> rintro rfl <;> cases hd
  exact ⟨most, n, by rwa [hs, hsign, ← hs]⟩

/-- A year is a number with perhaps a sign. -/
theorem numberRead_of_scanYear? (h : scanYear? s = some (y, r)) : NumberRead s r := by
  unfold scanYear? at h
  split at h <;> obtain ⟨⟨n, rest⟩, hscan, heq⟩ := Option.map_eq_some_iff.1 h <;>
    obtain ⟨-, rfl⟩ := Prod.mk.inj heq
  · exact ⟨_, n, by rw [‹trimStart s = _›]; exact hscan⟩
  · exact ⟨_, n, by rw [‹trimStart s = _›]; exact hscan⟩
  · exact numberRead_of_scanNumber? hscan

/-- A year in front of a digit has no sign and up to four digits. -/
theorem scanYear?_of_scanNumber? {x : Nat × List Char}
    (h : scanNumber? 1 most (trimStart s) = some x) :
    scanYear? s = (scanNumber? 1 4 (trimStart s)).map fun x => ((x.1 : Int), x.2) := by
  obtain ⟨d, ds, hs, hd⟩ := exists_digit_of_scanNumber? h
  unfold scanYear?
  split
  · obtain rfl := (List.cons.inj (hs.symm.trans ‹_›)).1
    cases hd
  · obtain rfl := (List.cons.inj (hs.symm.trans ‹_›)).1
    cases hd
  · rfl

/-- No letter stands in front of a number. -/
theorem NumberRead.stops_isAlpha (h : NumberRead s r) : Stops Char.isAlpha (trimStart s) := by
  obtain ⟨most, n, hscan⟩ := h
  intro c hc
  obtain ⟨t, ht⟩ := List.head?_eq_some_iff.1 hc
  rw [Bool.eq_false_iff]
  intro halpha
  have hsign : dropSign (c :: t) = c :: t := by
    apply dropSign_cons <;> rintro rfl <;> cases halpha
  rw [ht, hsign] at hscan
  obtain ⟨d, ds, hcons, hd⟩ := exists_digit_of_scanNumber? hscan
  rw [(List.cons.inj hcons).1, not_isAlpha_of_isDigit hd] at halpha
  cases halpha

/-- What stands behind the first number of a text and the white space there. -/
def behindNumber (s : List Char) : List Char :=
  trimStart ((dropSign (trimStart s)).dropWhile Char.isDigit)

/-- If the number was read whole, what is left stands behind it. -/
theorem NumberRead.behindNumber_eq (h : NumberRead s r) (hr : Stops Char.isDigit r) :
    behindNumber s = trimStart r := by
  obtain ⟨most, n, hscan⟩ := h
  obtain ⟨run, hs, hrun, -⟩ := (scanNumber?_iff hr).1 hscan
  rw [behindNumber, hs, dropWhile_append_of_stops hrun hr]

/-! ## Names of months -/

/-- A word that is read is at the head of the text, in any case. -/
theorem exists_cons_of_dropWord? (h : dropWord? (w :: word) s = some r) :
    ∃ c t, s = c :: t ∧ c.toLower = w.toLower := by
  cases s with
  | nil => cases h
  | cons c t =>
      rw [dropWord?] at h
      split at h
      · exact ⟨c, t, rfl, (‹w.toLower = c.toLower›).symm⟩
      · cases h

/-- The names of months consist of letters. -/
theorem isAlpha_of_mem_monthName {i : Nat} (h : w ∈ (monthNames.getD i "").toList) :
    w.toLower.isAlpha = true := by
  have hall : (monthNames.all fun name => name.toList.all fun w => w.toLower.isAlpha) = true := by
    decide +kernel
  rw [List.getD_eq_getElem?_getD] at h
  cases hi : monthNames[i]? with
  | none => rw [hi] at h; cases h
  | some name =>
      rw [hi] at h
      exact List.all_eq_true.1 (List.all_eq_true.1 hall name (List.mem_of_getElem? hi)) w h

/-- A part of a name of a month is not read where no letter stands. -/
theorem exists_isAlpha_of_dropWord? {i : Nat}
    (hword : ∀ v ∈ word, v ∈ (monthNames.getD i "").toList) (hne : word ≠ [])
    (h : dropWord? word s = some r) : ∃ c t, s = c :: t ∧ c.isAlpha = true := by
  obtain ⟨w, ws, rfl⟩ := List.exists_cons_of_ne_nil hne
  obtain ⟨c, t, rfl, hlower⟩ := exists_cons_of_dropWord? h
  exact ⟨c, t, rfl, isAlpha_of_toLower
    (hlower ▸ isAlpha_of_mem_monthName (hword w List.mem_cons_self))⟩

/-- The short name of a month begins with a letter. -/
theorem exists_isAlpha_of_scanMonthAbbreviation? (h : scanMonthAbbreviation? s = some (n, r)) :
    ∃ c t, s = c :: t ∧ c.isAlpha = true := by
  have hnames : ∀ i < 12, (monthNames.getD i "").toList.take 3 ≠ [] := by decide +kernel
  obtain ⟨i, hi, hread⟩ := List.exists_of_findSome?_eq_some h
  obtain ⟨rest, hdrop, -⟩ := Option.map_eq_some_iff.1 hread
  exact exists_isAlpha_of_dropWord? (fun v hv => List.mem_of_mem_take hv)
    (hnames i (List.mem_range.1 hi)) hdrop

/-- The full name of a month begins with a letter. -/
theorem exists_isAlpha_of_scanMonthName? (h : scanMonthName? s = some (n, r)) :
    ∃ c t, s = c :: t ∧ c.isAlpha = true := by
  rw [scanMonthName?, Option.bind_eq_bind, Option.bind_eq_some_iff] at h
  obtain ⟨⟨m, rest⟩, hshort, -⟩ := h
  exact exists_isAlpha_of_scanMonthAbbreviation? hshort

/-- Where no letter follows the short name of a month, the name is read in full likewise. -/
theorem scanMonthName?_of_abbreviation (h : scanMonthAbbreviation? s = some (n, r))
    (hr : Stops Char.isAlpha r) : scanMonthName? s = some (n, r) := by
  rw [scanMonthName?, h]
  simp only [Option.bind_eq_bind, Option.bind_some]
  split
  · rename_i rest hrest
    by_cases hshort : (monthNames.getD (n - 1) "").toList.drop 3 = []
    · rw [hshort, dropWord?] at hrest
      rw [Option.some.inj hrest]
    · obtain ⟨c, t, rfl, hc⟩ :=
        exists_isAlpha_of_dropWord? (fun v hv => List.mem_of_mem_drop hv) hshort hrest
      rw [stops_cons, hc] at hr
      cases hr
  · rfl

/-! ## Outlines -/

/-- What tells the forms of a day apart. -/
inductive Outline where
  | name
  | dashes
  | slashes
  | number
deriving DecidableEq, Repr

/-- The outline that a character behind the first number tells. -/
def markOutline (c : Char) : Option Outline :=
  if c = '-' then some .dashes
  else if c = '/' then some .slashes
  else if c.isAlpha then some .number
  else none

/-- The outline of a text: a letter at its head, or the character behind its first number. -/
def outline (s : List Char) : Option Outline :=
  if s.head?.any Char.isAlpha then some .name else (behindNumber s).head?.bind markOutline

/-- The outline of the texts in a form. -/
def DayForm.outline : DayForm → Outline
  | .dashed => .dashes
  | .yearFirst => .slashes
  | .monthFirst => .slashes
  | .nameFirst _ => .name
  | .dayFirst _ => .number

/-- A letter at the head of a text tells the name of a month. -/
theorem outline_of_isAlpha (hc : c.isAlpha = true) : outline (c :: s) = some .name := by
  rw [outline, List.head?_cons, Option.any_some, if_pos hc]

/-- Behind a number the next character tells the outline. -/
theorem NumberRead.outline_eq (h : NumberRead s r) (hr : trimStart r = c :: t)
    (hc : c.isDigit = false) :
    outline s = markOutline c := by
  have hdigits : Stops Char.isDigit r :=
    stops_of_trimStart (fun _ => not_isBlank_of_isDigit) (hr ▸ stops_cons.2 hc)
  have hname : s.head?.any Char.isAlpha = false := by
    have hstops := stops_of_trimStart (fun _ => not_isBlank_of_isAlpha) h.stops_isAlpha
    cases s with
    | nil => rfl
    | cons d ds => exact stops_cons.1 hstops
  rw [outline, hname, h.behindNumber_eq hdigits, hr]
  rfl

/-- The name of a month begins with a letter and changes the month only. -/
theorem nameItem_reads {full : Bool} (h : ItemReads (nameItem full) p s q r) :
    (∃ c t, s = c :: t ∧ c.isAlpha = true) ∧ ∃ n, q = { p with month := n } := by
  cases full with
  | true =>
      obtain ⟨n, hscan, rfl⟩ := h
      exact ⟨exists_isAlpha_of_scanMonthName? hscan, n, rfl⟩
  | false =>
      obtain ⟨n, hscan, rfl⟩ := h
      exact ⟨exists_isAlpha_of_scanMonthAbbreviation? hscan, n, rfl⟩

/-- A form of a day reads texts of its outline only. -/
theorem DayForm.outline_of_scan {f : DayForm} (h : scanLayout? f.items p s = some (q, r)) :
    Calendar.outline s = some f.outline := by
  cases f with
  | dashed =>
      simp only [DayForm.items, scanLayout?_cons_iff, scanItem?_iff] at h
      obtain ⟨_, _, ⟨y, hyear, rfl⟩, _, t, ⟨rfl, rfl⟩, -⟩ := h
      exact (numberRead_of_scanYear? hyear).outline_eq (trimStart_cons (by decide)) (by decide)
  | yearFirst =>
      simp only [DayForm.items, scanLayout?_cons_iff, scanItem?_iff] at h
      obtain ⟨_, _, ⟨y, hyear, rfl⟩, _, t, ⟨rfl, rfl⟩, -⟩ := h
      exact (numberRead_of_scanYear? hyear).outline_eq (trimStart_cons (by decide)) (by decide)
  | monthFirst =>
      simp only [DayForm.items, scanLayout?_cons_iff, scanItem?_iff] at h
      obtain ⟨_, _, ⟨n, hmonth, rfl⟩, _, t, ⟨rfl, rfl⟩, -⟩ := h
      exact (numberRead_of_scanNumber? hmonth).outline_eq (trimStart_cons (by decide)) (by decide)
  | nameFirst full =>
      simp only [DayForm.items, scanLayout?_cons_iff, scanItem?_iff] at h
      obtain ⟨_, _, hname, -⟩ := h
      obtain ⟨⟨c, t, rfl, hc⟩, -⟩ := nameItem_reads hname
      exact outline_of_isAlpha hc
  | dayFirst full =>
      simp only [DayForm.items, scanLayout?_cons_iff, scanItem?_iff] at h
      obtain ⟨_, rest, ⟨n, hday, rfl⟩, _, _, ⟨rfl, rfl⟩, _, _, hname, -⟩ := h
      obtain ⟨⟨c, t, hrest, hc⟩, -⟩ := nameItem_reads hname
      have hdigit : c.isDigit = false := by
        rw [Bool.eq_false_iff]
        intro hd
        rw [not_isAlpha_of_isDigit hd] at hc
        cases hc
      rw [(numberRead_of_scanNumber? hday).outline_eq hrest hdigit, markOutline, if_neg, if_neg,
        if_pos hc]
      · rfl
      all_goals rintro rfl; cases hc

/-! ## Two forms that read one text -/

/-- What is read with the short name of a month is read with the full name likewise. -/
theorem scan_nameFirst_full (h : scanLayout? (DayForm.nameFirst false).items p s = some (q, r)) :
    scanLayout? (DayForm.nameFirst true).items p s = some (q, r) := by
  simp only [DayForm.items, scanLayout?_cons_iff, scanItem?_iff] at h ⊢
  obtain ⟨_, rest, ⟨n, hname, rfl⟩, _, _, ⟨rfl, rfl⟩, _, u, ⟨m, hday, rfl⟩, hend⟩ := h
  refine ⟨_, rest, ⟨n, scanMonthName?_of_abbreviation hname ?_, rfl⟩, _, _, ⟨rfl, rfl⟩, _, u,
    ⟨m, hday, rfl⟩, hend⟩
  rw [scanShortNumber?_trimStart] at hday
  exact stops_of_trimStart (fun _ => not_isBlank_of_isAlpha)
    (numberRead_of_scanNumber? hday).stops_isAlpha

/-- A day in front of a short name of a month is read with the full name as well. -/
theorem scan_dayFirst_full (h : scanLayout? (DayForm.dayFirst false).items p s = some (q, r)) :
    scanLayout? (DayForm.dayFirst true).items p s = some (q, r) := by
  simp only [DayForm.items, scanLayout?_cons_iff, scanItem?_iff] at h ⊢
  obtain ⟨_, rest, hday, _, _, ⟨rfl, rfl⟩, _, t, ⟨n, hname, rfl⟩, _, _, ⟨rfl, rfl⟩, _, u,
    ⟨y, hyear, rfl⟩, hend⟩ := h
  refine ⟨_, rest, hday, _, _, ⟨rfl, rfl⟩, _, t, ⟨n, scanMonthName?_of_abbreviation hname ?_, rfl⟩,
    _, _, ⟨rfl, rfl⟩, _, u, ⟨y, hyear, rfl⟩, hend⟩
  have hstops := (numberRead_of_scanYear? hyear).stops_isAlpha
  rw [trimStart_trimStart] at hstops
  exact stops_of_trimStart (fun _ => not_isBlank_of_isAlpha) hstops

/-- The form with the full name of the month, if there is a name. -/
def DayForm.withFullName : DayForm → DayForm
  | .nameFirst _ => .nameFirst true
  | .dayFirst _ => .dayFirst true
  | f => f

/-- What a form reads is read with full names of months as well. -/
theorem DayForm.scan_withFullName {f : DayForm} (h : scanLayout? f.items p s = some (q, r)) :
    scanLayout? f.withFullName.items p s = some (q, r) := by
  cases f with
  | nameFirst full =>
      cases full with
      | true => exact h
      | false => exact scan_nameFirst_full h
  | dayFirst full =>
      cases full with
      | true => exact h
      | false => exact scan_dayFirst_full h
  | _ => exact h

/-- Apart from short and full names, only the two forms with slashes have one outline. -/
theorem DayForm.withFullName_eq_of_outline {f g : DayForm} (h : f.outline = g.outline) :
    f.withFullName = g.withFullName ∨ (f = .yearFirst ∧ g = .monthFirst) ∨
      (f = .monthFirst ∧ g = .yearFirst) := by
  cases f <;> cases g <;> simp_all [DayForm.outline, DayForm.withFullName]

/-- Two forms read the same day and leave the same text, if they are not the two with slashes. -/
theorem DayForm.scan_unique {f g : DayForm} (hf : scanLayout? f.items p s = some (q, r))
    (hg : scanLayout? g.items p s = some (q', r')) :
    (q = q' ∧ r = r') ∨ (f = .yearFirst ∧ g = .monthFirst) ∨
      (f = .monthFirst ∧ g = .yearFirst) := by
  have houtline : f.outline = g.outline :=
    Option.some.inj ((outline_of_scan hf).symm.trans (outline_of_scan hg))
  refine (withFullName_eq_of_outline houtline).imp_left fun hfull => ?_
  have hf' := scan_withFullName hf
  rw [hfull] at hf'
  exact Calendar.scan_unique hf' (scan_withFullName hg)

end Calendar

end Dashboard
