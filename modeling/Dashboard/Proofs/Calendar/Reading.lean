import Dashboard.Proofs.Calendar.Slashes

/-!
# Calendar.Reading · the ways to read a date

A text is read as an internet timestamp or in the first layout that accepts it.

* **`readers`** are these ways in their order; **`read?_eq`**: the first of them that accepts a text
  decides.
* **`FormReads`** says that a layout reads a text as a day in front of a clock, and
  **`FormReads.eq_or_slashDay`** compares two layouts that read one text.
* **`not_formReads_of_readInternet?`**: no layout reads an internet timestamp.
-/

namespace Dashboard

namespace Calendar

open Text

variable {s u r r' : List Char} {p p' q q' : Parts} {n count : Nat} {e : Char} {t : Timestamp}
  {f g : DayForm} {k k' : ClockForm} {item : Item} {layout : List Item}

/-! ## The ways to read a text -/

/-- The ways to read a text, in the order in which they are tried. -/
def readers : List (List Char → Option Timestamp) :=
  readInternet? :: (dateTimeLayouts ++ dateLayouts).map readLayout?

/-- A trimmed text is read by the first reader that accepts it. -/
theorem readTrimmed?_eq (s : List Char) : readTrimmed? s = readers.findSome? (· s) := by
  rw [readTrimmed?, readers, List.findSome?_cons, List.findSome?_map, List.findSome?_append]
  cases readInternet? s with
  | some t => rfl
  | none =>
      dsimp only [Function.comp_def]
      cases dateTimeLayouts.findSome? fun layout => readLayout? layout s <;> rfl

/-- A text is trimmed and read by the first reader that accepts it. -/
theorem read?_eq (s : String) : read? s = readers.findSome? (· (trim s.toList)) := by
  rw [read?, ← readTrimmed?_eq]
  cases trim s.toList with
  | nil => decide +kernel
  | cons c t => rfl

/-- The readers are that of internet timestamps and one for each layout. -/
theorem mem_readers {read : List Char → Option Timestamp} : read ∈ readers ↔
    read = readInternet? ∨ ∃ x ∈ layoutForms, read = readLayout? (x.1.items ++ x.2.items) := by
  rw [readers, layouts_eq, List.map_map, List.mem_cons, List.mem_map]
  simp only [Function.comp_apply, eq_comm]

/-! ## Reading a day and a clock -/

/-- Only a fraction changes the nanoseconds. -/
theorem nanosecond_of_itemReads (h : ItemReads item p s q r) (hitem : item ≠ .fraction) :
    q.nanosecond = p.nanosecond := by
  cases item with
  | fraction => exact absurd rfl hitem
  | mark c => rw [h.2]
  | blank => rw [h.2]
  | _ =>
      obtain ⟨n, -, rfl⟩ := h
      rfl

/-- A layout without a fraction leaves the nanoseconds alone. -/
theorem nanosecond_of_scanLayout? (h : scanLayout? layout p s = some (q, r))
    (hlayout : .fraction ∉ layout) : q.nanosecond = p.nanosecond := by
  induction layout generalizing p s with
  | nil =>
      obtain ⟨rfl, -⟩ := Prod.mk.inj (Option.some.inj h)
      rfl
  | cons item layout ih =>
      obtain ⟨q', r', hitem, hrest⟩ := scanLayout?_cons_iff.1 h
      rw [List.mem_cons, not_or] at hlayout
      rw [ih hrest hlayout.2,
        nanosecond_of_itemReads (scanItem?_iff.1 hitem) (Ne.symm hlayout.1)]

/-- The form reads a day in front of `r`, and the other form reads `r` as a clock. -/
structure FormReads (f : DayForm) (k : ClockForm) (s : List Char) (q : Parts) (r : List Char)
    (p : Parts) : Prop where
  day : scanLayout? f.items {} s = some (q, r)
  clock : scanLayout? k.items q r = some (p, [])

/-- What stands behind the day is read as a clock. -/
theorem FormReads.clockReads (h : FormReads f k s q r p) : ClockReads q r p := by
  apply ClockForm.clockReads _ h.clock
  apply nanosecond_of_scanLayout? h.day
  cases f with
  | nameFirst full => cases full <;> decide
  | dayFirst full => cases full <;> decide
  | _ => decide

/-- A layout reads a text as a day in front of a clock. -/
theorem scan_items_iff : scanLayout? (f.items ++ k.items) {} s = some (p, []) ↔
    ∃ q r, FormReads f k s q r p := by
  rw [scanLayout?_append, Option.bind_eq_some_iff, Prod.exists]
  exact ⟨fun ⟨q, r, hday, hclock⟩ => ⟨q, r, hday, hclock⟩,
    fun ⟨q, r, h⟩ => ⟨q, r, h.day, h.clock⟩⟩

/-- A layout reads a text to its end, and the parts make a time. -/
theorem readLayout?_eq_some_iff : readLayout? layout s = some t ↔
    ∃ p, scanLayout? layout {} s = some (p, []) ∧ p.timestamp? = some t := by
  unfold readLayout?
  split
  · rename_i parts hscan
    simp [hscan]
  · rename_i hscan
    constructor
    · intro h
      cases h
    · rintro ⟨p, hp, -⟩
      exact absurd hp (hscan p)

/-- Two forms that read a text read the same day in front of the same clock, or they read three
short numbers in front of it, each in its own order. -/
theorem FormReads.eq_or_slashDay (h : FormReads f k s q r p) (h' : FormReads g k' s q' r' p') :
    r' = r ∧ (q = q' ∨ ∃ a b c : Nat, SlashDay s a b c r ∧
      ((f = .yearFirst ∧ q = dayParts a b c ∧ g = .monthFirst ∧ q' = dayParts c a b) ∨
        (f = .monthFirst ∧ q = dayParts c a b ∧ g = .yearFirst ∧ q' = dayParts a b c))) := by
  rcases DayForm.scan_unique h.day h'.day with ⟨rfl, rfl⟩ | ⟨rfl, rfl⟩ | ⟨rfl, rfl⟩
  · exact ⟨rfl, .inl rfl⟩
  · obtain ⟨a, b, c, hday, hq, hq', hr⟩ :=
      slashDay_of_scans h.day h'.day h.clockReads h'.clockReads
    exact ⟨hr, .inr ⟨a, b, c, hday, .inl ⟨rfl, hq, rfl, hq'⟩⟩⟩
  · obtain ⟨a, b, c, hday, hq', hq, hr⟩ :=
      slashDay_of_scans h'.day h.day h'.clockReads h.clockReads
    exact ⟨hr.symm, .inr ⟨a, b, c, hr ▸ hday, .inr ⟨rfl, hq, rfl, hq'⟩⟩⟩

/-! ## Internet timestamps -/

/-- A mark that is dropped stands at the head of the text. -/
theorem dropMark?_eq_some_iff : dropMark? e s = some r ↔ s = e :: r := by
  cases s with
  | nil => simp [dropMark?]
  | cons d t =>
      rw [dropMark?]
      split
      · rename_i heq
        simp [heq]
      · rename_i hne
        simp [Ne.symm hne]

/-- Two digits are a short number. -/
theorem scanShortNumber?_of_scanFixed? (h : scanFixed? 2 s = some (n, r)) :
    scanShortNumber? s = some (n, r) := by
  obtain ⟨d, ds, rfl, hd⟩ := exists_digit_of_scanNumber? h
  rw [scanShortNumber?, trimStart_cons (not_isBlank_of_isDigit hd)]
  exact scanNumber?_of_scanFixed? (by decide) h

/-- Four digits are a year. -/
theorem scanYear?_of_scanFixed? (h : scanFixed? 4 s = some (n, r)) :
    scanYear? s = some ((n : Int), r) := by
  obtain ⟨d, ds, rfl, hd⟩ := exists_digit_of_scanNumber? h
  have hscan := scanNumber?_of_scanFixed? (by decide) h
  rw [← trimStart_cons (not_isBlank_of_isDigit hd)] at hscan
  rw [scanYear?_of_scanNumber? hscan, hscan, Option.map_some]

/-- What is read behind a mark follows the mark in the text. -/
theorem exists_of_bind_dropMark? {α : Type} {next : List Char → Option α} {x : α}
    (h : (dropMark? e s >>= next) = some x) : ∃ r, s = e :: r ∧ next r = some x := by
  obtain ⟨r, hr, hnext⟩ := Option.bind_eq_some_iff.1 h
  exact ⟨r, dropMark?_eq_some_iff.1 hr, hnext⟩

/-- A clock time with seconds, in front of something. -/
def InternetClock (s : List Char) : Prop :=
  ∃ hour minute second nanosecond r₁ r₂ r₃ r₄, scanFixed? 2 s = some (hour, ':' :: r₁) ∧
    scanFixed? 2 r₁ = some (minute, ':' :: r₂) ∧ scanFixed? 2 r₂ = some (second, r₃) ∧
    scanFraction? r₃ = some (nanosecond, r₄) ∧ r₄ ≠ []

/-- An internet timestamp has a day with dashes, and the offset stands behind its clock time. -/
theorem exists_of_readInternet? (h : readInternet? s = some t) :
    ∃ q e u, scanLayout? DayForm.dashed.items {} s = some (q, e :: u) ∧
      (e = 'T' ∨ e = 't' ∨ e = ' ') ∧ InternetClock u := by
  rw [readInternet?] at h
  obtain ⟨⟨year, _⟩, hyear, h₁⟩ := Option.bind_eq_some_iff.1 h
  obtain ⟨s₁, rfl, h₂⟩ := exists_of_bind_dropMark? h₁
  obtain ⟨⟨month, _⟩, hmonth, h₃⟩ := Option.bind_eq_some_iff.1 h₂
  obtain ⟨s₂, rfl, h₄⟩ := exists_of_bind_dropMark? h₃
  obtain ⟨⟨day, s₃⟩, hday, h₅⟩ := Option.bind_eq_some_iff.1 h₄
  have hclock : ∃ e u, s₃ = e :: u ∧ (e = 'T' ∨ e = 't' ∨ e = ' ') ∧ InternetClock u := by
    dsimp only at h₅
    split at h₅
    case h_4 => cases h₅
    all_goals
      rw [Option.bind_eq_bind, Option.bind_some] at h₅
      obtain ⟨⟨hour, _⟩, hhour, h₆⟩ := Option.bind_eq_some_iff.1 h₅
      obtain ⟨r₁, rfl, h₇⟩ := exists_of_bind_dropMark? h₆
      obtain ⟨⟨minute, _⟩, hminute, h₈⟩ := Option.bind_eq_some_iff.1 h₇
      obtain ⟨r₂, rfl, h₉⟩ := exists_of_bind_dropMark? h₈
      obtain ⟨⟨second, r₃⟩, hsecond, h₁₀⟩ := Option.bind_eq_some_iff.1 h₉
      obtain ⟨⟨ns, r₄⟩, hfraction, h₁₁⟩ := Option.bind_eq_some_iff.1 h₁₀
      refine ⟨_, _, rfl, by decide, hour, minute, second, ns, r₁, r₂, r₃, r₄, hhour, hminute,
        hsecond, hfraction, ?_⟩
      rintro rfl
      cases h₁₁
  obtain ⟨e, u, rfl, he, hclock⟩ := hclock
  refine ⟨dayParts year month day, e, u, ?_, he, hclock⟩
  simp only [DayForm.items, scanLayout?_cons_iff, scanItem?_iff]
  exact ⟨_, _, ⟨year, scanYear?_of_scanFixed? hyear, rfl⟩, _, _, ⟨rfl, rfl⟩, _, _,
    ⟨month, scanShortNumber?_of_scanFixed? hmonth, rfl⟩, _, _, ⟨rfl, rfl⟩, _, _,
    ⟨day, scanShortNumber?_of_scanFixed? hday, rfl⟩, rfl⟩

/-- A clock does not read the offset. -/
theorem InternetClock.not_clockReads (h : InternetClock u) (he : e = 'T' ∨ e = 't' ∨ e = ' ') :
    ¬ClockReads p (e :: u) q := by
  rintro (⟨hnil, -⟩ | ⟨q', r, ⟨hour, minute, v, hhour, hminute, -⟩, hend⟩)
  · cases hnil
  · obtain ⟨hour', minute', second', ns', r₁, r₂, r₃, r₄, hhour', hminute', hsecond', hfraction',
      hne⟩ := h
    have hstart : scanShortNumber? u = some (hour, ':' :: v) := by
      rcases he with rfl | rfl | rfl
      · exact hhour
      · rw [show afterStart ('t' :: u) = 't' :: u from rfl,
          scanShortNumber?_cons (by decide) (by decide)] at hhour
        cases hhour
      · rw [← scanShortNumber?_trimStart]
        exact (scanShortNumber?_trimStart (' ' :: u)).symm ▸ hhour
    obtain ⟨rfl, hcolon⟩ := scan_unique (scanShortNumber?_of_scanFixed? hhour') hstart
    obtain rfl := (List.cons.inj hcolon).2
    obtain ⟨rfl, rfl⟩ := scan_unique (scanShortNumber?_of_scanFixed? hminute') hminute
    rcases hend with ⟨hnil, -⟩ | ⟨second, ns, w, x, hcolon, hsecond, hfraction, -⟩
    · cases hnil
    · obtain rfl := (List.cons.inj hcolon).2
      obtain ⟨rfl, rfl⟩ := scan_unique (scanShortNumber?_of_scanFixed? hsecond') hsecond
      exact hne (scan_unique hfraction' hfraction).2

/-- No layout reads an internet timestamp. -/
theorem not_formReads_of_readInternet? (h : readInternet? s = some t) :
    ¬FormReads f k s q r p := by
  intro hform
  obtain ⟨q', e, u, hday, he, hclock⟩ := exists_of_readInternet? h
  rcases DayForm.scan_unique hform.day hday with ⟨rfl, rfl⟩ | ⟨-, hdashed⟩ | ⟨-, hdashed⟩
  · exact hclock.not_clockReads he hform.clockReads
  · cases hdashed
  · cases hdashed

end Calendar

end Dashboard
