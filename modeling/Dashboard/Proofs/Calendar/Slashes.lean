import Dashboard.Proofs.Calendar.Day

/-!
# Calendar.Slashes · three numbers with slashes

Two forms of a day put slashes between three numbers: one has the year in front, the other one
behind. Both take a year of one or two digits, and a layout of a clock may follow both.

* **`SlashText`** says of a text itself that it has three short numbers with slashes between them,
  and perhaps a clock time.
* **`SlashText.exists_clock`**: both forms read such a text, each with its own order of the numbers.
* **`slashDay_of_scans`**: a text that both forms read in front of a clock is such a text.
-/

namespace Dashboard

namespace Calendar

open Text

variable {s u r r' rest run : List Char} {p p' q q' : Parts} {n a b c hour minute second : Nat}
  {y : Int} {e : Char}

/-! ## Texts -/

/-- Three short numbers with slashes between them, in front of `rest`. -/
def SlashDay (s : List Char) (a b c : Nat) (rest : List Char) : Prop :=
  ∃ r₁ r₂, Leads s a ('/' :: r₁) ∧ Leads r₁ b ('/' :: r₂) ∧ Leads r₂ c rest

/-- Three short numbers with colons between them. -/
def ClockText (s : List Char) (hour minute second : Nat) : Prop :=
  ∃ r₁ r₂, Leads s hour (':' :: r₁) ∧ Leads r₁ minute (':' :: r₂) ∧ Leads r₂ second []

/-- Three short numbers with slashes between them, and perhaps a clock time; no time stands for
midnight. -/
def SlashText (s : List Char) (a b c hour minute second : Nat) : Prop :=
  ∃ rest, SlashDay s a b c rest ∧
    ((rest = [] ∧ hour = 0 ∧ minute = 0 ∧ second = 0) ∨ ClockText rest hour minute second)

/-- The parts of a day. -/
def dayParts (year : Int) (month day : Nat) : Parts :=
  { year := year, month := month, day := day }

/-- The parts of a day with a clock time. -/
def timeParts (year : Int) (month day hour minute second : Nat) : Parts :=
  ⟨year, month, day, hour, minute, second, 0⟩

/-! ## Reading such a text -/

/-- A short number is read as a year as well. -/
theorem scanYear?_of_leads (h : Leads s n r) : scanYear? s = some ((n : Int), r) := by
  obtain ⟨hscan, hr⟩ := leads_iff.1 h
  obtain ⟨run, hs, hrun, hne, hlength, rfl⟩ := (scanNumber?_iff hr).1 hscan
  have hlong : scanNumber? 1 4 (trimStart s) = some (Decimal.ofDigits run, r) :=
    (scanNumber?_iff hr).2 ⟨run, hs, hrun, hne, hlength.trans (by decide), rfl⟩
  rw [scanYear?_of_scanNumber? hlong, hlong, Option.map_some]

/-- With the year in front the numbers are year, month and day. -/
theorem SlashDay.scan_yearFirst (h : SlashDay s a b c r) :
    scanLayout? DayForm.yearFirst.items {} s = some (dayParts a b c, r) := by
  obtain ⟨r₁, r₂, ha, hb, hc⟩ := h
  simp only [DayForm.items, scanLayout?_cons_iff, scanItem?_iff]
  exact ⟨_, _, ⟨a, scanYear?_of_leads ha, rfl⟩, _, _, ⟨rfl, rfl⟩, _, _,
    ⟨b, (leads_iff.1 hb).1, rfl⟩, _, _, ⟨rfl, rfl⟩, _, _, ⟨c, (leads_iff.1 hc).1, rfl⟩, rfl⟩

/-- With the year behind they are month, day and year. -/
theorem SlashDay.scan_monthFirst (h : SlashDay s a b c r) :
    scanLayout? DayForm.monthFirst.items {} s = some (dayParts c a b, r) := by
  obtain ⟨r₁, r₂, ha, hb, hc⟩ := h
  simp only [DayForm.items, scanLayout?_cons_iff, scanItem?_iff]
  exact ⟨_, _, ⟨a, (leads_iff.1 ha).1, rfl⟩, _, _, ⟨rfl, rfl⟩, _, _,
    ⟨b, (leads_iff.1 hb).1, rfl⟩, _, _, ⟨rfl, rfl⟩, _, _, ⟨c, scanYear?_of_leads hc, rfl⟩, rfl⟩

/-- The form with seconds reads three short numbers with colons to the end of a text. -/
theorem scan_seconds_iff : scanLayout? (ClockForm.seconds false).items p s = some (q, []) ↔
    ∃ hour minute second, ClockText s hour minute second ∧
      q = { p with hour := hour, minute := minute, second := second } := by
  simp only [ClockForm.items, startItem, scanLayout?_cons_iff, scanItem?_iff]
  constructor
  · rintro ⟨_, _, ⟨rfl, rfl⟩, _, _, ⟨h, hhour, rfl⟩, _, r₁, ⟨rfl, rfl⟩, _, _, ⟨m, hminute, rfl⟩,
      _, r₂, ⟨rfl, rfl⟩, _, _, ⟨n, hsecond, rfl⟩, hend⟩
    obtain ⟨rfl, rfl⟩ := Prod.mk.inj (Option.some.inj hend)
    rw [scanShortNumber?_trimStart] at hhour
    exact ⟨h, m, n, ⟨r₁, r₂, leads_iff.2 ⟨hhour, stops_cons.2 rfl⟩,
      leads_iff.2 ⟨hminute, stops_cons.2 rfl⟩, leads_iff.2 ⟨hsecond, stops_nil⟩⟩, rfl⟩
  · rintro ⟨h, m, n, ⟨r₁, r₂, hhour, hminute, hsecond⟩, rfl⟩
    refine ⟨_, _, ⟨rfl, rfl⟩, _, _, ⟨h, ?_, rfl⟩, _, r₁, ⟨rfl, rfl⟩, _, _,
      ⟨m, (leads_iff.1 hminute).1, rfl⟩, _, r₂, ⟨rfl, rfl⟩, _, _, ⟨n, (leads_iff.1 hsecond).1, rfl⟩,
      rfl⟩
    rw [scanShortNumber?_trimStart]
    exact (leads_iff.1 hhour).1

/-- Both forms read such a text, in front of the same clock. -/
theorem SlashText.exists_clock (h : SlashText s a b c hour minute second) :
    ∃ k ∈ [ClockForm.seconds false, ClockForm.none],
      scanLayout? (DayForm.yearFirst.items ++ k.items) {} s =
        some (timeParts a b c hour minute second, []) ∧
      scanLayout? (DayForm.monthFirst.items ++ k.items) {} s =
        some (timeParts c a b hour minute second, []) := by
  obtain ⟨rest, hday, hclock⟩ := h
  rcases hclock with ⟨rfl, rfl, rfl, rfl⟩ | hclock
  · refine ⟨.none, by simp, ?_, ?_⟩
    · rw [scanLayout?_append, hday.scan_yearFirst]
      rfl
    · rw [scanLayout?_append, hday.scan_monthFirst]
      rfl
  · refine ⟨.seconds false, by simp, ?_, ?_⟩
    · rw [scanLayout?_append, hday.scan_yearFirst]
      exact scan_seconds_iff.2 ⟨hour, minute, second, hclock, rfl⟩
    · rw [scanLayout?_append, hday.scan_monthFirst]
      exact scan_seconds_iff.2 ⟨hour, minute, second, hclock, rfl⟩

/-! ## What both forms read -/

/-- A clock starts with an hour and a colon. -/
theorem ClockReads.eq_nil_or_hour (h : ClockReads p s q) :
    s = [] ∨ ∃ n t, scanShortNumber? (afterStart s) = some (n, ':' :: t) := by
  rcases h with ⟨rfl, -⟩ | ⟨q', r, ⟨h, m, t, hhour, -⟩, -⟩
  · exact .inl rfl
  · exact .inr ⟨h, t, hhour⟩

/-- No clock begins with a colon. -/
theorem not_clockReads_colon : ¬ClockReads p (':' :: s) q := by
  intro h
  rcases h.eq_nil_or_hour with hnil | ⟨n, t, hhour⟩
  · cases hnil
  · have hcolon : scanShortNumber? (':' :: s) = none :=
      scanShortNumber?_cons (by decide) (by decide)
    rw [show afterStart (':' :: s) = ':' :: s from rfl, hcolon] at hhour
    cases hhour

/-- A digit starts the hour, without a letter in front of it. -/
theorem afterStart_of_isDigit (h : e.isDigit = true) : afterStart (e :: s) = e :: s := by
  unfold afterStart
  split
  · cases (List.cons.inj ‹_›).1
    cases h
  · rfl

/-- Where both a short number and a year are followed by a clock, no digit is left behind the
number: what remained of its digits would be the hour, and the year would end at a colon. -/
theorem stops_of_clockReads (hshort : scanShortNumber? u = some (n, r))
    (hyear : scanYear? u = some (y, r')) (h : ClockReads q r p) (h' : ClockReads q' r' p') :
    Stops Char.isDigit r := by
  rw [scanYear?_of_scanNumber? hshort] at hyear
  obtain ⟨⟨m, t⟩, hlong, heq⟩ := Option.map_eq_some_iff.1 hyear
  obtain rfl : t = r' := congrArg Prod.snd heq
  obtain ⟨run, rest, hu, hrun, hrest⟩ := exists_run (trimStart u)
  rw [scanShortNumber?, hu] at hshort
  rw [hu] at hlong
  obtain rfl := left_of_scanNumber? hrun hrest hshort
  obtain rfl := left_of_scanNumber? hrun hrest hlong
  by_cases hmore : run.drop 2 = []
  · rwa [hmore, List.nil_append]
  · exfalso
    have hdigits : ∀ d ∈ run.drop 2, d.isDigit = true :=
      fun d hd => hrun d (List.mem_of_mem_drop hd)
    rcases h.eq_nil_or_hour with hnil | ⟨hour, t, hhour⟩
    · exact hmore (List.append_eq_nil_iff.1 hnil).1
    · have hstart : afterStart (run.drop 2 ++ rest) = run.drop 2 ++ rest := by
        obtain ⟨d, ds, hds⟩ := List.exists_cons_of_ne_nil hmore
        rw [hds, List.cons_append, afterStart_of_isDigit (hdigits d (hds ▸ List.mem_cons_self))]
      rw [hstart, scanShortNumber?, trimStart_append_digits hdigits hmore] at hhour
      have hcolon := left_of_scanNumber? hdigits hrest hhour
      rw [List.drop_drop] at hcolon
      rw [← hcolon] at h'
      exact not_clockReads_colon h'

/-- What both forms read in front of a clock is three short numbers, and the same text is left. -/
theorem slashDay_of_scans (hf : scanLayout? DayForm.yearFirst.items {} s = some (q, r))
    (hg : scanLayout? DayForm.monthFirst.items {} s = some (q', r')) (h : ClockReads q r p)
    (h' : ClockReads q' r' p') :
    ∃ a b c : Nat, SlashDay s a b c r ∧ q = dayParts a b c ∧ q' = dayParts c a b ∧ r' = r := by
  simp only [DayForm.items, scanLayout?_cons_iff, scanItem?_iff] at hg
  obtain ⟨_, _, ⟨a, ha, rfl⟩, _, t, ⟨rfl, rfl⟩, _, _, ⟨b, hb, rfl⟩, _, u, ⟨rfl, rfl⟩, _, _,
    ⟨y, hy, rfl⟩, hend⟩ := hg
  obtain ⟨rfl, rfl⟩ := Prod.mk.inj (Option.some.inj hend)
  have ha' : Leads s a ('/' :: t) := leads_iff.2 ⟨ha, stops_cons.2 rfl⟩
  have hb' : Leads t b ('/' :: u) := leads_iff.2 ⟨hb, stops_cons.2 rfl⟩
  simp only [DayForm.items, scanLayout?_cons_iff, scanItem?_iff] at hf
  obtain ⟨_, _, ⟨y', ha'', rfl⟩, _, t', ⟨rfl, rfl⟩, _, _, ⟨m, hb'', rfl⟩, _, u', ⟨rfl, rfl⟩, _, _,
    ⟨c, hc, rfl⟩, hend⟩ := hf
  obtain ⟨rfl, rfl⟩ := Prod.mk.inj (Option.some.inj hend)
  -- the first two numbers are the same in both forms
  obtain ⟨rfl, hslash⟩ := scan_unique (scanYear?_of_leads ha') ha''
  obtain rfl := (List.cons.inj hslash).2
  obtain ⟨rfl, hslash⟩ := scan_unique hb hb''
  obtain rfl := (List.cons.inj hslash).2
  have hc' : Leads u c _ := leads_iff.2 ⟨hc, stops_of_clockReads hc hy h h'⟩
  obtain ⟨rfl, rfl⟩ := scan_unique (scanYear?_of_leads hc') hy
  exact ⟨a, b, c, ⟨t, u, ha', hb', hc'⟩, rfl, rfl, rfl⟩

end Calendar

end Dashboard
