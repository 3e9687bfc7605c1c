import Dashboard.Proofs.Calendar.Number

/-!
# Calendar.Form · layouts as a day and a clock

Every layout is a form of a day followed by a form of a clock, which may be none.

* **`layouts_eq`**: the layouts as pairs of forms.
* **`scanLayout?_append`**, **`scanItem?_iff`**: a layout is read item by item.
* **`ClockForm.clockReads`**: all forms of a clock that read a text to its end read it as
  **`ClockReads`** says, and **`ClockReads.unique`**: so they read the same time.
-/

namespace Dashboard

namespace Calendar

open Text

/-! ## Forms -/

/-- A form of a day. -/
inductive DayForm where
  /-- Year, month and day with dashes. -/
  | dashed
  /-- Year, month and day with slashes. -/
  | yearFirst
  /-- Month, day and year with slashes. -/
  | monthFirst
  /-- The name of the month, full or short, the day, a comma and the year. -/
  | nameFirst (full : Bool)
  /-- The day, the name of the month, full or short, and the year. -/
  | dayFirst (full : Bool)
deriving DecidableEq, Repr

/-- A form of a clock. It starts with the letter T or with white space. -/
inductive ClockForm where
  | none
  | minutes (letter : Bool)
  | seconds (letter : Bool)
  | fractions (letter : Bool)
deriving DecidableEq, Repr

/-- The name of a month, full or short. -/
def nameItem (full : Bool) : Item := if full then .monthName else .monthAbbreviation

/-- The start of a clock. -/
def startItem (letter : Bool) : Item := if letter then .mark 'T' else .blank

/-- The items of a form. -/
def DayForm.items : DayForm → List Item
  | .dashed => [.year, .mark '-', .month, .mark '-', .day]
  | .yearFirst => [.year, .mark '/', .month, .mark '/', .day]
  | .monthFirst => [.month, .mark '/', .day, .mark '/', .year]
  | .nameFirst full => [nameItem full, .blank, .day, .mark ',', .blank, .year]
  | .dayFirst full => [.day, .blank, nameItem full, .blank, .year]

/-- The items of a form. -/
def ClockForm.items : ClockForm → List Item
  | .none => []
  | .minutes letter => [startItem letter, .hour, .mark ':', .minute]
  | .seconds letter => [startItem letter, .hour, .mark ':', .minute, .mark ':', .second]
  | .fractions letter =>
    [startItem letter, .hour, .mark ':', .minute, .mark ':', .second, .fraction]

/-- The forms of the layouts, in their order. -/
def layoutForms : List (DayForm × ClockForm) :=
  [(.dashed, .fractions true), (.dashed, .seconds true), (.dashed, .minutes true),
    (.dashed, .fractions false), (.dashed, .seconds false), (.dashed, .minutes false),
    (.yearFirst, .seconds false), (.monthFirst, .seconds false), (.monthFirst, .minutes false),
    (.dashed, .none), (.yearFirst, .none), (.monthFirst, .none), (.nameFirst true, .none),
    (.nameFirst false, .none), (.dayFirst true, .none), (.dayFirst false, .none)]

/-- The layouts are the forms of a day in front of the forms of a clock. -/
theorem layouts_eq :
    dateTimeLayouts ++ dateLayouts = layoutForms.map fun f => f.1.items ++ f.2.items := by
  decide +kernel

variable {s t r : List Char} {p q : Parts} {c : Char} {n m : Nat} {y : Int} {item : Item}
  {layout layout' : List Item}

/-! ## Reading items one after the other -/

/-- Reading a text in one way gives one result and leaves one text. -/
theorem scan_unique {α : Type} {scan : Option (α × List Char)} {a b : α} {r r' : List Char}
    (h : scan = some (a, r)) (h' : scan = some (b, r')) : a = b ∧ r = r' :=
  Prod.mk.inj (Option.some.inj (h.symm.trans h'))

/-- The first item is read, and then the other ones. -/
theorem scanLayout?_cons_iff {x : Parts × List Char} :
    scanLayout? (item :: layout) p s = some x ↔
      ∃ q r, scanItem? item p s = some (q, r) ∧ scanLayout? layout q r = some x := by
  rw [scanLayout?, Option.bind_eq_bind, Option.bind_eq_some_iff, Prod.exists]

/-- Two layouts in a row are read one after the other. -/
theorem scanLayout?_append : scanLayout? (layout ++ layout') p s =
    (scanLayout? layout p s).bind fun x => scanLayout? layout' x.1 x.2 := by
  induction layout generalizing p s with
  | nil => rfl
  | cons item layout ih =>
      rw [List.cons_append, scanLayout?, scanLayout?]
      cases scanItem? item p s with
      | none => rfl
      | some x => exact ih

/-- What an item reads: the parts after it and what is left of the text. -/
def ItemReads (item : Item) (p : Parts) (s : List Char) (q : Parts) (r : List Char) : Prop :=
  match item with
  | .mark c => s = c :: r ∧ q = p
  | .blank => r = trimStart s ∧ q = p
  | .year => ∃ y, scanYear? s = some (y, r) ∧ q = { p with year := y }
  | .month => ∃ n, scanShortNumber? s = some (n, r) ∧ q = { p with month := n }
  | .day => ∃ n, scanShortNumber? s = some (n, r) ∧ q = { p with day := n }
  | .hour => ∃ n, scanShortNumber? s = some (n, r) ∧ q = { p with hour := n }
  | .minute => ∃ n, scanShortNumber? s = some (n, r) ∧ q = { p with minute := n }
  | .second => ∃ n, scanShortNumber? s = some (n, r) ∧ q = { p with second := n }
  | .fraction => ∃ n, scanFraction? s = some (n, r) ∧ q = { p with nanosecond := n }
  | .monthName => ∃ n, scanMonthName? s = some (n, r) ∧ q = { p with month := n }
  | .monthAbbreviation => ∃ n, scanMonthAbbreviation? s = some (n, r) ∧ q = { p with month := n }

/-- What is scanned is set in the parts, and the text behind it is left. -/
theorem map_scan_iff {α : Type} (scan : Option (α × List Char)) (set : α → Parts) :
    (scan.map fun x => (set x.1, x.2)) = some (q, r) ↔
      ∃ a, scan = some (a, r) ∧ q = set a := by
  rw [Option.map_eq_some_iff, Prod.exists]
  constructor
  · rintro ⟨a, rest, hscan, heq⟩
    obtain ⟨rfl, rfl⟩ := Prod.mk.inj heq
    exact ⟨a, hscan, rfl⟩
  · rintro ⟨a, hscan, rfl⟩
    exact ⟨a, r, hscan, rfl⟩

/-- Scanning an item is reading it. -/
theorem scanItem?_iff : scanItem? item p s = some (q, r) ↔ ItemReads item p s q r := by
  cases item with
  | mark c =>
      cases s with
      | nil => simp [scanItem?, ItemReads]
      | cons d rest =>
          rw [scanItem?]
          by_cases hc : c = d
          · simp [hc, ItemReads, eq_comm, and_comm]
          · simp [hc, Ne.symm hc, ItemReads]
  | blank => simp [scanItem?, ItemReads, eq_comm, and_comm]
  | year => exact map_scan_iff (scanYear? s) fun y => { p with year := y }
  | month => exact map_scan_iff (scanShortNumber? s) fun n => { p with month := n }
  | day => exact map_scan_iff (scanShortNumber? s) fun n => { p with day := n }
  | hour => exact map_scan_iff (scanShortNumber? s) fun n => { p with hour := n }
  | minute => exact map_scan_iff (scanShortNumber? s) fun n => { p with minute := n }
  | second => exact map_scan_iff (scanShortNumber? s) fun n => { p with second := n }
  | fraction => exact map_scan_iff (scanFraction? s) fun n => { p with nanosecond := n }
  | monthName => exact map_scan_iff (scanMonthName? s) fun n => { p with month := n }
  | monthAbbreviation =>
      exact map_scan_iff (scanMonthAbbreviation? s) fun n => { p with month := n }

/-! ## Clocks -/

/-- The text behind the letter that may start a clock. -/
def afterStart : List Char → List Char
  | 'T' :: s => s
  | s => s

/-- An hour, a colon and a minute. -/
def MinutesRead (p : Parts) (s : List Char) (q : Parts) (r : List Char) : Prop :=
  ∃ h m t, scanShortNumber? s = some (h, ':' :: t) ∧ scanShortNumber? t = some (m, r) ∧
    q = { p with hour := h, minute := m }

/-- Nothing, or a colon and a second with all that is left as its fraction. -/
def SecondsEnd (p : Parts) (s : List Char) (q : Parts) : Prop :=
  (s = [] ∧ q = p) ∨ ∃ n ns t r, s = ':' :: t ∧ scanShortNumber? t = some (n, r) ∧
    scanFraction? r = some (ns, []) ∧ q = { p with second := n, nanosecond := ns }

/-- A whole text is read as a clock: it is empty, or it has an hour and a minute, and perhaps a
second. -/
def ClockReads (p : Parts) (s : List Char) (q : Parts) : Prop :=
  (s = [] ∧ q = p) ∨ ∃ q' r, MinutesRead p (afterStart s) q' r ∧ SecondsEnd q' r q

/-- White space may stand in front of a short number. -/
theorem scanShortNumber?_trimStart (s : List Char) :
    scanShortNumber? (trimStart s) = scanShortNumber? s := by
  rw [scanShortNumber?, trimStart_trimStart, ← scanShortNumber?]

/-- A short number begins with a digit. -/
theorem scanShortNumber?_cons (hblank : isBlank c = false) (hdigit : c.isDigit = false) :
    scanShortNumber? (c :: s) = none := by
  rw [scanShortNumber?, trimStart_cons hblank, Option.eq_none_iff_forall_ne_some]
  rintro ⟨n, r⟩ h
  obtain ⟨d, ds, hcons, hd⟩ := exists_digit_of_scanNumber? h
  rw [(List.cons.inj hcons).1, hd] at hdigit
  cases hdigit

/-- A clock with minutes is read behind its start. -/
theorem scan_minutes {letter : Bool}
    (h : scanLayout? (ClockForm.minutes letter).items p s = some (q, r)) :
    MinutesRead p (afterStart s) q r := by
  simp only [ClockForm.items, scanLayout?_cons_iff, scanItem?_iff] at h
  obtain ⟨p', t, hstart, _, _, ⟨h, hhour, rfl⟩, _, u, ⟨rfl, rfl⟩, _, _, ⟨m, hminute, rfl⟩,
    hend⟩ := h
  obtain ⟨rfl, rfl⟩ := Prod.mk.inj (Option.some.inj hend)
  suffices hs : p' = p ∧ scanShortNumber? (afterStart s) = some (h, ':' :: u) by
    exact ⟨h, m, u, hs.2, hminute, by rw [hs.1]⟩
  cases letter with
  | true =>
      obtain ⟨rfl, rfl⟩ := hstart
      exact ⟨rfl, hhour⟩
  | false =>
      obtain ⟨rfl, rfl⟩ := hstart
      rw [scanShortNumber?_trimStart] at hhour
      refine ⟨rfl, ?_⟩
      -- a text that starts with the letter has no hour behind white space
      unfold afterStart
      split
      · rw [scanShortNumber?_cons (by decide) (by decide)] at hhour
        cases hhour
      · exact hhour

/-- A form that reads a text to its end reads it as a clock. -/
theorem ClockForm.clockReads {f : ClockForm} (hp : p.nanosecond = 0)
    (h : scanLayout? f.items p s = some (q, [])) : ClockReads p s q := by
  -- what the longer forms read behind the minutes
  have hseconds : ∀ {p' q' : Parts} {t u : List Char},
      scanLayout? [.mark ':', .second] p' t = some (q', u) →
        ∃ n v, t = ':' :: v ∧ scanShortNumber? v = some (n, u) ∧ q' = { p' with second := n } := by
    intro p' q' t u h
    simp only [scanLayout?_cons_iff, scanItem?_iff] at h
    obtain ⟨_, v, ⟨rfl, rfl⟩, _, _, ⟨n, hsecond, rfl⟩, hend⟩ := h
    obtain ⟨rfl, rfl⟩ := Prod.mk.inj (Option.some.inj hend)
    exact ⟨n, v, rfl, hsecond, rfl⟩
  cases f with
  | none =>
      obtain ⟨rfl, rfl⟩ := Prod.mk.inj (Option.some.inj h)
      exact .inl ⟨rfl, rfl⟩
  | minutes letter => exact .inr ⟨q, [], scan_minutes h, .inl ⟨rfl, rfl⟩⟩
  | seconds letter =>
      change scanLayout? ((ClockForm.minutes letter).items ++ [.mark ':', .second]) p s = _ at h
      rw [scanLayout?_append, Option.bind_eq_some_iff] at h
      obtain ⟨⟨q', r⟩, hminutes, hrest⟩ := h
      obtain ⟨n, v, rfl, hsecond, rfl⟩ := hseconds hrest
      have hread := scan_minutes hminutes
      refine .inr ⟨q', _, hread, .inr ⟨n, 0, v, [], rfl, hsecond, rfl, ?_⟩⟩
      obtain ⟨h, m, t, -, -, rfl⟩ := hread
      simp [hp]
  | fractions letter =>
      change scanLayout?
        ((ClockForm.minutes letter).items ++ ([.mark ':', .second] ++ [.fraction])) p s = _ at h
      rw [scanLayout?_append, Option.bind_eq_some_iff] at h
      obtain ⟨⟨q', r⟩, hminutes, hrest⟩ := h
      rw [scanLayout?_append, Option.bind_eq_some_iff] at hrest
      obtain ⟨⟨q'', u⟩, hmiddle, hlast⟩ := hrest
      obtain ⟨n, v, rfl, hsecond, rfl⟩ := hseconds hmiddle
      simp only [scanLayout?_cons_iff, scanItem?_iff] at hlast
      obtain ⟨_, _, ⟨ns, hfraction, rfl⟩, hend⟩ := hlast
      obtain ⟨rfl, rfl⟩ := Prod.mk.inj (Option.some.inj hend)
      exact .inr ⟨q', _, scan_minutes hminutes, .inr ⟨n, ns, v, u, rfl, hsecond, hfraction, rfl⟩⟩

/-- A text is read as one clock only. -/
theorem ClockReads.unique {q' : Parts} (h : ClockReads p s q) (h' : ClockReads p s q') :
    q = q' := by
  have hempty : ∀ {q r}, ¬MinutesRead p (afterStart []) q r := by
    rintro q r ⟨h, m, t, hhour, -⟩
    cases hhour
  rcases h with ⟨rfl, rfl⟩ | ⟨a, r, ⟨h, m, t, hhour, hminute, rfl⟩, hend⟩
  · rcases h' with ⟨-, rfl⟩ | ⟨a, r, hminutes, -⟩
    · rfl
    · exact absurd hminutes hempty
  · rcases h' with ⟨rfl, rfl⟩ | ⟨a', r', ⟨h', m', t', hhour', hminute', rfl⟩, hend'⟩
    · exact absurd ⟨h, m, t, hhour, hminute, rfl⟩ hempty
    · obtain ⟨rfl, hcolon⟩ := scan_unique hhour hhour'
      obtain rfl := (List.cons.inj hcolon).2
      obtain ⟨rfl, rfl⟩ := scan_unique hminute hminute'
      rcases hend with ⟨rfl, rfl⟩ | ⟨n, ns, u, v, rfl, hsecond, hfraction, rfl⟩
      · rcases hend' with ⟨-, rfl⟩ | ⟨n, ns, u, v, hcolon, -⟩
        · rfl
        · cases hcolon
      · rcases hend' with ⟨hnil, -⟩ | ⟨n', ns', u', v', hcolon, hsecond', hfraction', rfl⟩
        · cases hnil
        · obtain rfl := (List.cons.inj hcolon).2
          obtain ⟨rfl, rfl⟩ := scan_unique hsecond hsecond'
          obtain ⟨rfl, -⟩ := scan_unique hfraction hfraction'
          rfl

end Calendar

end Dashboard
