import Dashboard.Proofs.Calendar.Reading

/-!
# Calendar.Unambiguous · whether the order of the layouts matters

Two ways to read a text can give different times only if the text has three short numbers with
slashes: one form takes the first of them for the year, another one the last.

* **`Agree`** says that all ways that read a text read the same time.
* **`Exchangeable`** says of a text itself that it has three short numbers with slashes, of which
  both orders are dates, and different ones.
* **`agree_iff`**: the ways to read a text agree exactly if it is not exchangeable.
* **`read_unambiguous_iff`**: exactly then their order does not matter. Of an exchangeable text the
  date with the year in front is read.
-/

namespace Dashboard

namespace Calendar

open Text

variable {s r r' : List Char} {p p' q q' : Parts} {a b c hour minute second : Nat}
  {t t' : Timestamp} {f g : DayForm} {k k' : ClockForm}

/-! ## The first of some readers -/

/-- The order of a list does not matter to its first result exactly if all results are equal. -/
theorem findSome?_perm_iff {α β : Type} {l : List α} {f : α → Option β} :
    (∀ l' : List α, l'.Perm l → l'.findSome? f = l.findSome? f) ↔
      ∀ a ∈ l, ∀ b ∈ l, ∀ x y, f a = some x → f b = some y → x = y := by
  constructor
  · intro h
    -- every result comes first in some order
    have hfirst : ∀ a ∈ l, ∀ x, f a = some x → l.findSome? f = some x := by
      intro a ha x hx
      obtain ⟨l₁, l₂, rfl⟩ := List.append_of_mem ha
      rw [← h (a :: (l₁ ++ l₂)) List.perm_middle.symm, List.findSome?_cons, hx]
    intro a ha b hb x y hx hy
    exact Option.some.inj ((hfirst a ha x hx).symm.trans (hfirst b hb y hy))
  · intro h l' hperm
    cases hfirst : l.findSome? f with
    | none =>
        rw [List.findSome?_eq_none_iff] at hfirst ⊢
        exact fun a ha => hfirst a (hperm.mem_iff.1 ha)
    | some x =>
        obtain ⟨a, ha, hx⟩ := List.exists_of_findSome?_eq_some hfirst
        obtain ⟨y, hy⟩ := Option.isSome_iff_exists.1
          (List.findSome?_isSome_iff.2 ⟨a, hperm.mem_iff.2 ha, Option.isSome_of_mem hx⟩)
        obtain ⟨b, hb, hy'⟩ := List.exists_of_findSome?_eq_some hy
        rw [hy, h a ha b (hperm.mem_iff.1 hb) x y hx hy']

/-! ## Times -/

/-- The parts make a time exactly if the day and the time exist. -/
theorem isSome_timestamp?_iff : p.timestamp?.isSome = true ↔
    isDate p.year p.month p.day = true ∧ p.hour ≤ 23 ∧ p.minute ≤ 59 ∧ p.second ≤ 60 := by
  have hguard : p.timestamp?.isSome =
      (isDate p.year p.month p.day && p.hour ≤ 23 && p.minute ≤ 59 && p.second ≤ 60) := by
    unfold Parts.timestamp?
    split
    · rename_i h
      rw [h]
      split <;> rfl
    · rename_i h
      rw [Bool.eq_false_iff.2 h]
      rfl
  simp only [hguard, Bool.and_eq_true, decide_eq_true_eq, and_assoc]

/-- A time has the day of its parts. -/
theorem day_of_timestamp? (h : p.timestamp? = some t) :
    t.year = p.year ∧ t.month = p.month ∧ t.day = p.day := by
  unfold Parts.timestamp? at h
  split at h
  · split at h <;> cases h <;> exact ⟨rfl, rfl, rfl⟩
  · cases h

/-! ## Two forms that read one text -/

/-- One form of a day reads a text as one time, whatever clock follows it. -/
theorem FormReads.parts_eq (h : FormReads f k s q r p) (h' : FormReads f k' s q' r' p') :
    p = p' := by
  obtain ⟨rfl, rfl⟩ := scan_unique h.day h'.day
  exact h.clockReads.unique h'.clockReads

/-- Behind a day with slashes and the year first there are seconds or no clock. -/
theorem clock_of_yearFirst (h : (DayForm.yearFirst, k) ∈ layoutForms) :
    k = .seconds false ∨ k = .none := by
  have hall : ∀ x ∈ layoutForms, x.1 = .yearFirst → x.2 = .seconds false ∨ x.2 = .none := by
    decide
  exact hall _ h rfl

/-- What the form with the year in front reads as three short numbers is such a text as a whole. -/
theorem FormReads.slashText (h : FormReads .yearFirst k s q r p) (hday : SlashDay s a b c r)
    (hk : (DayForm.yearFirst, k) ∈ layoutForms) :
    ∃ hour minute second, SlashText s a b c hour minute second ∧
      p = timeParts a b c hour minute second := by
  obtain ⟨rfl, -⟩ := scan_unique h.day hday.scan_yearFirst
  rcases clock_of_yearFirst hk with rfl | rfl
  · obtain ⟨hour, minute, second, hclock, rfl⟩ := scan_seconds_iff.1 h.clock
    exact ⟨hour, minute, second, ⟨r, hday, .inr hclock⟩, rfl⟩
  · obtain ⟨rfl, rfl⟩ := Prod.mk.inj (Option.some.inj h.clock)
    exact ⟨0, 0, 0, ⟨[], hday, .inl ⟨rfl, rfl, rfl, rfl⟩⟩, rfl⟩

/-- The form with the year behind reads such a text with the numbers exchanged. -/
theorem FormReads.parts_monthFirst (h : FormReads .monthFirst k s q r p)
    (htext : SlashText s a b c hour minute second) : p = timeParts c a b hour minute second := by
  obtain ⟨k', -, -, hmonth⟩ := htext.exists_clock
  obtain ⟨q', r', hform⟩ := scan_items_iff.1 hmonth
  exact h.parts_eq hform

/-- Two layouts read a text as the same parts, or they exchange the numbers of a text with
slashes. -/
theorem FormReads.eq_or_slashText (h : FormReads f k s q r p) (h' : FormReads g k' s q' r' p')
    (hf : (f, k) ∈ layoutForms) (hg : (g, k') ∈ layoutForms) :
    p = p' ∨ ∃ a b c hour minute second : Nat, SlashText s a b c hour minute second ∧
      ((p = timeParts a b c hour minute second ∧ p' = timeParts c a b hour minute second) ∨
        (p = timeParts c a b hour minute second ∧ p' = timeParts a b c hour minute second)) := by
  obtain ⟨rfl, hq⟩ := h.eq_or_slashDay h'
  rcases hq with rfl | ⟨a, b, c, hday, ⟨rfl, -, rfl, -⟩ | ⟨rfl, -, rfl, -⟩⟩
  · exact .inl (h.clockReads.unique h'.clockReads)
  · obtain ⟨hour, minute, second, htext, hp⟩ := h.slashText hday hf
    exact .inr ⟨a, b, c, hour, minute, second, htext, .inl ⟨hp, h'.parts_monthFirst htext⟩⟩
  · obtain ⟨hour, minute, second, htext, hp⟩ := h'.slashText hday hg
    exact .inr ⟨a, b, c, hour, minute, second, htext, .inr ⟨h.parts_monthFirst htext, hp⟩⟩

/-! ## Agreement -/

/-- All ways that read a text read the same time. -/
def Agree (s : List Char) : Prop :=
  ∀ read ∈ readers, ∀ read' ∈ readers, ∀ t t', read s = some t → read' s = some t' → t = t'

/-- Three short numbers with slashes, of which both orders are dates, and different ones; perhaps
with a clock time. -/
def Exchangeable (s : List Char) : Prop :=
  ∃ a b c hour minute second : Nat, SlashText s a b c hour minute second ∧ isDate a b c = true ∧
    isDate c a b = true ∧ hour ≤ 23 ∧ minute ≤ 59 ∧ second ≤ 60 ∧ ¬(a = b ∧ b = c)

/-- A layout that reads a text reads its day and its clock. -/
theorem exists_formReads (h : readLayout? (f.items ++ k.items) s = some t) :
    ∃ q r p, FormReads f k s q r p ∧ p.timestamp? = some t := by
  obtain ⟨p, hscan, ht⟩ := readLayout?_eq_some_iff.1 h
  obtain ⟨q, r, hform⟩ := scan_items_iff.1 hscan
  exact ⟨q, r, p, hform, ht⟩

/-- What a text with slashes is read as with the year in front and with the year behind. -/
theorem SlashText.exists_readers (h : SlashText s a b c hour minute second) :
    ∃ read ∈ readers, ∃ read' ∈ readers,
      read s = (timeParts a b c hour minute second).timestamp? ∧
        read' s = (timeParts c a b hour minute second).timestamp? := by
  have hforms : ∀ k ∈ [ClockForm.seconds false, ClockForm.none],
      (DayForm.yearFirst, k) ∈ layoutForms ∧ (DayForm.monthFirst, k) ∈ layoutForms := by
    decide
  obtain ⟨k, hk, hyear, hmonth⟩ := h.exists_clock
  refine ⟨_, mem_readers.2 (.inr ⟨_, (hforms k hk).1, rfl⟩), _,
    mem_readers.2 (.inr ⟨_, (hforms k hk).2, rfl⟩), ?_, ?_⟩
  · rw [readLayout?, hyear]
  · rw [readLayout?, hmonth]

/-- If both orders of the numbers make times and these differ, the text is exchangeable. -/
theorem exchangeable_of_ne (h : SlashText s a b c hour minute second)
    (ht : (timeParts a b c hour minute second).timestamp? = some t)
    (ht' : (timeParts c a b hour minute second).timestamp? = some t') (hne : t ≠ t') :
    Exchangeable s := by
  obtain ⟨hdate, hhour, hminute, hsecond⟩ :=
    isSome_timestamp?_iff.1 (Option.isSome_of_mem ht)
  obtain ⟨hdate', -⟩ := isSome_timestamp?_iff.1 (Option.isSome_of_mem ht')
  refine ⟨a, b, c, hour, minute, second, h, hdate, hdate', hhour, hminute, hsecond, ?_⟩
  rintro ⟨rfl, rfl⟩
  exact hne (Option.some.inj (ht.symm.trans ht'))

/-- Both dates of an exchangeable text are read, and they differ. -/
theorem Exchangeable.not_agree (h : Exchangeable s) : ¬Agree s := by
  obtain ⟨a, b, c, hour, minute, second, htext, hdate, hdate', hhour, hminute, hsecond, hne⟩ := h
  intro hagree
  obtain ⟨t, ht⟩ : ∃ t, (timeParts a b c hour minute second).timestamp? = some t :=
    Option.isSome_iff_exists.1 (isSome_timestamp?_iff.2 ⟨hdate, hhour, hminute, hsecond⟩)
  obtain ⟨t', ht'⟩ : ∃ t, (timeParts c a b hour minute second).timestamp? = some t :=
    Option.isSome_iff_exists.1 (isSome_timestamp?_iff.2 ⟨hdate', hhour, hminute, hsecond⟩)
  obtain ⟨read, hread, read', hread', h, h'⟩ := htext.exists_readers
  obtain rfl := hagree read hread read' hread' t t' (h.trans ht) (h'.trans ht')
  obtain ⟨-, hmonth, hday⟩ := day_of_timestamp? ht
  obtain ⟨-, hmonth', hday'⟩ := day_of_timestamp? ht'
  exact hne ⟨hmonth'.symm.trans hmonth, hday'.symm.trans hday⟩

/-- Two layouts that read a text read the same time, if its numbers cannot be exchanged. -/
theorem eq_of_readLayout? (hfixed : ¬Exchangeable s) (hf : (f, k) ∈ layoutForms)
    (hg : (g, k') ∈ layoutForms) (h : readLayout? (f.items ++ k.items) s = some t)
    (h' : readLayout? (g.items ++ k'.items) s = some t') : t = t' := by
  obtain ⟨q, r, p, hform, ht⟩ := exists_formReads h
  obtain ⟨q', r', p', hform', ht'⟩ := exists_formReads h'
  by_contra hne
  rcases hform.eq_or_slashText hform' hf hg with
    rfl | ⟨a, b, c, hour, minute, second, htext, ⟨rfl, rfl⟩ | ⟨rfl, rfl⟩⟩
  · exact hne (Option.some.inj (ht.symm.trans ht'))
  · exact hfixed (exchangeable_of_ne htext ht ht' hne)
  · exact hfixed (exchangeable_of_ne htext ht' ht (Ne.symm hne))

/-- The ways to read a text agree exactly if its numbers cannot be exchanged. -/
theorem agree_iff (s : List Char) : Agree s ↔ ¬Exchangeable s := by
  constructor
  · exact fun hagree hexchange => hexchange.not_agree hagree
  · intro hfixed read hread read' hread' t t' h h'
    rcases mem_readers.1 hread with rfl | ⟨⟨f, k⟩, hf, rfl⟩ <;>
      rcases mem_readers.1 hread' with rfl | ⟨⟨g, k'⟩, hg, rfl⟩
    · exact Option.some.inj (h.symm.trans h')
    · obtain ⟨q, r, p, hform, -⟩ := exists_formReads h'
      exact absurd hform (not_formReads_of_readInternet? h)
    · obtain ⟨q, r, p, hform, -⟩ := exists_formReads h
      exact absurd hform (not_formReads_of_readInternet? h')
    · exact eq_of_readLayout? hfixed hf hg h h'

/-! ## The order of the layouts -/

/-- Only the form without a clock reads the empty text. -/
theorem ClockForm.eq_none_of_scan_nil (h : scanLayout? k.items p [] = some (q, [])) :
    k = .none := by
  cases k with
  | none => rfl
  | _ letter => cases letter <;> cases h

/-- The layout with the year in front stands before all that could read such a text otherwise. -/
theorem exists_layoutForms_eq (hk : k ∈ [ClockForm.seconds false, ClockForm.none]) :
    ∃ l₁ l₂, layoutForms = l₁ ++ (.yearFirst, k) :: l₂ ∧
      ∀ x ∈ l₁, x.1 = .dashed ∨ (k = .none ∧ x.2 ≠ .none) := by
  rw [List.mem_cons, List.mem_singleton] at hk
  rcases hk with rfl | rfl
  · exact ⟨layoutForms.take 6, layoutForms.drop 7, by decide, by decide⟩
  · exact ⟨layoutForms.take 10, layoutForms.drop 11, by decide, by decide⟩

/-- Of a text with slashes the date with the year in front is read, if there is that date. -/
theorem findSome?_readers_of_slashText (h : SlashText s a b c hour minute second)
    (ht : (timeParts a b c hour minute second).timestamp? = some t) :
    readers.findSome? (· s) = some t := by
  obtain ⟨k, hk, hyear, -⟩ := h.exists_clock
  obtain ⟨q, r, hform⟩ := scan_items_iff.1 hyear
  obtain ⟨l₁, l₂, hsplit, hearlier⟩ := exists_layoutForms_eq hk
  have hinternet : readInternet? s = none := by
    rw [Option.eq_none_iff_forall_ne_some]
    exact fun t' ht' => not_formReads_of_readInternet? ht' hform
  have hnone : ∀ x ∈ l₁, readLayout? (x.1.items ++ x.2.items) s = none := by
    rintro ⟨g, k'⟩ hx
    rw [Option.eq_none_iff_forall_ne_some]
    intro t' ht'
    obtain ⟨q', r', p', hform', -⟩ := exists_formReads ht'
    rcases hearlier _ hx with rfl | ⟨rfl, hclock⟩
    · cases Option.some.inj
        ((DayForm.outline_of_scan hform.day).symm.trans (DayForm.outline_of_scan hform'.day))
    · obtain ⟨rfl, -⟩ := hform.eq_or_slashDay hform'
      obtain ⟨-, rfl⟩ := Prod.mk.inj (Option.some.inj hform.clock)
      exact hclock (ClockForm.eq_none_of_scan_nil hform'.clock)
  let layout := fun x : DayForm × ClockForm => x.1.items ++ x.2.items
  refine List.findSome?_eq_some_iff.2 ⟨readInternet? :: (l₁.map layout).map readLayout?,
    readLayout? (layout (.yearFirst, k)), (l₂.map layout).map readLayout?, ?_, ?_, ?_⟩
  · rw [readers, layouts_eq, hsplit, List.map_append, List.map_cons, List.map_append, List.map_cons,
      List.cons_append]
  · rw [readLayout?, hyear]
    exact ht
  · intro read hread
    rcases List.mem_cons.1 hread with rfl | hlayout
    · exact hinternet
    · rw [List.map_map] at hlayout
      obtain ⟨x, hx, rfl⟩ := List.mem_map.1 hlayout
      exact hnone x hx

/-- The order of the ways to read a text does not matter exactly if its numbers cannot be exchanged.
Of a text with slashes whose numbers are a date with the year in front, that date is read. -/
theorem read_unambiguous_iff (s : String) :
    (Agree (trim s.toList) ↔ ¬Exchangeable (trim s.toList)) ∧
      ((∀ ways : List (List Char → Option Timestamp), ways.Perm readers →
        ways.findSome? (· (trim s.toList)) = read? s) ↔ ¬Exchangeable (trim s.toList)) ∧
      ∀ (a b c hour minute second : Nat) (t : Timestamp),
        SlashText (trim s.toList) a b c hour minute second →
          (timeParts a b c hour minute second).timestamp? = some t → read? s = some t := by
  rw [read?_eq]
  refine ⟨agree_iff _, ?_, fun a b c hour minute second t => findSome?_readers_of_slashText⟩
  rw [← agree_iff, findSome?_perm_iff]
  exact Iff.rfl

/-- A day of December is read with the year behind, but an earlier one with the year in front,
although it is a date in the same form as well. -/
theorem not_agree_shortYears : ¬Agree (trim "12/05/24".toList) ∧
    read? "12/25/24" = some ⟨24, 12, 25, 0, 0, 0, 0⟩ ∧
    read? "12/05/24" = some ⟨12, 5, 24, 0, 0, 0, 0⟩ ∧
    readLayout? (layoutOf "M/D/Y") (trim "12/05/24".toList) = some ⟨24, 12, 5, 0, 0, 0, 0⟩ := by
  have hyear : readLayout? (layoutOf "Y/M/D") (trim "12/05/24".toList) =
      some ⟨12, 5, 24, 0, 0, 0, 0⟩ := by decide +kernel
  have hmonth : readLayout? (layoutOf "M/D/Y") (trim "12/05/24".toList) =
      some ⟨24, 12, 5, 0, 0, 0, 0⟩ := by decide +kernel
  refine ⟨fun hagree => ?_, by decide +kernel, by decide +kernel, hmonth⟩
  have hforms : layoutOf "Y/M/D" ∈ dateTimeLayouts ++ dateLayouts ∧
      layoutOf "M/D/Y" ∈ dateTimeLayouts ++ dateLayouts := by decide +kernel
  have hsame := hagree _ (List.mem_cons_of_mem _ (List.mem_map_of_mem hforms.1)) _
    (List.mem_cons_of_mem _ (List.mem_map_of_mem hforms.2)) _ _ hyear hmonth
  revert hsame
  decide

end Calendar

end Dashboard
