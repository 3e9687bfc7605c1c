import Dashboard.Text.Case
import Mathlib.Data.List.Infix

/-!
# Text.Lower · lower case of a part of a text

A text is mapped to lower case character by character, but for the capital sigma: at the end of a
word it gets its final form. So the lower case form of a part hangs on what stands around it.

* **`lowerWithin`** is the lower case form of a part between other characters.
* **`KeepsSigmas`** says that no capital sigma of a part changes its form when the part stands
  between others. Then, and only then, the part keeps its lower case form
  (`lowerWithin_eq_lower_iff`).
* **`BeginsOpen`** and **`EndsOpen`** say that a part begins, or ends, with a capital sigma whose
  form is decided outside of the part. A part that does neither **`IsClosed`**.
* **`forall_lower_infix_iff`**: the parts that are found again in the lower case form of every text
  that contains them are those that are closed. **`forall_lower_prefix_iff`**: those that are found
  again at the beginning of every text that begins with them are those that do not end open.
-/

namespace Dashboard

namespace Text

variable {before after s t a b : List Char} {c x : Char}

/-! ## Neighbours -/

/-- Whether a character is passed over in the search for a cased one. -/
def isIgnorable (c : Char) : Bool := inRanges caseIgnorableRanges c.toNat

/-- An ignorable character at the head is looked past. -/
theorem casedNext_cons : casedNext (c :: s) =
    if isIgnorable c then casedNext s else inRanges casedRanges c.toNat := by
  unfold casedNext isIgnorable
  cases hc : inRanges caseIgnorableRanges c.toNat <;> simp [hc]

/-- Ignorable characters at the head are looked past. -/
theorem casedNext_append : casedNext (s ++ t) =
    if s.all isIgnorable then casedNext t else casedNext s := by
  induction s with
  | nil => rfl
  | cons c s ih =>
      rw [List.cons_append, casedNext_cons, casedNext_cons, List.all_cons, ih]
      cases isIgnorable c <;> rfl

/-- Among ignorable characters none is cased. -/
theorem casedNext_of_all (h : s.all isIgnorable = true) : casedNext s = false := by
  have happend := casedNext_append (s := s) (t := [])
  rw [List.append_nil, if_pos h] at happend
  exact happend

/-- Behind a part with a cased neighbour nothing matters. -/
theorem casedNext_append_of_cased (h : casedNext s = true) : casedNext (s ++ t) = true := by
  rw [casedNext_append, if_neg, h]
  intro hall
  rw [casedNext_of_all hall] at h
  cases h

/-- What has no cased character in front changes nothing behind a part. -/
theorem casedNext_append_of_not_cased (h : casedNext t = false) :
    casedNext (s ++ t) = casedNext s := by
  rw [casedNext_append]
  split
  · rename_i hall
    rw [h, casedNext_of_all hall]
  · rfl

/-! ## Parts in lower case -/

/-- Whether a capital sigma between these characters is the last letter of a word. The characters
before it are given last first. -/
def isFinal (before after : List Char) : Bool := casedNext before && !casedNext after

/-- The lower case form of a character between others; those before it are given last first. -/
def lowerAt (before : List Char) (c : Char) (after : List Char) : List Char :=
  if c = 'Σ' then if isFinal before after then ['ς'] else ['σ'] else lowerChar c

/-- The lower case form of a text between others; the characters before it are given last first. -/
def lowerWithin (before : List Char) : List Char → List Char → List Char
  | [], _ => []
  | c :: s, after => lowerAt before c (s ++ after) ++ lowerWithin (c :: before) s after

/-- With nothing behind it, a text is mapped as between others. -/
theorem lowerAfter_eq_lowerWithin : lowerAfter before s = lowerWithin before s [] := by
  induction s generalizing before with
  | nil => rfl
  | cons c s ih => rw [lowerAfter, lowerWithin, ih, List.append_nil, lowerAt, isFinal]

/-- A text alone is mapped as between nothing. -/
theorem lower_eq_lowerWithin : lower s = lowerWithin [] s [] := lowerAfter_eq_lowerWithin

/-- Two texts in a row are mapped each with the other one beside it. -/
theorem lowerWithin_append : lowerWithin before (s ++ t) after =
    lowerWithin before s (t ++ after) ++ lowerWithin (s.reverse ++ before) t after := by
  induction s generalizing before with
  | nil => rfl
  | cons c s ih =>
      rw [List.cons_append, lowerWithin, lowerWithin, ih, List.append_assoc, List.append_assoc,
        List.reverse_cons, List.append_assoc]
      rfl

/-- The lower case form of a text that contains `s`. -/
theorem lower_append_append : lower (before ++ s ++ after) =
    lowerWithin [] before (s ++ after) ++ lowerWithin before.reverse s after ++
      lowerWithin (s.reverse ++ before.reverse) after [] := by
  rw [lower_eq_lowerWithin, lowerWithin_append, lowerWithin_append, List.reverse_append]
  simp only [List.append_nil]

/-- What stands around a character does not change how long its form is. -/
theorem length_lowerAt (before after before' after' : List Char) (c : Char) :
    (lowerAt before c after).length = (lowerAt before' c after').length := by
  unfold lowerAt
  split
  · split <;> split <;> rfl
  · rfl

/-- What stands around a part does not change the length of its lower case form. -/
theorem length_lowerWithin (before after before' after' s : List Char) :
    (lowerWithin before s after).length = (lowerWithin before' s after').length := by
  induction s generalizing before before' with
  | nil => rfl
  | cons c s ih =>
      rw [lowerWithin, lowerWithin, List.length_append, List.length_append, ih _ (c :: before'),
        length_lowerAt before _ before' (s ++ after')]

/-- What stands around a text does not change how long its form is. -/
theorem length_lower (before s after : List Char) :
    (lower s).length = (lowerWithin before s after).length := by
  rw [lower_eq_lowerWithin]
  exact length_lowerWithin _ _ _ _ _

/-- What stands around a character matters to a capital sigma only. -/
theorem lowerAt_eq_iff {before' after' : List Char} :
    lowerAt before c after = lowerAt before' c after' ↔
      (c = 'Σ' → isFinal before after = isFinal before' after') := by
  unfold lowerAt
  split
  · rename_i hc
    cases isFinal before after <;> cases isFinal before' after' <;> simp [hc]
  · rename_i hc
    exact ⟨fun _ h => absurd h hc, fun _ => rfl⟩

/-- Every capital sigma of a text has the same form between these characters as in the text alone.
The characters before the text are given last first. -/
def KeepsSigmas (before s after : List Char) : Prop :=
  ∀ a b, s = a ++ 'Σ' :: b → isFinal (a.reverse ++ before) (b ++ after) = isFinal a.reverse b

/-- A text is mapped as if alone exactly if its sigmas keep their forms. -/
theorem lowerWithin_eq_lower_iff :
    lowerWithin before s after = lower s ↔ KeepsSigmas before s after := by
  -- `read` is the part of the text that was already mapped, last character first
  have hread : ∀ read, lowerWithin (read ++ before) s after = lowerWithin read s [] ↔
      ∀ a b, s = a ++ 'Σ' :: b →
        isFinal (a.reverse ++ (read ++ before)) (b ++ after) = isFinal (a.reverse ++ read) b := by
    induction s with
    | nil => simp [lowerWithin]
    | cons c s ih =>
        intro read
        rw [lowerWithin, lowerWithin, List.append_nil,
          List.append_eq_append_iff_of_size_eq_left (length_lowerAt _ _ _ _ _), lowerAt_eq_iff,
          ← List.cons_append, ih]
        constructor
        · rintro ⟨hhead, htail⟩ a b hs
          cases a with
          | nil =>
              obtain ⟨rfl, rfl⟩ := List.cons.inj hs
              exact hhead rfl
          | cons d a =>
              obtain ⟨rfl, rfl⟩ := List.cons.inj hs
              simpa using htail a b rfl
        · intro h
          refine ⟨?_, ?_⟩
          · rintro rfl
            exact h [] s rfl
          · rintro a b rfl
            simpa using h (c :: a) b rfl
  have hnil := hread []
  simp only [List.nil_append, List.append_nil] at hnil
  rw [lower_eq_lowerWithin]
  exact hnil

/-! ## Open parts -/

/-- The text begins with a capital sigma whose form is decided before the text: in the text only
ignorable characters stand before it, and the word does not go on behind it. -/
def BeginsOpen (s : List Char) : Prop :=
  ∃ a b, s = a ++ 'Σ' :: b ∧ a.all isIgnorable = true ∧ casedNext b = false

/-- The text ends with a capital sigma whose form is decided behind the text: in the text a word
leads up to it, and only ignorable characters stand behind it. -/
def EndsOpen (s : List Char) : Prop :=
  ∃ a b, s = a ++ 'Σ' :: b ∧ casedNext a.reverse = true ∧ b.all isIgnorable = true

/-- The forms of all capital sigmas are decided within the text. -/
structure IsClosed (s : List Char) : Prop where
  not_beginsOpen : ¬BeginsOpen s
  not_endsOpen : ¬EndsOpen s

/-- A text without a capital sigma is closed. -/
theorem isClosed_of_not_mem (h : 'Σ' ∉ s) : IsClosed s := by
  have hsigma : ∀ a b, s ≠ a ++ 'Σ' :: b := by
    rintro a b rfl
    exact h (List.mem_append_right _ List.mem_cons_self)
  exact ⟨fun ⟨a, b, hs, _⟩ => hsigma a b hs, fun ⟨a, b, hs, _⟩ => hsigma a b hs⟩

/-- In a closed text the sigmas keep their forms wherever it stands. -/
theorem IsClosed.keepsSigmas (h : IsClosed s) : KeepsSigmas before s after := by
  rintro a b rfl
  cases ha : a.reverse.all isIgnorable with
  | true =>
      have hb : casedNext b = true := by
        rw [← Bool.not_eq_false]
        exact fun hb => h.not_beginsOpen ⟨a, b, rfl, List.all_reverse ▸ ha, hb⟩
      rw [isFinal, isFinal, casedNext_append_of_cased hb, hb, Bool.not_true, Bool.and_false,
        Bool.and_false]
  | false =>
      rw [isFinal, isFinal, casedNext_append, ha, if_neg Bool.false_ne_true]
      cases hcased : casedNext a.reverse with
      | false => rfl
      | true =>
          have hb : ¬b.all isIgnorable = true := fun hb => h.not_endsOpen ⟨a, b, rfl, hcased, hb⟩
          rw [casedNext_append, if_neg hb]

/-- A text that does not stand within a longer word keeps its sigmas. -/
theorem keepsSigmas_of_free (hbefore : casedNext before = false)
    (hafter : casedNext after = false) : KeepsSigmas before s after := by
  intro a b _
  rw [isFinal, isFinal, casedNext_append_of_not_cased hbefore,
    casedNext_append_of_not_cased hafter]

/-- Behind a letter a sigma that is open at the beginning changes its form. -/
theorem not_keepsSigmas_of_beginsOpen (h : BeginsOpen s) (hx : casedNext [x] = true) :
    ¬KeepsSigmas [x] s [] := by
  obtain ⟨a, b, rfl, ha, hb⟩ := h
  intro hkeeps
  have hsigma := hkeeps a b rfl
  rw [← List.all_reverse] at ha
  rw [isFinal, isFinal, casedNext_append, if_pos ha, hx, casedNext_of_all ha, List.append_nil,
    hb] at hsigma
  cases hsigma

/-- At the beginning of a text, only an open end in front of a cased character matters. -/
theorem keepsSigmas_nil_iff : KeepsSigmas [] s after ↔ ¬(EndsOpen s ∧ casedNext after = true) := by
  constructor
  · rintro hkeeps ⟨⟨a, b, rfl, ha, hb⟩, hafter⟩
    have hsigma := hkeeps a b rfl
    rw [isFinal, isFinal, List.append_nil, ha, casedNext_append, if_pos hb, hafter,
      casedNext_of_all hb] at hsigma
    cases hsigma
  · rintro hopen a b rfl
    rw [isFinal, isFinal, List.append_nil]
    cases ha : casedNext a.reverse with
    | false => rfl
    | true =>
        cases hafter : casedNext after with
        | false => rw [casedNext_append_of_not_cased hafter]
        | true =>
            have hb : ¬b.all isIgnorable = true :=
              fun hb => hopen ⟨⟨a, b, rfl, ha, hb⟩, hafter⟩
            rw [casedNext_append, if_neg hb]

/-! ## Finding parts in lower case -/

/-- A text whose sigmas keep their forms is found in lower case. -/
theorem lower_infix_of_keepsSigmas (h : KeepsSigmas before.reverse s after) :
    lower s <:+: lower (before ++ s ++ after) := by
  rw [lower_append_append, lowerWithin_eq_lower_iff.2 h]
  exact List.infix_append _ _ _

/-- A text is found at the beginning exactly if its sigmas keep their forms. -/
theorem lower_prefix_append_iff : lower s <+: lower (s ++ after) ↔ KeepsSigmas [] s after := by
  have hsplit : lower (s ++ after) = lowerWithin [] s after ++ lowerWithin s.reverse after [] := by
    rw [lower_eq_lowerWithin, lowerWithin_append, List.append_nil, List.append_nil]
  rw [hsplit, ← lowerWithin_eq_lower_iff]
  constructor
  · rintro ⟨rest, hrest⟩
    exact (List.append_inj_left hrest (length_lower [] s after)).symm
  · intro h
    rw [h]
    exact List.prefix_append _ _

/-- There is a small letter that is not the given character. -/
theorem exists_letter_ne (o : Option Char) :
    ∃ x : Char, (∀ before after, lowerAt before x after = [x]) ∧ casedNext [x] = true ∧
      o ≠ some x := by
  by_cases ho : o = some 'x'
  · have hlower : lowerChar 'y' = ['y'] := by decide +kernel
    refine ⟨'y', fun _ _ => (if_neg (by decide)).trans hlower, by decide +kernel, ?_⟩
    rw [ho]
    decide
  · have hlower : lowerChar 'x' = ['x'] := by decide +kernel
    exact ⟨'x', fun _ _ => (if_neg (by decide)).trans hlower, by decide +kernel, ho⟩

/-- A text that begins open is lost behind a letter other than its first one. -/
theorem exists_not_infix_of_beginsOpen (h : BeginsOpen s) : ∃ x, ¬lower s <:+: lower (x :: s) := by
  obtain ⟨x, hlower, hcased, hhead⟩ := exists_letter_ne (lower s).head?
  refine ⟨x, fun hwithin => not_keepsSigmas_of_beginsOpen h hcased ?_⟩
  rw [← lowerWithin_eq_lower_iff]
  have hsplit : lower (x :: s) = x :: lowerWithin [x] s [] := by
    rw [lower_eq_lowerWithin, lowerWithin, hlower]
    rfl
  have hlength := length_lower [x] s []
  rw [hsplit, List.infix_cons_iff] at hwithin
  rcases hwithin with hstart | hwithin
  · rcases List.prefix_cons_iff.1 hstart with hnil | ⟨rest, hrest, -⟩
    · rw [hnil, List.length_nil, eq_comm, List.length_eq_zero_iff] at hlength
      rw [hnil, hlength]
    · rw [hrest] at hhead
      exact absurd rfl hhead
  · exact (hwithin.eq_of_length hlength).symm

/-- A text that ends open is lost in front of a letter other than its last one. -/
theorem exists_not_infix_of_endsOpen (h : EndsOpen s) : ∃ x, ¬lower s <:+: lower (s ++ [x]) := by
  obtain ⟨x, hlower, hcased, hlast⟩ := exists_letter_ne (lower s).getLast?
  refine ⟨x, fun hwithin => keepsSigmas_nil_iff.1 ?_ ⟨h, hcased⟩⟩
  rw [← lowerWithin_eq_lower_iff]
  have hsplit : lower (s ++ [x]) = lowerWithin [] s [x] ++ [x] := by
    rw [lower_eq_lowerWithin, lowerWithin_append, lowerWithin, hlower]
    rfl
  have hlength := length_lower [] s [x]
  rw [hsplit, List.infix_concat_iff] at hwithin
  rcases hwithin with hstop | hwithin
  · rcases List.suffix_concat_iff.1 hstop with hnil | ⟨rest, hrest, -⟩
    · rw [hnil, List.length_nil, eq_comm, List.length_eq_zero_iff] at hlength
      rw [hnil, hlength]
    · rw [hrest, List.getLast?_concat] at hlast
      exact absurd rfl hlast
  · exact (hwithin.eq_of_length hlength).symm

/-- The texts that are found again in the lower case form of every text that contains them. -/
theorem forall_lower_infix_iff : (∀ t, s <:+: t → lower s <:+: lower t) ↔ IsClosed s := by
  constructor
  · intro h
    refine ⟨fun hopen => ?_, fun hopen => ?_⟩
    · obtain ⟨x, hx⟩ := exists_not_infix_of_beginsOpen hopen
      exact hx (h _ (List.suffix_cons x s).isInfix)
    · obtain ⟨x, hx⟩ := exists_not_infix_of_endsOpen hopen
      exact hx (h _ (List.prefix_append s [x]).isInfix)
  · rintro h t ⟨before, after, rfl⟩
    exact lower_infix_of_keepsSigmas h.keepsSigmas

/-- The texts that are found again at the beginning of every text that begins with them. -/
theorem forall_lower_prefix_iff :
    (∀ t, s <+: t → lower s <+: lower t) ↔ ¬EndsOpen s := by
  constructor
  · intro h hopen
    have hkeeps := lower_prefix_append_iff.1 (h _ (List.prefix_append s ['x']))
    exact keepsSigmas_nil_iff.1 hkeeps ⟨hopen, by decide +kernel⟩
  · rintro hend t ⟨after, rfl⟩
    exact lower_prefix_append_iff.2 (keepsSigmas_nil_iff.2 fun h => hend h.1)

end Text

end Dashboard
