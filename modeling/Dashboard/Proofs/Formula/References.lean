import Dashboard.Proofs.FirstSeen
import Dashboard.Proofs.Formula.Segments
import Dashboard.Proofs.Row.Likeness
import Dashboard.Proofs.Row.Outside

/-!
# Formula.References · a formula depends on exactly the columns that it lists

* **`Mentions s names`** says which references stand in a text, from left to right: what stands
  between an opening brace and the next closing one. No other brace counts.
* **`firstSeen_references`**: the loop over names lists these, each where it first occurs.
* **`substitute_congr`**: the loop over texts looks at no other columns. Rows with equal numbers
  under the listed names give the same text.
* **`substitute_insert_ne`**: it looks at each of them, so a change of that column alone can be seen
  in the text.
-/

namespace Dashboard

namespace Formula

/-- The references of a text from left to right. Behind the last of them no opening brace is
closed. -/
inductive Mentions : List Char → List String → Prop
  | nil {s : List Char} (h : ∀ before after, s = before ++ '\x7b' :: after → '\x7d' ∉ after) :
      Mentions s []
  | cons {before name rest : List Char} {names : List String} (hbefore : '\x7b' ∉ before)
      (hname : '\x7d' ∉ name) (hrest : Mentions rest names) :
      Mentions (before ++ '\x7b' :: (name ++ '\x7d' :: rest)) (String.ofList name :: names)

section references

variable {s before after : List Char} {names items : List String} {name : String}

/-! ## The names that are listed -/

/-- Without an opening brace there are no references. -/
theorem mentions_of_notMem (h : '\x7b' ∉ s) : Mentions s [] := by
  refine .nil ?_
  rintro before after rfl
  exact absurd (List.mem_append_right before List.mem_cons_self) h

/-- A brace that is not closed opens no reference. -/
theorem mentions_of_unclosed (hbefore : '\x7b' ∉ before) (hafter : '\x7d' ∉ after) :
    Mentions (before ++ '\x7b' :: after) [] := by
  refine .nil fun before' after' h hmem => ?_
  rcases List.append_eq_append_iff.1 h with ⟨between, -, hrest⟩ | ⟨between, rfl, hrest⟩
  · have hsuffix : after' <:+ after := by
      cases between with
      | nil => exact (List.cons.inj hrest).2 ▸ List.suffix_rfl
      | cons c between =>
          rw [(List.cons.inj hrest).2]
          exact (List.suffix_cons '\x7b' after').trans (List.suffix_append between _)
    exact hafter (hsuffix.subset hmem)
  · cases between with
    | nil => exact hafter ((List.cons.inj hrest).2 ▸ hmem)
    | cons c between =>
        obtain ⟨rfl, -⟩ := List.cons.inj hrest
        exact hbefore (List.mem_append_right before' List.mem_cons_self)

/-- Every text has its references. -/
theorem exists_mentions (s : List Char) : ∃ names, Mentions s names := by
  induction hlength : s.length using Nat.strong_induction_on generalizing s with
  | _ n ih =>
      cases hopen : Text.splitFirst? '\x7b' s with
      | none => exact ⟨[], mentions_of_notMem (Text.splitFirst?_eq_none_iff.1 hopen)⟩
      | some parts =>
          obtain ⟨before, after⟩ := parts
          obtain ⟨rfl, hbefore⟩ := Text.splitFirst?_eq_some_iff.1 hopen
          cases hclose : Text.splitFirst? '\x7d' after with
          | none =>
              exact ⟨[], mentions_of_unclosed hbefore (Text.splitFirst?_eq_none_iff.1 hclose)⟩
          | some parts =>
              obtain ⟨name, rest⟩ := parts
              obtain ⟨rfl, hname⟩ := Text.splitFirst?_eq_some_iff.1 hclose
              have hshort : rest.length < n := by
                simp only [List.length_append, List.length_cons] at hlength
                omega
              obtain ⟨names, hrest⟩ := ih _ hshort rest rfl
              exact ⟨_, .cons hbefore hname hrest⟩

/-- The references of a text are those among its segments. -/
theorem Mentions.eq (h : Mentions s names) :
    names = (scanSegments none s).filterMap Segment.name? := by
  induction h with
  | @nil s hnone =>
      cases hopen : Text.splitFirst? '\x7b' s with
      | none => rw [scanSegments_of_notMem (Text.splitFirst?_eq_none_iff.1 hopen), filterMap_marks]
      | some parts =>
          obtain ⟨before, after⟩ := parts
          obtain ⟨rfl, hbefore⟩ := Text.splitFirst?_eq_some_iff.1 hopen
          rw [scanSegments_of_unclosed hbefore (hnone _ _ rfl), filterMap_marks]
  | cons hbefore hname _ ih =>
      rw [scanSegments_of_reference hbefore hname, List.filterMap_append, filterMap_marks, ih]
      rfl

/-- The first list of names that a fold adds to another lists both. -/
theorem firstSeen_foldl_addName (h : FirstSeen names items) (more : List String) :
    FirstSeen (more.foldl addName names) (items ++ more) := by
  induction more generalizing names items with
  | nil => rwa [List.append_nil]
  | cons name more ih =>
      have hname : FirstSeen (addName names name) (items ++ [name]) := by
        unfold addName
        split
        · exact h.concat_of_mem ‹_›
        · exact h.concat_of_notMem ‹_›
      have hmore := ih hname
      rwa [List.append_assoc] at hmore

/-- The references of a formula are listed where they are first seen. -/
theorem firstSeen_references {formula : String} (h : Mentions formula.toList names) :
    FirstSeen (references formula) names := by
  have hfold := firstSeen_foldl_addName firstSeen_nil names
  rw [List.nil_append] at hfold
  rwa [references_eq, segments, ← h.eq]

/-- The references of a formula are the names among its segments. -/
theorem mem_references {formula : String} :
    name ∈ references formula ↔ .reference name ∈ segments formula := by
  obtain ⟨names, h⟩ := exists_mentions formula.toList
  rw [(firstSeen_references h).mem_iff, h.eq, ← segments, List.mem_filterMap]
  constructor
  · rintro ⟨segment, hmem, hname⟩
    cases segment with
    | mark c => cases hname
    | reference other => rwa [← Option.some.inj hname]
  · exact fun hmem => ⟨_, hmem, rfl⟩

end references

/-! ## The numbers that are seen -/

section substitute

variable {formula name : String} {row row' : Row}

/-- A formula looks at no columns but those that it lists. -/
theorem substitute_congr
    (h : ∀ name ∈ references formula, (valueIn row name).same (valueIn row' name) = true) :
    Formula.substitute formula row = Formula.substitute formula row' := by
  rw [substitute_eq, substitute_eq]
  congr 1
  apply List.flatMap_congr
  intro segment hmem
  cases segment with
  | mark c => rfl
  | reference name => exact Binary64.plainChars_congr (h name (mem_references.2 hmem))

/-- The lengths of the texts of some segments tell `0` and `10` apart under a name that is among
them. -/
theorem length_flatMap_lt {segs : List Segment} (hmem : .reference name ∈ segs)
    (hle : ∀ other, (valueIn row other).plainChars.length ≤ (valueIn row' other).plainChars.length)
    (hlt : (valueIn row name).plainChars.length < (valueIn row' name).plainChars.length) :
    (segs.flatMap (Segment.substitute row)).length <
      (segs.flatMap (Segment.substitute row')).length := by
  rw [List.length_flatMap, List.length_flatMap]
  refine List.sum_lt_sum _ _ ?_ ⟨_, hmem, hlt⟩
  intro segment _
  cases segment with
  | mark c => exact Nat.le_refl 1
  | reference other => exact hle other

/-- A number that is put under a name is its value. -/
theorem valueIn_insert_self (row : Row) (name : String) {x : Binary64} (h : x.isNaN = false) :
    valueIn (row.insert name (.number x)) name = x := by
  simp [valueIn, Cell.toNumberOrZero, Cell.toNumber, h]

/-- A cell under another name does not change the value. -/
theorem valueIn_insert_of_ne (row : Row) {other : String} (cell : Cell) (h : other ≠ name) :
    valueIn (row.insert name cell) other = valueIn row other := by
  rw [valueIn, valueIn, Row.get?_insert_of_ne row cell h]

/-- The number `10` is printed longer than `0`, whatever the other columns hold. -/
theorem substitute_insert_ne (row : Row) (h : name ∈ references formula) :
    Formula.substitute formula (row.insert name (.number (.ofNat 0))) ≠
      Formula.substitute formula (row.insert name (.number (.ofNat 10))) := by
  have hzero := valueIn_insert_self row name (x := .ofNat 0) (by decide +kernel)
  have hten := valueIn_insert_self row name (x := .ofNat 10) (by decide +kernel)
  have hlt : (Binary64.ofNat 0).plainChars.length < (Binary64.ofNat 10).plainChars.length := by
    decide +kernel
  rw [substitute_eq, substitute_eq, ne_eq, String.ofList_inj]
  refine fun heq => (length_flatMap_lt (mem_references.1 h) ?_ ?_).ne (congrArg List.length heq)
  · intro other
    by_cases hother : other = name
    · rw [hother, hzero, hten]
      exact hlt.le
    · rw [valueIn_insert_of_ne row _ hother, valueIn_insert_of_ne row _ hother]
  · rwa [hzero, hten]

/-- **A formula reads exactly the columns that it lists.** The list has the names of the references,
each once, where it first occurs. Rows with equal numbers under these names give the same text and
the same value, whatever the other columns hold. And from every row a change under any one of these
names leads to another text. -/
theorem references_exact (formula : String) :
    (∃ names, Mentions formula.toList names ∧ FirstSeen (references formula) names) ∧
      (references formula).Nodup ∧
      (∀ row row' : Row,
        (∀ name ∈ references formula, (valueIn row name).same (valueIn row' name) = true) →
          Formula.substitute formula row = Formula.substitute formula row' ∧
            evaluateRow formula row = evaluateRow formula row') ∧
      ∀ name ∈ references formula, ∀ row : Row, ∃ row', row.SameOutside [name] row' ∧
        Formula.substitute formula row ≠ Formula.substitute formula row' := by
  obtain ⟨names, hnames⟩ := exists_mentions formula.toList
  have hseen := firstSeen_references hnames
  refine ⟨⟨names, hnames, hseen⟩, hseen.nodup, ?_, ?_⟩
  · intro row row' hsame
    have htext := substitute_congr hsame
    exact ⟨htext, by rw [evaluateRow, evaluateRow, htext]⟩
  · intro name hname row
    have hmem : name ∈ [name] := List.mem_singleton_self name
    -- the row has at most one of the two texts
    by_cases hzero : Formula.substitute formula row =
        Formula.substitute formula (row.insert name (.number (.ofNat 0)))
    · refine ⟨_, Row.sameOutside_insert row (.number (.ofNat 10)) hmem, ?_⟩
      rw [hzero]
      exact substitute_insert_ne row hname
    · exact ⟨_, Row.sameOutside_insert row (.number (.ofNat 0)) hmem, hzero⟩

/-- The third name has a brace of its own and the last brace is not closed. The rows differ in `x`,
and the listed columns hold `3`, `0` and `0` in both, each in another form. -/
theorem references_exact_nested :
    references "\x7bü\x7d + \x7bb\x7d - \x7b\x7ba\x7d * \x7bü\x7d \x7bx" = ["ü", "b", "\x7ba"] ∧
      Formula.substitute "\x7bü\x7d + \x7bb\x7d - \x7b\x7ba\x7d * \x7bü\x7d \x7bx"
          (.ofList [("ü", .number (.ofNat 3)), ("b", .text "-0"), ("x", .null)]) =
        Formula.substitute "\x7bü\x7d + \x7bb\x7d - \x7b\x7ba\x7d * \x7bü\x7d \x7bx"
          (.ofList [("\x7ba", .text "none"), ("ü", .text " 3.0 "), ("x", .bool true)]) :=
  ⟨by decide +kernel, ((references_exact _).2.2.1 _ _ (by decide +kernel)).1⟩

end substitute

end Formula

end Dashboard
