import Dashboard.Formula.Template
import Dashboard.Proofs.Text.Span

/-!
# Formula.Segments · the two loops over braces cut a formula in the same way

`references` and `substitute` look for braces each on its own. Here a formula is cut into characters
and references once, and both loops are shown to work off that one list.

* **`scanSegments`** cuts a text, one character at a time. What stands between an opening brace and
  the next closing one is a reference (`scanSegments_of_reference`).
* **`Scans s segs`** says that splitting cuts a text into `segs`, whatever comes after it. It is
  closed under putting texts behind each other.
* **`references_eq`**, **`substitute_eq`**: what the loops make of a formula, by its segments.
-/

namespace Dashboard

namespace Formula

/-- A part of a formula. -/
inductive Segment where
  /-- A character that stands for itself. -/
  | mark (c : Char)
  /-- A reference to a column. -/
  | reference (name : String)
deriving DecidableEq, Repr

/-- Splits a text into segments. Inside a reference, `name?` holds the characters of its name read
so far, last first. -/
def scanSegments : Option (List Char) → List Char → List Segment
  | none, [] => []
  | none, c :: s => if c = '\x7b' then scanSegments (some []) s else .mark c :: scanSegments none s
  | some name, [] => .mark '\x7b' :: name.reverse.map .mark
  | some name, c :: s =>
    if c = '\x7d' then .reference (String.ofList name.reverse) :: scanSegments none s
    else scanSegments (some (c :: name)) s

/-- The segments of a formula. -/
def segments (formula : String) : List Segment := scanSegments none formula.toList

/-- The name that a segment refers to. -/
def Segment.name? : Segment → Option String
  | .mark _ => none
  | .reference name => some name

/-- The text of a segment in a row. -/
def Segment.substitute (row : Row) : Segment → List Char
  | .mark c => [c]
  | .reference name => (valueIn row name).plainChars

/-! ## Cutting a text into segments -/

/-- Splitting cuts the text `s` into the segments `segs`, whatever comes after it. -/
def Scans (s : List Char) (segs : List Segment) : Prop :=
  ∀ rest, scanSegments none (s ++ rest) = segs ++ scanSegments none rest

section scans

variable {s t l r after before name rest : List Char} {a b segs : List Segment}

/-- At the end of a text its segments are those that are cut. -/
theorem Scans.scanSegments_eq (h : Scans s segs) : scanSegments none s = segs := by
  have hend := h []
  rw [List.append_nil] at hend
  rw [hend, scanSegments, List.append_nil]

/-- Texts in a row are cut one after the other. -/
theorem Scans.append (hs : Scans s a) (ht : Scans t b) : Scans (s ++ t) (a ++ b) := by
  intro rest
  rw [List.append_assoc, hs, ht, List.append_assoc]

/-- Where no brace opens, every character stands for itself. -/
theorem scans_marks (h : '\x7b' ∉ s) : Scans s (s.map .mark) := by
  intro rest
  induction s with
  | nil => rfl
  | cons c s ih =>
      have hc : c ≠ '\x7b' := fun hc => h (hc ▸ List.mem_cons_self)
      have hs := ih fun hmem => h (List.mem_cons_of_mem c hmem)
      rw [List.cons_append, scanSegments, if_neg hc, hs]
      rfl

/-- A name is read up to its brace; `read` holds what has been read of it. -/
theorem scanSegments_name {name read : List Char} (h : '\x7d' ∉ name) (rest : List Char) :
    scanSegments (some read) (name ++ '\x7d' :: rest) =
      .reference (String.ofList (read.reverse ++ name)) :: scanSegments none rest := by
  induction name generalizing read with
  | nil => rw [List.nil_append, scanSegments, if_pos rfl, List.append_nil]
  | cons c name ih =>
      have hc : c ≠ '\x7d' := fun hc => h (hc ▸ List.mem_cons_self)
      have hname := @ih (c :: read) fun hmem => h (List.mem_cons_of_mem c hmem)
      rw [List.cons_append, scanSegments, if_neg hc, hname, List.reverse_cons, List.append_assoc]
      rfl

/-- A name in braces is cut as a reference. -/
theorem scans_reference {name : String} (h : '\x7d' ∉ name.toList) :
    Scans ('\x7b' :: (name.toList ++ ['\x7d'])) [.reference name] := by
  intro rest
  have hname := @scanSegments_name name.toList [] h rest
  rw [List.reverse_nil, List.nil_append, String.ofList_toList] at hname
  rw [List.cons_append, scanSegments, if_pos rfl, List.append_assoc]
  exact hname

/-- Without an opening brace every character stands for itself. -/
theorem scanSegments_of_notMem (h : '\x7b' ∉ s) : scanSegments none s = s.map .mark :=
  (scans_marks h).scanSegments_eq

/-- A brace that is not closed stands for itself. -/
theorem scanSegments_unclosed {read : List Char} (h : '\x7d' ∉ s) :
    scanSegments (some read) s = .mark '\x7b' :: (read.reverse ++ s).map .mark := by
  induction s generalizing read with
  | nil => rw [scanSegments, List.append_nil]
  | cons c s ih =>
      have hc : c ≠ '\x7d' := fun hc => h (hc ▸ List.mem_cons_self)
      have hs := @ih (c :: read) fun hmem => h (List.mem_cons_of_mem c hmem)
      rw [scanSegments, if_neg hc, hs, List.reverse_cons, List.append_assoc]
      rfl

/-- Without a closing brace every character is a mark. -/
theorem scanSegments_of_unclosed (hbefore : '\x7b' ∉ before) (hafter : '\x7d' ∉ after) :
    scanSegments none (before ++ '\x7b' :: after) = (before ++ '\x7b' :: after).map .mark := by
  rw [scans_marks hbefore, scanSegments, if_pos rfl, scanSegments_unclosed hafter,
    @List.map_append _ _ _ before]
  rfl

/-- What stands between an opening brace and the next closing one is a reference. -/
theorem scanSegments_of_reference (hbefore : '\x7b' ∉ before) (hname : '\x7d' ∉ name) :
    scanSegments none (before ++ '\x7b' :: (name ++ '\x7d' :: rest)) =
      before.map .mark ++ .reference (String.ofList name) :: scanSegments none rest := by
  rw [scans_marks hbefore, scanSegments, if_pos rfl, scanSegments_name hname]
  rfl

/-- The text of marks is the text itself. -/
theorem flatMap_marks (row : Row) (s : List Char) :
    (s.map Segment.mark).flatMap (Segment.substitute row) = s := by
  induction s with
  | nil => rfl
  | cons c s ih =>
      rw [List.map_cons, List.flatMap_cons, ih, Segment.substitute, List.singleton_append]

/-- There are no names among marks. -/
theorem filterMap_marks (s : List Char) : (s.map Segment.mark).filterMap Segment.name? = [] := by
  induction s with
  | nil => rfl
  | cons c s ih => exact ih

end scans

/-! ## The two loops -/

section loops

variable {row : Row} {names : List String} {bound out s : List Char}

/-- Adds a name to a list, unless it is there. -/
def addName (names : List String) (name : String) : List String :=
  if name ∈ names then names else names ++ [name]

/-- The loop over names adds those of the segments one by one. -/
theorem collectNames_eq (hbound : s.length ≤ bound.length) :
    collectNames bound names s =
      ((scanSegments none s).filterMap Segment.name?).foldl addName names := by
  induction bound generalizing s names with
  | nil =>
      obtain rfl : s = [] := List.length_eq_zero_iff.1 (Nat.le_zero.1 hbound)
      rfl
  | cons b bound ih =>
      rw [collectNames]
      cases hopen : Text.splitFirst? '\x7b' s with
      | none =>
          rw [scanSegments_of_notMem (Text.splitFirst?_eq_none_iff.1 hopen), filterMap_marks]
          rfl
      | some parts =>
          obtain ⟨before, after⟩ := parts
          obtain ⟨rfl, hbefore⟩ := Text.splitFirst?_eq_some_iff.1 hopen
          cases hclose : Text.splitFirst? '\x7d' after with
          | none =>
              have hafter := Text.splitFirst?_eq_none_iff.1 hclose
              rw [scanSegments_of_unclosed hbefore hafter, filterMap_marks]
              simp only [hclose, List.foldl_nil]
          | some parts =>
              obtain ⟨name, rest⟩ := parts
              obtain ⟨rfl, hname⟩ := Text.splitFirst?_eq_some_iff.1 hclose
              have hrest : rest.length ≤ bound.length := by
                simp only [List.length_append, List.length_cons] at hbound
                omega
              rw [scanSegments_of_reference hbefore hname, List.filterMap_append, filterMap_marks]
              simp only [hclose, ih hrest]
              rfl

/-- The loop over texts writes the segments one by one. -/
theorem writeNumbers_eq (hbound : s.length ≤ bound.length) :
    writeNumbers row bound out s =
      out ++ (scanSegments none s).flatMap (Segment.substitute row) := by
  induction bound generalizing s out with
  | nil =>
      obtain rfl : s = [] := List.length_eq_zero_iff.1 (Nat.le_zero.1 hbound)
      rfl
  | cons b bound ih =>
      rw [writeNumbers]
      cases hopen : Text.splitFirst? '\x7b' s with
      | none =>
          rw [scanSegments_of_notMem (Text.splitFirst?_eq_none_iff.1 hopen), flatMap_marks]
      | some parts =>
          obtain ⟨before, after⟩ := parts
          obtain ⟨rfl, hbefore⟩ := Text.splitFirst?_eq_some_iff.1 hopen
          cases hclose : Text.splitFirst? '\x7d' after with
          | none =>
              have hafter := Text.splitFirst?_eq_none_iff.1 hclose
              rw [scanSegments_of_unclosed hbefore hafter, flatMap_marks]
              simp only [hclose]
          | some parts =>
              obtain ⟨name, rest⟩ := parts
              obtain ⟨rfl, hname⟩ := Text.splitFirst?_eq_some_iff.1 hclose
              have hrest : rest.length ≤ bound.length := by
                simp only [List.length_append, List.length_cons] at hbound
                omega
              rw [scanSegments_of_reference hbefore hname, List.flatMap_append, flatMap_marks,
                List.flatMap_cons]
              simp only [hclose, ih hrest, List.append_assoc]
              rfl

end loops

/-- The references are the names among the segments, each where it is first seen. -/
theorem references_eq (formula : String) :
    references formula = ((segments formula).filterMap Segment.name?).foldl addName [] :=
  collectNames_eq (Nat.le_refl _)

/-- Substituting replaces each segment for itself. -/
theorem substitute_eq (formula : String) (row : Row) :
    substitute formula row =
      String.ofList ((segments formula).flatMap (Segment.substitute row)) := by
  rw [substitute, writeNumbers_eq (Nat.le_refl _), List.nil_append]
  rfl

end Formula

end Dashboard
