import Dashboard.Text.Search

/-!
# Text.Split · splitting and joining undo each other

* **`join_split`**: the parts of a text, joined by the separator, are the text. This holds of every
  separator, also of the empty one.
* **`split_join`**: texts that do not contain a character, joined by it, are the parts again.
-/

namespace Dashboard

namespace Text

variable {separator s : List Char} {c : Char} {skip : Nat} {parts : List (List Char)}

/-- Joining is the intercalation of the library. -/
theorem join_eq_intercalate (separator : List Char) (parts : List (List Char)) :
    join separator parts = separator.intercalate parts := by
  fun_induction join separator parts with
  | case1 => exact List.intercalate_nil.symm
  | case2 s => exact List.intercalate_singleton.symm
  | case3 s rest hrest ih => rw [ih, List.intercalate_cons_of_ne_nil hrest]

/-- A character is put in front of the first text. -/
theorem consFirst_eq_modifyHead (h : parts ≠ []) :
    consFirst c parts = parts.modifyHead (c :: ·) := by
  cases parts with
  | nil => exact absurd rfl h
  | cons part parts => rfl

/-- Splitting gives at least one text. -/
theorem splitSkipping_ne_nil : splitSkipping separator skip s ≠ [] := by
  fun_induction splitSkipping separator skip s with
  | case1 => exact List.cons_ne_nil _ _
  | case2 skip c s ih => exact ih
  | case3 c s hfound ih => exact List.cons_ne_nil _ _
  | case4 c s hother ih =>
      rw [consFirst_eq_modifyHead ih, Ne, List.modifyHead_eq_nil_iff]
      exact ih

/-- A character in front of the first text stands in front of all. -/
theorem join_consFirst (h : parts ≠ []) :
    join separator (consFirst c parts) = c :: join separator parts := by
  obtain ⟨part, rest, rfl⟩ := List.exists_cons_of_ne_nil h
  cases rest with
  | nil => rfl
  | cons next rest => rfl

/-- The parts, joined again, are the text behind the characters that are skipped. -/
theorem join_splitSkipping (hne : separator ≠ []) :
    join separator (splitSkipping separator skip s) = s.drop skip := by
  fun_induction splitSkipping separator skip s with
  | case1 => rw [List.drop_nil, join]
  | case2 skip c s ih => rw [ih, List.drop_succ_cons]
  | case3 c s hfound ih =>
      -- the separator is found here, and what is skipped are its other characters
      have hprefix := List.isPrefixOf_iff_prefix.1 hfound
      have hlength : separator.length = separator.length - 1 + 1 :=
        (Nat.sub_add_cancel (List.length_pos_iff.2 hne)).symm
      have hdrop : (c :: s).drop separator.length = s.drop (separator.length - 1) := by
        rw [hlength, List.drop_succ_cons, Nat.add_sub_cancel]
      rw [join_eq_intercalate, List.intercalate_cons_of_ne_nil splitSkipping_ne_nil,
        ← join_eq_intercalate, ih, List.nil_append, ← hdrop]
      exact List.prefix_iff_eq_append.1 hprefix
  | case4 c s hother ih =>
      rw [join_consFirst splitSkipping_ne_nil, ih, List.drop_zero, List.drop_zero]

/-- Joining single characters without a separator gives the text. -/
theorem join_characters (s : List Char) : join [] (s.map ([·])) = s := by
  induction s with
  | nil => rfl
  | cons c s ih =>
      cases s with
      | nil => rfl
      | cons d s => exact congrArg (c :: ·) ih

/-- The parts of a text, joined again, are the text. -/
theorem join_split (separator s : List Char) : join separator (split separator s) = s := by
  unfold split
  split
  · rename_i hempty
    rw [List.isEmpty_iff.1 hempty]
    exact join_characters s
  · rename_i hempty
    rw [join_splitSkipping fun hnil => hempty (List.isEmpty_iff.2 hnil), List.drop_zero]

/-- Splitting by one character is that of the library. -/
theorem split_singleton (c : Char) (s : List Char) : split [c] s = s.splitOn c := by
  show splitSkipping [c] 0 s = s.splitOn c
  induction s with
  | nil => rw [List.splitOn_nil, splitSkipping]
  | cons d s ih =>
      have hprefix : [c].isPrefixOf (d :: s) = (d == c) := by
        rw [List.isPrefixOf, List.isPrefixOf, Bool.and_true, Bool.beq_comm]
      rw [splitSkipping, hprefix, List.splitOn_cons_eq_if_modifyHead, ← ih,
        consFirst_eq_modifyHead splitSkipping_ne_nil]
      rfl

/-- Texts without a character, joined by it, are the parts of the whole. -/
theorem split_join (hne : parts ≠ []) (h : ∀ part ∈ parts, c ∉ part) :
    split [c] (join [c] parts) = parts := by
  rw [split_singleton, join_eq_intercalate, List.splitOn_intercalate c h hne]

end Text

end Dashboard
