/-!
# Text.Search · occurrence, order, splitting and joining

* **`occurs needle s`** says whether `needle` stands anywhere in `s`.
* **`order`** compares strings by code points.
* **`split separator s`** cuts a text at each occurrence of a nonempty separator, from left to
  right and without overlap; an empty separator cuts between all characters.
* **`splitFirst?`** cuts a text at the first occurrence of a character.
* **`join`** puts a separator between texts.
-/

namespace Dashboard

namespace Text

/-- Whether a text stands somewhere in another. -/
def occurs (needle : List Char) : List Char → Bool
  | [] => needle.isEmpty
  | c :: s => needle.isPrefixOf (c :: s) || occurs needle s

/-- Occurring is being a contiguous part. -/
theorem occurs_iff {needle s : List Char} : occurs needle s = true ↔ needle <:+: s := by
  induction s with
  | nil => rw [occurs, List.isEmpty_iff, List.infix_nil]
  | cons c s ih =>
      rw [occurs, Bool.or_eq_true, List.isPrefixOf_iff_prefix, ih, List.infix_cons_iff]

/-- Comparison of strings by code points. -/
def order (a b : String) : Ordering := compare a.toList b.toList

/-- Puts a character in front of the first text of a list. -/
def consFirst (c : Char) : List (List Char) → List (List Char)
  | [] => [[c]]
  | s :: rest => (c :: s) :: rest

/-- The texts between the occurrences of a nonempty separator, where the first `skip` characters
belong to a separator that was already found. -/
def splitSkipping (separator : List Char) : Nat → List Char → List (List Char)
  | _, [] => [[]]
  | skip + 1, _ :: s => splitSkipping separator skip s
  | 0, c :: s =>
    if separator.isPrefixOf (c :: s) then [] :: splitSkipping separator (separator.length - 1) s
    else consFirst c (splitSkipping separator 0 s)

/-- The parts of a text between the occurrences of a separator; with an empty separator, its
characters. -/
def split (separator s : List Char) : List (List Char) :=
  if separator.isEmpty then s.map ([·]) else splitSkipping separator 0 s

/-- The parts of a text in front of and behind the first occurrence of a character; none if it does
not occur. -/
def splitFirst? (c : Char) : List Char → Option (List Char × List Char)
  | [] => none
  | d :: s => if d = c then some ([], s) else (splitFirst? c s).map fun (l, r) => (d :: l, r)

/-- There is no split exactly if the character does not occur. -/
theorem splitFirst?_eq_none_iff {c : Char} {s : List Char} : splitFirst? c s = none ↔ c ∉ s := by
  induction s with
  | nil => simp [splitFirst?]
  | cons d s ih =>
      rw [splitFirst?]
      by_cases hd : d = c
      · simp [hd]
      · simp [hd, ih, Ne.symm hd]

/-- The part in front is the longest one without the character. -/
theorem splitFirst?_eq_some_iff {c : Char} {s l r : List Char} :
    splitFirst? c s = some (l, r) ↔ s = l ++ c :: r ∧ c ∉ l := by
  induction s generalizing l with
  | nil => simp [splitFirst?]
  | cons d s ih =>
      rw [splitFirst?]
      by_cases hd : d = c
      · subst hd
        rw [if_pos rfl]
        constructor
        · rintro ⟨⟩
          exact ⟨rfl, List.not_mem_nil⟩
        · rintro ⟨hs, hl⟩
          cases l with
          | nil => simpa using hs
          | cons e l => simp_all
      · rw [if_neg hd, Option.map_eq_some_iff]
        constructor
        · rintro ⟨⟨l', r'⟩, hsplit, ⟨⟩⟩
          obtain ⟨rfl, hl⟩ := ih.1 hsplit
          exact ⟨rfl, by simpa [Ne.symm hd] using hl⟩
        · rintro ⟨hs, hl⟩
          cases l with
          | nil => exact absurd (List.cons.inj hs).1 hd
          | cons e l =>
              obtain ⟨rfl, rfl⟩ := List.cons.inj hs
              exact ⟨(l, r), ih.2 ⟨rfl, fun hmem => hl (List.mem_cons_of_mem d hmem)⟩, rfl⟩

/-- Texts with a separator between neighbours. -/
def join (separator : List Char) : List (List Char) → List Char
  | [] => []
  | [s] => s
  | s :: rest => s ++ separator ++ join separator rest

/-- Strings with a separator between neighbours. -/
def joinStrings (separator : String) (parts : List String) : String :=
  String.ofList (join separator.toList (parts.map String.toList))

end Text

end Dashboard
