import Mathlib.Data.List.TakeWhile

/-!
# Text.Span · where a run of characters ends

Every reader of this library takes the longest run of characters of some class. It ends exactly
where the class stops.

* **`Stops p rest`** says that no character of class `p` stands at the head of `rest`.
* **`takeWhile_append_of_stops`**, **`dropWhile_append_of_stops`** split a run off in front of
  such a rest.
-/

namespace Dashboard

namespace Text

variable {p : Char → Bool} {c : Char} {run rest : List Char}

/-- The text does not start with a character of class `p`. -/
def Stops (p : Char → Bool) (rest : List Char) : Prop := ∀ c ∈ rest.head?, p c = false

/-- The empty text begins with no such character. -/
@[simp] theorem stops_nil : Stops p [] := by
  intro c hc
  cases hc

/-- The first character decides. -/
@[simp] theorem stops_cons : Stops p (c :: rest) ↔ p c = false := by
  simp [Stops]

/-- In front of a class `q` that excludes `p`, a rest that starts with `q` stops `p`. -/
theorem stops_append {q : Char → Bool} (hq : ∀ c, q c = true → p c = false)
    (hrun : ∀ c ∈ run, q c = true) (hrest : Stops p rest) : Stops p (run ++ rest) := by
  cases run with
  | nil => exact hrest
  | cons c run => exact stops_cons.2 (hq c (hrun c List.mem_cons_self))

/-- What is left behind such characters begins with none. -/
theorem stops_dropWhile (p : Char → Bool) (s : List Char) : Stops p (s.dropWhile p) := by
  intro c hc
  have h := List.head?_dropWhile_not p s
  rw [hc] at h
  exact h

/-- A run in front of another character is taken whole. -/
theorem takeWhile_append_of_stops (hrun : ∀ c ∈ run, p c = true) (hrest : Stops p rest) :
    (run ++ rest).takeWhile p = run := by
  have hnil : rest.takeWhile p = [] := by
    cases rest with
    | nil => rfl
    | cons c rest => simp [stops_cons.1 hrest]
  rw [List.takeWhile_append_of_pos hrun, hnil, List.append_nil]

/-- In front of another character nothing is dropped. -/
theorem dropWhile_of_stops (hrest : Stops p rest) : rest.dropWhile p = rest := by
  cases rest with
  | nil => rfl
  | cons c rest => simp [stops_cons.1 hrest]

/-- A run in front of another character is dropped whole. -/
theorem dropWhile_append_of_stops (hrun : ∀ c ∈ run, p c = true) (hrest : Stops p rest) :
    (run ++ rest).dropWhile p = rest := by
  rw [List.dropWhile_append_of_pos hrun, dropWhile_of_stops hrest]

end Text

end Dashboard
