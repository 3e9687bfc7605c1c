/-!
# Text.Bytes · texts as bytes

A scanner may look at the bytes of a text one by one, but it can cut the text only between
characters.

* **`bytes`** are the bytes of a text in UTF-8, and **`ofBytes?`** is the way back.
* **`standsAt`**, **`skipOne`** and **`skipWhile`** look at ASCII characters at a position.
* **`cut?`** cuts a text at a position. There is no cut beyond the end of the text or inside of a
  character (`cut?_eq_some_iff`).
-/

namespace Dashboard

namespace Text

/-- The bytes of a text in UTF-8. -/
def bytes (s : List Char) : List UInt8 := s.flatMap String.utf8EncodeChar

/-- The text that bytes encode in UTF-8; none if they encode no text. -/
def ofBytes? (bytes : List UInt8) : Option (List Char) :=
  bytes.toByteArray.utf8Decode?.map Array.toList

/-- Whether the byte of one of some ASCII characters stands at a position. -/
def standsAt (chars : List Char) (bytes : List UInt8) (i : Nat) : Bool :=
  bytes[i]?.any fun b => chars.any fun c => c.toUInt8 == b

/-- The position behind one of some ASCII characters, if one stands at a position; else the position
itself. -/
def skipOne (chars : List Char) (bytes : List UInt8) (i : Nat) : Nat :=
  if standsAt chars bytes i then i + 1 else i

/-- Whether a byte is that of a decimal digit. -/
def isDigitByte (b : UInt8) : Bool := '0'.toUInt8 ≤ b && b ≤ '9'.toUInt8

/-- The position behind the bytes of a class that stand at a position. -/
def skipWhile (p : UInt8 → Bool) (bytes : List UInt8) (i : Nat) : Nat :=
  i + ((bytes.drop i).takeWhile p).length

/-- The position behind the decimal digits that stand at a position. -/
def skipDigits (bytes : List UInt8) (i : Nat) : Nat := skipWhile isDigitByte bytes i

/-- The two parts of a text in front of and behind a position. -/
def cut? : List Char → Nat → Option (List Char × List Char)
  | s, 0 => some ([], s)
  | [], _ + 1 => none
  | c :: s, n + 1 =>
    if c.utf8Size ≤ n + 1 then (cut? s (n + 1 - c.utf8Size)).map fun (l, r) => (c :: l, r)
    else none

/-- The empty text has no bytes. -/
@[simp] theorem bytes_nil : bytes [] = [] := rfl

/-- The bytes of two texts in a row are those of both. -/
@[simp] theorem bytes_append (s t : List Char) : bytes (s ++ t) = bytes s ++ bytes t :=
  List.flatMap_append

/-- The bytes of the first character come first. -/
theorem bytes_cons (c : Char) (s : List Char) :
    bytes (c :: s) = String.utf8EncodeChar c ++ bytes s :=
  List.flatMap_cons

/-- Each character takes as many bytes as its size says. -/
theorem length_bytes_cons (c : Char) (s : List Char) :
    (bytes (c :: s)).length = c.utf8Size + (bytes s).length := by
  rw [bytes_cons, List.length_append, String.length_utf8EncodeChar]

/-- The bytes of a text are read back as the text. -/
theorem ofBytes?_bytes (s : List Char) : ofBytes? (bytes s) = some s := by
  have hdecode : (bytes s).toByteArray.utf8Decode? = some s.toArray := List.utf8Decode?_utf8Encode
  rw [ofBytes?, hdecode, Option.map_some]

/-- A text can be cut behind the bytes of each of its first parts. -/
theorem cut?_append (l r : List Char) : cut? (l ++ r) (bytes l).length = some (l, r) := by
  induction l with
  | nil =>
      rw [List.nil_append, bytes_nil, List.length_nil]
      cases r <;> rfl
  | cons c l ih =>
      have hpos := c.utf8Size_pos
      obtain ⟨n, hn⟩ : ∃ n, (bytes (c :: l)).length = n + 1 :=
        Nat.exists_eq_add_one.2 (by rw [length_bytes_cons]; omega)
      rw [length_bytes_cons] at hn
      rw [length_bytes_cons, hn, List.cons_append, cut?, if_pos (by omega), ← hn,
        Nat.add_sub_cancel_left, ih]
      rfl

/-- A cut gives two parts of the text, the first of the given size. -/
theorem eq_append_of_cut? {s l r : List Char} {n : Nat} (h : cut? s n = some (l, r)) :
    s = l ++ r ∧ (bytes l).length = n := by
  fun_induction cut? s n generalizing l with
  | case1 s =>
      obtain ⟨rfl, rfl⟩ := Prod.mk.inj (Option.some.inj h)
      exact ⟨rfl, rfl⟩
  | case2 => cases h
  | case3 c s n hle ih =>
      obtain ⟨⟨l', r'⟩, hcut, hparts⟩ := Option.map_eq_some_iff.1 h
      obtain ⟨rfl, rfl⟩ := Prod.mk.inj hparts
      obtain ⟨rfl, hlength⟩ := ih hcut
      refine ⟨rfl, ?_⟩
      rw [length_bytes_cons, hlength]
      omega
  | case4 => cases h

/-- A cut is a decomposition of the text, and its position counts the bytes of the first part. -/
theorem cut?_eq_some_iff {s l r : List Char} {n : Nat} :
    cut? s n = some (l, r) ↔ s = l ++ r ∧ (bytes l).length = n := by
  constructor
  · exact eq_append_of_cut?
  · rintro ⟨rfl, rfl⟩
    exact cut?_append l r

end Text

end Dashboard
