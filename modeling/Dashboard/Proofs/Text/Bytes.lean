import Dashboard.Proofs.Text.Span
import Dashboard.Text.Bytes

/-!
# Text.Bytes · a scanner of bytes sees characters

An ASCII character is one byte of its own value, and all bytes of any other character are greater.
So a scanner that looks for ASCII characters byte by byte finds what a scanner of characters finds,
and it never stops inside of a character.

* **`Describes p q`**: the bytes of class `p` are those of the characters of class `q`, and these
  are ASCII characters.
* **`RestAt s n rest`**: position `n` stands in front of the part `rest` of the text.
* **`RestAt.standsAt`**, **`RestAt.skipOne`**, **`RestAt.skipWhile`**: at such a position the
  scanner sees the first characters of `rest`, and it moves on to another such position.
* **`isSome_cut?_iff`**: a text can be cut exactly at its valid positions.
-/

namespace Dashboard

namespace Text

variable {p : UInt8 → Bool} {q : Char → Bool} {c : Char} {l r s run chars : List Char}

/-! ## Bytes of one character -/

/-- An ASCII character is one byte. -/
theorem utf8EncodeChar_of_ascii (h : c.toNat ≤ 127) : String.utf8EncodeChar c = [c.toUInt8] := by
  have hsize : c.utf8Size = 1 := Char.utf8Size_eq_one_iff.2 (UInt32.le_iff_toNat_le.2 h)
  rw [String.utf8EncodeChar_eq_singleton hsize, Char.toUInt8_val]

/-- No byte of another character is that of an ASCII character. -/
theorem lt_of_mem_utf8EncodeChar (h : 127 < c.toNat) :
    ∀ b ∈ String.utf8EncodeChar c, 127 < b.toNat := by
  intro b hb
  have hval : c.val.toNat = c.toNat := rfl
  simp only [String.utf8EncodeChar, hval] at hb
  -- the first case is that of ASCII characters, the others have two to four bytes
  split at hb
  · omega
  · split_ifs at hb <;> simp only [List.mem_cons, List.not_mem_nil, or_false] at hb <;>
      rcases hb with rfl | rfl | rfl | rfl <;> simp only [UInt8.toNat_ofNat'] <;> omega

/-- The byte of an ASCII character has its number. -/
theorem toNat_toUInt8 (h : c.toNat ≤ 127) : c.toUInt8.toNat = c.toNat := by
  have hmod : c.toUInt8.toNat = c.toNat % 2 ^ 8 := UInt32.toNat_toUInt8 c.val
  omega

/-! ## Classes of bytes and of characters -/

/-- The bytes of class `p` are those of the characters of class `q`, which are ASCII characters. -/
structure Describes (p : UInt8 → Bool) (q : Char → Bool) : Prop where
  ascii : ∀ c : Char, c.toNat ≤ 127 → p c.toUInt8 = q c
  byte : ∀ b : UInt8, 127 < b.toNat → p b = false
  char : ∀ c : Char, 127 < c.toNat → q c = false

/-- The bytes of digits are those of the digits. -/
theorem describes_isDigitByte : Describes isDigitByte Char.isDigit where
  ascii c h := by
    have hbyte := toNat_toUInt8 h
    have hzero : '0'.toUInt8.toNat = 48 := rfl
    have hnine : '9'.toUInt8.toNat = 57 := rfl
    have hdigit : c.isDigit = (decide (48 ≤ c.toNat) && decide (c.toNat ≤ 57)) := rfl
    simp only [isDigitByte, hdigit, UInt8.le_iff_toNat_le, hbyte, hzero, hnine]
  byte b h := by
    have hnine : '9'.toUInt8.toNat = 57 := rfl
    simp only [isDigitByte, UInt8.le_iff_toNat_le, hnine, Bool.and_eq_false_iff,
      decide_eq_false_iff_not]
    omega
  char c h := by
    have hdigit : c.isDigit = (decide (48 ≤ c.toNat) && decide (c.toNat ≤ 57)) := rfl
    rw [hdigit, Bool.and_eq_false_iff, decide_eq_false_iff_not, decide_eq_false_iff_not]
    omega

/-- The character of a byte has its number. -/
theorem toNat_ofUInt8 (b : UInt8) : (Char.ofUInt8 b).toNat = b.toNat := rfl

/-- An ASCII character is that of its byte. -/
theorem ofUInt8_toUInt8 (h : c.toNat ≤ 127) : Char.ofUInt8 c.toUInt8 = c :=
  Char.toNat_inj.1 (by rw [toNat_ofUInt8, toNat_toUInt8 h])

/-- A class of ASCII characters is described by the bytes that, taken for characters of their own,
belong to it. -/
theorem describes_ofUInt8 (h : ∀ c : Char, 127 < c.toNat → q c = false) :
    Describes (fun b => q (Char.ofUInt8 b)) q where
  ascii c hc := by rw [ofUInt8_toUInt8 hc]
  byte b hb := h _ (by rwa [toNat_ofUInt8])
  char := h

/-- Whether all characters are ASCII characters. -/
def allAscii (chars : List Char) : Bool := chars.all fun c => c.toNat ≤ 127

/-- Each of some ASCII characters is one. -/
theorem toNat_le_of_allAscii (h : allAscii chars = true) : ∀ c ∈ chars, c.toNat ≤ 127 :=
  fun c hc => of_decide_eq_true (List.all_eq_true.1 h c hc)

/-- A list of ASCII characters is described by the bytes of these characters. -/
theorem describes_contains (hascii : allAscii chars = true) :
    Describes (fun b => chars.any fun c => c.toUInt8 == b) chars.contains where
  ascii c hc := by
    rw [Bool.eq_iff_iff, List.any_eq_true, List.contains_iff_mem]
    constructor
    · rintro ⟨d, hd, hbyte⟩
      have hnat : d.toNat = c.toNat := by
        rw [← toNat_toUInt8 (toNat_le_of_allAscii hascii d hd), ← toNat_toUInt8 hc, eq_of_beq hbyte]
      exact Char.toNat_inj.1 hnat ▸ hd
    · exact fun hmem => ⟨c, hmem, beq_self_eq_true _⟩
  byte b hb := by
    rw [Bool.eq_false_iff, ne_eq, List.any_eq_true]
    rintro ⟨d, hd, hbyte⟩
    have hle := toNat_le_of_allAscii hascii d hd
    have hnat := toNat_toUInt8 hle
    rw [eq_of_beq hbyte] at hnat
    omega
  char c hc := by
    rw [Bool.eq_false_iff, ne_eq, List.contains_iff_mem]
    intro hmem
    have hle := toNat_le_of_allAscii hascii c hmem
    omega

namespace Describes

/-- Two classes of bytes describe two classes of characters. -/
theorem or {p' : UInt8 → Bool} {q' : Char → Bool} (h : Describes p q) (h' : Describes p' q') :
    Describes (fun b => p b || p' b) (fun c => q c || q' c) where
  ascii c hc := by rw [h.ascii c hc, h'.ascii c hc]
  byte b hb := by rw [h.byte b hb, h'.byte b hb, Bool.or_false]
  char c hc := by rw [h.char c hc, h'.char c hc, Bool.or_false]

/-- The first byte of a text is of the class exactly if its first character is. -/
theorem head (h : Describes p q) (s : List Char) : (bytes s).head?.any p = s.head?.any q := by
  cases s with
  | nil => rfl
  | cons c s =>
      rw [bytes_cons]
      rcases Nat.lt_or_ge 127 c.toNat with hc | hc
      · obtain ⟨b, bs, hbytes⟩ := List.exists_cons_of_ne_nil (String.utf8EncodeChar_ne_nil (c := c))
        have hb := lt_of_mem_utf8EncodeChar hc b (hbytes ▸ List.mem_cons_self)
        rw [hbytes]
        exact (h.byte b hb).trans (h.char c hc).symm
      · rw [utf8EncodeChar_of_ascii hc]
        exact h.ascii c hc

/-- As many bytes as characters of the class stand at the head of a text. -/
theorem takeWhile (h : Describes p q) (s : List Char) :
    ((bytes s).takeWhile p).length = (s.takeWhile q).length := by
  induction s with
  | nil => rfl
  | cons c s ih =>
      rw [bytes_cons]
      rcases Nat.lt_or_ge 127 c.toNat with hc | hc
      · obtain ⟨b, bs, hbytes⟩ := List.exists_cons_of_ne_nil (String.utf8EncodeChar_ne_nil (c := c))
        have hb := h.byte b (lt_of_mem_utf8EncodeChar hc b (hbytes ▸ List.mem_cons_self))
        rw [hbytes, List.cons_append, List.takeWhile_cons_of_neg (by simp [hb]),
          List.takeWhile_cons_of_neg (by simp [h.char c hc])]
        rfl
      · rw [utf8EncodeChar_of_ascii hc, List.singleton_append, List.takeWhile_cons,
          List.takeWhile_cons, h.ascii c hc]
        split
        · rw [List.length_cons, List.length_cons, ih]
        · rfl

/-- All bytes of a text are of the class exactly if all its characters are. -/
theorem all (h : Describes p q) (s : List Char) : (bytes s).all p = s.all q := by
  induction s with
  | nil => rfl
  | cons c s ih =>
      rw [bytes_cons, List.all_append, List.all_cons, ih]
      rcases Nat.lt_or_ge 127 c.toNat with hc | hc
      · obtain ⟨b, bs, hbytes⟩ := List.exists_cons_of_ne_nil (String.utf8EncodeChar_ne_nil (c := c))
        have hb := h.byte b (lt_of_mem_utf8EncodeChar hc b (hbytes ▸ List.mem_cons_self))
        rw [hbytes, List.all_cons, hb, h.char c hc, Bool.false_and]
      · rw [utf8EncodeChar_of_ascii hc, List.all_cons, List.all_nil, Bool.and_true, h.ascii c hc]

/-- Characters of the class are one byte each. -/
theorem length_bytes (h : Describes p q) (hs : ∀ c ∈ s, q c = true) :
    (bytes s).length = s.length := by
  induction s with
  | nil => rfl
  | cons c s ih =>
      obtain ⟨hc, hs⟩ := List.forall_mem_cons.1 hs
      have hascii : c.toNat ≤ 127 := by
        by_contra hlt
        rw [h.char c (by omega)] at hc
        cases hc
      rw [bytes_cons, utf8EncodeChar_of_ascii hascii, List.length_append, List.length_singleton,
        ih hs, List.length_cons, Nat.add_comm]

end Describes

/-- A text starts with a byte. Taken for a character of its own, it is the first character, or
neither of the two is an ASCII character. -/
theorem exists_head?_bytes (c : Char) (s : List Char) :
    ∃ b, (bytes (c :: s)).head? = some b ∧
      ∀ {α : Type} {f : Char → α} {a : α}, (∀ d : Char, 127 < d.toNat → f d = a) →
        f (Char.ofUInt8 b) = f c := by
  rw [bytes_cons]
  rcases Nat.lt_or_ge 127 c.toNat with hc | hc
  · obtain ⟨b, bs, hbytes⟩ := List.exists_cons_of_ne_nil (String.utf8EncodeChar_ne_nil (c := c))
    have hb : 127 < (Char.ofUInt8 b).toNat :=
      lt_of_mem_utf8EncodeChar hc b (hbytes ▸ List.mem_cons_self)
    rw [hbytes]
    exact ⟨b, rfl, fun h => (h _ hb).trans (h c hc).symm⟩
  · rw [utf8EncodeChar_of_ascii hc]
    exact ⟨c.toUInt8, rfl, fun _ => by rw [ofUInt8_toUInt8 hc]⟩

/-- The bytes of a run of characters of a class are these characters. -/
theorem map_takeWhile_ofUInt8 (h : ∀ c : Char, 127 < c.toNat → q c = false) (s : List Char) :
    ((bytes s).takeWhile fun b => q (Char.ofUInt8 b)).map Char.ofUInt8 = s.takeWhile q := by
  induction s with
  | nil => rfl
  | cons c s ih =>
      rcases Nat.lt_or_ge 127 c.toNat with hc | hc
      · obtain ⟨b, hhead, hb⟩ := exists_head?_bytes c s
        obtain ⟨bs, hbytes⟩ := List.head?_eq_some_iff.1 hhead
        have hout : q (Char.ofUInt8 b) = false := (hb h).trans (h c hc)
        rw [hbytes, List.takeWhile_cons_of_neg (by simp [hout]),
          List.takeWhile_cons_of_neg (by simp [h c hc])]
        rfl
      · rw [bytes_cons, utf8EncodeChar_of_ascii hc, List.singleton_append, List.takeWhile_cons,
          List.takeWhile_cons, ofUInt8_toUInt8 hc]
        split
        · rw [List.map_cons, ih, ofUInt8_toUInt8 hc]
        · rfl

/-- A text has at least as many bytes as characters. -/
theorem length_le_length_bytes (s : List Char) : s.length ≤ (bytes s).length := by
  induction s with
  | nil => exact Nat.le_refl 0
  | cons c s ih =>
      have hpos := c.utf8Size_pos
      rw [length_bytes_cons, List.length_cons]
      omega

/-! ## Positions -/

/-- At position `n` the text goes on with `rest`. -/
def RestAt (s : List Char) (n : Nat) (rest : List Char) : Prop := ∃ l, cut? s n = some (l, rest)

/-- At the start the whole text goes on. -/
theorem restAt_zero (s : List Char) : RestAt s 0 s := by
  refine ⟨[], ?_⟩
  cases s <;> rfl

/-- Behind the bytes of a first part the second part goes on. -/
theorem restAt_append (before after : List Char) :
    RestAt (before ++ after) (bytes before).length after :=
  ⟨before, cut?_append before after⟩

namespace RestAt

variable {n : Nat}

/-- The bytes from a position on are those of what goes on there. -/
theorem drop_bytes (h : RestAt s n r) : (bytes s).drop n = bytes r := by
  obtain ⟨l, hcut⟩ := h
  obtain ⟨rfl, rfl⟩ := eq_append_of_cut? hcut
  rw [bytes_append, List.drop_left]

/-- The text consists of a part before the position and of what goes on there. -/
theorem exists_append (h : RestAt s n r) : ∃ l, s = l ++ r ∧ (bytes l).length = n := by
  obtain ⟨l, hcut⟩ := h
  exact ⟨l, eq_append_of_cut? hcut⟩

/-- The byte at a position is the first one of what goes on there. -/
theorem getElem?_bytes (h : RestAt s n r) : (bytes s)[n]? = (bytes r).head? := by
  rw [← List.head?_drop, h.drop_bytes]

/-- From a later position less of the text is left. -/
theorem length_le {m : Nat} (h : RestAt s n r) (h' : RestAt s m l) (hle : n ≤ m) :
    l.length ≤ r.length := by
  obtain ⟨front, rfl, rfl⟩ := h.exists_append
  obtain ⟨front', hs, rfl⟩ := h'.exists_append
  rcases List.append_eq_append_iff.1 hs with ⟨between, -, rfl⟩ | ⟨between, rfl, rfl⟩
  · rw [List.length_append]
    omega
  · have hlength := length_le_length_bytes between
    rw [bytes_append, List.length_append] at hle
    rw [List.length_append]
    omega

/-- A run of characters leads to the position behind its bytes. -/
theorem step (h : RestAt s n (run ++ r)) : RestAt s (n + (bytes run).length) r := by
  obtain ⟨l, hcut⟩ := h
  obtain ⟨rfl, rfl⟩ := eq_append_of_cut? hcut
  refine ⟨l ++ run, ?_⟩
  rw [← List.append_assoc, ← List.length_append, ← bytes_append]
  exact cut?_append (l ++ run) r

/-- An ASCII character leads to the next position. -/
theorem step_ascii (h : RestAt s n (c :: r)) (hc : c.toNat ≤ 127) : RestAt s (n + 1) r := by
  have hstep := RestAt.step (show RestAt s n ([c] ++ r) from h)
  rwa [bytes_cons, utf8EncodeChar_of_ascii hc] at hstep

/-- One of some ASCII characters stands at the position if it is the next character. -/
theorem standsAt (h : RestAt s n r) (hascii : allAscii chars = true) :
    standsAt chars (bytes s) n = r.head?.any chars.contains := by
  rw [Text.standsAt, ← List.head?_drop, h.drop_bytes, (describes_contains hascii).head]

/-- Behind an ASCII character the text goes on without it. -/
theorem step_of_standsAt (h : RestAt s n r) (hascii : allAscii chars = true)
    (hstands : Text.standsAt chars (bytes s) n = true) : RestAt s (n + 1) r.tail := by
  rw [h.standsAt hascii] at hstands
  obtain ⟨c, hc, hmem⟩ := (Option.any_eq_true _ _).1 hstands
  obtain ⟨r, rfl⟩ := List.head?_eq_some_iff.1 hc
  have hone := (describes_contains hascii).length_bytes (s := [c]) (by simpa using hmem)
  have hstep := RestAt.step (show RestAt s n ([c] ++ r) from h)
  rwa [hone] at hstep

/-- One of some ASCII characters is skipped if it is the next character. -/
theorem skipOne (h : RestAt s n r) (hascii : allAscii chars = true) :
    RestAt s (skipOne chars (bytes s) n) (if r.head?.any chars.contains then r.tail else r) := by
  rw [Text.skipOne, ← h.standsAt hascii]
  split
  · exact h.step_of_standsAt hascii ‹_›
  · exact h

/-- Bytes of a class are skipped as the characters of the class. -/
theorem skipWhile_eq (h : RestAt s n r) (hpq : Describes p q) :
    skipWhile p (bytes s) n = n + (r.takeWhile q).length := by
  rw [skipWhile, h.drop_bytes, hpq.takeWhile]

/-- Behind the characters of a class the text goes on without them. -/
theorem skipWhile (h : RestAt s n r) (hpq : Describes p q) :
    RestAt s (skipWhile p (bytes s) n) (r.dropWhile q) := by
  rw [h.skipWhile_eq hpq, ← hpq.length_bytes fun _ hc => List.mem_takeWhile_imp hc]
  exact RestAt.step (by rwa [List.takeWhile_append_dropWhile])

/-- Behind the digits the text goes on without them. -/
theorem skipDigits (h : RestAt s n r) :
    RestAt s (skipDigits (bytes s) n) (r.dropWhile Char.isDigit) :=
  h.skipWhile describes_isDigitByte

/-- Skipping digits moves exactly if there are any. -/
theorem lt_skipDigits_iff (h : RestAt s n r) :
    n < Text.skipDigits (bytes s) n ↔ r.takeWhile Char.isDigit ≠ [] := by
  rw [Text.skipDigits, h.skipWhile_eq describes_isDigitByte, Nat.lt_add_right_iff_pos,
    List.length_pos_iff]

end RestAt

/-- The size of a string is the number of its bytes. -/
theorem utf8ByteSize_ofList (s : List Char) :
    (String.ofList s).utf8ByteSize = (bytes s).length := by
  rw [← String.size_toByteArray, String.toByteArray_ofList, List.utf8Encode,
    List.size_toByteArray, bytes]

/-- A text can be cut exactly at its valid positions. -/
theorem isSome_cut?_iff {n : Nat} :
    (cut? s n).isSome = true ↔ String.Pos.Raw.IsValid (String.ofList s) ⟨n⟩ := by
  rw [String.Pos.Raw.isValid_ofList, Option.isSome_iff_exists]
  constructor
  · rintro ⟨⟨l, r⟩, hcut⟩
    obtain ⟨rfl, hlength⟩ := eq_append_of_cut? hcut
    exact ⟨l.length, by rw [List.take_left, utf8ByteSize_ofList, hlength]⟩
  · rintro ⟨i, hi⟩
    refine ⟨(s.take i, s.drop i), cut?_eq_some_iff.2 ⟨(List.take_append_drop i s).symm, ?_⟩⟩
    rw [← utf8ByteSize_ofList, ← hi]

/-- The text goes on with some part exactly at its valid positions. -/
theorem exists_restAt_iff {text : String} {n : Nat} :
    (∃ r, RestAt text.toList n r) ↔ String.Pos.Raw.IsValid text ⟨n⟩ := by
  have hcut := @isSome_cut?_iff text.toList n
  rw [String.ofList_toList, Option.isSome_iff_exists] at hcut
  rw [← hcut, Prod.exists, exists_comm]
  rfl

end Text

end Dashboard
