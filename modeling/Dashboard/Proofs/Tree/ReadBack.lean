import Dashboard.Proofs.Tree.Number
import Mathlib.Algebra.BigOperators.Group.List.Basic

/-!
# Tree.ReadBack · written documents read back

Each token that the printers write is read in front of any rest that does not go on as a number, and
white space between the tokens is skipped. So both layouts of a document are read as that document.

* **`Tree.Reads`** says what a scanner makes of a text in front of such a rest.
  **`Tree.scanParts?_items`** is the reading of parts with commas between them, which lists and
  objects share.
* **`Tree.Writable`** are the documents within the limits of the reader: integers of 64 bits, finite
  numbers, and nesting up to a depth.
* **`Tree.ofJson?_compactText`**, **`Tree.ofJson?_prettyText`**: the reader undoes both printers on
  them.
-/

namespace Dashboard

open Text (Stops stops_nil stops_cons)

namespace Tree

variable {rest : List Char}

/-! ## Strings -/

/-- The escape of a control character is read back. -/
theorem scanUnicodeEscape?_of_lt {n : Nat} (h : n < 32) (s : List Char) :
    scanUnicodeEscape? ('0' :: '0' :: hexChar (n / 16) :: hexChar (n % 16) :: s) =
      some (Char.ofNat n, s) := by
  have hdigits : ∀ n < 32, Numeral.ofDigits? Numeral.hexDigit? 16
      ['0', '0', hexChar (n / 16), hexChar (n % 16)] = some n := by decide
  have hlow : ¬(0xDC00 ≤ n ∧ n ≤ 0xDFFF) := by omega
  have hhigh : ¬(0xD800 ≤ n ∧ n ≤ 0xDBFF) := by omega
  simp only [scanUnicodeEscape?, scanHex4?, hdigits n h, Option.bind_eq_bind, Option.bind_some,
    if_neg hlow, if_neg hhigh]

/-- The written form of a character is read as that character. -/
theorem scanString?_escapeChar (c b : Char) (bound read s : List Char) :
    scanString? (b :: bound) read (escapeChar c ++ s) = scanString? bound (c :: read) s := by
  unfold escapeChar
  split_ifs with hquote hsolidus hfeed hreturn htab hback hform hcontrol
  · subst hquote
    simp [scanString?, scanEscape?]
  · subst hsolidus
    simp [scanString?, scanEscape?]
  · subst hfeed
    simp [scanString?, scanEscape?]
  · subst hreturn
    simp [scanString?, scanEscape?]
  · subst htab
    simp [scanString?, scanEscape?]
  · have hc : c = Char.ofNat 8 := by rw [← hback, Char.ofNat_toNat]
    simp [scanString?, scanEscape?, hc]
  · have hc : c = Char.ofNat 12 := by rw [← hform, Char.ofNat_toNat]
    simp [scanString?, scanEscape?, hc]
  · have hescape := scanUnicodeEscape?_of_lt hcontrol s
    simp [scanString?, scanEscape?, hescape, Char.ofNat_toNat]
  · simp [scanString?, hquote, hsolidus, hcontrol]

/-- A quoted text reads back. -/
theorem scanString?_quote (s : List Char) (bound read : List Char) (h : s.length < bound.length) :
    scanString? bound read (s.flatMap escapeChar ++ '"' :: rest) =
      some (String.ofList (read.reverse ++ s), rest) := by
  induction s generalizing bound read with
  | nil =>
      cases bound with
      | nil => cases h
      | cons b bound => simp [scanString?]
  | cons c s ih =>
      cases bound with
      | nil => cases h
      | cons b bound =>
          rw [List.flatMap_cons, List.append_assoc, scanString?_escapeChar,
            ih bound (c :: read) (Nat.lt_of_succ_lt_succ h)]
          simp

/-- Every character is written as something. -/
theorem escapeChar_ne_nil (c : Char) : escapeChar c ≠ [] := by
  unfold escapeChar
  split_ifs <;> exact List.cons_ne_nil _ _

/-- Where each item is written as something, the text is as long as the list at least. -/
theorem length_le_length_flatMap {α β : Type} {f : α → List β} (hf : ∀ a, f a ≠ [])
    (l : List α) : l.length ≤ (l.flatMap f).length := by
  rw [List.length_flatMap, ← List.length_map fun a => (f a).length]
  apply List.length_le_sum_of_one_le
  intro n hn
  obtain ⟨a, -, rfl⟩ := List.mem_map.1 hn
  exact List.length_pos_iff.2 (hf a)

/-- A quoted text is read up to its closing mark. -/
theorem scanString?_quote_append (s : String) (rest : List Char) :
    scanString? (s.toList.flatMap escapeChar ++ '"' :: rest) []
        (s.toList.flatMap escapeChar ++ '"' :: rest) = some (s, rest) := by
  have hlength := length_le_length_flatMap escapeChar_ne_nil s.toList
  rw [scanString?_quote, List.reverse_nil, List.nil_append, String.ofList_toList]
  rw [List.length_append, List.length_cons]
  omega

/-! ## Reading in front of a rest -/

section parts

variable {α : Type} {scanOne : List Char → Option (α × List Char)} {closing : Char}
  {text : α → List Char} {a : α} {items : List α} {w s bound : List Char}

/-- The scanner reads a text as a value, whatever follows that does not go on as a number. -/
def Reads (scan : List Char → Option (α × List Char)) (s : List Char) (a : α) : Prop :=
  ∀ rest, Stops continuesNumber rest → scan (s ++ rest) = some (a, rest)

/-- White space of JSON. -/
def Blanks (w : List Char) : Prop := ∀ c ∈ w, isJsonBlank c = true

/-- White space at the head is skipped. -/
theorem skipJsonBlank_append (hw : Blanks w) : skipJsonBlank (w ++ s) = skipJsonBlank s :=
  List.dropWhile_append_of_pos hw

/-- In front of another character nothing is skipped. -/
theorem skipJsonBlank_cons {c : Char} (h : isJsonBlank c = false) :
    skipJsonBlank (c :: s) = c :: s :=
  List.dropWhile_cons_of_neg (by simp [h])

/-- A mark that ends a list or an object. -/
structure Closes (closing : Char) : Prop where
  not_blank : isJsonBlank closing = false
  stops : continuesNumber closing = false
  ne_comma : closing ≠ ','

/-- A number does not go on behind white space. -/
theorem stops_blanks_append (hw : Blanks w) (h : Stops continuesNumber rest) :
    Stops continuesNumber (w ++ rest) := by
  refine Text.stops_append (fun c hc => ?_) hw h
  simp only [isJsonBlank, Bool.or_eq_true, beq_iff_eq] at hc
  rcases hc with ((rfl | rfl) | rfl) | rfl <;> decide

/-- A number does not go on in front of further items or the end of a list. -/
theorem stops_further (hclosing : Closes closing) (hw : Blanks w) (text : α → List Char)
    (items : List α) (rest : List Char) :
    Stops continuesNumber ((items.flatMap fun a => ',' :: text a) ++ (w ++ closing :: rest)) := by
  cases items with
  | nil =>
      rw [List.flatMap_nil, List.nil_append]
      exact stops_blanks_append hw (stops_cons.2 hclosing.stops)
  | cons a items => exact stops_cons.2 (by decide)

/-- Further items are read up to the mark that ends them. -/
theorem scanFurther?_items (hclosing : Closes closing) (hw : Blanks w)
    (h : ∀ a ∈ items, Reads scanOne (text a) a) (rest : List Char)
    (hbound : items.length < bound.length) :
    scanFurther? closing scanOne bound
        ((items.flatMap fun a => ',' :: text a) ++ (w ++ closing :: rest)) =
      some (items, rest) := by
  induction items generalizing bound with
  | nil =>
      cases bound with
      | nil => cases hbound
      | cons b bound =>
          simp only [List.flatMap_nil, List.nil_append, scanFurther?, skipJsonBlank_append hw,
            skipJsonBlank_cons hclosing.not_blank, if_true]
  | cons a items ih =>
      cases bound with
      | nil => cases hbound
      | cons b bound =>
          obtain ⟨ha, hitems⟩ := List.forall_mem_cons.1 h
          have hfirst := ha _ (stops_further hclosing hw text items rest)
          have hcomma : isJsonBlank ',' = false := by decide
          simp only [List.flatMap_cons, List.cons_append, List.append_assoc, scanFurther?,
            skipJsonBlank_cons hcomma, if_neg hclosing.ne_comma.symm, if_true, hfirst,
            Option.bind_eq_bind, Option.bind_some, ih hitems (Nat.lt_of_succ_lt_succ hbound)]

/-- Parts with commas between them are read up to the closing mark. The scanner of one part has to
refuse the mark, which stands there if there is no part. -/
theorem scanParts?_items (hclosing : Closes closing) (hw : Blanks w)
    (hrefuses : ∀ s, (∀ c ∈ (skipJsonBlank s).head?, c = closing) → scanOne s = none)
    (ha : Reads scanOne (text a) a) (h : ∀ a ∈ items, Reads scanOne (text a) a)
    (rest : List Char) :
    scanParts? closing scanOne
        (text a ++ ((items.flatMap fun a => ',' :: text a) ++ (w ++ closing :: rest))) =
      some (a :: items, rest) := by
  have hfirst := ha _ (stops_further hclosing hw text items rest)
  have hlength : items.length < ((items.flatMap fun a => ',' :: text a) ++
      (w ++ closing :: rest)).length := by
    have hle := length_le_length_flatMap (fun a => List.cons_ne_nil ',' (text a)) items
    simp only [List.length_append, List.length_cons]
    omega
  have hrest := scanFurther?_items hclosing hw h rest hlength
  generalize (items.flatMap fun a => ',' :: text a) ++ (w ++ closing :: rest) = tail at hfirst hrest
  -- The first part has been read, so the closing mark does not stand at its head.
  have hstart : ∃ c r, skipJsonBlank (text a ++ tail) = c :: r ∧ c ≠ closing := by
    by_contra hnone
    have hrefused : scanOne (text a ++ tail) = none := by
      apply hrefuses
      intro c hc
      obtain ⟨r, hr⟩ := List.head?_eq_some_iff.1 hc
      by_contra hne
      exact hnone ⟨c, r, hr, hne⟩
    rw [hrefused] at hfirst
    cases hfirst
  obtain ⟨c, r, hskip, hne⟩ := hstart
  simp only [scanParts?, hskip, if_neg hne, hfirst, hrest, Option.bind_eq_bind, Option.bind_some]

end parts

/-! ## Documents -/

section documents

variable {depth level : Nat} {t : Tree} {s w : List Char}
  {nested : Option (List Char → Option (Tree × List Char))}

/-- A bracket ends a list. -/
theorem closes_list : Closes ']' := ⟨by decide, by decide, by decide⟩

/-- A brace ends an object. -/
theorem closes_object : Closes '\x7d' := ⟨by decide, by decide, by decide⟩

/-- Apart from lists and objects, documents are read alike at every depth. -/
theorem exists_scan?_eq (depth : Nat) : ∃ nested, scan? depth = scanWith? nested := by
  cases depth with
  | zero => exact ⟨none, rfl⟩
  | succ depth => exact ⟨some (scan? depth), rfl⟩

/-- No document begins with the mark that ends a list. -/
theorem scan?_eq_none (h : ∀ c ∈ (skipJsonBlank s).head?, c = ']') : scan? depth s = none := by
  obtain ⟨nested, hscan⟩ := exists_scan?_eq depth
  rw [hscan]
  unfold scanWith?
  cases hs : skipJsonBlank s with
  | nil => rfl
  | cons c r =>
      obtain rfl := h c (by rw [hs]; rfl)
      rfl

/-- No member begins with the mark that ends an object. -/
theorem scanMember?_eq_none (h : ∀ c ∈ (skipJsonBlank s).head?, c = '\x7d') :
    scanMember? (scan? depth) s = none := by
  unfold scanMember?
  cases hs : skipJsonBlank s with
  | nil => rfl
  | cons c r =>
      obtain rfl := h c (by rw [hs]; rfl)
      rfl

/-- A text may be indented. -/
theorem Reads.blanks_append (h : Reads (scan? depth) s t) (hw : Blanks w) :
    Reads (scan? depth) (w ++ s) t := by
  intro rest hrest
  obtain ⟨nested, hscan⟩ := exists_scan?_eq depth
  have hread := h rest hrest
  rw [hscan] at hread ⊢
  unfold scanWith? at hread ⊢
  rw [List.append_assoc, skipJsonBlank_append hw]
  exact hread

/-! ### Scalars -/

/-- The word for null is read. -/
theorem reads_null : Reads (scan? depth) ['n', 'u', 'l', 'l'] .null := by
  intro rest _
  obtain ⟨nested, hscan⟩ := exists_scan?_eq depth
  rw [hscan]
  rfl

/-- The words for truth values are read. -/
theorem reads_bool (b : Bool) : Reads (scan? depth) (boolChars b) (.bool b) := by
  intro rest _
  obtain ⟨nested, hscan⟩ := exists_scan?_eq depth
  rw [hscan]
  cases b with
  | true => rfl
  | false => rfl

/-- A quoted text stands between quotation marks. -/
theorem quote_append (s : String) (rest : List Char) :
    quote s ++ rest = '"' :: (s.toList.flatMap escapeChar ++ '"' :: rest) := by
  rw [quote, List.cons_append, List.append_assoc, List.singleton_append]

/-- A quoted text is read back. -/
theorem reads_text (s : String) : Reads (scan? depth) (quote s) (.text s) := by
  intro rest _
  obtain ⟨nested, hscan⟩ := exists_scan?_eq depth
  have hmark : isJsonBlank '"' = false := by decide
  rw [hscan, quote_append]
  simp only [scanWith?, skipJsonBlank_cons hmark, scanString?_quote_append, Option.bind_eq_bind,
    Option.bind_some]

/-- A text that begins like a number is read as a number. -/
theorem scanWith?_of_head {c : Char} (h : c = '-' ∨ c.isDigit = true) :
    scanWith? nested (c :: s) = scanNumber? (c :: s) := by
  have hblank : isJsonBlank c = false := by
    by_contra hblank
    simp only [isJsonBlank, Bool.not_eq_false, Bool.or_eq_true, beq_iff_eq] at hblank
    rcases hblank with ((rfl | rfl) | rfl) | rfl <;> revert h <;> decide
  unfold scanWith?
  rw [skipJsonBlank_cons hblank]
  split
  case h_7 => rfl
  all_goals
    rename_i heq
    cases heq
    exact absurd h (by decide)

/-- The text of a number is read as its tree. -/
theorem reads_of_numberText {text : NumberText} (h : text.Regular) (ht : text.tree? = some t) :
    Reads (scan? depth) text.chars t := by
  intro rest hrest
  obtain ⟨nested, hscan⟩ := exists_scan?_eq depth
  have hhead : ∃ c s, text.chars = c :: s ∧ (c = '-' ∨ c.isDigit = true) := by
    cases hnegative : text.negative with
    | true => exact ⟨'-', _, by rw [NumberText.chars, hnegative]; rfl, .inl rfl⟩
    | false =>
        obtain ⟨c, s, hs⟩ := List.exists_cons_of_ne_nil h.whole.ne_nil
        refine ⟨c, _, by rw [NumberText.chars, hnegative, hs]; rfl, .inr ?_⟩
        exact h.whole.isDigit c (by rw [hs]; exact List.mem_cons_self)
  obtain ⟨c, s, hs, hc⟩ := hhead
  have hread := scanNumber?_chars h hrest
  rw [ht, Option.map_some] at hread
  rw [hscan, ← hread, hs]
  exact scanWith?_of_head hc

/-- An integer is read back. -/
theorem reads_integer {i : Int} (h : FitsInteger i) :
    Reads (scan? depth) (integerChars i) (.integer i) := by
  obtain ⟨text, hregular, hchars, htree⟩ := exists_numberText_integerChars h
  rw [hchars]
  exact reads_of_numberText hregular htree

/-- A finite number is read back. -/
theorem reads_real {x : Binary64} (h : x.isFinite = true) :
    Reads (scan? depth) (realChars x) (.real x) := by
  obtain ⟨text, hregular, hchars, htree⟩ := exists_numberText_rawChars h
  rw [realChars, if_pos h, hchars]
  exact reads_of_numberText hregular htree

/-! ### Lists and objects -/

/-- A list is read if its items are. -/
theorem reads_list {text : Tree → List Char} {items : List Tree} (hw : Blanks w)
    (h : ∀ item ∈ t :: items, Reads (scan? depth) (text item) item) :
    Reads (scan? (depth + 1))
      ('[' :: (text t ++ ((items.flatMap fun item => ',' :: text item) ++ (w ++ [']']))))
      (.list (t :: items)) := by
  intro rest _
  obtain ⟨hfirst, hitems⟩ := List.forall_mem_cons.1 h
  have hparts := scanParts?_items closes_list hw (fun _ => scan?_eq_none) hfirst hitems rest
  have hmark : isJsonBlank '[' = false := by decide
  rw [List.cons_append, List.append_assoc, List.append_assoc, List.append_assoc,
    List.singleton_append]
  simp only [scan?, scanWith?, skipJsonBlank_cons hmark, hparts, Option.bind_eq_bind,
    Option.bind_some]

/-- The empty list is read. -/
theorem reads_nil_list : Reads (scan? (depth + 1)) ['[', ']'] (.list []) := fun _ _ => rfl

/-- The empty object is read. -/
theorem reads_nil_object : Reads (scan? (depth + 1)) ['\x7b', '\x7d'] (.object []) :=
  fun _ _ => rfl

/-- A member is read if its tree is. -/
theorem reads_member (hw : Blanks w) (h : Reads (scan? depth) s t) (name : String) :
    Reads (scanMember? (scan? depth)) (w ++ (quote name ++ ':' :: s)) (name, t) := by
  intro rest hrest
  have hquote : isJsonBlank '"' = false := by decide
  have hcolon : isJsonBlank ':' = false := by decide
  rw [List.append_assoc, List.append_assoc, quote_append, List.cons_append]
  simp only [scanMember?, skipJsonBlank_append hw, skipJsonBlank_cons hquote,
    scanString?_quote_append, skipJsonBlank_cons hcolon, h rest hrest, Option.bind_eq_bind,
    Option.bind_some]

/-- An object is read if its members are. -/
theorem reads_object {text : String × Tree → List Char} {m : String × Tree}
    {members : List (String × Tree)} (hw : Blanks w)
    (h : ∀ n ∈ m :: members, Reads (scanMember? (scan? depth)) (text n) n) :
    Reads (scan? (depth + 1))
      ('\x7b' :: (text m ++ ((members.flatMap fun m => ',' :: text m) ++ (w ++ ['\x7d']))))
      (.object (m :: members)) := by
  intro rest _
  obtain ⟨hfirst, hmembers⟩ := List.forall_mem_cons.1 h
  have hparts := scanParts?_items closes_object hw (fun _ => scanMember?_eq_none) hfirst hmembers
    rest
  have hmark : isJsonBlank '\x7b' = false := by decide
  rw [List.cons_append, List.append_assoc, List.append_assoc, List.append_assoc,
    List.singleton_append]
  simp only [scan?, scanWith?, skipJsonBlank_cons hmark, hparts, Option.bind_eq_bind,
    Option.bind_some]

/-! ### Layouts -/

/-- Documents that the reader accepts at a depth: integers have 64 bits, numbers are finite, and
lists and objects are nested at most so deep. -/
inductive Writable : Nat → Tree → Prop where
  | null {depth : Nat} : Writable depth .null
  | bool {depth : Nat} (b : Bool) : Writable depth (.bool b)
  | integer {depth : Nat} {i : Int} (h : FitsInteger i) : Writable depth (.integer i)
  | real {depth : Nat} {x : Binary64} (h : x.isFinite = true) : Writable depth (.real x)
  | text {depth : Nat} (s : String) : Writable depth (.text s)
  | list {depth : Nat} {items : List Tree} (h : ∀ t ∈ items, Writable depth t) :
      Writable (depth + 1) (.list items)
  | object {depth : Nat} {members : List (String × Tree)}
      (h : ∀ m ∈ members, Writable depth m.2) : Writable (depth + 1) (.object members)

/-- Behind the first item the others follow commas. -/
theorem compactItems_cons (t : Tree) (items : List Tree) :
    compactItems (t :: items) = t.compact ++ items.flatMap fun t => ',' :: t.compact := by
  induction items generalizing t with
  | nil => simp [compactItems]
  | cons u items ih => rw [compactItems, ih, List.flatMap_cons, List.cons_append]; simp

/-- The compact text of a member. -/
def compactMember (m : String × Tree) : List Char := quote m.1 ++ ':' :: m.2.compact

/-- Behind the first member the others follow commas. -/
theorem compactMembers_cons (m : String × Tree) (members : List (String × Tree)) :
    compactMembers (m :: members) =
      compactMember m ++ members.flatMap fun m => ',' :: compactMember m := by
  induction members generalizing m with
  | nil => simp [compactMembers, compactMember]
  | cons n members ih =>
      have hne : n :: members ≠ [] := List.cons_ne_nil n members
      rw [compactMembers, ih, List.flatMap_cons, compactMember]
      · simp [compactMember]
      · exact hne

/-- The compact text reads back. -/
theorem Writable.reads_compact (h : Writable depth t) : Reads (scan? depth) t.compact t := by
  induction h with
  | null => exact reads_null
  | bool b => exact reads_bool b
  | integer h => exact reads_integer h
  | real h => exact reads_real h
  | text s => exact reads_text s
  | @list depth items _ ih =>
      cases items with
      | nil => exact reads_nil_list
      | cons t items =>
          rw [compact, compactItems_cons, List.append_assoc]
          exact reads_list (w := []) (by simp [Blanks]) ih
  | @object depth members _ ih =>
      cases members with
      | nil => exact reads_nil_object
      | cons m members =>
          rw [compact, compactMembers_cons, List.append_assoc]
          exact reads_object (w := []) (by simp [Blanks]) fun n hn =>
            reads_member (w := []) (by simp [Blanks]) (ih n hn) n.1

/-- A new line with its indentation is white space. -/
theorem blanks_newLine (level : Nat) : Blanks (newLine level) := by
  intro c hc
  rcases List.mem_cons.1 hc with rfl | hc
  · decide
  · rw [List.eq_of_mem_replicate hc]
    decide

/-- The indented text of an item. -/
def prettyItem (level : Nat) (t : Tree) : List Char := newLine (level + 1) ++ prettyAt (level + 1) t

/-- The indented text of a member. -/
def prettyMember (level : Nat) (m : String × Tree) : List Char :=
  newLine (level + 1) ++ (quote m.1 ++ ':' :: (' ' :: prettyAt (level + 1) m.2))

/-- Further items follow commas, each on its line. -/
theorem prettyItems_eq (level : Nat) (items : List Tree) :
    prettyItems level items = items.flatMap fun t => ',' :: prettyItem level t := by
  induction items with
  | nil => simp [prettyItems]
  | cons t items ih => rw [prettyItems, ih, List.flatMap_cons, prettyItem, List.cons_append]

/-- Further members follow commas, each on its line. -/
theorem prettyMembers_eq (level : Nat) (members : List (String × Tree)) :
    prettyMembers level members = members.flatMap fun m => ',' :: prettyMember level m := by
  induction members with
  | nil => simp [prettyMembers]
  | cons m members ih =>
      rw [prettyMembers, ih, List.flatMap_cons, prettyMember]
      simp

/-- The indented text reads back at every level. -/
theorem Writable.reads_prettyAt (h : Writable depth t) (level : Nat) :
    Reads (scan? depth) (prettyAt level t) t := by
  induction h generalizing level with
  | null => exact reads_null
  | bool b => exact reads_bool b
  | integer h => exact reads_integer h
  | real h => exact reads_real h
  | text s => exact reads_text s
  | @list depth items _ ih =>
      cases items with
      | nil => exact reads_nil_list
      | cons t items =>
          have hread := reads_list (blanks_newLine level) fun t ht =>
            (ih t ht (level + 1)).blanks_append (blanks_newLine (level + 1))
          rw [prettyAt, prettyItems_eq]
          simpa only [prettyItem, List.append_assoc] using hread
  | @object depth members _ ih =>
      cases members with
      | nil => exact reads_nil_object
      | cons m members =>
          have hread := reads_object (blanks_newLine level) fun n hn =>
            reads_member (blanks_newLine (level + 1))
              ((ih n hn (level + 1)).blanks_append (w := [' ']) (by simp [Blanks, isJsonBlank])) n.1
          rw [prettyAt, prettyMembers_eq]
          simpa only [prettyMember, List.append_assoc, List.cons_append, List.nil_append]
            using hread

/-- A text that is read to its end is read as a whole. -/
theorem ofJsonChars?_of_reads (h : Reads (scan? maxDepth) s t) : ofJsonChars? s = some t := by
  have hread := h [] stops_nil
  rw [List.append_nil] at hread
  rw [ofJsonChars?, hread]
  rfl

/-- **Reading undoes compact writing.** -/
theorem ofJson?_compactText (h : Writable maxDepth t) : ofJson? t.compactText = some t := by
  rw [ofJson?, compactText, String.toList_ofList]
  exact ofJsonChars?_of_reads h.reads_compact

/-- **Reading undoes indented writing.** -/
theorem ofJson?_prettyText (h : Writable maxDepth t) : ofJson? t.prettyText = some t := by
  rw [ofJson?, prettyText, String.toList_ofList]
  exact ofJsonChars?_of_reads (h.reads_prettyAt 0)

end documents

end Tree

end Dashboard
