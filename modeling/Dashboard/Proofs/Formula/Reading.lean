import Dashboard.Proofs.Binary64.Order
import Dashboard.Proofs.Formula.Bytes
import Dashboard.Proofs.Formula.Grammar
import Mathlib.Data.List.DropRight

/-!
# Formula.Reading · the readers accept exactly the grammar

* **`Denotes part permits s v`** says that `s` is a text of a part of speech with value `v`, maybe
  with white space after it, in which at most `permits` parentheses and minus signs are open.
* **Soundness** (`factor_sound`, `chain_sound`): what a reader has taken from its text denotes the
  value it gives. A chain keeps the invariant that the text taken so far denotes the value so far.
* **Completeness** (`Derives.reads`): on a derived text, in front of a rest that cannot continue
  it, a reader gives the value of the tree and that rest.
* **`evaluate_eq_ok_iff`** puts the two together for whole texts.
-/

namespace Dashboard

namespace Formula

open Text

/-! ## Characters and operators -/

/-- Literals consist of digits and points. -/
theorem isLiteralChar_iff {c : Char} : isLiteralChar c = true ↔ c.isDigit = true ∨ c = '.' := by
  simp [isLiteralChar]

/-- White space belongs to no literal. -/
theorem isLiteralChar_of_isSpace {c : Char} (h : isSpace c = true) : isLiteralChar c = false := by
  simp only [isSpace, Bool.or_eq_true, beq_iff_eq] at h
  rcases h with (((rfl | rfl) | rfl) | rfl) | rfl <;> decide

/-- Operators are no white space. -/
theorem isSpace_symbol (op : Operator) : isSpace op.symbol = false := by
  cases op <;> decide

/-- Operators belong to no literal. -/
theorem isLiteralChar_symbol (op : Operator) : isLiteralChar op.symbol = false := by
  cases op <;> decide

/-- The operators that the readers chain for a part of speech. -/
def Part.operator? : Part → Char → Option (Binary64 → Binary64 → Binary64)
  | .factor, _ => none
  | .term, c => productOperator? c
  | .expression, c => sumOperator? c

/-- The symbol of an operator is read as the operator. -/
theorem operator?_symbol (op : Operator) : op.part.operator? op.symbol = some op.apply := by
  have hdiv : quotient = Operator.div.apply := by
    funext x y
    simp only [quotient, Operator.apply, Binary64.same_zero]
  have hrem : remainder = Operator.rem.apply := by
    funext x y
    simp only [remainder, Operator.apply, Binary64.same_zero]
  cases op with
  | add => rfl
  | sub => rfl
  | mul => rfl
  | div => rw [← hdiv]; rfl
  | rem => rw [← hrem]; rfl

/-- What is read as an operator is the symbol of one. -/
theorem exists_operator {part : Part} {c : Char} {f : Binary64 → Binary64 → Binary64}
    (h : part.operator? c = some f) :
    ∃ op : Operator, op.part = part ∧ op.symbol = c ∧ op.apply = f := by
  have of_symbol : ∀ op : Operator, op.part = part → op.symbol = c →
      ∃ op : Operator, op.part = part ∧ op.symbol = c ∧ op.apply = f := by
    rintro op rfl rfl
    rw [operator?_symbol] at h
    exact ⟨op, rfl, rfl, Option.some.inj h⟩
  cases part with
  | factor => cases h
  | term =>
      simp only [Part.operator?, productOperator?] at h
      split_ifs at h with h₁ h₂ h₃
      · exact of_symbol .mul rfl h₁.symm
      · exact of_symbol .div rfl h₂.symm
      · exact of_symbol .rem rfl h₃.symm
  | expression =>
      simp only [Part.operator?, sumOperator?] at h
      split_ifs at h with h₁ h₂
      · exact of_symbol .add rfl h₁.symm
      · exact of_symbol .sub rfl h₂.symm

/-! ## Soundness -/

/-- The operands that a part of speech chains. -/
def Part.operand : Part → Part
  | .factor => .factor
  | .term => .factor
  | .expression => .term

/-- The text `s` is a text of `part` with value `v`, maybe with white space after it, in which at
most `permits` parentheses and minus signs are open at a time. -/
def Denotes (part : Part) (permits : Nat) (s : List Char) (v : Binary64) : Prop :=
  ∃ t w e, s = t ++ w ∧ Spaces w ∧ Derives Literal part t e ∧ e.depth ≤ permits ∧
    e.eval literalValue = v

/-- What the reader takes from a text denotes the value that it gives. -/
def Sound (part : Part) (permits : Nat) (read : List Char → Outcome) : Prop :=
  ∀ s v rest, read s = .ok (v, rest) → ∃ t, s = t ++ rest ∧ Denotes part permits t v

section sound

variable {part : Part} {permits : Nat} {s t w : List Char} {x y v : Binary64}

/-- White space behind white space is white space. -/
theorem spaces_append (hw : Spaces w) (ht : Spaces t) : Spaces (w ++ t) := by
  intro c hc
  rcases List.mem_append.1 hc with hc | hc
  · exact hw c hc
  · exact ht c hc

/-- A text begins with the white space that is skipped. -/
theorem exists_spaces (s : List Char) : ∃ w, Spaces w ∧ s = w ++ skipSpace s :=
  ⟨s.takeWhile isSpace, fun _ hc => List.mem_takeWhile_imp hc,
    List.takeWhile_append_dropWhile.symm⟩

/-- White space behind a text does not change its value. -/
theorem Denotes.append_spaces (h : Denotes part permits s v) (hw : Spaces w) :
    Denotes part permits (s ++ w) v := by
  obtain ⟨t, u, e, rfl, hu, he, hdepth, hval⟩ := h
  exact ⟨t, u ++ w, e, by rw [List.append_assoc], spaces_append hu hw, he, hdepth, hval⟩

/-- A single operand is a chain. -/
theorem Denotes.of_operand (h : Denotes part.operand permits s v) : Denotes part permits s v := by
  obtain ⟨t, w, e, hs, hw, he, hrest⟩ := h
  cases part with
  | factor => exact ⟨t, w, e, hs, hw, he, hrest⟩
  | term => exact ⟨t, w, e, hs, hw, .factor he, hrest⟩
  | expression => exact ⟨t, w, e, hs, hw, .term he, hrest⟩

/-- A chain followed by an operator and an operand is a longer chain. -/
theorem Denotes.operation {op : Operator} (hs : Denotes op.part permits s x)
    (ht : Denotes op.part.operand permits t y) :
    Denotes op.part permits (s ++ op.symbol :: t) (op.apply x y) := by
  obtain ⟨s, w, a, rfl, hw, ha, hda, rfl⟩ := hs
  obtain ⟨t, u, b, rfl, hu, hb, hdb, rfl⟩ := ht
  refine ⟨s ++ (w ++ op.symbol :: t), u, .binary op a b, by simp, hu, ?_, max_le hda hdb, rfl⟩
  cases hop : op.part with
  | factor => cases op <;> cases hop
  | term =>
      rw [hop] at ha hb
      exact .product ha hw hop hb
  | expression =>
      rw [hop] at ha hb
      exact .sum ha hw hop hb

/-- Parentheses keep the value and open one more. -/
theorem Denotes.group (hw : Spaces w) (h : Denotes .expression permits s v) :
    Denotes .factor (permits + 1) (w ++ '(' :: (s ++ [')'])) v := by
  obtain ⟨t, u, e, rfl, hu, he, hdepth, hval⟩ := h
  refine ⟨_, [], .group e, ?_, nofun, .group hw he hu, Nat.succ_le_succ hdepth, hval⟩
  simp

/-- A minus sign negates the value and opens one more. -/
theorem Denotes.negated (hw : Spaces w) (h : Denotes .factor permits s v) :
    Denotes .factor (permits + 1) (w ++ '-' :: s) (-v) := by
  obtain ⟨t, u, e, rfl, hu, he, hdepth, rfl⟩ := h
  exact ⟨w ++ '-' :: t, u, .negated e, by simp, hu, .negated hw he, Nat.succ_le_succ hdepth, rfl⟩

/-- A literal denotes the number that it is read as. -/
theorem Denotes.literal (hw : Spaces w) (h : Decimal.Plain s) :
    Denotes .factor permits (w ++ s) (literalValue s) :=
  ⟨w ++ s, [], .leaf s, by simp, nofun, .leaf hw ⟨rfl, h⟩, Nat.zero_le _, rfl⟩

/-- The loop of a chain keeps the invariant that the text `taken` so far denotes the value so
far. -/
theorem chainFrom_sound {operand : List Char → Outcome} (hop : Sound part.operand permits operand)
    {bound taken s rest : List Char} (hx : Denotes part permits taken x)
    (h : chainFrom part.operator? operand bound x s = .ok (v, rest)) :
    ∃ t, s = t ++ rest ∧ Denotes part permits (taken ++ t) v := by
  induction bound generalizing taken s x with
  | nil =>
      obtain ⟨rfl, rfl⟩ : x = v ∧ s = rest := by simpa [chainFrom] using h
      exact ⟨[], rfl, by rwa [List.append_nil]⟩
  | cons b bound ih =>
      obtain ⟨w, hw, hs⟩ := exists_spaces s
      have hspace := hx.append_spaces hw
      unfold chainFrom at h
      cases hskip : skipSpace s with
      | nil =>
          rw [hskip] at h hs
          obtain ⟨rfl, rfl⟩ : x = v ∧ [] = rest := by simpa using h
          exact ⟨w, hs, hspace⟩
      | cons c after =>
          rw [hskip] at h hs
          cases hc : part.operator? c with
          | none =>
              obtain ⟨rfl, rfl⟩ : x = v ∧ c :: after = rest := by simpa [hc] using h
              exact ⟨w, hs, hspace⟩
          | some f =>
              obtain ⟨op, rfl, rfl, rfl⟩ := exists_operator hc
              cases hread : operand after with
              | error fault =>
                  simp only [hc, hread] at h
                  cases h
              | ok result =>
                  obtain ⟨y, left⟩ := result
                  simp only [hc, hread] at h
                  obtain ⟨t, rfl, ht⟩ := hop after y left hread
                  obtain ⟨u, rfl, hu⟩ := ih (hspace.operation ht) h
                  exact ⟨w ++ op.symbol :: (t ++ u), by simpa using hs, by simpa using hu⟩

/-- A chain takes what it denotes if its operands do. -/
theorem chain_sound {operand : List Char → Outcome} (hop : Sound part.operand permits operand) :
    Sound part permits (chain part.operator? operand) := by
  intro s v rest h
  unfold chain at h
  cases hread : operand s with
  | error fault =>
      simp only [hread] at h
      cases h
  | ok result =>
      obtain ⟨x, left⟩ := result
      simp only [hread] at h
      obtain ⟨t, rfl, ht⟩ := hop s x left hread
      obtain ⟨u, rfl, hu⟩ := chainFrom_sound hop ht.of_operand h
      exact ⟨t ++ u, by rw [List.append_assoc], hu⟩

/-- An expression takes what it denotes if its factors do. -/
theorem expressionOf_sound {read : List Char → Outcome} (h : Sound .factor permits read) :
    Sound .expression permits (expressionOf read) :=
  @chain_sound .expression permits _ (@chain_sound .term permits read h)

/-- A literal is read as the longest run of digits and points. -/
theorem literal_sound {rest : List Char} (h : literal s = .ok (v, rest)) :
    ∃ t, s = t ++ rest ∧ Decimal.Plain t ∧ literalValue t = v := by
  unfold literal at h
  dsimp only at h
  have hchars : ∀ c ∈ s.takeWhile isLiteralChar, c.isDigit = true ∨ c = '.' :=
    fun c hc => isLiteralChar_iff.1 (List.mem_takeWhile_imp hc)
  cases hd : Decimal.ofChars? (s.takeWhile isLiteralChar) with
  | none =>
      simp only [hd] at h
      cases h
  | some d =>
      simp only [hd] at h
      obtain ⟨rfl, rfl⟩ : d.toBinary64 = v ∧ s.dropWhile isLiteralChar = rest := by simpa using h
      obtain ⟨hplain, rfl⟩ := (Decimal.ofChars?_eq_some_iff hchars).1 hd
      exact ⟨_, List.takeWhile_append_dropWhile.symm, hplain, rfl⟩

/-- What a factor that could be read starts with: a parenthesis, a minus sign or a literal. -/
theorem factorOf_eq_ok {inner : Option (List Char → Outcome)} {rest : List Char}
    (h : factorOf inner s = .ok (v, rest)) :
    (∃ read after left, skipSpace s = '(' :: after ∧ inner = some read ∧
        expressionOf read after = .ok (v, left) ∧ skipSpace left = ')' :: rest) ∨
      (∃ read after x, skipSpace s = '-' :: after ∧ inner = some read ∧
        read after = .ok (x, rest) ∧ -x = v) ∨
      literal (skipSpace s) = .ok (v, rest) := by
  unfold factorOf at h
  cases hskip : skipSpace s with
  | nil =>
      rw [hskip] at h
      cases h
  | cons c after =>
      rw [hskip] at h
      dsimp only at h
      split_ifs at h with hopen hminus hlit
      · subst hopen
        cases inner with
        | none => cases h
        | some read =>
            left
            cases hread : expressionOf read after with
            | error fault =>
                simp only [hread] at h
                cases h
            | ok result =>
                obtain ⟨x, left⟩ := result
                simp only [hread] at h
                split at h
                · rename_i tail hclose
                  obtain ⟨rfl, rfl⟩ : x = v ∧ tail = rest := by simpa using h
                  exact ⟨read, after, left, rfl, rfl, hread, hclose⟩
                · cases h
      · subst hminus
        cases inner with
        | none => cases h
        | some read =>
            right
            left
            cases hread : read after with
            | error fault =>
                simp only [hread] at h
                cases h
            | ok result =>
                obtain ⟨x, left⟩ := result
                simp only [hread] at h
                obtain ⟨rfl, rfl⟩ : -x = v ∧ left = rest := by simpa using h
                exact ⟨read, after, x, rfl, rfl, hread, rfl⟩
      · exact .inr (.inr h)

/-- A factor is sound if the reader of the factors inside it is sound for one permit less. -/
theorem factorOf_sound {inner : Option (List Char → Outcome)}
    (h : ∀ read ∈ inner, ∃ n, permits = n + 1 ∧ Sound .factor n read) :
    Sound .factor permits (factorOf inner) := by
  intro s v rest hread
  obtain ⟨w, hw, hs⟩ := exists_spaces s
  rcases factorOf_eq_ok hread with ⟨read, after, left, hskip, rfl, hexpr, hclose⟩ |
    ⟨read, after, x, hskip, rfl, hinner, rfl⟩ | hlit
  · obtain ⟨n, rfl, hn⟩ := h read rfl
    obtain ⟨t, rfl, ht⟩ := expressionOf_sound hn after v left hexpr
    obtain ⟨u, hu, hleft⟩ := exists_spaces left
    refine ⟨_, ?_, .group hw (ht.append_spaces hu)⟩
    rw [hs, hskip, hleft, hclose]
    simp
  · obtain ⟨n, rfl, hn⟩ := h read rfl
    obtain ⟨t, rfl, ht⟩ := hn after x rest hinner
    refine ⟨_, ?_, ht.negated hw⟩
    rw [hs, hskip, List.append_assoc, List.cons_append]
  · obtain ⟨t, ht, hplain, rfl⟩ := literal_sound hlit
    refine ⟨_, ?_, .literal hw hplain⟩
    rw [hs, ht, List.append_assoc]

/-- A factor takes what it denotes. -/
theorem factor_sound (permits : Nat) : Sound .factor permits (factor permits) := by
  induction permits with
  | zero => exact factorOf_sound nofun
  | succ permits ih =>
      apply factorOf_sound
      rintro read ⟨⟩
      exact ⟨permits, rfl, ih⟩

end sound

/-! ## Completeness -/

section complete

variable {permits : Nat} {s w t rest : List Char} {v : Binary64}

/-- White space at the head is skipped. -/
theorem skipSpace_append (hw : Spaces w) : skipSpace (w ++ s) = skipSpace s :=
  List.dropWhile_append_of_pos hw

/-- In front of another character nothing is skipped. -/
theorem skipSpace_cons {c : Char} (hc : isSpace c = false) : skipSpace (c :: s) = c :: s := by
  simp [skipSpace, hc]

/-- White space is skipped once. -/
theorem skipSpace_skipSpace (s : List Char) : skipSpace (skipSpace s) = skipSpace s :=
  List.dropWhile_idempotent isSpace s

/-- Skipping makes a text no longer. -/
theorem length_skipSpace_le (s : List Char) : (skipSpace s).length ≤ s.length :=
  (List.dropWhile_sublist isSpace).length_le

/-- White space and an operator end a literal. -/
theorem stops_symbol (op : Operator) (hw : Spaces w) :
    Stops isLiteralChar (w ++ op.symbol :: t) :=
  stops_append (fun _ => isLiteralChar_of_isSpace) hw (stops_cons.2 (isLiteralChar_symbol op))

/-- After the white space of `rest` there is no operator of a part of speech. -/
def NoOperator (part : Part) (rest : List Char) : Prop :=
  Stops (fun c => (part.operator? c).isSome) (skipSpace rest)

/-- White space does not hide an operator. -/
theorem noOperator_append {part : Part} (hw : Spaces w) :
    NoOperator part (w ++ rest) ↔ NoOperator part rest := by
  rw [NoOperator, skipSpace_append hw, NoOperator]

/-- Another character is no operator. -/
theorem noOperator_cons {part : Part} {c : Char} (hspace : isSpace c = false)
    (hc : part.operator? c = none) : NoOperator part (c :: rest) := by
  rw [NoOperator, skipSpace_cons hspace, stops_cons, hc]
  rfl

/-- A chain ends where there is no operator. -/
theorem chainFrom_of_noOperator {part : Part} {operand : List Char → Outcome}
    {bound : List Char} (h : NoOperator part rest) (hbound : rest.length ≤ bound.length) :
    chainFrom part.operator? operand bound v rest = .ok (v, skipSpace rest) := by
  cases bound with
  | nil =>
      obtain rfl : rest = [] := List.length_eq_zero_iff.1 (Nat.le_zero.1 hbound)
      rfl
  | cons b bound =>
      unfold chainFrom
      cases hskip : skipSpace rest with
      | nil => rfl
      | cons c after =>
          rw [NoOperator, hskip, stops_cons] at h
          have hc : part.operator? c = none := by simpa using h
          simp only [hc]

/-- A chain goes on over an operator and its right operand. -/
theorem exists_chainFrom_operation {op : Operator} {operand : List Char → Outcome}
    {bound after left : List Char} {x y : Binary64} (hskip : skipSpace s = op.symbol :: after)
    (hbound : s.length ≤ bound.length) (hread : operand after = .ok (y, left))
    (hleft : left.length ≤ after.length) :
    ∃ bound', left.length ≤ bound'.length ∧
      chainFrom op.part.operator? operand bound x s =
        chainFrom op.part.operator? operand bound' (op.apply x y) left := by
  have hlength := length_skipSpace_le s
  rw [hskip, List.length_cons] at hlength
  cases bound with
  | nil =>
      rw [List.length_nil] at hbound
      omega
  | cons b bound =>
      rw [List.length_cons] at hbound
      refine ⟨bound, by omega, ?_⟩
      rw [chainFrom, hskip]
      simp only [operator?_symbol, hread]

/-- What a reader does with a derived text in front of a rest. The readers of chains are given in
the middle of their loop, where the next operator may still follow. -/
def Reads (permits : Nat) (s : List Char) (v : Binary64) : Part → Prop
  | .factor => ∀ rest, Stops isLiteralChar rest → factor permits (s ++ rest) = .ok (v, rest)
  | .term => ∀ rest, Stops isLiteralChar rest → ∃ bound, rest.length ≤ bound.length ∧
      chain productOperator? (factor permits) (s ++ rest) =
        chainFrom productOperator? (factor permits) bound v rest
  | .expression => ∀ rest, Stops isLiteralChar rest → NoOperator .term rest →
      ∃ bound, (skipSpace rest).length ≤ bound.length ∧
        expressionOf (factor permits) (s ++ rest) =
          chainFrom sumOperator? (chain productOperator? (factor permits)) bound v (skipSpace rest)

/-- A whole term is read if no product goes on behind it. -/
theorem Reads.term (h : Reads permits s v .term) (hstop : Stops isLiteralChar rest)
    (hrest : NoOperator .term rest) :
    chain productOperator? (factor permits) (s ++ rest) = .ok (v, skipSpace rest) := by
  obtain ⟨bound, hbound, hchain⟩ := h rest hstop
  rw [hchain]
  exact @chainFrom_of_noOperator rest v .term _ bound hrest hbound

/-- A whole expression is read if no operator follows it. -/
theorem Reads.expression (h : Reads permits s v .expression) (hstop : Stops isLiteralChar rest)
    (hterm : NoOperator .term rest) (hsum : NoOperator .expression rest) :
    expressionOf (factor permits) (s ++ rest) = .ok (v, skipSpace rest) := by
  obtain ⟨bound, hbound, hchain⟩ := h rest hstop hterm
  have hskip : NoOperator .expression (skipSpace rest) := by
    rw [NoOperator, skipSpace_skipSpace]
    exact hsum
  rw [hchain]
  have hdone := @chainFrom_of_noOperator (skipSpace rest) v .expression
    (chain productOperator? (factor permits)) bound hskip hbound
  rw [skipSpace_skipSpace] at hdone
  exact hdone

/-- A factor without permits may open nothing, and one with permits opens factors with one less. -/
theorem factor_eq (permits : Nat) : factor permits =
    factorOf (match permits with | 0 => none | n + 1 => some (factor n)) := by
  cases permits <;> rfl

/-- A literal is read as far as digits and points go. -/
theorem literal_append (h : Decimal.Plain s) (hrest : Stops isLiteralChar rest) :
    literal (s ++ rest) = .ok (literalValue s, rest) := by
  have hlit : ∀ c ∈ s, isLiteralChar c = true := fun c hc => isLiteralChar_iff.2 (h.chars c hc)
  have hd : Decimal.ofChars? s = some (Decimal.ofPlain s) :=
    (Decimal.ofChars?_eq_some_iff h.chars).2 ⟨h, rfl⟩
  simp only [literal, takeWhile_append_of_stops hlit hrest, dropWhile_append_of_stops hlit hrest,
    hd, literalValue]

/-- A factor that is a literal is read whole. -/
theorem reads_leaf (hw : Spaces w) (h : Decimal.Plain s) :
    Reads permits (w ++ s) (literalValue s) .factor := by
  intro rest hrest
  obtain ⟨d, hd, -⟩ := h.digit
  obtain ⟨c, t, rfl⟩ := List.exists_cons_of_ne_nil (List.ne_nil_of_mem hd)
  have hc : isLiteralChar c = true := isLiteralChar_iff.2 (h.chars c List.mem_cons_self)
  have hspace : isSpace c = false := by
    by_contra hspace
    rw [isLiteralChar_of_isSpace (by simpa using hspace)] at hc
    cases hc
  have hopen : c ≠ '(' := by
    rintro rfl
    exact absurd hc (by decide)
  have hminus : c ≠ '-' := by
    rintro rfl
    exact absurd hc (by decide)
  have hskip : skipSpace (w ++ c :: t ++ rest) = c :: (t ++ rest) := by
    rw [List.append_assoc, skipSpace_append hw, List.cons_append, skipSpace_cons hspace]
  have hread : literal (c :: (t ++ rest)) = .ok (literalValue (c :: t), rest) :=
    literal_append h hrest
  rw [factor_eq, factorOf, hskip]
  simp only [if_neg hopen, if_neg hminus, if_pos hc, hread]

/-- A factor in parentheses is read whole. -/
theorem reads_group {u : List Char} (hw : Spaces w) (hu : Spaces u)
    (h : Reads permits s v .expression) :
    Reads (permits + 1) (w ++ '(' :: (s ++ (u ++ [')']))) v .factor := by
  intro rest _
  have hskip : skipSpace (w ++ '(' :: (s ++ (u ++ [')'])) ++ rest) =
      '(' :: (s ++ (u ++ ')' :: rest)) := by
    rw [List.append_assoc, skipSpace_append hw]
    simp [skipSpace_cons (show isSpace '(' = false by decide)]
  have hclose : skipSpace (u ++ ')' :: rest) = ')' :: rest := by
    rw [skipSpace_append hu, skipSpace_cons (by decide)]
  have hstop : Stops isLiteralChar (u ++ ')' :: rest) :=
    stops_append (fun _ => isLiteralChar_of_isSpace) hu (stops_cons.2 (by decide))
  have hread := h.expression hstop ((noOperator_append hu).2 (noOperator_cons (by decide) rfl))
    ((noOperator_append hu).2 (noOperator_cons (by decide) rfl))
  rw [hclose] at hread
  rw [factor, factorOf, hskip]
  simp only [if_true, hread, skipSpace_cons (show isSpace ')' = false by decide)]

/-- A negated factor is read whole. -/
theorem reads_negated (hw : Spaces w) (h : Reads permits s v .factor) :
    Reads (permits + 1) (w ++ '-' :: s) (-v) .factor := by
  intro rest hrest
  have hskip : skipSpace (w ++ '-' :: s ++ rest) = '-' :: (s ++ rest) := by
    rw [List.append_assoc, skipSpace_append hw, List.cons_append, skipSpace_cons (by decide)]
  have hopen : ('-' : Char) ≠ '(' := by decide
  rw [factor, factorOf, hskip]
  simp only [if_neg hopen, if_true, h rest hrest]

/-- **Completeness.** The readers read every derived text. -/
theorem Derives.reads {part : Part} {e : Expr (List Char)} (h : Derives Literal part s e) :
    ∀ permits, e.depth ≤ permits → Reads permits s (e.eval literalValue) part := by
  induction h with
  | leaf hw ha =>
      intro permits _
      obtain ⟨rfl, hplain⟩ := ha
      exact reads_leaf hw hplain
  | group hw _ hu ih =>
      rintro (_ | permits) hdepth
      · cases hdepth
      · exact reads_group hw hu (ih permits (Nat.le_of_succ_le_succ hdepth))
  | negated hw _ ih =>
      rintro (_ | permits) hdepth
      · cases hdepth
      · exact reads_negated hw (ih permits (Nat.le_of_succ_le_succ hdepth))
  | factor _ ih =>
      intro permits hdepth rest hrest
      refine ⟨rest, le_rfl, ?_⟩
      rw [chain, ih permits hdepth rest hrest]
  | @product s w t a b op _ hw hop _ iha ihb =>
      intro permits hdepth rest hrest
      have hda : a.depth ≤ permits := le_trans (le_max_left _ _) hdepth
      have hdb : b.depth ≤ permits := le_trans (le_max_right _ _) hdepth
      obtain ⟨bound, hbound, hchain⟩ :=
        iha permits hda (w ++ op.symbol :: (t ++ rest)) (stops_symbol op hw)
      have hskip : skipSpace (w ++ op.symbol :: (t ++ rest)) = op.symbol :: (t ++ rest) := by
        rw [skipSpace_append hw, skipSpace_cons (isSpace_symbol op)]
      obtain ⟨bound', hbound', hnext⟩ := exists_chainFrom_operation hskip hbound
        (ihb permits hdb rest hrest) (by simp)
      rw [hop] at hnext
      refine ⟨bound', hbound', ?_⟩
      rw [List.append_assoc, List.append_assoc, List.cons_append, hchain]
      exact hnext
  | term _ ih =>
      intro permits hdepth rest hstop hrest
      refine ⟨skipSpace rest, le_rfl, ?_⟩
      rw [expressionOf, chain, (ih permits hdepth).term hstop hrest]
  | @sum s w t a b op _ hw hop _ iha ihb =>
      intro permits hdepth rest hstop hrest
      have hda : a.depth ≤ permits := le_trans (le_max_left _ _) hdepth
      have hdb : b.depth ≤ permits := le_trans (le_max_right _ _) hdepth
      have hsymbol : NoOperator .term (w ++ op.symbol :: (t ++ rest)) := by
        rw [noOperator_append hw]
        cases op with
        | add => exact noOperator_cons (by decide) rfl
        | sub => exact noOperator_cons (by decide) rfl
        | mul => cases hop
        | div => cases hop
        | rem => cases hop
      obtain ⟨bound, hbound, hchain⟩ :=
        iha permits hda (w ++ op.symbol :: (t ++ rest)) (stops_symbol op hw) hsymbol
      have hskip : skipSpace (skipSpace (w ++ op.symbol :: (t ++ rest))) =
          op.symbol :: (t ++ rest) := by
        rw [skipSpace_skipSpace, skipSpace_append hw, skipSpace_cons (isSpace_symbol op)]
      have hshort : (skipSpace rest).length ≤ (t ++ rest).length := by
        have hle := length_skipSpace_le rest
        rw [List.length_append]
        omega
      obtain ⟨bound', hbound', hnext⟩ := exists_chainFrom_operation hskip hbound
        ((ihb permits hdb).term hstop hrest) hshort
      rw [hop] at hnext
      refine ⟨bound', hbound', ?_⟩
      rw [List.append_assoc, List.append_assoc, List.cons_append, hchain]
      exact hnext

end complete

/-! ## Whole texts -/

/-- Reading a whole text succeeds exactly on the texts of the grammar. -/
theorem read_eq_ok_iff {s : List Char} {v : Binary64} :
    read s = .ok v ↔
      ∃ e, Spells Literal s e ∧ e.depth ≤ maxDepth ∧ e.eval literalValue = v := by
  constructor
  · intro h
    unfold read at h
    cases hread : expressionOf (factor maxDepth) s with
    | error fault =>
        simp only [hread] at h
        cases h
    | ok result =>
        obtain ⟨x, rest⟩ := result
        obtain ⟨t, rfl, ⟨t, w, e, rfl, hw, he, hdepth, hval⟩⟩ :=
          expressionOf_sound (factor_sound maxDepth) s x rest hread
        obtain ⟨u, hu, hrest⟩ := exists_spaces rest
        simp only [hread] at h
        split at h
        · rename_i hskip
          obtain rfl : x = v := by simpa using h
          rw [hskip, List.append_nil] at hrest
          subst hrest
          exact ⟨e, ⟨t, w ++ rest, List.append_assoc .., he, spaces_append hw hu⟩, hdepth, hval⟩
        · cases h
  · rintro ⟨e, ⟨t, w, rfl, he, hw⟩, hdepth, rfl⟩
    have hskip : skipSpace w = [] := by
      rw [← List.append_nil w, skipSpace_append hw]
      rfl
    have hstop : Stops isLiteralChar w := by
      rw [← List.append_nil w]
      exact stops_append (fun _ => isLiteralChar_of_isSpace) hw stops_nil
    have hnone : ∀ part, NoOperator part w := by
      intro part
      rw [NoOperator, hskip]
      exact stops_nil
    have hread := (he.reads maxDepth hdepth).expression hstop (hnone _) (hnone _)
    unfold read
    rw [hread, hskip]
    rfl

/-- A text evaluates to what is read of its characters. -/
theorem evaluate_eq_read (text : String) (v : Binary64) :
    evaluate text = .ok v ↔ read text.toList = .ok v := by
  rw [evaluate_eq]
  cases read text.toList <;> simp [Except.mapError]

/-- **Evaluation is the grammar.** A text has the value `v` exactly if it spells a tree with at
most 256 parentheses and minus signs open at a time whose value is `v`. -/
theorem evaluate_eq_ok_iff (text : String) (v : Binary64) :
    evaluate text = .ok v ↔
      ∃ e : Expr (List Char), Spells Literal text.toList e ∧ e.depth ≤ 256 ∧
        e.eval literalValue = v := by
  rw [evaluate_eq_read]
  exact read_eq_ok_iff

end Formula

end Dashboard
