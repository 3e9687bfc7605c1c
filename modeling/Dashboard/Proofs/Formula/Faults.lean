import Dashboard.Proofs.Formula.Reading

/-!
# Formula.Faults · errors point into the text they are about

* **`Fault.PointsInto text`** is what a fault says of the text: where the character stands that does
  not belong there, which parenthesis is not closed, which run of digits and points is no number.
* **`Keeps text read`** is the invariant of the readers: started where no literal goes on, a reader
  leaves an end part of its text or ends with such a fault.
* **`Parser.Moves`** are the parts of the parser that go on in the text. Started between two
  characters, each of them ends between two characters, also with an error (`moves_between`).
* **`evaluate_error_pointsInto`** puts the two together, with positions in bytes.
-/

namespace Dashboard

namespace Formula

open Text

variable {text before after s w rest : List Char} {c : Char}

/-! ## Faults -/

/-- No run of digits and points goes on behind the text. -/
def Fresh (before : List Char) : Prop := Stops isLiteralChar before.reverse

/-- No literal goes on behind a character that belongs to none. -/
theorem fresh_concat (before : List Char) (hc : isLiteralChar c = false) :
    Fresh (before ++ [c]) := by
  rw [Fresh, List.reverse_append]
  exact stops_cons.2 hc

/-- White space does not let a literal go on. -/
theorem Fresh.append_spaces (h : Fresh before) (hw : Spaces w) : Fresh (before ++ w) := by
  rw [Fresh, List.reverse_append]
  have hspaces : ∀ c ∈ w.reverse, isSpace c = true := fun c hc => hw c (List.mem_reverse.1 hc)
  exact stops_append (fun _ => isLiteralChar_of_isSpace) hspaces h

/-- The text `run` is a longest run of digits and points, between `before` and `after`. -/
structure MaximalRun (before run after : List Char) : Prop where
  ne_nil : run ≠ []
  chars : ∀ c ∈ run, isLiteralChar c = true
  before : Fresh before
  after : Stops isLiteralChar after

/-- What a fault says of the text that was read. -/
inductive Fault.PointsInto (text : List Char) : Fault → Prop
  | unexpectedEnd : PointsInto text .unexpectedEnd
  | unexpected {c : Char} {after : List Char} (h : c :: after <:+ text) :
      PointsInto text (.unexpected (c :: after))
  | invalidNumber {before run after : List Char} (htext : text = before ++ (run ++ after))
      (hrun : MaximalRun before run after) (hnumber : ¬Decimal.Plain run) :
      PointsInto text (.invalidNumber run)
  | unmatched {after : List Char} (h : '(' :: after <:+ text) :
      PointsInto text (.unmatched ('(' :: after))
  | tooDeep : PointsInto text .tooDeep

/-- What a reader of the end part `s` of `text` may end with. -/
inductive Within (text s : List Char) : Outcome → Prop
  | ok {value : Binary64} {rest : List Char} (hrest : rest <:+ s) :
      Within text s (.ok (value, rest))
  | error {fault : Fault} (hfault : fault.PointsInto text) : Within text s (.error fault)

/-- The reader does so on every end part of the text where no literal goes on. -/
def Keeps (text : List Char) (read : List Char → Outcome) : Prop :=
  ∀ before s, text = before ++ s → Fresh before → Within text s (read s)

/-- Behind a character that belongs to no literal, none goes on. -/
theorem Keeps.behind {read : List Char → Outcome} (h : Keeps text read) (hs : c :: after <:+ text)
    (hc : isLiteralChar c = false) : Within text after (read after) := by
  obtain ⟨before, htext⟩ := hs
  exact h (before ++ [c]) after (by simp [← htext]) (fresh_concat before hc)

/-- What is left of an end part is left of the text before it. -/
theorem Within.of_suffix {s' : List Char} {outcome : Outcome} (h : Within text s' outcome)
    (hs : s' <:+ s) : Within text s outcome := by
  cases h with
  | ok hrest => exact .ok (hrest.trans hs)
  | error hfault => exact .error hfault

/-- Behind the white space an end part of the text is left. -/
theorem skipSpace_suffix (s : List Char) : skipSpace s <:+ s := List.dropWhile_suffix isSpace

/-- The fault of a literal names a longest run. -/
theorem literal_within (htext : text = before ++ c :: after) (hbefore : Fresh before)
    (hc : isLiteralChar c = true) : Within text (c :: after) (literal (c :: after)) := by
  unfold literal
  dsimp only
  cases hd : Decimal.ofChars? ((c :: after).takeWhile isLiteralChar) with
  | some d => exact .ok (List.dropWhile_suffix isLiteralChar)
  | none =>
      have hchars : ∀ d ∈ (c :: after).takeWhile isLiteralChar, isLiteralChar d = true :=
        fun d hmem => List.mem_takeWhile_imp hmem
      have hne : (c :: after).takeWhile isLiteralChar ≠ [] := by simp [hc]
      have hrun : MaximalRun before ((c :: after).takeWhile isLiteralChar)
          ((c :: after).dropWhile isLiteralChar) := ⟨hne, hchars, hbefore, stops_dropWhile _ _⟩
      refine .error (.invalidNumber ?_ hrun ?_)
      · rw [List.takeWhile_append_dropWhile, htext]
      · intro hplain
        have hsome := (Decimal.ofChars?_eq_some_iff hplain.chars).2 ⟨hplain, rfl⟩
        rw [hd] at hsome
        cases hsome

section chain

variable {operator? : Char → Option (Binary64 → Binary64 → Binary64)} {read : List Char → Outcome}

/-- A chain goes on behind operators only, and these are no digits and no points. -/
theorem chainFrom_within (hsymbol : ∀ c f, operator? c = some f → isLiteralChar c = false)
    (hread : Keeps text read) {bound : List Char} {value : Binary64} (h : s <:+ text) :
    Within text s (chainFrom operator? read bound value s) := by
  induction bound generalizing s value with
  | nil => exact .ok List.suffix_rfl
  | cons b bound ih =>
      have hskip := skipSpace_suffix s
      unfold chainFrom
      cases hs : skipSpace s with
      | nil => exact .ok (hs ▸ hskip)
      | cons c after =>
          rw [hs] at hskip
          dsimp only
          cases hop : operator? c with
          | none => exact .ok hskip
          | some op =>
              have hafter : after <:+ s := (List.suffix_cons c after).trans hskip
              have hright := hread.behind (hskip.trans h) (hsymbol c op hop)
              dsimp only
              generalize read after = outcome at hright
              cases hright with
              | error hfault => exact .error hfault
              | ok hleft =>
                  have hrest := hleft.trans hafter
                  exact (ih (hrest.trans h)).of_suffix hrest

/-- Chains keep within the text if their operands do. -/
theorem chain_keeps (hsymbol : ∀ c f, operator? c = some f → isLiteralChar c = false)
    (hread : Keeps text read) : Keeps text (chain operator? read) := by
  intro before s htext hbefore
  have hvalue := hread before s htext hbefore
  unfold chain
  generalize read s = outcome at hvalue
  cases hvalue with
  | error hfault => exact .error hfault
  | ok hleft =>
      have hs : s <:+ text := htext ▸ List.suffix_append before s
      exact (chainFrom_within hsymbol hread (hleft.trans hs)).of_suffix hleft

/-- Operators belong to no literal. -/
theorem isLiteralChar_of_operator? (part : Part) (c : Char) (f : Binary64 → Binary64 → Binary64)
    (h : part.operator? c = some f) : isLiteralChar c = false := by
  obtain ⟨op, -, rfl, -⟩ := exists_operator h
  exact isLiteralChar_symbol op

/-- Expressions keep within the text if their factors do. -/
theorem expressionOf_keeps (h : Keeps text read) : Keeps text (expressionOf read) :=
  chain_keeps (isLiteralChar_of_operator? .expression)
    (chain_keeps (isLiteralChar_of_operator? .term) h)

end chain

section factor

variable {inner : Option (List Char → Outcome)}

/-- What a factor with a parenthesis does behind it. -/
theorem group_within {read : List Char → Outcome} (h : Keeps text read)
    (hs : '(' :: after <:+ text) :
    Within text after
      (match expressionOf read after with
        | .error fault => .error fault
        | .ok (value, left) =>
          match skipSpace left with
          | ')' :: left => .ok (value, left)
          | _ => .error (.unmatched ('(' :: after))) := by
  have hvalue := (expressionOf_keeps h).behind hs (by decide)
  generalize expressionOf read after = outcome at hvalue
  cases hvalue with
  | error hfault => exact .error hfault
  | @ok value left hleft =>
      have hskip := (skipSpace_suffix left).trans hleft
      dsimp only
      split
      · rename_i rest hclose
        rw [hclose] at hskip
        exact .ok ((List.suffix_cons ')' rest).trans hskip)
      · exact .error (.unmatched hs)

/-- A factor points into the text if the reader of the factors inside it does. -/
theorem factorOf_keeps (h : ∀ read ∈ inner, Keeps text read) : Keeps text (factorOf inner) := by
  intro before s htext hbefore
  obtain ⟨w, hw, hs⟩ := exists_spaces s
  have hskip := skipSpace_suffix s
  have htext' : text = (before ++ w) ++ skipSpace s := by rw [List.append_assoc, ← hs, htext]
  have hfresh := hbefore.append_spaces hw
  unfold factorOf
  cases hcons : skipSpace s with
  | nil => exact .error .unexpectedEnd
  | cons c after =>
      rw [hcons] at hskip htext'
      have hsuffix : c :: after <:+ text := htext' ▸ List.suffix_append _ _
      have hafter : after <:+ s := (List.suffix_cons c after).trans hskip
      dsimp only
      split_ifs with hopen hminus hlit
      · subst hopen
        cases inner with
        | none => exact .error .tooDeep
        | some read => exact (group_within (h read rfl) hsuffix).of_suffix hafter
      · subst hminus
        cases inner with
        | none => exact .error .tooDeep
        | some read =>
            have hvalue := (h read rfl).behind hsuffix (by decide)
            dsimp only
            generalize read after = outcome at hvalue
            cases hvalue with
            | error hfault => exact .error hfault
            | ok hleft => exact .ok (hleft.trans hafter)
      · exact (literal_within htext' hfresh hlit).of_suffix hskip
      · exact .error (.unexpected hsuffix)

/-- Factors keep within the text. -/
theorem factor_keeps (text : List Char) (permits : Nat) : Keeps text (factor permits) := by
  induction permits with
  | zero => exact factorOf_keeps nofun
  | succ permits ih =>
      apply factorOf_keeps
      rintro read ⟨⟩
      exact ih

end factor

/-- A text that is not read has a fault that points into it. -/
theorem pointsInto_of_read {fault : Fault} (h : read text = .error fault) :
    fault.PointsInto text := by
  have hvalue := expressionOf_keeps (factor_keeps text maxDepth) [] text rfl stops_nil
  unfold read at h
  generalize expressionOf (factor maxDepth) text = outcome at h hvalue
  cases hvalue with
  | error hfault => exact Except.error.inj h ▸ hfault
  | @ok value left hleft =>
      have hskip := (skipSpace_suffix left).trans hleft
      dsimp only at h
      split at h
      · cases h
      · rename_i c after hcons
        rw [hcons] at hskip
        exact Except.error.inj h ▸ .unexpected hskip

/-! ## Errors -/

/-- What an error says of a text; positions count bytes. An unexpected character starts at its
position, which lies between two characters in front of the end, so it was decoded from there. A
number that is not valid is a longest run of digits and points. -/
def PointsInto (text : String) : FormulaError → Prop
  | .unexpectedEnd | .tooDeep => True
  | .unexpectedChar c position =>
    position < text.utf8ByteSize ∧ String.Pos.Raw.IsValid text ⟨position⟩ ∧
      (∃ before after, text.toList = before ++ c :: after ∧ (bytes before).length = position) ∧
      charAt? (bytes text.toList) position = some c
  | .unmatchedParen position => (bytes text.toList)[position]? = some '('.toUInt8
  | .invalidNumber literal => ∃ before after, text.toList = before ++ (literal.toList ++ after) ∧
      MaximalRun before literal.toList after ∧ ¬Decimal.Plain literal.toList

/-- The error of a fault points to where the fault is. -/
theorem pointsInto_error {text : String} {fault : Fault} (h : fault.PointsInto text.toList) :
    PointsInto text (fault.error text.toList) := by
  have hposition : ∀ {before after : List Char}, text.toList = before ++ after →
      position text.toList after = (bytes before).length := by
    intro before after htext
    rw [htext]
    exact position_eq (restAt_append before after)
  cases h with
  | unexpectedEnd | tooDeep => trivial
  | @unexpected c after hsuffix =>
      obtain ⟨before, htext⟩ := hsuffix
      have hrest := restAt_append before (c :: after)
      rw [htext] at hrest
      have hsize : text.utf8ByteSize = (bytes before).length + (bytes (c :: after)).length := by
        rw [← List.length_append, ← bytes_append, htext, ← utf8ByteSize_ofList,
          String.ofList_toList]
      have hpos := c.utf8Size_pos
      rw [length_bytes_cons] at hsize
      simp only [Fault.error, PointsInto, hposition htext.symm]
      exact ⟨by omega, exists_restAt_iff.1 ⟨_, hrest⟩, ⟨before, after, htext.symm, rfl⟩,
        charAt?_eq hrest⟩
  | @unmatched after hsuffix =>
      obtain ⟨before, htext⟩ := hsuffix
      have hrest := restAt_append before ('(' :: after)
      rw [htext] at hrest
      simp only [Fault.error, PointsInto, hposition htext.symm]
      exact (peek_eq_iff hrest (by decide)).2 rfl
  | invalidNumber htext hrun hnumber =>
      simp only [Fault.error, PointsInto, String.toList_ofList]
      exact ⟨_, _, htext, hrun, hnumber⟩

/-! ## Positions -/

namespace Parser

/-- The parts of the parser that go on in the text, with the loops of a chain. -/
inductive Moves (input : List UInt8) : {α : Type} → Reader α → Prop
  | skipSpace : Moves input (skipSpace input)
  | number : Moves input (number input)
  | factor (permits : Nat) : Moves input (factor input permits)
  | products (permits : Nat) (bound : List UInt8) (value : Binary64) :
      Moves input (chainFrom input productOperator? (factor input permits) bound value)
  | term (permits : Nat) : Moves input (chain input productOperator? (factor input permits))
  | sums (permits : Nat) (bound : List UInt8) (value : Binary64) :
      Moves input (chainFrom input sumOperator?
        (chain input productOperator? (factor input permits)) bound value)
  | expression (permits : Nat) : Moves input (expressionOf input (factor input permits))
  | parse : Moves input (parse input)

/-- Where a reader ended, also with an error. -/
def stop {α : Type} : EStateM.Result FormulaError Nat α → Nat
  | .ok _ position => position
  | .error _ position => position

end Parser

/-- The result of a reader that started at position `n` leaves an end part of the text. -/
def Between {α : Type} (text : List Char) (n : Nat) (result : EStateM.Result FormulaError Nat α) :
    Prop :=
  (∃ rest, RestAt text (Parser.stop result) rest) ∧ n ≤ Parser.stop result

/-- A reader that agrees stops between two characters, not before its start. -/
theorem Agrees.between {n : Nat} {result : EStateM.Result FormulaError Nat Binary64}
    {outcome : Outcome} (h : Agrees text n result outcome) : Between text n result := by
  cases h with
  | ok hrest hle => exact ⟨⟨_, hrest⟩, hle⟩
  | error hrest hle => exact ⟨⟨_, hrest⟩, hle⟩

/-- The start may be an earlier one. -/
theorem Between.of_le {α : Type} {n m : Nat} {result : EStateM.Result FormulaError Nat α}
    (h : Between text m result) (hle : n ≤ m) : Between text n result :=
  ⟨h.1, Nat.le_trans hle h.2⟩

/-- A loop goes on behind operators only, and these are one byte each. -/
theorem chainFrom_between {operator? : Char → Option (Binary64 → Binary64 → Binary64)}
    {operand : Reader Binary64} {read : List Char → Outcome} (hascii : AsciiOperators operator?)
    (hoperand : Follows text operand read) {bound : List UInt8} {value : Binary64} {n : Nat}
    (h : RestAt text n s) :
    Between text n ((Parser.chainFrom (bytes text) operator? operand bound value).run n) := by
  induction bound generalizing n s value with
  | nil => exact ⟨⟨s, h⟩, Nat.le_refl n⟩
  | cons b bound ih =>
      have hspace := restAt_spaceEnd h
      have hend := le_spaceEnd text n
      rw [run_chainFrom_cons hascii h]
      cases hskip : skipSpace s with
      | nil => exact ⟨⟨_, hspace⟩, hend⟩
      | cons c after =>
          rw [hskip] at hspace
          rw [List.head?_cons, Option.bind_some]
          cases hop : operator? c with
          | none => exact ⟨⟨_, hspace⟩, hend⟩
          | some op =>
              have hright := hoperand _ _ (hspace.step_ascii (hascii.toNat_le hop))
              have hstart := Nat.le_succ_of_le hend
              dsimp only
              generalize operand.run (spaceEnd text n + 1) = result at hright
              generalize read after = outcome at hright
              cases hright with
              | ok hrest hle => exact (ih hrest).of_le (Nat.le_trans hstart hle)
              | error hrest hle => exact ⟨⟨_, hrest⟩, Nat.le_trans hstart hle⟩

/-- Each part of the parser stops between two characters, not before its start. -/
theorem moves_between {α : Type} {reader : Reader α} {n : Nat}
    (h : Parser.Moves (bytes text) reader) (hn : RestAt text n s) :
    Between text n (reader.run n) := by
  cases h with
  | skipSpace => exact ⟨⟨_, restAt_spaceEnd hn⟩, le_spaceEnd text n⟩
  | number => exact (number_follows n s hn).between
  | factor permits => exact (factor_follows permits n s hn).between
  | products permits bound value =>
      exact chainFrom_between asciiOperators_product (factor_follows permits) hn
  | term permits => exact (term_follows permits n s hn).between
  | sums permits bound value => exact chainFrom_between asciiOperators_sum (term_follows permits) hn
  | expression permits => exact (expressionOf_follows (factor_follows permits) n s hn).between
  | parse => exact (parse_follows n s hn).between

/-- **Errors point into the text.** An unexpected character stands at its position, an unmatched
parenthesis too, and an invalid number is a longest run of digits and points. The parts of the
parser never leave the text and never stop inside of a character, with a value or with an error. -/
theorem evaluate_error_pointsInto (text : String) :
    (∀ e, evaluate text = .error e → PointsInto text e) ∧
      ∀ {α : Type} (reader : Reader α), Parser.Moves (bytes text.toList) reader →
        ∀ n, String.Pos.Raw.IsValid text ⟨n⟩ →
          String.Pos.Raw.IsValid text ⟨Parser.stop (reader.run n)⟩ ∧
            n ≤ Parser.stop (reader.run n) ∧ Parser.stop (reader.run n) ≤ text.utf8ByteSize := by
  constructor
  · intro e h
    rw [evaluate_eq] at h
    cases hread : read text.toList with
    | ok value =>
        rw [hread] at h
        cases h
    | error fault =>
        rw [hread] at h
        exact Except.error.inj h ▸ pointsInto_error (pointsInto_of_read hread)
  · intro α reader hmoves n hn
    obtain ⟨s, hs⟩ := exists_restAt_iff.2 hn
    obtain ⟨⟨rest, hrest⟩, hle⟩ := moves_between hmoves hs
    have hvalid := exists_restAt_iff.1 ⟨rest, hrest⟩
    exact ⟨hvalid, hle, hvalid.le_utf8ByteSize⟩

/-- The byte at position 3 is inside of the last character, and no factor starts at it. -/
theorem evaluate_error_pointsInto_wide :
    PointsInto "1+é" (.unexpectedChar 'é' 2) ∧
      Parser.stop ((Parser.factor (bytes ['1', '+', 'é']) 0).run 2) ≤ "1+é".utf8ByteSize :=
  ⟨(evaluate_error_pointsInto _).1 _ (by decide +kernel),
    ((evaluate_error_pointsInto "1+é").2 _ (.factor 0) 2 (by decide +kernel)).2.2⟩

end Formula

end Dashboard
