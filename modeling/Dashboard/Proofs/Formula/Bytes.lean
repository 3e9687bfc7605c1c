import Dashboard.Proofs.Formula.Characters
import Dashboard.Proofs.Text.Bytes
import Mathlib.Data.Option.Basic

/-!
# Formula.Bytes · the parser of bytes reads what the readers of characters read

The parser looks at bytes and counts them. Everything it looks for is an ASCII character, so it goes
on by one byte only where this byte is a whole character.

* **`Agrees text start result outcome`**: a result of the parser and an outcome of a reader of
  characters have the same value or the same fault. The parser ended between two characters, not
  before its start, and at a value the same text is left.
* **`Follows text reader read`**: so it is wherever both start. The readers of the parser follow
  those of characters one by one (**`number_follows`**, **`chain_follows`**, **`factor_follows`**).
* **`evaluate_eq`**: the value of a text is what the readers of characters give.
-/

namespace Dashboard

namespace Formula

open Text

variable {text s rest : List Char} {n : Nat}

/-! ## Classes of characters -/

/-- Beyond ASCII there is no white space. -/
theorem isSpace_eq_false {c : Char} (h : 127 < c.toNat) : isSpace c = false := by
  rw [Bool.eq_false_iff]
  intro hspace
  simp only [isSpace, Bool.or_eq_true, beq_iff_eq] at hspace
  rcases hspace with (((rfl | rfl) | rfl) | rfl) | rfl <;> exact absurd h (by decide)

/-- Beyond ASCII there are no digits or points. -/
theorem isLiteralChar_eq_false {c : Char} (h : 127 < c.toNat) : isLiteralChar c = false := by
  have hpoint : (c == '.') = false := by
    rw [beq_eq_false_iff_ne]
    rintro rfl
    exact absurd h (by decide)
  rw [isLiteralChar, describes_isDigitByte.char c h, hpoint, Bool.or_false]

/-- The operators of a table are ASCII characters. -/
def AsciiOperators (operator? : Char → Option (Binary64 → Binary64 → Binary64)) : Prop :=
  ∀ c : Char, 127 < c.toNat → operator? c = none

/-- An operator of such a table is an ASCII character. -/
theorem AsciiOperators.toNat_le {operator? : Char → Option (Binary64 → Binary64 → Binary64)}
    {c : Char} {op : Binary64 → Binary64 → Binary64} (h : AsciiOperators operator?)
    (hop : operator? c = some op) : c.toNat ≤ 127 := Nat.not_lt.1 fun hlt => by
  rw [h c hlt] at hop
  cases hop

/-- A character beyond ASCII is none of those within. -/
theorem ne_of_gt {c d : Char} (h : 127 < c.toNat) (hd : d.toNat ≤ 127) : c ≠ d := by
  rintro rfl
  omega

/-- The operators of sums are ASCII characters. -/
theorem asciiOperators_sum : AsciiOperators sumOperator? := fun c h => by
  rw [sumOperator?, if_neg (ne_of_gt h (by decide)), if_neg (ne_of_gt h (by decide))]

/-- The operators of products are ASCII characters. -/
theorem asciiOperators_product : AsciiOperators productOperator? := fun c h => by
  rw [productOperator?, if_neg (ne_of_gt h (by decide)), if_neg (ne_of_gt h (by decide)),
    if_neg (ne_of_gt h (by decide))]

/-! ## Agreement -/

/-- What is left of a text tells the position. -/
theorem position_eq (h : RestAt text n rest) : position text rest = n := by
  obtain ⟨l, rfl, rfl⟩ := h.exists_append
  rw [position, bytes_append, List.length_append, Nat.add_sub_cancel]

/-- A result of the parser, started at a position of a text, and an outcome of a reader of
characters that is the same. -/
inductive Agrees (text : List Char) (start : Nat) :
    EStateM.Result FormulaError Nat Binary64 → Outcome → Prop
  | ok {value : Binary64} {stop : Nat} {rest : List Char} (hrest : RestAt text stop rest)
      (hle : start ≤ stop) : Agrees text start (.ok value stop) (.ok (value, rest))
  | error {fault : Fault} {stop : Nat} {rest : List Char} (hrest : RestAt text stop rest)
      (hle : start ≤ stop) : Agrees text start (.error (fault.error text) stop) (.error fault)

/-- Wherever they start in a text, the reader of the parser agrees with the one of characters. -/
def Follows (text : List Char) (reader : Reader Binary64) (read : List Char → Outcome) : Prop :=
  ∀ n s, RestAt text n s → Agrees text n (reader.run n) (read s)

/-- Without the positions the two are equal. -/
theorem Agrees.eq {start : Nat} {result : EStateM.Result FormulaError Nat Binary64}
    {outcome : Outcome} (h : Agrees text start result outcome) :
    Parser.result result = (outcome.map Prod.fst).mapError (Fault.error text) := by
  cases h <;> rfl

/-- A result agrees as well from an earlier start. -/
theorem Agrees.of_le {start start' : Nat} {result : EStateM.Result FormulaError Nat Binary64}
    {outcome : Outcome} (h : Agrees text start' result outcome) (hle : start ≤ start') :
    Agrees text start result outcome := by
  cases h with
  | ok hrest hle' => exact .ok hrest (Nat.le_trans hle hle')
  | error hrest hle' => exact .error hrest (Nat.le_trans hle hle')

/-! ## Single steps -/

/-- The position behind the white space at a position. -/
def spaceEnd (text : List Char) (n : Nat) : Nat :=
  Text.skipWhile (fun b => isSpace (Char.ofUInt8 b)) (bytes text) n

/-- Skipping white space does not go back. -/
theorem le_spaceEnd (text : List Char) (n : Nat) : n ≤ spaceEnd text n := Nat.le_add_right _ _

/-- Behind the white space the text goes on without it. -/
theorem restAt_spaceEnd (h : RestAt text n s) : RestAt text (spaceEnd text n) (skipSpace s) :=
  h.skipWhile (describes_ofUInt8 fun _ => isSpace_eq_false)

/-- Skipping white space moves to its end. -/
@[simp] theorem run_skipSpace :
    EStateM.run (Parser.skipSpace (bytes text)) n = .ok () (spaceEnd text n) := rfl

/-- Looking at the next byte does not move. -/
@[simp] theorem run_peek {input : List UInt8} :
    EStateM.run (Parser.peek input) n = .ok input[n]? n := rfl

/-- Advancing moves by one byte. -/
@[simp] theorem run_advance : EStateM.run Parser.advance n = .ok () (n + 1) := rfl

/-- An error leaves the position where it is. -/
@[simp] theorem run_throw {e : FormulaError} :
    EStateM.run (throw e : Reader Binary64) n = .error e n := rfl

/-- At the end of the text there is no byte. -/
theorem peek_nil (h : RestAt text n []) : (bytes text)[n]? = none := h.getElem?_bytes

/-- The byte in front of a character, taken for a character of its own, is this character or looks
like it to every test for ASCII characters. -/
theorem peek_cons {c : Char} (h : RestAt text n (c :: rest)) :
    ∃ b, (bytes text)[n]? = some b ∧
      ∀ {α : Type} {f : Char → α} {a : α}, (∀ d : Char, 127 < d.toNat → f d = a) →
        f (Char.ofUInt8 b) = f c := by
  rw [h.getElem?_bytes]
  exact exists_head?_bytes c rest

/-- The byte of an ASCII character stands in front of this character only. -/
theorem peek_eq_iff {c d : Char} (h : RestAt text n (c :: rest)) (hd : d.toNat ≤ 127) :
    (bytes text)[n]? = some d.toUInt8 ↔ c = d := by
  obtain ⟨b, hb, hlike⟩ := peek_cons h
  have hsame : (Char.ofUInt8 b = d) = (c = d) :=
    hlike (f := (· = d)) fun _ hlt => eq_false (ne_of_gt hlt hd)
  rw [hb, Option.some_inj, ← hsame]
  constructor
  · rintro rfl
    exact ofUInt8_toUInt8 hd
  · rintro rfl
    exact UInt8.toNat_inj.1 (toNat_toUInt8 hd).symm

/-- The character at a position is decoded whole. -/
theorem charAt?_eq {c : Char} (h : RestAt text n (c :: rest)) :
    charAt? (bytes text) n = some c := by
  rw [charAt?, h.drop_bytes, ofBytes?_bytes]
  rfl

/-- An unexpected character is named as a character. -/
theorem agrees_unexpected {c : Char} (h : RestAt text n (c :: rest)) (b : UInt8) :
    Agrees text n ((Parser.unexpected (bytes text) b).run n)
      (.error (.unexpected (c :: rest))) := by
  have herror : (Parser.unexpected (bytes text) b).run n =
      .error ((Fault.unexpected (c :: rest)).error text) n := by
    simp only [Parser.unexpected, EStateM.run_bind, EStateM.run_get, run_throw, charAt?_eq h,
      Option.getD_some, Fault.error, position_eq h]
  rw [herror]
  exact .error h (Nat.le_refl n)

/-- Numbers are read alike. -/
theorem number_follows : Follows text (Parser.number (bytes text)) literal := by
  intro n s h
  have hrest : RestAt text _ (s.dropWhile isLiteralChar) :=
    h.skipWhile (describes_ofUInt8 fun _ => isLiteralChar_eq_false)
  have hrun := map_takeWhile_ofUInt8 (fun _ => isLiteralChar_eq_false) s
  rw [← h.drop_bytes] at hrun
  unfold literal
  simp only [Parser.number, EStateM.run_bind, EStateM.run_get, EStateM.run_modify, hrun]
  cases Decimal.ofChars? (s.takeWhile isLiteralChar) with
  | some d => exact .ok hrest (Nat.le_add_right _ _)
  | none => exact @Agrees.error _ _ (.invalidNumber _) _ _ hrest (Nat.le_add_right _ _)

/-! ## Chains -/

section chain

variable {operator? : Char → Option (Binary64 → Binary64 → Binary64)} {operand : Reader Binary64}
  {read : List Char → Outcome}

/-- One round of the loop of a chain. The byte behind the white space tells the same operator as the
character there. -/
theorem run_chainFrom_cons (hascii : AsciiOperators operator?) (h : RestAt text n s) (b : UInt8)
    (bound : List UInt8) (value : Binary64) :
    (Parser.chainFrom (bytes text) operator? operand (b :: bound) value).run n =
      match (skipSpace s).head?.bind operator? with
      | none => .ok value (spaceEnd text n)
      | some op =>
        match operand.run (spaceEnd text n + 1) with
        | .ok right stop =>
          (Parser.chainFrom (bytes text) operator? operand bound (op value right)).run stop
        | .error fault stop => .error fault stop := by
  have hspace := restAt_spaceEnd h
  have hoperator : ((bytes text)[spaceEnd text n]?.bind fun b => operator? (Char.ofUInt8 b)) =
      (skipSpace s).head?.bind operator? := by
    cases hskip : skipSpace s with
    | nil =>
        rw [hskip] at hspace
        rw [peek_nil hspace]
        rfl
    | cons c after =>
        rw [hskip] at hspace
        obtain ⟨b, hb, hlike⟩ := peek_cons hspace
        rw [hb, Option.bind_some, hlike hascii]
        rfl
  simp only [Parser.chainFrom, EStateM.run_bind, run_skipSpace, run_peek, hoperator]
  cases (skipSpace s).head?.bind operator? with
  | none => rfl
  | some op =>
      simp only [EStateM.run_bind, run_advance]
      cases operand.run (spaceEnd text n + 1) <;> rfl

/-- Both loops go on as long as there are operators, if their bounds allow it. -/
theorem chainFrom_agrees (hascii : AsciiOperators operator?) (hoperand : Follows text operand read)
    {bound : List UInt8} {bound' : List Char} {value : Binary64} (h : RestAt text n s)
    (hbound : s.length ≤ bound.length) (hbound' : s.length ≤ bound'.length) :
    Agrees text n ((Parser.chainFrom (bytes text) operator? operand bound value).run n)
      (chainFrom operator? read bound' value s) := by
  induction bound generalizing n s value bound' with
  | nil =>
      obtain rfl : s = [] := List.length_eq_zero_iff.1 (Nat.le_zero.1 hbound)
      cases bound' with
      | nil => exact .ok h (Nat.le_refl n)
      | cons => exact .ok h (Nat.le_refl n)
  | cons b bound ih =>
      have hspace := restAt_spaceEnd h
      have hend := le_spaceEnd text n
      have hshort : (skipSpace s).length ≤ s.length := (List.dropWhile_sublist isSpace).length_le
      rw [run_chainFrom_cons hascii h]
      cases bound' with
      | nil =>
          obtain rfl : s = [] := List.length_eq_zero_iff.1 (Nat.le_zero.1 hbound')
          exact .ok hspace hend
      | cons b' bound' =>
          unfold chainFrom
          cases hskip : skipSpace s with
          | nil => exact .ok (hskip ▸ hspace) hend
          | cons c after =>
              rw [hskip] at hspace hshort
              rw [List.head?_cons, Option.bind_some]
              dsimp only
              cases hop : operator? c with
              | none => exact .ok hspace hend
              | some op =>
                  have hafter := hspace.step_ascii (hascii.toNat_le hop)
                  have hright := hoperand _ _ hafter
                  have hstart := Nat.le_succ_of_le hend
                  rw [List.length_cons] at hshort hbound hbound'
                  dsimp only
                  generalize operand.run (spaceEnd text n + 1) = result at hright
                  generalize read after = outcome at hright
                  cases hright with
                  | ok hrest hle =>
                      have hleft := hafter.length_le hrest hle
                      exact (ih hrest (by omega) (by omega)).of_le (Nat.le_trans hstart hle)
                  | error hrest hle => exact .error hrest (Nat.le_trans hstart hle)

/-- Chains are read alike if their operands are. -/
theorem chain_follows (hascii : AsciiOperators operator?) (hoperand : Follows text operand read) :
    Follows text (Parser.chain (bytes text) operator? operand) (chain operator? read) := by
  intro n s h
  have hvalue := hoperand n s h
  rw [chain, Parser.chain, EStateM.run_bind]
  generalize operand.run n = result at hvalue
  generalize read s = outcome at hvalue
  cases hvalue with
  | @ok value stop rest hrest hle =>
      have hbound : rest.length ≤ (bytes text).length := by
        obtain ⟨l, rfl, -⟩ := hrest.exists_append
        have hlength := length_le_length_bytes (l ++ rest)
        rw [List.length_append] at hlength
        omega
      exact (chainFrom_agrees hascii hoperand hrest hbound (Nat.le_refl _)).of_le hle
  | error hrest hle => exact .error hrest hle

end chain

/-! ## Factors -/

section factor

variable {reader : Reader Binary64} {read : List Char → Outcome}

/-- Expressions are read alike if their factors are. -/
theorem expressionOf_follows (h : Follows text reader read) :
    Follows text (Parser.expressionOf (bytes text) reader) (expressionOf read) :=
  chain_follows asciiOperators_sum (chain_follows asciiOperators_product h)

/-- Both sides read a group from its opening parenthesis on. -/
theorem group_agrees {after : List Char} (h : Follows text reader read)
    (hopen : RestAt text n ('(' :: after)) :
    Agrees text n
      ((Parser.group (bytes text) (some (Parser.expressionOf (bytes text) reader))).run n)
      (match expressionOf read after with
        | .error fault => .error fault
        | .ok (value, after') =>
          match skipSpace after' with
          | ')' :: after' => .ok (value, after')
          | _ => .error (.unmatched ('(' :: after))) := by
  have hstart : n ≤ n + 1 := Nat.le_succ n
  have hvalue := expressionOf_follows h _ _ (hopen.step_ascii (by decide))
  simp only [Parser.group, Parser.nested, EStateM.run_bind, EStateM.run_get, run_advance]
  generalize (Parser.expressionOf (bytes text) reader).run (n + 1) = result at hvalue
  generalize expressionOf read after = outcome at hvalue
  cases hvalue with
  | error hrest hle => exact .error hrest (Nat.le_trans hstart hle)
  | @ok value stop rest hrest hle =>
      have hspace := restAt_spaceEnd hrest
      have hend : n ≤ spaceEnd text stop :=
        Nat.le_trans (Nat.le_trans hstart hle) (le_spaceEnd text stop)
      have hunmatched : Agrees text n (.error (.unmatchedParen n) (spaceEnd text stop))
          (.error (.unmatched ('(' :: after))) := by
        have herror : (Fault.unmatched ('(' :: after)).error text = .unmatchedParen n := by
          rw [Fault.error, position_eq hopen]
        rw [← herror]
        exact .error hspace hend
      simp only [run_skipSpace, run_peek]
      cases hskip : skipSpace rest with
      | nil =>
          rw [hskip] at hspace
          rw [peek_nil hspace]
          exact hunmatched
      | cons c rest =>
          rw [hskip] at hspace
          by_cases hc : c = ')'
          · subst hc
            rw [if_pos ((peek_eq_iff hspace (by decide)).2 rfl)]
            exact .ok (hspace.step_ascii (by decide)) (Nat.le_succ_of_le hend)
          · rw [if_neg fun hclose => hc ((peek_eq_iff hspace (by decide)).1 hclose)]
            split
            · rename_i hcons
              exact absurd (List.cons.inj hcons).1 hc
            · exact hunmatched

/-- Both sides read a factor behind a minus sign. -/
theorem negated_agrees {after : List Char} (h : Follows text reader read)
    (hminus : RestAt text n ('-' :: after)) :
    Agrees text n ((Parser.negated (some reader)).run n)
      (match read after with
        | .error fault => .error fault
        | .ok (value, after) => .ok (-value, after)) := by
  have hstart : n ≤ n + 1 := Nat.le_succ n
  have hvalue := h _ _ (hminus.step_ascii (by decide))
  simp only [Parser.negated, Parser.nested, EStateM.run_bind, run_advance]
  generalize reader.run (n + 1) = result at hvalue
  generalize read after = outcome at hvalue
  cases hvalue with
  | ok hrest hle => exact .ok hrest (Nat.le_trans hstart hle)
  | error hrest hle => exact .error hrest (Nat.le_trans hstart hle)

/-- Factors are read alike if what they open is. -/
theorem factorOf_follows {inner : Option (Reader Binary64)} {inner' : Option (List Char → Outcome)}
    (h : Option.Rel (Follows text) inner inner') :
    Follows text (Parser.factorOf (bytes text) inner) (factorOf inner') := by
  intro n s hs
  have hspace := restAt_spaceEnd hs
  refine Agrees.of_le ?_ (le_spaceEnd text n)
  simp only [Parser.factorOf, EStateM.run_bind, run_skipSpace, run_peek]
  unfold factorOf
  cases hskip : skipSpace s with
  | nil =>
      rw [hskip] at hspace
      rw [peek_nil hspace]
      exact @Agrees.error _ _ .unexpectedEnd _ _ hspace (Nat.le_refl _)
  | cons c after =>
      rw [hskip] at hspace
      obtain ⟨b, hb, hlike⟩ := peek_cons hspace
      have hopen : (Char.ofUInt8 b = '(') = (c = '(') :=
        hlike (f := (· = '(')) fun _ hlt => eq_false (ne_of_gt hlt (by decide))
      have hminus : (Char.ofUInt8 b = '-') = (c = '-') :=
        hlike (f := (· = '-')) fun _ hlt => eq_false (ne_of_gt hlt (by decide))
      simp only [hb, hopen, hminus, hlike fun _ => isLiteralChar_eq_false]
      split_ifs with hc hc hc
      · subst hc
        have hafter := hspace.step_ascii (by decide)
        cases h with
        | none => exact @Agrees.error _ _ .tooDeep _ _ hafter (Nat.le_succ _)
        | some h => exact group_agrees h hspace
      · subst hc
        have hafter := hspace.step_ascii (by decide)
        cases h with
        | none => exact @Agrees.error _ _ .tooDeep _ _ hafter (Nat.le_succ _)
        | some h => exact negated_agrees h hspace
      · exact number_follows _ _ hspace
      · exact agrees_unexpected hspace b

/-- Factors are read alike. -/
theorem factor_follows (permits : Nat) :
    Follows text (Parser.factor (bytes text) permits) (factor permits) := by
  induction permits with
  | zero => exact factorOf_follows .none
  | succ permits ih => exact factorOf_follows (.some ih)

/-- Terms are read alike. -/
theorem term_follows (permits : Nat) :
    Follows text (Parser.chain (bytes text) productOperator? (Parser.factor (bytes text) permits))
      (chain productOperator? (factor permits)) :=
  chain_follows asciiOperators_product (factor_follows permits)

end factor

/-! ## Whole texts -/

/-- Whole formulas are read alike. -/
theorem parse_follows : Follows text (Parser.parse (bytes text))
    fun s => (read s).map fun value => (value, []) := by
  intro n s h
  have hvalue := expressionOf_follows (factor_follows maxDepth) n s h
  simp only [Parser.parse, EStateM.run_bind]
  unfold read
  generalize (Parser.expressionOf (bytes text) (Parser.factor (bytes text) maxDepth)).run n = result
    at hvalue
  generalize expressionOf (factor maxDepth) s = outcome at hvalue
  cases hvalue with
  | error hrest hle => exact .error hrest hle
  | @ok value stop rest hrest hle =>
      have hspace := restAt_spaceEnd hrest
      have hend := Nat.le_trans hle (le_spaceEnd text stop)
      simp only [run_skipSpace, run_peek]
      cases hskip : skipSpace rest with
      | nil =>
          rw [hskip] at hspace
          rw [peek_nil hspace]
          exact .ok hspace hend
      | cons c after =>
          rw [hskip] at hspace
          obtain ⟨b, hb, -⟩ := peek_cons hspace
          rw [hb]
          exact (agrees_unexpected hspace b).of_le hend

/-- The value of a text is what the readers of characters give. -/
theorem evaluate_eq (text : String) :
    evaluate text = (read text.toList).mapError (Fault.error text.toList) := by
  refine (parse_follows 0 _ (restAt_zero text.toList)).eq.trans ?_
  dsimp only
  cases read text.toList <;> rfl

end Formula

end Dashboard
