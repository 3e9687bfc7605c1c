import Dashboard.Proofs.Text.CaseTable
import Dashboard.Text.Case
import Mathlib.Data.List.Flatten

/-!
# Text.Case · changing the case again

A text in upper case stays as it is when it is put in upper case, and so does a text in lower case,
in any script. A text that is capitalized treats its first character unlike the others: where the
upper case form of this character is several letters, the later ones are put in lower case by the
next time.

* **`upperChar_of_mem`**, **`lowerChar_of_mem`**: the characters of a mapped character are mapped to
  themselves.
* **`upper_upper`**, **`lower_lower`**: both forms are final.
* **`KeepsHead`** says that the first character of a text becomes one letter in upper case, besides
  characters without case. **`capitalize_capitalize_iff`**: these are the texts whose capitalized
  form is final.
-/

namespace Dashboard

namespace Text

variable {runs : List CaseRun} {special : List (Nat × List Nat)} {letters : CaseRun} {n : Nat}
  {before s t : List Char} {c x : Char}

/-! ## Single characters -/

/-- In a table for characters beyond ASCII besides one run, an ASCII character is mapped by the run
alone. -/
theorem mapCodePoint_ascii (hruns : (runs.all fun run => Nat.ble 128 run.first) = true)
    (hspecial : (special.all fun entry => Nat.ble 128 entry.1) = true) (hn : n < 128) :
    mapCodePoint (letters :: runs) special n = mapCodePoint [letters] [] n := by
  have hlookup : special.lookup n = none := by
    rw [List.lookup_eq_none_iff]
    intro entry hentry
    have hfar := List.all_eq_true.1 hspecial entry hentry
    rw [Nat.ble_eq] at hfar
    rw [bne_iff_ne]
    omega
  have hfind : runs.find? (·.covers n) = none := by
    rw [List.find?_eq_none]
    intro run hrun hcovers
    have hfar := List.all_eq_true.1 hruns run hrun
    rw [Nat.ble_eq] at hfar
    have hfirst := (covers_iff.1 hcovers).1
    omega
  rw [mapCodePoint, mapCodePoint, hlookup, List.lookup_nil, List.find?_cons, List.find?_cons, hfind,
    List.find?_nil]

/-- A map with ASCII on its own is the map of the table if one run holds the ASCII letters. -/
theorem ite_ascii_eq {change : Char → Char}
    (hascii : ∀ n < 128, [change (Char.ofNat n)] =
      (mapCodePoint [letters] [] n).map Char.ofNat)
    (hruns : (runs.all fun run => Nat.ble 128 run.first) = true)
    (hspecial : (special.all fun entry => Nat.ble 128 entry.1) = true) (c : Char) :
    (if c.toNat < 128 then [change c]
      else (mapCodePoint (letters :: runs) special c.toNat).map Char.ofNat) =
      (mapCodePoint (letters :: runs) special c.toNat).map Char.ofNat := by
  split
  · rename_i hc
    rw [mapCodePoint_ascii hruns hspecial hc, ← hascii _ hc, Char.ofNat_toNat]
  · rfl

/-- The table of upper case forms holds for ASCII characters as well. -/
theorem upperChar_eq (c : Char) :
    upperChar c = (mapCodePoint upperRuns upperSpecial c.toNat).map Char.ofNat :=
  ite_ascii_eq (by decide +kernel) (by decide +kernel) (by decide +kernel) c

/-- The table of lower case forms holds for ASCII characters as well. -/
theorem lowerChar_eq (c : Char) :
    lowerChar c = (mapCodePoint lowerRuns lowerSpecial c.toNat).map Char.ofNat :=
  ite_ascii_eq (by decide +kernel) (by decide +kernel) (by decide +kernel) c

/-- A map of characters by a settled table maps what it has mapped to itself. -/
theorem eq_singleton_of_mem {f : Char → List Char} (hsettled : IsSettled runs special)
    (hf : ∀ c, f c = (mapCodePoint runs special c.toNat).map Char.ofNat)
    (hzero : f '\x00' = ['\x00']) (hx : x ∈ f c) : f x = [x] := by
  rw [hf, List.mem_map] at hx
  obtain ⟨m, hm, rfl⟩ := hx
  by_cases hvalid : m.isValidChar
  · have hm' : (Char.ofNat m).toNat = m := by
      rw [Char.ofNat, dif_pos hvalid]
      rfl
    rw [hf, hm', mapCodePoint_of_mem hsettled hm]
    rfl
  · -- what is no character reads as the first one
    have hm' : Char.ofNat m = '\x00' := dif_neg hvalid
    rw [hm', hzero]

/-- What is in upper case stays so. -/
theorem upperChar_of_mem (hx : x ∈ upperChar c) : upperChar x = [x] :=
  eq_singleton_of_mem isSettled_upper upperChar_eq (by decide) hx

/-- What is in lower case stays so. -/
theorem lowerChar_of_mem (hx : x ∈ lowerChar c) : lowerChar x = [x] :=
  eq_singleton_of_mem isSettled_lower lowerChar_eq (by decide) hx

/-- No character is mapped to none. -/
theorem mapCodePoint_ne_nil (h : (special.all fun entry => !entry.2.isEmpty) = true) :
    mapCodePoint runs special n ≠ [] := by
  rw [mapCodePoint]
  split
  · rename_i mapped hlookup
    obtain ⟨before, after, hspecial, -⟩ := List.lookup_eq_some_iff.1 hlookup
    have hmapped := List.all_eq_true.1 h (n, mapped) (by rw [hspecial]; simp)
    rintro rfl
    cases hmapped
  · split <;> exact List.cons_ne_nil _ _

/-- Every character has an upper case form. -/
theorem upperChar_ne_nil : upperChar c ≠ [] := by
  rw [upperChar_eq, Ne, List.map_eq_nil_iff]
  exact mapCodePoint_ne_nil (by decide)

/-- Every character has a lower case form. -/
theorem lowerChar_ne_nil : lowerChar c ≠ [] := by
  rw [lowerChar_eq, Ne, List.map_eq_nil_iff]
  exact mapCodePoint_ne_nil (by decide)

/-! ## Texts -/

/-- Characters that all become themselves stay as they are. -/
theorem flatMap_eq_self {f : Char → List Char} (h : ∀ x ∈ s, f x = [x]) : s.flatMap f = s := by
  rw [List.flatMap_congr h, List.flatMap_singleton']

/-- Where each character becomes at least one, only what leaves them all alone leaves the text
alone. -/
theorem flatMap_eq_self_iff {f : Char → List Char} (hne : ∀ x, f x ≠ []) :
    s.flatMap f = s ↔ ∀ x ∈ s, f x = [x] := by
  refine ⟨?_, flatMap_eq_self⟩
  have hlonger : ∀ t : List Char, t.length ≤ (t.flatMap f).length := by
    intro t
    induction t with
    | nil => exact Nat.zero_le _
    | cons y t ih =>
        have hpos := List.length_pos_iff.2 (hne y)
        rw [List.flatMap_cons, List.length_append, List.length_cons]
        omega
  induction s with
  | nil => exact fun _ x hx => nomatch hx
  | cons y t ih =>
      intro heq
      rw [List.flatMap_cons] at heq
      obtain ⟨z, zs, hz⟩ := List.exists_cons_of_ne_nil (hne y)
      have hlength := congrArg List.length heq
      have ht := hlonger t
      rw [hz, List.cons_append] at heq
      rw [hz, List.length_append, List.length_cons, List.length_cons] at hlength
      have hzs : zs = [] := List.length_eq_zero_iff.1 (by omega)
      obtain ⟨rfl, hrest⟩ := List.cons.inj heq
      rw [hzs, List.nil_append] at hrest
      rw [List.forall_mem_cons]
      exact ⟨by rw [hz, hzs], ih hrest⟩

/-- **Upper case is final.** -/
theorem upper_upper (s : List Char) : upper (upper s) = upper s := by
  apply flatMap_eq_self
  intro x hx
  obtain ⟨c, -, hc⟩ := List.mem_flatMap.1 hx
  exact upperChar_of_mem hc

/-- What no capital sigma and nothing else changes is left alone wherever it stands. -/
theorem lowerAfter_eq_self (h : ∀ x ∈ s, lowerChar x = [x]) : lowerAfter before s = s := by
  induction s generalizing before with
  | nil => rfl
  | cons c s ih =>
      obtain ⟨hc, hs⟩ := List.forall_mem_cons.1 h
      have hsigma : c ≠ 'Σ' := by
        rintro rfl
        revert hc
        decide +kernel
      rw [lowerAfter, if_neg hsigma, hc, ih hs]
      rfl

/-- What a text is mapped to stays in lower case. -/
theorem lowerChar_of_mem_lowerAfter (hx : x ∈ lowerAfter before s) : lowerChar x = [x] := by
  induction s generalizing before with
  | nil => cases hx
  | cons c s ih =>
      rw [lowerAfter, List.mem_append] at hx
      rcases hx with hx | hx
      · split at hx
        · split at hx <;> obtain rfl := List.mem_singleton.1 hx <;> decide +kernel
        · exact lowerChar_of_mem hx
      · exact ih hx

/-- **Lower case is final.** -/
theorem lower_lower (s : List Char) : lower (lower s) = lower s :=
  lowerAfter_eq_self fun _ hx => lowerChar_of_mem_lowerAfter hx

/-- In the upper case form of the first character, nothing behind the first letter has a lower case
form of its own. -/
def KeepsHead (s : List Char) : Prop :=
  ∀ c ∈ s.head?, ∀ x ∈ (upperChar c).tail, lowerChar x = [x]

/-- **When a capitalized text is final.** -/
theorem capitalize_capitalize_iff : capitalize (capitalize s) = capitalize s ↔ KeepsHead s := by
  cases s with
  | nil => simp [capitalize, KeepsHead]
  | cons c rest =>
      obtain ⟨u, us, hu⟩ := List.exists_cons_of_ne_nil (upperChar_ne_nil (c := c))
      have hhead : upperChar u = [u] := upperChar_of_mem (hu ▸ List.mem_cons_self)
      have hrest : (rest.flatMap lowerChar).flatMap lowerChar = rest.flatMap lowerChar := by
        apply flatMap_eq_self
        intro x hx
        obtain ⟨d, -, hd⟩ := List.mem_flatMap.1 hx
        exact lowerChar_of_mem hd
      have honce : capitalize (c :: rest) = u :: (us ++ rest.flatMap lowerChar) := by
        rw [capitalize, hu, List.cons_append]
      rw [honce, capitalize, hhead, List.flatMap_append, hrest, List.singleton_append,
        List.cons_inj_right, List.append_cancel_right_eq,
        flatMap_eq_self_iff fun _ => lowerChar_ne_nil]
      simp [KeepsHead, hu]

end Text

end Dashboard
