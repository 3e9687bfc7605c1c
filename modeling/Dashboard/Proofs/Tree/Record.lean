import Dashboard.Proofs.Row.ReadBack
import Dashboard.Tree.Document

/-!
# Tree.Record · what the readers of fields and lists give

A value is read from its fields, and a field may be absent, may stand for a default, or may be a
list or an object of values. Two kinds of lemmas serve both directions.

* **What reading gives**: a value that was read was read from some document, whether it stood in a
  list, in an object or in a field that may be absent (`exists_of_list?`, `exists_of_map?`,
  `exists_of_withDefault`, `exists_of_optional`). The names of an object that was read are distinct
  (`nodup_of_map?`).
* **What writing and reading gives**: lists, objects and fields that may be absent are read item by
  item (`list?_map`, `map?_map`, `optional_map`).
-/

namespace Dashboard

/-- Comparing a list with its image item by item. -/
theorem all_zip_map {α β : Type} {r : α → β → Bool} {g : α → β} {l : List α}
    (h : ∀ a ∈ l, r a (g a) = true) : ((l.zip (l.map g)).all fun p => r p.1 p.2) = true := by
  induction l with
  | nil => rfl
  | cons a l ih =>
      obtain ⟨ha, hl⟩ := List.forall_mem_cons.1 h
      rw [List.map_cons, List.zip_cons_cons, List.all_cons, ha, ih hl]
      rfl

namespace Document

variable {δ α β : Type}

/-! ## What reading gives -/

section reading

variable {decode : δ → Option α} {d : δ}

/-- Every item of a list that is read comes from one. -/
theorem exists_of_mapM {f : β → Option α} {items : List β} {l : List α}
    (h : items.mapM f = some l) : ∀ a ∈ l, ∃ b, f b = some a := by
  induction items generalizing l with
  | nil =>
      obtain rfl : [] = l := Option.some.inj h
      exact nofun
  | cons b items ih =>
      rw [List.mapM_cons] at h
      obtain ⟨a, ha, h⟩ := Option.bind_eq_some_iff.1 h
      obtain ⟨rest, hrest, h⟩ := Option.bind_eq_some_iff.1 h
      obtain rfl : a :: rest = l := Option.some.inj h
      exact List.forall_mem_cons.2 ⟨⟨b, ha⟩, ih hrest⟩

/-- A field with a default gives the default or what is read. -/
theorem exists_of_withDefault {value a : α} {field : Option δ}
    (h : withDefault value decode field = some a) : a = value ∨ ∃ t, decode t = some a := by
  cases field with
  | none => exact .inl (Option.some.inj h).symm
  | some t => exact .inr ⟨t, h⟩

/-- A field that has to be there gives what is read. -/
theorem exists_of_required {a : α} {field : Option δ} (h : required decode field = some a) :
    ∃ t, decode t = some a := by
  obtain ⟨t, -, h⟩ := Option.bind_eq_some_iff.1 h
  exact ⟨t, h⟩

/-- A member that is put into members replaces one of its name, or comes after all of them. -/
theorem map_fst_putMember (name : String) (value : α) (members : List (String × α)) :
    (putMember name value members).map Prod.fst =
      if name ∈ members.map Prod.fst then members.map Prod.fst
      else members.map Prod.fst ++ [name] := by
  induction members with
  | nil => rfl
  | cons first rest ih =>
      obtain ⟨n, v⟩ := first
      rw [putMember]
      by_cases hn : n = name
      · simp [hn]
      · have hne : name ≠ n := fun heq => hn heq.symm
        rw [if_neg (by simpa using hn), List.map_cons, ih]
        simp only [List.map_cons, List.mem_cons, hne, false_or]
        split <;> rfl

/-- After a member is put there are its value and the old members. -/
theorem mem_putMember {name : String} {value : α} {members : List (String × α)} {m : String × α}
    (h : m ∈ putMember name value members) : m.2 = value ∨ m ∈ members := by
  induction members with
  | nil =>
      obtain rfl := List.mem_singleton.1 h
      exact .inl rfl
  | cons first rest ih =>
      obtain ⟨n, v⟩ := first
      rw [putMember] at h
      split at h
      · rcases List.mem_cons.1 h with rfl | h
        · exact .inl rfl
        · exact .inr (List.mem_cons_of_mem _ h)
      · rcases List.mem_cons.1 h with rfl | h
        · exact .inr List.mem_cons_self
        · exact (ih h).imp_right (List.mem_cons_of_mem _)

/-- One member is read and put into those that were read before. -/
def readMember (decode : δ → Option α) (read : List (String × α)) (m : String × δ) :
    Option (List (String × α)) :=
  (decode m.2).map (putMember m.1 · read)

/-- What holds of no members and is kept by each member that is read holds of all that are read. -/
theorem foldlM_readMember_induction (P : List (String × α) → Prop) {members : List (String × δ)}
    {read l : List (String × α)}
    (hstep : ∀ read name t value, decode t = some value → P read → P (putMember name value read))
    (hread : P read) (h : members.foldlM (readMember decode) read = some l) : P l := by
  induction members generalizing read with
  | nil =>
      obtain rfl : read = l := Option.some.inj h
      exact hread
  | cons m rest ih =>
      rw [List.foldlM_cons] at h
      obtain ⟨next, hnext, h⟩ := Option.bind_eq_some_iff.1 h
      obtain ⟨value, hvalue, rfl⟩ := Option.map_eq_some_iff.1 hnext
      exact ih (hstep _ _ _ _ hvalue hread) h

variable [Document δ]

/-- Every item of a list that is decoded comes from a document. -/
theorem exists_of_list? {l : List α} (h : list? decode d = some l) :
    ∀ a ∈ l, ∃ t, decode t = some a := by
  obtain ⟨items, -, h⟩ := Option.bind_eq_some_iff.1 h
  exact exists_of_mapM h

/-- A value of an optional field comes from a document. -/
theorem exists_of_optional {o : Option α} {field : Option δ}
    (h : optional decode field = some o) : ∀ a ∈ o, ∃ t, decode t = some a := by
  rintro a rfl
  rcases exists_of_withDefault h with heq | ⟨t, ht⟩
  · cases heq
  · unfold nullable at ht
    split at ht
    · cases ht
    · obtain ⟨b, hb, heq⟩ := Option.map_eq_some_iff.1 ht
      exact ⟨t, hb.trans heq⟩

/-- A count that is read is below its bound. -/
theorem natBelow?_lt {bound n : Nat} (h : natBelow? bound d = some n) : n < bound := by
  unfold natBelow? at h
  split at h
  · split at h
    · rename_i hlt
      exact Option.some.inj h ▸ hlt
    · cases h
  · cases h

/-- Members are read one by one. -/
theorem map?_eq_readMember :
    map? decode d = (members? d).bind fun members => members.foldlM (readMember decode) [] := rfl

/-- Members that are decoded have distinct names. -/
theorem nodup_of_map? {l : List (String × α)} (h : map? decode d = some l) :
    (l.map Prod.fst).Nodup := by
  rw [map?_eq_readMember] at h
  obtain ⟨members, -, h⟩ := Option.bind_eq_some_iff.1 h
  refine foldlM_readMember_induction (fun l => (l.map Prod.fst).Nodup) ?_ ?_ h
  · intro read name t value _ hread
    rw [map_fst_putMember]
    split
    · exact hread
    · rename_i hnot
      rw [← List.concat_eq_append]
      exact hread.concat hnot
  · exact List.nodup_nil

/-- Every value of the members comes from a document. -/
theorem exists_of_map? {l : List (String × α)} (h : map? decode d = some l) :
    ∀ p ∈ l, ∃ t, decode t = some p.2 := by
  rw [map?_eq_readMember] at h
  obtain ⟨members, -, h⟩ := Option.bind_eq_some_iff.1 h
  refine foldlM_readMember_induction (fun l => ∀ p ∈ l, ∃ t, decode t = some p.2) ?_ ?_ h
  · intro read name t value hvalue hread p hp
    rcases mem_putMember hp with heq | hp
    · exact ⟨t, heq ▸ hvalue⟩
    · exact hread p hp
  · exact List.forall_mem_nil _

end reading

/-! ## What writing and reading gives -/

section writing

variable {decode : Tree → Option β} {encode : α → Tree} {g : α → β}

/-- Among distinct names none occurs twice. -/
theorem occurrences_le_one {members : List (String × Tree)} (h : (members.map Prod.fst).Nodup)
    (name : String) : occurrences name members ≤ 1 := by
  have hcount := List.nodup_iff_count_le_one.1 h name
  rwa [List.count, List.countP_map, List.countP_eq_length_filter] at hcount

/-- The fields of an object whose members have distinct names are those members. -/
theorem fieldsByName?_object {members : List (String × Tree)} (h : (members.map Prod.fst).Nodup)
    (names : List String) :
    fieldsByName? names (Tree.object members) =
      some (names.map fun name => members.lookup name) := by
  have hall : (names.all fun name => decide (occurrences name members ≤ 1)) = true :=
    List.all_eq_true.2 fun name _ => decide_eq_true (occurrences_le_one h name)
  calc fieldsByName? names (Tree.object members) =
        if (names.all fun name => decide (occurrences name members ≤ 1)) = true then
          some (names.map fun name => members.lookup name)
        else none := rfl
    _ = some (names.map fun name => members.lookup name) := if_pos hall

/-- The other members of an object are those with other names. -/
theorem others?_object (names : List String) (members : List (String × Tree)) :
    others? names (Tree.object members) =
      some (.object (members.filter fun m => !names.contains m.1)) := by
  have htyped (l : List (String × Tree)) :
      (l.map id).mapM (fun m : String × Tree => (resolve? m.2).map fun t => (m.1, t)) = some l :=
    mapM_map_of_leftInverse fun _ _ => rfl
  simp only [List.map_id] at htyped
  calc others? names (Tree.object members) =
        ((members.filter fun m => !names.contains m.1).mapM fun m : String × Tree =>
          (resolve? m.2).map fun t => (m.1, t)).bind fun typed => some (.object typed) := rfl
    _ = some (.object (members.filter fun m => !names.contains m.1)) := by
        rw [htyped, Option.bind_some]

/-- A member that is left out if there is nothing to write. -/
def optionalMember (name : String) (o : Option Tree) : List (String × Tree) :=
  (o.map fun t => (name, t)).toList

/-- A value that may be absent is written as an optional member. -/
theorem toList_map_eq_optionalMember (name : String) (o : Option α) :
    (o.map fun a => (name, encode a)).toList = optionalMember name (o.map encode) := by
  cases o <;> rfl

/-- An optional member has its own name only. -/
theorem map_fst_optionalMember (name : String) (o : Option Tree) :
    ((optionalMember name o).map Prod.fst).Sublist [name] := by
  cases o with
  | none => exact List.nil_sublist _
  | some t => exact List.Sublist.refl _

/-- An optional member is found under its own name only. -/
theorem lookup_optionalMember (name key : String) (o : Option Tree) :
    (optionalMember name o).lookup key = if key == name then o else none := by
  cases o with
  | none => simp [optionalMember]
  | some t =>
      rw [optionalMember, Option.map_some, Option.toList_some, List.lookup_cons, List.lookup_nil]
      split
      · rename_i heq
        rw [heq, if_pos rfl]
      · rename_i hne
        rw [hne, if_neg Bool.false_ne_true]

/-- A list whose items are read back is read back. -/
theorem list?_map {l : List α} (h : ∀ a ∈ l, decode (encode a) = some (g a)) :
    list? decode (Tree.list (l.map encode)) = some (l.map g) := mapM_map_of_forall h

/-- An optional value is read back, as its own reading says. -/
theorem optional_map {o : Option α} (hnull : ∀ a, (encode a).isNull = false)
    (h : ∀ a ∈ o, decode (encode a) = some (g a)) :
    optional decode (o.map encode) = some (o.map g) := by
  cases o with
  | none => rfl
  | some a =>
      have hnot : isNull (encode a) = false := hnull a
      rw [Option.map_some, optional, withDefault, nullable, hnot, h a rfl]
      rfl

/-- An optional value that is read back as it is stays so. -/
theorem optional_map_self {decode : Tree → Option α} {o : Option α}
    (hnull : ∀ a, (encode a).isNull = false) (h : ∀ a ∈ o, decode (encode a) = some a) :
    optional decode (o.map encode) = some o := by
  have hmap := @optional_map _ _ _ _ id o hnull h
  rwa [Option.map_id] at hmap

/-- A member with a new name comes last. -/
theorem putMember_of_notMem {name : String} {value : α} {members : List (String × α)}
    (h : name ∉ members.map Prod.fst) :
    putMember name value members = members ++ [(name, value)] := by
  induction members with
  | nil => rfl
  | cons first rest ih =>
      obtain ⟨n, v⟩ := first
      rw [List.map_cons, List.mem_cons, not_or] at h
      rw [putMember, if_neg (by simpa using fun heq => h.1 heq.symm), ih h.2]
      rfl

/-- Members of distinct names are read one after the other. -/
theorem map?_map {l : List (String × α)} (hnodup : (l.map Prod.fst).Nodup)
    (h : ∀ p ∈ l, decode (encode p.2) = some (g p.2)) :
    map? decode (Tree.object (l.map fun p => (p.1, encode p.2))) =
      some (l.map fun p => (p.1, g p.2)) := by
  have hfold (read : List (String × β)) (hread : (read.map Prod.fst ++ l.map Prod.fst).Nodup) :
      (l.map fun p => (p.1, encode p.2)).foldlM (readMember decode) read =
        some (read ++ l.map fun p => (p.1, g p.2)) := by
    clear hnodup
    induction l generalizing read with
    | nil => rw [List.map_nil, List.map_nil, List.append_nil, List.foldlM_nil]; rfl
    | cons p l ih =>
        obtain ⟨hp, hl⟩ := List.forall_mem_cons.1 h
        have hnew : p.1 ∉ read.map Prod.fst := by
          intro hmem
          exact (List.nodup_append.1 hread).2.2 _ hmem _ List.mem_cons_self rfl
        have hnext : readMember decode read (p.1, encode p.2) = some (read ++ [(p.1, g p.2)]) := by
          rw [readMember, hp, Option.map_some, putMember_of_notMem hnew]
        have hrest : ((read ++ [(p.1, g p.2)]).map Prod.fst ++ l.map Prod.fst).Nodup := by
          rw [List.map_append, List.append_assoc]
          exact hread
        have hlast := ih hl _ hrest
        rw [List.append_assoc] at hlast
        rw [List.map_cons, List.foldlM_cons, hnext]
        exact hlast
  exact hfold [] hnodup

end writing

end Document

end Dashboard
