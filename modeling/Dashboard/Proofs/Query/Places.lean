import Dashboard.Proofs.Query.Aggregation

/-!
# Query.Grouping · every place that is looked up is there

Groups reach their values through places that the index gives. `Groups.update` and `Groups.get?`
pass over a place that is not there. Here such a place stops the operation, and no aggregation is
ever stopped.

* **`Groups.entryAt`** is an access that can fail. **`Groups.guardedUpdate`**,
  **`Groups.guardedGet?`** and **`guardedAggregate`** are the operations with such accesses.
* **`Coherent.entryAt_enter`**, **`Coherent.guardedUpdate_eq`**, **`Coherent.guardedGet?_eq`**: on
  coherent groups every access finds the entry of its key. An update fails only where the change of
  the value does; where groups stand inside of groups, this change is an update too.
* **`Groups.guardedCollect_eq`**: so a sequence of calls finds all its places.
* **`Groups.InStep`** says how index and entries belong together after a sequence of calls, and
  **`inStep_collect`** that they do.
* **`index_in_step`** puts this together for all calls and for the aggregations.
-/

namespace Dashboard

/-- An access to a place beyond the entries. -/
structure OutOfRange where
  place : Nat
  size : Nat
deriving DecidableEq, Repr

namespace Groups

variable {α β : Type} {groups : Groups α} {key : String} {place : Nat} {initial : α}

/-! ## Accesses that can fail -/

/-- The entry in a place. -/
def entryAt (groups : Groups α) (place : Nat) : Except OutOfRange (String × α) :=
  if h : place < groups.entries.size then .ok groups.entries[place]
  else .error ⟨place, groups.entries.size⟩

/-- Goes to the place of a key. A new key gets the place at the end, with the value `initial`. -/
def enter (groups : Groups α) (key : String) (initial : α) : Groups α × Nat :=
  match groups.index[key]? with
  | some place => (groups, place)
  | none =>
    let entries := groups.entries.push (key, initial)
    (⟨groups.index.insert key groups.entries.size, entries⟩, entries.size - 1)

/-- Puts an entry in a place. -/
def put (groups : Groups α) (place : Nat) (entry : String × α) : Groups α :=
  { groups with entries := groups.entries.setIfInBounds place entry }

/-- Changes the value in the place of a key. -/
def guardedUpdate (groups : Groups α) (key : String) (initial : α)
    (change : α → Except OutOfRange α) : Except OutOfRange (Groups α) := do
  let (entered, place) := groups.enter key initial
  let (name, value) ← entered.entryAt place
  let changed ← change value
  return entered.put place (name, changed)

/-- The value in the place of a key. -/
def guardedGet? (groups : Groups α) (key : String) : Except OutOfRange (Option α) :=
  match groups.index[key]? with
  | none => .ok none
  | some place => do
    let (_, value) ← groups.entryAt place
    return some value

/-- The groups of a sequence of calls: each call changes the value in the place of its key. -/
def guardedCollect (keyOf : β → String) (initial : α) (step : α → β → Except OutOfRange α)
    (calls : List β) : Except OutOfRange (Groups α) :=
  calls.foldlM
    (fun groups call => groups.guardedUpdate (keyOf call) initial (step · call)) .empty

/-- An access succeeds exactly if the entry is there. -/
theorem entryAt_eq_ok_iff {entry : String × α} :
    groups.entryAt place = .ok entry ↔ groups.entries[place]? = some entry := by
  unfold entryAt
  split
  · rename_i h
    simp [h]
  · rename_i h
    simp [Array.getElem?_eq_none (Nat.le_of_not_lt h)]

/-! ## Coherent groups -/

/-- A key stands in a place exactly if the place is in range and the entry there has this key. -/
theorem keys_getElem?_eq_some_iff :
    groups.keys[place]? = some key ↔
      ∃ h : place < groups.entries.size, groups.entries[place].1 = key := by
  rw [keys_getElem?, Option.map_eq_some_iff]
  constructor
  · rintro ⟨entry, hentry, rfl⟩
    obtain ⟨hlt, rfl⟩ := Array.getElem?_eq_some_iff.1 hentry
    exact ⟨hlt, rfl⟩
  · rintro ⟨hlt, rfl⟩
    exact ⟨groups.entries[place], Array.getElem?_eq_getElem hlt, rfl⟩

/-- The value of a key that is there stands in its place. -/
theorem Coherent.exists_place (h : groups.Coherent) (hkey : key ∈ groups.keys) :
    ∃ place value, groups.index[key]? = some place ∧
      groups.entries[place]? = some (key, value) ∧ groups.get? key = some value := by
  obtain ⟨place, hplace⟩ := List.mem_iff_getElem?.1 hkey
  have hindex := h.index_eq_some_iff.2 hplace
  rw [keys_getElem?, Option.map_eq_some_iff] at hplace
  obtain ⟨⟨k, value⟩, hentry, rfl⟩ := hplace
  refine ⟨place, value, hindex, hentry, ?_⟩
  simp [get?, hindex, hentry]

/-- In the place where a call goes there is the entry of its key. -/
theorem Coherent.entryAt_enter (h : groups.Coherent) (key : String) (initial : α) :
    (groups.enter key initial).1.entryAt (groups.enter key initial).2 =
      .ok (key, (groups.get? key).getD initial) := by
  rw [entryAt_eq_ok_iff]
  by_cases hkey : key ∈ groups.keys
  · obtain ⟨place, value, hindex, hentry, hvalue⟩ := h.exists_place hkey
    simp [enter, hindex, hentry, hvalue]
  · simp [enter, h.index_eq_none_iff.2 hkey, h.get?_eq_none_iff.2 hkey]

/-- Changing an entry that is known is putting another one in its place. -/
theorem modify_eq_set {entries : Array (String × α)} {value : α} (f : α → α)
    (h : entries[place]? = some (key, value)) :
    (entries.modify place fun entry => (entry.1, f entry.2)) =
      entries.setIfInBounds place (key, f value) := by
  obtain ⟨hlt, hentry⟩ := Array.getElem?_eq_some_iff.1 h
  apply Array.ext_getElem?
  intro i
  rw [Array.getElem?_modify, Array.getElem?_setIfInBounds]
  split
  · rename_i hi
    subst hi
    simp [hlt, hentry]
  · rfl

/-- A new value in the place where a call goes is an update. -/
theorem Coherent.put_enter (h : groups.Coherent) (key : String) (initial : α) (f : α → α) :
    (groups.enter key initial).1.put (groups.enter key initial).2
        (key, f ((groups.get? key).getD initial)) =
      groups.update key initial f := by
  by_cases hkey : key ∈ groups.keys
  · obtain ⟨place, value, hindex, hentry, hvalue⟩ := h.exists_place hkey
    simp [enter, put, Groups.update, hindex, hvalue, modify_eq_set f hentry]
  · -- the entry that was put at the end is written over
    have hpush : (groups.entries.push (key, initial)).setIfInBounds groups.entries.size
        (key, f initial) = groups.entries.push (key, f initial) := by
      apply Array.ext'
      simp
    have hnone := h.index_eq_none_iff.2 hkey
    simp [enter, put, Groups.update, hnone, h.get?_eq_none_iff.2 hkey, hpush]

/-- An update finds the value of its key, and so it fails only where the change does. -/
theorem Coherent.guardedUpdate_eq (h : groups.Coherent) (change : α → Except OutOfRange α)
    (f : α → α) (hchange : change ((groups.get? key).getD initial) =
      .ok (f ((groups.get? key).getD initial))) :
    groups.guardedUpdate key initial change = .ok (groups.update key initial f) := by
  have hentry := h.entryAt_enter key initial
  have hput := h.put_enter key initial f
  simp only [guardedUpdate, hentry, hchange, bind, Except.bind, pure, Except.pure, hput]

/-- A key is looked up in its own place. -/
theorem Coherent.guardedGet?_eq (h : groups.Coherent) (key : String) :
    groups.guardedGet? key = .ok (groups.get? key) := by
  by_cases hkey : key ∈ groups.keys
  · obtain ⟨place, value, hindex, hentry, hvalue⟩ := h.exists_place hkey
    rw [guardedGet?, hindex, hvalue]
    simp only [entryAt_eq_ok_iff.2 hentry]
    rfl
  · rw [guardedGet?, h.index_eq_none_iff.2 hkey, h.get?_eq_none_iff.2 hkey]

/-! ## Sequences of calls -/

section calls

variable (keyOf : β → String) (initial : α) (step : α → β → α) (calls : List β)

/-- What holds of the value at the start and is kept by every call holds of all values. -/
theorem getD_get?_collect_of_kept {P : α → Prop} (hinitial : P initial)
    (hkept : ∀ v call, P v → P (step v call)) (k : String) :
    P (((collect keyOf initial step calls).get? k).getD initial) := by
  rw [getD_get?_collect]
  apply List.foldlRecOn _ _ hinitial
  intro v hv call _
  exact hkept v call hv

/-- A last call works on the groups of the calls before it. -/
theorem guardedCollect_concat (change : α → β → Except OutOfRange α) (call : β) :
    guardedCollect keyOf initial change (calls ++ [call]) =
      guardedCollect keyOf initial change calls >>= fun groups =>
        groups.guardedUpdate (keyOf call) initial (change · call) := by
  simp only [guardedCollect, List.foldlM_append, List.foldlM_cons, List.foldlM_nil, bind_pure]

/-- Calls whose changes succeed on the values that they can meet find all places. -/
theorem guardedCollect_eq {P : α → Prop} {change : α → β → Except OutOfRange α}
    (hinitial : P initial) (hkept : ∀ v call, P v → P (step v call))
    (hchange : ∀ v call, P v → change v call = .ok (step v call)) :
    guardedCollect keyOf initial change calls = .ok (collect keyOf initial step calls) := by
  induction calls using List.reverseRecOn with
  | nil => rfl
  | append_singleton calls call ih =>
      have hcoherent := coherent_collect keyOf initial step calls
      -- the value that the last call meets is the work of the calls before it
      have hvalue := getD_get?_collect_of_kept keyOf initial step calls hinitial hkept (keyOf call)
      rw [guardedCollect_concat, ih, collect_concat]
      exact hcoherent.guardedUpdate_eq (change · call) (step · call) (hchange _ call hvalue)

/-- How index and entries belong together after a sequence of calls. Each call goes to the key
`keyOf call` and changes the value there by `step`; the value of a new key is `initial`. -/
structure InStep (groups : Groups α) : Prop where
  /-- No key has two entries. -/
  nodup : groups.keys.Nodup
  /-- The keys are those of the calls, in the order of their first calls. -/
  firstSeen : FirstSeen groups.keys (calls.map keyOf)
  /-- A key has a place in the index exactly if there is an entry in this place and it has the
  key. -/
  index_eq_some_iff : ∀ {key : String} {place : Nat}, groups.index[key]? = some place ↔
    ∃ h : place < groups.entries.size, groups.entries[place].1 = key
  /-- Two keys do not share a place. -/
  eq_of_index : ∀ {key key' : String} {place : Nat},
    groups.index[key]? = some place → groups.index[key']? = some place → key = key'
  /-- The value in a place comes from the calls at its own key alone. -/
  value_eq : ∀ {place : Nat} (h : place < groups.entries.size), groups.entries[place].2 =
    (calls.filter fun call => keyOf call = groups.entries[place].1).foldl step initial

/-- Index and entries stay in step through any sequence of calls. -/
theorem inStep_collect : InStep keyOf initial step calls (collect keyOf initial step calls) := by
  have hcoherent := coherent_collect keyOf initial step calls
  have hseen := firstSeen_keys_collect keyOf initial step calls
  refine ⟨hseen.nodup, hseen, ?_, ?_, ?_⟩
  · intro key place
    rw [hcoherent.index_eq_some_iff, keys_getElem?_eq_some_iff]
  · intro key key' place hindex hindex'
    rw [hcoherent.index_eq_some_iff] at hindex hindex'
    exact Option.some.inj (hindex.symm.trans hindex')
  · intro place hlt
    have hmem : (collect keyOf initial step calls).entries[place] ∈
        (collect keyOf initial step calls).toList :=
      Array.mem_toList_iff.2 (Array.getElem_mem hlt)
    rw [toList_collect] at hmem
    obtain ⟨k, -, hentry⟩ := List.mem_map.1 hmem
    rw [← hentry]

variable {keyOf initial step calls}

/-- The index gives for a key the place in which the key stands. -/
theorem InStep.index_iff_keys (h : groups.InStep keyOf initial step calls) :
    groups.index[key]? = some place ↔ groups.keys[place]? = some key :=
  h.index_eq_some_iff.trans keys_getElem?_eq_some_iff.symm

end calls

end Groups

/-! ## Aggregations -/

/-- The numbers of a measure by the texts of a dimension. -/
def guardedGroupBy (dimension measure : String) (dataset : Dataset) :
    Except OutOfRange (Groups (Array Binary64)) :=
  Groups.guardedCollect (·.groupKey dimension) #[]
    (fun values row => .ok (values.push (row.measured measure))) dataset

/-- The numbers of a measure by the texts of a dimension and of a second field. Each row goes
through two places, one in the groups and one in the groups inside of them. -/
def guardedGroupByTwo (dimension field measure : String) (dataset : Dataset) :
    Except OutOfRange (Groups (Groups (Array Binary64))) :=
  Groups.guardedCollect (·.groupKey dimension) .empty
    (fun parts row => parts.guardedUpdate (row.groupKey field) #[]
      fun values => .ok (values.push (row.measured measure))) dataset

/-- The places of a row of a split table: what is made of the numbers under each name. -/
def guardedCells (aggregator : Aggregator) (series : List String)
    (parts : Groups (Array Binary64)) : Except OutOfRange (List (Option Binary64)) :=
  series.mapM fun name => do
    let values ← parts.guardedGet? name
    return values.map fun values => aggregator.reduce values.toList

/-- Groups a dataset and reduces each group. -/
def guardedAggregate (spec : AggregationSpec) (dataset : Dataset) :
    Except OutOfRange Aggregation :=
  match spec.splitField? with
  | some field => do
    let series := distinctTexts field dataset
    let groups ← guardedGroupByTwo spec.dimension field spec.measure dataset
    let rows ← groups.toList.mapM fun (key, parts) => do
      return (key, ← guardedCells spec.aggregator series parts)
    return .pivoted { dimension := spec.dimension, series, rows }
  | none => do
    let groups ← guardedGroupBy spec.dimension spec.measure dataset
    return .grouped
      { dimension := spec.dimension
        measure := spec.measure
        points := groups.toList.map fun (key, values) =>
          (key, spec.aggregator.reduce values.toList) }

section aggregations

variable (dimension field measure : String) (dataset : Dataset)

/-- Grouping never accesses a place that is not there. -/
theorem guardedGroupBy_eq :
    guardedGroupBy dimension measure dataset = .ok (groupBy dimension measure dataset) := by
  rw [groupBy_eq_collect]
  -- pushing a number succeeds on all values
  exact Groups.guardedCollect_eq (P := fun _ => True) _ _ _ _ trivial (fun _ _ _ => trivial)
    fun _ _ _ => rfl

/-- The groups inside of groups are coherent at every call, so both accesses of a row find their
entries. -/
theorem guardedGroupByTwo_eq :
    guardedGroupByTwo dimension field measure dataset =
      .ok (groupByTwo dimension field measure dataset) := by
  rw [groupByTwo_eq_collect]
  apply Groups.guardedCollect_eq _ _ _ _ Groups.coherent_empty
  · intro parts row hparts
    exact hparts.update _ _ _
  · intro parts row hparts
    exact hparts.guardedUpdate_eq _ _ rfl

/-- Grouping keeps the index coherent. -/
theorem coherent_groupBy : (groupBy dimension measure dataset).Coherent := by
  rw [groupBy_eq_collect]
  exact Groups.coherent_collect _ _ _ _

/-- The places of a row of a split table are all there. -/
theorem guardedCells_eq {parts : Groups (Array Binary64)} (h : parts.Coherent)
    (aggregator : Aggregator) (series : List String) :
    guardedCells aggregator series parts = .ok (series.map fun name =>
      (parts.get? name).map fun values => aggregator.reduce values.toList) := by
  have hget : ∀ name, parts.guardedGet? name = pure (parts.get? name) := h.guardedGet?_eq
  simp only [guardedCells, hget, pure_bind, List.mapM_pure]
  rfl

/-- No access of an aggregation is stopped. -/
theorem guardedAggregate_eq (spec : AggregationSpec) :
    guardedAggregate spec dataset = .ok (aggregate spec dataset) := by
  cases h : spec.splitField? with
  | none =>
      simp only [guardedAggregate, aggregate, h, guardedGroupBy_eq]
      rfl
  | some field =>
      have hgroups : guardedGroupByTwo spec.dimension field spec.measure dataset =
          pure (groupByTwo spec.dimension field spec.measure dataset) :=
        guardedGroupByTwo_eq _ _ _ _
      have hcells : ∀ rows, guardedCells spec.aggregator (distinctTexts field dataset)
          (groupBy field spec.measure rows) = pure _ := fun rows =>
        guardedCells_eq (coherent_groupBy field spec.measure rows) _ _
      -- the groups inside of groups are named by their rows, so that they are known to be coherent
      simp only [guardedAggregate, aggregate, h, hgroups, pure_bind, toList_groupByTwo,
        List.mapM_map, Function.comp_def, hcells, List.mapM_pure, List.map_map]
      rfl

end aggregations

/-- **Index and entries stay in step.** Calls that start from no groups, with any changes of the
values, find every place: the keys are distinct and stand in the order of their first calls, the
index has a place for a key exactly if the entry there is in range and has this key, and the value
there comes from the calls at this key alone. Looking up any key afterwards stays in range too. In a
split table this holds of the groups and of the groups inside of each of them, and no aggregation is
stopped by a place that is not there. -/
theorem index_in_step :
    (∀ {α β : Type} (keyOf : β → String) (initial : α) (step : α → β → α) (calls : List β),
      ∃ groups : Groups α, groups = .collect keyOf initial step calls ∧
        Groups.guardedCollect keyOf initial (fun value call => .ok (step value call)) calls =
          .ok groups ∧
        groups.InStep keyOf initial step calls ∧
        ∀ key, groups.guardedGet? key = .ok (groups.get? key)) ∧
    (∀ (dimension field measure : String) (dataset : Dataset),
      ∃ groups, groups = groupByTwo dimension field measure dataset ∧
        guardedGroupByTwo dimension field measure dataset = .ok groups ∧
        groups.InStep (·.groupKey dimension) .empty
          (fun parts row => parts.update (row.groupKey field) #[] (·.push (row.measured measure)))
          dataset ∧
        ∀ key parts, (key, parts) ∈ groups.toList →
          parts.InStep (·.groupKey field) #[]
            (fun values row => values.push (row.measured measure))
            (dataset.rowsWith dimension key)) ∧
    ∀ (spec : AggregationSpec) (dataset : Dataset),
      guardedAggregate spec dataset = .ok (aggregate spec dataset) := by
  refine ⟨?_, ?_, fun spec dataset => guardedAggregate_eq dataset spec⟩
  · intro α β keyOf initial step calls
    refine ⟨_, rfl, Groups.guardedCollect_eq (P := fun _ => True) keyOf initial step calls trivial
      (fun _ _ _ => trivial) (fun _ _ _ => rfl), Groups.inStep_collect _ _ _ _, ?_⟩
    exact (Groups.coherent_collect keyOf initial step calls).guardedGet?_eq
  · intro dimension field measure dataset
    refine ⟨_, rfl, guardedGroupByTwo_eq _ _ _ _, ?_, ?_⟩
    · rw [groupByTwo_eq_collect]
      exact Groups.inStep_collect _ _ _ _
    · intro key parts hparts
      rw [toList_groupByTwo, List.mem_map] at hparts
      obtain ⟨key, -, heq⟩ := hparts
      obtain ⟨rfl, rfl⟩ := Prod.mk.inj heq
      rw [groupBy_eq_collect]
      exact Groups.inStep_collect _ _ _ _

/-- Sales split by product: the second product of the north has a place of its own behind the first
one, whose numbers come from two rows that are not neighbours. In the south it has none. -/
theorem index_in_step_sales :
    ∃ groups north south, guardedGroupByTwo "region" "product" "revenue" someSales = .ok groups ∧
      groups.index["North"]? = some 0 ∧ groups.index["South"]? = some 1 ∧
      ("North", north) ∈ groups.toList ∧ ("South", south) ∈ groups.toList ∧
      north.index["A"]? = some 0 ∧ north.index["B"]? = some 1 ∧ south.keys = ["A"] ∧
      ∃ h : 0 < north.entries.size, north.entries[0].2 = #[.ofNat 100, .zero false] := by
  obtain ⟨groups, -, hguarded, houter, hinner⟩ :=
    index_in_step.2.1 "region" "product" "revenue" someSales
  have hkeys : groups.keys = ["North", "South"] :=
    (houter.firstSeen.eq (firstSeen_distinctTexts _ _)).trans (by decide +kernel)
  have hentry : ∀ region ∈ groups.keys, ∃ parts, (region, parts) ∈ groups.toList := by
    intro region hregion
    obtain ⟨⟨_, parts⟩, hmem, rfl⟩ := List.mem_map.1 hregion
    exact ⟨parts, hmem⟩
  obtain ⟨north, hmemNorth⟩ := hentry "North" (by rw [hkeys]; decide)
  obtain ⟨south, hmemSouth⟩ := hentry "South" (by rw [hkeys]; decide)
  have hnorth := hinner _ _ hmemNorth
  have hsouth := hinner _ _ hmemSouth
  have hproducts : north.keys = ["A", "B"] :=
    (hnorth.firstSeen.eq (firstSeen_distinctTexts _ _)).trans (by decide +kernel)
  have hfirst : north.index["A"]? = some 0 := by
    rw [hnorth.index_iff_keys, hproducts]
    rfl
  refine ⟨groups, north, south, hguarded, ?_, ?_, hmemNorth, hmemSouth, hfirst, ?_, ?_, ?_⟩
  · rw [houter.index_iff_keys, hkeys]
    rfl
  · rw [houter.index_iff_keys, hkeys]
    rfl
  · rw [hnorth.index_iff_keys, hproducts]
    rfl
  · exact (hsouth.firstSeen.eq (firstSeen_distinctTexts _ _)).trans (by decide +kernel)
  · obtain ⟨hlt, hkey⟩ := hnorth.index_eq_some_iff.1 hfirst
    refine ⟨hlt, ?_⟩
    rw [hnorth.value_eq hlt, hkey]
    decide +kernel

end Dashboard
