import Mathlib
import AddressSpace.Space

/-!
# Reading the attributes of a store built by adds

An attribute store is a flat list of records, appended to by `addValue` and searched from
the front by `getValue`. Its reads are therefore decided by the add history alone: a read of
`(n, a)` sees the value of the earliest add for exactly that pair, and later adds for the
pair are shadowed; a pair never added reads as `BadNotReadable`. Since an add stores only
values, never bare status codes, the status of a read tells a hit from a miss.

* `AttributeStore.ofList` — the store that a list of adds builds;
* `AttributeStore.OnlyValues` — every record holds a value; true of every store built by adds;
* `getValue_addValue` — the step lemma: one more add changes only the reads of its own pair,
  and only when that pair had no record;
* **`read_ofList`** — for a store built by adds: a read answers each request in order with
  `getValue`; `getValue` returns the value of the earliest add for the pair, or
  `BadNotReadable` when there is none; its status is good exactly for added pairs and bad
  exactly for the others; an add for a pair already present changes nothing; and every
  write is answered with `BadWriteNotSupported`.
-/

namespace AddressSpace

namespace AttributeStore

/-- The store built by adding the values of a list in order, from the empty store. -/
def ofList (adds : List (NodeId × AttributeId × Variant)) : AttributeStore :=
  adds.foldl (fun st e => st.addValue e.1 e.2.1 e.2.2) empty

/-- The record that an add stores. -/
def recordOf (e : NodeId × AttributeId × Variant) : AttributeRecord := ⟨e.1, e.2.1, .value e.2.2⟩

/-! ### What one add does -/

@[simp] theorem records_addValue (st : AttributeStore) (n : NodeId) (a : AttributeId)
    (v : Variant) : (st.addValue n a v).records = st.records ++ [⟨n, a, .value v⟩] := rfl

theorem ofList_append_singleton (adds : List (NodeId × AttributeId × Variant)) (n : NodeId)
    (a : AttributeId) (v : Variant) : ofList (adds ++ [(n, a, v)]) = (ofList adds).addValue n a v := by
  simp [ofList, List.foldl_append]

theorem records_ofList (adds : List (NodeId × AttributeId × Variant)) :
    (ofList adds).records = adds.map recordOf := by
  induction adds using List.reverseRecOn with
  | nil => rfl
  | append_singleton adds e ih =>
    obtain ⟨n, a, v⟩ := e
    rw [ofList_append_singleton, records_addValue, ih, List.map_append]
    rfl

/-- The store holds a record for exactly the pair `(n, a)`. -/
def Holds (st : AttributeStore) (n : NodeId) (a : AttributeId) : Prop :=
  ∃ r ∈ st.records, r.nodeId = n ∧ r.attributeId = a

instance (st : AttributeStore) (n : NodeId) (a : AttributeId) : Decidable (st.Holds n a) :=
  inferInstanceAs (Decidable (∃ r ∈ st.records, r.nodeId = n ∧ r.attributeId = a))

/-- The search of `getValue` finds a record exactly when the store holds one for the pair. -/
theorem find?_isSome_iff (st : AttributeStore) (n : NodeId) (a : AttributeId) :
    (st.records.find? fun r => r.nodeId == n && r.attributeId == a).isSome ↔ st.Holds n a := by
  simp [Holds, List.find?_isSome]

/-- **One add shadows nothing that was there.** After adding a value for `(n, a)`, a read of
a pair the store already held is as before; a read of `(n, a)` itself that used to miss now
sees the new value; every other read still misses. -/
theorem getValue_addValue (st : AttributeStore) (n : NodeId) (a : AttributeId) (v : Variant)
    (n' : NodeId) (a' : AttributeId) :
    (st.addValue n a v).getValue n' a' =
      if st.Holds n' a' then st.getValue n' a'
      else if n = n' ∧ a = a' then .value v else DataValue.notReadable := by
  by_cases hold : st.Holds n' a'
  · -- the search stops inside the old records
    obtain ⟨r, hr⟩ := Option.isSome_iff_exists.1 ((find?_isSome_iff st n' a').2 hold)
    simp [getValue, List.find?_append, hr, hold]
  · have hnone : (st.records.find? fun r => r.nodeId == n' && r.attributeId == a') = none := by
      simpa using (not_congr (find?_isSome_iff st n' a')).2 hold
    by_cases hpair : n = n' ∧ a = a'
    · simp [getValue, List.find?_append, hnone, hold, hpair]
    · simp only [getValue, records_addValue, List.find?_append, hnone, Option.none_or, hold,
        hpair, if_false]
      rw [List.find?_singleton]
      simp only [Bool.and_eq_true, beq_iff_eq]
      rw [if_neg hpair]

/-! ### Stores hold only values -/

/-- Every record of the store holds a value, not a bare status. -/
def OnlyValues (st : AttributeStore) : Prop := ∀ r ∈ st.records, ∃ v, r.value = .value v

theorem onlyValues_empty : empty.OnlyValues := by
  simp [OnlyValues, empty]

theorem OnlyValues.addValue {st : AttributeStore} (h : st.OnlyValues) (n : NodeId)
    (a : AttributeId) (v : Variant) : (st.addValue n a v).OnlyValues := by
  intro r hr
  rcases List.mem_append.1 hr with hold | hnew
  · exact h r hold
  · exact ⟨v, by rw [List.mem_singleton.1 hnew]⟩

theorem onlyValues_ofList (adds : List (NodeId × AttributeId × Variant)) :
    (ofList adds).OnlyValues := by
  induction adds using List.reverseRecOn with
  | nil => exact onlyValues_empty
  | append_singleton adds e ih =>
    rw [ofList_append_singleton]
    exact ih.addValue _ _ _

/-- In a store of values, a read misses exactly when the store holds no record for the pair. -/
theorem OnlyValues.getValue_eq_notReadable_iff {st : AttributeStore} (h : st.OnlyValues)
    (n : NodeId) (a : AttributeId) : st.getValue n a = DataValue.notReadable ↔ ¬st.Holds n a := by
  unfold getValue
  cases hf : st.records.find? fun r => r.nodeId == n && r.attributeId == a with
  | none =>
    have : ¬st.Holds n a := by simpa [hf] using not_congr (find?_isSome_iff st n a)
    simp [this]
  | some r =>
    have hold : st.Holds n a := (find?_isSome_iff st n a).1 (by simp [hf])
    -- the record found holds a value, which is no status
    obtain ⟨v, hv⟩ := h r (List.mem_of_find?_eq_some hf)
    simp [hv, hold, DataValue.notReadable]

theorem StatusCode.good_isGood : StatusCode.good.isGood = true := by decide

theorem StatusCode.good_isBad : StatusCode.good.isBad = false := by decide

theorem StatusCode.badNotReadable_isGood : StatusCode.badNotReadable.isGood = false := by decide

theorem StatusCode.badNotReadable_isBad : StatusCode.badNotReadable.isBad = true := by decide

/-- Every read of a store of values is a value or `BadNotReadable`. -/
theorem OnlyValues.getValue_cases {st : AttributeStore} (h : st.OnlyValues) (n : NodeId)
    (a : AttributeId) : (∃ v, st.getValue n a = .value v) ∨ st.getValue n a = DataValue.notReadable := by
  unfold getValue
  cases hf : st.records.find? fun r => r.nodeId == n && r.attributeId == a with
  | none => exact Or.inr rfl
  | some r =>
    obtain ⟨v, hv⟩ := h r (List.mem_of_find?_eq_some hf)
    exact Or.inl ⟨v, hv⟩

/-- **The status of a read tells a hit from a miss.** In a store of values the status of a
read is good exactly when the store holds the pair, and bad exactly when it does not. -/
theorem OnlyValues.status_getValue {st : AttributeStore} (h : st.OnlyValues) (n : NodeId)
    (a : AttributeId) :
    ((st.getValue n a).statusCode.isGood = true ↔ st.Holds n a) ∧
      ((st.getValue n a).statusCode.isBad = true ↔ ¬st.Holds n a) := by
  have hmiss := h.getValue_eq_notReadable_iff n a
  rcases h.getValue_cases n a with ⟨v, hv⟩ | hv
  · have hold : st.Holds n a := by
      by_contra hno
      rw [← hmiss, hv] at hno
      cases hno
    simp [hv, DataValue.statusCode, StatusCode.good_isGood, StatusCode.good_isBad, hold]
  · have hno : ¬st.Holds n a := hmiss.1 hv
    simp [hv, DataValue.notReadable, DataValue.statusCode, StatusCode.badNotReadable_isGood,
      StatusCode.badNotReadable_isBad, hno]

/-! ### Reads of a store built by adds -/

section OfList

variable (adds : List (NodeId × AttributeId × Variant)) (n : NodeId) (a : AttributeId)

/-- The add `e` is one for the pair `(n, a)`. -/
def IsFor (e : NodeId × AttributeId × Variant) : Prop := e.1 = n ∧ e.2.1 = a

theorem holds_ofList_iff : (ofList adds).Holds n a ↔ ∃ v, (n, a, v) ∈ adds := by
  simp only [Holds, records_ofList, List.mem_map]
  constructor
  · rintro ⟨_, ⟨⟨n', a', v⟩, he, rfl⟩, rfl, rfl⟩
    exact ⟨v, he⟩
  · rintro ⟨v, hv⟩
    exact ⟨_, ⟨(n, a, v), hv, rfl⟩, rfl, rfl⟩

/-- The search of `getValue` over a store built by adds is a search of the adds. -/
theorem getValue_ofList :
    (ofList adds).getValue n a =
      match adds.find? (fun e => e.1 == n && e.2.1 == a) with
      | some e => .value e.2.2
      | none => DataValue.notReadable := by
  have hmatch : ((fun r : AttributeRecord => r.nodeId == n && r.attributeId == a) ∘ recordOf) =
      fun e => e.1 == n && e.2.1 == a := rfl
  unfold getValue
  rw [records_ofList, List.find?_map, hmatch]
  cases adds.find? (fun e => e.1 == n && e.2.1 == a) <;> rfl

/-- **First match wins.** A read of a store built by adds sees the value `v` exactly when
`(n, a, v)` is the earliest add for the pair `(n, a)`. -/
theorem getValue_ofList_eq_value_iff (v : Variant) :
    (ofList adds).getValue n a = .value v ↔
      ∃ pre post, adds = pre ++ (n, a, v) :: post ∧ ∀ e ∈ pre, ¬IsFor n a e := by
  have hsearch : ∀ e, adds.find? (fun e => e.1 == n && e.2.1 == a) = some e ↔
      IsFor n a e ∧ ∃ pre post, adds = pre ++ e :: post ∧ ∀ e' ∈ pre, ¬IsFor n a e' := by
    intro e
    simp [List.find?_eq_some_iff_append, IsFor, imp_iff_not_or]
  rw [getValue_ofList]
  constructor
  · intro hv
    cases hf : adds.find? (fun e => e.1 == n && e.2.1 == a) with
    | none => simp [hf, DataValue.notReadable] at hv
    | some e =>
      simp only [hf, DataValue.value.injEq] at hv
      obtain ⟨⟨rfl, rfl⟩, pre, post, heq, hpre⟩ := (hsearch e).1 hf
      -- the earliest add for the pair is `e` itself
      exact ⟨pre, post, by rw [heq, ← hv], hpre⟩
  · rintro ⟨pre, post, heq, hpre⟩
    rw [(hsearch (n, a, v)).2 ⟨⟨rfl, rfl⟩, pre, post, heq, hpre⟩]

example :
    (ofList [(WellKnown.rootFolder.nodeId, .value, .uint32 1),
      (WellKnown.rootFolder.nodeId, .value, .uint32 2)]).getValue
      WellKnown.rootFolder.nodeId .value = .value (.uint32 1) := by
  decide

/-- A read of a store built by adds misses exactly when no add was for the pair. -/
theorem getValue_ofList_eq_notReadable_iff :
    (ofList adds).getValue n a = DataValue.notReadable ↔ ∀ v, (n, a, v) ∉ adds := by
  rw [(onlyValues_ofList adds).getValue_eq_notReadable_iff, holds_ofList_iff]
  simp

/-- Adds after the first one for a pair are never seen by its reads. -/
theorem getValue_ofList_append (later : List (NodeId × AttributeId × Variant))
    (h : ∃ v, (n, a, v) ∈ adds) :
    (ofList (adds ++ later)).getValue n a = (ofList adds).getValue n a := by
  obtain ⟨v, hv⟩ := h
  have hsome : (adds.find? fun e => e.1 == n && e.2.1 == a).isSome := by
    rw [List.find?_isSome]
    exact ⟨_, hv, by simp⟩
  obtain ⟨e, he⟩ := Option.isSome_iff_exists.1 hsome
  rw [getValue_ofList, getValue_ofList, List.find?_append, he]
  rfl

/-- A read answers each request, in request order, with `getValue`. -/
theorem getElem?_read (st : AttributeStore) (reqs : List ReadValueId) (k : Nat) :
    (st.read reqs)[k]? = reqs[k]?.map fun q => st.getValue q.nodeId q.attributeId := by
  simp [read]

theorem length_read (st : AttributeStore) (reqs : List ReadValueId) :
    (st.read reqs).length = reqs.length := by
  simp [read]

theorem write_eq_replicate (st : AttributeStore) (ws : List WriteValue) :
    st.write ws = List.replicate ws.length StatusCode.badWriteNotSupported := by
  simp [write, List.map_const']

/-- **Reads and writes of a store built by adds.** A read has one result per request, and
the `k`-th is `getValue` of the `k`-th request. `getValue` sees the value of the earliest
add for exactly its pair, and misses (with `BadNotReadable`) exactly when no add was for
the pair; adds after the first for a pair never change its reads. Since adds store only
values, the status of a read is good exactly when its pair was added and bad exactly when
it was not. A write answers `BadWriteNotSupported` once per request; it yields no new
store, so every later read is a read of the same store. -/
theorem read_ofList (reqs : List ReadValueId) (ws : List WriteValue) :
    ((ofList adds).read reqs).length = reqs.length ∧
    (∀ k : Nat, ((ofList adds).read reqs)[k]? =
      reqs[k]?.map fun q : ReadValueId => (ofList adds).getValue q.nodeId q.attributeId) ∧
    (∀ n a v, (ofList adds).getValue n a = .value v ↔
      ∃ pre post, adds = pre ++ (n, a, v) :: post ∧ ∀ e ∈ pre, ¬IsFor n a e) ∧
    (∀ n a, (ofList adds).getValue n a = DataValue.notReadable ↔ ∀ v, (n, a, v) ∉ adds) ∧
    (∀ later n a, (∃ v, (n, a, v) ∈ adds) →
      (ofList (adds ++ later)).getValue n a = (ofList adds).getValue n a) ∧
    (∀ n a, ((ofList adds).getValue n a).statusCode.isGood = true ↔ ∃ v, (n, a, v) ∈ adds) ∧
    (∀ n a, ((ofList adds).getValue n a).statusCode.isBad = true ↔ ¬∃ v, (n, a, v) ∈ adds) ∧
    (ofList adds).write ws = List.replicate ws.length StatusCode.badWriteNotSupported := by
  have hstatus := fun n a => (onlyValues_ofList adds).status_getValue n a
  refine ⟨length_read _ reqs, getElem?_read _ reqs, getValue_ofList_eq_value_iff adds,
    getValue_ofList_eq_notReadable_iff adds, fun later n a h => getValue_ofList_append adds n a later h,
    fun n a => ?_, fun n a => ?_, write_eq_replicate _ ws⟩
  · rw [(hstatus n a).1, holds_ofList_iff]
  · rw [(hstatus n a).2, holds_ofList_iff]

end OfList

end AttributeStore

end AddressSpace
