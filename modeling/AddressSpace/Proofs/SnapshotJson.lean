import Mathlib
import AddressSpace.Proofs.JsonText
import AddressSpace.Proofs.NodeIdText
import AddressSpace.Proofs.StoreIndex
import AddressSpace.Proofs.AttributeRead

/-!
# Snapshots read back from their JSON text

A snapshot's pretty JSON text, read and then decoded, gives the snapshot back. The reader
keeps each object's members in the byte order of their names and the decoder looks them up
by name, so what carries the round trip is that every object the encoders write has members
of distinct names.

* `Json.normalizeMembers_perm` — the members the reader keeps of an object with distinct
  names are the members written, each read back, in another order;
* `Json.HoldsMembers` — a list of members that holds those of an object, each read back,
  under distinct names; `HoldsMembers.field` — a record over it reads each field;
* `Decode.unitEnumIn_name` — an enumeration reads back from its name;
* `QualifiedName.decode_toJson` … `Snapshot.decode_toJson` — each type decodes from its
  JSON form as the reader gives it back, and `Snapshot.readable_toJson`: the JSON form of a
  snapshot is one the reader gives back;
* `Space.build` — the space built by a sequence of inserts and added values;
* **`Space.build_snapshot_roundTrip`** — the text of a built space's snapshot reads back to
  the snapshot, which lists the references and the records in the order they were added.
-/

namespace AddressSpace

namespace Json

/-! ### The members the reader keeps -/

@[simp] theorem normalize_bool (b : Bool) : normalize (.bool b) = .bool b := by rw [normalize]

@[simp] theorem normalize_num (n : Int) : normalize (.num n) = .num n := by rw [normalize]

@[simp] theorem normalize_str (s : String) : normalize (.str s) = .str s := by rw [normalize]

theorem normalizeItems_eq_map (xs : List Json) : normalizeItems xs = xs.map normalize := by
  induction xs with
  | nil => rw [normalizeItems, List.map_nil]
  | cons x xs ih => rw [normalizeItems, ih, List.map_cons]

@[simp] theorem normalize_arr (xs : List Json) : normalize (.arr xs) = .arr (xs.map normalize) := by
  rw [normalize, normalizeItems_eq_map]

@[simp] theorem normalize_obj (ms : List (String × Json)) :
    normalize (.obj ms) = .obj (normalizeMembers [] ms) := by
  rw [normalize]

/-- Setting a member under a new name adds it, in some place. -/
theorem setMember_perm {k : String} {v : Json} {acc : List (String × Json)}
    (hk : k ∉ acc.map Prod.fst) : (setMember k v acc).Perm ((k, v) :: acc) := by
  induction acc with
  | nil => exact List.Perm.refl _
  | cons m acc ih =>
    obtain ⟨k', v'⟩ := m
    simp only [List.map_cons, List.mem_cons, not_or] at hk
    simp only [setMember]
    split_ifs with hlt heq
    · exact List.Perm.refl _
    · exact absurd heq hk.1
    · exact ((ih hk.2).cons _).trans (List.Perm.swap _ _ _)

/-- Members of distinct names, set one by one, are all kept, each read back. -/
theorem normalizeMembers_perm (acc : List (String × Json)) {ms : List (String × Json)}
    (hnd : (acc.map Prod.fst ++ ms.map Prod.fst).Nodup) :
    (normalizeMembers acc ms).Perm (acc ++ ms.map fun m => (m.1, normalize m.2)) := by
  induction ms generalizing acc with
  | nil => simp [normalizeMembers]
  | cons m ms ih =>
    obtain ⟨k, v⟩ := m
    simp only [List.map_cons] at hnd
    -- the new name is none of those set before nor of those still to come
    have hnd1 : (k :: (acc.map Prod.fst ++ ms.map Prod.fst)).Nodup := List.perm_middle.nodup_iff.1 hnd
    have hk : k ∉ acc.map Prod.fst := fun h => (List.nodup_cons.1 hnd1).1 (List.mem_append_left _ h)
    have hset := setMember_perm (v := normalize v) hk
    have hnd' : ((setMember k (normalize v) acc).map Prod.fst ++ ms.map Prod.fst).Nodup :=
      ((hset.map Prod.fst).append_right _).nodup_iff.2 hnd1
    rw [normalizeMembers]
    exact (ih _ hnd').trans ((hset.append_right _).trans List.perm_middle.symm)

/-- What a decoder needs of the members it reads: distinct names, and each member of the
object `ms`, read back. -/
structure HoldsMembers (kept ms : List (String × Json)) : Prop where
  nodup : (kept.map Prod.fst).Nodup
  mem : ∀ m ∈ ms, (m.1, normalize m.2) ∈ kept

/-- The members a decoder sorts out of an object with distinct names, as the reader gives it
back, are the object's members, each read back, in another order. -/
theorem sortMembers_normalize_perm {ms : List (String × Json)} (hnd : (ms.map Prod.fst).Nodup) :
    (sortMembers (normalizeMembers [] ms)).Perm (ms.map fun m => (m.1, normalize m.2)) :=
  (List.mergeSort_perm _ _).trans (normalizeMembers_perm [] (by simpa using hnd))

theorem holdsMembers_sort (ms : List (String × Json)) (hnd : (ms.map Prod.fst).Nodup) :
    HoldsMembers (sortMembers (normalizeMembers [] ms)) ms := by
  have hperm := sortMembers_normalize_perm hnd
  refine ⟨(hperm.map Prod.fst).nodup_iff.2 (by simpa [Function.comp_def] using hnd), ?_⟩
  intro m hm
  exact hperm.mem_iff.2 (List.mem_map_of_mem hm)

/-- No member of a name the object does not have is kept. -/
theorem not_mem_sort {ms : List (String × Json)} (hnd : (ms.map Prod.fst).Nodup) {k : String}
    (hk : k ∉ ms.map Prod.fst) : k ∉ (sortMembers (normalizeMembers [] ms)).map Prod.fst := by
  rw [((sortMembers_normalize_perm hnd).map Prod.fst).mem_iff]
  simpa [Function.comp_def] using hk

theorem HoldsMembers.of_cons {kept ms : List (String × Json)} {m : String × Json}
    (h : HoldsMembers kept (m :: ms)) : HoldsMembers kept ms :=
  ⟨h.nodup, fun m' hm' => h.mem m' (List.mem_cons_of_mem _ hm')⟩

/-- Leaving out the members of one name the object does not have keeps the others. -/
theorem HoldsMembers.filter {kept ms : List (String × Json)} (h : HoldsMembers kept ms)
    {k : String} (hk : k ∉ ms.map Prod.fst) :
    HoldsMembers (kept.filter fun m => m.1 != k) ms := by
  refine ⟨h.nodup.sublist ((List.filter_sublist).map Prod.fst), ?_⟩
  intro m hm
  refine List.mem_filter.2 ⟨h.mem m hm, ?_⟩
  have hne : m.1 ≠ k := fun he => hk (he ▸ List.mem_map_of_mem hm)
  simpa using hne

end Json

/-! ### Records read from members -/

theorem findMember_of_mem {name : String} {v : Json} {kept : List (String × Json)}
    (hnd : (kept.map Prod.fst).Nodup) (hmem : (name, v) ∈ kept) (p : Nat) :
    ∃ q, findMember name kept p = some (q, v) := by
  induction kept generalizing p with
  | nil => exact absurd hmem List.not_mem_nil
  | cons m kept ih =>
    obtain ⟨k, w⟩ := m
    rw [List.map_cons, List.nodup_cons] at hnd
    rw [findMember]
    rcases List.mem_cons.1 hmem with h | hmem
    · obtain ⟨rfl, rfl⟩ := Prod.mk.inj h
      exact ⟨p, by simp⟩
    · -- the name is there once, so the member asked for comes further on
      have hne : k ≠ name := by
        rintro rfl
        exact hnd.1 (List.mem_map.2 ⟨_, hmem, rfl⟩)
      rw [if_neg hne]
      exact ih hnd.2 hmem (p + 1)

theorem findMember_eq_none {name : String} {kept : List (String × Json)}
    (h : name ∉ kept.map Prod.fst) (p : Nat) : findMember name kept p = none := by
  induction kept generalizing p with
  | nil => rfl
  | cons m kept ih =>
    obtain ⟨k, w⟩ := m
    simp only [List.map_cons, List.mem_cons, not_or] at h
    rw [findMember, if_neg (Ne.symm h.1), ih h.2]

namespace Reading

@[simp] theorem map_pure {α β : Type} (f : α → β) (a : α) :
    f <$> (pure a : Reading α) = pure (f a) := rfl

@[simp] theorem pure_seq {α β : Type} (f : α → β) (a : α) :
    (pure f : Reading (α → β)) <*> pure a = pure (f a) := rfl

@[simp] theorem pure_seqLeft {α β : Type} (a : α) (b : β) :
    (pure a : Reading α) <* (pure b : Reading β) = pure a := rfl

@[simp] theorem run_pure {α : Type} (a : α) : (pure a : Reading α).run = .ok a := rfl

end Reading

namespace Record

variable {α : Type} {name k : String} {fieldNames : List String} {src : Source}

@[simp] theorem finish_members (kept : List (String × Json)) :
    (Record.mk name fieldNames (.members kept) src).finish = pure () := rfl

/-- A record over members of distinct names reads the field of each. -/
theorem field_of_mem {kept : List (String × Json)} {absent : Absent α} {read : Decode.Reader α}
    {v : Json} {x : α} (hnd : (kept.map Prod.fst).Nodup) (hmem : (k, v) ∈ kept)
    (hread : read v = .ok x) :
    (Record.mk name fieldNames (.members kept) src).field k absent read = pure x := by
  obtain ⟨p, hp⟩ := findMember_of_mem hnd hmem 0
  simp only [field, hp, hread, Except.mapError]
  rfl

/-- A field that may be absent and is, is its default. -/
theorem field_optional_of_not_mem {kept : List (String × Json)} {read : Decode.Reader α} {d : α}
    (hk : k ∉ kept.map Prod.fst) :
    (Record.mk name fieldNames (.members kept) src).field k (.optional d) read = pure d := by
  simp only [field, findMember_eq_none hk 0]
  rfl

end Record

namespace Json

/-- A record over members that hold an object's reads each field the object has. -/
theorem HoldsMembers.field {α : Type} {name : String} {fieldNames : List String}
    {src : Source} {absent : Absent α} {read : Decode.Reader α} {kept ms : List (String × Json)}
    (h : HoldsMembers kept ms) (k : String) {v : Json} {x : α} (hmem : (k, v) ∈ ms)
    (hread : read (normalize v) = .ok x) :
    (Record.mk name fieldNames (.members kept) src).field k absent read = pure x :=
  Record.field_of_mem h.nodup (h.mem _ hmem) hread

end Json

/-! ### The decoders on the JSON forms -/

namespace Decode

theorem string_str (s : String) : string (Json.normalize (.str s)) = .ok s := by
  simp [string]

theorem bool_bool (b : Bool) : bool (Json.normalize (.bool b)) = .ok b := by
  simp [bool]

theorem option_string_str (s : String) :
    option string (Json.normalize (.str s)) = .ok (some s) := by
  simp [option, string, Except.map]

theorem uint16_toNat (v : UInt16) : uint16 (Json.normalize (.num v.toNat)) = .ok v := by
  have hv := v.toNat_lt
  simp only [Json.normalize_num, uint16, integer]
  rw [if_pos (by omega)]
  simp [Except.map, UInt16.ofNat_toNat]

theorem uint32_toNat (v : UInt32) : uint32 (Json.normalize (.num v.toNat)) = .ok v := by
  have hv := v.toNat_lt
  simp only [Json.normalize_num, uint32, integer]
  rw [if_pos (by omega)]
  simp [Except.map, UInt32.ofNat_toNat]

theorem int32_toInt (v : Int32) : int32 (Json.normalize (.num v.toInt)) = .ok v := by
  have hlo := Int32.le_toInt v
  have hhi := Int32.toInt_lt v
  simp only [Json.normalize_num, int32, integer]
  rw [if_pos (by omega)]
  simp [Except.map, Int32.ofInt_toInt]

theorem nodeId_toJson (n : NodeId) : nodeId (Json.normalize n.toJson) = .ok n := by
  have h := (NodeId.parse_eq_ok_iff n.toText n).2 (NodeId.nodeIdText_toText n)
  simp only [NodeId.toJson, Json.normalize_str, nodeId, string, bind, Except.bind, h]

/-- An enumeration reads back from the name of each of its cases, when no two cases share
a name. -/
theorem unitEnumIn_name {β : Type} (src : Source) (name : β → String) {all : List β}
    (hnd : (all.map name).Nodup) {b : β} (hb : b ∈ all) :
    unitEnumIn src (all.map fun b => (name b, b)) (.str (name b)) = .ok b := by
  have hlookup : (all.map fun b => (name b, b)).lookup (name b) = some b := by
    induction all with
    | nil => exact absurd hb List.not_mem_nil
    | cons c all ih =>
      simp only [List.map_cons, List.nodup_cons] at hnd
      rcases List.mem_cons.1 hb with rfl | hb
      · simp
      · have hne : (name b == name c) = false :=
          beq_eq_false_iff_ne.2 fun h => hnd.1 (h ▸ List.mem_map_of_mem hb)
        simp only [List.map_cons, List.lookup, hne]
        exact ih hnd.2 hb
  simp only [unitEnumIn, hlookup]

/-- An array decodes item by item. -/
theorem list_normalize {α : Type} {r : Reader α} {g : α → Json}
    (hg : ∀ x, r (Json.normalize (g x)) = .ok x) (xs : List α) :
    list r (Json.normalize (.arr (xs.map g))) = .ok xs := by
  simp only [Json.normalize_arr, list, List.map_map]
  induction xs with
  | nil => rfl
  | cons x xs ih => simp [List.mapM_cons, hg, ih, bind, Except.bind, pure, Except.pure]

end Decode

namespace NodeClass

theorem mem_all (c : NodeClass) : c ∈ all := by
  cases c <;> simp [all, real]

theorem names_nodup : (all.map name).Nodup := by
  decide

theorem decode_name (src : Source) (c : NodeClass) :
    Decode.nodeClassIn src (Json.normalize (.str c.name)) = .ok c := by
  rw [Json.normalize_str]
  exact Decode.unitEnumIn_name src name names_nodup (mem_all c)

end NodeClass

namespace AttributeId

theorem mem_all (a : AttributeId) : a ∈ all := by
  cases a <;> simp [all]

theorem names_nodup : (all.map name).Nodup := by
  decide

theorem decode_name (a : AttributeId) :
    Decode.attributeId (Json.normalize (.str a.name)) = .ok a := by
  rw [Json.normalize_str]
  exact Decode.unitEnumIn_name .direct name names_nodup (mem_all a)

end AttributeId

/-! ### Each type decodes from its JSON form -/

namespace QualifiedName

theorem decode_toJson (src : Source) (q : QualifiedName) :
    Decode.qualifiedNameIn src (Json.normalize q.toJson) = .ok q := by
  have h := Json.holdsMembers_sort
    [("namespace_index", .num q.namespaceIndex.toNat), ("name", .str q.name)] (by simp)
  simp only [Decode.qualifiedNameIn, toJson, Json.normalize_obj, Record.ofJson, bind, Except.bind]
  rw [h.field "namespace_index" (by simp) (Decode.uint16_toNat q.namespaceIndex),
    h.field "name" (by simp) (Decode.string_str q.name)]
  simp

end QualifiedName

namespace LocalizedText

theorem decode_toJson (src : Source) (t : LocalizedText) :
    Decode.localizedTextIn src (Json.normalize t.toJson) = .ok t := by
  obtain ⟨locale, text⟩ := t
  cases locale with
  | none =>
    -- no `locale` member: the field takes its default
    have hnd : ([("text", Json.str text)].map Prod.fst).Nodup := by simp
    have h := Json.holdsMembers_sort _ hnd
    simp only [Decode.localizedTextIn, toJson, List.nil_append, Json.normalize_obj, Record.ofJson,
      bind, Except.bind]
    rw [Record.field_optional_of_not_mem (Json.not_mem_sort hnd (by simp)),
      h.field "text" (by simp) (Decode.string_str text)]
    simp
  | some l =>
    have h := Json.holdsMembers_sort [("locale", .str l), ("text", .str text)] (by simp)
    simp only [Decode.localizedTextIn, toJson, List.singleton_append, Json.normalize_obj,
      Record.ofJson, bind, Except.bind]
    rw [h.field "locale" (by simp) (Decode.option_string_str l),
      h.field "text" (by simp) (Decode.string_str text)]
    simp

end LocalizedText

namespace Variant

/-- A variant decodes from its JSON form: the member named for its shape selects the reader
of the payload. -/
theorem decode_toJson (v : Variant) : Decode.variant (Json.normalize v.toJson) = .ok v := by
  cases v with
  | boolean b =>
    show boolean <$> Decode.bool (Json.normalize (.bool b)) = _
    rw [Decode.bool_bool]
    rfl
  | int32 n =>
    show int32 <$> Decode.int32 (Json.normalize (.num n.toInt)) = _
    rw [Decode.int32_toInt]
    rfl
  | uint32 n =>
    show uint32 <$> Decode.uint32 (Json.normalize (.num n.toNat)) = _
    rw [Decode.uint32_toNat]
    rfl
  | string s =>
    show string <$> Decode.string (Json.normalize (.str s)) = _
    rw [Decode.string_str]
    rfl
  | nodeId n =>
    show nodeId <$> Decode.nodeId (Json.normalize n.toJson) = _
    rw [Decode.nodeId_toJson]
    rfl
  | qualifiedName q =>
    show qualifiedName <$> Decode.qualifiedNameIn .direct (Json.normalize q.toJson) = _
    rw [QualifiedName.decode_toJson]
    rfl
  | localizedText t =>
    show localizedText <$> Decode.localizedTextIn .direct (Json.normalize t.toJson) = _
    rw [LocalizedText.decode_toJson]
    rfl

end Variant

namespace DataValue

theorem decode_toJson (d : DataValue) : Decode.dataValue (Json.normalize d.toJson) = .ok d := by
  cases d with
  | value v =>
    show value <$> Decode.variant (Json.normalize v.toJson) = _
    rw [Variant.decode_toJson]
    rfl
  | status c =>
    show status <$> (StatusCode.mk <$> Decode.uint32 (Json.normalize (.num c.code.toNat))) = _
    rw [Decode.uint32_toNat]
    rfl

end DataValue

namespace ReferenceDescription

/-- The fields of a reference read from members that hold its own. -/
theorem referenceOf_holds {kept : List (String × Json)} {name : String} {src : Source}
    (r : ReferenceDescription) (h : Json.HoldsMembers kept r.members) :
    Decode.referenceOf ⟨name, Decode.referenceFields, .members kept, src⟩ = pure r := by
  simp only [Decode.referenceOf]
  rw [h.field "reference_type_id" (by simp [members]) (Decode.nodeId_toJson r.referenceTypeId),
    h.field "is_forward" (by simp [members]) (Decode.bool_bool r.isForward),
    h.field "node_id" (by simp [members]) (Decode.nodeId_toJson r.nodeId),
    h.field "browse_name" (by simp [members]) (QualifiedName.decode_toJson src r.browseName),
    h.field "display_name" (by simp [members]) (LocalizedText.decode_toJson src r.displayName),
    h.field "node_class" (by simp [members]) (NodeClass.decode_name src r.nodeClass),
    h.field "type_definition" (by simp [members]) (Decode.nodeId_toJson r.typeDefinition)]
  simp

theorem names_nodup (r : ReferenceDescription) : ((r.members.map Prod.fst)).Nodup := by
  simp [members]

end ReferenceDescription

namespace SnapshotReference

/-- A reference with its source decodes from its JSON form: `source` is found among the
sorted members, and the reference is read from the others. -/
theorem decode_toJson (s : SnapshotReference) :
    Decode.snapshotReference (Json.normalize s.toJson) = .ok s := by
  obtain ⟨source, r⟩ := s
  have hsource : "source" ∉ r.members.map Prod.fst := by simp [ReferenceDescription.members]
  have h := Json.holdsMembers_sort (("source", source.toJson) :: r.members)
    (List.nodup_cons.2 ⟨hsource, r.names_nodup⟩)
  obtain ⟨p, hp⟩ := findMember_of_mem h.nodup (h.mem ("source", source.toJson) (by simp)) 0
  simp only [toJson, Json.normalize_obj, Decode.snapshotReference, hp, Decode.nodeId_toJson,
    bind, Except.bind]
  rw [ReferenceDescription.referenceOf_holds r (h.of_cons.filter hsource)]
  rfl

end SnapshotReference

namespace AttributeRecord

theorem decode_toJson (a : AttributeRecord) :
    Decode.attributeRecord (Json.normalize a.toJson) = .ok a := by
  have h := Json.holdsMembers_sort
    [("node_id", a.nodeId.toJson), ("attribute_id", .str a.attributeId.name),
      ("value", a.value.toJson)] (by simp)
  simp only [Decode.attributeRecord, toJson, Json.normalize_obj, Record.ofJson, bind, Except.bind]
  rw [h.field "node_id" (by simp) (Decode.nodeId_toJson a.nodeId),
    h.field "attribute_id" (by simp) (AttributeId.decode_name a.attributeId),
    h.field "value" (by simp) (DataValue.decode_toJson a.value)]
  simp

end AttributeRecord

namespace Snapshot

/-- A snapshot decodes from its JSON form as the reader gives it back. -/
theorem decode_toJson (s : Snapshot) : Decode.snapshot (Json.normalize s.toJson) = .ok s := by
  have h := Json.holdsMembers_sort
    [("references", .arr (s.references.map SnapshotReference.toJson)),
      ("attributes", .arr (s.attributes.map AttributeRecord.toJson))] (by simp)
  simp only [Decode.snapshot, toJson, Json.normalize_obj, Record.ofJson, bind, Except.bind]
  rw [h.field "references" (by simp)
      (Decode.list_normalize SnapshotReference.decode_toJson s.references),
    h.field "attributes" (by simp)
      (Decode.list_normalize AttributeRecord.decode_toJson s.attributes)]
  simp

end Snapshot

/-! ### The JSON forms are readable

Integers stay within 32 bits, there are no doubles, and objects nest at most six deep: a
snapshot, its lists, a record, its data value, the variant, and a qualified name or a
localized text. -/

theorem Json.itemsReadable_map {α : Type} {depth : Nat} {g : α → Json}
    (h : ∀ x, Readable depth (g x)) (xs : List α) : ItemsReadable depth (xs.map g) := by
  induction xs with
  | nil => simp [ItemsReadable]
  | cons x xs ih => simpa [ItemsReadable, h x] using ih

theorem NodeId.readable_toJson (depth : Nat) (n : NodeId) : Json.Readable depth n.toJson := by
  simp [toJson, Json.Readable]

theorem QualifiedName.readable_toJson (d : Nat) (q : QualifiedName) :
    Json.Readable (d + 1) q.toJson := by
  have hq := q.namespaceIndex.toNat_lt
  simp only [toJson, Json.Readable, Json.MembersReadable, and_true]
  omega

theorem LocalizedText.readable_toJson (d : Nat) (t : LocalizedText) :
    Json.Readable (d + 1) t.toJson := by
  obtain ⟨locale, text⟩ := t
  cases locale <;> simp [toJson, Json.Readable, Json.MembersReadable]

theorem Variant.readable_toJson (d : Nat) (v : Variant) : Json.Readable (d + 2) v.toJson := by
  cases v with
  | int32 n =>
    have hlo := Int32.le_toInt n
    have hhi := Int32.toInt_lt n
    simp only [toJson, Json.Readable, Json.MembersReadable, and_true]
    omega
  | uint32 n =>
    have hn := n.toNat_lt
    simp only [toJson, Json.Readable, Json.MembersReadable, and_true]
    omega
  | nodeId n => simpa [toJson, Json.Readable, Json.MembersReadable] using NodeId.readable_toJson _ n
  | qualifiedName q =>
    simpa [toJson, Json.Readable, Json.MembersReadable] using QualifiedName.readable_toJson d q
  | localizedText t =>
    simpa [toJson, Json.Readable, Json.MembersReadable] using LocalizedText.readable_toJson d t
  | boolean b => simp [toJson, Json.Readable, Json.MembersReadable]
  | string s => simp [toJson, Json.Readable, Json.MembersReadable]

theorem DataValue.readable_toJson (d : Nat) (dv : DataValue) : Json.Readable (d + 3) dv.toJson := by
  cases dv with
  | value v => simpa [toJson, Json.Readable, Json.MembersReadable] using Variant.readable_toJson d v
  | status c =>
    have hc := c.code.toNat_lt
    simp only [toJson, StatusCode.toJson, Json.Readable, Json.MembersReadable, and_true]
    omega

theorem AttributeRecord.readable_toJson (d : Nat) (a : AttributeRecord) :
    Json.Readable (d + 4) a.toJson := by
  simpa [toJson, Json.Readable, Json.MembersReadable, NodeId.readable_toJson] using
    DataValue.readable_toJson d a.value

theorem SnapshotReference.readable_toJson (d : Nat) (s : SnapshotReference) :
    Json.Readable (d + 2) s.toJson := by
  simp [toJson, ReferenceDescription.members, Json.Readable, Json.MembersReadable,
    NodeId.readable_toJson, QualifiedName.readable_toJson, LocalizedText.readable_toJson]

theorem Snapshot.readable_toJson (d : Nat) (s : Snapshot) : Json.Readable (d + 6) s.toJson := by
  simp only [toJson, Json.Readable, Json.MembersReadable, and_true]
  exact ⟨Json.itemsReadable_map (SnapshotReference.readable_toJson (d + 2)) _,
    Json.itemsReadable_map (AttributeRecord.readable_toJson d) _⟩

/-- **A snapshot reads back from its text.** Reading the pretty JSON text of any snapshot and
decoding the value read gives the snapshot. -/
theorem Snapshot.readBack (s : Snapshot) :
    ∃ j, Json.parse s.toText = .ok j ∧ Decode.snapshot j = .ok s :=
  ⟨Json.normalize s.toJson, Json.parse_pretty (readable_toJson 121 s), decode_toJson s⟩

/-! ### Spaces built step by step -/

namespace Space

/-- One step of building an address space. -/
inductive Step where
  /-- A reference inserted from its source. -/
  | insert (source : NodeId) (reference : ReferenceDescription)
  /-- A good value added for an attribute of a node. -/
  | addValue (node : NodeId) (attributeId : AttributeId) (value : Variant)

/-- Take one step. -/
def Step.apply (sp : Space) : Step → Space
  | .insert s r => sp.insert s r
  | .addValue n a v => sp.addValue n a v

/-- The space built by a sequence of steps, from the empty one. -/
def build (steps : List Step) : Space := steps.foldl Step.apply empty

/-- The reference a step inserts, with its source. -/
def Step.reference? : Step → Option SnapshotReference
  | .insert s r => some ⟨s, r⟩
  | .addValue _ _ _ => none

/-- The attribute record a step adds. -/
def Step.record? : Step → Option AttributeRecord
  | .insert _ _ => none
  | .addValue n a v => some ⟨n, a, .value v⟩

/-- The snapshot of a built space lists the references inserted, with their sources, and the
records added, each in the order of the steps. -/
theorem snapshot_build (steps : List Step) :
    (build steps).snapshot = ⟨steps.filterMap Step.reference?, steps.filterMap Step.record?⟩ := by
  induction steps using List.reverseRecOn with
  | nil => rfl
  | append_singleton steps step ih =>
    simp only [snapshot, Snapshot.mk.injEq] at ih
    rw [build, List.foldl_append, List.foldl_cons, List.foldl_nil, ← build]
    cases step with
    | insert s r =>
      simp [Step.apply, snapshot, Space.insert, ih, Step.reference?, Step.record?]
    | addValue n a v =>
      simp [Step.apply, snapshot, Space.addValue, ih, Step.reference?, Step.record?]

/-- **The snapshot of a built space reads back from its JSON text.** For every sequence of
inserted references and added values, reading and decoding the pretty JSON text of the
space's snapshot gives the snapshot back; and the snapshot lists every reference with its
source in the order inserted, and every attribute record in the order added. -/
theorem build_snapshot_roundTrip (steps : List Step) :
    (∃ j, Json.parse (build steps).snapshot.toText = .ok j ∧
      Decode.snapshot j = .ok (build steps).snapshot) ∧
    (build steps).snapshot.references = steps.filterMap Step.reference? ∧
    (build steps).snapshot.attributes = steps.filterMap Step.record? := by
  refine ⟨Snapshot.readBack _, ?_, ?_⟩
  · rw [snapshot_build]
  · rw [snapshot_build]

end Space

end AddressSpace
