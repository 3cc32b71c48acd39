import Mathlib
import AddressSpace.Json.Decode
import AddressSpace.Proofs.NumeralText

/-!
# The text of a node id

A node id is read from text in two ways: the symbolic name of one of the well-known nodes,
or the text form `[ns=<u16>;](i=<u32> | s=<text> | g=<uuid>)`, where the namespace part
ends at the first `;`. This module states that grammar as an inductive relation, apart from
the reader, and proves that the reader accepts exactly it; a failure reports the whole
text. The canonical text of every node id is a derivation of the grammar, so it reads back
to the node id, also through the JSON form, which is that text.

* `IdentifierText`, `NodeIdText` — the grammar, with the node id each text names;
* `Identifier.parse?_eq_some_iff`, `NodeId.parseText?_eq_some_iff` — the readers of the
  two parts, against the grammar;
* **`NodeId.parse_iff_nodeIdText`** — `NodeId.parse` succeeds exactly on the grammar, with
  the node id it names, and otherwise fails with `invalidNodeId` of the whole text;
* **`NodeId.parse_toText`** — the canonical text of every node id reads back to it, and so
  does its JSON form.
-/

namespace AddressSpace

/-! ### The grammar -/

/-- The texts of an identifier and the identifier each names: `i=` and an unsigned 32-bit
numeral, `s=` and any text, taken verbatim, or `g=` and a text the uuid reader accepts. -/
inductive IdentifierText : List Char → Identifier → Prop
  | numeric {ds : List Char} {v : Nat} :
      Numeral.IsUnsignedLiteral (2 ^ 32) ds v → IdentifierText ('i' :: '=' :: ds) (.numeric v.toUInt32)
  | string (cs : List Char) : IdentifierText ('s' :: '=' :: cs) (.string (String.ofList cs))
  | guid {cs : List Char} {u : Uuid} :
      Uuid.parse? cs = some u → IdentifierText ('g' :: '=' :: cs) (.guid u)

/-- The texts of a node id and the node id each names: the exact symbolic name of a
well-known node; an identifier alone, in namespace 0; or `ns=`, an unsigned 16-bit numeral
that holds no `;`, then `;` and an identifier. Nothing else: no blanks, no other case. -/
inductive NodeIdText : String → NodeId → Prop
  | wellKnown (w : WellKnown) : NodeIdText w.name w.nodeId
  | plain {s : String} {id : Identifier} : IdentifierText s.toList id → NodeIdText s ⟨0, id⟩
  | qualified {s : String} {d rest : List Char} {ns : Nat} {id : Identifier} :
      s.toList = 'n' :: 's' :: '=' :: (d ++ ';' :: rest) → ';' ∉ d →
      Numeral.IsUnsignedLiteral (2 ^ 16) d ns → IdentifierText rest id →
      NodeIdText s ⟨ns.toUInt16, id⟩

/-- An identifier text starts with `i=`, `s=` or `g=`. -/
theorem IdentifierText.head {cs : List Char} {id : Identifier} (h : IdentifierText cs id) :
    ∃ c rest, cs = c :: '=' :: rest ∧ (c = 'i' ∨ c = 's' ∨ c = 'g') := by
  cases h with
  | numeric => exact ⟨_, _, rfl, by simp⟩
  | string => exact ⟨_, _, rfl, by simp⟩
  | guid => exact ⟨_, _, rfl, by simp⟩

/-! ### Well-known names -/

namespace WellKnown

theorem mem_all (w : WellKnown) : w ∈ all := by
  cases w <;> simp [all]

theorem name_injective_all : ∀ w ∈ all, ∀ w' ∈ all, w.name = w'.name → w = w' := by
  decide

theorem name_injective {w w' : WellKnown} (h : w.name = w'.name) : w = w' :=
  name_injective_all w (mem_all w) w' (mem_all w') h

/-- Every symbolic name starts with an uppercase letter. -/
theorem head_name (w : WellKnown) : ∃ c rest, w.name.toList = c :: rest ∧ c.isUpper := by
  cases w <;> exact ⟨_, _, rfl, rfl⟩

theorem ofName?_eq_some_iff (s : String) (w : WellKnown) : ofName? s = some w ↔ s = w.name := by
  constructor
  · intro h
    have := List.find?_some h
    simp only [beq_iff_eq] at this
    exact this.symm
  · rintro rfl
    obtain ⟨w', hw'⟩ : ∃ w', ofName? w.name = some w' := by
      cases h : ofName? w.name with
      | none =>
        rw [ofName?, List.find?_eq_none] at h
        exact absurd (by simp) (h w (mem_all w))
      | some w' => exact ⟨w', rfl⟩
    have hname : w'.name = w.name := by simpa using List.find?_some hw'
    rw [hw', name_injective hname]

end WellKnown

/-! ### The readers against the grammar -/

/-- **The identifier reader accepts exactly the identifier texts.** -/
theorem Identifier.parse?_eq_some_iff (cs : List Char) (id : Identifier) :
    Identifier.parse? cs = some id ↔ IdentifierText cs id := by
  constructor
  · intro h
    unfold Identifier.parse? at h
    split at h
    · obtain ⟨n, hn, rfl⟩ := Option.map_eq_some_iff.1 h
      exact .numeric ((Numeral.unsigned?_eq_some_iff _ _ _).1 hn)
    · cases h
      exact .string _
    · obtain ⟨u, hu, rfl⟩ := Option.map_eq_some_iff.1 h
      exact .guid hu
    · cases h
  · intro h
    cases h with
    | numeric hv =>
      simp only [Identifier.parse?, (Numeral.unsigned?_eq_some_iff _ _ _).2 hv, Option.map_some]
    | string cs => rfl
    | guid hu => simp [Identifier.parse?, hu]

namespace NodeId

theorem splitAtSemicolon_nil : splitAtSemicolon [] = none := rfl

theorem splitAtSemicolon_cons (c : Char) (cs : List Char) :
    splitAtSemicolon (c :: cs) =
      if c = ';' then some ([], cs) else (splitAtSemicolon cs).map fun p => (c :: p.1, p.2) := by
  unfold splitAtSemicolon
  rw [List.span_eq_takeWhile_dropWhile, List.span_eq_takeWhile_dropWhile]
  by_cases hc : c = ';'
  · simp [hc]
  · simp only [hc, if_false, List.takeWhile_cons, List.dropWhile_cons, ne_eq, not_false_eq_true,
      decide_true]
    cases List.dropWhile (fun x => decide (x ≠ ';')) cs <;> rfl

/-- The split is at the first `;`: what comes before it holds none. -/
theorem splitAtSemicolon_eq_some_iff (cs d rest : List Char) :
    splitAtSemicolon cs = some (d, rest) ↔ cs = d ++ ';' :: rest ∧ ';' ∉ d := by
  induction cs generalizing d with
  | nil => simp [splitAtSemicolon_nil]
  | cons c cs ih =>
    rw [splitAtSemicolon_cons]
    by_cases hc : c = ';'
    · -- the first `;` ends an empty namespace part
      subst hc
      cases d with
      | nil => simp [eq_comm]
      | cons x d =>
        simp only [if_true, Option.some.injEq, Prod.mk.injEq, List.cons_append, List.cons.injEq,
          List.mem_cons, not_or]
        exact ⟨fun h => absurd h.1 (by simp), fun h => absurd h.1.1 h.2.1⟩
    · rw [if_neg hc]
      cases d with
      | nil => simp [hc]
      | cons x d =>
        simp only [List.cons_append, List.cons.injEq, List.mem_cons, not_or,
          Option.map_eq_some_iff, Prod.mk.injEq, Prod.exists]
        constructor
        · rintro ⟨d', rest', hs, ⟨rfl, rfl⟩, rfl⟩
          obtain ⟨hcs, hd⟩ := (ih d').1 hs
          exact ⟨⟨rfl, hcs⟩, Ne.symm hc, hd⟩
        · rintro ⟨⟨rfl, hcs⟩, -, hd⟩
          exact ⟨d, rest, (ih d).2 ⟨hcs, hd⟩, ⟨rfl, rfl⟩, rfl⟩

/-- **The text form, against the grammar.** The reader of the text form accepts an
identifier alone, in namespace 0, or `ns=`, an unsigned 16-bit numeral up to the first `;`,
and an identifier. -/
theorem parseText?_eq_some_iff (cs : List Char) (n : NodeId) :
    parseText? cs = some n ↔
      (∃ id, IdentifierText cs id ∧ n = ⟨0, id⟩) ∨
      (∃ d rest ns id, cs = 'n' :: 's' :: '=' :: (d ++ ';' :: rest) ∧ ';' ∉ d ∧
        Numeral.IsUnsignedLiteral (2 ^ 16) d ns ∧ IdentifierText rest id ∧
        n = ⟨ns.toUInt16, id⟩) := by
  unfold parseText?
  split
  · rename_i tail
    -- an identifier text cannot start with `ns=`
    have hnot : ¬∃ id, IdentifierText ('n' :: 's' :: '=' :: tail) id ∧ n = ⟨0, id⟩ := by
      rintro ⟨id, hid, -⟩
      obtain ⟨c, rest, heq, hc⟩ := hid.head
      simp only [List.cons.injEq] at heq
      obtain ⟨rfl, h, -⟩ := heq
      cases h
    simp only [hnot, false_or, List.cons.injEq, true_and, Option.bind_eq_bind,
      Option.bind_eq_some_iff, Prod.exists, splitAtSemicolon_eq_some_iff,
      Numeral.unsigned?_eq_some_iff, Identifier.parse?_eq_some_iff, Option.pure_def,
      Option.some.injEq]
    constructor
    · rintro ⟨d, rest, ⟨hcs, hd⟩, ns, hns, id, hid, rfl⟩
      exact ⟨d, rest, ns, id, hcs, hd, hns, hid, rfl⟩
    · rintro ⟨d, rest, ns, id, hcs, hd, hns, hid, rfl⟩
      exact ⟨d, rest, ⟨hcs, hd⟩, ns, hns, id, hid, rfl⟩
  · rename_i hns
    -- a text that does not start with `ns=` is an identifier alone
    have hqualified : ¬∃ d rest ns id, cs = 'n' :: 's' :: '=' :: (d ++ ';' :: rest) ∧ ';' ∉ d ∧
        Numeral.IsUnsignedLiteral (2 ^ 16) d ns ∧ IdentifierText rest id ∧
        n = ⟨ns.toUInt16, id⟩ := by
      rintro ⟨d, rest, ns, id, hcs, -⟩
      exact hns _ hcs
    simp only [hqualified, or_false, Option.map_eq_some_iff, Identifier.parse?_eq_some_iff]
    constructor
    · rintro ⟨id, hid, rfl⟩
      exact ⟨id, hid, rfl⟩
    · rintro ⟨id, hid, rfl⟩
      exact ⟨id, hid, rfl⟩

/-- A symbolic name is no text form: it starts with an uppercase letter. -/
theorem parseText?_name (w : WellKnown) : parseText? w.name.toList = none := by
  obtain ⟨c, rest, hw, hup⟩ := WellKnown.head_name w
  cases h : parseText? w.name.toList with
  | none => rfl
  | some m =>
    rcases (parseText?_eq_some_iff _ _).1 h with ⟨id, hid, -⟩ | ⟨d, rest', ns, id, hcs, -⟩
    · obtain ⟨c', rest', heq, hc'⟩ := hid.head
      rw [hw, List.cons.injEq] at heq
      rw [heq.1] at hup
      rcases hc' with rfl | rfl | rfl <;> cases hup
    · rw [hw, List.cons.injEq] at hcs
      rw [hcs.1] at hup
      cases hup

/-- The grammar's derivations of a text: a well-known name, or what the text form reads. -/
theorem nodeIdText_iff (s : String) (n : NodeId) :
    NodeIdText s n ↔ (∃ w : WellKnown, s = w.name ∧ n = w.nodeId) ∨ parseText? s.toList = some n := by
  constructor
  · intro h
    cases h with
    | wellKnown w => exact Or.inl ⟨w, rfl, rfl⟩
    | plain hid => exact Or.inr ((parseText?_eq_some_iff _ _).2 (Or.inl ⟨_, hid, rfl⟩))
    | qualified hs hd hns hid =>
      exact Or.inr ((parseText?_eq_some_iff _ _).2 (Or.inr ⟨_, _, _, _, hs, hd, hns, hid, rfl⟩))
  · rintro (⟨w, rfl, rfl⟩ | h)
    · exact .wellKnown w
    · rcases (parseText?_eq_some_iff _ _).1 h with ⟨id, hid, rfl⟩ |
        ⟨d, rest, ns, id, hs, hd, hns, hid, rfl⟩
      · exact .plain hid
      · exact .qualified hs hd hns hid

/-- The reader succeeds exactly on the grammar, with the node id that the text names. -/
theorem parse_eq_ok_iff (s : String) (n : NodeId) : parse s = .ok n ↔ NodeIdText s n := by
  rw [nodeIdText_iff]
  unfold parse
  cases hw : WellKnown.ofName? s with
  | some w =>
    -- a symbolic name names its node and nothing else
    obtain rfl := (WellKnown.ofName?_eq_some_iff s w).1 hw
    simp only [Except.ok.injEq, parseText?_name, reduceCtorEq, or_false]
    constructor
    · rintro rfl
      exact ⟨w, rfl, rfl⟩
    · rintro ⟨w', hname, rfl⟩
      rw [WellKnown.name_injective hname.symm]
  | none =>
    have hname : ¬∃ w : WellKnown, s = w.name ∧ n = w.nodeId := by
      rintro ⟨w, rfl, -⟩
      rw [(WellKnown.ofName?_eq_some_iff _ w).2 rfl] at hw
      cases hw
    simp only [hname, false_or]
    cases parseText? s.toList with
    | none => simp
    | some m => simp [eq_comm]

/-- A failed read reports the whole text. -/
theorem eq_invalidNodeId_of_parse {s : String} {e : Error} (h : parse s = .error e) :
    e = .invalidNodeId s := by
  unfold parse at h
  split at h
  · cases h
  · split at h
    · cases h
    · cases h
      rfl

/-- **Node id text is read by its grammar.** `NodeId.parse` succeeds exactly on the texts
of `NodeIdText`, with the node id each names: a well-known symbolic name, matched exactly,
or the text form, its namespace part ending at the first `;`. On every other text it fails
with `invalidNodeId` carrying the whole text. -/
theorem parse_iff_nodeIdText (s : String) :
    (∀ n, parse s = .ok n ↔ NodeIdText s n) ∧
      (∀ e, parse s = .error e ↔ e = .invalidNodeId s ∧ ∀ n, ¬NodeIdText s n) := by
  refine ⟨parse_eq_ok_iff s, fun e => ⟨fun h => ⟨eq_invalidNodeId_of_parse h, fun n hn => ?_⟩, ?_⟩⟩
  · rw [(parse_eq_ok_iff s n).2 hn] at h
    cases h
  · rintro ⟨rfl, hno⟩
    cases h : parse s with
    | ok n => exact absurd ((parse_eq_ok_iff s n).1 h) (hno n)
    | error e' => rw [eq_invalidNodeId_of_parse h]

-- the namespace part ends at the first `;`; the rest of a string identifier is verbatim
example : parse "ns=1;s=ns=2;i=3" = .ok ⟨1, .string "ns=2;i=3"⟩ := rfl

example : parse "ns=;i=1" = .error (.invalidNodeId "ns=;i=1") := rfl

/-! ### The canonical text -/

/-- The text of an identifier is one of its identifier texts. -/
theorem identifierText_toText (id : Identifier) : IdentifierText id.toText.toList id := by
  cases id with
  | numeric v =>
    have hlit : Numeral.IsUnsignedLiteral (2 ^ 32) (Numeral.decimal v.toNat).toList v.toNat :=
      (Numeral.unsigned?_eq_some_iff _ _ _).1 (Numeral.unsigned?_decimal v.toNat_lt)
    have h := IdentifierText.numeric hlit
    simpa [Identifier.toText] using h
  | string s => simpa [Identifier.toText] using IdentifierText.string s.toList
  | guid g => simpa [Identifier.toText] using IdentifierText.guid (Uuid.parse?_toText g)

/-- The canonical text of a node id is a text of that node id. -/
theorem nodeIdText_toText (n : NodeId) : NodeIdText n.toText n := by
  obtain ⟨ns, id⟩ := n
  by_cases h0 : ns = 0
  · subst h0
    exact .plain (by simpa [toText] using identifierText_toText id)
  · have hlit : Numeral.IsUnsignedLiteral (2 ^ 16) (Numeral.decimal ns.toNat).toList ns.toNat :=
      (Numeral.unsigned?_eq_some_iff _ _ _).1 (Numeral.unsigned?_decimal ns.toNat_lt)
    -- decimal digits hold no `;`
    have hsemi : ';' ∉ (Numeral.decimal ns.toNat).toList := by
      intro hmem
      have hmem' : ';' ∈ Nat.toDigits 10 ns.toNat := by simpa [Numeral.decimal] using hmem
      have := Nat.isDigit_of_mem_toDigits (by decide) (by decide) hmem'
      cases this
    have h := NodeIdText.qualified (s := (⟨ns, id⟩ : NodeId).toText)
      (by simp [toText, h0]) hsemi hlit (identifierText_toText id)
    simpa using h

/-- **The canonical text of a node id reads back to it.** Reading the text `n.toText`, with
its `ns=` part left out in namespace 0, gives `n` back, for every namespace and every
identifier: numbers, uuids, and strings that are empty or hold `;`, `=`, `ns=`, blanks or a
symbolic name. So does reading the JSON form of a node id, which is that text. -/
theorem parse_toText (n : NodeId) : parse n.toText = .ok n ∧ Decode.nodeId n.toJson = .ok n := by
  have h := (parse_eq_ok_iff n.toText n).2 (nodeIdText_toText n)
  refine ⟨h, ?_⟩
  simp only [Decode.nodeId, toJson, Decode.string, bind, Except.bind, h]

end NodeId

end AddressSpace
