import Mathlib
import AddressSpace.Json.Parse
import AddressSpace.Proofs.NumeralText

/-!
# Reading back the pretty text of a JSON value

The reader gives back the value whose pretty text it reads, with one change: it keeps the
members of each object in the byte order of their names, one per name. So it returns
`Json.normalize j`, the value with its members set one by one as the reader sets them.
This holds of every value the reader can hold exactly: no doubles, integers within the 64-bit
range it keeps exact, arrays and objects nested no deeper than it allows.

* `Json.normalize` — the value with each object's members set one by one;
* `Json.Readable` — no doubles, integers from `-2 ^ 63` to `2 ^ 64 - 1`, bounded nesting;
* `Json.size` — the reader's steps on a value's text, a bound on the fuel it needs;
* `Json.number_toDigits`, `Json.stringBody_escaped` — a decimal numeral and an escaped
  string literal read back;
* `Json.value_render` — the reader at any fuel above the size reads a value's text back,
  whatever follows it, provided that does not extend a number;
* **`Json.parse_pretty`** — `parse j.pretty = .ok j.normalize` for every readable `j`.
-/

namespace AddressSpace

namespace Json

/-! ### The value read back -/

mutual
/-- The value the reader makes of a value's text: the same value, with the members of each
object set one by one, so in the byte order of their names and the last of a name kept. -/
def normalize : Json → Json
  | .null => .null
  | .bool b => .bool b
  | .num n => .num n
  | .float x => .float x
  | .str s => .str s
  | .arr xs => .arr (normalizeItems xs)
  | .obj ms => .obj (normalizeMembers [] ms)

/-- The items of an array, each read back. -/
def normalizeItems : List Json → List Json
  | [] => []
  | x :: xs => normalize x :: normalizeItems xs

/-- Members read back and set, one by one, into those read before. -/
def normalizeMembers (acc : List (String × Json)) : List (String × Json) → List (String × Json)
  | [] => acc
  | (k, v) :: ms => normalizeMembers (setMember k (normalize v) acc) ms
end

mutual
/-- The number of reader steps a value's text takes: one per value, and one more for the
end of each array and object. -/
def size : Json → Nat
  | .arr xs => 2 + sizeItems xs
  | .obj ms => 2 + sizeMembers ms
  | _ => 1

/-- The steps the items of an array take. -/
def sizeItems : List Json → Nat
  | [] => 0
  | x :: xs => size x + sizeItems xs

/-- The steps the members of an object take. -/
def sizeMembers : List (String × Json) → Nat
  | [] => 0
  | (_, v) :: ms => size v + sizeMembers ms
end

theorem size_pos (j : Json) : 0 < size j := by
  cases j <;> simp only [size] <;> omega

mutual
/-- A value the reader gives back: no doubles, integers that it keeps exact, and arrays
and objects nested at most `depth` deep. -/
def Readable : Nat → Json → Prop
  | _, .null => True
  | _, .bool _ => True
  | _, .num n => -2 ^ 63 ≤ n ∧ n ≤ 2 ^ 64 - 1
  | _, .float _ => False
  | _, .str _ => True
  | 0, .arr _ => False
  | depth + 1, .arr xs => ItemsReadable depth xs
  | 0, .obj _ => False
  | depth + 1, .obj ms => MembersReadable depth ms

/-- Every item is readable at `depth`. -/
def ItemsReadable (depth : Nat) : List Json → Prop
  | [] => True
  | x :: xs => Readable depth x ∧ ItemsReadable depth xs

/-- Every member's value is readable at `depth`. -/
def MembersReadable (depth : Nat) : List (String × Json) → Prop
  | [] => True
  | (_, v) :: ms => Readable depth v ∧ MembersReadable depth ms
end

/-! ### Blanks and the first character of a value -/

/-- The blanks the reader passes over between tokens. -/
def IsBlank (c : Char) : Prop := c = ' ' ∨ c = '\t' ∨ c = '\n' ∨ c = '\r'

theorem skipBlanks_of_not_blank {c : Char} (h : ¬IsBlank c) (cs : List Char) :
    skipBlanks (c :: cs) = c :: cs := by
  simp only [IsBlank] at h
  simp [skipBlanks, h]

theorem skipBlanks_blank_append {bs : List Char} (h : ∀ b ∈ bs, IsBlank b) (cs : List Char) :
    skipBlanks (bs ++ cs) = skipBlanks cs := by
  induction bs with
  | nil => rfl
  | cons b bs ih =>
    have hb := h b (by simp)
    simp only [IsBlank] at hb
    simp only [List.cons_append, skipBlanks, hb, if_true]
    exact ih fun x hx => h x (by simp [hx])

theorem toList_indent (d : Nat) : (indent d).toList = List.replicate (2 * d) ' ' := by
  simp [indent]

theorem blank_of_mem_indent {d : Nat} {b : Char} (h : b ∈ (indent d).toList) : IsBlank b := by
  rw [toList_indent] at h
  exact Or.inl (List.eq_of_mem_replicate h)

/-- A line break and an indentation are passed over. -/
theorem skipBlanks_newline_indent (d : Nat) (cs : List Char) :
    skipBlanks ('\n' :: ((indent d).toList ++ cs)) = skipBlanks cs := by
  rw [← List.cons_append]
  exact skipBlanks_blank_append (fun b hb => by
    rcases List.mem_cons.1 hb with rfl | hb
    · exact Or.inr (Or.inr (Or.inl rfl))
    · exact blank_of_mem_indent hb) cs

/-- A character that can start a value's text: no blank, and none of the marks that close
or separate values. -/
def StartsValue (c : Char) : Prop := ¬IsBlank c ∧ c ≠ ']' ∧ c ≠ '\x7d' ∧ c ≠ ','

/-- Text that can follow a number: it does not go on with a digit, a point or an exponent. -/
def EndsNumber (cs : List Char) : Prop :=
  ∀ c ∈ cs.head?, c.isDigit = false ∧ c ≠ '.' ∧ c ≠ 'e' ∧ c ≠ 'E'

theorem endsNumber_nil : EndsNumber [] := by
  simp [EndsNumber]

theorem endsNumber_comma (cs : List Char) : EndsNumber (',' :: cs) := by
  simp [EndsNumber]

theorem endsNumber_newline (cs : List Char) : EndsNumber ('\n' :: cs) := by
  simp [EndsNumber]

/-! ### Numbers -/

theorem isDigit_eq (c : Char) : isDigit c = c.isDigit := by
  simp [isDigit, Char.isDigit, Char.le_def]

/-- Digits that keep the value within 64 bits are taken one by one. -/
theorem integerDigits_append (negative : Bool) (sig : Nat) (ds rest : List Char)
    (hds : ∀ c ∈ ds, c.isDigit) (hle : Nat.ofDigitChars 10 ds sig ≤ maxUnsigned) :
    integerDigits negative sig (ds ++ rest) =
      integerDigits negative (Nat.ofDigitChars 10 ds sig) rest := by
  induction ds generalizing sig with
  | nil => rfl
  | cons c ds ih =>
    have hc : isDigit c = true := by rw [isDigit_eq]; exact hds c (by simp)
    have hstep : Nat.ofDigitChars 10 (c :: ds) sig =
        Nat.ofDigitChars 10 ds (sig * 10 + digitValue c) := by
      rw [Nat.ofDigitChars_cons, Nat.mul_comm]
      rfl
    -- the value read so far is at most the whole value, so it fits
    have hgrow : sig * 10 + digitValue c ≤ Nat.ofDigitChars 10 ds (sig * 10 + digitValue c) := by
      rw [Nat.ofDigitChars_eq_ofDigitChars_zero]
      calc sig * 10 + digitValue c ≤ 10 ^ ds.length * (sig * 10 + digitValue c) :=
            Nat.le_mul_of_pos_left _ (Nat.pow_pos (by decide))
        _ ≤ _ := Nat.le_add_right _ _
    rw [hstep] at hle ⊢
    simp only [List.cons_append, integerDigits, hc, if_true]
    rw [if_neg (by omega), ih _ (fun x hx => hds x (by simp [hx])) hle]

/-- Where the digits end, the integer is read. -/
theorem integerDigits_end (negative : Bool) (sig : Nat) {rest : List Char}
    (h : EndsNumber rest) : integerDigits negative sig rest = afterInteger negative sig rest := by
  cases rest with
  | nil => rfl
  | cons c cs =>
    have hc : isDigit c = false := by rw [isDigit_eq]; exact (h c rfl).1
    simp only [integerDigits, hc]
    rfl

theorem afterInteger_end (negative : Bool) (sig : Nat) {rest : List Char} (h : EndsNumber rest) :
    afterInteger negative sig rest = .ok (afterInteger.integer negative sig, rest) := by
  cases rest with
  | nil => rfl
  | cons c cs =>
    obtain ⟨-, hdot, he, hE⟩ := h c rfl
    unfold afterInteger
    split
    · rename_i heq
      exact absurd (List.cons.inj heq).1 hdot
    · rename_i heq
      obtain ⟨rfl, rfl⟩ := List.cons.inj heq
      simp [he, hE]
    · contradiction

/-- The first digit of a positive number is not `0`. -/
theorem toDigits_head {n : Nat} (hn : 0 < n) : ∃ c cs, Nat.toDigits 10 n = c :: cs ∧ c ≠ '0' := by
  induction n using Nat.base_induction 10 (by decide) with
  | single m hm =>
    refine ⟨_, [], Nat.toDigits_of_lt_base hm, ?_⟩
    have : ∀ m, m < 10 → 0 < m → Nat.digitChar m ≠ '0' := by decide
    exact this m hm hn
  | digit m k hk hm ih =>
    obtain ⟨c, cs, hcs, hc⟩ := ih hm
    refine ⟨c, cs ++ Nat.toDigits 10 k, ?_, hc⟩
    rw [← Nat.toDigits_append_toDigits (by decide) hm hk, hcs, List.cons_append]

/-- **A decimal numeral reads back.** The digits of a number up to the largest 64-bit one,
followed by text that does not extend a number, read as that integer. -/
theorem number_toDigits (negative : Bool) {n : Nat} (hn : n ≤ maxUnsigned) {rest : List Char}
    (h : EndsNumber rest) :
    number negative (Nat.toDigits 10 n ++ rest) = .ok (afterInteger.integer negative n, rest) := by
  rcases Nat.eq_zero_or_pos n with rfl | hpos
  · -- `0` stands alone: a digit after it would be an error
    rw [Nat.toDigits_zero]
    cases rest with
    | nil => rfl
    | cons c cs =>
      have hc : isDigit c = false := by rw [isDigit_eq]; exact (h c rfl).1
      simp only [List.cons_append, List.nil_append, number, hc]
      exact afterInteger_end negative 0 h
  · obtain ⟨c, cs, hcs, hc0⟩ := toDigits_head hpos
    have hdigits : ∀ x ∈ c :: cs, x.isDigit := by
      rw [← hcs]
      exact fun x hx => Nat.isDigit_of_mem_toDigits (by decide) (by decide) hx
    have hc : isDigit c = true := by rw [isDigit_eq]; exact hdigits c (by simp)
    have hval : Nat.ofDigitChars 10 cs (digitValue c) = n := by
      have := Nat.ofDigitChars_ten_toDigits (n := n)
      rw [hcs, Nat.ofDigitChars_cons] at this
      simpa [digitValue] using this
    rw [hcs, List.cons_append]
    simp only [number, hc, if_true]
    rw [integerDigits_append negative _ cs rest (fun x hx => hdigits x (by simp [hx])) (hval ▸ hn),
      hval, integerDigits_end negative n h, afterInteger_end negative n h]

/-! ### Strings -/

/-- The four hex digits of a control character's escape read back as the character's code. -/
theorem hexQuad_control {c : Char} (hc : c.toNat < 0x20) :
    ∃ h1 h2, (Numeral.hexLower 2 c.toNat).toList = [h1, h2] ∧
      hexQuad '0' '0' h1 h2 = some c.toNat := by
  have hlen : (Numeral.hexDigits 2 c.toNat).length = 2 :=
    Numeral.length_hexDigits (by decide) (by omega)
  have hdigits := Numeral.mapM_hexValue?_map_hexDigitLower
    (List.replicate 2 0 ++ Numeral.hexDigits 2 c.toNat) (by
      intro d hd
      rcases List.mem_append.1 hd with hd | hd
      · rw [List.eq_of_mem_replicate hd]
        decide
      · exact Numeral.lt_of_mem_hexDigits hd)
  obtain ⟨d1, d2, hd⟩ := List.length_eq_two.1 hlen
  refine ⟨Numeral.hexDigitLower d1, Numeral.hexDigitLower d2, by simp [Numeral.hexLower, hd], ?_⟩
  have hvalue := Numeral.valueIn_hexDigits 2 c.toNat
  rw [← Numeral.valueIn_replicate_zero_append 16 2] at hvalue
  rw [hd] at hdigits hvalue
  have h0 : Numeral.hexDigitLower 0 = '0' := by decide
  simp only [List.replicate, List.cons_append, List.nil_append, List.map_cons, List.map_nil, h0]
    at hdigits hvalue
  simp only [hexQuad]
  rw [hdigits, Option.map_some, hvalue]

/-- One escaped character reads back as that character. -/
theorem stringBody_escapeChar (acc : List Char) (c : Char) (rest : List Char) :
    stringBody acc (escapeChar c ++ rest) = stringBody (c :: acc) rest := by
  unfold escapeChar
  -- the seven short escapes
  by_cases h1 : c = '"'
  · subst h1; simp [stringBody, namedEscape]
  by_cases h2 : c = '\\'
  · subst h2; simp [stringBody, namedEscape]
  by_cases h3 : c = '\n'
  · subst h3; simp [stringBody, namedEscape]
  by_cases h4 : c = '\r'
  · subst h4; simp [stringBody, namedEscape]
  by_cases h5 : c = '\t'
  · subst h5; simp [stringBody, namedEscape]
  by_cases h6 : c = '\x08'
  · subst h6; simp [stringBody, namedEscape]
  by_cases h7 : c = '\x0c'
  · subst h7; simp [stringBody, namedEscape]
  simp only [h1, h2, h3, h4, h5, h6, h7, if_false]
  by_cases h8 : c.toNat < 0x20
  · -- another control character, written `\u00xx`
    obtain ⟨d1, d2, hhex, hquad⟩ := hexQuad_control h8
    simp only [h8, if_true, hhex, List.cons_append, List.nil_append]
    have hlow : isLowSurrogate c.toNat = false := by simp [isLowSurrogate]; omega
    have hhigh : isHighSurrogate c.toNat = false := by simp [isHighSurrogate]; omega
    simp [stringBody, hquad, hlow, hhigh]
  · -- any other character stands for itself
    simp only [h8, if_false, List.cons_append, List.nil_append]
    simp [stringBody, h2, h8]

/-- **An escaped string reads back.** The escaped characters of a string literal, up to its
closing quote, read back as the characters. -/
theorem stringBody_escaped (acc cs rest : List Char) :
    stringBody acc (cs.flatMap escapeChar ++ '"' :: rest) =
      .ok (String.ofList (acc.reverse ++ cs), rest) := by
  induction cs generalizing acc with
  | nil => simp [stringBody]
  | cons c cs ih =>
    rw [List.flatMap_cons, List.append_assoc, stringBody_escapeChar, ih]
    simp

theorem toList_quote (s : String) :
    (quote s).toList = '"' :: (s.toList.flatMap escapeChar ++ ['"']) := by
  simp [quote]

/-! ### The text of arrays and objects -/

/-- The text after the first item of an array's pretty text at `depth`, the items `ys` left:
a comma and a line for each, then the closing bracket on its own line. -/
def itemsTail (depth : Nat) : List Json → List Char
  | [] => '\n' :: ((indent depth).toList ++ [']'])
  | y :: ys => ',' :: '\n' :: ((indent (depth + 1)).toList ++ (render (depth + 1) y).toList ++
      itemsTail depth ys)

/-- The text after the first member of an object's pretty text at `depth`, the members `ms`
left. -/
def membersTail (depth : Nat) : List (String × Json) → List Char
  | [] => '\n' :: ((indent depth).toList ++ ['\x7d'])
  | (k, v) :: ms => ',' :: '\n' :: ((indent (depth + 1)).toList ++ (quote k).toList ++
      ':' :: ' ' :: ((render (depth + 1) v).toList ++ membersTail depth ms))

theorem renderItems_close (depth : Nat) (x : Json) (xs : List Json) :
    (renderItems (depth + 1) (x :: xs)).toList ++ '\n' :: ((indent depth).toList ++ [']']) =
      (indent (depth + 1)).toList ++ (render (depth + 1) x).toList ++ itemsTail depth xs := by
  induction xs generalizing x with
  | nil => simp [renderItems, itemsTail]
  | cons y ys ih =>
    simp only [renderItems, String.toList_append, List.append_assoc]
    rw [ih]
    simp [itemsTail]

theorem renderMembers_close (depth : Nat) (k : String) (v : Json) (ms : List (String × Json)) :
    (renderMembers (depth + 1) ((k, v) :: ms)).toList ++ '\n' :: ((indent depth).toList ++ ['\x7d']) =
      (indent (depth + 1)).toList ++ (quote k).toList ++
        ':' :: ' ' :: ((render (depth + 1) v).toList ++ membersTail depth ms) := by
  induction ms generalizing k v with
  | nil => simp [renderMembers, membersTail]
  | cons m ms ih =>
    obtain ⟨k', v'⟩ := m
    simp only [renderMembers, String.toList_append, List.append_assoc]
    rw [ih]
    simp [membersTail]

theorem toList_render_arr_cons (depth : Nat) (x : Json) (xs : List Json) :
    (render depth (.arr (x :: xs))).toList =
      '[' :: '\n' :: ((indent (depth + 1)).toList ++ (render (depth + 1) x).toList ++
        itemsTail depth xs) := by
  rw [← renderItems_close]
  simp [render]

theorem toList_render_obj_cons (depth : Nat) (k : String) (v : Json) (ms : List (String × Json)) :
    (render depth (.obj ((k, v) :: ms))).toList =
      '\x7b' :: '\n' :: ((indent (depth + 1)).toList ++ (quote k).toList ++
        ':' :: ' ' :: ((render (depth + 1) v).toList ++ membersTail depth ms)) := by
  rw [← renderMembers_close]
  simp [render, openBrace, closeBrace]

instance (c : Char) : Decidable (IsBlank c) :=
  inferInstanceAs (Decidable (c = ' ' ∨ c = '\t' ∨ c = '\n' ∨ c = '\r'))

instance (c : Char) : Decidable (StartsValue c) :=
  inferInstanceAs (Decidable (¬IsBlank c ∧ c ≠ ']' ∧ c ≠ '\x7d' ∧ c ≠ ','))

theorem startsValue_of_isDigit {c : Char} (h : c.isDigit = true) : StartsValue c := by
  refine ⟨?_, ?_, ?_, ?_⟩
  · rintro (rfl | rfl | rfl | rfl) <;> exact absurd h (by decide)
  all_goals
    rintro rfl
    exact absurd h (by decide)

/-- The pretty text of a readable value starts with a character that starts a value. -/
theorem render_head {depth : Nat} {j : Json} (hj : Readable depth j) (d : Nat) :
    ∃ c cs, (render d j).toList = c :: cs ∧ StartsValue c := by
  cases j with
  | null => exact ⟨'n', ['u', 'l', 'l'], by simp [render], by decide⟩
  | bool b =>
    cases b
    · exact ⟨'f', ['a', 'l', 's', 'e'], by simp [render], by decide⟩
    · exact ⟨'t', ['r', 'u', 'e'], by simp [render], by decide⟩
  | num n =>
    have hne : Nat.toDigits 10 n.natAbs ≠ [] := Nat.toDigits_ne_nil
    obtain ⟨c, cs, hcs⟩ := List.exists_cons_of_ne_nil hne
    have hmem : c ∈ Nat.toDigits 10 n.natAbs := by
      rw [hcs]
      exact List.mem_cons_self
    by_cases hn : n < 0
    · exact ⟨'-', c :: cs, by simp [render, Numeral.signedDecimal, hn, Numeral.decimal, hcs],
        by decide⟩
    · exact ⟨c, cs, by simp [render, Numeral.signedDecimal, hn, Numeral.decimal, hcs],
        startsValue_of_isDigit (Nat.isDigit_of_mem_toDigits (by decide) (by decide) hmem)⟩
  | float x => exact absurd hj (by simp [Readable])
  | str s => exact ⟨'"', s.toList.flatMap escapeChar ++ ['"'], toList_quote s, by decide⟩
  | arr xs =>
    cases xs with
    | nil => exact ⟨'[', [']'], by simp [render], by decide⟩
    | cons x xs => exact ⟨'[', _, toList_render_arr_cons d x xs, by decide⟩
  | obj ms =>
    cases ms with
    | nil => exact ⟨'\x7b', ['\x7d'], by simp [render, openBrace, closeBrace], by decide⟩
    | cons m ms =>
      obtain ⟨k, v⟩ := m
      exact ⟨'\x7b', _, toList_render_obj_cons d k v ms, by decide⟩

/-! ### What comes next in an array or an object -/

theorem inArray_first {c : Char} (hc : StartsValue c) (depth : Nat) (cs : List Char) :
    Next.inArray true ('\n' :: ((indent depth).toList ++ c :: cs)) = .ok (.element (c :: cs)) := by
  have hs : skipBlanks ('\n' :: ((indent depth).toList ++ c :: cs)) = c :: cs := by
    rw [skipBlanks_newline_indent, skipBlanks_of_not_blank hc.1]
  simp only [Next.inArray, hs]
  split
  · next h => exact absurd (List.cons.inj h).1 hc.2.1
  · next h => exact absurd (List.cons.inj h).1 hc.2.2.2
  · next h => exact absurd h (List.cons_ne_nil _ _)
  · rfl

theorem inArray_next {c : Char} (hc : StartsValue c) (depth : Nat) (cs : List Char) :
    Next.inArray false (',' :: '\n' :: ((indent depth).toList ++ c :: cs)) =
      .ok (.element (c :: cs)) := by
  have hs : skipBlanks ('\n' :: ((indent depth).toList ++ c :: cs)) = c :: cs := by
    rw [skipBlanks_newline_indent, skipBlanks_of_not_blank hc.1]
  have hcomma : skipBlanks (',' :: '\n' :: ((indent depth).toList ++ c :: cs)) =
      ',' :: '\n' :: ((indent depth).toList ++ c :: cs) :=
    skipBlanks_of_not_blank (by decide) _
  simp only [Next.inArray, hcomma, Bool.false_eq_true, if_false, hs]
  split
  · next h => exact absurd (List.cons.inj h).1 hc.2.1
  · next h => exact absurd h (List.cons_ne_nil _ _)
  · rfl

theorem inArray_close (first : Bool) (depth : Nat) (rest : List Char) :
    Next.inArray first ('\n' :: ((indent depth).toList ++ ']' :: rest)) = .ok (.close rest) := by
  rw [Next.inArray, skipBlanks_newline_indent]
  simp [skipBlanks]

theorem inArray_empty (rest : List Char) : Next.inArray true (']' :: rest) = .ok (.close rest) := by
  simp [Next.inArray, skipBlanks]

theorem inObject_first (depth : Nat) (cs : List Char) :
    Next.inObject true ('\n' :: ((indent depth).toList ++ '"' :: cs)) = .ok (.element cs) := by
  rw [Next.inObject, skipBlanks_newline_indent]
  simp [skipBlanks]

theorem inObject_next (depth : Nat) (cs : List Char) :
    Next.inObject false (',' :: '\n' :: ((indent depth).toList ++ '"' :: cs)) =
      .ok (.element cs) := by
  have hcomma : skipBlanks (',' :: '\n' :: ((indent depth).toList ++ '"' :: cs)) =
      ',' :: '\n' :: ((indent depth).toList ++ '"' :: cs) :=
    skipBlanks_of_not_blank (by decide) _
  simp only [Next.inObject, hcomma, Bool.false_eq_true, if_false, skipBlanks_newline_indent]
  simp [skipBlanks]

theorem inObject_close (first : Bool) (depth : Nat) (rest : List Char) :
    Next.inObject first ('\n' :: ((indent depth).toList ++ '\x7d' :: rest)) =
      .ok (.close rest) := by
  rw [Next.inObject, skipBlanks_newline_indent]
  simp [skipBlanks]

theorem inObject_empty (rest : List Char) :
    Next.inObject true ('\x7d' :: rest) = .ok (.close rest) := by
  simp [Next.inObject, skipBlanks]

theorem afterColon_colon (cs : List Char) : afterColon (':' :: cs) = .ok cs := by
  simp [afterColon, skipBlanks]

theorem endsNumber_itemsTail (depth : Nat) (xs : List Json) (rest : List Char) :
    EndsNumber (itemsTail depth xs ++ rest) := by
  cases xs with
  | nil => exact endsNumber_newline _
  | cons y ys => exact endsNumber_comma _

theorem endsNumber_membersTail (depth : Nat) (ms : List (String × Json)) (rest : List Char) :
    EndsNumber (membersTail depth ms ++ rest) := by
  cases ms with
  | nil => exact endsNumber_newline _
  | cons m ms => exact endsNumber_comma _

/-! ### One step of the reader

What the reader does once the character in front of it is known; the round trip below is
driven by the value and uses these in place of unfolding the reader. -/

theorem value_blank (fuel depth : Nat) {b : Char} (hb : IsBlank b) (cs : List Char) :
    value (fuel + 1) depth (b :: cs) = value (fuel + 1) depth cs := by
  have hs : skipBlanks ([b] ++ cs) = skipBlanks cs :=
    skipBlanks_blank_append (by simpa using hb) cs
  simp only [List.singleton_append] at hs
  simp only [value, hs]

theorem value_open_bracket (fuel depth : Nat) (cs : List Char) :
    value (fuel + 1) (depth + 1) ('[' :: cs) = items fuel depth true [] cs := by
  simp [value, skipBlanks]

theorem value_open_brace (fuel depth : Nat) (cs : List Char) :
    value (fuel + 1) (depth + 1) ('\x7b' :: cs) = members fuel depth true [] cs := by
  simp [value, skipBlanks]

theorem value_quote (fuel depth : Nat) (s : String) (rest : List Char) :
    value (fuel + 1) depth ((quote s).toList ++ rest) = .ok (.str s, rest) := by
  rw [toList_quote]
  simp only [List.cons_append, List.append_assoc]
  simp [value, skipBlanks, stringBody_escaped, bind, Except.bind, pure, Except.pure]

/-- A digit starts a number. -/
theorem value_digit (fuel depth : Nat) {c : Char} (hc : isDigit c = true) (cs : List Char) :
    value (fuel + 1) depth (c :: cs) = number false (c :: cs) := by
  have hs : StartsValue c := startsValue_of_isDigit (by rwa [← isDigit_eq])
  simp only [value, skipBlanks_of_not_blank hs.1]
  -- the seven marks that open the other kinds of value are no digits
  have hmark : ∀ m rest, c :: cs = m :: rest → m ∈ ['n', 't', 'f', '-', '"', '[', '\x7b'] →
      False := by
    intro m rest h hm
    obtain ⟨rfl, -⟩ := List.cons.inj h
    simp only [List.mem_cons, List.not_mem_nil, or_false] at hm
    rcases hm with rfl | rfl | rfl | rfl | rfl | rfl | rfl <;> exact absurd hc (by decide)
  split <;> rename_i h
  all_goals first
    | (refine (hmark _ _ h ?_).elim; simp; done)
    | skip
  · obtain ⟨rfl, rfl⟩ := List.cons.inj h
    simp [hc]
  · exact absurd h (List.cons_ne_nil _ _)

/-- An integer in the range the reader keeps exact reads back. -/
theorem value_num (fuel depth d : Nat) {n : Int} (hlo : -2 ^ 63 ≤ n) (hhi : n ≤ 2 ^ 64 - 1)
    {rest : List Char} (h : EndsNumber rest) :
    value (fuel + 1) depth ((render d (.num n)).toList ++ rest) = .ok (.num n, rest) := by
  have hle : n.natAbs ≤ maxUnsigned := by simp only [maxUnsigned]; omega
  by_cases hn : n < 0
  · -- a minus sign, then the digits of the magnitude, which is at most `2 ^ 63`
    have htext : (render d (.num n)).toList = '-' :: Nat.toDigits 10 n.natAbs := by
      simp [render, Numeral.signedDecimal, hn, Numeral.decimal]
    have hminus : value (fuel + 1) depth ('-' :: (Nat.toDigits 10 n.natAbs ++ rest)) =
        number true (Nat.toDigits 10 n.natAbs ++ rest) := by
      simp [value, skipBlanks]
    have h0 : n.natAbs ≠ 0 := by omega
    have h63 : ¬2 ^ 63 < n.natAbs := by omega
    rw [htext, List.cons_append, hminus, number_toDigits true hle h]
    simp only [afterInteger.integer, Bool.not_true, Bool.false_eq_true, if_false, h0, h63,
      or_self]
    congr
    omega
  · have htext : (render d (.num n)).toList = Nat.toDigits 10 n.natAbs := by
      simp [render, Numeral.signedDecimal, hn, Numeral.decimal]
    have hne : Nat.toDigits 10 n.natAbs ≠ [] := Nat.toDigits_ne_nil
    obtain ⟨c, cs, hcs⟩ := List.exists_cons_of_ne_nil hne
    have hmem : c ∈ Nat.toDigits 10 n.natAbs := by
      rw [hcs]
      exact List.mem_cons_self
    have hc : isDigit c = true := by
      rw [isDigit_eq]
      exact Nat.isDigit_of_mem_toDigits (by decide) (by decide) hmem
    rw [htext, hcs, List.cons_append, value_digit fuel depth hc, ← List.cons_append, ← hcs,
      number_toDigits false hle h]
    simp only [afterInteger.integer, Bool.not_false, if_true]
    congr
    omega

theorem items_element {fuel depth : Nat} {first : Bool} {acc : List Json}
    {cs start rest : List Char} {v : Json}
    (hnext : Next.inArray first cs = .ok (.element start))
    (hv : value fuel depth start = .ok (v, rest)) :
    items (fuel + 1) depth first acc cs = items fuel depth false (v :: acc) rest := by
  simp only [items, hnext, hv, bind, Except.bind]

theorem items_close {fuel depth : Nat} {first : Bool} {acc : List Json} {cs rest : List Char}
    (hnext : Next.inArray first cs = .ok (.close rest)) :
    items (fuel + 1) depth first acc cs = .ok (.arr acc.reverse, rest) := by
  simp only [items, hnext, bind, Except.bind, pure, Except.pure]

theorem members_element {fuel depth : Nat} {first : Bool} {acc : List (String × Json)}
    {cs start afterName valueStart rest : List Char} {k : String} {v : Json}
    (hnext : Next.inObject first cs = .ok (.element start))
    (hk : stringBody [] start = .ok (k, afterName))
    (hcolon : afterColon afterName = .ok valueStart)
    (hv : value fuel depth valueStart = .ok (v, rest)) :
    members (fuel + 1) depth first acc cs = members fuel depth false (setMember k v acc) rest := by
  simp only [members, hnext, hk, hcolon, hv, bind, Except.bind]

theorem members_close {fuel depth : Nat} {first : Bool} {acc : List (String × Json)}
    {cs rest : List Char} (hnext : Next.inObject first cs = .ok (.close rest)) :
    members (fuel + 1) depth first acc cs = .ok (.obj acc, rest) := by
  simp only [members, hnext, bind, Except.bind, pure, Except.pure]

/-- One member of an object's pretty text: its name, a colon and a blank, and its value. -/
theorem members_member {fuel depth d : Nat} {first : Bool} {acc : List (String × Json)}
    {cs : List Char} {k : String} {v : Json} {tail : List Char}
    (hnext : Next.inObject first cs = .ok (.element (k.toList.flatMap escapeChar ++
      '"' :: ':' :: ' ' :: ((render d v).toList ++ tail))))
    (hv : value (fuel + 1) depth ((render d v).toList ++ tail) = .ok (normalize v, tail)) :
    members (fuel + 1 + 1) depth first acc cs =
      members (fuel + 1) depth false (setMember k (normalize v) acc) tail := by
  have hk := stringBody_escaped [] k.toList (':' :: ' ' :: ((render d v).toList ++ tail))
  simp only [List.reverse_nil, List.nil_append, String.ofList_toList] at hk
  have hblank : IsBlank ' ' := by decide
  refine members_element hnext hk (afterColon_colon _) ?_
  rw [value_blank fuel depth hblank]
  exact hv

/-! ### The round trip -/

mutual

/-- **The reader reads a value's pretty text back**, at any indentation, with fuel at least
the value's size, and whatever text follows that does not extend a number. -/
theorem value_render : ∀ (j : Json) (d depth fuel : Nat) (rest : List Char),
    Readable depth j → size j ≤ fuel → EndsNumber rest →
      value fuel depth ((render d j).toList ++ rest) = .ok (normalize j, rest)
  | j, _, _, 0, _, _, hsize, _ => absurd hsize (by have := size_pos j; omega)
  | .null, d, depth, fuel + 1, rest, _, _, _ => by
    simp [render, value, skipBlanks, word, normalize]
  | .bool b, d, depth, fuel + 1, rest, _, _, _ => by
    cases b <;> simp [render, value, skipBlanks, word, normalize]
  | .num n, d, depth, fuel + 1, rest, hj, _, hrest => by
    simp only [Readable] at hj
    rw [normalize]
    exact value_num fuel depth d hj.1 hj.2 hrest
  | .float _, _, _, _ + 1, _, hj, _, _ => absurd hj (by simp [Readable])
  | .str s, d, depth, fuel + 1, rest, _, _, _ => by
    rw [render, normalize]
    exact value_quote fuel depth s rest
  | .arr _, _, 0, _ + 1, _, hj, _, _ => absurd hj (by simp [Readable])
  | .arr [], d, depth + 1, fuel + 1, rest, _, hsize, _ => by
    simp only [size, sizeItems] at hsize
    obtain ⟨f, rfl⟩ : ∃ f, fuel = f + 1 := ⟨fuel - 1, by omega⟩
    have htext : (render d (.arr [])).toList ++ rest = '[' :: ']' :: rest := by simp [render]
    rw [htext, value_open_bracket, items_close (inArray_empty rest)]
    simp [normalize, normalizeItems]
  | .arr (x :: xs), d, depth + 1, fuel + 1, rest, hj, hsize, _ => by
    simp only [Readable, ItemsReadable] at hj
    obtain ⟨hx, hxs⟩ := hj
    simp only [size, sizeItems] at hsize
    have hx1 := size_pos x
    obtain ⟨f, rfl⟩ : ∃ f, fuel = f + 1 := ⟨fuel - 1, by omega⟩
    -- the first item is read by the value reader, the others by `items_render`
    obtain ⟨c, cs, hcs, hc⟩ := render_head hx (d + 1)
    have hv := value_render x (d + 1) depth f (itemsTail d xs ++ rest) hx (by omega)
      (endsNumber_itemsTail d xs rest)
    rw [hcs, List.cons_append] at hv
    rw [toList_render_arr_cons, hcs]
    simp only [List.cons_append, List.append_assoc]
    rw [value_open_bracket, items_element (inArray_first hc (d + 1) _) hv,
      items_render xs d depth f [normalize x] rest hxs (by omega)]
    simp [normalize, normalizeItems]
  | .obj _, _, 0, _ + 1, _, hj, _, _ => absurd hj (by simp [Readable])
  | .obj [], d, depth + 1, fuel + 1, rest, _, hsize, _ => by
    simp only [size, sizeMembers] at hsize
    obtain ⟨f, rfl⟩ : ∃ f, fuel = f + 1 := ⟨fuel - 1, by omega⟩
    have htext : (render d (.obj [])).toList ++ rest = '\x7b' :: '\x7d' :: rest := by
      simp [render, openBrace, closeBrace]
    rw [htext, value_open_brace, members_close (inObject_empty rest)]
    simp [normalize, normalizeMembers]
  | .obj ((k, v) :: ms), d, depth + 1, fuel + 1, rest, hj, hsize, _ => by
    simp only [Readable, MembersReadable] at hj
    obtain ⟨hv, hms⟩ := hj
    simp only [size, sizeMembers] at hsize
    have hv1 := size_pos v
    obtain ⟨f, rfl⟩ : ∃ f, fuel = f + 1 + 1 := ⟨fuel - 2, by omega⟩
    have hval := value_render v (d + 1) depth (f + 1) (membersTail d ms ++ rest) hv (by omega)
      (endsNumber_membersTail d ms rest)
    rw [toList_render_obj_cons, toList_quote]
    simp only [List.cons_append, List.append_assoc, List.nil_append]
    rw [value_open_brace, members_member (inObject_first (d + 1) _) hval,
      members_render ms d depth (f + 1) _ rest hms (by omega)]
    simp [normalize, normalizeMembers]

/-- The items after the first: each after a comma, then the closing bracket. -/
theorem items_render : ∀ (xs : List Json) (d depth fuel : Nat) (acc : List Json)
    (rest : List Char), ItemsReadable depth xs → sizeItems xs < fuel →
      items fuel depth false acc (itemsTail d xs ++ rest) =
        .ok (.arr (acc.reverse ++ normalizeItems xs), rest)
  | _, _, _, 0, _, _, _, hsize => absurd hsize (Nat.not_lt_zero _)
  | [], d, depth, fuel + 1, acc, rest, _, _ => by
    simp only [itemsTail, List.cons_append, List.append_assoc, List.nil_append]
    rw [items_close (inArray_close false d rest)]
    simp [normalizeItems]
  | y :: ys, d, depth, fuel + 1, acc, rest, hj, hsize => by
    simp only [ItemsReadable] at hj
    obtain ⟨hy, hys⟩ := hj
    simp only [sizeItems] at hsize
    have hy1 := size_pos y
    obtain ⟨c, cs, hcs, hc⟩ := render_head hy (d + 1)
    have hv := value_render y (d + 1) depth fuel (itemsTail d ys ++ rest) hy (by omega)
      (endsNumber_itemsTail d ys rest)
    rw [hcs, List.cons_append] at hv
    simp only [itemsTail, hcs, List.cons_append, List.append_assoc]
    rw [items_element (inArray_next hc (d + 1) _) hv,
      items_render ys d depth fuel (normalize y :: acc) rest hys (by omega)]
    simp [normalizeItems]

/-- The members after the first: each after a comma, then the closing brace. -/
theorem members_render : ∀ (ms : List (String × Json)) (d depth fuel : Nat)
    (acc : List (String × Json)) (rest : List Char), MembersReadable depth ms →
      sizeMembers ms < fuel →
      members fuel depth false acc (membersTail d ms ++ rest) =
        .ok (.obj (normalizeMembers acc ms), rest)
  | _, _, _, 0, _, _, _, hsize => absurd hsize (Nat.not_lt_zero _)
  | [], d, depth, fuel + 1, acc, rest, _, _ => by
    simp only [membersTail, List.cons_append, List.append_assoc, List.nil_append]
    rw [members_close (inObject_close false d rest)]
    simp [normalizeMembers]
  | (k, v) :: ms, d, depth, fuel + 1, acc, rest, hj, hsize => by
    simp only [MembersReadable] at hj
    obtain ⟨hv, hms⟩ := hj
    simp only [sizeMembers] at hsize
    have hv1 := size_pos v
    obtain ⟨f, rfl⟩ : ∃ f, fuel = f + 1 := ⟨fuel - 1, by omega⟩
    have hval := value_render v (d + 1) depth (f + 1) (membersTail d ms ++ rest) hv (by omega)
      (endsNumber_membersTail d ms rest)
    simp only [membersTail, toList_quote, List.cons_append, List.append_assoc, List.nil_append]
    rw [members_member (inObject_next (d + 1) _) hval,
      members_render ms d depth (f + 1) _ rest hms (by omega)]
    simp [normalizeMembers]

end

/-! ### Enough fuel

The reader is given two steps per character of the text; a value's size is at most one more
than the length of its text. -/

mutual

theorem size_le_length : ∀ (j : Json) (d : Nat), size j ≤ (render d j).toList.length + 1
  | .null, _ | .bool _, _ | .num _, _ | .float _, _ | .str _, _ => by simp [size]
  | .arr [], d => by simp [size, sizeItems, render]
  | .arr (x :: xs), d => by
    have hx := size_le_length x (d + 1)
    have hxs := sizeItems_le_length xs d
    rw [toList_render_arr_cons]
    simp only [size, sizeItems, List.length_cons, List.length_append]
    omega
  | .obj [], d => by simp [size, sizeMembers, render, openBrace, closeBrace]
  | .obj ((k, v) :: ms), d => by
    have hv := size_le_length v (d + 1)
    have hms := sizeMembers_le_length ms d
    rw [toList_render_obj_cons]
    simp only [size, sizeMembers, List.length_cons, List.length_append]
    omega

theorem sizeItems_le_length : ∀ (xs : List Json) (d : Nat),
    sizeItems xs ≤ (itemsTail d xs).length
  | [], _ => by simp [sizeItems]
  | y :: ys, d => by
    have hy := size_le_length y (d + 1)
    have hys := sizeItems_le_length ys d
    simp only [sizeItems, itemsTail, List.length_cons, List.length_append]
    omega

theorem sizeMembers_le_length : ∀ (ms : List (String × Json)) (d : Nat),
    sizeMembers ms ≤ (membersTail d ms).length
  | [], _ => by simp [sizeMembers]
  | (k, v) :: ms, d => by
    have hv := size_le_length v (d + 1)
    have hms := sizeMembers_le_length ms d
    simp only [sizeMembers, membersTail, List.length_cons, List.length_append]
    omega

end

/-- **Pretty text reads back.** The reader gives back every readable value from its pretty
text, with the members of each object set in the byte order of their names. -/
theorem parse_pretty {j : Json} (hj : Readable maxDepth j) : parse j.pretty = .ok j.normalize := by
  have hlen := size_le_length j 0
  have hv := value_render j 0 maxDepth (2 * (render 0 j).toList.length + 2) [] hj (by omega)
    endsNumber_nil
  rw [List.append_nil] at hv
  simp only [parse, pretty, hv, skipBlanks]

end Json

end AddressSpace
