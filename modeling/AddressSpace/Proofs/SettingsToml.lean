import Mathlib
import AddressSpace.Config.Settings
import AddressSpace.Proofs.NumeralText

/-!
# Reading back the settings text

The settings are written as two `key = value` lines, the format by `Toml.quoteString`,
which picks one of four string forms for it. Each form reads back as the string it holds,
whatever follows it on its line, so the text of any settings reads back as those settings.

* `Toml.basicEscape_cases` — what a basic string writes for one character: an escape that
  reads back as the character, or the character itself;
* `Toml.basicString_flatMap`, `Toml.multiLine_multiLineBody`, `Toml.literalString_append`,
  `Toml.multiLine_literal` — the bodies of the four forms read back;
* `Toml.string_quoteString` — the form that `quoteString` picks reads back;
* **`Settings.ofToml_toToml`** — `ofToml c.toToml = .ok c` for all settings `c`.
-/

namespace AddressSpace.Toml

/-! ### Escapes -/

/-- The four hex digits of a `\u` escape read back as the character they write. -/
theorem unicodeEscape_hexUpper {c : Char} (hc : c.toNat < 16 ^ 4) :
    (Numeral.hexUpper 4 c.toNat).toList.length = 4 ∧
      unicodeEscape (Numeral.hexUpper 4 c.toNat).toList = some c := by
  have hlen := Numeral.length_hexDigits (by decide) hc
  have hdigits := Numeral.mapM_hexValue?_map Numeral.hexValue?_toUpper_hexDigitLower
    (Numeral.hexDigits 4 c.toNat) fun d hd => Numeral.lt_of_mem_hexDigits hd
  have hvalid : c.toNat < 0xD800 ∨ (0xDFFF < c.toNat ∧ c.toNat < 0x110000) := c.valid
  refine ⟨by simp [Numeral.hexUpper, hlen], ?_⟩
  simp [unicodeEscape, Numeral.hexUpper, hdigits, Numeral.valueIn_hexDigits, hvalid]

/-- What a basic string writes for one character: a backslash and an escape that reads back
as the character and does not start with a blank or a line ending, or the character itself,
which a string may hold as it is. A one-line string holds neither quote nor line feed. -/
theorem basicEscape_cases (m : Bool) (c : Char) :
    (∃ d t, basicEscape m c = '\\' :: d :: t ∧ isSpace d = false ∧ d ≠ '\n' ∧ d ≠ '\r' ∧
        ∀ rest, escape (d :: (t ++ rest)) = some (c, rest)) ∨
      (basicEscape m c = [c] ∧ c ≠ '\\' ∧ c ≠ '\r' ∧ (c ≠ '\n' → isForbiddenControl c = false) ∧
        (m = false → c ≠ '"' ∧ c ≠ '\n')) := by
  unfold basicEscape
  by_cases h1 : c = '\x08'
  · subst h1; exact .inl ⟨'b', [], rfl, rfl, by decide, by decide, fun _ => rfl⟩
  by_cases h2 : c = '\t'
  · subst h2; exact .inl ⟨'t', [], rfl, rfl, by decide, by decide, fun _ => rfl⟩
  by_cases h3 : c = '\n'
  · subst h3
    cases m
    · exact .inl ⟨'n', [], rfl, rfl, by decide, by decide, fun _ => rfl⟩
    · exact .inr ⟨rfl, by decide, by decide, fun h => absurd rfl h, nofun⟩
  by_cases h4 : c = '\x0c'
  · subst h4; exact .inl ⟨'f', [], rfl, rfl, by decide, by decide, fun _ => rfl⟩
  by_cases h5 : c = '\r'
  · subst h5; exact .inl ⟨'r', [], rfl, rfl, by decide, by decide, fun _ => rfl⟩
  by_cases h6 : c = '"'
  · subst h6
    cases m
    · exact .inl ⟨'"', [], rfl, rfl, by decide, by decide, fun _ => rfl⟩
    · exact .inr ⟨rfl, by decide, by decide, fun _ => by decide, nofun⟩
  by_cases h7 : c = '\\'
  · subst h7; exact .inl ⟨'\\', [], rfl, rfl, by decide, by decide, fun _ => rfl⟩
  simp only [h1, h2, h3, h4, h5, h6, h7, if_false]
  by_cases h8 : c.toNat < 0x20 || c.toNat = 0x7F
  · -- a control character, written `\u` and four hex digits
    obtain ⟨hlen, hesc⟩ := unicodeEscape_hexUpper (c := c) (by
      simp only [Bool.or_eq_true, decide_eq_true_eq] at h8; omega)
    refine .inl ⟨'u', (Numeral.hexUpper 4 c.toNat).toList, by simp [h8], rfl, by decide, by decide,
      fun rest => ?_⟩
    simp [escape, hlen, hesc]
  · refine .inr ⟨by simp [h8], h7, h5, fun _ => ?_, fun _ => ⟨h6, h3⟩⟩
    simp only [Bool.or_eq_true, decide_eq_true_eq, not_or] at h8
    simp [isForbiddenControl, h8.2, Nat.not_lt.2 (Nat.le_of_not_lt h8.1)]

theorem length_basicEscape_pos (m : Bool) (c : Char) : 0 < (basicEscape m c).length := by
  rcases basicEscape_cases m c with ⟨d, t, h, -⟩ | ⟨h, -⟩ <;> simp [h]

/-! ### One-line basic strings -/

/-- One character of a one-line basic string reads back. -/
theorem basicString_basicEscape (fuel : Nat) (acc : List Char) (c : Char) (rest : List Char) :
    basicString (fuel + 1) acc (basicEscape false c ++ rest) = basicString fuel (c :: acc) rest := by
  rcases basicEscape_cases false c with ⟨d, t, ht, -, -, -, hesc⟩ | ⟨hraw, hbs, -, hctl, hm⟩
  · rw [ht, List.cons_append]
    simp [basicString, hesc]
  · obtain ⟨hq, hn⟩ := hm rfl
    rw [hraw, List.singleton_append]
    -- `simp` discharges the patterns of the quote and the backslash by `hq` and `hbs`
    simp [basicString, hctl hn]

/-- **A one-line basic string reads back**: the escapes of its characters, then the closing
quote, at any fuel above the number of characters. -/
theorem basicString_flatMap (cs : List Char) : ∀ (fuel : Nat) (acc rest : List Char),
    cs.length < fuel →
      basicString fuel acc (cs.flatMap (basicEscape false) ++ '"' :: rest) =
        some (String.ofList (acc.reverse ++ cs), rest) := by
  induction cs with
  | nil =>
    intro fuel acc rest hfuel
    obtain ⟨f, rfl⟩ : ∃ f, fuel = f + 1 := ⟨fuel - 1, by simp at hfuel; omega⟩
    simp [basicString]
  | cons c cs ih =>
    intro fuel acc rest hfuel
    obtain ⟨f, rfl⟩ : ∃ f, fuel = f + 1 := ⟨fuel - 1, by simp at hfuel; omega⟩
    rw [List.flatMap_cons, List.append_assoc, basicString_basicEscape,
      ih f (c :: acc) rest (by simp at hfuel; omega)]
    simp

/-! ### Multi-line strings -/

/-- The closing triple quote of a multi-line string, after at most two more quotes, which
belong to the text. -/
theorem multiLine_close (q : Char) (basic : Bool) (fuel : Nat) (acc : List Char) {k : Nat}
    (hk : k ≤ 2) {rest : List Char} (hrest : rest.head? ≠ some q) :
    multiLine q basic (fuel + 1) acc (List.replicate k q ++ q :: q :: q :: rest) =
      some (String.ofList (acc.reverse ++ List.replicate k q), rest) := by
  have htext : List.replicate k q ++ q :: q :: q :: rest =
      q :: q :: q :: (List.replicate k q ++ rest) := by
    calc List.replicate k q ++ q :: q :: q :: rest = List.replicate (k + 3) q ++ rest := by
          simp [List.replicate_add]
      _ = q :: q :: q :: (List.replicate k q ++ rest) := by
          rw [Nat.add_comm, List.replicate_add]; rfl
  have hrun : (List.replicate k q ++ rest).takeWhile (· = q) = List.replicate k q := by
    rw [List.takeWhile_append_of_pos (by simp)]
    cases rest with
    | nil => simp
    | cons r rs => simp_all
  have hdrop : (q :: q :: (List.replicate k q ++ rest)).drop (2 + k) = rest := by
    rw [Nat.add_comm]
    simp
  rw [htext]
  simp [multiLine, hrun, hdrop, Nat.not_lt.2 hk]

/-- A quote that does not open the closing triple quote is a character of the text. -/
theorem multiLine_quote {q : Char} (hq : q = '"' ∨ q = '\'') (basic : Bool) (fuel : Nat)
    (acc : List Char) {rest : List Char} (hrest : rest.take 2 ≠ [q, q]) :
    multiLine q basic (fuel + 1) acc (q :: rest) = multiLine q basic fuel (q :: acc) rest := by
  rcases hq with rfl | rfl <;> simp [multiLine, hrest, isForbiddenControl]

/-- One character other than a double quote of a multi-line basic string reads back. -/
theorem multiLine_basicEscape (fuel : Nat) (acc : List Char) {c : Char} (hc : c ≠ '"')
    (rest : List Char) :
    multiLine '"' true (fuel + 1) acc (basicEscape true c ++ rest) =
      multiLine '"' true fuel (c :: acc) rest := by
  rcases basicEscape_cases true c with ⟨d, t, ht, hd, hdn, hdr, hesc⟩ | ⟨hraw, hbs, hcr, hctl, -⟩
  · rw [ht, List.cons_append, List.cons_append]
    simp [multiLine, hd, hdn, hdr, hesc]
  · rw [hraw, List.singleton_append]
    by_cases hn : c = '\n'
    · subst hn
      simp [multiLine]
    · simp [multiLine, hc, hbs, hcr, hctl hn]

/-- After a double quote of a multi-line body, two more quotes follow only where the body
ends: the quote was the text's last, or its last but one before a last quote. -/
theorem multiLineBody_take_two {run : Nat} (hrun : run = 1 ∨ run = 2) (cs rest : List Char)
    (h : (multiLineBody run cs ++ '"' :: '"' :: '"' :: rest).take 2 = ['"', '"']) :
    cs = [] ∨ (cs = ['"'] ∧ run = 1) := by
  cases cs with
  | nil => exact .inl rfl
  | cons c cs =>
    by_cases hc : c = '"'
    · subst hc
      rcases hrun with rfl | rfl
      · -- the quote is written as it is; a next quote would be the third of a run
        cases cs with
        | nil => exact .inr ⟨rfl, rfl⟩
        | cons c' cs =>
          by_cases hc' : c' = '"'
          · subst hc'
            simp [multiLineBody] at h
          · rcases basicEscape_cases true c' with ⟨d, t, ht, -⟩ | ⟨ht, -⟩ <;>
              simp [multiLineBody, hc', ht] at h
      · simp [multiLineBody] at h
    · rcases basicEscape_cases true c with ⟨d, t, ht, -⟩ | ⟨ht, -⟩ <;>
        simp [multiLineBody, hc, ht] at h

/-- **A multi-line basic string reads back**: its body, written after a run of at most two
quotes, then the closing triple quote, at any fuel above the number of characters, when
what follows does not start with a double quote. -/
theorem multiLine_multiLineBody (cs : List Char) : ∀ (run fuel : Nat) (acc rest : List Char),
    run ≤ 2 → cs.length < fuel → rest.head? ≠ some '"' →
      multiLine '"' true fuel acc (multiLineBody run cs ++ '"' :: '"' :: '"' :: rest) =
        some (String.ofList (acc.reverse ++ cs), rest) := by
  induction cs with
  | nil =>
    intro run fuel acc rest _ hfuel hrest
    obtain ⟨f, rfl⟩ : ∃ f, fuel = f + 1 := ⟨fuel - 1, by simp at hfuel; omega⟩
    simpa [multiLineBody] using multiLine_close '"' true f acc (k := 0) (by omega) hrest
  | cons c cs ih =>
    intro run fuel acc rest hrun hfuel hrest
    obtain ⟨f, rfl⟩ : ∃ f, fuel = f + 1 := ⟨fuel - 1, by simp at hfuel; omega⟩
    have hcs : cs.length < f := by simp at hfuel; omega
    by_cases hc : c = '"'
    · subst hc
      by_cases h3 : run = 2
      · -- the third quote of a run is escaped
        subst h3
        simp only [multiLineBody, if_true, List.cons_append]
        simp [multiLine, isSpace, escape, ih 0 f ('"' :: acc) rest (by omega) hcs hrest]
      have hbody : multiLineBody run ('"' :: cs) = '"' :: multiLineBody (run + 1) cs := by
        simp [multiLineBody]
        omega
      rw [hbody, List.cons_append]
      by_cases hclose :
          (multiLineBody (run + 1) cs ++ '"' :: '"' :: '"' :: rest).take 2 = ['"', '"']
      · -- the quote opens the closing quotes: it is the text's last or last but one
        rcases multiLineBody_take_two (by omega) cs rest hclose with rfl | ⟨rfl, hrun1⟩
        · simpa [multiLineBody] using multiLine_close '"' true f acc (k := 1) (by omega) hrest
        · have hlast : multiLineBody (run + 1) ['"'] = ['"'] := by
            simp [multiLineBody]
            omega
          rw [hlast]
          simpa using multiLine_close '"' true f acc (k := 2) (by omega) hrest
      · rw [multiLine_quote (.inl rfl) true f acc hclose,
          ih (run + 1) f ('"' :: acc) rest (by omega) hcs hrest]
        simp
    · have hbody : multiLineBody run (c :: cs) = basicEscape true c ++ multiLineBody 0 cs := by
        simp [multiLineBody, hc]
      rw [hbody, List.append_assoc, multiLine_basicEscape f acc hc,
        ih 0 f (c :: acc) rest (by omega) hcs hrest]
      simp

/-! ### Literal strings -/

theorem isForbiddenControl_of_needsEscapeCode {c : Char} (h : needsEscapeCode c = false)
    (hn : c ≠ '\n') : isForbiddenControl c = false := by
  simpa [needsEscapeCode, isForbiddenControl, hn] using h

/-- **A one-line literal string reads back**: its characters, then the closing quote, when
they hold no single quote and no control character. -/
theorem literalString_append {cs : List Char} (hq : '\'' ∉ cs)
    (hctl : ∀ c ∈ cs, isForbiddenControl c = false) (rest : List Char) :
    literalString (cs ++ '\'' :: rest) = some (String.ofList cs, rest) := by
  have hbody : (cs ++ '\'' :: rest).takeWhile (· ≠ '\'') = cs := by
    rw [List.takeWhile_append_of_pos]
    · simp
    · intro c hc
      simp only [ne_eq, decide_eq_true_eq]
      rintro rfl
      exact hq hc
  have hany : cs.any isForbiddenControl = false := List.any_eq_false.2 fun c hc => by
    simp [hctl c hc]
  simp only [literalString]
  rw [hbody, List.drop_left, hany]
  rfl

/-- A character of a multi-line literal string other than its quote reads back as itself. -/
theorem multiLine_literal_char (fuel : Nat) (acc : List Char) {c : Char} (hq : c ≠ '\'')
    (hctl : needsEscapeCode c = false) (rest : List Char) :
    multiLine '\'' false (fuel + 1) acc (c :: rest) = multiLine '\'' false fuel (c :: acc) rest := by
  have hcr : c ≠ '\r' := by
    rintro rfl
    simp [needsEscapeCode] at hctl
  by_cases hn : c = '\n'
  · subst hn
    simp [multiLine]
  · simp [multiLine, hq, hcr, isForbiddenControl_of_needsEscapeCode hctl hn]

/-- After a single quote of a text with no three in a row, two more quotes follow only
where the text ends. -/
theorem eq_nil_or_quote_of_take_two {q : Char} {cs rest : List Char}
    (hrun : ¬ [q, q, q] <:+: q :: cs) (h : (cs ++ q :: q :: q :: rest).take 2 = [q, q]) :
    cs = [] ∨ cs = [q] := by
  rcases cs with _ | ⟨a, _ | ⟨b, t⟩⟩
  · exact .inl rfl
  · simp at h
    exact .inr (by rw [h])
  · simp only [List.cons_append, List.take_succ_cons, List.take_zero, List.cons.injEq,
      and_true] at h
    obtain ⟨rfl, rfl⟩ := h
    exact absurd ⟨[], t, rfl⟩ hrun

/-- **A multi-line literal string reads back**: its characters, then the closing triple
quote, when they hold no three single quotes in a row and no character that needs an
escape, at any fuel above their number, when what follows does not start with a quote. -/
theorem multiLine_literal (cs : List Char) : ∀ (fuel : Nat) (acc rest : List Char),
    ¬ ['\'', '\'', '\''] <:+: cs → (∀ c ∈ cs, needsEscapeCode c = false) → cs.length < fuel →
      rest.head? ≠ some '\'' →
      multiLine '\'' false fuel acc (cs ++ '\'' :: '\'' :: '\'' :: rest) =
        some (String.ofList (acc.reverse ++ cs), rest) := by
  induction cs with
  | nil =>
    intro fuel acc rest _ _ hfuel hrest
    obtain ⟨f, rfl⟩ : ∃ f, fuel = f + 1 := ⟨fuel - 1, by simp at hfuel; omega⟩
    simpa using multiLine_close '\'' false f acc (k := 0) (by omega) hrest
  | cons c cs ih =>
    intro fuel acc rest hrun hctl hfuel hrest
    obtain ⟨f, rfl⟩ : ∃ f, fuel = f + 1 := ⟨fuel - 1, by simp at hfuel; omega⟩
    have hcs : cs.length < f := by simp at hfuel; omega
    have hrun' : ¬ ['\'', '\'', '\''] <:+: cs :=
      fun h => hrun (h.trans (List.suffix_cons c cs).isInfix)
    have hctl' : ∀ x ∈ cs, needsEscapeCode x = false := fun x hx => hctl x (by simp [hx])
    by_cases hc : c = '\''
    · subst hc
      by_cases hclose : (cs ++ '\'' :: '\'' :: '\'' :: rest).take 2 = ['\'', '\'']
      · -- the quote opens the closing quotes: it is the text's last or last but one
        rcases eq_nil_or_quote_of_take_two hrun hclose with rfl | rfl
        · simpa using multiLine_close '\'' false f acc (k := 1) (by omega) hrest
        · simpa using multiLine_close '\'' false f acc (k := 2) (by omega) hrest
      · rw [List.cons_append, multiLine_quote (.inr rfl) false f acc hclose,
          ih f ('\'' :: acc) rest hrun' hctl' hcs hrest]
        simp
    · rw [List.cons_append, multiLine_literal_char f acc hc (hctl c (by simp)),
        ih f (c :: acc) rest hrun' hctl' hcs hrest]
      simp

/-! ### The four forms -/

/-- A double quote that is not one of three opens a one-line basic string. -/
theorem string_double {fuel : Nat} {cs : List Char} (h : cs.take 2 ≠ ['"', '"']) :
    string fuel ('"' :: cs) = basicString fuel [] cs := by
  unfold string
  split
  next _ rest heq =>
    simp only [List.cons.injEq, true_and] at heq
    simp [heq] at h
  next _ rest _ heq =>
    simp only [List.cons.injEq, true_and] at heq
    rw [heq]
  next _ rest heq => simp at heq
  next _ rest _ heq => simp at heq
  next _ _ hbasic _ _ => exact (hbasic cs rfl).elim

/-- A single quote that is not one of three opens a one-line literal string. -/
theorem string_single {fuel : Nat} {cs : List Char} (h : cs.take 2 ≠ ['\'', '\'']) :
    string fuel ('\'' :: cs) = literalString cs := by
  unfold string
  split
  next _ rest heq => simp at heq
  next _ rest _ heq => simp at heq
  next _ rest heq =>
    simp only [List.cons.injEq, true_and] at heq
    simp [heq] at h
  next _ rest _ heq =>
    simp only [List.cons.injEq, true_and] at heq
    rw [heq]
  next _ _ _ _ hliteral => exact (hliteral cs rfl).elim

/-- The line ending after an opening triple quote is dropped only where there is one. -/
theorem dropFirstNewline_of_head {cs : List Char}
    (h : ∀ d ∈ cs.head?, d ≠ '\n' ∧ d ≠ '\r') : dropFirstNewline cs = cs := by
  unfold dropFirstNewline
  split
  next rest => simp at h
  next rest => simp at h
  next => rfl

theorem toList_basicForm (cs : List Char) :
    (basicForm cs).toList = '"' :: (cs.flatMap (basicEscape false) ++ ['"']) := by
  simp [basicForm]

/-- A one-line basic string reads back, before anything that does not start with a double
quote. -/
theorem string_basicForm (cs : List Char) {fuel : Nat} (hfuel : cs.length < fuel)
    {rest : List Char} (hrest : rest.head? ≠ some '"') :
    string fuel ((basicForm cs).toList ++ rest) = some (String.ofList cs, rest) := by
  have hopen : (cs.flatMap (basicEscape false) ++ '"' :: rest).take 2 ≠ ['"', '"'] := by
    cases cs with
    | nil => cases rest <;> simp_all
    | cons c cs =>
      rcases basicEscape_cases false c with ⟨d, t, h, -⟩ | ⟨h, -, -, -, hm⟩
      · simp [h]
      · simp [h, (hm rfl).1]
  rw [toList_basicForm, List.cons_append, List.append_assoc, List.singleton_append,
    string_double hopen, basicString_flatMap cs fuel [] rest hfuel]
  simp

/-- A one-line literal string reads back, before anything that does not start with a
single quote. -/
theorem string_literalForm {s : String} (hq : '\'' ∉ s.toList)
    (hctl : ∀ c ∈ s.toList, isForbiddenControl c = false) (fuel : Nat) {rest : List Char}
    (hrest : rest.head? ≠ some '\'') :
    string fuel (("'" ++ s ++ "'").toList ++ rest) = some (s, rest) := by
  have hopen : (s.toList ++ '\'' :: rest).take 2 ≠ ['\'', '\''] := by
    cases h : s.toList with
    | nil => cases rest <;> simp_all
    | cons c cs =>
      have hc : c ≠ '\'' := fun hc => hq (by simp [h, hc])
      simp [hc]
  have htext : ("'" ++ s ++ "'").toList ++ rest = '\'' :: (s.toList ++ '\'' :: rest) := by
    simp
  rw [htext, string_single hopen, literalString_append hq hctl]
  simp

theorem toList_multiLineBasicForm (cs : List Char) :
    (multiLineBasicForm cs).toList = '"' :: '"' :: '"' ::
      ((if cs.contains '\n' then ['\n'] else []) ++ multiLineBody 0 cs ++ ['"', '"', '"']) := by
  unfold multiLineBasicForm
  split <;> simp

/-- A multi-line basic string reads back, before anything that does not start with a double
quote. -/
theorem string_multiLineBasicForm (cs : List Char) {fuel : Nat} (hfuel : cs.length < fuel)
    {rest : List Char} (hrest : rest.head? ≠ some '"') :
    string fuel ((multiLineBasicForm cs).toList ++ rest) = some (String.ofList cs, rest) := by
  have hbody : dropFirstNewline ((if cs.contains '\n' then ['\n'] else []) ++
      (multiLineBody 0 cs ++ '"' :: '"' :: '"' :: rest)) =
      multiLineBody 0 cs ++ '"' :: '"' :: '"' :: rest := by
    split
    · rfl
    · -- without line feeds the body starts with neither a line feed nor a carriage return
      next hn =>
      apply dropFirstNewline_of_head
      cases cs with
      | nil => simp [multiLineBody]
      | cons c cs =>
        have hc : c ≠ '\n' := fun h => hn (by simp [h])
        by_cases hq : c = '"'
        · simp [multiLineBody, hq]
        · rcases basicEscape_cases true c with ⟨d, t, h, -⟩ | ⟨h, -, hcr, -⟩
          · simp [multiLineBody, hq, h]
          · simp [multiLineBody, hq, h, hc, hcr]
  rw [toList_multiLineBasicForm]
  simp only [List.cons_append, List.append_assoc, List.nil_append]
  show multiLine '"' true fuel [] (dropFirstNewline _) = _
  rw [hbody, multiLine_multiLineBody cs 0 fuel [] rest (by omega) hfuel hrest]
  simp

/-- A multi-line literal string reads back, before anything that does not start with a
single quote. -/
theorem string_multiLineLiteralForm {s : String} (hrun : ¬ ['\'', '\'', '\''] <:+: s.toList)
    (hctl : ∀ c ∈ s.toList, needsEscapeCode c = false) {fuel : Nat} (hfuel : s.length < fuel)
    {rest : List Char} (hrest : rest.head? ≠ some '\'') :
    string fuel (("'''" ++ (if s.toList.contains '\n' then "\n" else "") ++ s ++ "'''").toList ++
      rest) = some (s, rest) := by
  have hbody : dropFirstNewline ((if s.toList.contains '\n' then ['\n'] else []) ++
      (s.toList ++ '\'' :: '\'' :: '\'' :: rest)) = s.toList ++ '\'' :: '\'' :: '\'' :: rest := by
    split
    · rfl
    · next hn =>
      apply dropFirstNewline_of_head
      cases h : s.toList with
      | nil => simp
      | cons c cs =>
        have hc : c ≠ '\n' := fun hc => hn (by simp [h, hc])
        have hcr : c ≠ '\r' := by
          rintro rfl
          simpa [needsEscapeCode] using hctl '\r' (by simp [h])
        simp [hc, hcr]
  have htext : ("'''" ++ (if s.toList.contains '\n' then "\n" else "") ++ s ++ "'''").toList ++
      rest = '\'' :: '\'' :: '\'' :: ((if s.toList.contains '\n' then ['\n'] else []) ++
        (s.toList ++ '\'' :: '\'' :: '\'' :: rest)) := by
    split <;> simp
  rw [htext]
  show multiLine '\'' false fuel [] (dropFirstNewline _) = _
  rw [hbody, multiLine_literal s.toList fuel [] rest hrun hctl (by rw [String.length_toList]; exact hfuel)
    hrest]
  simp

/-! ### The form a writer picks -/

/-- The longest run seen so far never shrinks. -/
theorem le_fst_foldl_run (q : Char) : ∀ (l : List Char) (a : Nat × Nat),
    a.1 ≤ (l.foldl (fun (acc : Nat × Nat) c =>
      if c = q then (max acc.1 (acc.2 + 1), acc.2 + 1) else (acc.1, 0)) a).1 := by
  intro l
  induction l with
  | nil => simp
  | cons c l ih =>
    intro a
    refine le_trans ?_ (ih _)
    dsimp only
    split
    · exact le_max_left _ _
    · exact le_rfl

theorem one_le_longestRun {q : Char} {cs : List Char} (h : q ∈ cs) : 1 ≤ longestRun q cs := by
  obtain ⟨l, r, rfl⟩ := List.append_of_mem h
  unfold longestRun
  rw [List.foldl_append, List.foldl_cons]
  refine le_trans ?_ (le_fst_foldl_run q r _)
  simp only [if_true]
  omega

theorem three_le_longestRun {q : Char} {cs : List Char} (h : [q, q, q] <:+: cs) :
    3 ≤ longestRun q cs := by
  obtain ⟨l, r, rfl⟩ := h
  unfold longestRun
  rw [List.foldl_append, List.foldl_append]
  refine le_trans ?_ (le_fst_foldl_run q r _)
  simp only [List.foldl_cons, List.foldl_nil, if_true]
  omega

/-- The writer's choice: a basic string, one-line or multi-line, or a literal string of
either kind where it can hold the text as it is. -/
theorem quoteString_cases (s : String) :
    quoteString s = basicForm s.toList ∨ quoteString s = multiLineBasicForm s.toList ∨
      ('\'' ∉ s.toList ∧ (∀ c ∈ s.toList, isForbiddenControl c = false) ∧
        quoteString s = "'" ++ s ++ "'") ∨
      (¬ ['\'', '\'', '\''] <:+: s.toList ∧ (∀ c ∈ s.toList, needsEscapeCode c = false) ∧
        quoteString s = "'''" ++ (if s.toList.contains '\n' then "\n" else "") ++ s ++ "'''") := by
  generalize hout : quoteString s = out
  unfold quoteString at hout
  dsimp only at hout
  -- the six choices in the writer's order; only the two literal forms have conditions
  split at hout
  · exact .inl hout.symm
  split at hout
  · next h2 =>
    simp only [StringMetrics.of, Bool.and_eq_true, Bool.not_eq_true', List.any_eq_false] at h2
    obtain ⟨⟨hesc, hq⟩, hn⟩ := h2
    refine .inr (.inr (.inl ⟨fun h => ?_, fun c hc => ?_, hout.symm⟩))
    · have := one_le_longestRun h
      have := of_decide_eq_true hq
      omega
    · refine isForbiddenControl_of_needsEscapeCode (by simpa using hesc c hc) ?_
      rintro rfl
      simp_all
  split at hout
  · exact .inr (.inl hout.symm)
  split at hout
  · next h4 =>
    simp only [StringMetrics.of, Bool.and_eq_true, Bool.not_eq_true', List.any_eq_false] at h4
    obtain ⟨hesc, hq⟩ := h4
    refine .inr (.inr (.inr ⟨fun h => ?_, fun c hc => by simpa using hesc c hc, hout.symm⟩))
    have := three_le_longestRun h
    have := of_decide_eq_true hq
    omega
  split at hout
  · exact .inr (.inl hout.symm)
  · exact .inl hout.symm

/-- **The string a writer puts reads back**, whichever form it takes, before anything that
does not start with a quote. -/
theorem string_quoteString (s : String) {fuel : Nat} (hfuel : s.length < fuel)
    {rest : List Char} (hd : rest.head? ≠ some '"') (hs : rest.head? ≠ some '\'') :
    string fuel ((quoteString s).toList ++ rest) = some (s, rest) := by
  have hlen : s.toList.length < fuel := by rw [String.length_toList]; exact hfuel
  rcases quoteString_cases s with h | h | ⟨hq, hctl, h⟩ | ⟨hrun, hctl, h⟩ <;> rw [h]
  · simpa using string_basicForm s.toList hlen hd
  · simpa using string_multiLineBasicForm s.toList hlen hd
  · exact string_literalForm hq hctl fuel hs
  · exact string_multiLineLiteralForm hrun hctl hfuel hs

theorem length_le_length_flatMap_basicEscape (cs : List Char) :
    cs.length ≤ (cs.flatMap (basicEscape false)).length := by
  induction cs with
  | nil => simp
  | cons c cs ih =>
    have := length_basicEscape_pos false c
    simp only [List.flatMap_cons, List.length_append, List.length_cons]
    omega

theorem length_le_length_multiLineBody (cs : List Char) :
    ∀ run, cs.length ≤ (multiLineBody run cs).length := by
  induction cs with
  | nil => simp
  | cons c cs ih =>
    intro run
    have := length_basicEscape_pos true c
    have := ih 0
    have := ih (run + 1)
    simp only [multiLineBody]
    split
    · split <;> simp <;> omega
    · simp only [List.length_append, List.length_cons]
      omega

/-- A writer's string is at least as long as the text it holds. -/
theorem length_le_quoteString (s : String) : s.length ≤ (quoteString s).toList.length := by
  rw [← String.length_toList]
  rcases quoteString_cases s with h | h | ⟨-, -, h⟩ | ⟨-, -, h⟩ <;> rw [h]
  · have := length_le_length_flatMap_basicEscape s.toList
    rw [toList_basicForm]
    simp only [List.length_cons, List.length_append]
    omega
  · have := length_le_length_multiLineBody s.toList 0
    rw [toList_multiLineBasicForm]
    simp only [List.length_cons, List.length_append]
    omega
  · simp
    omega
  · simp
    omega

/-! ### The settings lines -/

/-- A bare key reads as itself up to the first character that cannot stand in one. -/
theorem simpleKey_bare (fuel : Nat) {key : List Char} (hkey : key ≠ [])
    (hbare : ∀ c ∈ key, isBareKeyChar c = true) {rest : List Char}
    (hrest : ∀ d ∈ rest.head?, isBareKeyChar d = false) :
    simpleKey fuel (key ++ rest) = some (String.ofList key, rest) := by
  obtain ⟨k0, ks, rfl⟩ := List.exists_cons_of_ne_nil hkey
  have hk0 := hbare k0 (by simp)
  have hdq : k0 ≠ '"' := by rintro rfl; simp [isBareKeyChar] at hk0
  have hsq : k0 ≠ '\'' := by rintro rfl; simp [isBareKeyChar] at hk0
  have htake : (k0 :: (ks ++ rest)).takeWhile isBareKeyChar = k0 :: ks := by
    rw [← List.cons_append, List.takeWhile_append_of_pos hbare]
    cases rest with
    | nil => simp
    | cons d ds => simp_all
  unfold simpleKey
  -- a bare key starts with no quote
  split
  next _ _ heq => simp [hdq] at heq
  next _ _ heq => simp [hsq] at heq
  next _ _ _ heq => simp [hdq] at heq
  next _ _ _ heq => simp [hsq] at heq
  next => simp [htake]

theorem isSpace_eq_false_of_isBareKeyChar {c : Char} (h : isBareKeyChar c = true) :
    isSpace c = false := by
  cases hs : isSpace c
  · rfl
  · simp only [isSpace, Bool.or_eq_true, decide_eq_true_eq] at hs
    rcases hs with rfl | rfl <;> exact absurd h (by decide)

/-- A key line's key: one bare part, then the blank before the sign. -/
theorem dottedKey_bare (fuel : Nat) {key : List Char} (hkey : key ≠ [])
    (hbare : ∀ c ∈ key, isBareKeyChar c = true) (rest : List Char) :
    dottedKey (fuel + 1) (key ++ ' ' :: '=' :: rest) =
      some ([String.ofList key], ' ' :: '=' :: rest) := by
  obtain ⟨k0, ks, rfl⟩ := List.exists_cons_of_ne_nil hkey
  have hk0 : isSpace k0 = false := isSpace_eq_false_of_isBareKeyChar (hbare k0 (by simp))
  have hskip : skipSpaces (k0 :: ks ++ ' ' :: '=' :: rest) = k0 :: ks ++ ' ' :: '=' :: rest := by
    simp [skipSpaces, hk0]
  have hblank : ∀ d ∈ (' ' :: '=' :: rest).head?, isBareKeyChar d = false := by
    intro d hd
    simp only [List.head?_cons, Option.mem_def, Option.some.injEq] at hd
    subst hd
    decide
  have hkey' := simpleKey_bare fuel hkey hbare hblank
  simp only [dottedKey, dottedParts, hskip, hkey']
  rfl

theorem head?_quoteString (s : String) :
    (quoteString s).toList.head? = some '"' ∨ (quoteString s).toList.head? = some '\'' := by
  rcases quoteString_cases s with h | h | ⟨-, -, h⟩ | ⟨-, -, h⟩ <;> rw [h]
  · simp [toList_basicForm]
  · simp [toList_multiLineBasicForm]
  · simp
  · simp

/-- A writer's string starts with a quote, so a value reader takes it for a string. -/
theorem value_quoteString (fuel depth : Nat) {s : String} (hfuel : s.length < fuel)
    (rest : List Char) :
    value (fuel + 1) depth ((quoteString s).toList ++ '\n' :: rest) =
      some (.string s, '\n' :: rest) := by
  have hstr : string fuel ((quoteString s).toList ++ '\n' :: rest) = some (s, '\n' :: rest) :=
    string_quoteString s hfuel (by simp) (by simp)
  rcases head?_quoteString s with hq | hq <;>
  · obtain ⟨t, ht⟩ := List.head?_eq_some_iff.1 hq
    rw [ht, List.cons_append] at hstr ⊢
    simp [value, hstr]

theorem value_boolean (fuel depth : Nat) (b : Bool) (rest : List Char) :
    value (fuel + 1) depth ((if b then "true" else "false").toList ++ '\n' :: rest) =
      some (.boolean b, '\n' :: rest) := by
  cases b <;> rfl

/-- A one-part key goes into the table being filled, where it is not yet. -/
theorem setKey_single {ms : Members Value} {k : String} (hk : ms.lookup k = none) (v : Value) :
    setKey [k] v ms = some (ms ++ [(k, v)]) := by
  simp [setKey, descend, addMember, hk]

/-- **One key line**: a bare key, ` = `, a value and a line feed add the key to the table
being filled, and the lines after it are read with one step of fuel less. -/
theorem lines_keyValue {fuel : Nat} (doc : Doc) {key : List Char} (hkey : key ≠ [])
    (hbare : ∀ c ∈ key, isBareKeyChar c = true)
    (hnew : doc.current.lookup (String.ofList key) = none) {vcs rest : List Char} {v : Value}
    (hvs : ∀ d ∈ vcs.head?, isSpace d = false)
    (hv : value (fuel + 1) 0 (vcs ++ '\n' :: rest) = some (v, '\n' :: rest)) :
    lines (fuel + 2) doc (key ++ ' ' :: '=' :: ' ' :: (vcs ++ '\n' :: rest)) =
      lines (fuel + 1) { doc with current := doc.current ++ [(String.ofList key, v)] } rest := by
  obtain ⟨k0, ks, rfl⟩ := List.exists_cons_of_ne_nil hkey
  have hk0 := hbare k0 (by simp)
  have hskip : skipSpaces (k0 :: ks ++ ' ' :: '=' :: ' ' :: (vcs ++ '\n' :: rest)) =
      k0 :: ks ++ ' ' :: '=' :: ' ' :: (vcs ++ '\n' :: rest) := by
    simp [skipSpaces, isSpace_eq_false_of_isBareKeyChar hk0]
  have hvalue : skipSpaces (' ' :: (vcs ++ '\n' :: rest)) = vcs ++ '\n' :: rest := by
    cases vcs with
    | nil => rfl
    | cons d ds =>
      have hd : isSpace d = false := hvs d rfl
      show List.dropWhile isSpace (' ' :: d :: (ds ++ '\n' :: rest)) = d :: (ds ++ '\n' :: rest)
      rw [List.dropWhile_cons_of_pos (by decide), List.dropWhile_cons_of_neg (by simp [hd])]
  have hsign : skipSpaces (' ' :: '=' :: ' ' :: (vcs ++ '\n' :: rest)) =
      '=' :: ' ' :: (vcs ++ '\n' :: rest) := rfl
  have hend : endOfLine ('\n' :: rest) = some rest := rfl
  -- a bare key starts with no line ending, comment or header bracket
  have hhead : k0 ≠ '\n' ∧ k0 ≠ '\r' ∧ k0 ≠ '#' ∧ k0 ≠ '[' := by
    refine ⟨?_, ?_, ?_, ?_⟩ <;> rintro rfl <;> exact absurd hk0 (by decide)
  conv_lhs => rw [lines, hskip]
  split
  next heq => simp at heq
  next _ heq => simp [hhead.1] at heq
  next _ heq => simp [hhead.2.1] at heq
  next _ heq => simp [hhead.2.2.1] at heq
  next _ heq => simp [hhead.2.2.2] at heq
  next _ heq => simp [hhead.2.2.2] at heq
  next =>
    simp only [dottedKey_bare fuel hkey hbare, hsign, hvalue, hv, hend, setKey_single hnew,
      Option.bind_eq_bind, Option.bind_some]

/-- A text that opens with no byte order mark is read as it is. -/
theorem parse?_of_head {text : String} (h : ∀ d ∈ text.toList.head?, d ≠ '\uFEFF') :
    parse? text = lines (4 * text.toList.length + 4) ⟨[], [], [], false⟩ text.toList := by
  unfold parse?
  split
  next _ heq => simp [heq] at h
  next => rfl

end AddressSpace.Toml

namespace AddressSpace.Settings

open Toml

/-- **The settings text reads back as its two members**, the flag as a boolean and the
format as a string. -/
theorem parse?_toToml (c : Settings) :
    parse? c.toToml =
      some [("root_attributes", .boolean c.rootAttributes), ("format", .string c.format)] := by
  have htext : c.toToml.toList = "root_attributes".toList ++ ' ' :: '=' :: ' ' ::
      ((if c.rootAttributes then "true" else "false").toList ++ '\n' ::
        ("format".toList ++ ' ' :: '=' :: ' ' :: ((quoteString c.format).toList ++ '\n' :: []))) := by
    have hkey₁ : "root_attributes = ".toList = "root_attributes".toList ++ [' ', '=', ' '] := by
      decide
    have hkey₂ : "format = ".toList = "format".toList ++ [' ', '=', ' '] := by decide
    have hnl : "\n".toList = ['\n'] := by decide
    unfold toToml
    simp only [String.toList_append, List.append_assoc, hkey₁, hkey₂, hnl, List.cons_append,
      List.nil_append]
  rw [parse?_of_head (by rw [htext]; simp)]
  set L := c.toToml.toList.length with hL
  have hformat : c.format.length < 4 * L + 1 := by
    have := length_le_quoteString c.format
    have : (quoteString c.format).toList.length ≤ L := by rw [hL, htext]; simp; omega
    omega
  have hquote : ∀ d ∈ (quoteString c.format).toList.head?, isSpace d = false := by
    intro d hd
    rcases head?_quoteString c.format with h | h <;> rw [h] at hd <;> cases hd <;> decide
  -- the flag's line, then the format's line, then the end of the text
  rw [htext, show 4 * L + 4 = (4 * L + 2) + 2 by omega,
    lines_keyValue _ (by decide) (by simp [isBareKeyChar]) rfl
      (by cases c.rootAttributes <;> simp [isSpace]) (value_boolean _ 0 c.rootAttributes _),
    show 4 * L + 2 + 1 = (4 * L + 1) + 2 by omega,
    lines_keyValue _ (by decide) (by simp [isBareKeyChar]) (by simp) hquote
      (value_quoteString _ 0 hformat _)]
  simp [lines, skipSpaces, Doc.close]

/-- **Saved settings read back**: the text of any settings is read as those settings. -/
theorem ofToml_toToml (c : Settings) : ofToml c.toToml = .ok c := by
  simp [ofToml, parse?_toToml, ofTable, List.lookup]
  rfl

end AddressSpace.Settings
