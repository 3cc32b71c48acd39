import AddressSpace.Json.Basic
import AddressSpace.Json.Syntax

/-!
# Reading JSON text

The text of one JSON value read into a `Json`, with the reader's rules for numbers and
objects:

* an integer written without fraction or exponent stays exact when it fits: from `0` to
  `2 ^ 64 - 1`, or from `-2 ^ 63` to `-1`; `-0` and every other integer is a double;
* a number with a fraction or an exponent is a double, computed from the digits that fit
  in 64 bits and the power of ten the rest stand for (`Json.fromParts`); one beyond the
  finite doubles is an error;
* an object keeps one member per name, the last one written, and keeps its members in the
  byte order of their names, as the map that holds them does;
* arrays and objects nest at most 127 deep;
* strings take the escapes `\" \\ \/ \b \f \n \r \t` and `\uXXXX`, a surrogate only as the
  first of a pair; a control character must be escaped.

Text that cannot be read stops the reader with a `Fault` at a place (`Json.Syntax`): at the
character that shows the fault, or right after it when the reader had to take it to know.

* `Json.fromParts` — a significand and a power of ten in doubles;
* `Json.number`, `Json.stringBody`, `Json.value` — the readers;
* `Json.parse` — the whole text, blanks around the value allowed.
-/

namespace AddressSpace

-- `^` on naturals and integers is `Nat.pow` and `Int.pow` in this file, ahead of any other
-- power in scope.
attribute [local instance (high)] instPowNat

namespace Json

/-- The largest 64-bit unsigned integer: a significand keeps its digits while it fits. -/
def maxUnsigned : Nat := 2 ^ (64 : Nat) - 1

/-- The largest 32-bit signed integer: the bound of an exponent. -/
def maxExponent : Int := 2 ^ (31 : Nat) - 1

/-- An exponent kept within 32 bits, as a saturating sum leaves it. -/
def clampExponent (e : Int) : Int := max (-maxExponent - 1) (min maxExponent e)

/-- Whether a character is a decimal digit. -/
def isDigit (c : Char) : Bool := '0' ≤ c && c ≤ '9'

/-- The value of a decimal digit. -/
def digitValue (c : Char) : Nat := c.toNat - '0'.toNat

/-- The double nearest to a power of ten. -/
def powerOfTen (k : Nat) : Binary64 := Decimal.toBinary64 ⟨false, 1, k⟩

/-- Scale a positive double by `10 ^ e`: one multiplication or division by a power of ten up
to `10 ^ 308`, each rounded; below `-308` a division by `10 ^ 308` first, as often as needed,
ending early at zero. None when the product is beyond the finite doubles, or when a nonzero
value is to be raised by more than `10 ^ 308`. The fuel bounds the divisions: a value below
`2 ^ 64` is zero after two. -/
def scaleByTen : Nat → Binary64 → Int → Option Binary64
  | 0, f, _ => some f
  | fuel + 1, f, e =>
    if e.natAbs ≤ 308 then
      if 0 ≤ e then
        let g := f.mul (powerOfTen e.natAbs)
        if g.isFinite then some g else none
      else some (f.div (powerOfTen e.natAbs))
    else if f.isZero then some f
    else if 0 ≤ e then none
    else scaleByTen fuel (f.div (powerOfTen 308)) (e + 308)

/-- The double of `± significand × 10 ^ exponent`: the significand rounded, then scaled. -/
def fromParts (negative : Bool) (significand : Nat) (exponent : Int) : Option Binary64 :=
  (scaleByTen 4 (Binary64.ofNat significand) exponent).map fun f =>
    if negative then f.negate else f

/-- A double read as a JSON value, with the text after it; out of range when it is beyond the
finite doubles. -/
def double (negative : Bool) (significand : Nat) (exponent : Int) (rest : List Char) :
    Except Stop (Json × List Char) :=
  match fromParts negative significand exponent with
  | some x => .ok (.float x, rest)
  | none => stopAt .numberOutOfRange rest

/-- The digits of an exponent after its first, `n` the value of those read. The digit that
takes the exponent beyond 32 bits ends it: the number is out of range when the exponent
raises a nonzero significand, and a zero otherwise. -/
def exponentDigits (negative : Bool) (significand : Nat) (start : Int) (up : Bool) :
    Nat → List Char → Except Stop (Json × List Char)
  | n, c :: rest =>
    if isDigit c then
      if maxExponent < n * 10 + digitValue c then
        if significand ≠ 0 ∧ up then stopAt .numberOutOfRange rest
        else .ok (.float (Binary64.zero negative), rest.dropWhile isDigit)
      else exponentDigits negative significand start up (n * 10 + digitValue c) rest
    else double negative significand (clampExponent (if up then start + n else start - n)) (c :: rest)
  | n, [] => double negative significand (clampExponent (if up then start + n else start - n)) []

/-- The exponent after `e` or `E`: a sign and at least one digit. -/
def exponentPart (negative : Bool) (significand : Nat) (start : Int) (cs : List Char) :
    Except Stop (Json × List Char) :=
  let (up, cs) := match cs with
    | '+' :: rest => (true, rest)
    | '-' :: rest => (false, rest)
    | _ => (true, cs)
  match cs with
  | c :: rest =>
    if isDigit c then exponentDigits negative significand start up (digitValue c) rest
    else stopAt .invalidNumber rest
  | [] => stopAt .eofInValue []

/-- After the digits of a double: an exponent, or the end of the number. -/
def afterDigits (negative : Bool) (significand : Nat) (exponent : Int) :
    List Char → Except Stop (Json × List Char)
  | c :: rest =>
    if c = 'e' ∨ c = 'E' then exponentPart negative significand exponent rest
    else double negative significand exponent (c :: rest)
  | [] => double negative significand exponent []

/-- The digits after the point: each lowers the exponent by one while it fits in the
significand; those after the first that does not fit are passed over. At least one digit
follows the point. -/
def fractionDigits (negative : Bool) :
    Nat → Int → Bool → List Char → Except Stop (Json × List Char)
  | sig, exp, seen, c :: rest =>
    if isDigit c then
      if maxUnsigned < sig * 10 + digitValue c then
        afterDigits negative sig exp ((c :: rest).dropWhile isDigit)
      else fractionDigits negative (sig * 10 + digitValue c) (exp - 1) true rest
    else if seen then afterDigits negative sig exp (c :: rest)
    else stopAhead .invalidNumber (c :: rest)
  | sig, exp, seen, [] => if seen then double negative sig exp [] else stopAhead .eofInValue []

/-- The digits of an integer part that no longer fit: each raises the exponent by one. -/
def longInteger (negative : Bool) (sig : Nat) :
    Int → List Char → Except Stop (Json × List Char)
  | exp, c :: rest =>
    if isDigit c then longInteger negative sig (exp + 1) rest
    else if c = '.' then fractionDigits negative sig exp false rest
    else afterDigits negative sig exp (c :: rest)
  | exp, [] => double negative sig exp []

/-- After an integer part that fits: a fraction, an exponent, or an integer. A negative
integer is exact down to `-2 ^ 63`; `-0` and those below are doubles. -/
def afterInteger (negative : Bool) (sig : Nat) (cs : List Char) :
    Except Stop (Json × List Char) :=
  match cs with
  | '.' :: rest => fractionDigits negative sig 0 false rest
  | c :: rest =>
    if c = 'e' ∨ c = 'E' then exponentPart negative sig 0 rest else .ok (integer, cs)
  | [] => .ok (integer, cs)
where
  /-- The number as an integer. -/
  integer : Json :=
    if !negative then .num sig
    else if sig = 0 ∨ 2 ^ (63 : Nat) < sig then .float (Binary64.ofNat sig).negate
    else .num (-(sig : Int))

/-- The digits of an integer part after its first, while they fit in 64 bits. -/
def integerDigits (negative : Bool) : Nat → List Char → Except Stop (Json × List Char)
  | sig, c :: rest =>
    if isDigit c then
      if maxUnsigned < sig * 10 + digitValue c then longInteger negative sig 0 (c :: rest)
      else integerDigits negative (sig * 10 + digitValue c) rest
    else afterInteger negative sig (c :: rest)
  | sig, [] => afterInteger negative sig []

/-- A number after its sign: `0` alone or digits that do not start with `0`. -/
def number (negative : Bool) (cs : List Char) : Except Stop (Json × List Char) :=
  match cs with
  | '0' :: rest =>
    match rest with
    | c :: _ => if isDigit c then stopAhead .invalidNumber rest else afterInteger negative 0 rest
    | [] => afterInteger negative 0 []
  | c :: rest => if isDigit c then integerDigits negative (digitValue c) rest else stopAt .invalidNumber rest
  | [] => stopAt .eofInValue []

/-- The value of four hex digits. -/
def hexQuad (a b c d : Char) : Option Nat :=
  ([a, b, c, d].mapM Numeral.hexValue?).map (Numeral.valueIn 16)

/-- Where four hex digits are due after `\u` but not there: the reader takes four bytes, and
finds the text at an end when fewer are left. -/
def badHex (cs : List Char) : Stop :=
  if 4 ≤ byteCount cs then ⟨.invalidEscape, cs, 4⟩ else ⟨.eofInString, [], 0⟩

/-- Whether a number is a high surrogate, the first of a pair. -/
def isHighSurrogate (n : Nat) : Bool := 0xD800 ≤ n && n < 0xDC00

/-- Whether a number is a low surrogate, the second of a pair. -/
def isLowSurrogate (n : Nat) : Bool := 0xDC00 ≤ n && n < 0xE000

/-- The character of a surrogate pair. -/
def pairChar (high low : Nat) : Char :=
  Char.ofNat (0x10000 + (high - 0xD800) * 0x400 + (low - 0xDC00))

/-- The character of a one-letter escape. -/
def namedEscape : Char → Option Char
  | '"' => some '"'
  | '\\' => some '\\'
  | '/' => some '/'
  | 'b' => some '\x08'
  | 'f' => some '\x0c'
  | 'n' => some '\n'
  | 'r' => some '\r'
  | 't' => some '\t'
  | _ => none

/-- The characters of a string after its opening quote, escapes replaced, up to the closing
quote; with the text after it. `acc` holds those read, last first. -/
def stringBody : List Char → List Char → Except Stop (String × List Char)
  | _, [] => stopAt .eofInString []
  | acc, '"' :: rest => .ok (String.ofList acc.reverse, rest)
  | acc, '\\' :: 'u' :: a :: b :: c :: d :: rest =>
    match hexQuad a b c d with
    | none => .error (badHex (a :: b :: c :: d :: rest))
    | some n =>
      if isLowSurrogate n then stopAt .loneLeadingSurrogate rest
      else if !isHighSurrogate n then stringBody (Char.ofNat n :: acc) rest
      else
        match rest with
        | '\\' :: 'u' :: e :: f :: g :: h :: after =>
          match hexQuad e f g h with
          | none => .error (badHex (e :: f :: g :: h :: after))
          | some m =>
            if isLowSurrogate m then stringBody (pairChar n m :: acc) after
            else stopAt .loneLeadingSurrogate after
        | '\\' :: 'u' :: short => .error (badHex short)
        | '\\' :: x :: more => .error ⟨.unexpectedEndOfHexEscape, x :: more, 1⟩
        | ['\\'] => stopAt .eofInString []
        | x :: more => .error ⟨.unexpectedEndOfHexEscape, x :: more, 1⟩
        | [] => stopAt .eofInString []
  | _, '\\' :: 'u' :: short => .error (badHex short)
  | acc, '\\' :: x :: rest =>
    match namedEscape x with
    | some e => stringBody (e :: acc) rest
    | none => stopAt .invalidEscape rest
  | _, ['\\'] => stopAt .eofInString []
  | acc, c :: rest =>
    if c.toNat < 0x20 then stopAt .controlCharacter rest else stringBody (c :: acc) rest

/-- The text after the blanks at its start: spaces, tabs, line feeds, carriage returns. -/
def skipBlanks : List Char → List Char
  | c :: rest => if c = ' ' ∨ c = '\t' ∨ c = '\n' ∨ c = '\r' then skipBlanks rest else c :: rest
  | [] => []

/-- The rest of a literal after its first letter. -/
def word : List Char → Json → List Char → Except Stop (Json × List Char)
  | [], v, cs => .ok (v, cs)
  | _ :: _, _, [] => stopAt .eofInValue []
  | e :: es, v, c :: rest => if c = e then word es v rest else stopAt .expectedIdent rest

/-- Set a member in a list of members in the byte order of their names, in place of one of
the same name. -/
def setMember (k : String) (v : Json) : List (String × Json) → List (String × Json)
  | [] => [(k, v)]
  | (k', v') :: rest =>
    if k < k' then (k, v) :: (k', v') :: rest
    else if k = k' then (k, v) :: rest
    else (k', v') :: setMember k v rest

/-- What comes next inside an array or an object. -/
inductive Next where
  /-- Its end, with the text after the closing bracket or brace. -/
  | close (rest : List Char)
  /-- An element, with the text where it starts; for an object, after the name's quote. -/
  | element (start : List Char)

/-- What comes next in an array, after its opening bracket (`first`) or an item. -/
def Next.inArray (first : Bool) (cs : List Char) : Except Stop Next :=
  match skipBlanks cs with
  | ']' :: rest => .ok (.close rest)
  | ',' :: rest =>
    if first then .ok (.element (',' :: rest))
    else
      match skipBlanks rest with
      | ']' :: more => stopAhead .trailingComma (']' :: more)
      | [] => stopAhead .eofInValue []
      | start => .ok (.element start)
  | [] => stopAhead .eofInList []
  | start => if first then .ok (.element start) else stopAhead .expectedListCommaOrEnd start

/-- What comes next in an object, after its opening brace (`first`) or a member. -/
def Next.inObject (first : Bool) (cs : List Char) : Except Stop Next :=
  match skipBlanks cs with
  | '\x7d' :: rest => .ok (.close rest)
  | ',' :: rest =>
    if first then stopAhead .keyMustBeString (',' :: rest)
    else
      match skipBlanks rest with
      | '"' :: more => .ok (.element more)
      | '\x7d' :: more => stopAhead .trailingComma ('\x7d' :: more)
      | [] => stopAhead .eofInValue []
      | other => stopAhead .keyMustBeString other
  | '"' :: more =>
    if first then .ok (.element more) else stopAhead .expectedObjectCommaOrEnd ('"' :: more)
  | [] => stopAhead .eofInObject []
  | other =>
    if first then stopAhead .keyMustBeString other else stopAhead .expectedObjectCommaOrEnd other

/-- The text after the colon that follows a member's name. -/
def afterColon (cs : List Char) : Except Stop (List Char) :=
  match skipBlanks cs with
  | ':' :: rest => .ok rest
  | [] => stopAhead .eofInObject []
  | other => stopAhead .expectedColon other

/-- The number of arrays and objects that may be open at once. -/
def maxDepth : Nat := 127

mutual

/-- A value after optional blanks, with the text after it; `depth` more arrays or objects may
still open. The fuel, one step per call, outlasts the text. -/
def value : Nat → Nat → List Char → Except Stop (Json × List Char)
  | 0, _, cs => stopAt .eofInValue cs
  | fuel + 1, depth, cs =>
    match skipBlanks cs with
    | 'n' :: rest => word ['u', 'l', 'l'] .null rest
    | 't' :: rest => word ['r', 'u', 'e'] (.bool true) rest
    | 'f' :: rest => word ['a', 'l', 's', 'e'] (.bool false) rest
    | '-' :: rest => number true rest
    | '"' :: rest => do
      let (s, rest) ← stringBody [] rest
      pure (.str s, rest)
    | '[' :: rest =>
      if depth = 0 then stopAhead .recursionLimit ('[' :: rest)
      else items fuel (depth - 1) true [] rest
    | '\x7b' :: rest =>
      if depth = 0 then stopAhead .recursionLimit ('\x7b' :: rest)
      else members fuel (depth - 1) true [] rest
    | c :: rest =>
      if isDigit c then number false (c :: rest) else stopAhead .expectedValue (c :: rest)
    | [] => stopAhead .eofInValue []

/-- The items of an array after its opening bracket or an item; `acc` holds those read, last
first. -/
def items : Nat → Nat → Bool → List Json → List Char → Except Stop (Json × List Char)
  | 0, _, _, _, cs => stopAt .eofInList cs
  | fuel + 1, depth, first, acc, cs => do
    match ← Next.inArray first cs with
    | .close rest => pure (.arr acc.reverse, rest)
    | .element start =>
      let (v, rest) ← value fuel depth start
      items fuel depth false (v :: acc) rest

/-- The members of an object after its opening brace or a member; `acc` holds those read. -/
def members : Nat → Nat → Bool → List (String × Json) → List Char →
    Except Stop (Json × List Char)
  | 0, _, _, _, cs => stopAt .eofInObject cs
  | fuel + 1, depth, first, acc, cs => do
    match ← Next.inObject first cs with
    | .close rest => pure (.obj acc, rest)
    | .element start =>
      let (k, rest) ← stringBody [] start
      let rest ← afterColon rest
      let (v, rest) ← value fuel depth rest
      members fuel depth false (setMember k v acc) rest

end

/-- The JSON value a text holds, blanks around it allowed; or the fault that stops reading,
with its place. -/
def parse (text : String) : Except SyntaxError Json :=
  let cs := text.toList
  match value (2 * cs.length + 2) maxDepth cs with
  | .error s => .error (s.locate text)
  | .ok (v, rest) =>
    match skipBlanks rest with
    | [] => .ok v
    | other => .error (Stop.locate text ⟨.trailingCharacters, other, 1⟩)

end Json

end AddressSpace
