import AddressSpace.Text.Numeral
import AddressSpace.Number.Binary64

/-!
# TOML documents

Reading a TOML 1.0 document into its tables, and writing a string the way TOML writers
choose to: the config file is TOML.

* `Toml.Value` — strings, integers, floats, booleans, date-times, arrays, arrays of
  tables, and tables with the `Form` they were made in;
* `Toml.parse?` — the document's top-level table, or `none` when the text is not TOML:
  bad syntax, a date that is not in the calendar, a float that rounds to positive infinity, a key
  or a table defined twice, a key that runs into a value, keys of 80 parts or more, or
  arrays and inline tables nested 80 deep;
* `Toml.quoteString` — a string as a TOML writer puts it: the first of a basic string
  without escapes, a literal string, their multi-line forms, that can hold the text, else a
  basic string with escapes, multi-line when the text holds a line feed.

A table is open to the lines after it as its form allows. A header opens a table once,
unless the table was only made on the way to a deeper header; a dotted key adds only to
tables that dotted keys made; an inline table is closed. While a header's table is being
filled, the keys go to it alone, and it joins the document at the next header or at the end.

The readers take a fuel argument, four times the length of the text: every call either
consumes a character or is one of at most three calls that lead to one that does.
-/

namespace AddressSpace.Toml

-- `^` on naturals and integers is `Nat.pow` and `Int.pow` in this file, ahead of any other
-- power in scope.
attribute [local instance (high)] instPowNat

/-- A table's members in the order they were defined. -/
abbrev Members (α : Type) := List (String × α)

/-- How a table was made, which decides what may still add to it. -/
inductive Form where
  /-- Opened by its own `[header]`. -/
  | header
  /-- Made on the way to a deeper header; its own header may still open it. -/
  | implicit
  /-- Made by a dotted key; only dotted keys add to it. -/
  | dotted
  /-- Written as a value, `{ … }`. -/
  | inline
  /-- Made by a dotted key inside an inline table. -/
  | inlineDotted
deriving DecidableEq, Inhabited

/-- Whether a dotted key made the table. -/
def Form.isDotted : Form → Bool
  | .dotted | .inlineDotted => true
  | _ => false

/-- Whether the table is a value, closed to the lines of the document. -/
def Form.isInline : Form → Bool
  | .inline | .inlineDotted => true
  | _ => false

/-- A TOML value. -/
inductive Value where
  | string (s : String)
  | integer (i : Int)
  | float (text : String)
  | boolean (b : Bool)
  | datetime (text : String)
  /-- An array written as a value. -/
  | array (items : List Value)
  /-- An array of tables, which `[[header]]` lines extend. -/
  | tables (items : List (List (String × Value)))
  /-- A table and how it was made. -/
  | table (members : List (String × Value)) (form : Form)
deriving Inhabited

/-- A reader: a value and the rest of the text, or `none` when the text does not fit. -/
abbrev Reader (α : Type) := List Char → Option (α × List Char)

/-- Keys of this many parts, and arrays or inline tables nested this deep, are refused. -/
def nestingLimit : Nat := 80

/-! ### Characters and lines -/

/-- A blank inside a line: space or tab. -/
def isSpace (c : Char) : Bool := c = ' ' || c = '\t'

/-- Skip spaces and tabs. -/
def skipSpaces (cs : List Char) : List Char := cs.dropWhile isSpace

/-- A character allowed in a bare key. -/
def isBareKeyChar (c : Char) : Bool :=
  ('a' ≤ c && c ≤ 'z') || ('A' ≤ c && c ≤ 'Z') || ('0' ≤ c && c ≤ '9') || c = '_' || c = '-'

/-- A character no comment or string may hold: a control character other than tab. -/
def isForbiddenControl (c : Char) : Bool := (c.toNat < 0x20 && c ≠ '\t') || c.toNat = 0x7F

/-- Skip a comment to the end of its line, if one starts here. -/
def skipComment : List Char → Option (List Char)
  | '#' :: rest =>
    let body := rest.takeWhile fun c => c ≠ '\n' && c ≠ '\r'
    if body.any isForbiddenControl then none else some (rest.drop body.length)
  | cs => some cs

/-- A line ending: a line feed, or a carriage return and a line feed. -/
def newline : List Char → Option (List Char)
  | '\n' :: rest => some rest
  | '\r' :: '\n' :: rest => some rest
  | _ => none

/-- A line ending, or the end of the text. -/
def lineEnd : List Char → Option (List Char)
  | [] => some []
  | cs => newline cs

/-- Spaces, an optional comment, then a line ending. -/
def endOfLine (cs : List Char) : Option (List Char) := do
  lineEnd (← skipComment (skipSpaces cs))

/-- Skip blanks, line endings and comments, as between the items of an array. -/
def skipBlankLines : Nat → List Char → Option (List Char)
  | 0, _ => none
  | fuel + 1, cs =>
    match skipSpaces cs with
    | '#' :: rest => do
      let after ← skipComment ('#' :: rest)
      match after with
      | [] => some []
      | _ => skipBlankLines fuel (← newline after)
    | '\n' :: rest => skipBlankLines fuel rest
    | '\r' :: '\n' :: rest => skipBlankLines fuel rest
    | cs' => some cs'

/-- Skip blanks and line endings, up to anything else: a carriage return alone included. -/
def skipBlanksAndNewlines : List Char → List Char
  | ' ' :: rest | '\t' :: rest | '\n' :: rest => skipBlanksAndNewlines rest
  | '\r' :: '\n' :: rest => skipBlanksAndNewlines rest
  | cs => cs

/-! ### Strings -/

/-- The character of a `\u` or `\U` escape: a Unicode scalar value. -/
def unicodeEscape (digits : List Char) : Option Char := do
  let ds ← digits.mapM Numeral.hexValue?
  let n := Numeral.valueIn 16 ds
  if n < 0xD800 ∨ (0xDFFF < n ∧ n < 0x110000) then some (Char.ofNat n) else none

/-- One escape after a backslash: the character and the rest. -/
def escape : Reader Char
  | 'b' :: rest => some ('\x08', rest)
  | 't' :: rest => some ('\t', rest)
  | 'n' :: rest => some ('\n', rest)
  | 'f' :: rest => some ('\x0c', rest)
  | 'r' :: rest => some ('\r', rest)
  | '"' :: rest => some ('"', rest)
  | '\\' :: rest => some ('\\', rest)
  | 'u' :: rest => do
    if rest.length < 4 then none
    some (← unicodeEscape (rest.take 4), rest.drop 4)
  | 'U' :: rest => do
    if rest.length < 8 then none
    some (← unicodeEscape (rest.take 8), rest.drop 8)
  | _ => none

/-- The rest of a one-line basic string after its opening quote. -/
def basicString : Nat → List Char → List Char → Option (String × List Char)
  | 0, _, _ => none
  | _ + 1, _, [] => none
  | _ + 1, acc, '"' :: rest => some (String.ofList acc.reverse, rest)
  | fuel + 1, acc, '\\' :: rest => do
    let (c, rest') ← escape rest
    basicString fuel (c :: acc) rest'
  | fuel + 1, acc, c :: rest =>
    if isForbiddenControl c then none else basicString fuel (c :: acc) rest

/-- The rest of a one-line literal string after its opening quote. -/
def literalString (cs : List Char) : Option (String × List Char) :=
  let body := cs.takeWhile (· ≠ '\'')
  match cs.drop body.length with
  | '\'' :: rest => if body.any isForbiddenControl then none else some (String.ofList body, rest)
  | _ => none

/-- Drop a line ending right after an opening triple quote. -/
def dropFirstNewline : List Char → List Char
  | '\n' :: rest => rest
  | '\r' :: '\n' :: rest => rest
  | cs => cs

/-- After a line-ending backslash: blanks, a line ending, then any blanks and line endings. -/
def skipContinuation (cs : List Char) : Option (List Char) :=
  (newline (skipSpaces cs)).map skipBlanksAndNewlines

/-- The rest of a multi-line string after its opening delimiter, `q` being its quote:
up to the closing triple quote, which may be preceded by one or two more quotes. A line
ending in the text, either kind, is a line feed. -/
def multiLine (q : Char) (basic : Bool) : Nat → List Char → List Char → Option (String × List Char)
  | 0, _, _ => none
  | _ + 1, _, [] => none
  | fuel + 1, acc, c :: rest =>
    if c = q ∧ rest.take 2 = [q, q] then
      let extra := ((rest.drop 2).takeWhile (· = q)).length
      if extra > 2 then none
      else some (String.ofList (acc.reverse ++ List.replicate extra q), rest.drop (2 + extra))
    else if basic ∧ c = '\\' then
      match rest with
      | d :: _ =>
        if isSpace d ∨ d = '\n' ∨ d = '\r' then do
          multiLine q basic fuel acc (← skipContinuation rest)
        else do
          let (e, rest') ← escape rest
          multiLine q basic fuel (e :: acc) rest'
      | [] => none
    else if c = '\r' then
      match rest with
      | '\n' :: rest' => multiLine q basic fuel ('\n' :: acc) rest'
      | _ => none
    else if c ≠ '\n' ∧ isForbiddenControl c then none
    else multiLine q basic fuel (c :: acc) rest

/-- A string in any of its four forms. -/
def string (fuel : Nat) : Reader String
  | '"' :: '"' :: '"' :: rest => multiLine '"' true fuel [] (dropFirstNewline rest)
  | '"' :: rest => basicString fuel [] rest
  | '\'' :: '\'' :: '\'' :: rest => multiLine '\'' false fuel [] (dropFirstNewline rest)
  | '\'' :: rest => literalString rest
  | _ => none

/-! ### Numbers, booleans and date-times -/

/-- Digits with single underscores between them. -/
def digitsWithUnderscores (isDigit : Char → Bool) (cs : List Char) : Bool :=
  match cs, cs.getLast? with
  | c :: _, some d =>
    isDigit c && isDigit d && cs.all (fun x => isDigit x || x = '_') &&
      !(List.zip cs cs.tail).any fun p => p.1 = '_' && p.2 = '_'
  | _, _ => false

/-- A decimal digit. -/
def isDecDigit (c : Char) : Bool := '0' ≤ c && c ≤ '9'

/-- The value of digits in base `b`, underscores dropped. -/
def digitsValue (b : Nat) (cs : List Char) : Nat :=
  Numeral.valueIn b ((cs.filter (· ≠ '_')).map fun c => (Numeral.hexValue? c).getD 0)

/-- An unsigned decimal integer part: `0`, or digits without a leading zero. -/
def isDecimalPart (cs : List Char) : Bool :=
  cs = ['0'] || (digitsWithUnderscores isDecDigit cs && cs.head? != some '0')

/-- The integer a token writes, if it writes one within 64 bits. -/
def integer? (cs : List Char) : Option Int :=
  let inRange (v : Int) : Option Int := if -2 ^ (63 : Nat) ≤ v ∧ v < 2 ^ (63 : Nat) then some v else none
  match cs with
  | '0' :: 'x' :: ds =>
    if digitsWithUnderscores (fun c => (Numeral.hexValue? c).isSome) ds then
      inRange (digitsValue 16 ds) else none
  | '0' :: 'o' :: ds =>
    if digitsWithUnderscores (fun c => '0' ≤ c && c ≤ '7') ds then inRange (digitsValue 8 ds)
    else none
  | '0' :: 'b' :: ds =>
    if digitsWithUnderscores (fun c => c = '0' || c = '1') ds then inRange (digitsValue 2 ds)
    else none
  | '+' :: ds => if isDecimalPart ds then inRange (digitsValue 10 ds) else none
  | '-' :: ds => if isDecimalPart ds then inRange (-(digitsValue 10 ds : Int)) else none
  | ds => if isDecimalPart ds then inRange (digitsValue 10 ds) else none

/-- An exponent: `e` or `E`, an optional sign, digits. -/
def isExponent : List Char → Bool
  | e :: rest =>
    (e = 'e' || e = 'E') &&
      match rest with
      | '+' :: ds | '-' :: ds => digitsWithUnderscores isDecDigit ds
      | ds => digitsWithUnderscores isDecDigit ds
  | [] => false

/-- Whether a token writes a float. -/
def isFloat (cs : List Char) : Bool :=
  let body := match cs with
    | '+' :: r | '-' :: r => r
    | r => r
  if body = "inf".toList || body = "nan".toList then true
  else
    let intPart := body.takeWhile fun c => c ≠ '.' && c ≠ 'e' && c ≠ 'E'
    let rest := body.drop intPart.length
    isDecimalPart intPart &&
      match rest with
      | '.' :: frac =>
        let digits := frac.takeWhile fun c => c ≠ 'e' && c ≠ 'E'
        let exp := frac.drop digits.length
        digitsWithUnderscores isDecDigit digits && (exp.isEmpty || isExponent exp)
      | exp => isExponent exp

/-- The decimal number a float token writes, underscores dropped: the digits of its
integer part and fraction, and its exponent less the length of the fraction. `inf` and
`nan` have no digits, and so are zero here. -/
def floatDecimal (cs : List Char) : Decimal :=
  let (negative, body) := match cs with
    | '-' :: r => (true, r)
    | '+' :: r => (false, r)
    | r => (false, r)
  let body := body.filter (· ≠ '_')
  let intPart := body.takeWhile isDecDigit
  let (frac, rest) := match body.drop intPart.length with
    | '.' :: r => (r.takeWhile isDecDigit, r.dropWhile isDecDigit)
    | r => ([], r)
  let exp : Int := match rest with
    | _ :: '-' :: ds => -(digitsValue 10 ds : Int)
    | _ :: '+' :: ds => digitsValue 10 ds
    | _ :: ds => digitsValue 10 ds
    | [] => 0
  ⟨negative, digitsValue 10 (intPart ++ frac), exp - frac.length⟩

/-- Exactly `n` decimal digits. -/
def isDigits (n : Nat) (cs : List Char) : Bool := cs.length = n && cs.all isDecDigit

/-- A value of two digits in `[lo, hi]`. -/
def twoDigitsIn (lo hi : Nat) (cs : List Char) : Bool :=
  isDigits 2 cs && lo ≤ digitsValue 10 cs && digitsValue 10 cs ≤ hi

/-- Whether a year of the Gregorian calendar has a 29th of February. -/
def isLeapYear (y : Nat) : Bool := y % 4 = 0 && (y % 100 ≠ 0 || y % 400 = 0)

/-- The number of days of a month of a year. -/
def daysInMonth (y m : Nat) : Nat :=
  if m = 2 then (if isLeapYear y then 29 else 28)
  else if m = 4 || m = 6 || m = 9 || m = 11 then 30
  else 31

/-- A date, `YYYY-MM-DD`, that is in the calendar. -/
def isDate (cs : List Char) : Bool :=
  let month := (cs.drop 5).take 2
  cs.length = 10 && isDigits 4 (cs.take 4) && cs[4]? = some '-' && cs[7]? = some '-' &&
    twoDigitsIn 1 12 month &&
    twoDigitsIn 1 (daysInMonth (digitsValue 10 (cs.take 4)) (digitsValue 10 month))
      ((cs.drop 8).take 2)

/-- A time, `HH:MM:SS` with an optional fraction. -/
def isTime (cs : List Char) : Bool :=
  cs.length ≥ 8 && twoDigitsIn 0 23 (cs.take 2) && cs[2]? = some ':' &&
    twoDigitsIn 0 59 ((cs.drop 3).take 2) && cs[5]? = some ':' &&
    twoDigitsIn 0 60 ((cs.drop 6).take 2) &&
    match cs.drop 8 with
    | [] => true
    | '.' :: frac => !frac.isEmpty && frac.all isDecDigit
    | _ => false

/-- A time with an optional offset: `Z`, or a sign and `HH:MM`. -/
def isTimeWithOffset (cs : List Char) : Bool :=
  isTime cs ||
    (match cs.getLast? with
      | some 'Z' | some 'z' => isTime cs.dropLast
      | _ => false) ||
    (cs.length ≥ 14 &&
      let off := cs.drop (cs.length - 6)
      (off.head? = some '+' || off.head? = some '-') && twoDigitsIn 0 23 ((off.drop 1).take 2) &&
        off[3]? = some ':' && twoDigitsIn 0 59 (off.drop 4) && isTime (cs.take (cs.length - 6)))

/-- Whether a token writes a date, a time, or a date and time. -/
def isDateTime (cs : List Char) : Bool :=
  isDate cs || isTime cs ||
    (cs.length > 11 && isDate (cs.take 10) &&
      (cs[10]? = some 'T' || cs[10]? = some 't' || cs[10]? = some ' ') &&
      isTimeWithOffset (cs.drop 11))

/-- A character that may stand in a number, a boolean or a date-time. -/
def isScalarChar (c : Char) : Bool :=
  isBareKeyChar c || c = '+' || c = '.' || c = ':'

/-- A number, boolean or date-time: the longest run of its characters, with the time of a
date-time after a space. A float that rounds to positive infinity is refused; one that
rounds to negative infinity is not. -/
def scalar : Reader Value := fun cs =>
  let tok := cs.takeWhile isScalarChar
  let rest := cs.drop tok.length
  let (tok, rest) :=
    match rest with
    | ' ' :: more =>
      let time := more.takeWhile isScalarChar
      if isDate tok && isDateTime (tok ++ ' ' :: time) then
        (tok ++ ' ' :: time, more.drop time.length)
      else (tok, rest)
    | _ => (tok, rest)
  if tok.isEmpty then none
  else if tok = "true".toList then some (.boolean true, rest)
  else if tok = "false".toList then some (.boolean false, rest)
  else if isDateTime tok then some (.datetime (String.ofList tok), rest)
  else match integer? tok with
    | some i => some (.integer i, rest)
    | none =>
      if isFloat tok && (floatDecimal tok).toBinary64 != .infinite false then
        some (.float (String.ofList tok), rest)
      else none

/-! ### Keys -/

/-- One part of a key: bare, or a one-line string. -/
def simpleKey (fuel : Nat) : Reader String
  | '"' :: '"' :: '"' :: _ => none
  | '\'' :: '\'' :: '\'' :: _ => none
  | cs@('"' :: _) | cs@('\'' :: _) => string fuel cs
  | cs =>
    let k := cs.takeWhile isBareKeyChar
    if k.isEmpty then none else some (String.ofList k, cs.drop k.length)

/-- The parts of a dotted key. -/
def dottedParts : Nat → Reader (List String)
  | 0, _ => none
  | fuel + 1, cs => do
    let (k, rest) ← simpleKey fuel (skipSpaces cs)
    match skipSpaces rest with
    | '.' :: more =>
      let (ks, rest') ← dottedParts fuel more
      some (k :: ks, rest')
    | _ => some ([k], rest)

/-- A dotted key of fewer parts than the nesting limit. -/
def dottedKey (fuel : Nat) (cs : List Char) : Option (List String × List Char) := do
  let (ks, rest) ← dottedParts fuel cs
  if ks.length < nestingLimit then some (ks, rest) else none

/-! ### Tables -/

/-- Replace the member named `k`. -/
def replaceMember (k : String) (v : Value) (ms : Members Value) : Members Value :=
  ms.map fun m => if m.1 = k then (k, v) else m

/-- Add a member that is not there yet. -/
def addMember (k : String) (v : Value) (ms : Members Value) : Option (Members Value) :=
  if (ms.lookup k).isSome then none else some (ms ++ [(k, v)])

/-- Go down from a table of the document along a path and change the table reached with
`f`, which is told whether a dotted key made that table (`here`, for the table the path
starts from). Where nothing is, a table is made: dotted when the path is a dotted key's,
implicit otherwise. An array of tables leads to its last table. The path stops at a value,
an inline table among them, and a dotted key's path stops at a table opened by a header. -/
def descend (dotted : Bool) (f : Bool → Members Value → Option (Members Value × β)) :
    Bool → List String → Members Value → Option (Members Value × β)
  | here, [], ms => f here ms
  | _, k :: ks, ms =>
    match ms.lookup k with
    | none => do
      let (sub, b) ← descend dotted f dotted ks []
      some (ms ++ [(k, .table sub (if dotted then .dotted else .implicit))], b)
    | some (.table sub form) =>
      if form.isInline ∨ (dotted ∧ form = .header) then none
      else do
        let (sub', b) ← descend dotted f form.isDotted ks sub
        some (replaceMember k (.table sub' form) ms, b)
    | some (.tables items) => do
      let last ← items.getLast?
      let (last', b) ← descend dotted f false ks last
      some (replaceMember k (.tables (items.dropLast ++ [last'])) ms, b)
    | some _ => none

/-- Set `key = v` in a table of the document: its last part in the table its other parts
lead to. A table reached through a dotted key must have been made by dotted keys, and the
table itself takes no dotted key's last part. -/
def setKey (key : List String) (v : Value) (ms : Members Value) : Option (Members Value) :=
  match key.reverse with
  | [] => none
  | last :: revInit =>
    let path := revInit.reverse
    (descend true (fun reachedDotted sub =>
      if reachedDotted == path.isEmpty then none
      else (addMember last v sub).map fun sub' => (sub', ())) false path ms).map (·.1)

/-- Go down inside an inline table along a dotted key's path and change the table reached
with `f`, told whether a dotted key made it. Where nothing is, a dotted inline table is
made; the path stops at any other value. -/
def descendInline (f : Bool → Members Value → Option (Members Value)) :
    Bool → List String → Members Value → Option (Members Value)
  | here, [], ms => f here ms
  | _, k :: ks, ms =>
    match ms.lookup k with
    | none => do some (ms ++ [(k, .table (← descendInline f true ks []) .inlineDotted)])
    | some (.table sub form) =>
      if form.isInline then do
        some (replaceMember k (.table (← descendInline f form.isDotted ks sub) form) ms)
      else none
    | some _ => none

/-- Set `key = v` inside an inline table, with the rule of `setKey`. -/
def setInlineKey (key : List String) (v : Value) (ms : Members Value) : Option (Members Value) :=
  match key.reverse with
  | [] => none
  | last :: revInit =>
    let path := revInit.reverse
    descendInline (fun reachedDotted sub =>
      if reachedDotted == path.isEmpty then none else addMember last v sub) false path ms

/-! ### Values -/

mutual

/-- A value: a string, an array, an inline table, or a scalar; `depth` arrays and inline
tables enclose it. -/
def value : Nat → Nat → Reader Value
  | 0, _, _ => none
  | fuel + 1, _, cs@('"' :: _) | fuel + 1, _, cs@('\'' :: _) => do
    let (s, rest) ← string fuel cs
    some (.string s, rest)
  | fuel + 1, depth, '[' :: rest =>
    if depth + 1 < nestingLimit then arrayItems fuel (depth + 1) [] rest else none
  | fuel + 1, depth, '{' :: rest =>
    if depth + 1 < nestingLimit then inlineTable fuel (depth + 1) [] true rest else none
  | _ + 1, _, cs => scalar cs

/-- The items of an array after `[`, up to and past `]`. -/
def arrayItems : Nat → Nat → List Value → Reader Value
  | 0, _, _, _ => none
  | fuel + 1, depth, acc, cs => do
    let cs ← skipBlankLines fuel cs
    match cs with
    | ']' :: rest => some (.array acc.reverse, rest)
    | _ => do
      let (v, rest) ← value fuel depth cs
      let rest ← skipBlankLines fuel rest
      match rest with
      | ',' :: more => arrayItems fuel depth (v :: acc) more
      | ']' :: more => some (.array (v :: acc).reverse, more)
      | _ => none

/-- The members of an inline table after `{`, up to and past `}`; no line endings and no
trailing comma. -/
def inlineTable : Nat → Nat → Members Value → Bool → Reader Value
  | 0, _, _, _, _ => none
  | fuel + 1, depth, ms, first, cs =>
    match skipSpaces cs with
    | '}' :: rest => if first then some (.table ms .inline, rest) else none
    | cs' => do
      let (key, rest) ← dottedKey fuel cs'
      let rest ← match skipSpaces rest with
        | '=' :: r => some (skipSpaces r)
        | _ => none
      let (v, rest) ← value fuel depth rest
      let ms ← setInlineKey key v ms
      match skipSpaces rest with
      | ',' :: more => inlineTable fuel depth ms false more
      | '}' :: more => some (.table ms .inline, more)
      | _ => none

end

/-! ### Documents -/

/-- A document being read: the tables that have joined it, and the table that key lines
go to, with the header that opened it. -/
structure Doc where
  /-- The top-level table, without the table being filled. -/
  root : Members Value
  /-- The members of the table being filled. -/
  current : Members Value
  /-- Its header's path; empty before the first header, when it is the top-level table. -/
  path : List String
  /-- Whether its header is an array header, `[[path]]`. -/
  inArray : Bool

/-- The document with the table being filled joined to it: at its path, in place of a table
made on the way there, or as the last table of its array. -/
def Doc.close (doc : Doc) : Option (Members Value) :=
  match doc.path.reverse with
  | [] => some doc.current
  | last :: revInit =>
    (descend false (fun _ ms =>
      match ms.lookup last, doc.inArray with
      | none, false => some (ms ++ [(last, .table doc.current .header)], ())
      | some (.table _ .implicit), false | some (.table _ .dotted), false =>
        some (replaceMember last (.table doc.current .header) ms, ())
      | none, true => some (ms ++ [(last, .tables [doc.current])], ())
      | some (.tables items), true =>
        some (replaceMember last (.tables (items ++ [doc.current])) ms, ())
      | _, _ => none) false revInit.reverse doc.root).map (·.1)

/-- Open the table of a `[path]` header in a document whose previous table has joined it:
a new table, or one made only on the way to a deeper header, taken out to be filled. -/
def openTable (root : Members Value) (path : List String) : Option Doc :=
  match path.reverse with
  | [] => none
  | last :: revInit => do
    let (root, current) ← descend false (fun _ ms =>
      match ms.lookup last with
      | none => some (ms, [])
      | some (.table sub .implicit) => some (ms.filter (·.1 != last), sub)
      | some _ => none) false revInit.reverse root
    some ⟨root, current, path, false⟩

/-- Open a new table of a `[[path]]` header, making the array if it is not there. -/
def openArrayTable (root : Members Value) (path : List String) : Option Doc :=
  match path.reverse with
  | [] => none
  | last :: revInit => do
    let (root, _) ← descend false (fun _ ms =>
      match ms.lookup last with
      | none => some (ms ++ [(last, .tables [])], ())
      | some (.tables _) => some (ms, ())
      | some _ => none) false revInit.reverse root
    some ⟨root, [], path, true⟩

/-- The lines of a document, and its top-level table once they are read. -/
def lines : Nat → Doc → List Char → Option (Members Value)
  | 0, _, _ => none
  | fuel + 1, doc, cs =>
    match skipSpaces cs with
    | [] => doc.close
    | '\n' :: rest => lines fuel doc rest
    | '\r' :: '\n' :: rest => lines fuel doc rest
    | '#' :: rest => do lines fuel doc (← lineEnd (← skipComment ('#' :: rest)))
    | '[' :: '[' :: rest => do
      let (path, rest) ← dottedKey fuel rest
      let rest ← match skipSpaces rest with
        | ']' :: ']' :: r => some r
        | _ => none
      let rest ← endOfLine rest
      lines fuel (← openArrayTable (← doc.close) path) rest
    | '[' :: rest => do
      let (path, rest) ← dottedKey fuel rest
      let rest ← match skipSpaces rest with
        | ']' :: r => some r
        | _ => none
      let rest ← endOfLine rest
      lines fuel (← openTable (← doc.close) path) rest
    | cs' => do
      let (key, rest) ← dottedKey fuel cs'
      let rest ← match skipSpaces rest with
        | '=' :: r => some (skipSpaces r)
        | _ => none
      let (v, rest) ← value fuel 0 rest
      let rest ← endOfLine rest
      lines fuel { doc with current := ← setKey key v doc.current } rest

/-- The top-level table of a TOML document, or `none` when the text is not TOML. A byte
order mark may open the text. -/
def parse? (text : String) : Option (Members Value) :=
  let cs := match text.toList with
    | '\uFEFF' :: rest => rest
    | cs => cs
  lines (4 * cs.length + 4) ⟨[], [], [], false⟩ cs

/-! ### Writing strings -/

/-- The longest run of a character in a text. -/
def longestRun (q : Char) (cs : List Char) : Nat :=
  (cs.foldl (fun (acc : Nat × Nat) c =>
    if c = q then (max acc.1 (acc.2 + 1), acc.2 + 1) else (acc.1, 0)) (0, 0)).1

/-- A character that a string can only hold escaped: a control character other than tab
and line feed. -/
def needsEscapeCode (c : Char) : Bool :=
  (c.toNat < 0x20 && c ≠ '\t' && c ≠ '\n') || c.toNat = 0x7F

/-- What a writer looks at in a text to choose the form of its string. -/
structure StringMetrics where
  /-- The longest run of single quotes. -/
  singleQuotes : Nat
  /-- The longest run of double quotes. -/
  doubleQuotes : Nat
  /-- Whether it holds a backslash. -/
  backslash : Bool
  /-- Whether it holds a character that needs an escape code. -/
  escapeCodes : Bool
  /-- Whether it holds a line feed. -/
  newline : Bool

/-- The metrics of a text. -/
def StringMetrics.of (cs : List Char) : StringMetrics :=
  ⟨longestRun '\'' cs, longestRun '"' cs, cs.contains '\\', cs.any needsEscapeCode,
    cs.contains '\n'⟩

/-- The escape of one character inside a basic string; a multi-line one keeps line feeds
and double quotes. -/
def basicEscape (multiLine : Bool) (c : Char) : List Char :=
  if c = '\x08' then ['\\', 'b']
  else if c = '\t' then ['\\', 't']
  else if c = '\n' then (if multiLine then ['\n'] else ['\\', 'n'])
  else if c = '\x0c' then ['\\', 'f']
  else if c = '\r' then ['\\', 'r']
  else if c = '"' then (if multiLine then ['"'] else ['\\', '"'])
  else if c = '\\' then ['\\', '\\']
  else if c.toNat < 0x20 || c.toNat = 0x7F then ['\\', 'u'] ++ (Numeral.hexUpper 4 c.toNat).toList
  else [c]

/-- The body of a multi-line basic string: every third double quote in a row escaped, so
that none closes the string; `run` counts the quotes just written. -/
def multiLineBody : Nat → List Char → List Char
  | _, [] => []
  | run, c :: rest =>
    if c = '"' then
      if run + 1 = 3 then '\\' :: '"' :: multiLineBody 0 rest
      else '"' :: multiLineBody (run + 1) rest
    else basicEscape true c ++ multiLineBody 0 rest

/-- A basic string on one line. -/
def basicForm (cs : List Char) : String :=
  String.ofList ('"' :: cs.flatMap (basicEscape false) ++ ['"'])

/-- A multi-line basic string; a line feed after the opening quotes when the text has lines. -/
def multiLineBasicForm (cs : List Char) : String :=
  "\"\"\"" ++ (if cs.contains '\n' then "\n" else "") ++ String.ofList (multiLineBody 0 cs) ++
    "\"\"\""

/-- A string as a TOML writer puts it: the first form that holds the text as it is, in
the order basic without escapes, literal, multi-line basic without escapes, multi-line
literal; else basic with escapes, multi-line when the text has lines. -/
def quoteString (s : String) : String :=
  let cs := s.toList
  let m := StringMetrics.of cs
  if !m.escapeCodes && !m.backslash && m.doubleQuotes = 0 && !m.newline then basicForm cs
  else if !m.escapeCodes && m.singleQuotes = 0 && !m.newline then "'" ++ s ++ "'"
  else if !m.escapeCodes && !m.backslash && m.doubleQuotes ≤ 2 then multiLineBasicForm cs
  else if !m.escapeCodes && m.singleQuotes ≤ 2 then
    "'''" ++ (if m.newline then "\n" else "") ++ s ++ "'''"
  else if m.newline then multiLineBasicForm cs
  else basicForm cs

end AddressSpace.Toml
