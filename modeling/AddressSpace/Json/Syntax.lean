/-!
# Syntax errors of JSON text

A reader that meets text it cannot read stops with a `Fault` at a place in the text. The
place is a byte offset; it is reported as a line, counted from one, and a column, the number
of bytes of that line before the offset. Where the reader stopped after looking at the
character ahead without reading it, the offset points one byte into that character.

* `Json.Fault` — what is wrong, with the sentence that names it;
* `Json.Stop` — where reading stopped, as the text not yet read there;
* `Json.SyntaxError` — a fault with its line and column, and its message
  `"<fault> at line <line> column <column>"`.
-/

namespace AddressSpace.Json

/-- What is wrong with a JSON text where reading stops. -/
inductive Fault where
  /-- The text ends inside an array. -/
  | eofInList
  /-- The text ends inside an object. -/
  | eofInObject
  /-- The text ends inside a string. -/
  | eofInString
  /-- The text ends where a value, or the rest of one, is due. -/
  | eofInValue
  /-- A member's name is not followed by a colon. -/
  | expectedColon
  /-- An array item is followed by neither a comma nor the closing bracket. -/
  | expectedListCommaOrEnd
  /-- An object member is followed by neither a comma nor the closing brace. -/
  | expectedObjectCommaOrEnd
  /-- A literal `null`, `true` or `false` is misspelt. -/
  | expectedIdent
  /-- No value starts where one is due. -/
  | expectedValue
  /-- A backslash in a string starts no escape, or `\u` has a character that is no hex
  digit. -/
  | invalidEscape
  /-- A number is malformed. -/
  | invalidNumber
  /-- A number is beyond the finite doubles. -/
  | numberOutOfRange
  /-- A string holds a control character that is not escaped. -/
  | controlCharacter
  /-- An object member does not start with a string. -/
  | keyMustBeString
  /-- A surrogate escape does not stand first in a pair of a high and a low surrogate. -/
  | loneLeadingSurrogate
  /-- A high surrogate escape is not followed by a second `\u` escape. -/
  | unexpectedEndOfHexEscape
  /-- A comma stands right before a closing bracket or brace. -/
  | trailingComma
  /-- Something other than blanks follows the value. -/
  | trailingCharacters
  /-- Arrays and objects nest deeper than the reader allows. -/
  | recursionLimit
deriving DecidableEq, Repr

/-- The sentence that names a fault. -/
def Fault.message : Fault → String
  | .eofInList => "EOF while parsing a list"
  | .eofInObject => "EOF while parsing an object"
  | .eofInString => "EOF while parsing a string"
  | .eofInValue => "EOF while parsing a value"
  | .expectedColon => "expected `:`"
  | .expectedListCommaOrEnd => "expected `,` or `]`"
  | .expectedObjectCommaOrEnd => "expected `,` or `\x7d`"
  | .expectedIdent => "expected ident"
  | .expectedValue => "expected value"
  | .invalidEscape => "invalid escape"
  | .invalidNumber => "invalid number"
  | .numberOutOfRange => "number out of range"
  | .controlCharacter => "control character (\\u0000-\\u001F) found while parsing a string"
  | .keyMustBeString => "key must be a string"
  | .loneLeadingSurrogate => "lone leading surrogate in hex escape"
  | .unexpectedEndOfHexEscape => "unexpected end of hex escape"
  | .trailingComma => "trailing comma"
  | .trailingCharacters => "trailing characters"
  | .recursionLimit => "recursion limit exceeded"

/-- Where reading stopped: the fault, the text not yet read there, and how many bytes past
the start of that text the failure points. -/
structure Stop where
  /-- What is wrong. -/
  fault : Fault
  /-- The text not yet read. -/
  unread : List Char
  /-- The bytes past the start of `unread` that the reader had looked at. -/
  past : Nat
deriving Repr

/-- Stop at the start of the text not yet read. -/
def stopAt {α : Type} (f : Fault) (unread : List Char) : Except Stop α := .error ⟨f, unread, 0⟩

/-- Stop at the character ahead, which the reader looked at without reading it. -/
def stopAhead {α : Type} (f : Fault) (unread : List Char) : Except Stop α :=
  .error ⟨f, unread, 1⟩

/-- A fault with its place. -/
structure SyntaxError where
  /-- What is wrong. -/
  fault : Fault
  /-- The line, counted from one. -/
  line : Nat
  /-- The number of bytes of the line before the place. -/
  column : Nat
deriving DecidableEq, Repr

/-- The text of a syntax error. -/
def SyntaxError.message (e : SyntaxError) : String :=
  e.fault.message ++ " at line " ++ toString e.line ++ " column " ++ toString e.column

/-- The number of bytes that characters take in UTF-8. -/
def byteCount (cs : List Char) : Nat := (String.ofList cs).utf8ByteSize

/-- The line and column of the byte offset `i`: one more than the line feeds before it, and
the bytes between the last of them and the offset. -/
def lineColumn (bytes : List UInt8) (i : Nat) : Nat × Nat :=
  let before := bytes.take i
  (1 + before.count 10, (before.reverse.takeWhile (· != 10)).length)

/-- The line and column of a stop in the text that was read; the offset is at most the end of
the text. -/
def Stop.locate (text : String) (s : Stop) : SyntaxError :=
  let bytes := text.toUTF8.toList
  let offset := min bytes.length (bytes.length - byteCount s.unread + s.past)
  let (line, column) := lineColumn bytes offset
  ⟨s.fault, line, column⟩

end AddressSpace.Json
