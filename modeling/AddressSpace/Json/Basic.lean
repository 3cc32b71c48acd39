import AddressSpace.Text.Numeral
import AddressSpace.Number.Shortest

/-!
# JSON values and their pretty text

The library's serialised forms are JSON values. Object members keep the order they are
written in, which is the order of the fields of the type they encode.

* `Json` — null, booleans, integers, double-precision numbers, strings, arrays, objects;
* `Json.quote` — a string literal: `"` and `\` escaped, the control characters
  backspace, tab, line feed, form feed and carriage return by their short escapes, the
  other characters below U+0020 as `\u00xx` with lowercase hex digits, everything else
  (DEL and all of Unicode included) as it is;
* `Json.pretty` — two spaces of indentation per level, `"key": value`, one member or
  item per line, and `[]` / `{}` for empty arrays and objects.
-/

namespace AddressSpace

/-- A JSON value whose objects keep their members in order. -/
inductive Json where
  | null
  | bool (b : Bool)
  | num (n : Int)
  | float (x : Binary64)
  | str (s : String)
  | arr (items : List Json)
  | obj (members : List (String × Json))
deriving Inhabited

namespace Json

/-- The escape of one character inside a string literal. -/
def escapeChar (c : Char) : List Char :=
  if c = '"' then ['\\', '"']
  else if c = '\\' then ['\\', '\\']
  else if c = '\n' then ['\\', 'n']
  else if c = '\r' then ['\\', 'r']
  else if c = '\t' then ['\\', 't']
  else if c = '\x08' then ['\\', 'b']
  else if c = '\x0c' then ['\\', 'f']
  else if c.toNat < 0x20 then ['\\', 'u', '0', '0'] ++ (Numeral.hexLower 2 c.toNat).toList
  else [c]

/-- A string literal: the text between quotes, escaped. -/
def quote (s : String) : String :=
  String.ofList ('"' :: s.toList.flatMap escapeChar ++ ['"'])

/-- Doubles are written positionally from `1e-5` up to below `1e16`, a whole number with
`.0`; others with one digit before the point and an exponent with its sign, `1e+16`,
`5e-324`. -/
def floatLayout : Binary64.Layout := ⟨-5, 16, true, "e", true, 1, "inf"⟩

/-- The text of a double. -/
def floatText (x : Binary64) : String := x.format floatLayout

/-- Two spaces per level of indentation. -/
def indent (depth : Nat) : String :=
  String.ofList (List.replicate (2 * depth) ' ')

/-- The opening brace of an object. -/
def openBrace : String := "\x7b"

/-- The closing brace of an object. -/
def closeBrace : String := "\x7d"

mutual

/-- The pretty text of a value whose first line stands at `depth`. -/
def render (depth : Nat) : Json → String
  | .null => "null"
  | .bool b => if b then "true" else "false"
  | .num n => Numeral.signedDecimal n
  | .float x => floatText x
  | .str s => quote s
  | .arr [] => "[]"
  | .arr (x :: xs) => "[\n" ++ renderItems (depth + 1) (x :: xs) ++ "\n" ++ indent depth ++ "]"
  | .obj [] => openBrace ++ closeBrace
  | .obj (m :: ms) =>
    openBrace ++ "\n" ++ renderMembers (depth + 1) (m :: ms) ++ "\n" ++ indent depth ++ closeBrace

/-- The items of an array, one per line at `depth`, separated by commas. -/
def renderItems (depth : Nat) : List Json → String
  | [] => ""
  | [x] => indent depth ++ render depth x
  | x :: y :: rest => indent depth ++ render depth x ++ ",\n" ++ renderItems depth (y :: rest)

/-- The members of an object, one per line at `depth`, separated by commas. -/
def renderMembers (depth : Nat) : List (String × Json) → String
  | [] => ""
  | [(k, v)] => indent depth ++ quote k ++ ": " ++ render depth v
  | (k, v) :: m :: rest =>
    indent depth ++ quote k ++ ": " ++ render depth v ++ ",\n" ++ renderMembers depth (m :: rest)

end

/-- The pretty text of a value. -/
def pretty (j : Json) : String := render 0 j

end Json

end AddressSpace
