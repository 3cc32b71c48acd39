/-!
# Blank characters and trimming

Unicode's `White_Space` property, and trimming by it.

* `isBlank` — the 25 code points of `White_Space`;
* `trimEnd`, `trimStart`, `trim` — drop blanks at the end, the start, or both.

Core's `Char.isWhitespace` knows fewer characters (no form feed, no no-break space), so
the table is written out here.
-/

namespace AddressSpace.Text

/-- A character with Unicode's `White_Space` property. -/
def isBlank (c : Char) : Bool :=
  let n := c.toNat
  (0x09 ≤ n && n ≤ 0x0D) || n == 0x20 || n == 0x85 || n == 0xA0 || n == 0x1680 ||
    (0x2000 ≤ n && n ≤ 0x200A) || n == 0x2028 || n == 0x2029 || n == 0x202F ||
    n == 0x205F || n == 0x3000

/-- Drop the blanks at the start of a character list. -/
def dropBlanks (cs : List Char) : List Char :=
  cs.dropWhile isBlank

/-- Drop the blanks at the end of a character list. -/
def dropTrailingBlanks (cs : List Char) : List Char :=
  (dropBlanks cs.reverse).reverse

/-- The text without its trailing blanks. -/
def trimEnd (s : String) : String :=
  String.ofList (dropTrailingBlanks s.toList)

/-- The text without its leading blanks. -/
def trimStart (s : String) : String :=
  String.ofList (dropBlanks s.toList)

/-- The text without blanks at either end. -/
def trim (s : String) : String :=
  String.ofList (dropTrailingBlanks (dropBlanks s.toList))

end AddressSpace.Text
