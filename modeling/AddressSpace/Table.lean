import AddressSpace.Text.Blank

/-!
# Text tables

A table is a header line, a rule, and one line per row, joined by line feeds with no
final one. A column is as wide as the most UTF-8 bytes of its header and cells; each cell
is padded with spaces to that width counted in characters, so a cell with characters
beyond ASCII gets more room than it needs, never less. Cells are joined by two spaces and
every line but the rule loses its trailing blanks. The rule is dashes as wide as each
column, joined by two spaces.

* `Table.widths`, `Table.row`, `Table.rule`, `Table.render`.
-/

namespace AddressSpace.Table

/-- Widen each column to hold the bytes of the matching cell; columns past the last cell
stay as they are. -/
def widen : List Nat → List String → List Nat
  | w :: ws, c :: cs => max w c.utf8ByteSize :: widen ws cs
  | ws, [] => ws
  | [], _ :: _ => []

/-- The width of each column: the most bytes of its header and cells. -/
def widths (headers : List String) (rows : List (List String)) : List Nat :=
  rows.foldl widen (headers.map String.utf8ByteSize)

/-- A text padded with spaces to `w` characters. -/
def padTo (w : Nat) (s : String) : String :=
  s ++ String.ofList (List.replicate (w - s.length) ' ')

/-- A line of cells: each padded to its column, joined by two spaces, trailing blanks
dropped. -/
def row (ws : List Nat) (cells : List String) : String :=
  Text.trimEnd ("  ".intercalate (List.zipWith (fun c w => padTo w c) cells ws))

/-- The rule under the header: dashes as wide as each column. -/
def rule (ws : List Nat) : String :=
  "  ".intercalate (ws.map fun w => String.ofList (List.replicate w '-'))

/-- The table of `rows` under `headers`. -/
def render (headers : List String) (rows : List (List String)) : String :=
  let ws := widths headers rows
  "\n".intercalate (row ws headers :: rule ws :: rows.map (row ws))

end AddressSpace.Table
