import Mathlib
import AddressSpace.Table

/-!
# The layout of a table

A column is as wide as the most bytes of its cells, and a cell is padded to that width in
characters. Since a character takes at least one byte, no cell is wider than its column, so
every padded cell of a column is exactly as wide as the column and the columns line up: in
each line the cell of column `k` starts `offset ws k` characters in, the widths of the columns
before it plus two spaces after each. The trim at the end of a line removes a suffix only, so
whatever of a cell it leaves is still in place.

* `widths_length`, `widths_getElem?` — one width per header, the largest byte size of the
  column's cells (`columnBytes`);
* `length_le_utf8ByteSize`, `length_le_widths` — characters are at most bytes, so every cell
  fits (`Fits`);
* `row_getElem?` — in a line whose cells fit, each character that the trim leaves stands at its
  column's offset plus its place in the padded cell;
* `lines_render` — cut at its line feeds, a table is its header line, its rule and its rows;
* **`render_layout`** — these together.
-/

namespace AddressSpace.Table

/-! ### Joined lists -/

theorem prefix_getElem?_eq {α} {l₁ l₂ : List α} (h : l₁ <+: l₂) {i : Nat}
    (hi : i < l₁.length) : l₁[i]? = l₂[i]? := by
  rw [List.getElem?_eq_getElem hi, List.prefix_iff_getElem?.1 h i hi]

/-- A piece of a joined list starts after the pieces before it, each with its separator. -/
theorem prefix_drop_intercalate {α} (sep : List α) (L : List (List α)) {k : Nat} {l : List α}
    (h : L[k]? = some l) :
    l <+: (sep.intercalate L).drop (((L.take k).map fun x => x.length + sep.length).sum) := by
  induction L generalizing k with
  | nil => simp at h
  | cons x L ih =>
    cases k with
    | zero =>
      cases h
      cases L with
      | nil => simp
      | cons y L => simp [List.intercalate_cons_cons, List.append_assoc]
    | succ k =>
      cases L with
      | nil => simp at h
      | cons y L =>
        -- past the first piece and its separator, the rest is the join of the other pieces
        rw [List.getElem?_cons_succ] at h
        rw [List.intercalate_cons_cons, List.take_succ_cons, List.map_cons, List.sum_cons,
          List.append_assoc, Nat.add_assoc, List.drop_length_add_append,
          List.drop_length_add_append]
        exact ih h

/-- Every element of a joined list comes from the separator or from one of the pieces. -/
theorem mem_intercalate {α} {sep : List α} {L : List (List α)} {x : α}
    (h : x ∈ sep.intercalate L) : x ∈ sep ∨ ∃ l ∈ L, x ∈ l := by
  induction L with
  | nil => simp at h
  | cons l L ih =>
    cases L with
    | nil => exact .inr ⟨l, List.mem_cons_self, by simpa using h⟩
    | cons l' L =>
      rw [List.intercalate_cons_cons] at h
      simp only [List.mem_append] at h
      rcases h with (h | h) | h
      · exact .inr ⟨l, List.mem_cons_self, h⟩
      · exact .inl h
      · rcases ih h with h | ⟨m, hm, hx⟩
        · exact .inl h
        · exact .inr ⟨m, List.mem_cons_of_mem _ hm, hx⟩

/-! ### Characters and bytes -/

/-- Trimming the end keeps a prefix. -/
theorem prefix_dropTrailingBlanks (cs : List Char) : Text.dropTrailingBlanks cs <+: cs := by
  rw [Text.dropTrailingBlanks, ← List.reverse_suffix, List.reverse_reverse]
  exact List.dropWhile_suffix _

theorem length_le_utf8ByteSize_ofList (cs : List Char) :
    cs.length ≤ (String.ofList cs).utf8ByteSize := by
  induction cs with
  | nil => simp
  | cons c cs ih =>
    have := c.utf8Size_pos
    rw [String.ofList_cons, String.utf8ByteSize_append, String.utf8ByteSize_singleton,
      List.length_cons]
    omega

/-- A text has no more characters than bytes: every character takes at least one byte. -/
theorem length_le_utf8ByteSize (s : String) : s.length ≤ s.utf8ByteSize := by
  have h := length_le_utf8ByteSize_ofList s.toList
  rwa [String.ofList_toList, String.length_toList] at h

/-! ### Column widths -/

/-- The byte sizes of the cells of column `k`: the header's, then each row's that reaches it. -/
def columnBytes (headers : List String) (rows : List (List String)) (k : Nat) : List Nat :=
  (headers :: rows).filterMap fun r => r[k]?.map String.utf8ByteSize

theorem widen_length (ws : List Nat) (cs : List String) : (widen ws cs).length = ws.length := by
  fun_induction widen ws cs <;> simp_all

/-- Widening takes a column to the bytes of the row's cell there, when the row has one. -/
theorem widen_getElem? (ws : List Nat) (cs : List String) (k : Nat) :
    (widen ws cs)[k]? = ws[k]?.map fun w => (cs[k]?.map String.utf8ByteSize).elim w (max w) := by
  fun_induction widen ws cs generalizing k with
  | case1 w ws c cs ih => cases k <;> simp [ih]
  | case2 ws => cases ws[k]? <;> simp
  | case3 c cs => simp

theorem foldl_widen_length (ws : List Nat) (rows : List (List String)) :
    (rows.foldl widen ws).length = ws.length := by
  induction rows generalizing ws with
  | nil => rfl
  | cons r rows ih => rw [List.foldl_cons, ih, widen_length]

theorem foldl_widen_getElem? (ws : List Nat) (rows : List (List String)) (k : Nat) :
    (rows.foldl widen ws)[k]? =
      ws[k]?.map fun w => (rows.filterMap fun r => r[k]?.map String.utf8ByteSize).foldl max w := by
  induction rows generalizing ws with
  | nil => simp
  | cons r rows ih =>
    rw [List.foldl_cons, ih, widen_getElem?, Option.map_map]
    -- a row too short for column `k` leaves its width as it is
    cases hr : r[k]? <;> simp [hr, Function.comp_def]

/-- There is a width for each header. -/
theorem widths_length (headers : List String) (rows : List (List String)) :
    (widths headers rows).length = headers.length := by
  rw [widths, foldl_widen_length, List.length_map]

/-- A column is as wide as the most bytes of its cells. -/
theorem widths_getElem? (headers : List String) (rows : List (List String)) {k : Nat}
    (hk : k < headers.length) :
    (widths headers rows)[k]? = (columnBytes headers rows k).max? := by
  rw [widths, foldl_widen_getElem?, columnBytes, List.filterMap_cons, List.getElem?_map,
    List.getElem?_eq_getElem hk, Option.map_some, Option.map_some]
  exact List.max?_cons'.symm

/-- `é` takes two bytes. -/
example : widths ["A", "B"] [["é", "x"]] = [2, 1] := rfl

theorem utf8ByteSize_le_widths {headers : List String} {rows : List (List String)}
    {r : List String} (hr : r ∈ headers :: rows) {k : Nat} {c : String} {w : Nat}
    (hc : r[k]? = some c) (hw : (widths headers rows)[k]? = some w) : c.utf8ByteSize ≤ w := by
  have hk : k < headers.length := by
    rw [← widths_length headers rows]
    exact (List.getElem?_eq_some_iff.1 hw).1
  rw [widths_getElem? headers rows hk, List.max?_eq_some_iff] at hw
  exact hw.2 _ (List.mem_filterMap.2 ⟨r, hr, by simp [hc]⟩)

/-- No cell has more characters than its column is wide. -/
theorem length_le_widths {headers : List String} {rows : List (List String)}
    {r : List String} (hr : r ∈ headers :: rows) {k : Nat} {c : String} {w : Nat}
    (hc : r[k]? = some c) (hw : (widths headers rows)[k]? = some w) : c.length ≤ w :=
  Nat.le_trans (length_le_utf8ByteSize c) (utf8ByteSize_le_widths hr hc hw)

/-! ### Padded cells -/

@[simp] theorem toList_padTo (w : Nat) (s : String) :
    (padTo w s).toList = s.toList ++ List.replicate (w - s.length) ' ' := by
  simp [padTo]

theorem length_padTo (w : Nat) (s : String) : (padTo w s).length = max s.length w := by
  rw [← String.length_toList, toList_padTo, List.length_append, List.length_replicate,
    String.length_toList]
  omega

theorem length_padTo_of_le {w : Nat} {s : String} (h : s.length ≤ w) :
    (padTo w s).length = w := by
  rw [length_padTo, Nat.max_eq_right h]

/-- Every cell of a line has at most as many characters as its column is wide. -/
def Fits (ws : List Nat) (cells : List String) : Prop :=
  ∀ (k : Nat) (c : String) (w : Nat), cells[k]? = some c → ws[k]? = some w → c.length ≤ w

/-- Every line of a table fits its widths. -/
theorem fits_widths {headers : List String} {rows : List (List String)} {r : List String}
    (hr : r ∈ headers :: rows) : Fits (widths headers rows) r :=
  fun _ _ _ hc hw => length_le_widths hr hc hw

/-- A cell that fits is padded to exactly its column's width. -/
theorem Fits.length_toList_padTo {ws : List Nat} {cells : List String} (hfit : Fits ws cells)
    {k : Nat} {c : String} {w : Nat} (hc : cells[k]? = some c) (hw : ws[k]? = some w) :
    (padTo w c).toList.length = w := by
  rw [String.length_toList]
  exact length_padTo_of_le (hfit k c w hc hw)

/-- The padded cells of a line, before they are joined. -/
def padded (ws : List Nat) (cells : List String) : List (List Char) :=
  List.zipWith (fun c w => (padTo w c).toList) cells ws

theorem padded_getElem? {ws : List Nat} {cells : List String} {k : Nat} {c : String} {w : Nat}
    (hc : cells[k]? = some c) (hw : ws[k]? = some w) :
    (padded ws cells)[k]? = some (padTo w c).toList := by
  simp [padded, List.getElem?_zipWith, hc, hw]

theorem mem_padded {ws : List Nat} {cells : List String} {l : List Char}
    (h : l ∈ padded ws cells) : ∃ c ∈ cells, ∃ w, l = (padTo w c).toList := by
  induction cells generalizing ws with
  | nil => simp [padded] at h
  | cons c cells ih =>
    cases ws with
    | nil => simp [padded] at h
    | cons w ws =>
      rw [padded, List.zipWith_cons_cons, List.mem_cons] at h
      rcases h with rfl | h
      · exact ⟨c, List.mem_cons_self, w, rfl⟩
      · obtain ⟨c', hc', w', rfl⟩ := ih h
        exact ⟨c', List.mem_cons_of_mem _ hc', w', rfl⟩

/-- When every cell fits its column, the padded cells are exactly as long as the columns. -/
theorem map_length_padded {ws : List Nat} {cells : List String} (hfit : Fits ws cells) :
    (padded ws cells).map List.length = ws.take cells.length := by
  apply List.ext_getElem?
  intro k
  rw [List.getElem?_map, List.getElem?_take]
  cases hc : cells[k]? with
  | none =>
    have hk : ¬ k < cells.length := by simpa using hc
    rw [if_neg hk, padded, List.getElem?_zipWith, hc]
    rfl
  | some c =>
    have hk : k < cells.length := (List.getElem?_eq_some_iff.1 hc).1
    cases hw : ws[k]? with
    | none => simp [padded, List.getElem?_zipWith, hc, hw]
    | some w =>
      rw [padded_getElem? hc hw, Option.map_some, Fits.length_toList_padTo hfit hc hw, if_pos hk]

/-! ### Lines -/

theorem toList_row (ws : List Nat) (cells : List String) :
    (row ws cells).toList =
      Text.dropTrailingBlanks ([' ', ' '].intercalate (padded ws cells)) := by
  rw [row, Text.trimEnd, String.toList_ofList, String.toList_intercalate, List.map_zipWith]
  rfl

theorem toList_rule (ws : List Nat) :
    (rule ws).toList = [' ', ' '].intercalate (ws.map fun w => List.replicate w '-') := by
  simp [rule, String.toList_intercalate, Function.comp_def]

/-- Where column `k` starts in a line: the widths of the columns before it, each with the two
spaces after it. -/
def offset (ws : List Nat) (k : Nat) : Nat :=
  ((ws.take k).map (· + 2)).sum

/-- Before column `k` the padded cells of a fitting line and their gaps take `offset ws k`
characters. -/
theorem sum_take_padded {ws : List Nat} {cells : List String} (hfit : Fits ws cells) {k : Nat}
    (hk : k ≤ cells.length) :
    (((padded ws cells).take k).map fun x => x.length + [' ', ' '].length).sum = offset ws k := by
  have hmap : ((padded ws cells).take k).map List.length = ws.take k := by
    rw [List.map_take, map_length_padded hfit, List.take_take, Nat.min_eq_left hk]
  have hcomp : ((padded ws cells).take k).map (fun x => x.length + [' ', ' '].length) =
      (((padded ws cells).take k).map List.length).map (· + 2) := by
    rw [List.map_map]
    rfl
  rw [offset, hcomp, hmap]

/-- In a line whose cells fit their columns, each character of column `k` that the trim
leaves stands at `offset ws k` plus its place in the padded cell. -/
theorem row_getElem? {ws : List Nat} {cells : List String} (hfit : Fits ws cells) {k : Nat}
    {c : String} {w : Nat} (hc : cells[k]? = some c) (hw : ws[k]? = some w) {p : Nat}
    (hp : p < w) (hline : offset ws k + p < (row ws cells).length) :
    (row ws cells).toList[offset ws k + p]? = (padTo w c).toList[p]? := by
  have hk : k < cells.length := (List.getElem?_eq_some_iff.1 hc).1
  have hcell := prefix_drop_intercalate [' ', ' '] (padded ws cells) (padded_getElem? hc hw)
  rw [sum_take_padded hfit (Nat.le_of_lt hk)] at hcell
  -- the trim keeps a prefix, so what it leaves is where it stood in the joined line
  have htrim := prefix_dropTrailingBlanks ([' ', ' '].intercalate (padded ws cells))
  rw [← toList_row] at htrim
  calc (row ws cells).toList[offset ws k + p]?
      = ([' ', ' '].intercalate (padded ws cells))[offset ws k + p]? :=
        prefix_getElem?_eq htrim (by rwa [String.length_toList])
    _ = (([' ', ' '].intercalate (padded ws cells)).drop (offset ws k))[p]? :=
        List.getElem?_drop.symm
    _ = (padTo w c).toList[p]? :=
        (prefix_getElem?_eq hcell (by rwa [Fits.length_toList_padTo hfit hc hw])).symm

/-- A line holds only spaces and the characters of its cells. -/
theorem mem_row {ws : List Nat} {cells : List String} {x : Char}
    (h : x ∈ (row ws cells).toList) : x = ' ' ∨ ∃ c ∈ cells, x ∈ c.toList := by
  rw [toList_row] at h
  rcases mem_intercalate ((prefix_dropTrailingBlanks _).subset h) with hsep | ⟨l, hl, hx⟩
  · simp at hsep
    exact .inl hsep
  · obtain ⟨c, hc, w, rfl⟩ := mem_padded hl
    rw [toList_padTo, List.mem_append] at hx
    rcases hx with hx | hx
    · exact .inr ⟨c, hc, hx⟩
    · exact .inl (List.eq_of_mem_replicate hx)

/-- The rule holds only dashes and spaces. -/
theorem mem_rule {ws : List Nat} {x : Char} (h : x ∈ (rule ws).toList) : x = ' ' ∨ x = '-' := by
  rw [toList_rule] at h
  rcases mem_intercalate h with hsep | ⟨l, hl, hx⟩
  · simp at hsep
    exact .inl hsep
  · obtain ⟨w, -, rfl⟩ := List.mem_map.1 hl
    exact .inr (List.eq_of_mem_replicate hx)

/-- The lines of a text: its characters cut at each line feed. -/
def lines (s : String) : List String :=
  (s.toList.splitOn '\n').map String.ofList

/-- A table of cells without line feeds has one line for the header, one for the rule and one
for each row. -/
theorem lines_render {headers : List String} {rows : List (List String)}
    (hcells : ∀ r ∈ headers :: rows, ∀ c ∈ r, '\n' ∉ c.toList) :
    lines (render headers rows) =
      row (widths headers rows) headers :: rule (widths headers rows) ::
        rows.map (row (widths headers rows)) := by
  have hrow : ∀ r ∈ headers :: rows, '\n' ∉ (row (widths headers rows) r).toList := by
    intro r hr hx
    rcases mem_row hx with h | ⟨c, hc, hx⟩
    · exact absurd h (by decide)
    · exact hcells r hr c hc hx
  have hrule : '\n' ∉ (rule (widths headers rows)).toList := by
    intro hx
    rcases mem_rule hx with h | h <;> exact absurd h (by decide)
  -- splitting at line feeds undoes the join, as no line holds one
  rw [lines, render, String.toList_intercalate, show "\n".toList = ['\n'] by simp,
    List.splitOn_intercalate]
  · simp [List.map_map, Function.comp_def]
  · simp only [List.map_cons, List.map_map, List.forall_mem_cons, List.forall_mem_map,
      Function.comp_apply]
    exact ⟨hrow headers List.mem_cons_self, hrule,
      fun r hr => hrow r (List.mem_cons_of_mem _ hr)⟩
  · simp

/-! ### The layout -/

/-- The layout of a table whose cells hold no line feed. Each column is as wide as the most
bytes of its cells. Cut at its line feeds, the table is `rows.length + 2` lines: the header
line, the rule, and a line per row. The rule is each column's dashes, joined by two spaces.
Every other line is its cells, each left-aligned and padded with spaces to its column's width,
joined by two spaces, with the trailing blanks dropped. No cell is wider than its column, so
each character of column `k` that the trim leaves stands at the column's `offset` plus its
place in the padded cell. Rows need not have a cell per header: a short row has fewer columns, and the
cells of a long row past the last header are left out. -/
theorem render_layout (headers : List String) (rows : List (List String))
    (hcells : ∀ r ∈ headers :: rows, ∀ c ∈ r, '\n' ∉ c.toList) :
    ((widths headers rows).length = headers.length ∧
      ∀ k < headers.length, (widths headers rows)[k]? = (columnBytes headers rows k).max?) ∧
    lines (render headers rows) =
      row (widths headers rows) headers :: rule (widths headers rows) ::
        rows.map (row (widths headers rows)) ∧
    (lines (render headers rows)).length = rows.length + 2 ∧
    (rule (widths headers rows)).toList =
      [' ', ' '].intercalate ((widths headers rows).map fun w => List.replicate w '-') ∧
    ∀ r ∈ headers :: rows,
      (row (widths headers rows) r).toList =
        Text.dropTrailingBlanks ([' ', ' '].intercalate (padded (widths headers rows) r)) ∧
      ∀ k c w, r[k]? = some c → (widths headers rows)[k]? = some w →
        c.length ≤ w ∧ (padTo w c).toList = c.toList ++ List.replicate (w - c.length) ' ' ∧
        (padTo w c).length = w ∧
        ∀ p < w, offset (widths headers rows) k + p < (row (widths headers rows) r).length →
          (row (widths headers rows) r).toList[offset (widths headers rows) k + p]? =
            (padTo w c).toList[p]? := by
  have hlines := lines_render hcells
  refine ⟨⟨widths_length headers rows, fun k hk => widths_getElem? headers rows hk⟩, hlines,
    by simp [hlines], toList_rule _, fun r hr => ⟨toList_row _ r, ?_⟩⟩
  intro k c w hc hw
  have hfit : c.length ≤ w := length_le_widths hr hc hw
  exact ⟨hfit, toList_padTo w c, length_padTo_of_le hfit,
    fun p hp hline => row_getElem? (fits_widths hr) hc hw hp hline⟩

/-- A header `A B` over the row `é x`: `é` takes two bytes, so the first column is two
characters wide and `é` gets one space of padding; `x` stays under `B`. -/
theorem render_layout_accented :
    (∀ r ∈ [["A", "B"], ["é", "x"]], ∀ c ∈ r, '\n' ∉ c.toList) ∧
    lines (render ["A", "B"] [["é", "x"]]) = ["A   B", "--  -", "é   x"] := by
  have hcells : ∀ r ∈ [["A", "B"], ["é", "x"]], ∀ c ∈ r, '\n' ∉ c.toList := by simp
  refine ⟨hcells, ?_⟩
  rw [(render_layout _ _ hcells).2.1]
  rfl

end AddressSpace.Table
