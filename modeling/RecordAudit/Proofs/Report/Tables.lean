import Mathlib.Algebra.Order.BigOperators.Group.List
import Mathlib.Algebra.Order.Ring.Nat
import RecordAudit.Proofs.Text.Lines
import RecordAudit.Report.Format.Markdown

/-!
# Tables in Markdown

A reader takes a table line by line and divides each line at its bars, except
where a backslash escapes a bar.  Readers differ in whether a backslash can be
escaped itself, and `Table.Reading` has both kinds.

* `pieces` are what stands between the bars that are bare, which is to say not
  escaped, and there is one piece more than `bare` bars (`length_pieces`).
* `cells_tableRow_iff` is one row: it has the cells that were written iff they
  hold no bare bar.  The blanks around a cell matter for a backslash at its end
  (`escapedAfter_padded`).
* `read_rows_iff` is a whole table, of which each text has to fit (`Fits`).
* `fits_escapedBars_iff` says when a text fits whose bars were escaped, and
  `unescapedBars_escapedBars` that nothing of it is lost.
-/

namespace RecordAudit

/-! ## Reading a table -/

namespace Table

/-- What a backslash before a bar may be part of. -/
inductive Reading where
  /-- It escapes the bar, whatever comes before it. -/
  | bars
  /-- A backslash escapes any character, and so a second backslash, which then escapes nothing. -/
  | pairs
deriving DecidableEq

/-- Whether a character escapes the next one, by whether it is escaped itself. -/
def escapes (reading : Reading) (escaped : Bool) (c : Char) : Bool :=
  c == '\\' && (reading == .bars || !escaped)

/-- Whether the character after a text is escaped. -/
def escapedAfter (reading : Reading) (escaped : Bool) (text : List Char) : Bool :=
  text.foldl (escapes reading) escaped

/-- Puts a character in front of the first piece. -/
def toFirst (c : Char) : List (List Char) → List (List Char)
  | [] => [[c]]
  | piece :: rest => (c :: piece) :: rest

/-- The pieces of a line between the bars that are not escaped. -/
def pieces (reading : Reading) : Bool → List Char → List (List Char)
  | _, [] => [[]]
  | escaped, c :: rest =>
    if c = '|' ∧ escaped = false then [] :: pieces reading false rest
    else toFirst c (pieces reading (escapes reading escaped c) rest)

/-- How many bars of a text are not escaped. -/
def bare (reading : Reading) : Bool → List Char → Nat
  | _, [] => 0
  | escaped, c :: rest =>
    if c = '|' ∧ escaped = false then bare reading false rest + 1
    else bare reading (escapes reading escaped c) rest

/-- The cells of a line: what stands between its first bar and its last one. -/
def cells (reading : Reading) (line : List Char) : List (List Char) :=
  (pieces reading false line).tail.dropLast

/-- The cells of the lines of a table. -/
def read (reading : Reading) (text : String) : List (List (List Char)) :=
  (Text.lines text.toList).dropLast.map (cells reading)

/-- A text between blanks, as it stands in a cell. -/
def padded (text : String) : List Char := ' ' :: text.toList ++ [' ']

/-- A text that stays within its line and within its cell. -/
structure Fits (reading : Reading) (text : String) : Prop where
  feed : '\n' ∉ text.toList
  bars : bare reading false text.toList = 0

variable {reading : Reading}

theorem pieces_ne_nil (escaped : Bool) (text : List Char) : pieces reading escaped text ≠ [] := by
  cases text with
  | nil => simp [pieces]
  | cons c rest =>
    rw [pieces]
    split
    · simp
    · cases pieces reading (escapes reading escaped c) rest <;> simp [toFirst]

theorem length_toFirst {c : Char} {ps : List (List Char)} (h : ps ≠ []) :
    (toFirst c ps).length = ps.length := by
  cases ps with
  | nil => exact absurd rfl h
  | cons p ps => rfl

/-- A line has one piece more than bars. -/
theorem length_pieces (escaped : Bool) (text : List Char) :
    (pieces reading escaped text).length = bare reading escaped text + 1 := by
  induction text generalizing escaped with
  | nil => rfl
  | cons c rest ih =>
    rw [pieces, bare]
    split
    · rw [List.length_cons, ih]
    · rw [length_toFirst (pieces_ne_nil _ _), ih]

theorem bare_append (escaped : Bool) (text rest : List Char) :
    bare reading escaped (text ++ rest) =
      bare reading escaped text + bare reading (escapedAfter reading escaped text) rest := by
  induction text generalizing escaped with
  | nil => simp [bare, escapedAfter]
  | cons c text ih =>
    rw [List.cons_append, bare, bare]
    split
    · next hc =>
      have hnext : escapes reading escaped c = false := by simp [escapes, hc.1]
      rw [ih, escapedAfter, escapedAfter, List.foldl_cons, hnext]
      omega
    · rw [ih]
      rfl

theorem bare_of_not_mem {text : List Char} (h : '|' ∉ text) (escaped : Bool) :
    bare reading escaped text = 0 := by
  induction text generalizing escaped with
  | nil => rfl
  | cons c rest ih =>
    have hc : c ≠ '|' := fun hc => h (by simp [hc])
    rw [bare, if_neg (fun hbar => hc hbar.1), ih fun hrest => h (.tail c hrest)]

/-- A text without bare bars goes on in its piece. -/
theorem pieces_append {escaped : Bool} {text : List Char} (h : bare reading escaped text = 0)
    (rest : List Char) :
    ∃ piece more, pieces reading (escapedAfter reading escaped text) rest = piece :: more ∧
      pieces reading escaped (text ++ rest) = (text ++ piece) :: more := by
  induction text generalizing escaped with
  | nil =>
    obtain ⟨piece, more, hpieces⟩ := List.exists_cons_of_ne_nil
      (show pieces reading escaped rest ≠ [] from pieces_ne_nil escaped rest)
    exact ⟨piece, more, hpieces, hpieces⟩
  | cons c text ih =>
    rw [bare] at h
    split at h
    · omega
    · next hc =>
      obtain ⟨piece, more, hpiece, hpieces⟩ := ih h
      refine ⟨piece, more, hpiece, ?_⟩
      rw [List.cons_append, pieces, if_neg hc, hpieces]
      rfl

/-! ## Rows -/

theorem bare_padded (cell : String) :
    bare reading false (padded cell) = bare reading false cell.toList := by
  have hblank : ∀ escaped, bare reading escaped [' '] = 0 := fun escaped => by
    simp [bare]
  rw [padded, List.cons_append, bare, if_neg (by simp), bare_append, hblank]
  rfl

/-- The blank after a cell keeps a backslash at its end from escaping the bar. -/
theorem escapedAfter_padded (cell : String) : escapedAfter reading false (padded cell) = false := by
  rw [escapedAfter, padded, List.foldl_append]
  rfl

theorem toList_tableRow {row : List String} (h : row ≠ []) :
    (Report.tableRow row).toList = '|' :: row.flatMap fun cell => padded cell ++ ['|'] := by
  have hbars : ' ' :: (" | ".toList.intercalate (row.map String.toList) ++ " |".toList) =
      row.flatMap fun cell => padded cell ++ ['|'] := by
    induction row with
    | nil => exact absurd rfl h
    | cons cell rest ih =>
      cases rest with
      | nil => simp [padded]
      | cons next rest =>
        have hrest := ih (by simp)
        rw [List.map_cons, List.map_cons, List.intercalate_cons_cons, List.flatMap_cons, ← hrest]
        simp [padded]
  rw [Report.tableRow, String.toList_append, String.toList_append, String.toList_intercalate,
    List.append_assoc]
  exact congrArg ('|' :: ·) hbars

theorem bare_tableRow {row : List String} (h : row ≠ []) :
    bare reading false (Report.tableRow row).toList =
      1 + row.length + (row.map fun cell => bare reading false cell.toList).sum := by
  rw [toList_tableRow h, bare, if_pos ⟨rfl, rfl⟩]
  have hcells : bare reading false (row.flatMap fun cell => padded cell ++ ['|']) =
      row.length + (row.map fun cell => bare reading false cell.toList).sum := by
    clear h
    induction row with
    | nil => rfl
    | cons cell rest ih =>
      have hbar : bare reading false (['|'] ++ rest.flatMap fun cell => padded cell ++ ['|']) =
          bare reading false (rest.flatMap fun cell => padded cell ++ ['|']) + 1 := rfl
      rw [List.flatMap_cons, List.append_assoc, bare_append, escapedAfter_padded, bare_padded, hbar,
        ih, List.map_cons, List.sum_cons, List.length_cons]
      omega
  rw [hcells]
  omega

/-- A row has the cells that were written, if their bars are escaped. -/
theorem cells_tableRow {row : List String} (hne : row ≠ [])
    (h : ∀ cell ∈ row, bare reading false cell.toList = 0) :
    cells reading (Report.tableRow row).toList = row.map padded := by
  have hpieces : pieces reading false (row.flatMap fun cell => padded cell ++ ['|']) =
      row.map padded ++ [[]] := by
    clear hne
    induction row with
    | nil => rfl
    | cons cell rest ih =>
      have hcell : bare reading false (padded cell) = 0 := by
        rw [bare_padded]
        exact h cell (.head rest)
      obtain ⟨piece, more, hpiece, hpieces⟩ := pieces_append hcell
        (['|'] ++ rest.flatMap fun cell => padded cell ++ ['|'])
      rw [escapedAfter_padded] at hpiece
      have hbar : pieces reading false (['|'] ++ rest.flatMap fun cell => padded cell ++ ['|']) =
          [] :: pieces reading false (rest.flatMap fun cell => padded cell ++ ['|']) := rfl
      rw [hbar, ih fun c hc => h c (.tail cell hc)] at hpiece
      obtain ⟨rfl, rfl⟩ := List.cons.inj hpiece
      rw [List.flatMap_cons, List.append_assoc, hpieces, List.append_nil]
      rfl
  rw [cells, toList_tableRow hne, pieces, if_pos ⟨rfl, rfl⟩, hpieces, List.tail_cons,
    List.dropLast_concat]

theorem cells_tableRow_iff {row : List String} (hne : row ≠ []) :
    cells reading (Report.tableRow row).toList = row.map padded ↔
      ∀ cell ∈ row, bare reading false cell.toList = 0 := by
  refine ⟨fun h cell hcell => ?_, cells_tableRow hne⟩
  -- One bar more makes one cell more.
  have hlength := congrArg List.length h
  rw [cells, List.length_dropLast, List.length_tail, length_pieces, bare_tableRow hne,
    List.length_map] at hlength
  have hsum : (row.map fun cell => bare reading false cell.toList).sum = 0 := by omega
  exact List.sum_eq_zero_iff.mp hsum _ (List.mem_map_of_mem hcell)

theorem count_feed_tableRow {row : List String} (hne : row ≠ []) :
    (Report.tableRow row).toList.count '\n' = (row.map (·.toList.count '\n')).sum := by
  rw [toList_tableRow hne, List.count_cons_of_ne (by decide), List.count_flatMap]
  congr 1
  exact List.map_congr_left fun cell _ => by simp [padded]

/-- Each written line ends in a feed, besides those that it holds itself. -/
theorem count_feed_unlines (ls : List String) :
    (Text.unlines ls).toList.count '\n' = ls.length + (ls.map (·.toList.count '\n')).sum := by
  rw [Text.toList_unlines]
  induction ls with
  | nil => rfl
  | cons line rest ih =>
    rw [List.flatMap_cons, List.count_append, ih, List.count_append, List.count_singleton_self,
      List.map_cons, List.sum_cons, List.length_cons]
    omega

/-- A table is read as it was written iff every text fits into its cell.  Otherwise the table has
more lines, or one of them has more cells. -/
theorem read_rows_iff {rows : List (List String)} (hne : ∀ row ∈ rows, row ≠ []) :
    read reading (Text.unlines (rows.map Report.tableRow)) = rows.map (·.map padded) ↔
      ∀ row ∈ rows, ∀ cell ∈ row, Fits reading cell := by
  have hfeeds : (∀ line ∈ rows.map Report.tableRow, '\n' ∉ line.toList) ↔
      ∀ row ∈ rows, ∀ cell ∈ row, '\n' ∉ cell.toList := by
    rw [List.forall_mem_map]
    refine forall₂_congr fun row hrow => ?_
    rw [← List.count_eq_zero, count_feed_tableRow (hne row hrow), List.sum_eq_zero_iff,
      List.forall_mem_map]
    simp only [List.count_eq_zero]
  have hread : (∀ row ∈ rows, ∀ cell ∈ row, '\n' ∉ cell.toList) →
      (read reading (Text.unlines (rows.map Report.tableRow)) = rows.map (·.map padded) ↔
        ∀ row ∈ rows, ∀ cell ∈ row, bare reading false cell.toList = 0) := by
    intro h
    rw [read, Text.lines_unlines (hfeeds.mpr h), List.dropLast_concat, List.map_map, List.map_map,
      List.map_inj_left]
    exact forall₂_congr fun row hrow => cells_tableRow_iff (hne row hrow)
  constructor
  · intro h
    have hlength := congrArg List.length h
    rw [read, List.length_map, List.length_dropLast, Text.length_lines, count_feed_unlines,
      List.length_map, List.length_map] at hlength
    have hsum : ((rows.map Report.tableRow).map (·.toList.count '\n')).sum = 0 := by omega
    have hnone := hfeeds.mp fun line hline =>
      List.count_eq_zero.mp (List.sum_eq_zero_iff.mp hsum _ (List.mem_map_of_mem hline))
    have hbare := (hread hnone).mp h
    exact fun row hrow cell hcell => ⟨hnone row hrow cell hcell, hbare row hrow cell hcell⟩
  · intro h
    exact (hread fun row hrow cell hcell => (h row hrow cell hcell).feed).mpr
      fun row hrow cell hcell => (h row hrow cell hcell).bars

/-- A table of items that each have their cells. -/
theorem read_rowsOf_iff {β : Type} {cells : β → List String} (hne : ∀ b, cells b ≠ [])
    (bs : List β) :
    read reading (Text.unlines (bs.map fun b => Report.tableRow (cells b))) =
        bs.map (fun b => (cells b).map padded) ↔
      ∀ b ∈ bs, ∀ cell ∈ cells b, Fits reading cell := by
  have hne' : ∀ row ∈ bs.map cells, row ≠ [] := List.forall_mem_map.mpr fun b _ => hne b
  have hrows : read reading _ = _ ↔ _ := read_rows_iff hne'
  rwa [List.map_map, List.map_map, List.forall_mem_map] at hrows

/-! ## Escaped bars -/

/-- A text in which each bar has a backslash before it. -/
def backslashed : List Char → List Char
  | [] => []
  | c :: rest => if c = '|' then '\\' :: '|' :: backslashed rest else c :: backslashed rest

/-- A text in which a bar that has a backslash before it loses it. -/
def unescapedBars : List Char → List Char
  | [] => []
  | '\\' :: '|' :: rest => '|' :: unescapedBars rest
  | c :: rest => c :: unescapedBars rest

theorem toList_escapedBars (text : String) :
    (Report.escapedBars text).toList = backslashed text.toList := by
  rw [Report.escapedBars, String.toList_ofList]
  induction text.toList with
  | nil => rfl
  | cons c rest ih =>
    rw [List.flatMap_cons, ih, backslashed]
    split <;> rfl

theorem bare_of_ne {c : Char} (hc : c ≠ '|') (escaped : Bool) (rest : List Char) :
    bare reading escaped (c :: rest) = bare reading (escapes reading escaped c) rest :=
  if_neg fun h => hc h.1

theorem bare_bar (rest : List Char) :
    bare reading false ('|' :: rest) = bare reading false rest + 1 := rfl

theorem bare_escaped_bar (rest : List Char) :
    bare reading true ('|' :: rest) = bare reading false rest := rfl

/-- Where a backslash escapes a bar whatever comes before it, each bar with one is escaped. -/
theorem bare_bars_backslashed (escaped : Bool) (text : List Char) :
    bare .bars escaped (backslashed text) = 0 := by
  induction text generalizing escaped with
  | nil => rfl
  | cons c rest ih =>
    rw [backslashed]
    split
    · have hnext : escapes .bars escaped '\\' = true := by cases escaped <;> rfl
      rw [bare_of_ne (by decide), hnext, bare_escaped_bar, ih]
    · next hc => rw [bare_of_ne hc, ih]

/-- Where backslashes escape each other, one more makes bare bars escaped and escaped ones bare. -/
theorem bare_pairs_backslashed (escaped : Bool) (text : List Char) :
    bare .pairs escaped (backslashed text) + bare .pairs escaped text = text.count '|' := by
  induction text generalizing escaped with
  | nil => rfl
  | cons c rest ih =>
    rw [backslashed]
    split
    · next hc =>
      have hrest := ih false
      rw [hc, bare_of_ne (by decide), List.count_cons_self]
      cases escaped with
      | false =>
        rw [show escapes .pairs false '\\' = true from rfl, bare_escaped_bar, bare_bar]
        omega
      | true =>
        rw [show escapes .pairs true '\\' = false from rfl, bare_escaped_bar, bare_bar]
        omega
    · next hc => rw [bare_of_ne hc, bare_of_ne hc, ih, List.count_cons_of_ne hc]

/-- An escaped text fits into its cell, unless it has feeds, or a backslash of its own takes the one
that is put before a bar. -/
theorem fits_escapedBars_iff (text : String) :
    Fits reading (Report.escapedBars text) ↔ '\n' ∉ text.toList ∧
      (reading = .pairs → bare .pairs false text.toList = text.toList.count '|') := by
  have hfeed : '\n' ∈ backslashed text.toList ↔ '\n' ∈ text.toList := by
    induction text.toList with
    | nil => rfl
    | cons c rest ih =>
      rw [backslashed]
      split
      · next hc => simp [hc, ih]
      · simp [ih]
  have hbars : bare reading false (backslashed text.toList) = 0 ↔
      (reading = .pairs → bare .pairs false text.toList = text.toList.count '|') := by
    cases reading with
    | bars => simp [bare_bars_backslashed]
    | pairs =>
      have hpairs := bare_pairs_backslashed false text.toList
      simp only [true_imp_iff]
      omega
  constructor
  · rintro ⟨hnot, hzero⟩
    rw [toList_escapedBars] at hnot hzero
    exact ⟨mt hfeed.mpr hnot, hbars.mp hzero⟩
  · rintro ⟨hnot, hcount⟩
    refine ⟨?_, ?_⟩
    · rw [toList_escapedBars]
      exact mt hfeed.mp hnot
    · rw [toList_escapedBars]
      exact hbars.mpr hcount

/-- No text begins with a bar once it is escaped. -/
theorem head?_backslashed (text : List Char) : (backslashed text).head? ≠ some '|' := by
  cases text with
  | nil => simp [backslashed]
  | cons c rest =>
    rw [backslashed]
    split
    · simp
    · next hc => simpa using hc

theorem unescapedBars_of_head? {c : Char} {rest : List Char} (h : rest.head? ≠ some '|') :
    unescapedBars (c :: rest) = c :: unescapedBars rest := by
  rw [unescapedBars]
  rintro rest' - hrest
  rw [hrest] at h
  exact h rfl

/-- Escaping is undone. -/
theorem unescapedBars_escapedBars (text : String) :
    unescapedBars (Report.escapedBars text).toList = text.toList := by
  rw [toList_escapedBars]
  induction text.toList with
  | nil => rfl
  | cons c rest ih =>
    rw [backslashed]
    split
    · next hc => rw [unescapedBars, ih, hc]
    · rw [unescapedBars_of_head? (head?_backslashed rest), ih]

end Table

end RecordAudit
