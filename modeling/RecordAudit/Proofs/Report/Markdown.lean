import RecordAudit.Proofs.Report.Tables
import RecordAudit.Proofs.Report.Violations

/-!
# The tables of a report in Markdown

The rows of the statistics and of the violations stand in the text one after the
other, below the head of their table (`statsTable_placed`, `violationsTable_placed`).

* The numbers in a row, and the names of kinds, always stay within their cells.
* `read_violationRows_iff` and `read_statsRows_iff` say which reports have tables
  that are read as they were written: it depends on the names of fields and
  columns, which are not escaped, and on messages, of which only bars are.
* `exists_tables_torn` is a report whose tables are not read so.
-/

namespace RecordAudit.Report

open Table

/-! ## Numbers in cells -/

theorem isDigit_of_mem_toString {n : Nat} {c : Char} (h : c ∈ (toString n).toList) :
    c.isDigit = true := by
  have hrepr : (toString n).toList = Nat.toDigits 10 n := Nat.toList_repr
  rw [hrepr] at h
  exact Nat.isDigit_of_mem_toDigits (by decide) (by decide) h

theorem isDigit_of_mem_padded {width n : Nat} {c : Char} (h : c ∈ (Number.padded width n).toList) :
    c.isDigit = true := by
  rw [Number.padded, String.toList_ofList, List.mem_append] at h
  rcases h with h | h
  · rw [List.eq_of_mem_replicate h]
    rfl
  · exact Nat.isDigit_of_mem_toDigits (by decide) (by decide) h

/-- The characters of a number that is written with a fixed number of places. -/
theorem of_mem_fixed {places : Nat} {x : Float} {c : Char}
    (h : c ∈ (Number.fixed places x).toList) :
    c.isDigit = true ∨ c ∈ ['-', '.', 'N', 'a', 'i', 'n', 'f'] := by
  have hsign : c ∈ (Number.signText x).toList → c = '-' := by
    rw [Number.signText]
    split <;> simp
  rw [Number.fixed] at h
  split at h
  · simp only [String.toList_append, String.toList_ofList, List.mem_append] at h
    rcases h with (h | h) | h
    · simp [hsign h]
    · exact .inl (isDigit_of_mem_padded (List.mem_of_mem_take h))
    · split at h
      · simp at h
      · simp only [String.toList_append, String.toList_ofList, List.mem_append] at h
        rcases h with h | h
        · have hpoint : c = '.' := by simpa using h
          simp [hpoint]
        · exact .inl (isDigit_of_mem_padded (List.mem_of_mem_drop h))
  · rw [Number.specialText] at h
    split at h
    · have hnan : c ∈ ['N', 'a', 'N'] := h
      simp only [List.mem_cons, List.not_mem_nil, or_false] at hnan ⊢
      tauto
    · rw [String.toList_append, List.mem_append] at h
      rcases h with h | h
      · simp [hsign h]
      · have hinf : c ∈ ['i', 'n', 'f'] := h
        simp only [List.mem_cons, List.not_mem_nil, or_false] at hinf ⊢
        tauto

theorem fits_of_plain (reading : Reading) {text : String} (hfeed : '\n' ∉ text.toList)
    (hbar : '|' ∉ text.toList) : Fits reading text :=
  ⟨hfeed, bare_of_not_mem hbar false⟩

theorem fits_toString (reading : Reading) (n : Nat) : Fits reading (toString n) := by
  apply fits_of_plain
  · exact fun h => absurd (isDigit_of_mem_toString h) (by decide)
  · exact fun h => absurd (isDigit_of_mem_toString h) (by decide)

theorem fits_statText (reading : Reading) (x : Option Float) : Fits reading (statText x) := by
  cases x with
  | none => exact fits_of_plain reading (by decide) (by decide)
  | some x =>
    apply fits_of_plain
    · exact fun h => absurd (of_mem_fixed h) (by decide)
    · exact fun h => absurd (of_mem_fixed h) (by decide)

theorem fits_kind (reading : Reading) (k : ViolationKind) : Fits reading k.name := by
  cases k <;> exact fits_of_plain reading (by decide) (by decide)

/-! ## Rows -/

/-- The cells of the line of a violation. -/
def violationCells (v : Violation) : List String :=
  [toString v.recordIndex, v.field, v.kind.name, escapedBars v.message]

/-- The cells of the line of the statistics of a column. -/
def statsCells (s : ColumnStats Float) : List String :=
  [s.column, toString s.count, toString s.skipped, statText s.mean, statText s.deviation,
    statText s.least, statText s.greatest]

/-- The cells of the line of a violation fit iff its field does, and its message once it is
escaped. -/
theorem fits_violationCells_iff (reading : Reading) (v : Violation) :
    (∀ cell ∈ violationCells v, Fits reading cell) ↔
      Fits reading v.field ∧ '\n' ∉ v.message.toList ∧
        (reading = .pairs →
          bare .pairs false v.message.toList = v.message.toList.count '|') := by
  rw [← fits_escapedBars_iff]
  simp only [violationCells, List.forall_mem_cons, fits_toString, fits_kind, true_and,
    List.not_mem_nil, false_imp_iff, implies_true, and_true]

theorem fits_statsCells_iff (reading : Reading) (s : ColumnStats Float) :
    (∀ cell ∈ statsCells s, Fits reading cell) ↔ Fits reading s.column := by
  simp only [statsCells, List.forall_mem_cons, fits_toString, fits_statText, List.not_mem_nil,
    false_imp_iff, implies_true, and_true]

theorem read_violationRows_iff (reading : Reading) (vs : List Violation) :
    read reading (Text.unlines (vs.map violationRow)) =
        vs.map (fun v => (violationCells v).map padded) ↔
      ∀ v ∈ vs, Fits reading v.field ∧ '\n' ∉ v.message.toList ∧
        (reading = .pairs →
          bare .pairs false v.message.toList = v.message.toList.count '|') := by
  have hne : ∀ v, violationCells v ≠ [] := fun v => List.cons_ne_nil _ _
  exact (read_rowsOf_iff hne vs).trans
    (forall₂_congr fun v _ => fits_violationCells_iff reading v)

theorem read_statsRows_iff (reading : Reading) (columns : List (String × ColumnStats Float)) :
    read reading (Text.unlines (columns.map fun (_, s) => statsRow s)) =
        columns.map (fun (_, s) => (statsCells s).map padded) ↔
      ∀ column ∈ columns, Fits reading column.2.column := by
  have hne : ∀ column : String × ColumnStats Float, statsCells column.2 ≠ [] :=
    fun column => List.cons_ne_nil _ _
  exact (read_rowsOf_iff hne columns).trans
    (forall₂_congr fun column _ => fits_statsCells_iff reading column.2)

/-! ## The tables in the text -/

/-- The lines above the rows of the violations. -/
def violationsHead : List String :=
  [tableRow ["Record", "Field", "Kind", "Message"], "|--------|-------|------|---------|"]

/-- The lines above the rows of the statistics. -/
def statsHead : List String :=
  [tableRow ["Column", "Count", "Skipped", "Mean", "Std Dev", "Min", "Max"],
    "|--------|-------|---------|------|---------|-----|-----|"]

/-- The table of the statistics is in the text. -/
theorem statsTable_placed (r : Report Float) {c : FormatConfig} (h : c.stats = true)
    (hne : r.columns ≠ []) (level : Nat) (time : String) :
    statsHead ++ r.columns.map (fun (_, s) => statsRow s) <:+: r.markdownLines c level time := by
  have hstats : c.stats = true ∧ ¬r.columns.isEmpty = true := ⟨h, mt List.isEmpty_iff.mp hne⟩
  simp only [markdownLines]
  rw [if_pos hstats]
  refine List.IsInfix.trans ?_ (List.infix_append _ _ _)
  exact ⟨["", heading level ++ "# Column Statistics", ""], _, rfl⟩

/-- The table of the violations that are shown is in the text. -/
theorem violationsTable_placed (r : Report Float) {c : FormatConfig} (h : c.violations = true)
    (hne : r.violations ≠ []) (level : Nat) (time : String) :
    violationsHead ++ (c.shown r.violations).map violationRow <:+:
      r.markdownLines c level time := by
  have hviolations : c.violations = true ∧ ¬r.isAllValid = true := ⟨h, mt r.isAllValid_iff.mp hne⟩
  simp only [markdownLines]
  rw [if_pos hviolations]
  refine List.IsInfix.trans ?_ (List.suffix_append _ _).isInfix
  exact ⟨["", heading level ++ "# Violations", ""], _, rfl⟩

/-- What can be told of the tables of a report, however its bars are read.  The tables are in the
text.  The rows of the violations are read as they were written, a line of four cells for each
violation that is shown, iff the names of their fields fit into a cell and the messages have no
feeds; where a backslash may escape a backslash, each bar of a message must also follow upon an even
number of them.  The rows of the statistics are read as they were written, a line of seven cells for
each column, iff the names of the columns fit.  A message is got back from its cell in any case. -/
theorem markdown_tables_iff (reading : Reading) (r : Report Float) (c : FormatConfig) (level : Nat)
    (time : String) :
    ∃ lines, r.toMarkdown c level time = Text.unlines lines ∧
      (c.violations = true → r.violations ≠ [] →
        violationsHead ++ (c.shown r.violations).map violationRow <:+: lines) ∧
      (read reading (Text.unlines ((c.shown r.violations).map violationRow)) =
          (c.shown r.violations).map (fun v => (violationCells v).map padded) ↔
        ∀ v ∈ c.shown r.violations, Fits reading v.field ∧ '\n' ∉ v.message.toList ∧
          (reading = .pairs →
            bare .pairs false v.message.toList = v.message.toList.count '|')) ∧
      (∀ message : String, unescapedBars (escapedBars message).toList = message.toList) ∧
      (c.stats = true → r.columns ≠ [] →
        statsHead ++ r.columns.map (fun (_, s) => statsRow s) <:+: lines) ∧
      (read reading (Text.unlines (r.columns.map fun (_, s) => statsRow s)) =
          r.columns.map (fun (_, s) => (statsCells s).map padded) ↔
        ∀ column ∈ r.columns, Fits reading column.2.column) :=
  ⟨r.markdownLines c level time, rfl,
    fun hviolations hne => r.violationsTable_placed hviolations hne level time,
    read_violationRows_iff reading (c.shown r.violations), unescapedBars_escapedBars,
    fun hstats hne => r.statsTable_placed hstats hne level time,
    read_statsRows_iff reading r.columns⟩

/-- The statistics of a column that had no values. -/
def noValues (column : String) : ColumnStats Float :=
  ⟨column, 0, 0, none, none, none, none, none, [], false⟩

/-- A report with a bar and a backslash in its messages. -/
def barredMessages : Report Float :=
  .assemble [⟨0, [⟨0, "code", .pattern, "value 'a|b' does not match pattern '^(x|y)\\d$'"⟩]⟩]
    [noValues "code"] 0

/-- The tables of that report are read as they were written. -/
theorem markdown_tables_iff_barredMessages :
    read .pairs (Text.unlines (barredMessages.violations.map violationRow)) =
        barredMessages.violations.map (fun v => (violationCells v).map padded) ∧
      ∃ lines, barredMessages.toMarkdown .ci 2 "" = Text.unlines lines ∧
        violationsHead ++ barredMessages.violations.map violationRow <:+: lines := by
  have hviolations : barredMessages.violations ≠ [] := List.cons_ne_nil _ _
  obtain ⟨lines, htext, hplaced, hrows, -⟩ := markdown_tables_iff .pairs barredMessages .ci 2 ""
  refine ⟨hrows.mpr fun v hv => ?_, lines, htext, hplaced rfl hviolations⟩
  obtain rfl : v = ⟨0, "code", .pattern, "value 'a|b' does not match pattern '^(x|y)\\d$'"⟩ :=
    List.eq_of_mem_singleton hv
  exact ⟨⟨by decide, by decide⟩, by decide, by decide⟩

/-- A report of which a field and a column have a bar in their name, and a message has a feed. -/
def tornTables : Report Float :=
  .assemble [⟨0, [⟨0, "a|b", .notNull, "value is null"⟩]⟩,
    ⟨1, [⟨1, "name", .pattern, "value 'x\ny' does not match pattern '^z'"⟩]⟩] [noValues "a|b"] 0

/-- The field makes a cell more, the message makes a line more, and the column makes a cell more. -/
theorem exists_tables_torn :
    ∃ r : Report Float, ∃ c : FormatConfig, c.shown r.violations = r.violations ∧
      r.violations.length = 2 ∧ r.columns.length = 1 ∧ ∃ lines,
        r.toMarkdown c 2 "" = Text.unlines lines ∧
        violationsHead ++ r.violations.map violationRow <:+: lines ∧
        statsHead ++ r.columns.map (fun (_, s) => statsRow s) <:+: lines ∧
        ∀ reading : Reading,
          (read reading (Text.unlines (r.violations.map violationRow))).map List.length =
            [5, 3, 0] ∧
          (read reading (Text.unlines (r.columns.map fun (_, s) => statsRow s))).map List.length =
            [8] := by
  refine ⟨tornTables, .ci, rfl, rfl, rfl, _, rfl, ?_, ?_, ?_⟩
  · exact violationsTable_placed tornTables (c := .ci) rfl (List.cons_ne_nil _ _) 2 ""
  · exact statsTable_placed tornTables (c := .ci) rfl (List.cons_ne_nil _ _) 2 ""
  · rintro (_ | _) <;> decide +kernel

end RecordAudit.Report
