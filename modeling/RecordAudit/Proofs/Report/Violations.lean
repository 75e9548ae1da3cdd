import RecordAudit.Proofs.Json.Layouts
import RecordAudit.Proofs.Text.Lines
import RecordAudit.Report.Format.Human
import RecordAudit.Report.Format.Json
import RecordAudit.Report.Format.Markdown

/-!
# The violations that a written report shows

A limit on the number of violations is negative where there is none.  The three
forms of a report each apply it by themselves; the JSON document counts what is
left by the list that it shows, and the two texts count it by the limit.

* `FormatConfig.visible` is how many violations a limit lets through, and
  `shown_eq_take` and `length_shown` say that these are shown, from the first.
* `humanSection`, `markdownSection` and `jsonSection` are what is written of
  violations, character by character.
* The two texts leave their section out where all records are valid, and that is
  where there are no violations (`violationSection_eq`).  The keys for violations
  are the last ones of the document (`document_eq`).
* `toHumanText_eq`, `toMarkdown_eq` and `toJsonText_eq` put the sections into
  their texts, which tell nothing else of violations than how many records have
  any (`SameCounts`).  `formats_show_alike` puts the forms together.
-/

namespace RecordAudit

/-! ## The limit -/

namespace FormatConfig

/-- How many of so many violations are let through. -/
def visible (c : FormatConfig) (total : Nat) : Nat :=
  if c.maxViolations < 0 then total else min c.maxViolations.toNat total

theorem limit?_of_neg {c : FormatConfig} (h : c.maxViolations < 0) : c.limit? = none :=
  if_neg (Int.not_le.mpr h)

theorem limit?_of_nonneg {c : FormatConfig} (h : ¬c.maxViolations < 0) :
    c.limit? = some c.maxViolations.toNat :=
  if_pos (Int.not_lt.mp h)

theorem visible_le (c : FormatConfig) (total : Nat) : c.visible total ≤ total := by
  rw [visible]
  split
  · exact Nat.le_refl total
  · exact Nat.min_le_right _ total

/-- The first violations are shown. -/
theorem shown_eq_take (c : FormatConfig) (vs : List Violation) :
    c.shown vs = vs.take (c.visible vs.length) := by
  rw [shown, visible]
  by_cases h : c.maxViolations < 0
  · rw [limit?_of_neg h, if_pos h, List.take_length]
  · rw [limit?_of_nonneg h, if_neg h, ← List.take_eq_take_min]

theorem length_shown (c : FormatConfig) (vs : List Violation) :
    (c.shown vs).length = c.visible vs.length := by
  rw [shown_eq_take, List.length_take, Nat.min_eq_left (c.visible_le _)]

end FormatConfig

namespace Report

open FormatConfig

/-! ## What is written -/

/-- The word for a kind of violations. -/
def kindWord : ViolationKind → String
  | .notNull => "not_null"
  | .range => "range"
  | .pattern => "pattern"
  | .custom => "custom"
  | .recordRead => "record_read"

/-- The line of a violation in a text for terminals. -/
def humanEntry (colors : Bool) (v : Violation) : String :=
  "   " ++ (if colors then "\x1b[31m✗\x1b[0m" else "✗") ++ " record " ++ toString v.recordIndex ++
    " · " ++ v.field ++ " [" ++ kindWord v.kind ++ "]: " ++ v.message ++ "\n"

/-- The violations in a text for terminals: a line for each one that is shown, and a note of how
many are hidden, if any are. -/
def humanSection (colors : Bool) (shown : List Violation) (hidden : Nat) : String :=
  if shown = [] ∧ hidden = 0 then ""
  else
    "\n🔍 Violations:\n" ++ String.join (shown.map (humanEntry colors)) ++
      if 0 < hidden then "\n   ... and " ++ toString hidden ++ " more violations\n" else ""

/-- The line of a violation in Markdown.  A bar in its message has a backslash in front. -/
def markdownEntry (v : Violation) : String :=
  "| " ++ toString v.recordIndex ++ " | " ++ v.field ++ " | " ++ kindWord v.kind ++ " | " ++
    String.ofList (['\\', '|'].intercalate (v.message.toList.splitOn '|')) ++ " |\n"

/-- The violations in Markdown, under a heading one level below the title. -/
def markdownSection (level : Nat) (shown : List Violation) (hidden : Nat) : String :=
  if shown = [] ∧ hidden = 0 then ""
  else
    "\n" ++ String.ofList (List.replicate (max 1 (min level 5) + 1) '#') ++ " Violations\n\n" ++
      "| Record | Field | Kind | Message |\n|--------|-------|------|---------|\n" ++
        String.join (shown.map markdownEntry) ++
          if 0 < hidden then
            "\n> **Note:** " ++ toString hidden ++
              " additional violations not shown in this report.\n"
          else ""

/-- A violation in compact JSON. -/
def compactEntry (v : Violation) : String :=
  "\x7b\"field\":" ++ Json.stringText v.field ++ ",\"kind\":\"" ++ kindWord v.kind ++
    "\",\"message\":" ++ Json.stringText v.message ++ ",\"record_index\":" ++
    toString v.recordIndex ++ "\x7d"

/-- A violation in JSON that is spread over lines. -/
def spreadEntry (v : Violation) : String :=
  "\n".intercalate ["    \x7b",
    "      \"field\": " ++ Json.stringText v.field ++ ",",
    "      \"kind\": \"" ++ kindWord v.kind ++ "\",",
    "      \"message\": " ++ Json.stringText v.message ++ ",",
    "      \"record_index\": " ++ toString v.recordIndex,
    "    \x7d"]

/-- The violations in JSON, and how many are hidden. -/
def jsonSection (spreadOut : Bool) (shown : List Violation) (hidden : Nat) : String :=
  if spreadOut then
    ",\n  \"violations\": " ++
      (if shown = [] then "[]"
        else "[\n" ++ ",\n".intercalate (shown.map spreadEntry) ++ "\n  ]") ++
      ",\n  \"violations_truncated\": " ++ toString hidden
  else
    ",\"violations\":[" ++ ",".intercalate (shown.map compactEntry) ++
      "],\"violations_truncated\":" ++ toString hidden

/-- The end of a document. -/
def jsonEnd (spreadOut : Bool) : String := if spreadOut then "\n\x7d" else "\x7d"

theorem name_eq_kindWord (k : ViolationKind) : k.name = kindWord k := by cases k <;> rfl

/-! ## Texts -/

/-- The lines of the violations in a text: a heading, a line for each one that is shown, and a note
of how many are hidden, if any are.  There are none if there are no violations at all. -/
def violationSection (heading : List String) (line : Violation → String)
    (note : Nat → List String) (shown : List Violation) (hidden : Nat) : List String :=
  if shown = [] ∧ hidden = 0 then []
  else heading ++ shown.map line ++ if 0 < hidden then note hidden else []

/-- The lines in a text for terminals. -/
def humanLinesOf (c : FormatConfig) : List Violation → Nat → List String :=
  violationSection ["", "🔍 Violations:"] (violationLine c) fun hidden =>
    ["", "   ... and " ++ toString hidden ++ " more violations"]

/-- The lines in Markdown, below the hash signs of the title. -/
def markdownLinesOf (h : String) : List Violation → Nat → List String :=
  violationSection ["", h ++ "# Violations", "", tableRow ["Record", "Field", "Kind", "Message"],
    "|--------|-------|------|---------|"] violationRow fun hidden =>
      ["", "> **Note:** " ++ toString hidden ++ " additional violations not shown in this report."]

/-- How many violations of a report are not shown. -/
def hidden (r : Report Float) (c : FormatConfig) : Nat :=
  r.violations.length - c.visible r.violations.length

/-- What a text counts by the limit is what is not shown. -/
theorem note_of_limit? (r : Report Float) (c : FormatConfig) (note : Nat → List String) :
    (match c.limit? with
      | some limit => if limit < r.violations.length then note (r.violations.length - limit) else []
      | none => []) = if 0 < r.hidden c then note (r.hidden c) else [] := by
  by_cases h : c.maxViolations < 0
  · have hnone : ¬0 < r.hidden c := by
      rw [hidden, visible, if_pos h]
      omega
    rw [limit?_of_neg h, if_neg hnone]
  · have hhidden : r.hidden c = r.violations.length - c.maxViolations.toNat := by
      rw [hidden, visible, if_neg h]
      omega
    rw [limit?_of_nonneg h, hhidden]
    simp only [Nat.sub_pos_iff_lt]

/-- A report without violations has none to show and none to hide. -/
theorem shown_eq_nil_iff (r : Report Float) (c : FormatConfig) :
    c.shown r.violations = [] ∧ r.hidden c = 0 ↔ r.isAllValid = true := by
  have hlength := c.length_shown r.violations
  have hle := c.visible_le r.violations.length
  rw [isAllValid_iff, ← List.length_eq_zero_iff, ← List.length_eq_zero_iff, hlength, hidden]
  omega

/-- A text leaves its section out if all records are valid. -/
theorem violationSection_eq (r : Report Float) {c : FormatConfig} (h : c.violations = true)
    (heading : List String) (line : Violation → String) (note : Nat → List String) :
    (if c.violations ∧ ¬r.isAllValid then
      heading ++ (c.shown r.violations).map line ++
        match c.limit? with
        | some limit =>
          if limit < r.violations.length then note (r.violations.length - limit) else []
        | none => []
      else []) = violationSection heading line note (c.shown r.violations) (r.hidden c) := by
  rw [r.note_of_limit?, violationSection]
  simp only [h, true_and, shown_eq_nil_iff, ite_not]

/-- A text leaves its section out if violations are not wanted. -/
theorem unwanted_eq_nil {p : Prop} [Decidable p] (lines : List String) :
    (if false = true ∧ p then lines else []) = [] :=
  if_neg fun h => Bool.false_ne_true h.1

/-- A text for terminals is the one without violations, with the section before the last line. -/
theorem humanLines_violations (r : Report Float) {c : FormatConfig} (h : c.violations = true)
    (time : String) :
    ∃ head, r.humanLines { c with violations := false } time = head ++ [""] ∧
      r.humanLines c time = head ++ humanLinesOf c (c.shown r.violations) (r.hidden c) ++ [""] := by
  refine ⟨_, congrArg (_ ++ · ++ [""]) (unwanted_eq_nil _), ?_⟩
  rw [List.append_nil]
  exact congrArg (_ ++ · ++ [""]) (r.violationSection_eq h _ _ fun hidden =>
    ["", "   ... and " ++ toString hidden ++ " more violations"])

/-- Markdown is the text without violations, with the section at its end. -/
theorem markdownLines_violations (r : Report Float) {c : FormatConfig} (h : c.violations = true)
    (level : Nat) (time : String) :
    ∃ head, r.markdownLines { c with violations := false } level time = head ∧
      r.markdownLines c level time =
        head ++ markdownLinesOf (heading level) (c.shown r.violations) (r.hidden c) := by
  refine ⟨_, (congrArg (_ ++ ·) (unwanted_eq_nil _)).trans (List.append_nil _), ?_⟩
  exact congrArg (_ ++ ·) (r.violationSection_eq h _ _ fun hidden =>
    ["", "> **Note:** " ++ toString hidden ++ " additional violations not shown in this report."])

theorem unlines_map {line entry : Violation → String} (h : ∀ v, line v ++ "\n" = entry v)
    (vs : List Violation) : Text.unlines (vs.map line) = String.join (vs.map entry) := by
  rw [Text.unlines, List.map_map]
  exact congrArg String.join (List.map_congr_left fun v _ => h v)

/-- The lines of the violations as a text. -/
theorem unlines_violationSection {heading : List String} {line entry : Violation → String}
    {note : Nat → List String} (h : ∀ v, line v ++ "\n" = entry v) (shown : List Violation)
    (hidden : Nat) :
    Text.unlines (violationSection heading line note shown hidden) =
      if shown = [] ∧ hidden = 0 then ""
      else
        Text.unlines heading ++ String.join (shown.map entry) ++
          if 0 < hidden then Text.unlines (note hidden) else "" := by
  rw [violationSection]
  split
  · rfl
  · rw [Text.unlines_append, Text.unlines_append, unlines_map h]
    split <;> rfl

theorem violationLine_eq (c : FormatConfig) (v : Violation) :
    violationLine c v ++ "\n" = humanEntry c.colors v := by
  have hmark : paint c "31" "✗" = if c.colors then "\x1b[31m✗\x1b[0m" else "✗" := by
    rw [paint]
    split <;> rfl
  unfold humanEntry
  rw [violationLine, hmark, name_eq_kindWord]

theorem unlines_humanLinesOf (c : FormatConfig) (shown : List Violation) (hidden : Nat) :
    Text.unlines (humanLinesOf c shown hidden) = humanSection c.colors shown hidden := by
  have hnote : Text.unlines ["", "   ... and " ++ toString hidden ++ " more violations"] =
      "\n   ... and " ++ toString hidden ++ " more violations\n" := by
    rw [Text.unlines_cons, Text.unlines_cons]
    simp only [String.append_assoc]
    rfl
  rw [humanLinesOf, unlines_violationSection (violationLine_eq c), hnote, humanSection]
  rfl

/-- What stands between the bars of a text, put together with another separator. -/
theorem intercalate_splitOn_eq_flatMap {α : Type} [DecidableEq α] (sep : List α) (a : α)
    (xs : List α) :
    sep.intercalate (xs.splitOn a) = xs.flatMap fun x => if x = a then sep else [x] := by
  induction xs with
  | nil => rfl
  | cons x xs ih =>
    have hne : xs.splitOn a ≠ [] := List.splitOn_ne_nil a xs
    rw [List.splitOn_cons_eq_if_modifyHead, List.flatMap_cons, ← ih]
    by_cases h : x = a
    · rw [if_pos (beq_iff_eq.mpr h), if_pos h, List.intercalate_cons_of_ne_nil hne, List.nil_append]
    · obtain ⟨piece, pieces, hpieces⟩ := List.exists_cons_of_ne_nil hne
      rw [if_neg (mt beq_iff_eq.mp h), if_neg h, hpieces, List.modifyHead_cons,
        List.intercalate_cons_cons_left]
      rfl

theorem violationRow_eq (v : Violation) : violationRow v ++ "\n" = markdownEntry v := by
  unfold markdownEntry
  rw [violationRow, tableRow, String.intercalate_cons_cons, String.intercalate_cons_cons,
    String.intercalate_cons_cons, String.intercalate_singleton, name_eq_kindWord, escapedBars,
    ← intercalate_splitOn_eq_flatMap]
  simp only [String.append_assoc]
  rfl

theorem unlines_markdownLinesOf (level : Nat) (shown : List Violation) (hidden : Nat) :
    Text.unlines (markdownLinesOf (heading level) shown hidden) =
      markdownSection level shown hidden := by
  have hhead : Text.unlines ["", heading level ++ "# Violations", "",
      tableRow ["Record", "Field", "Kind", "Message"], "|--------|-------|------|---------|"] =
        "\n" ++ String.ofList (List.replicate (max 1 (min level 5) + 1) '#') ++
          " Violations\n\n" ++
            "| Record | Field | Kind | Message |\n|--------|-------|------|---------|\n" := by
    rw [List.replicate_succ', String.ofList_append, Text.unlines_cons, Text.unlines_cons, heading]
    simp only [String.append_assoc]
    rfl
  have hnote : Text.unlines ["", "> **Note:** " ++ toString hidden ++
      " additional violations not shown in this report."] =
        "\n> **Note:** " ++ toString hidden ++
          " additional violations not shown in this report.\n" := by
    rw [Text.unlines_cons, Text.unlines_cons]
    simp only [String.append_assoc]
    rfl
  rw [markdownLinesOf, unlines_violationSection violationRow_eq, hhead, hnote, markdownSection]

/-- A text for terminals is the one without violations, with the section before the last line. -/
theorem toHumanText_eq (r : Report Float) {c : FormatConfig} (h : c.violations = true)
    (time : String) :
    ∃ before, r.toHumanText { c with violations := false } time = before ++ "\n" ∧
      r.toHumanText c time =
        before ++ humanSection c.colors (c.shown r.violations) (r.hidden c) ++ "\n" := by
  obtain ⟨head, hoff, hon⟩ := r.humanLines_violations h time
  refine ⟨Text.unlines head, ?_, ?_⟩
  · rw [toHumanText, hoff, Text.unlines_append]
    rfl
  · rw [toHumanText, hon, Text.unlines_append, Text.unlines_append, unlines_humanLinesOf]
    rfl

/-- Markdown is the text without violations, with the section at its end. -/
theorem toMarkdown_eq (r : Report Float) {c : FormatConfig} (h : c.violations = true) (level : Nat)
    (time : String) :
    r.toMarkdown c level time = r.toMarkdown { c with violations := false } level time ++
      markdownSection level (c.shown r.violations) (r.hidden c) := by
  obtain ⟨head, hoff, hon⟩ := r.markdownLines_violations h level time
  rw [toMarkdown, toMarkdown, hoff, hon, Text.unlines_append, unlines_markdownLinesOf]

/-! ## The document -/

open Json

/-- A violation in a document. -/
def violationObject (v : Violation) : Value :=
  .object [("field", .string v.field), ("kind", .string (kindWord v.kind)),
    ("message", .string v.message), ("record_index", .number (.natural v.recordIndex))]

theorem sorted_toJson (v : Violation) : sorted v.toJson = violationObject v := by
  rw [violationObject, ← name_eq_kindWord]
  rfl

/-- The keys for violations are the last ones of the document. -/
def violationFields (shown : List Violation) (hidden : Nat) : List (String × Value) :=
  [("violations", .array (shown.map violationObject)),
    ("violations_truncated", .number (.natural hidden))]

theorem sortedFields_violations (r : Report Float) (c : FormatConfig) :
    sortedFields [("violations", Json.ofList Violation.toJson (c.shown r.violations)),
        ("violations_truncated",
          Json.ofNat (r.violations.length - (c.shown r.violations).length))] =
      violationFields (c.shown r.violations) (r.hidden c) := by
  have hitems : sorted (Json.ofList Violation.toJson (c.shown r.violations)) =
      .array ((c.shown r.violations).map violationObject) := by
    rw [Json.ofList, sorted, sortedItems_eq_map, List.map_map]
    exact congrArg Value.array (List.map_congr_left fun v _ => sorted_toJson v)
  rw [sortedFields, hitems, violationFields, hidden, ← c.length_shown]
  rfl

/-- A document is the one without violations, with their keys at its end. -/
theorem document_eq (r : Report Float) {c : FormatConfig} (h : c.violations = true)
    (time : String) :
    ∃ before, before ≠ [] ∧ r.document { c with violations := false } time = .object before ∧
      r.document c time =
        .object (before ++ violationFields (c.shown r.violations) (r.hidden c)) := by
  obtain ⟨rest, status, hoff, hon, hkeys⟩ : ∃ rest status,
      r.document { c with violations := false } time =
        sorted (.object (("status", status) :: rest)) ∧
      r.document c time = sorted (.object (("status", status) :: rest ++
        [("violations", Json.ofList Violation.toJson (c.shown r.violations)),
          ("violations_truncated",
            Json.ofNat (r.violations.length - (c.shown r.violations).length))])) ∧
      ∀ entry ∈ rest, entry.1 ∈ ["summary", "generated_at", "column_stats"] := by
    refine ⟨_, _, congrArg (fun f => sorted (.object f)) (List.append_nil _), ?_, ?_⟩
    · rw [document, if_pos h]
      rfl
    · cases c.timestamps <;> cases c.stats <;> simp
  have hlast : ∀ key ∈ ["status", "summary", "generated_at", "column_stats"],
      key < "violations" ∧ key < "violations_truncated" := by
    decide
  refine ⟨sortedFields (("status", status) :: rest), insertField_ne_nil _ _ _, ?_, ?_⟩
  · rw [hoff, sorted]
  · rw [hon, sorted, sortedFields_append, sortedFields_violations]
    -- What is left is that all other keys come before these two.
    intro entry hentry
    have hkey : entry.1 ∈ ["status", "summary", "generated_at", "column_stats"] := by
      cases hentry with
      | head => exact .head _
      | tail _ he => exact .tail _ (hkeys entry he)
    rw [sortedFields_violations]
    obtain ⟨hviolations, htruncated⟩ := hlast entry.1 hkey
    exact List.forall_mem_cons.mpr ⟨hviolations, List.forall_mem_singleton.mpr htruncated⟩

/-! ## The text of the document -/

theorem stringText_kindWord (k : ViolationKind) :
    stringText (kindWord k) = "\"" ++ kindWord k ++ "\"" := by
  cases k <;> rfl

theorem compact_violationObject (v : Violation) : compact (violationObject v) = compactEntry v := by
  unfold compactEntry
  rw [violationObject, compact, compactFields, compactFields, compactFields, compactFields,
    compactFields, String.intercalate_cons_cons, String.intercalate_cons_cons,
    String.intercalate_cons_cons, String.intercalate_singleton, compact, compact, compact, compact,
    stringText_kindWord]
  simp only [String.append_assoc]
  rfl

theorem compact_violationFields (shown : List Violation) (hidden : Nat) :
    "," ++ ",".intercalate (compactFields (violationFields shown hidden)) =
      jsonSection false shown hidden := by
  have hitems : shown.map (compact ∘ violationObject) = shown.map compactEntry :=
    List.map_congr_left fun v _ => compact_violationObject v
  rw [violationFields, compactFields, compactFields, compactFields, String.intercalate_cons_cons,
    String.intercalate_singleton, compact, compact, compactItems_eq_map, List.map_map, hitems,
    jsonSection]
  simp only [String.append_assoc]
  rfl

/-- A violation that is spread over lines, as an item of a list in the document. -/
theorem pretty_violationObject (v : Violation) :
    indent 2 ++ prettyAt 2 (violationObject v) = spreadEntry v := by
  have hfields : prettyAt 2 (violationObject v) = spread 2 "\x7b" "\x7d"
      [stringText "field" ++ ": " ++ stringText v.field,
        stringText "kind" ++ ": " ++ stringText (kindWord v.kind),
        stringText "message" ++ ": " ++ stringText v.message,
        stringText "record_index" ++ ": " ++ toString v.recordIndex] := rfl
  have hopen : "    \x7b" = indent 2 ++ "\x7b" := by rfl
  have hfield : "      \"field\": " = indent 3 ++ stringText "field" ++ ": " := by rfl
  have hkind : "      \"kind\": \"" = indent 3 ++ stringText "kind" ++ ": " ++ "\"" := by rfl
  have hmessage : "      \"message\": " = indent 3 ++ stringText "message" ++ ": " := by rfl
  have hindex : "      \"record_index\": " = indent 3 ++ stringText "record_index" ++ ": " := by
    rfl
  have hclose : "    \x7d" = indent 2 ++ "\x7d" := by rfl
  have hquote : "\"," = "\"" ++ "," := by rfl
  have hcomma : ",\n" = "," ++ "\n" := by rfl
  rw [hfields, spread, if_neg (List.cons_ne_nil _ _), stringText_kindWord, spreadEntry, hopen,
    hfield, hkind, hmessage, hindex, hclose, hquote, hcomma]
  simp only [List.map_cons, List.map_nil, String.intercalate_cons_cons,
    String.intercalate_singleton, String.append_assoc]

theorem pretty_violationFields (shown : List Violation) (hidden : Nat) :
    ",\n" ++ ",\n".intercalate
        ((prettyFields 1 (violationFields shown hidden)).map (indent 1 ++ ·)) =
      jsonSection true shown hidden := by
  have hitems : shown.map ((indent 2 ++ ·) ∘ prettyAt 2 ∘ violationObject) =
      shown.map spreadEntry :=
    List.map_congr_left fun v _ => pretty_violationObject v
  have hlist : prettyAt 1 (.array (shown.map violationObject)) =
      if shown = [] then "[]"
      else "[\n" ++ ",\n".intercalate (shown.map spreadEntry) ++ "\n  ]" := by
    rw [prettyAt, prettyItems_eq_map, spread, List.map_map, List.map_map, hitems]
    simp only [List.map_eq_nil_iff]
    split
    · rfl
    · simp only [String.append_assoc]
      rfl
  rw [violationFields, prettyFields, prettyFields, prettyFields, List.map_cons, List.map_cons,
    List.map_nil, String.intercalate_cons_cons, String.intercalate_singleton, hlist, prettyAt,
    jsonSection]
  simp only [String.append_assoc]
  rfl

/-- A JSON text is the one without violations, with the section before its end. -/
theorem toJsonText_eq (r : Report Float) {c : FormatConfig} (h : c.violations = true)
    (spreadOut : Bool) (time : String) :
    ∃ before,
      r.toJsonText { c with violations := false } spreadOut time = before ++ jsonEnd spreadOut ∧
      r.toJsonText c spreadOut time = before ++
        jsonSection spreadOut (c.shown r.violations) (r.hidden c) ++ jsonEnd spreadOut := by
  obtain ⟨before, hbefore, hoff, hon⟩ := r.document_eq h time
  have hafter : violationFields (c.shown r.violations) (r.hidden c) ≠ [] := List.cons_ne_nil _ _
  rw [toJsonText, toJsonText, hoff, hon]
  cases spreadOut with
  | false =>
    obtain ⟨text, hwithout, hwith⟩ := compact_append hbefore hafter
    rw [compact_violationFields] at hwith
    exact ⟨text, hwithout, hwith⟩
  | true =>
    obtain ⟨text, hwithout, hwith⟩ := pretty_append hbefore hafter
    rw [pretty_violationFields] at hwith
    exact ⟨text, hwithout, hwith⟩

/-! ## Without violations -/

/-- Reports that differ in nothing but what their violations are. -/
structure SameCounts (q r : Report Float) : Prop where
  total : q.total = r.total
  valid : q.valid = r.valid
  filtered : q.filtered = r.filtered
  columns : q.columns = r.columns

namespace SameCounts

variable {q r : Report Float}

theorem invalid (h : SameCounts q r) : q.invalid = r.invalid := by
  rw [Report.invalid, Report.invalid, h.total, h.valid]

theorem isAllValid (h : SameCounts q r) : q.isAllValid = r.isAllValid := by
  rw [Report.isAllValid, Report.isAllValid, h.invalid]

theorem validityRate (h : SameCounts q r) : q.validityRate = r.validityRate := by
  rw [Report.validityRate, Report.validityRate, h.total, h.valid]

/-- Nothing but the section tells violations apart. -/
theorem toHumanText (h : SameCounts q r) (c : FormatConfig) (time : String) :
    q.toHumanText { c with violations := false } time =
      r.toHumanText { c with violations := false } time := by
  simp only [Report.toHumanText, humanLines, h.total, h.valid, h.invalid, h.filtered, h.columns,
    h.isAllValid, h.validityRate, Bool.false_eq_true, false_and, if_false]

theorem toMarkdown (h : SameCounts q r) (c : FormatConfig) (level : Nat) (time : String) :
    q.toMarkdown { c with violations := false } level time =
      r.toMarkdown { c with violations := false } level time := by
  simp only [Report.toMarkdown, markdownLines, h.total, h.valid, h.invalid, h.filtered, h.columns,
    h.isAllValid, h.validityRate, Bool.false_eq_true, false_and, if_false]

theorem toJsonText (h : SameCounts q r) (c : FormatConfig) (spreadOut : Bool) (time : String) :
    q.toJsonText { c with violations := false } spreadOut time =
      r.toJsonText { c with violations := false } spreadOut time := by
  simp only [Report.toJsonText, document, h.total, h.valid, h.invalid, h.filtered, h.columns,
    h.isAllValid, h.validityRate, Bool.false_eq_true, if_false]

end SameCounts

/-! ## All forms -/

/-- The three forms of a report show the same violations and account for the others.  Each shows the
first ones, as many as the limit lets through, in their order, and gives the number of those that it
hides, which makes up the total together with those that it shows.  The section for violations is
all that they add to a text: without it reports with the same counts and statistics have the same
text.  The strings of a JSON text are read back as they were. -/
theorem formats_show_alike (r : Report Float) {c : FormatConfig} (h : c.violations = true) :
    ∃ shown hidden, shown = r.violations.take (c.visible r.violations.length) ∧
      shown.length = c.visible r.violations.length ∧
      shown.length + hidden = r.violations.length ∧
      (∀ (spreadOut : Bool) (time : String), ∃ before,
        (∀ q, SameCounts q r → q.toJsonText { c with violations := false } spreadOut time =
          before ++ jsonEnd spreadOut) ∧
        r.toJsonText c spreadOut time =
          before ++ jsonSection spreadOut shown hidden ++ jsonEnd spreadOut) ∧
      (∀ text, Reader.text.run (stringText text) = .ok text) ∧
      (∀ time : String, ∃ before,
        (∀ q, SameCounts q r → q.toHumanText { c with violations := false } time =
          before ++ "\n") ∧
        r.toHumanText c time = before ++ humanSection c.colors shown hidden ++ "\n") ∧
      ∀ (level : Nat) (time : String), ∃ before,
        (∀ q, SameCounts q r → q.toMarkdown { c with violations := false } level time = before) ∧
        r.toMarkdown c level time = before ++ markdownSection level shown hidden := by
  refine ⟨c.shown r.violations, r.hidden c, c.shown_eq_take _, c.length_shown _, ?_, ?_, ?_, ?_, ?_⟩
  · have hle := c.visible_le r.violations.length
    rw [c.length_shown, hidden]
    omega
  · intro spreadOut time
    obtain ⟨before, hoff, hon⟩ := r.toJsonText_eq h spreadOut time
    exact ⟨before, fun q hq => (hq.toJsonText c spreadOut time).trans hoff, hon⟩
  · intro text
    exact (Reader.takes_text text).run
  · intro time
    obtain ⟨before, hoff, hon⟩ := r.toHumanText_eq h time
    exact ⟨before, fun q hq => (hq.toHumanText c time).trans hoff, hon⟩
  · intro level time
    exact ⟨_, fun q hq => hq.toMarkdown c level time, r.toMarkdown_eq h level time⟩

/-- A report of one record with three violations. -/
def threeFaults : Report Float :=
  .assemble [⟨4, [⟨4, "code", .pattern, "value 'a|b' does not match pattern '^c$'"⟩,
    ⟨4, "email", .notNull, "value is null"⟩, ⟨4, "id", .recordRead, "torn"⟩]⟩] [] 0

/-- One of three violations is shown, and then none of them. -/
theorem formats_show_alike_threeFaults :
    ∃ one none : FormatConfig, one.violations = true ∧ one.maxViolations = 1 ∧
      none.violations = true ∧ none.maxViolations = 0 ∧
      (∃ before, threeFaults.toJsonText one false "" = before ++
        (",\"violations\":[\x7b\"field\":\"code\",\"kind\":\"pattern\",\"message\":" ++
          "\"value 'a|b' does not match pattern '^c$'\",\"record_index\":4\x7d]," ++
          "\"violations_truncated\":2\x7d")) ∧
      (∃ before, threeFaults.toMarkdown one 2 "" = before ++
        ("\n### Violations\n\n| Record | Field | Kind | Message |\n" ++
          "|--------|-------|------|---------|\n" ++
          "| 4 | code | pattern | value 'a\\|b' does not match pattern '^c$' |\n\n" ++
          "> **Note:** 2 additional violations not shown in this report.\n")) ∧
      ∃ before, threeFaults.toHumanText none "" = before ++
        "\n🔍 Violations:\n\n   ... and 3 more violations\n\n" := by
  refine ⟨{ FormatConfig.ci with maxViolations := 1 }, { FormatConfig.ci with maxViolations := 0 },
    rfl, rfl, rfl, rfl, ?_, ?_, ?_⟩
  · obtain ⟨shown, hidden, hshown, -, htotal, hjson, -⟩ :=
      formats_show_alike threeFaults (c := { FormatConfig.ci with maxViolations := 1 }) rfl
    obtain ⟨before, -, htext⟩ := hjson false ""
    have hhidden : hidden = 2 := Nat.add_left_cancel (hshown ▸ htotal)
    refine ⟨before, htext.trans ?_⟩
    rw [hshown, hhidden, String.append_assoc]
    exact congrArg _ (by decide +kernel)
  · obtain ⟨shown, hidden, hshown, -, htotal, -, -, -, hmarkdown⟩ :=
      formats_show_alike threeFaults (c := { FormatConfig.ci with maxViolations := 1 }) rfl
    obtain ⟨before, -, htext⟩ := hmarkdown 2 ""
    have hhidden : hidden = 2 := Nat.add_left_cancel (hshown ▸ htotal)
    refine ⟨before, htext.trans ?_⟩
    rw [hshown, hhidden]
    exact congrArg _ (by decide +kernel)
  · obtain ⟨shown, hidden, hshown, -, htotal, -, -, hhuman, -⟩ :=
      formats_show_alike threeFaults (c := { FormatConfig.ci with maxViolations := 0 }) rfl
    obtain ⟨before, -, htext⟩ := hhuman ""
    have hhidden : hidden = 3 := Nat.add_left_cancel (hshown ▸ htotal)
    refine ⟨before, htext.trans ?_⟩
    rw [hshown, hhidden, String.append_assoc]
    exact congrArg _ (by decide +kernel)

end Report

end RecordAudit
