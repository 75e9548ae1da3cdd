import RecordAudit.Proofs.Text.Lines
import RecordAudit.Source.Memory

/-!
# Rows of JSON lines

Every line that holds more than blanks gives one row, and what the row holds
depends on that line only.  Within an object, what a field gives depends on the
value of its key only.

* `rows_ofJsonLines_append` is the seam of two texts, with any endings of lines
  on either side.
* `rows_ofJsonLines_line` is a line in the middle of a text.
* `Row.get_ofJson` reads a field of a row, and `Row.get_ofJson_congr` says what
  the result depends on.
* `ofJsonLines_isolates` puts them together.
-/

namespace RecordAudit

/-! ## Cells of a row -/

namespace Json

/-- Gives a key that an object has another value. -/
def replaceField (key : String) (v : Value) (fields : List (String × Value)) :
    List (String × Value) :=
  fields.map fun field => if field.1 = key then (key, v) else field

theorem field?_replaceField_self (key : String) (v : Value) (fields : List (String × Value)) :
    field? key (replaceField key v fields) = (field? key fields).map fun _ => v := by
  induction fields with
  | nil => rfl
  | cons field rest ih =>
    obtain ⟨k, w⟩ := field
    rw [replaceField, List.map_cons, ← replaceField]
    by_cases hk : k = key
    · simp [field?, hk]
    · simp only [if_neg hk, field?, ih]

theorem field?_replaceField_of_ne {key name : String} (h : name ≠ key) (v : Value)
    (fields : List (String × Value)) :
    field? name (replaceField key v fields) = field? name fields := by
  induction fields with
  | nil => rfl
  | cons field rest ih =>
    obtain ⟨k, w⟩ := field
    rw [replaceField, List.map_cons, ← replaceField]
    by_cases hk : k = key
    · have hname : k ≠ name := fun hname => h (hname ▸ hk)
      rw [if_pos hk, field?, if_neg h.symm, field?, if_neg hname, ih]
    · simp only [if_neg hk, field?, ih]

end Json

theorem Schema.name_of_index? {schema : Schema} {name : String} {i : Fin schema.size}
    (h : schema.index? name = some i) : (schema.fields.get i).name = name := by
  obtain ⟨hname, -⟩ := List.findFinIdx?_eq_some_iff.mp h
  exact eq_of_beq hname

namespace Row

theorem get_ofJson_of_index?_eq_none {schema : Schema} {name : String}
    (h : schema.index? name = none) (fields : List (String × Json.Value)) :
    (ofJson schema (.object fields)).get name = .error ⟨name, foreignField⟩ := by
  rw [get]
  split
  · rfl
  · next i hi => cases h.symm.trans hi

/-- A field of a JSON object gives what the value of its key is decoded to. -/
theorem get_ofJson {schema : Schema} {name : String} {i : Fin schema.size}
    (h : schema.index? name = some i) (fields : List (String × Json.Value)) :
    (ofJson schema (.object fields)).get name =
      match ofJsonField fields (schema.fields.get i) with
      | .value v => .ok v
      | .unreadable reason => .error ⟨name, reason⟩ := by
  have hcell : (ofJson schema (.object fields)).cell i =
      ofJsonField fields (schema.fields.get i) := List.getElem_map (ofJsonField fields)
  rw [get]
  split
  · next hnone => cases h.symm.trans hnone
  · next j hj =>
    obtain rfl := Option.some.inj (h.symm.trans hj)
    exact congrArg (fun cell => (match cell with
      | .value v => .ok v
      | .unreadable reason => .error ⟨name, reason⟩ : Except ReadError FieldValue)) hcell

/-- What a field gives depends on the value of its key only. -/
theorem get_ofJson_congr {fields fields' : List (String × Json.Value)} {name : String}
    (h : Json.field? name fields = Json.field? name fields') (schema : Schema) :
    (ofJson schema (.object fields)).get name = (ofJson schema (.object fields')).get name := by
  cases hi : schema.index? name with
  | none => rw [get_ofJson_of_index?_eq_none hi, get_ofJson_of_index?_eq_none hi]
  | some i =>
    rw [get_ofJson hi, get_ofJson hi, ofJsonField, ofJsonField, Schema.name_of_index? hi, h]

end Row

/-! ## Rows of a text -/

namespace MemorySource

variable {schema : Schema}

/-- The rows on both sides of a line feed. -/
theorem rows_ofJsonLines_append (schema : Schema) (text rest : String) :
    (ofJsonLines schema (text ++ "\n" ++ rest)).rows =
      (ofJsonLines schema text).rows ++ (ofJsonLines schema rest).rows := by
  have htext : (text ++ "\n" ++ rest).toList = text.toList ++ '\n' :: rest.toList := by simp
  rw [ofJsonLines, htext, Text.filledLines_append_feed, List.map_append]
  rfl

/-- A line that is not blank and does not end in between. -/
structure IsFilledLine (line : String) : Prop where
  feed : '\n' ∉ line.toList
  filled : Text.trim line.toList ≠ []

/-- Texts between which a line may stand: it begins the text or comes after a
feed, and it is ended by a feed, by a carriage return with a feed, or by the
end of the text. -/
structure Frames (before after : String) : Prop where
  before : before = "" ∨ ∃ text, before = text ++ "\n"
  after : after = "" ∨ ∃ text, after = "\n" ++ text ∨ after = "\r\n" ++ text

/-- The row of a line that is not blank, whatever blanks it has around it. -/
def rowOf (schema : Schema) (line : String) : Row := rowOfLine schema (Text.trim line.toList)

theorem rows_ofJsonLines_empty (schema : Schema) : (ofJsonLines schema "").rows = [] := rfl

theorem IsFilledLine.rows_ofJsonLines {line : String} (h : IsFilledLine line) (schema : Schema) :
    (ofJsonLines schema line).rows = [rowOf schema line] := by
  rw [ofJsonLines, Text.filledLines_of_not_mem h.feed]
  simp [h.filled, rowOf]

/-- A carriage return at the end of a line is a blank. -/
theorem IsFilledLine.rows_ofJsonLines_return {line : String} (h : IsFilledLine line)
    (schema : Schema) : (ofJsonLines schema (line ++ "\r")).rows = [rowOf schema line] := by
  have htrim : Text.trim (line ++ "\r").toList = Text.trim line.toList := by
    rw [String.toList_append]
    exact Text.trim_append_blank (by decide) line.toList
  have hfilled : IsFilledLine (line ++ "\r") := ⟨by simp [h.feed], htrim ▸ h.filled⟩
  rw [hfilled.rows_ofJsonLines, rowOf, htrim, rowOf]

/-- A line after which a text goes on. -/
theorem IsFilledLine.rows_ofJsonLines_before {line after : String} (h : IsFilledLine line)
    (hafter : after = "" ∨ ∃ text, after = "\n" ++ text ∨ after = "\r\n" ++ text)
    (schema : Schema) :
    (ofJsonLines schema (line ++ after)).rows =
      rowOf schema line :: (ofJsonLines schema after).rows := by
  obtain rfl | ⟨text, rfl | rfl⟩ := hafter
  · rw [String.append_empty, h.rows_ofJsonLines]
    rfl
  · have hafter := rows_ofJsonLines_append schema "" text
    rw [String.empty_append, rows_ofJsonLines_empty, List.nil_append] at hafter
    rw [hafter, ← String.append_assoc, rows_ofJsonLines_append, h.rows_ofJsonLines]
    rfl
  · have hafter := rows_ofJsonLines_append schema "\r" text
    have hreturn : (ofJsonLines schema "\r").rows = [] := rfl
    rw [hreturn, List.nil_append] at hafter
    have hline : line ++ ("\r\n" ++ text) = line ++ "\r" ++ "\n" ++ text := by
      simp [String.append_assoc]
    have hends : "\r\n" ++ text = "\r" ++ "\n" ++ text := rfl
    rw [hline, rows_ofJsonLines_append, h.rows_ofJsonLines_return, hends, hafter]
    rfl

/-- A line in the middle of a text has its row between those of the rest. -/
theorem rows_ofJsonLines_line {before after line : String} (hframes : Frames before after)
    (hline : IsFilledLine line) (schema : Schema) :
    (ofJsonLines schema (before ++ line ++ after)).rows =
      (ofJsonLines schema before).rows ++ rowOf schema line :: (ofJsonLines schema after).rows := by
  have hrest := hline.rows_ofJsonLines_before hframes.after schema
  obtain rfl | ⟨text, rfl⟩ := hframes.before
  · rw [String.empty_append, hrest]
    rfl
  · have hbefore := rows_ofJsonLines_append schema text ""
    rw [String.append_empty, rows_ofJsonLines_empty, List.append_nil] at hbefore
    rw [String.append_assoc, rows_ofJsonLines_append, hrest, hbefore]

/-- The lines of a text give their rows one by one, each from what it holds
between blanks. -/
theorem rows_ofJsonLines_of_endedLines {text : String} {ls : List (List Char)}
    (h : Text.EndedLines text.toList ls) (schema : Schema) :
    (ofJsonLines schema text).rows =
      (ls.filter fun line => Text.trim line ≠ []).map fun line =>
        rowOfLine schema (Text.trim line) := by
  rw [ofJsonLines, h.filledLines_eq, List.filter_map, List.map_map]
  rfl

/-- Rows of JSON lines do not get into each other's way.  The rows of two texts
with a line feed between them are those of the one and then those of the other.
There is one row for each line that is not blank, in order.  Another line in
place of one of these changes the row of that line only.  Another value of a
key changes what the field of that name gives, and that only. -/
theorem ofJsonLines_isolates (schema : Schema) :
    (∀ text rest : String, (ofJsonLines schema (text ++ "\n" ++ rest)).rows =
        (ofJsonLines schema text).rows ++ (ofJsonLines schema rest).rows) ∧
      (∀ text : String, ∃ ls, Text.EndedLines text.toList ls) ∧
      (∀ (text : String) (ls : List (List Char)), Text.EndedLines text.toList ls →
        (ofJsonLines schema text).rows =
          (ls.filter fun line => Text.trim line ≠ []).map fun line =>
            rowOfLine schema (Text.trim line)) ∧
      (∀ before after line line' : String, Frames before after → IsFilledLine line →
        IsFilledLine line' → (ofJsonLines schema (before ++ line' ++ after)).rows =
          (ofJsonLines schema (before ++ line ++ after)).rows.set
            (ofJsonLines schema before).rows.length (rowOf schema line')) ∧
      (∀ (fields : List (String × Json.Value)) (key name : String) (v : Json.Value), name ≠ key →
        (Row.ofJson schema (.object (Json.replaceField key v fields))).get name =
          (Row.ofJson schema (.object fields)).get name) ∧
      ∀ (fields : List (String × Json.Value)) (key : String) (v : Json.Value),
        Json.field? key fields ≠ none →
        (Row.ofJson schema (.object (Json.replaceField key v fields))).get key =
          (Row.ofJson schema (.object [(key, v)])).get key := by
  refine ⟨rows_ofJsonLines_append schema, fun text => Text.exists_endedLines _,
    fun text ls h => rows_ofJsonLines_of_endedLines h schema, ?_, ?_, ?_⟩
  · intro before after line line' hframes hline hline'
    rw [rows_ofJsonLines_line hframes hline, rows_ofJsonLines_line hframes hline',
      List.set_append_right _ _ (Nat.le_refl _), Nat.sub_self, List.set_cons_zero]
  · intro fields key name v hne
    exact Row.get_ofJson_congr (Json.field?_replaceField_of_ne hne v fields) schema
  · intro fields key v hkey
    obtain ⟨w, hw⟩ := Option.ne_none_iff_exists'.mp hkey
    refine Row.get_ofJson_congr ?_ schema
    simp [Json.field?_replaceField_self, hw, Json.field?]

/-- Two lines, of which the second ends in a carriage return only, and an object
with two keys. -/
theorem ofJsonLines_isolates_ids :
    ∃ schema : Schema, schema = ⟨[⟨"id", .integer, true⟩, ⟨"day", .date, true⟩]⟩ ∧
      (ofJsonLines schema "[]\r\n \r").rows = [rowOfLine schema ['[', ']']] ∧
      (ofJsonLines schema ("1\n" ++ "nope " ++ "\r\n{}")).rows =
        (ofJsonLines schema ("1\n" ++ "[]" ++ "\r\n{}")).rows.set 1 (rowOf schema "nope ") ∧
      (Row.ofJson schema (.object [("day", .string "soon"), ("id", Json.ofNat 3)])).get "id" =
        (Row.ofJson schema (.object [("day", .null), ("id", Json.ofNat 3)])).get "id" := by
  obtain ⟨schema, hschema⟩ : ∃ schema : Schema,
      schema = ⟨[⟨"id", .integer, true⟩, ⟨"day", .date, true⟩]⟩ := ⟨_, rfl⟩
  obtain ⟨-, -, hlines, hreplaced, hcells, -⟩ := ofJsonLines_isolates schema
  refine ⟨schema, hschema, ?_, ?_, ?_⟩
  · have hlast : Text.EndedLines [' ', '\r'] [[' ', '\r']] := .last (by decide) (by decide)
    exact hlines "[]\r\n \r" [['[', ']'], [' ', '\r']]
      (@Text.EndedLines.returnFeed ['[', ']'] _ _ (by decide) hlast)
  · exact hreplaced "1\n" "\r\n{}" "[]" "nope " ⟨.inr ⟨"1", rfl⟩, .inr ⟨"{}", .inr rfl⟩⟩
      ⟨by decide, by decide⟩ ⟨by decide, by decide⟩
  · exact hcells [("day", .null), ("id", Json.ofNat 3)] "day" "id" (.string "soon") (by decide)

end MemorySource

end RecordAudit
