import RecordAudit.Proofs.Json.Structures

/-!
# Objects with further fields at their end

Fields whose keys come after all others stand at the end of an object when its
keys are in order, and so they stand at the end of its text.

* `sortedFields_append` brings the keys into order.
* `compact_append` and `pretty_append` are the texts.  The fields add a separator
  and themselves, in front of what ends the object.
-/

namespace RecordAudit.Json

/-! ## The order of keys -/

/-- A key that comes before some others is put in before them. -/
theorem insertField_append {key : String} {v : Value} {after : List (String × Value)}
    (h : ∀ entry ∈ after, key < entry.1) (before : List (String × Value)) :
    insertField key v (before ++ after) = insertField key v before ++ after := by
  induction before with
  | nil =>
    cases after with
    | nil => rfl
    | cons entry rest => exact if_pos (h entry (.head rest))
  | cons entry rest ih =>
    obtain ⟨k, w⟩ := entry
    rw [List.cons_append, insertField, insertField, ih]
    split
    · rfl
    · split <;> rfl

/-- Keys that come after all others stay behind them. -/
theorem sortedFields_append {before after : List (String × Value)}
    (h : ∀ entry ∈ before, ∀ last ∈ sortedFields after, entry.1 < last.1) :
    sortedFields (before ++ after) = sortedFields before ++ sortedFields after := by
  induction before with
  | nil => rfl
  | cons entry rest ih =>
    obtain ⟨k, v⟩ := entry
    obtain ⟨hfirst, hrest⟩ := List.forall_mem_cons.mp h
    rw [List.cons_append, sortedFields, sortedFields, ih hrest, insertField_append hfirst]

theorem insertField_ne_nil (key : String) (v : Value) (fields : List (String × Value)) :
    insertField key v fields ≠ [] := by
  cases fields with
  | nil => exact List.cons_ne_nil _ _
  | cons entry rest =>
    rw [insertField]
    split
    · exact List.cons_ne_nil _ _
    · split <;> exact List.cons_ne_nil _ _

theorem sortedItems_eq_map (vs : List Value) : sortedItems vs = vs.map sorted := by
  induction vs with
  | nil => rfl
  | cons v rest ih => rw [sortedItems, ih, List.map_cons]

/-! ## The layouts -/

/-- Entries of a list that come after others follow upon a separator. -/
theorem intercalate_map_append {β : Type} (sep : String) (f : β → String) {before after : List β}
    (hbefore : before ≠ []) (hafter : after ≠ []) :
    sep.intercalate ((before ++ after).map f) =
      sep.intercalate (before.map f) ++ (sep ++ sep.intercalate (after.map f)) := by
  rw [List.map_append, String.intercalate_append_of_ne_nil (mt List.map_eq_nil_iff.mp hbefore)
    (mt List.map_eq_nil_iff.mp hafter), String.append_assoc]

theorem prettyFields_eq_map (level : Nat) (fields : List (String × Value)) :
    prettyFields level fields =
      fields.map fun (key, v) => stringText key ++ ": " ++ prettyAt level v := by
  induction fields with
  | nil => rfl
  | cons field fields ih =>
    rw [prettyFields, ih]
    rfl

/-- Fields at the end of an object stand before its brace. -/
theorem compact_append {before after : List (String × Value)} (hbefore : before ≠ [])
    (hafter : after ≠ []) : ∃ text, compact (.object before) = text ++ "\x7d" ∧
      compact (.object (before ++ after)) =
        text ++ ("," ++ ",".intercalate (compactFields after)) ++ "\x7d" := by
  refine ⟨"\x7b" ++ ",".intercalate (compactFields before), by rw [compact], ?_⟩
  rw [compact, Reader.compactFields_eq_entryTexts, Reader.compactFields_eq_entryTexts,
    Reader.compactFields_eq_entryTexts, Reader.entryTexts, Reader.entryTexts, Reader.entryTexts,
    intercalate_map_append _ _ hbefore hafter]
  simp only [String.append_assoc]

theorem pretty_append {before after : List (String × Value)} (hbefore : before ≠ [])
    (hafter : after ≠ []) : ∃ text, pretty (.object before) = text ++ "\n\x7d" ∧
      pretty (.object (before ++ after)) =
        text ++ (",\n" ++ ",\n".intercalate ((prettyFields 1 after).map (indent 1 ++ ·))) ++
          "\n\x7d" := by
  have hspread (fields : List (String × Value)) (hne : fields ≠ []) : pretty (.object fields) =
      "\x7b\n" ++ ",\n".intercalate ((prettyFields 1 fields).map (indent 1 ++ ·)) ++ "\n\x7d" := by
    have hentries : prettyFields 1 fields ≠ [] := by
      rw [prettyFields_eq_map]
      exact mt List.map_eq_nil_iff.mp hne
    rw [pretty, prettyAt, spread, if_neg hentries]
    simp only [String.append_assoc]
    rfl
  refine ⟨_, hspread before hbefore, ?_⟩
  rw [hspread _ (List.append_ne_nil_of_right_ne_nil _ hafter), prettyFields_eq_map,
    prettyFields_eq_map, prettyFields_eq_map, List.map_map, List.map_map, List.map_map,
    intercalate_map_append _ _ hbefore hafter]
  simp only [String.append_assoc]

theorem prettyItems_eq_map (level : Nat) (vs : List Value) :
    prettyItems level vs = vs.map (prettyAt level) := by
  induction vs with
  | nil => rfl
  | cons v rest ih => rw [prettyItems, ih, List.map_cons]

end RecordAudit.Json
