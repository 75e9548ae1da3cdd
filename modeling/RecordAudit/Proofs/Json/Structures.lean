import RecordAudit.Proofs.Json.Texts

/-!
# Lists and structures in JSON

What is written compactly as a list or as an object is read again, if its parts
are.

* `takes_list` is a list, of which each item is read.
* `Layout.takes_object` is a structure.  A key finds its field and puts the value
  into the draft (`Layout.takes_onKey`), one key after the other (`ReadsFields`),
  and in the end nothing may lack.
-/

namespace RecordAudit.Json

/-! ## Texts of lists and objects -/

/-- Texts that each have a comma in front. -/
def afterCommas (texts : List String) : List Char := texts.flatMap fun text => ',' :: text.toList

theorem toList_intercalate_comma (text : String) (texts : List String) :
    (",".intercalate (text :: texts)).toList = text.toList ++ afterCommas texts := by
  induction texts generalizing text with
  | nil => simp [afterCommas]
  | cons next texts ih =>
    rw [String.toList_intercalate, List.map_cons, List.map_cons, List.intercalate_cons_cons,
      ← List.map_cons, ← String.toList_intercalate, ih, List.append_assoc]
    rfl

theorem compactItems_eq_map (vs : List Value) : compactItems vs = vs.map compact := by
  induction vs with
  | nil => rfl
  | cons v vs ih => rw [compactItems, ih, List.map_cons]

theorem toList_compact_array (vs : List Value) :
    (compact (.array vs)).toList = '[' :: (",".intercalate (vs.map compact)).toList ++ [']'] := by
  rw [compact, compactItems_eq_map, String.toList_append, String.toList_append]
  rfl

theorem toList_compact_object (fields : List (String × Value)) :
    (compact (.object fields)).toList =
      '{' :: (",".intercalate (compactFields fields)).toList ++ ['}'] := by
  rw [compact, String.toList_append, String.toList_append]
  rfl

namespace Reader

variable {β σ : Type}

/-- The length of texts with commas allows a step for each of them. -/
theorem length_le_afterCommas (texts : List String) :
    texts.length ≤ (afterCommas texts).length := by
  induction texts with
  | nil => exact Nat.le_refl 0
  | cons text texts ih =>
    rw [afterCommas, List.flatMap_cons, List.length_append, List.length_cons, List.length_cons]
    rw [afterCommas] at ih
    omega

theorem endsNumber_afterCommas (texts : List String) {rest : List Char} (h : EndsNumber rest) :
    EndsNumber (afterCommas texts ++ rest) := by
  cases texts with
  | nil => exact h
  | cons text texts => exact endsNumber_cons (by decide) _

theorem steps_bind (f : Nat → Reader β) (c : Cursor) :
    (steps >>= f) c = f (c.rest.length + 1) c := rfl

theorem enclosed_ok {body : Reader β} {close : Reader Unit} {b : β} {c d e : Cursor}
    (hbody : body c = (.ok b, d)) (hclose : close d = (.ok (), e)) :
    enclosed body close c = (.ok b, e) := by
  simp only [enclosed, hbody, hclose]

/-! ## Lists -/

/-- A text that begins like an item. -/
def StartsItem (text : List Char) : Prop :=
  ∃ c more, text = c :: more ∧ isGap c = false ∧ c ≠ ']'

theorem nextItem_first {text : List Char} (h : StartsItem text) (rest : List Char) (offset : Nat) :
    nextItem true ⟨text ++ rest, offset⟩ = (.ok true, ⟨text ++ rest, offset⟩) := by
  obtain ⟨c, more, rfl, hgap, hend⟩ := h
  rw [List.cons_append, nextItem, next_bind hgap]
  generalize hfirst : some c = first
  split
  · cases hfirst
  · exact absurd (Option.some.inj hfirst) hend
  · rfl

theorem nextItem_comma {text : List Char} (h : StartsItem text) (rest : List Char) (offset : Nat) :
    nextItem false ⟨',' :: (text ++ rest), offset⟩ = (.ok true, ⟨text ++ rest, offset + 1⟩) := by
  obtain ⟨c, more, rfl, hgap, hend⟩ := h
  rw [List.cons_append, nextItem, next_bind (by decide)]
  show (skip 1 >>= _) _ = _
  rw [skip_bind]
  simp only [List.drop_succ_cons, List.drop_zero]
  rw [next_bind hgap]
  generalize hfirst : some c = first
  split
  · exact absurd (Option.some.inj hfirst) hend
  · rfl
  · cases hfirst

/-- The items after the first one. -/
theorem items_afterCommas {item : Reader β} {texts : List String} {bs : List β}
    (h : List.Forall₂ (fun text b => StartsItem text.toList ∧ Takes item text.toList b) texts bs)
    {fuel : Nat} (hfuel : texts.length < fuel) (rest : List Char) (offset : Nat) :
    ∃ offset', items item fuel false ⟨afterCommas texts ++ ']' :: rest, offset⟩ =
      (.ok bs, ⟨']' :: rest, offset'⟩) := by
  induction h generalizing fuel offset with
  | nil =>
    obtain ⟨fuel, rfl⟩ := Nat.exists_eq_succ_of_ne_zero (Nat.ne_of_gt hfuel)
    exact ⟨offset, rfl⟩
  | @cons text b texts bs hfirst _ ih =>
    obtain ⟨hstarts, htakes⟩ := hfirst
    obtain ⟨fuel, rfl⟩ := Nat.exists_eq_succ_of_ne_zero (Nat.ne_of_gt (Nat.zero_lt_of_lt hfuel))
    obtain ⟨offset', hitem⟩ := htakes (afterCommas texts ++ ']' :: rest) (offset + 1)
      (endsNumber_afterCommas texts (endsNumber_cons (by decide) rest))
    obtain ⟨offset'', hrest⟩ := ih (Nat.lt_of_succ_lt_succ hfuel) offset'
    refine ⟨offset'', ?_⟩
    have hnext := nextItem_comma hstarts (afterCommas texts ++ ']' :: rest) offset
    rw [afterCommas, List.flatMap_cons, ← afterCommas, List.append_assoc, List.cons_append, items,
      bind_ok hnext, if_pos rfl, bind_ok hitem, bind_ok hrest]
    rfl

/-- A list is read if its items are. -/
theorem takes_list {item : Reader β} {vs : List Value} {bs : List β}
    (h : List.Forall₂
      (fun v b => StartsItem (compact v).toList ∧ Takes item (compact v).toList b) vs bs) :
    Takes (list item) (compact (.array vs)).toList bs := by
  have hitems : List.Forall₂ (fun text b => StartsItem text.toList ∧ Takes item text.toList b)
      (vs.map compact) bs := List.forall₂_map_left_iff.mpr h
  rw [toList_compact_array]
  generalize vs.map compact = texts at hitems
  apply Takes.settle
  intro rest offset _
  rw [List.cons_append, List.cons_append, List.append_assoc, List.singleton_append]
  obtain ⟨offset', hbody⟩ : ∃ offset', (do items item (← steps) true : Reader (List β))
      ⟨(",".intercalate texts).toList ++ ']' :: rest, offset + 1⟩ =
        (.ok bs, ⟨']' :: rest, offset'⟩) := by
    cases hitems with
    | nil => exact ⟨offset + 1, rfl⟩
    | @cons text b texts bs hfirst hmore =>
      obtain ⟨hstarts, htakes⟩ := hfirst
      obtain ⟨offset', hitem⟩ := htakes (afterCommas texts ++ ']' :: rest) (offset + 1)
        (endsNumber_afterCommas texts (endsNumber_cons (by decide) rest))
      have hnext := nextItem_first hstarts (afterCommas texts ++ ']' :: rest) (offset + 1)
      have hfuel : texts.length <
          (text.toList ++ (afterCommas texts ++ ']' :: rest)).length := by
        have := length_le_afterCommas texts
        simp only [List.length_append, List.length_cons]
        omega
      obtain ⟨offset'', hrest⟩ := items_afterCommas hmore hfuel rest offset'
      refine ⟨offset'', ?_⟩
      rw [toList_intercalate_comma, List.append_assoc, steps_bind, items, bind_ok hnext, if_pos rfl,
        bind_ok hitem]
      exact bind_ok hrest _
  exact ⟨_, enclosed_ok hbody rfl⟩

/-! ## Structures -/

/-- The text of a key with its value. -/
def entryText (key : String) (v : Value) : String := stringText key ++ ":" ++ compact v

/-- The keys of an object are read one after the other, and turn one draft into another. -/
inductive ReadsFields (onKey : String → σ → Reader σ) : σ → List (String × Value) → σ → Prop
  | nil (draft : σ) : ReadsFields onKey draft [] draft
  | cons {draft next last : σ} {key : String} {v : Value} {fields : List (String × Value)}
      (hkey : Takes (onKey key draft) (':' :: (compact v).toList) next)
      (hrest : ReadsFields onKey next fields last) :
      ReadsFields onKey draft ((key, v) :: fields) last

/-- What stands before a key is passed over, and the key is read. -/
theorem nextKey_eq (first : Bool) (key : String) (rest : List Char) (offset : Nat) :
    ∃ offset', nextKey first
        ⟨(if first then [] else [',']) ++ ((stringText key).toList ++ rest), offset⟩ =
      (.ok (some key), ⟨rest, offset'⟩) := by
  rw [toList_stringText, List.cons_append, List.cons_append, List.append_assoc,
    List.singleton_append]
  cases first with
  | true =>
    obtain ⟨offset', hstring⟩ := string_eq key rest (offset + 1)
    exact ⟨offset', bind_ok hstring _⟩
  | false =>
    obtain ⟨offset', hstring⟩ := string_eq key rest (offset + 1 + 1)
    exact ⟨offset', bind_ok hstring _⟩

/-- A key with its value is one step. -/
theorem keys_entry {onKey : String → σ → Reader σ} {draft next : σ} {key : String} {v : Value}
    (h : Takes (onKey key draft) (':' :: (compact v).toList) next) (fuel : Nat) (first : Bool)
    {rest : List Char} (hrest : EndsNumber rest) (offset : Nat) :
    ∃ offset', keys onKey (fuel + 1) first draft
        ⟨(if first then [] else [',']) ++ ((entryText key v).toList ++ rest), offset⟩ =
      keys onKey fuel false next ⟨rest, offset'⟩ := by
  have htext : (entryText key v).toList ++ rest =
      (stringText key).toList ++ (':' :: (compact v).toList ++ rest) := by
    rw [entryText, String.toList_append, String.toList_append, List.append_assoc, List.append_assoc]
    rfl
  obtain ⟨offset', hkey⟩ := nextKey_eq first key (':' :: (compact v).toList ++ rest) offset
  obtain ⟨offset'', hvalue⟩ := h rest offset' hrest
  refine ⟨offset'', ?_⟩
  rw [htext, keys, bind_ok hkey]
  exact bind_ok hvalue _

/-- The texts of keys with their values. -/
def entryTexts (fields : List (String × Value)) : List String :=
  fields.map fun (key, v) => entryText key v

theorem compactFields_eq_entryTexts (fields : List (String × Value)) :
    compactFields fields = entryTexts fields := by
  induction fields with
  | nil => rfl
  | cons field fields ih =>
    rw [compactFields, ih]
    rfl

/-- The keys after the first one. -/
theorem keys_afterCommas {onKey : String → σ → Reader σ} {draft last : σ}
    {fields : List (String × Value)} (h : ReadsFields onKey draft fields last) {fuel : Nat}
    (hfuel : fields.length < fuel) (rest : List Char) (offset : Nat) :
    ∃ offset', keys onKey fuel false draft
        ⟨afterCommas (entryTexts fields) ++ '}' :: rest, offset⟩ =
      (.ok last, ⟨'}' :: rest, offset'⟩) := by
  induction h generalizing fuel offset with
  | nil draft =>
    obtain ⟨fuel, rfl⟩ := Nat.exists_eq_succ_of_ne_zero (Nat.ne_of_gt hfuel)
    exact ⟨offset, rfl⟩
  | @cons draft next last key v fields hkey _ ih =>
    obtain ⟨fuel, rfl⟩ := Nat.exists_eq_succ_of_ne_zero (Nat.ne_of_gt (Nat.zero_lt_of_lt hfuel))
    obtain ⟨offset', hentry⟩ := keys_entry hkey fuel false
      (endsNumber_afterCommas (entryTexts fields) (endsNumber_cons (c := '}') (by decide) rest))
      offset
    obtain ⟨offset'', hrest⟩ := ih (Nat.lt_of_succ_lt_succ hfuel) offset'
    refine ⟨offset'', ?_⟩
    rw [entryTexts, List.map_cons, afterCommas, List.flatMap_cons, List.append_assoc]
    exact hentry.trans hrest

namespace Layout

theorem complete_ok {draft : σ} {fields : List (Field σ)}
    (h : ∀ f ∈ fields, f.isSet draft = true ∨ f.mayLack = true) (c : Cursor) :
    complete draft fields c = (.ok (), c) := by
  induction fields with
  | nil => rfl
  | cons f fields ih =>
    rw [complete, if_pos (h f (.head _))]
    exact ih fun g hg => h g (.tail f hg)

/-- A key finds its field, which reads the value after the colon. -/
theorem takes_onKey {l : Layout σ} {f : Field σ} {key : String} {draft next : σ} {text : List Char}
    (hfind : l.fields.find? (·.name = key) = some f) (hunset : f.isSet draft = false)
    (hread : Takes (f.read draft) text next) : Takes (l.onKey key draft) (':' :: text) next := by
  intro rest offset hrest
  obtain ⟨offset', hvalue⟩ := hread rest (offset + 1) hrest
  refine ⟨offset', ?_⟩
  rw [onKey]
  simp only [hfind, hunset, Bool.false_eq_true, if_false]
  exact hvalue

/-- The keys of an object, from its first one to its brace. -/
theorem keys_object {onKey : String → σ → Reader σ} {empty last : σ}
    {fields : List (String × Value)} (h : ReadsFields onKey empty fields last) (rest : List Char)
    (offset : Nat) :
    ∃ offset', (do keys onKey (← steps) true empty : Reader σ)
        ⟨(",".intercalate (entryTexts fields)).toList ++ '}' :: rest, offset⟩ =
      (.ok last, ⟨'}' :: rest, offset'⟩) := by
  cases h with
  | nil => exact ⟨offset, rfl⟩
  | @cons _ next _ key v fields hkey hmore =>
    obtain ⟨fuel, hfuel⟩ : ∃ fuel, fuel =
      ((entryText key v).toList ++ (afterCommas (entryTexts fields) ++ '}' :: rest)).length :=
      ⟨_, rfl⟩
    have hsteps : fields.length < fuel := by
      have hle := length_le_afterCommas (entryTexts fields)
      rw [entryTexts, List.length_map, ← entryTexts] at hle
      rw [hfuel, List.length_append, List.length_append, List.length_cons]
      omega
    obtain ⟨offset', hentry⟩ := keys_entry hkey fuel true
      (endsNumber_afterCommas (entryTexts fields) (endsNumber_cons (c := '}') (by decide) rest))
      offset
    obtain ⟨offset'', hrest⟩ := keys_afterCommas hmore hsteps rest offset'
    refine ⟨offset'', ?_⟩
    rw [entryTexts, List.map_cons, ← entryTexts, toList_intercalate_comma, List.append_assoc,
      steps_bind, ← hfuel]
    exact hentry.trans hrest

/-- A structure is read from an object that has all its fields. -/
theorem takes_object {l : Layout σ} {empty last : σ} {fields : List (String × Value)}
    (h : ReadsFields l.onKey empty fields last)
    (hcomplete : ∀ f ∈ l.fields, f.isSet last = true ∨ f.mayLack = true) :
    Takes (l.read empty) (compact (.object fields)).toList last := by
  rw [toList_compact_object, compactFields_eq_entryTexts]
  apply Takes.settle
  intro rest offset _
  rw [List.cons_append, List.cons_append, List.append_assoc, List.singleton_append]
  obtain ⟨offset', hkeys⟩ := keys_object h rest (offset + 1)
  have hbody : l.fromObject empty
      ⟨(",".intercalate (entryTexts fields)).toList ++ '}' :: rest, offset + 1⟩ =
        (.ok last, ⟨'}' :: rest, offset'⟩) := by
    rw [steps_bind] at hkeys
    rw [fromObject, steps_bind, bind_ok hkeys, bind_ok (complete_ok hcomplete _)]
    rfl
  exact ⟨_, enclosed_ok hbody rfl⟩

end Layout

end Reader

end RecordAudit.Json
