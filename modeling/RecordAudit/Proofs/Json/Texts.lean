import Mathlib.Algebra.Order.BigOperators.Group.List
import Mathlib.Algebra.Order.Ring.Nat
import RecordAudit.Json.Decoding
import RecordAudit.Proofs.Json.Integers

/-!
# What is written is read again

A reader that stands before a text takes it off, whatever follows, as long as
that could not go on with a number (`Reader.Takes`).

* `takes_text`, `takes_natural64` and `takes_boolean` are the scalars without a
  fraction.  For strings it comes down to one character (`characters_escapedChar`),
  which stands for itself or is read after a backslash (`escapedChar_cases`).
* `takes_optional` is a value that may be null.
-/

namespace RecordAudit.Json.Reader

/-! ## Taking a text off -/

/-- A reader takes a text off and gives a value. -/
def Takes {β : Type} (r : Reader β) (text : List Char) (b : β) : Prop :=
  ∀ rest offset, EndsNumber rest → ∃ offset', r ⟨text ++ rest, offset⟩ = (.ok b, ⟨rest, offset'⟩)

/-- The characters that may follow a value. -/
theorem endsNumber_cons {c : Char} (h : c ∈ [',', ']', '}']) (rest : List Char) :
    EndsNumber (c :: rest) := by
  simp only [List.mem_cons, List.not_mem_nil, or_false] at h
  rcases h with rfl | rfl | rfl <;>
    exact ⟨by simp, by simp, by simp, by simp⟩

theorem endsNumber_nil : EndsNumber [] := ⟨by simp, by simp, by simp, by simp⟩

variable {β γ : Type}

namespace Takes

variable {r : Reader β} {text : List Char} {b : β}

theorem map (hr : Takes r text b) (f : β → γ) : Takes (do return f (← r)) text (f b) := by
  intro rest offset hrest
  obtain ⟨offset', hfirst⟩ := hr rest offset hrest
  exact ⟨offset', bind_ok hfirst _⟩

theorem settle (hr : Takes r text b) : Takes (settle r) text b := by
  intro rest offset hrest
  obtain ⟨offset', hfirst⟩ := hr rest offset hrest
  exact ⟨offset', settle_ok hfirst⟩

/-- A scalar that has a value of the wanted type. -/
theorem decoded {expected : String} {s : Scalar} {f : Scalar → Except Problem β}
    (hs : Takes (scalar expected) text s) (hf : f s = .ok b) :
    Takes (Reader.decoded expected f) text b := by
  apply settle
  intro rest offset hrest
  obtain ⟨offset', hscalar⟩ := hs rest offset hrest
  refine ⟨offset', ?_⟩
  rw [bind_ok hscalar, hf]
  rfl

/-- A whole text. -/
theorem run {text : String} (hr : Takes r text.toList b) : r.run text = .ok b := by
  obtain ⟨offset', hwhole⟩ := hr [] 0 endsNumber_nil
  rw [List.append_nil] at hwhole
  exact run_ok hwhole

end Takes

/-! ## Strings -/

theorem hexUnit_eq {a b c d : Char} {w x y z : Nat} (ha : hexDigit? a = some w)
    (hb : hexDigit? b = some x) (hc : hexDigit? c = some y) (hd : hexDigit? d = some z)
    (rest : List Char) (offset : Nat) :
    ∃ offset', hexUnit ⟨a :: b :: c :: d :: rest, offset⟩ =
      (.ok (((w * 16 + x) * 16 + y) * 16 + z), ⟨rest, offset'⟩) := by
  have hbytes : ¬Text.byteLength [a, b, c, d] < 4 := by
    have ha := a.utf8Size_pos
    have hb := b.utf8Size_pos
    have hc := c.utf8Size_pos
    have hd := d.utf8Size_pos
    simp only [Text.byteLength]
    omega
  have hunits : [a, b, c, d].mapM hexDigit? = some [w, x, y, z] := by simp [ha, hb, hc, hd]
  refine ⟨offset + Text.byteLength [a, b, c, d], ?_⟩
  rw [hexUnit, remaining_bind]
  refine (congrFun (if_neg hbytes) _).trans ?_
  simp only [List.take_succ_cons, List.take_zero, hunits]
  rfl

/-- The digits that stand for a control character. -/
theorem controlDigits : ∀ n < 32,
    List.replicate (4 - (Nat.toDigits 16 n).length) '0' ++ Nat.toDigits 16 n =
        ['0', '0', (n / 16).digitChar, (n % 16).digitChar] ∧
      hexDigit? (n / 16).digitChar = some (n / 16) ∧
      hexDigit? (n % 16).digitChar = some (n % 16) := by
  decide

theorem unicodeEscape_control {c : Char} (hcontrol : c.toNat < 0x20) (rest : List Char)
    (offset : Nat) :
    ∃ offset', unicodeEscape
        ⟨'0' :: '0' :: (c.toNat / 16).digitChar :: (c.toNat % 16).digitChar :: rest, offset⟩ =
      (.ok c, ⟨rest, offset'⟩) := by
  obtain ⟨-, hhigh, hlow⟩ := controlDigits c.toNat hcontrol
  have hzero : hexDigit? '0' = some 0 := by decide
  obtain ⟨offset', hunit⟩ := hexUnit_eq hzero hzero hhigh hlow rest offset
  have hvalue : ((0 * 16 + 0) * 16 + c.toNat / 16) * 16 + c.toNat % 16 = c.toNat := by omega
  have hlone : ¬(0xDC00 ≤ c.toNat ∧ c.toNat ≤ 0xDFFF) := by omega
  have hsingle : c.toNat < 0xD800 ∨ 0xDBFF < c.toNat := by omega
  refine ⟨offset', ?_⟩
  rw [unicodeEscape, bind_ok hunit, hvalue, if_neg hlone, if_pos hsingle, Char.ofNat_toNat]
  rfl

/-- A character is written as itself, or after a backslash as something that is read as it. -/
theorem escapedChar_cases (c : Char) :
    (∃ code, (escapedChar c).toList = '\\' :: code ∧ ∀ rest offset, ∃ offset',
      escape ⟨code ++ rest, offset⟩ = (.ok c, ⟨rest, offset'⟩)) ∨
      (escapedChar c).toList = [c] ∧ c ≠ '"' ∧ c ≠ '\\' ∧ ¬c.toNat < 0x20 := by
  by_cases hquote : c = '"'
  · exact .inl ⟨['"'], by rw [hquote]; rfl, fun rest offset => ⟨_, by rw [hquote]; rfl⟩⟩
  by_cases hbackslash : c = '\\'
  · exact .inl ⟨['\\'], by rw [hbackslash]; rfl, fun rest offset => ⟨_, by rw [hbackslash]; rfl⟩⟩
  by_cases hfeed : c = '\n'
  · exact .inl ⟨['n'], by rw [hfeed]; rfl, fun rest offset => ⟨_, by rw [hfeed]; rfl⟩⟩
  by_cases hreturn : c = '\r'
  · exact .inl ⟨['r'], by rw [hreturn]; rfl, fun rest offset => ⟨_, by rw [hreturn]; rfl⟩⟩
  by_cases htab : c = '\t'
  · exact .inl ⟨['t'], by rw [htab]; rfl, fun rest offset => ⟨_, by rw [htab]; rfl⟩⟩
  have hother : escapedChar c = if c.toNat = 8 then "\\b" else if c.toNat = 12 then "\\f"
      else if c.toNat < 0x20 then "\\u" ++ String.ofList
        (List.replicate (4 - (Nat.toDigits 16 c.toNat).length) '0' ++ Nat.toDigits 16 c.toNat)
      else String.singleton c := by
    rw [escapedChar]
    all_goals assumption
  rw [hother]
  by_cases hback : c.toNat = 8
  · obtain rfl : c = '\x08' := Char.toNat_inj.mp hback
    exact .inl ⟨['b'], rfl, fun rest offset => ⟨_, rfl⟩⟩
  by_cases hform : c.toNat = 12
  · obtain rfl : c = '\x0c' := Char.toNat_inj.mp hform
    exact .inl ⟨['f'], rfl, fun rest offset => ⟨_, rfl⟩⟩
  rw [if_neg hback, if_neg hform]
  by_cases hcontrol : c.toNat < 0x20
  · have hdigits := (controlDigits c.toNat hcontrol).1
    rw [if_pos hcontrol, hdigits, String.toList_append, String.toList_ofList, String.toList_ofList]
    refine .inl ⟨['u', '0', '0', (c.toNat / 16).digitChar, (c.toNat % 16).digitChar], rfl,
      fun rest offset => ?_⟩
    obtain ⟨offset', hunit⟩ := unicodeEscape_control hcontrol rest (offset + 1)
    exact ⟨offset', hunit⟩
  · rw [if_neg hcontrol, String.toList_singleton]
    exact .inr ⟨rfl, hquote, hbackslash, hcontrol⟩

theorem length_escapedChar_pos (c : Char) : 0 < (escapedChar c).toList.length := by
  rcases escapedChar_cases c with ⟨code, hcode, -⟩ | ⟨hself, -⟩
  · rw [hcode]
    exact Nat.succ_pos _
  · rw [hself]
    exact Nat.one_pos

/-- A character is read again inside a string, in one step. -/
theorem characters_escapedChar (c : Char) (fuel : Nat) (read rest : List Char) (offset : Nat) :
    ∃ offset', characters (fuel + 1) read ⟨(escapedChar c).toList ++ rest, offset⟩ =
      characters fuel (c :: read) ⟨rest, offset'⟩ := by
  rcases escapedChar_cases c with ⟨code, hcode, hescape⟩ | ⟨hself, hquote, hbackslash, hcontrol⟩
  · obtain ⟨offset', hread⟩ := hescape rest (offset + 1)
    refine ⟨offset', ?_⟩
    rw [hcode, List.cons_append, characters, peek_bind]
    show (escape >>= fun d => characters fuel (d :: read)) ⟨code ++ rest, offset + 1⟩ = _
    rw [bind_ok hread]
  · refine ⟨offset + Text.byteLength [c], ?_⟩
    rw [hself, List.singleton_append, characters, peek_bind]
    simp only [List.head?_cons]
    rw [if_neg hcontrol, skip_bind]
    rfl

theorem characters_escaped (s : List Char) {fuel : Nat} (hfuel : s.length < fuel)
    (read rest : List Char) (offset : Nat) :
    ∃ offset', characters fuel read
        ⟨s.flatMap (fun c => (escapedChar c).toList) ++ '"' :: rest, offset⟩ =
      (.ok (String.ofList (read.reverse ++ s)), ⟨rest, offset'⟩) := by
  induction s generalizing fuel read offset with
  | nil =>
    obtain ⟨fuel, rfl⟩ := Nat.exists_eq_add_of_lt hfuel
    refine ⟨offset + Text.byteLength ['"'], ?_⟩
    rw [List.append_nil]
    rfl
  | cons c s ih =>
    obtain ⟨fuel, rfl⟩ := Nat.exists_eq_succ_of_ne_zero (Nat.ne_of_gt (Nat.zero_lt_of_lt hfuel))
    obtain ⟨offset', hstep⟩ := characters_escapedChar c fuel read
      (s.flatMap (fun c => (escapedChar c).toList) ++ '"' :: rest) offset
    obtain ⟨offset'', hrest⟩ := ih (Nat.lt_of_succ_lt_succ hfuel) (c :: read) offset'
    refine ⟨offset'', ?_⟩
    rw [List.flatMap_cons, List.append_assoc, hstep, hrest, List.reverse_cons, List.append_assoc]
    rfl

theorem toList_stringText (s : String) :
    (stringText s).toList = '"' :: s.toList.flatMap (fun c => (escapedChar c).toList) ++ ['"'] := by
  rw [stringText, String.toList_append, String.toList_append, String.toList_join, List.flatMap_map]
  rfl

/-- A string that has been begun is read to its end. -/
theorem string_eq (s : String) (rest : List Char) (offset : Nat) :
    ∃ offset', string ⟨s.toList.flatMap (fun c => (escapedChar c).toList) ++ '"' :: rest, offset⟩ =
      (.ok s, ⟨rest, offset'⟩) := by
  have hfuel : s.toList.length <
      (s.toList.flatMap (fun c => (escapedChar c).toList) ++ '"' :: rest).length + 1 := by
    have hlength : s.toList.length ≤
        (s.toList.flatMap fun c => (escapedChar c).toList).length := by
      rw [List.length_flatMap]
      refine le_of_eq_of_le (List.length_map _).symm (List.length_le_sum_of_one_le _ ?_)
      exact List.forall_mem_map.mpr fun c _ => length_escapedChar_pos c
    rw [List.length_append]
    omega
  obtain ⟨offset', hread⟩ := characters_escaped s.toList hfuel [] rest offset
  refine ⟨offset', ?_⟩
  rw [List.reverse_nil, List.nil_append, String.ofList_toList] at hread
  rw [string, remaining_bind]
  exact hread

/-! ## Scalars -/

variable {expected : String}

theorem takes_scalar_string (s : String) :
    Takes (scalar expected) (stringText s).toList (.string s) := by
  intro rest offset _
  obtain ⟨offset', hstring⟩ := string_eq s rest (offset + 1)
  refine ⟨offset', ?_⟩
  rw [toList_stringText, List.cons_append, List.cons_append, List.append_assoc,
    List.singleton_append, scalar, next_bind (by decide)]
  exact bind_ok hstring _

theorem takes_scalar_digits {c : Char} (hc : c.isDigit = true) {more : List Char} {n : Number}
    (h : Takes (number false) (c :: more) n) :
    Takes (scalar expected) (c :: more) (.number n) := by
  have hnull : c ≠ 'n' := ne_of_isDigit hc (by decide)
  have htrue : c ≠ 't' := ne_of_isDigit hc (by decide)
  have hfalse : c ≠ 'f' := ne_of_isDigit hc (by decide)
  have hminus : c ≠ '-' := ne_of_isDigit hc (by decide)
  have hquote : c ≠ '"' := ne_of_isDigit hc (by decide)
  have hbracket : c ≠ '[' := ne_of_isDigit hc (by decide)
  have hbrace : c ≠ '{' := ne_of_isDigit hc (by decide)
  intro rest offset hrest
  obtain ⟨offset', hnumber⟩ := h.map Scalar.number rest offset hrest
  refine ⟨offset', ?_⟩
  rw [List.cons_append, scalar, next_bind (isGap_of_isDigit hc)]
  simp only [hc, if_true]
  exact hnumber

theorem takes_scalar_minus {more : List Char} {n : Number} (h : Takes (number true) more n) :
    Takes (scalar expected) ('-' :: more) (.number n) := by
  intro rest offset hrest
  obtain ⟨offset', hnumber⟩ := h.map Scalar.number rest (offset + 1) hrest
  refine ⟨offset', ?_⟩
  rw [List.cons_append, scalar, next_bind (by decide)]
  exact hnumber

theorem takes_scalar_boolean (b : Bool) :
    Takes (scalar expected) (if b then "true" else "false").toList (.boolean b) := by
  intro rest offset _
  cases b with
  | true => exact ⟨_, rfl⟩
  | false => exact ⟨_, rfl⟩

theorem takes_text (s : String) : Takes text (stringText s).toList s :=
  (takes_scalar_string s).decoded rfl

theorem takes_boolean (b : Bool) :
    Takes boolean (if b then "true" else "false").toList b :=
  (takes_scalar_boolean b).decoded rfl

theorem takes_natural64 {n : Nat} (hn : n < UInt64.size) :
    Takes natural64 (toString n).toList n := by
  have htext : (toString n).toList = Nat.toDigits 10 n := Nat.toList_repr
  obtain ⟨c, cs, hcons⟩ := List.exists_cons_of_ne_nil (@Nat.toDigits_ne_nil n 10)
  have hc : c.isDigit = true := isDigit_of_mem_toDigits (n := n) (by simp [hcons])
  have hnumber : Takes (number false) (c :: cs) (.natural n) := by
    intro rest offset hrest
    rw [← hcons]
    exact ⟨_, number_eq hn false hrest offset⟩
  rw [htext, hcons]
  exact (takes_scalar_digits hc hnumber).decoded rfl

/-- Null stands for a value that is absent. -/
theorem takes_optional_null (r : Reader β) : Takes (optional r) "null".toList none := by
  intro rest offset _
  exact ⟨_, rfl⟩

theorem takes_optional {r : Reader β} {c : Char} {more : List Char} {b : β} (hgap : isGap c = false)
    (hnull : c ≠ 'n') (h : Takes r (c :: more) b) : Takes (optional r) (c :: more) (some b) := by
  intro rest offset hrest
  obtain ⟨offset', hvalue⟩ := h.map some rest offset hrest
  refine ⟨offset', ?_⟩
  rw [List.cons_append, optional, next_bind hgap]
  generalize hfirst : some c = first
  split
  · exact absurd (Option.some.inj hfirst) hnull
  · exact hvalue

end RecordAudit.Json.Reader
