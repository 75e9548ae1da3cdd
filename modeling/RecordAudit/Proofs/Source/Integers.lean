import RecordAudit.Proofs.Json.Integers
import RecordAudit.Proofs.Number.Nearest
import RecordAudit.Proofs.Source.JsonLines
import RecordAudit.Source.Columnar

/-!
# Integers in rows of JSON and in columns

Both kinds of records give an integer that fits 64 bits with a sign, whether it
comes as decimal digits in JSON or out of a column of 64 bits.  Beyond that a
column gives no value, but the row of a JSON object gives the double nearest to
the integer, which may be another number (`exists_json_integer_rounded`).

* `Row.ofNumber_ofInt` and `Row.exists_ofNumber_ofInt` are the two cases of JSON.
* `ColumnarRecord.get_of_holds` is the field of a column.
* `json_columnar_integers` compares the two.
-/

namespace RecordAudit

open Double (StandsFor nearestInt)

/-! ## Rows of JSON -/

namespace Row

/-- An integer that fits 64 bits with a sign is kept. -/
theorem ofNumber_ofInt {n : Int} (h : n < 2 ^ 63) :
    ofNumber (Json.Number.ofInt n) = .integer (Int64.ofInt n) := by
  have hint : (Json.Number.ofInt n).int64? = some (Int64.ofInt n) := by
    rw [Json.Number.ofInt]
    split
    · next hpos =>
      obtain ⟨m, rfl⟩ := Int.eq_ofNat_of_zero_le hpos
      rw [Int.toNat_natCast, Json.Number.int64?, if_pos (by omega)]
      rfl
    · rfl
  rw [ofNumber, hint]

/-- Beyond that an integer becomes the double nearest to it. -/
theorem exists_ofNumber_ofInt {n : Int} (hlow : 2 ^ 63 ≤ n) (hhigh : n < 2 ^ 64) :
    ∃ x, ofNumber (Json.Number.ofInt n) = .float x ∧ StandsFor x (nearestInt n) := by
  have hint : (Json.Number.ofInt n).int64? = none := by
    rw [Json.Number.ofInt, if_pos (by omega), Json.Number.int64?, if_neg (by omega)]
  refine ⟨(Json.Number.ofInt n).toFloat, by rw [ofNumber, hint], ?_⟩
  obtain ⟨m, rfl⟩ := Int.eq_ofNat_of_zero_le (show 0 ≤ n by omega)
  rw [Json.Number.ofInt, if_pos (by omega)]
  exact Double.standsFor_ofInt (n := m) (by omega)

/-- A number is decoded alike in fields of all types. -/
theorem get_ofJson_number {schema : Schema} {name : String} (hname : schema.contains name = true)
    {fields : List (String × Json.Value)} {m : Json.Number}
    (hfield : Json.field? name fields = some (.number m)) :
    (ofJson schema (.object fields)).get name = .ok (ofNumber m) := by
  obtain ⟨i, hi⟩ := Option.isSome_iff_exists.mp hname
  rw [get_ofJson hi, ofJsonField, Schema.name_of_index? hi, hfield]
  rfl

end Row

/-! ## Columns -/

/-- The columns of 64 bits that can store an integer. -/
def ColumnType.Stores (n : Int) : ColumnType → Prop
  | .int64 => -2 ^ 63 ≤ n ∧ n < 2 ^ 63
  | .uint64 => 0 ≤ n ∧ n < 2 ^ 64
  | _ => False

namespace ColumnarRecord

/-- A record has an integer in the column of a name, which is one of 64 bits. -/
def Holds (r : ColumnarRecord) (name : String) (n : Int) : Prop :=
  ∃ i, r.batch.fields.findFinIdx? (·.name == name) = some i ∧
    (r.batch.fields.get i).type.Stores n ∧ r.batch.stored i r.row = some (.integer n)

theorem get_of_holds {r : ColumnarRecord} {name : String} {n : Int} (h : r.Holds name n) :
    r.get name = (StoredValue.integerValue n).mapError fun reason => ⟨name, reason⟩ := by
  obtain ⟨i, hi, htype, hstored⟩ := h
  have hdecode : decodeCell (r.batch.fields.get i).type (r.batch.stored i r.row) =
      StoredValue.integerValue n := by
    rw [hstored]
    cases hcolumn : (r.batch.fields.get i).type with
    | int64 => rfl
    | uint64 => rfl
    | _ => rw [hcolumn] at htype; exact htype.elim
  rw [get, hi]
  simp only [hdecode]
  cases StoredValue.integerValue n <;> rfl

theorem get_of_holds_of_lt {r : ColumnarRecord} {name : String} {n : Int} (h : r.Holds name n)
    (hlow : -2 ^ 63 ≤ n) (hhigh : n < 2 ^ 63) : r.get name = .ok (.integer (Int64.ofInt n)) := by
  have hfits : Int64.minValue.toInt ≤ n ∧ n ≤ Int64.maxValue.toInt := by
    rw [Int64.toInt_minValue, Int64.toInt_maxValue]
    omega
  rw [get_of_holds h, StoredValue.integerValue, if_pos hfits]
  rfl

theorem get_of_holds_of_le {r : ColumnarRecord} {name : String} {n : Int} (h : r.Holds name n)
    (hlow : 2 ^ 63 ≤ n) : r.get name =
      .error ⟨name, "value " ++ toString n ++ " does not fit a signed 64-bit integer"⟩ := by
  have hwide : ¬(Int64.minValue.toInt ≤ n ∧ n ≤ Int64.maxValue.toInt) := by
    rw [Int64.toInt_minValue, Int64.toInt_maxValue]
    omega
  rw [get_of_holds h, StoredValue.integerValue, if_neg hwide]
  rfl

end ColumnarRecord

/-! ## Both kinds of records -/

/-- An integer in JSON and in a column of 64 bits.  The records agree if and
only if it fits 64 bits with a sign, and both give it then.  Beyond that the
column cannot be read, and the row gives the nearest double. -/
theorem json_columnar_integers {n : Int} (hlow : -2 ^ 63 ≤ n) (hhigh : n < 2 ^ 64) :
    ∃ v, Json.parse (toString n) = .ok v ∧
      ∀ (schema : Schema) (name : String) (fields : List (String × Json.Value))
        (r : ColumnarRecord), schema.contains name = true → Json.field? name fields = some v →
        r.Holds name n →
        ((Row.ofJson schema (.object fields)).get name = r.get name ↔ n < 2 ^ 63) ∧
        (n < 2 ^ 63 → r.get name = .ok (.integer (Int64.ofInt n)) ∧ (Int64.ofInt n).toInt = n) ∧
        (2 ^ 63 ≤ n →
          (∃ x, (Row.ofJson schema (.object fields)).get name = .ok (.float x) ∧
            StandsFor x (nearestInt n)) ∧
          r.get name = .error ⟨name, "value " ++ toString n ++
            " does not fit a signed 64-bit integer"⟩) := by
  refine ⟨_, Json.parse_toString hlow hhigh, fun schema name fields r hname hfield hr => ?_⟩
  rw [Row.get_ofJson_number hname hfield]
  rcases Int.lt_or_le n (2 ^ 63) with hlt | hle
  · have hcolumn := ColumnarRecord.get_of_holds_of_lt hr hlow hlt
    have hkept : (Int64.ofInt n).toInt = n := Int64.toInt_ofInt_of_le hlow hlt
    rw [Row.ofNumber_ofInt hlt, hcolumn]
    exact ⟨iff_of_true rfl hlt, fun _ => ⟨rfl, hkept⟩, fun hle => absurd hlt (Int.not_lt.mpr hle)⟩
  · obtain ⟨x, hx, hnearest⟩ := Row.exists_ofNumber_ofInt hle hhigh
    have hcolumn := ColumnarRecord.get_of_holds_of_le hr hle
    have hnot : ¬n < 2 ^ 63 := Int.not_lt.mpr hle
    rw [hx, hcolumn]
    exact ⟨iff_of_false (by simp) hnot, fun hlt => absurd hlt hnot,
      fun _ => ⟨⟨x, rfl, hnearest⟩, rfl⟩⟩

/-- A record of one column with an integer of 64 bits without a sign. -/
def ColumnarRecord.single (name : String) (n : Nat) : ColumnarRecord :=
  ⟨⟨[⟨name, .uint64, false⟩], 1, [#[some (.integer n)]], rfl, by simp⟩, ⟨0, Nat.one_pos⟩⟩

theorem ColumnarRecord.holds_single (name : String) {n : Nat} (hn : n < 2 ^ 64) :
    (single name n).Holds name n := by
  refine ⟨⟨0, Nat.one_pos⟩, ?_, ⟨by omega, by omega⟩, rfl⟩
  simp [single]

/-- The greatest integer of 64 bits with a sign, in a field of dates. -/
theorem json_columnar_integers_greatest :
    ∃ v, Json.parse "9223372036854775807" = .ok v ∧
      (Row.ofJson ⟨[⟨"id", .date, true⟩]⟩ (.object [("id", v)])).get "id" =
        .ok (.integer Int64.maxValue) ∧
      (ColumnarRecord.single "id" 9223372036854775807).get "id" =
        .ok (.integer Int64.maxValue) := by
  have htext : toString (9223372036854775807 : Int) = "9223372036854775807" := by decide +kernel
  obtain ⟨v, hv, hagree⟩ := @json_columnar_integers 9223372036854775807 (by decide) (by decide)
  have hholds := ColumnarRecord.holds_single "id" (n := 9223372036854775807) (by decide)
  obtain ⟨hiff, hlt, -⟩ := hagree ⟨[⟨"id", .date, true⟩]⟩ "id" [("id", v)] _ (by decide)
    (by simp [Json.field?]) hholds
  have hcolumn := (hlt (by decide)).1
  exact ⟨v, htext ▸ hv, (hiff.mpr (by decide)).trans hcolumn, hcolumn⟩

/-- The greatest integer of 64 bits without a sign is one more in a row of JSON,
and cannot be read from a column. -/
theorem exists_json_integer_rounded :
    ∃ (row : Row) (x : Float),
      (MemorySource.ofJsonLines ⟨[⟨"id", .integer, true⟩]⟩
        "\x7b\"id\": 18446744073709551615\x7d").rows = [row] ∧
      row.get "id" = .ok (.float x) ∧ Double.toRat x = 18446744073709551616 ∧
      (ColumnarRecord.single "id" 18446744073709551615).get "id" =
        .error ⟨"id", "value 18446744073709551615 does not fit a signed 64-bit integer"⟩ := by
  have hparse : Json.parse "\x7b\"id\": 18446744073709551615\x7d" =
      .ok (.object [("id", .number (Json.Number.ofInt 18446744073709551615))]) := by rfl
  have hline : MemorySource.IsFilledLine "\x7b\"id\": 18446744073709551615\x7d" :=
    ⟨by decide, by decide⟩
  have hrow : MemorySource.rowOf ⟨[⟨"id", .integer, true⟩]⟩
      "\x7b\"id\": 18446744073709551615\x7d" = Row.ofJson ⟨[⟨"id", .integer, true⟩]⟩
        (.object [("id", .number (Json.Number.ofInt 18446744073709551615))]) := by
    have htrim : String.ofList (Text.trim "\x7b\"id\": 18446744073709551615\x7d".toList) =
      "\x7b\"id\": 18446744073709551615\x7d" := by decide
    rw [MemorySource.rowOf, MemorySource.rowOfLine, htrim, hparse]
  obtain ⟨x, hx, hnearest⟩ :=
    @Row.exists_ofNumber_ofInt 18446744073709551615 (by decide) (by decide)
  have hholds := ColumnarRecord.holds_single "id" (n := 18446744073709551615) (by decide)
  refine ⟨_, x, (hline.rows_ofJsonLines _).trans (by rw [hrow]), ?_, ?_, ?_⟩
  · rw [Row.get_ofJson_number (by decide) (by rfl), hx]
  · have hrounded : nearestInt 18446744073709551615 = 18446744073709551616 := by decide +kernel
    rw [hnearest.toRat, hrounded]
    rfl
  · have htext : toString ((18446744073709551615 : Nat) : Int) = "18446744073709551615" := by
      decide +kernel
    rw [ColumnarRecord.get_of_holds_of_le hholds (by decide), htext]
    rfl

end RecordAudit
