import RecordAudit.Report.Report

/-!
# What is fed to a hash

A hash takes in single bytes and words of 64 bits.  A text is fed byte by byte, with a
byte at its end that no text holds; a list is fed after its length; of a double the bits
are fed, where both zeros have the same ones, so that equal values feed the same.
-/

namespace RecordAudit

/-- One piece that is fed to a hash. -/
inductive Fed where
  | byte (b : UInt8)
  | word (n : Nat)
deriving Repr, DecidableEq

namespace Fed

/-- What a text feeds. -/
def text (s : String) : List Fed :=
  (s.toList.flatMap String.utf8EncodeChar).map .byte ++ [.byte 0xFF]

/-- What a double feeds. -/
def double (x : Float) : List Fed :=
  [.word (if Double.eq x 0 then 0 else x.toBits.toNat)]

/-- What a double that may be absent feeds. -/
def optional : Option Float → List Fed
  | some x => .byte 1 :: double x
  | none => [.byte 0]

/-- What a truth value feeds. -/
def boolean (b : Bool) : List Fed := [.byte (if b then 1 else 0)]

/-- What a list feeds. -/
def list {α : Type} (f : α → List Fed) (xs : List α) : List Fed :=
  .word xs.length :: xs.flatMap f

end Fed

/-- What a percentile feeds. -/
def Percentile.fed (p : Percentile) : List Fed := Fed.double p.quantile ++ Fed.double p.value

/-- What statistics feed. -/
def ColumnStats.fed (s : ColumnStats Float) : List Fed :=
  Fed.text s.column ++ [.word s.count, .word s.skipped] ++ Fed.optional s.mean ++
    Fed.optional s.variance ++ Fed.optional s.sampleVariance ++ Fed.optional s.least ++
    Fed.optional s.greatest ++ Fed.list Percentile.fed s.percentiles ++ Fed.boolean s.exact

/-- What a violation feeds. -/
def Violation.fed (v : Violation) : List Fed :=
  .word v.recordIndex :: Fed.text v.field ++ [.word v.kind.rank] ++ Fed.text v.message

/-- What an outcome feeds: which of the two it is first. -/
def Outcome.fed (o : Outcome) : List Fed :=
  if o.isValid then [.word 0, .word o.recordIndex]
  else .word 1 :: .word o.recordIndex :: Fed.list Violation.fed o.violations

/-- What a report feeds. -/
def Report.fed (r : Report Float) : List Fed :=
  [.word r.total, .word r.valid, .word r.invalid, .word r.filtered] ++
    Fed.list Outcome.fed r.outcomes ++
    Fed.list (fun (name, s) => Fed.text name ++ s.fed) r.columns

end RecordAudit
