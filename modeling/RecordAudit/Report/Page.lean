import RecordAudit.Error
import RecordAudit.Report.Report

/-!
# Pages

A page is a run of outcomes of a report: pages have one size and are numbered from zero.
Where the first place of a page is too great for 64 bits it is the greatest such number,
beyond which no report has outcomes.
-/

namespace RecordAudit

/-- A page of a report. -/
structure Page where
  number : UInt64
  size : UInt64
  positive : 0 < size

namespace Page

/-- The page with a number and a size, which must not be zero. -/
def new (number size : UInt64) : Except ConfigurationFault Page :=
  if h : 0 < size then .ok ⟨number, size, h⟩ else .error .zeroPageSize

/-- The place of the first outcome on a page. -/
def start (p : Page) : UInt64 :=
  if p.number.toNat * p.size.toNat < UInt64.size then p.number * p.size else 0 - 1

open Json

/-- The request for a page as JSON. -/
def toJson (p : Page) : Value :=
  .object [("number", Json.ofNat p.number.toNat), ("size", Json.ofNat p.size.toNat)]

end Page

/-- The outcomes on a page. -/
structure PageContent where
  content : List Outcome
  number : UInt64
  /-- How many outcomes the whole report has. -/
  total : Nat

namespace PageContent

open Json

/-- The outcomes on a page as JSON. -/
def toJson (c : PageContent) : Value :=
  .object [("content", Json.ofList Outcome.toJson c.content),
    ("number", Json.ofNat c.number.toNat), ("total", Json.ofNat c.total)]

end PageContent

/-- The outcomes on a page of a report. -/
def Report.page {α : Type} (r : Report α) (p : Page) : PageContent :=
  ⟨(r.outcomes.drop p.start.toNat).take p.size.toNat, p.number, r.total⟩

end RecordAudit
