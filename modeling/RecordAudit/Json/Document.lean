import RecordAudit.Json.Reader

/-!
# Reading JSON: whole texts

A text holds one value with blanks around it.  Lists and objects may stand inside each
other up to a fixed depth.  What is wrong with a text is told with the line and the
column, both counted from one line break to the next in bytes.
-/

namespace RecordAudit.Json

/-- A problem at a line and column of a text. -/
structure Misread where
  problem : Problem
  line : Nat
  column : Nat

/-- The wording of a problem with its place. -/
def Misread.message (m : Misread) : String :=
  m.problem.text ++ " at line " ++ toString m.line ++ " column " ++ toString m.column

/-- The line and column of a place that lies so many bytes on. -/
def locate : List Char → Nat → Nat × Nat → Nat × Nat
  | [], _, place => place
  | c :: rest, bytes, (line, column) =>
    if bytes < c.utf8Size then (line, column + bytes)
    else if c = '\n' then locate rest (bytes - 1) (line + 1, 0)
    else locate rest (bytes - c.utf8Size) (line, column + c.utf8Size)

namespace Reader

/-- Reads the end of the text. -/
def finish : Reader Unit := do
  match ← next with
  | none => return ()
  | some _ => failNext .trailingCharacters

/-- Reads a whole text. -/
def run {α : Type} (r : Reader α) (text : String) : Except Misread α :=
  let whole : Reader α := do
    let a ← settle r
    finish
    return a
  match whole ⟨text.toList, 0⟩ with
  | (.ok a, _) => .ok a
  | (.error f, c) =>
    let (line, column) := locate text.toList (f.place.getD c.offset) (1, 0)
    .error ⟨f.problem, line, column⟩

/-- Reads a value whose lists and objects have their parts read by `inner`; without it they
are too deep. -/
def valueOver (inner : Option (Reader Value)) : Reader Value := do
  match ← next with
  | none => failNext .endInValue
  | some c =>
    match c with
    | 'n' => do skip 1; word "ull".toList; return .null
    | 't' => do skip 1; word "rue".toList; return .boolean true
    | 'f' => do skip 1; word "alse".toList; return .boolean false
    | '-' => do skip 1; return .number (← number true)
    | '"' => do skip 1; return .string (← string)
    | '[' =>
      match inner with
      | none => failNext .tooDeep
      | some item => do
        skip 1
        return .array (← enclosed (do items item (← steps) true) closeList)
    | '{' =>
      match inner with
      | none => failNext .tooDeep
      | some item => do
        skip 1
        let entry (key : String) (fields : List (String × Value)) : Reader _ := do
          colon
          return insertField key (← item) fields
        return .object (← enclosed (do keys entry (← steps) true []) closeObject)
    | _ => if c.isDigit then return .number (← number false) else failNext .expectedValue

/-- Reads a value that holds lists and objects up to so many levels. -/
def value : Nat → Reader Value
  | 0 => valueOver none
  | levels + 1 => valueOver (some (value levels))

end Reader

/-- How deep lists and objects may stand inside each other. -/
def maxDepth : Nat := 127

/-- Reads the value that a text holds. -/
def parse (text : String) : Except Misread Value := (Reader.value maxDepth).run text

end RecordAudit.Json
