import RecordAudit.Unicode.Newcomer

/-!
# Quoted text

A text that is shown inside a message stands between double quotes.  The quote, the
backslash and the usual control characters have short escapes; a character that would not
show, or that would join the one before it, is written by its code point.
-/

namespace RecordAudit.Text

/-- The digits of a number in lower-case hexadecimal. -/
def hex (n : Nat) : String := String.ofList (Nat.toDigits 16 n)

/-- The code points that no reader could see: controls, formats, private and unassigned ones,
separators other than the plain space, and what a display leaves out. -/
def unseen : CodeSet :=
  ((Unicode.Category.union (Unicode.Category.separators ++ Unicode.Category.others)).union
    (Unicode.Property.members .defaultIgnorableCodePoint)).diff
      (Unicode.newcomers.union (.singleton 0x20))

/-- One character as it stands in a quoted text. -/
def quotedChar (c : Char) : String :=
  match c with
  | '\x00' => "\\0"
  | '\t' => "\\t"
  | '\r' => "\\r"
  | '\n' => "\\n"
  | '\"' => "\\\""
  | '\\' => "\\\\"
  | _ =>
    if c.toNat < 0x7F && 0x20 ≤ c.toNat then String.singleton c
    else if Unicode.graphemeExtend.has c || unseen.has c then "\\u\x7b" ++ hex c.toNat ++ "\x7d"
    else String.singleton c

/-- A text in double quotes. -/
def quoted (text : String) : String :=
  "\"" ++ String.join (text.toList.map quotedChar) ++ "\""

/-- A list of texts in brackets, each quoted. -/
def quotedList (texts : List String) : String :=
  "[" ++ ", ".intercalate (texts.map quoted) ++ "]"

end RecordAudit.Text
