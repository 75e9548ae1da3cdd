/-!
# White space

The characters with the Unicode property White_Space, trimming by them, and the division
of a text into lines.
-/

namespace RecordAudit.Text

/-- Whether a character is white space by the Unicode property of that name. -/
def isBlank (c : Char) : Bool :=
  let n := c.toNat
  (0x9 ≤ n && n ≤ 0xD) || n == 0x20 || n == 0x85 || n == 0xA0 || n == 0x1680 ||
  (0x2000 ≤ n && n ≤ 0x200A) || n == 0x2028 || n == 0x2029 || n == 0x202F || n == 0x205F ||
  n == 0x3000

/-- The characters without the blanks in front. -/
def trimStart (chars : List Char) : List Char := chars.dropWhile isBlank

/-- The characters without the blanks at the end. -/
def trimEnd (chars : List Char) : List Char := (chars.reverse.dropWhile isBlank).reverse

/-- The characters without the blanks at either end. -/
def trim (chars : List Char) : List Char := trimEnd (trimStart chars)

/-- A string without the blanks at either end. -/
def trimmed (text : String) : String := String.ofList (trim text.toList)

/-- The pieces of a text between line feeds. -/
def lines : List Char → List (List Char)
  | [] => [[]]
  | c :: rest =>
    if c = '\n' then [] :: lines rest
    else
      match lines rest with
      | [] => [[c]]
      | line :: more => (c :: line) :: more

/-- The lines that hold more than blanks, each trimmed; a carriage return before the feed is a
blank. -/
def filledLines (text : List Char) : List (List Char) :=
  ((lines text).map trim).filter (· ≠ [])

/-- Writes every line with a line feed after it. -/
def unlines (ls : List String) : String :=
  String.join (ls.map (· ++ "\n"))

end RecordAudit.Text
