import RecordAudit.Unicode.Age
import RecordAudit.Unicode.CaseFold
import RecordAudit.Unicode.Segmentation

/-!
# Classes of characters

The classes that a pattern can call by name: those of one letter, those of ASCII, and those
of Unicode, whose names are compared without regard to case, blanks, hyphens and
underscores.  A class of Unicode is a property, a category or a script, or the code points
for which one of some characteristics has a value.
-/

namespace RecordAudit.Pattern

/-- The set of some ranges of characters. -/
def rangesOf (ranges : List (Char × Char)) : CodeSet :=
  .ofRanges (ranges.map fun (a, b) => (a.toNat, b.toNat))

/-- The characters of ASCII. -/
def ascii : CodeSet := ⟨[(0, 127)]⟩

/-- Whether a set lies within ASCII. -/
def isAscii (s : CodeSet) : Bool := s.ranges.all fun (_, hi) => hi ≤ 127

/-- The decimal digits. -/
def digits (unicode : Bool) : CodeSet :=
  if unicode then Unicode.Category.members .decimalNumber else rangesOf [('0', '9')]

/-- White space. -/
def spaces (unicode : Bool) : CodeSet :=
  if unicode then Unicode.Listed.members .whiteSpace else rangesOf [('\t', '\r'), (' ', ' ')]

/-- The characters of words: letters, marks, decimal digits, connectors and the two joiners. -/
def unicodeWord : CodeSet :=
  (Unicode.Property.members .alphabetic).union
    ((Unicode.Category.union
        (.decimalNumber :: .connectorPunctuation :: Unicode.Category.marks)).union
      (Unicode.Listed.members .joinControl))

/-- The characters of words. -/
def wordSet (unicode : Bool) : CodeSet :=
  if unicode then unicodeWord else rangesOf [('0', '9'), ('A', 'Z'), ('_', '_'), ('a', 'z')]

/-- The classes of ASCII by their names. -/
def asciiClasses : List (String × List (Char × Char)) := [
  ("alnum", [('0', '9'), ('A', 'Z'), ('a', 'z')]),
  ("alpha", [('A', 'Z'), ('a', 'z')]),
  ("ascii", [('\x00', '\x7F')]),
  ("blank", [('\t', '\t'), (' ', ' ')]),
  ("cntrl", [('\x00', '\x1F'), ('\x7F', '\x7F')]),
  ("digit", [('0', '9')]),
  ("graph", [('!', '~')]),
  ("lower", [('a', 'z')]),
  ("print", [(' ', '~')]),
  ("punct", [('!', '/'), (':', '@'), ('[', '\x60'), ('\x7B', '~')]),
  ("space", [('\t', '\r'), (' ', ' ')]),
  ("upper", [('A', 'Z')]),
  ("word", [('0', '9'), ('A', 'Z'), ('_', '_'), ('a', 'z')]),
  ("xdigit", [('0', '9'), ('A', 'F'), ('a', 'f')])]

/-- The class of ASCII with a name. -/
def asciiClass? (name : String) : Option CodeSet :=
  (asciiClasses.find? (·.1 = name)).map fun (_, ranges) => rangesOf ranges

/-! ## Names of Unicode -/

/-- A name without what does not count in a comparison, and without the word "is" in front. -/
def looseName (name : List Char) : String :=
  let lower (cs : List Char) : List Char :=
    (cs.filter fun c => c.toNat ≤ 127 && c != ' ' && c != '_' && c != '-').map Char.toLower
  match name with
  | 'i' :: 's' :: rest | 'I' :: 's' :: rest | 'i' :: 'S' :: rest | 'I' :: 'S' :: rest =>
    if lower rest = ['c'] then "isc" else String.ofList (lower rest)
  | _ => String.ofList (lower name)

/-- Whether one of some names is the wanted one, which is loose already. -/
def answersTo (names : List String) (wanted : String) : Bool :=
  names.any fun n => looseName n.toList == wanted

/-- What a list has under a name. -/
def lookup? {α : Type} (entries : List (List String × α)) (wanted : String) : Option α :=
  (entries.find? fun (names, _) => answersTo names wanted).map (·.2)

/-- The category or group of categories with a name. -/
def category? (wanted : String) : Option CodeSet :=
  if wanted = "any" then some .all
  else if wanted = "ascii" then some ascii
  else if wanted = "assigned" then some (Unicode.Category.members .unassigned).complement
  else (lookup? Unicode.Category.named wanted).map Unicode.Category.union

/-- The script with a name. -/
def script? (wanted : String) : Option Unicode.Script :=
  Unicode.Script.all.find? fun s => answersTo s.names wanted

/-- The property with a name. -/
def property? (wanted : String) : Option CodeSet :=
  (lookup? Unicode.Property.named wanted).map Unicode.Property.members

/-- The code points that a version has: those that it or an older one assigned. -/
def age? (wanted : String) : Option CodeSet :=
  let older := Unicode.Version.all.takeWhile fun v => !answersTo v.names wanted
  (Unicode.Version.all[older.length]?).map fun v => Unicode.Version.members (v :: older)

/-- The class with a single name: a property, a category or a script. -/
def namedClass? (name : List Char) : Option CodeSet :=
  let wanted := looseName name
  (property? wanted).or ((category? wanted).or ((script? wanted).map (·.members)))

/-- A characteristic of code points that has one of several values. -/
inductive Characteristic where
  | category
  | script
  | scriptExtension
  | age
  | graphemeBreak
  | wordBreak
  | sentenceBreak

/-- Every characteristic with its names. -/
def Characteristic.named : List (List String × Characteristic) := [
  (["gc", "General_Category"], .category),
  (["sc", "Script"], .script),
  (["scx", "Script_Extensions"], .scriptExtension),
  (["Age"], .age),
  (["GCB", "Grapheme_Cluster_Break"], .graphemeBreak),
  (["WB", "Word_Break"], .wordBreak),
  (["SB", "Sentence_Break"], .sentenceBreak)]

/-- The code points for which a characteristic has the value with a name. -/
def Characteristic.members? (wanted : String) : Characteristic → Option CodeSet
  | category => category? wanted
  | script => (script? wanted).map (·.members)
  | scriptExtension => (script? wanted).map (·.extendedMembers)
  | age => age? wanted
  | graphemeBreak =>
    (lookup? Unicode.GraphemeBreak.named wanted).map Unicode.GraphemeBreak.members
  | wordBreak => (lookup? Unicode.WordBreak.named wanted).map Unicode.WordBreak.members
  | sentenceBreak =>
    (lookup? Unicode.SentenceBreak.named wanted).map Unicode.SentenceBreak.members

/-- The class of the characters for which a characteristic has a value. -/
def valuedClass? (name value : List Char) : Option CodeSet :=
  (lookup? Characteristic.named (looseName name)).bind (·.members? (looseName value))

/-- The set with the other case of each of its members; outside Unicode only letters of ASCII have
another case. -/
def anyCase (unicode : Bool) (s : CodeSet) : CodeSet :=
  if unicode then Unicode.caseClosure s
  else
    let shifted (first last : Nat) (shift : Int) : List (Nat × Nat) :=
      (List.range (last + 1 - first)).filterMap fun i =>
        if s.mem (first + i) then
          let n := ((first + i : Nat) + shift).toNat
          some (n, n)
        else none
    .ofRanges (s.ranges ++ shifted 65 90 32 ++ shifted 97 122 (-32))

end RecordAudit.Pattern
