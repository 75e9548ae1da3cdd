import RecordAudit.Pattern.Class
import RecordAudit.Pattern.Fault
import RecordAudit.Pattern.Node
import RecordAudit.Text.Blank

/-!
# Reading patterns: single elements

The scanner walks over the characters of a pattern.  It knows the flags in force, of which
one makes blanks and comments count for nothing.  This module reads escapes, numbers and
bracketed classes.
-/

namespace RecordAudit.Pattern

/-- The flags in force. -/
structure Flags where
  anyCase : Bool
  manyLines : Bool
  dotAll : Bool
  unicode : Bool
  spaced : Bool
  anyBreak : Bool
  swapGreed : Bool

/-- The flags at the start of a pattern. -/
def Flags.standard : Flags := ⟨false, false, false, true, false, false, false⟩

/-- What is left to read, the flags in force, the names of groups so far and the number of groups
that note what they match. -/
structure Scan where
  rest : List Char
  flags : Flags
  names : List String
  groups : Nat

/-- A scanner takes its part of a pattern or refuses the pattern. -/
abbrev Scanner (α : Type) := StateT Scan (Except PatternFault) α

namespace Scanner

/-- Refuses the pattern. -/
def malformed {α : Type} : Scanner α := throw .malformed

/-- The characters that are left. -/
def remaining : Scanner (List Char) := do return (← get).rest

/-- The next character. -/
def peek : Scanner (Option Char) := do return (← remaining).head?

/-- Passes over so many characters. -/
def skip (count : Nat) : Scanner Unit := modify fun s => { s with rest := s.rest.drop count }

/-- The characters after blanks and comments; a comment ends with its line. -/
def dropSpaces : Bool → List Char → List Char
  | _, [] => []
  | true, c :: rest => dropSpaces (c ≠ '\n') rest
  | false, c :: rest =>
    if Text.isBlank c then dropSpaces false rest
    else if c = '#' then dropSpaces true rest
    else c :: rest

/-- Passes over blanks and comments, if they count for nothing. -/
def space : Scanner Unit :=
  modify fun s => if s.flags.spaced then { s with rest := dropSpaces false s.rest } else s

/-- Passes over a character and what blanks follow it. -/
def step : Scanner Unit := do
  skip 1
  space

/-- Passes over a character and what blanks follow it; there must be something left. -/
def stepOn : Scanner Unit := do
  step
  if (← remaining).isEmpty then malformed

/-- Passes over a given text, if it is next. -/
def accept (text : List Char) : Scanner Bool := do
  if text.isPrefixOf (← remaining) then
    skip text.length
    return true
  else return false

/-! ## Escapes -/

/-- What one element outside groups and classes stands for. -/
inductive Element where
  /-- A character; `byte` tells whether it was written as two hexadecimal digits. -/
  | literal (c : Char) (byte : Bool)
  | members (s : CodeSet)
  | place (l : Look)

/-- The value of a hexadecimal digit. -/
def hexDigit? (c : Char) : Option Nat :=
  if c.isDigit then some (c.toNat - '0'.toNat)
  else if 'a' ≤ c ∧ c ≤ 'f' then some (c.toNat - 'a'.toNat + 10)
  else if 'A' ≤ c ∧ c ≤ 'F' then some (c.toNat - 'A'.toNat + 10)
  else none

/-- The character with a code point. -/
def characterOf (n : Nat) : Scanner Char := do
  if n < 0xD800 ∨ (0xE000 ≤ n ∧ n ≤ 0x10FFFF) then return Char.ofNat n else malformed

/-- Reads so many hexadecimal digits, and adds them to a value. -/
def hexDigits : Nat → Nat → Scanner Nat
  | 0, n => return n
  | count + 1, n => do
    match (← peek).bind hexDigit? with
    | some d => do
      step
      hexDigits count (16 * n + d)
    | none => malformed

/-- Reads hexadecimal digits up to a closing brace, and adds them to a value. -/
def hexUntilBrace : Nat → Bool → Nat → Scanner Nat
  | 0, _, _ => malformed
  | fuel + 1, seen, n => do
    match ← peek with
    | some '}' => do
      step
      if seen then return n else malformed
    | some c =>
      match hexDigit? c with
      | some d => do
        step
        hexUntilBrace fuel true (16 * n + d)
      | none => malformed
    | none => malformed

/-- Reads a code point after the letter that announces so many digits. -/
def hexEscape (digits : Nat) : Scanner Element := do
  stepOn
  match ← peek with
  | some '{' => do
    step
    let n ← hexUntilBrace ((← remaining).length + 1) false 0
    return .literal (← characterOf n) false
  | _ => do
    let n ← hexDigits digits 0
    return .literal (← characterOf n) (digits == 2)

/-- Collects the characters up to a closing brace, backwards. -/
def untilBrace : Nat → List Char → Scanner (List Char)
  | 0, _ => malformed
  | fuel + 1, read => do
    match ← peek with
    | some '}' => do
      skip 1
      return read.reverse
    | some c => do
      step
      untilBrace fuel (c :: read)
    | none => malformed

/-- Splits a text at the first place where another one stands in it. -/
def splitAt? (mark : List Char) : List Char → Option (List Char × List Char)
  | [] => none
  | c :: rest =>
    if mark.isPrefixOf (c :: rest) then some ([], (c :: rest).drop mark.length)
    else (splitAt? mark rest).map fun (before, after) => (c :: before, after)

/-- The class of a name, or of a property with a value, and whether its complement is meant. -/
def classOf (name : List Char) : Option (CodeSet × Bool) :=
  match splitAt? ['!', '='] name, splitAt? [':'] name, splitAt? ['='] name with
  | some (p, v), _, _ => (valuedClass? p v).map (·, true)
  | _, some (p, v), _ => (valuedClass? p v).map (·, false)
  | _, _, some (p, v) => (valuedClass? p v).map (·, false)
  | _, _, _ => (namedClass? name).map (·, false)

/-- A class as the flags have it: with both cases if case does not count, and then complemented.
Without Unicode a class must lie within ASCII. -/
def settled (negated : Bool) (s : CodeSet) : Scanner CodeSet := do
  let flags := (← get).flags
  let s := if flags.anyCase then anyCase flags.unicode s else s
  let s := if negated then s.complement else s
  if flags.unicode ∨ isAscii s then return s else malformed

/-- Reads a class of Unicode after its letter. -/
def unicodeClass (negated : Bool) : Scanner Element := do
  stepOn
  let name ← match ← peek with
    | some '{' => do
      step
      untilBrace ((← remaining).length + 1) []
    | some '\\' => malformed
    | some c => do
      step
      pure [c]
    | none => malformed
  if ¬(← get).flags.unicode then malformed
  else
    match classOf name with
    | some (s, other) => return .members (← settled (negated != other) s)
    | none => malformed

/-- Reads a class of one letter. -/
def letterClass (letter : Char) : Scanner Element := do
  skip 1
  let flags := (← get).flags
  let s := match letter.toLower with
    | 'd' => digits flags.unicode
    | 's' => spaces flags.unicode
    | _ => wordSet flags.unicode
  let s := if letter.isUpper then s.complement else s
  if flags.unicode ∨ isAscii s then return .members s else malformed

/-- The place at an edge of a word. -/
def wordPlace (edge : WordEdge) : Scanner Element := do
  return .place (.word edge (wordSet (← get).flags.unicode))

/-- Collects the letters and hyphens of a name, backwards. -/
def edgeName : Nat → List Char → Scanner (List Char)
  | 0, _ => malformed
  | fuel + 1, read => do
    match ← peek with
    | some c =>
      if c.isAlpha ∨ c = '-' then do
        step
        edgeName fuel (c :: read)
      else return read.reverse
    | none => return read.reverse

/-- Reads the name in braces that may follow a word boundary; what begins with no letter is left
alone, for it may be a repetition. -/
def namedEdge : Scanner WordEdge := do
  match ← peek with
  | some '{' => do
    let before ← get
    stepOn
    match ← peek with
    | some c =>
      if c.isAlpha ∨ c = '-' then do
        let name ← edgeName ((← remaining).length + 1) []
        if (← peek) ≠ some '}' then malformed
        else
          skip 1
          match String.ofList name with
          | "start" => return .start
          | "end" => return .stop
          | "start-half" => return .startHalf
          | "end-half" => return .stopHalf
          | _ => malformed
      else
        set before
        return .boundary
    | none => malformed
  | _ => return .boundary

/-- Whether a character stands for itself after a backslash: every one of ASCII but the letters,
the digits and the angle brackets. -/
def isEscapable (c : Char) : Bool :=
  c.toNat ≤ 127 && !c.isAlphanum && c != '<' && c != '>'

/-- Reads an escape, whose backslash is next. -/
def escape : Scanner Element := do
  skip 1
  match ← peek with
  | none => malformed
  | some c =>
    match c with
    | 'x' => hexEscape 2
    | 'u' => hexEscape 4
    | 'U' => hexEscape 8
    | 'p' => unicodeClass false
    | 'P' => unicodeClass true
    | 'd' | 's' | 'w' | 'D' | 'S' | 'W' => letterClass c
    | _ => do
      skip 1
      if isEscapable c then return .literal c false
      else
        match c with
        | 'a' => return .literal '\x07' false
        | 'f' => return .literal '\x0C' false
        | 't' => return .literal '\t' false
        | 'n' => return .literal '\n' false
        | 'r' => return .literal '\r' false
        | 'v' => return .literal '\x0B' false
        | 'A' => return .place .textStart
        | 'z' => return .place .textEnd
        | 'b' => do wordPlace (← namedEdge)
        | 'B' => wordPlace .inside
        | '<' => wordPlace .start
        | '>' => wordPlace .stop
        | _ => malformed

/-! ## Numbers -/

/-- Reads digits, and adds them to a value. -/
def decimalDigits : Nat → Nat → Scanner Nat
  | 0, n => return n
  | fuel + 1, n => do
    match ← peek with
    | some c =>
      if c.isDigit then do
        step
        decimalDigits fuel (10 * n + (c.toNat - '0'.toNat))
      else return n
    | none => return n

/-- Passes over blanks, whether they count or not. -/
def blanks : Scanner Unit :=
  modify fun s => { s with rest := s.rest.dropWhile Text.isBlank }

/-- Reads a number of 32 bits with blanks around it, if there is a digit. -/
def decimal? : Scanner (Option Nat) := do
  blanks
  match ← peek with
  | some c =>
    if c.isDigit then do
      let n ← decimalDigits (← remaining).length 0
      blanks
      if n < UInt32.size then return some n else malformed
    else return none
  | none => return none

/-! ## Bracketed classes -/

/-- How two classes are combined. -/
inductive SetOperation where
  | intersection
  | difference
  | symmetricDifference

/-- Combines two classes. -/
def SetOperation.apply : SetOperation → CodeSet → CodeSet → CodeSet
  | intersection => CodeSet.inter
  | difference => CodeSet.diff
  | symmetricDifference => CodeSet.symmDiff

/-- What has been read of a bracketed class: the members since the last operator, how many items
gave them and how deep these are, and the operator with what stands before it. -/
structure Bracket where
  members : CodeSet
  count : Nat
  depth : Nat
  before : Option (SetOperation × CodeSet × Nat)

/-- Adds the members of one item. -/
def Bracket.add (b : Bracket) (s : CodeSet) (depth : Nat) : Bracket :=
  { b with members := b.members.union s, count := b.count + 1, depth := max b.depth depth }

/-- The depth of the items since the last operator. -/
def Bracket.itemsDepth (b : Bracket) : Nat := if 2 ≤ b.count then b.depth + 1 else b.depth

/-- Both sides of an operator with both cases if case does not count, combined. -/
def Bracket.combined (b : Bracket) : Scanner (CodeSet × Nat) := do
  match b.before with
  | none => return (b.members, b.itemsDepth)
  | some (op, left, depth) =>
    let flags := (← get).flags
    let fold (s : CodeSet) : CodeSet := if flags.anyCase then anyCase flags.unicode s else s
    return (op.apply (fold left) (fold b.members), 1 + max depth b.itemsDepth)

/-- Begins a new right-hand side. -/
def Bracket.operator (b : Bracket) (op : SetOperation) : Scanner Bracket := do
  let (s, depth) ← b.combined
  return ⟨.empty, 0, 0, some (op, s, depth)⟩

/-- Reads a class of ASCII in colons, whose bracket is next; what is none stays unread. -/
def asciiClass : Scanner (Option CodeSet) := do
  let chars ← remaining
  match chars with
  | '[' :: ':' :: rest =>
    let (negated, rest) := match rest with
      | '^' :: more => (true, more)
      | _ => (false, rest)
    let name := rest.takeWhile (· ≠ ':')
    match rest.dropWhile (· ≠ ':'), asciiClass? (String.ofList name) with
    | ':' :: ']' :: more, some s => do
      modify fun st => { st with rest := more }
      return some (← settled negated s)
    | _, _ => return none
  | _ => return none

/-- Reads one item that may stand in a class. -/
def classItem : Scanner Element := do
  match ← peek with
  | some '\\' => escape
  | some c => do
    skip 1
    return .literal c false
  | none => malformed

/-- The code point of a character in a class; without Unicode it must be of ASCII. -/
def classLiteral : Element → Scanner Nat
  | .literal c _ => do
    if (← get).flags.unicode ∨ c.toNat ≤ 127 then return c.toNat else malformed
  | _ => malformed

/-- The character by which a hyphen, which is next, is told from one that stands for itself.  If
blanks count for nothing, they are passed over, and so are one number sign and the blanks after it;
if nothing is left then, it is the character after the hyphen all the same. -/
def afterHyphen : Scanner (Option Char) := do
  let s ← get
  let rest := s.rest.drop 1
  if s.flags.spaced then
    let ahead := match rest.dropWhile Text.isBlank with
      | '#' :: more => more.dropWhile Text.isBlank
      | chars => chars
    return ahead.head?.or rest.head?
  else return rest.head?

/-- Reads a character, a range of characters or an escaped class. -/
def classRange : Scanner CodeSet := do
  let first ← classItem
  space
  if (← remaining).isEmpty then malformed
  else
    let second ← afterHyphen
    if (← peek) ≠ some '-' ∨ second = some ']' ∨ second = some '-' then
      match first with
      | .members s => return s
      | first => return .singleton (← classLiteral first)
    else do
      stepOn
      let last ← classItem
      let lo ← classLiteral first
      let hi ← classLiteral last
      if lo ≤ hi then return ⟨[(lo, hi)]⟩ else malformed

/-- Reads hyphens at the start of a class, which stand for themselves. -/
def leadingHyphens : Nat → Bracket → Scanner Bracket
  | 0, b => return b
  | fuel + 1, b => do
    match ← peek with
    | some '-' => do
      stepOn
      leadingHyphens fuel (b.add (.singleton '-'.toNat) 0)
    | _ => return b

/-- Reads the opening of a class, up to its first proper item: whether it is complemented, and what
has been read. -/
def openClass : Scanner (Bool × Bracket) := do
  stepOn
  let negated ← match ← peek with
    | some '^' => do
      stepOn
      pure true
    | _ => pure false
  let b ← leadingHyphens (← remaining).length ⟨.empty, 0, 0, none⟩
  match b.count, ← peek with
  | 0, some ']' => do
    stepOn
    return (negated, b.add (.singleton ']'.toNat) 0)
  | _, _ => return (negated, b)

mutual

/-- Reads a bracketed class, whose bracket is next, and its depth; each step reads a character at
least. -/
def bracketed : Nat → Scanner (CodeSet × Nat)
  | 0 => malformed
  | fuel + 1 => do
    let (negated, b) ← openClass
    let (s, depth) ← classItems fuel b
    return (← settled negated s, depth + 1)

/-- Reads the items of a class and its closing bracket. -/
def classItems : Nat → Bracket → Scanner (CodeSet × Nat)
  | 0, _ => malformed
  | fuel + 1, b => do
    space
    match ← remaining with
    | [] => malformed
    | '[' :: _ => do
      match ← asciiClass with
      | some s => classItems fuel (b.add s 0)
      | none => do
        let (s, depth) ← bracketed fuel
        classItems fuel (b.add s depth)
    | ']' :: _ => do
      let result ← b.combined
      skip 1
      return result
    | '&' :: '&' :: _ => do
      skip 2
      classItems fuel (← b.operator .intersection)
    | '-' :: '-' :: _ => do
      skip 2
      classItems fuel (← b.operator .difference)
    | '~' :: '~' :: _ => do
      skip 2
      classItems fuel (← b.operator .symmetricDifference)
    | _ => do
      let s ← classRange
      classItems fuel (b.add s 0)

end

end Scanner

end RecordAudit.Pattern
