import RecordAudit.Pattern.Machine
import RecordAudit.Pattern.Scanner
import RecordAudit.Unicode.Newcomer

/-!
# Reading patterns

A pattern is a choice between branches, and a branch is a sequence of items, each of which
may be repeated.  A flag that is set inside a group holds up to the end of the group.
Look-around and references back to groups are no patterns here.
-/

namespace RecordAudit.Pattern

/-- How deep groups, classes, repetitions, sequences and choices may stand inside each other. -/
def maxDepth : Nat := 250

/-- An item of a branch: its tree, its depth, and whether it may be repeated. -/
structure Item where
  node : Node
  depth : Nat
  repeatable : Bool

/-- The sequence of the items of a branch. -/
def Item.sequence : List Item → Item
  | [] => ⟨.empty, 0, false⟩
  | [i] => i
  | items =>
    ⟨Node.sequence (items.map (·.node)), 1 + (items.map (·.depth)).foldl max 0, true⟩

/-- The choice between branches. -/
def Item.choice : List Item → Item
  | [i] => i
  | items => ⟨Node.choice (items.map (·.node)), 1 + (items.map (·.depth)).foldl max 0, true⟩

namespace Scanner

/-! ## Flags -/

/-- Sets or clears the flag with a letter. -/
def withFlag (flags : Flags) (letter : Char) (on : Bool) : Option Flags :=
  match letter with
  | 'i' => some { flags with anyCase := on }
  | 'm' => some { flags with manyLines := on }
  | 's' => some { flags with dotAll := on }
  | 'u' => some { flags with unicode := on }
  | 'x' => some { flags with spaced := on }
  | 'R' => some { flags with anyBreak := on }
  | 'U' => some { flags with swapGreed := on }
  | _ => none

/-- Applies letters of flags up to the colon or bracket that ends them; after a hyphen they are
cleared.  No letter may come twice, and a hyphen only once and not last. -/
def flagLetters (flags : Flags) (seen : List Char) (on : Bool) :
    List Char → Scanner (Flags × List Char)
  | [] => malformed
  | c :: rest =>
    if c = ':' ∨ c = ')' then
      if seen.head? = some '-' then malformed else return (flags, seen)
    else if seen.contains c then malformed
    else if c = '-' then flagLetters flags (c :: seen) false rest
    else
      match withFlag flags c on with
      | some flags => flagLetters flags (c :: seen) on rest
      | none => malformed

/-! ## Groups -/

/-- Whether a character may begin the name of a group. -/
def startsName (c : Char) : Bool := c = '_' || Unicode.alphabetic.has c

/-- Whether a character may stand in the name of a group. -/
def continuesName (c : Char) : Bool :=
  c = '_' || c = '.' || c = '[' || c = ']' || Unicode.alphanumeric.has c

/-- Reads the name of a group and the bracket after it; no two groups have one name. -/
def groupName : Scanner Unit := do
  let chars ← remaining
  let name := chars.takeWhile (· ≠ '>')
  match chars.dropWhile (· ≠ '>'), name with
  | '>' :: rest, c :: more =>
    let text := String.ofList name
    if startsName c ∧ more.all continuesName ∧ ¬(← get).names.contains text then
      modify fun s => { s with rest := rest, names := text :: s.names }
    else malformed
  | _, _ => malformed

/-- What a group begins with. -/
inductive Opening where
  /-- A group with a number notes what it matches. -/
  | group (number : Option Nat)
  | flagsOnly

/-- Numbers a group that notes what it matches. -/
def numbered : Scanner Opening := do
  let number := (← get).groups + 1
  modify fun s => { s with groups := number }
  return .group number

/-- Reads the opening of a group, whose bracket is next, and sets its flags. -/
def opening : Scanner Opening := do
  step
  if ← accept ['?', 'P', '<'] then do
    groupName
    numbered
  else if ← accept ['?', '<'] then do
    -- A name cannot begin as look-behind does.
    groupName
    numbered
  else if ← accept ['?'] then do
    let (flags, letters) ← flagLetters (← get).flags [] true (← remaining)
    modify fun s => { s with flags := flags, rest := s.rest.drop letters.length }
    let last ← peek
    skip 1
    if last = some ':' then return .group none
    else if letters.isEmpty then malformed
    else return .flagsOnly
  else numbered

/-! ## Repetitions -/

/-- Whether the mark of a repetition that takes as little as it can is next; it is passed over. -/
def lazyMark : Scanner Bool := do
  if (← peek) = some '?' then
    skip 1
    return true
  else return false

/-- Repeats the last item, after the operator of the repetition. -/
def repeated (items : List Item) (least : Nat) (extra : Option Nat) : Scanner (List Item) := do
  let isLazy ← lazyMark
  let greedy := isLazy == (← get).flags.swapGreed
  match items with
  | i :: rest =>
    if i.repeatable then
      return ⟨i.node.repeated least extra greedy, i.depth + 1, true⟩ :: rest
    else malformed
  | [] => malformed

/-- Reads how often an item is repeated, from the opening brace on. -/
def counts : Scanner (Nat × Option Nat) := do
  stepOn
  let least ← decimal?
  match ← peek with
  | some ',' => do
    stepOn
    match ← peek, least with
    | some '}', some n => do
      step
      return (n, none)
    | _, some n =>
      match ← decimal? with
      | some m =>
        if (← peek) = some '}' ∧ n ≤ m then do
          step
          return (n, some (m - n))
        else malformed
      | none => malformed
    | _, none => malformed
  | some '}' => do
    step
    match least with
    | some n => return (n, some 0)
    | none => malformed
  | _ => malformed

/-! ## Branches -/

/-- The tree of a character as the flags have it. -/
def literalNode (c : Char) (byte : Bool) : Scanner Node := do
  let flags := (← get).flags
  if ¬flags.unicode ∧ byte ∧ 127 < c.toNat then malformed
  else
    let s := CodeSet.singleton c.toNat
    return .ofSet (if flags.anyCase then anyCase flags.unicode s else s)

/-- The tree of the point, which stands for any character that ends no line. -/
def pointNode : Scanner Node := do
  let flags := (← get).flags
  if ¬flags.unicode then malformed
  else if flags.dotAll then return .one .all
  else if flags.anyBreak then
    return .one (CodeSet.complement ⟨[('\n'.toNat, '\n'.toNat), ('\r'.toNat, '\r'.toNat)]⟩)
  else return .one (CodeSet.singleton '\n'.toNat).complement

/-- The tree of the mark for the start of the text or of a line. -/
def startNode : Scanner Node := do
  let flags := (← get).flags
  return .look
    (if ¬flags.manyLines then .textStart
     else if flags.anyBreak then .lineStartAnyBreak else .lineStart)

/-- The tree of the mark for the end of the text or of a line. -/
def endNode : Scanner Node := do
  let flags := (← get).flags
  return .look
    (if ¬flags.manyLines then .textEnd
     else if flags.anyBreak then .lineEndAnyBreak else .lineEnd)

/-- Reads an item that is no group, class or repetition. -/
def single : Scanner Item := do
  let plain (n : Node) : Item := ⟨n, 0, true⟩
  match ← peek with
  | some '\\' => do
    match ← escape with
    | .literal c byte => return plain (← literalNode c byte)
    | .members s => return plain (.ofSet s)
    | .place l => return plain (.look l)
  | some c => do
    skip 1
    match c with
    | '.' => return plain (← pointNode)
    | '^' => return plain (← startNode)
    | '$' => return plain (← endNode)
    | c => return plain (← literalNode c false)
  | none => malformed

mutual

/-- Reads a choice between branches; each step reads a character or goes one level down. -/
def branches : Nat → Scanner (List Item)
  | 0 => malformed
  | fuel + 1 => do
    let first ← branch fuel []
    match ← peek with
    | some '|' => do
      skip 1
      return first :: (← branches fuel)
    | _ => return [first]

/-- Reads the items of a branch, of which the last one stands first. -/
def branch : Nat → List Item → Scanner Item
  | 0, _ => malformed
  | fuel + 1, items => do
    space
    match ← peek with
    | none | some '|' | some ')' => return Item.sequence items.reverse
    | some '(' => do
      let i ← group fuel
      branch fuel (i :: items)
    | some '[' => do
      let (s, depth) ← bracketed fuel
      branch fuel (⟨.ofSet s, depth, true⟩ :: items)
    | some '?' => do
      skip 1
      branch fuel (← repeated items 0 (some 1))
    | some '*' => do
      skip 1
      branch fuel (← repeated items 0 none)
    | some '+' => do
      skip 1
      branch fuel (← repeated items 1 none)
    | some '{' => do
      let (least, extra) ← counts
      branch fuel (← repeated items least extra)
    | some _ => do
      let i ← single
      branch fuel (i :: items)

/-- Reads a group, or flags for what follows. -/
def group : Nat → Scanner Item
  | 0 => malformed
  | fuel + 1 => do
    let outer := (← get).flags
    match ← opening with
    | .flagsOnly => return ⟨.empty, 0, false⟩
    | .group number => do
      let inner := Item.choice (← branches fuel)
      if (← peek) = some ')' then do
        skip 1
        modify fun s => { s with flags := outer }
        return ⟨number.elim inner.node (.group · inner.node), inner.depth + 1, true⟩
      else malformed

end

/-- Reads a whole pattern. -/
def whole : Scanner Node := do
  let top := Item.choice (← branches (3 * (← remaining).length + 3))
  if ¬(← remaining).isEmpty then malformed
  else if maxDepth < top.depth then throw .tooDeep
  else if ¬Machine.fits top.node then throw .tooLarge
  else return top.node

end Scanner

/-- The tree of a pattern. -/
def read (text : String) : Except PatternFault Node :=
  (Scanner.whole.run ⟨text.toList, .standard, [], 0⟩).map (·.1)

end RecordAudit.Pattern
