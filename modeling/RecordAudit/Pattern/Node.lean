import RecordAudit.Unicode.CodeSet

/-!
# Patterns as trees

A pattern is a tree of texts, sets of characters, conditions on a place between two
characters, sequences, choices, repetitions and groups.  `ofSet`, `repeated`, `sequence`
and `choice` build trees in a normal form: a sequence begins with no sequence and a choice
with no choice, texts that follow each other are one text, sets to choose from are one
set, and what all branches of a choice begin with stands before the choice.
-/

namespace RecordAudit.Pattern

/-- Where a place lies with regard to words. -/
inductive WordEdge where
  | boundary
  | inside
  | start
  | stop
  | startHalf
  | stopHalf
deriving Repr, DecidableEq

/-- A condition on a place, which the characters before and after it decide. -/
inductive Look where
  | textStart
  | textEnd
  | lineStart
  | lineEnd
  /-- Like `lineStart`, where a carriage return, alone or before a line feed, ends a line too. -/
  | lineStartAnyBreak
  | lineEndAnyBreak
  | word (edge : WordEdge) (members : CodeSet)
deriving Repr, DecidableEq

/-- Whether a condition holds between two characters; at an end of the text there is none. -/
def Look.holds (before after : Option Char) : Look → Bool
  | textStart => before.isNone
  | textEnd => after.isNone
  | lineStart => before.isNone || before == some '\n'
  | lineEnd => after.isNone || after == some '\n'
  | lineStartAnyBreak =>
    before.isNone || before == some '\n' || (before == some '\r' && after != some '\n')
  | lineEndAnyBreak =>
    after.isNone || after == some '\r' || (after == some '\n' && before != some '\r')
  | word edge members =>
    let left := before.any members.has
    let right := after.any members.has
    match edge with
    | .boundary => left != right
    | .inside => left == right
    | .start => !left && right
    | .stop => left && !right
    | .startHalf => !left
    | .stopHalf => !right

/-- A pattern. -/
inductive Node where
  | empty
  /-- The characters of a text, of which there is at least one. -/
  | literal (text : List Char)
  /-- One character out of a set. -/
  | one (members : CodeSet)
  | look (l : Look)
  | seq (first second : Node)
  | alt (first second : Node)
  /-- So many times, and then up to `extra` times more, or any number of times; `greedy` tells
  whether more times are tried before fewer. -/
  | times (body : Node) (least : Nat) (extra : Option Nat) (greedy : Bool)
  /-- A group that notes what its body matches. -/
  | group (number : Nat) (body : Node)
deriving Repr, DecidableEq

namespace Node

/-! ## What a pattern takes -/

/-- Whether a pattern takes no character wherever it occurs. -/
def takesNothing : Node → Bool
  | empty | look _ => true
  | literal _ | one _ => false
  | seq a b | alt a b => a.takesNothing && b.takesNothing
  | times body _ _ _ | group _ body => body.takesNothing

/-- The fewest characters that a pattern takes, as far as its parts tell; there is no such number
for what contains an empty set. -/
def shortest? : Node → Option Nat
  | empty | look _ => some 0
  | literal text => some text.length
  | one s => if s.ranges.isEmpty then none else some 1
  | seq a b => do return (← a.shortest?) + (← b.shortest?)
  | alt a b => do return min (← a.shortest?) (← b.shortest?)
  | times body least _ _ => body.shortest?.map (least * ·)
  | group _ body => body.shortest?

/-- Whether a pattern can occur at the start of a text only. -/
def fromStart : Node → Bool
  | empty | literal _ | one _ => false
  | look l => l = .textStart
  | seq a b => a.fromStart || (a.takesNothing && b.fromStart)
  | alt a b => a.fromStart && b.fromStart
  | times body least _ _ => 0 < least && body.fromStart
  | group _ body => body.fromStart

/-- Whether a pattern can occur at the end of a text only. -/
def toEnd : Node → Bool
  | empty | literal _ | one _ => false
  | look l => l = .textEnd
  | seq a b => b.toEnd || (b.takesNothing && a.toEnd)
  | alt a b => a.toEnd && b.toEnd
  | times body least _ _ => 0 < least && body.toEnd
  | group _ body => body.toEnd

/-! ## Normal form -/

/-- One character out of a set; a set of one character is a text. -/
def ofSet (s : CodeSet) : Node :=
  match s.ranges with
  | [(lo, hi)] => if lo = hi then literal [Char.ofNat lo] else one s
  | _ => one s

/-- A repetition.  What takes no character is repeated once at most, none at all is empty, and once
is the pattern itself. -/
def repeated (body : Node) (least : Nat) (extra : Option Nat) (greedy : Bool) : Node :=
  let least' := if body.takesNothing then min least 1 else least
  let extra' :=
    if body.takesNothing then some ((extra.elim 1 fun n => min (least + n) 1) - least') else extra
  if least' = 0 ∧ extra' = some 0 then empty
  else if least' = 1 ∧ extra' = some 0 then body
  else times body least' extra' greedy

/-- The parts of a sequence. -/
def parts : Node → List Node
  | empty => []
  | seq a b => a :: b.parts
  | n => [n]

/-- The branches of a choice. -/
def branches : Node → List Node
  | alt a b => a :: b.branches
  | n => [n]

/-- Joins texts that follow each other. -/
def joinTexts : List Node → List Node
  | [] => []
  | literal text :: rest =>
    match joinTexts rest with
    | literal more :: rest => literal (text ++ more) :: rest
    | rest => literal text :: rest
  | n :: rest => n :: joinTexts rest

/-- Parts one after the other. -/
def chain : List Node → Node
  | [] => empty
  | [n] => n
  | n :: rest => seq n (chain rest)

/-- Branches beside each other; of none there is nothing to choose. -/
def fork : List Node → Node
  | [] => one .empty
  | [n] => n
  | n :: rest => alt n (fork rest)

/-- The sequence of some patterns. -/
def sequence (nodes : List Node) : Node := chain (joinTexts (nodes.flatMap parts))

/-- The set of a pattern that is one character out of a set. -/
def set? : Node → Option CodeSet
  | one s => some s
  | _ => none

/-- The code point of a text of one character. -/
def codePoint? : Node → Option (Nat × Nat)
  | literal [c] => some (c.toNat, c.toNat)
  | _ => none

/-- The set of branches that are sets, or that are texts of one character each. -/
def commonSet? (nodes : List Node) : Option CodeSet :=
  ((nodes.mapM codePoint?).map CodeSet.ofRanges).or
    ((nodes.mapM set?).map fun sets => .ofRanges (sets.flatMap (·.ranges)))

/-- The parts of a sequence of several parts. -/
def sequenceParts? : Node → Option (List Node)
  | seq a b => some (seq a b).parts
  | _ => none

/-- How many parts two sequences have in common from the start on. -/
def commonCount : List Node → List Node → Nat
  | x :: xs, y :: ys => if x = y then commonCount xs ys + 1 else 0
  | _, _ => 0

/-- What sequences begin with in common, and what is left of each of them; there has to be something
in common. -/
def commonStart? (nodes : List Node) : Option (List Node × List (List Node)) := do
  let sequences ← nodes.mapM sequenceParts?
  let first ← sequences.head?
  let count := sequences.foldl (fun n s => min n (commonCount first s)) first.length
  if count = 0 then none else some (first.take count, sequences.map (·.drop count))

/-- The choice between branches, which takes out common starts so many times at most. -/
def choose : Nat → List Node → Node
  | 0, nodes => fork nodes
  | fuel + 1, nodes =>
    let nodes := nodes.flatMap branches
    match nodes with
    | [n] => n
    | _ =>
      match commonSet? nodes with
      | some s => ofSet s
      | none =>
        match commonStart? nodes with
        | some (start, rests) => sequence (start ++ [choose fuel (rests.map sequence)])
        | none => fork nodes

/-- The number of nodes in a tree. -/
def size : Node → Nat
  | empty | literal _ | one _ | look _ => 1
  | seq a b | alt a b => a.size + b.size + 1
  | times body _ _ _ | group _ body => body.size + 1

/-- The choice between some patterns; each start that is taken out makes the rest smaller. -/
def choice (nodes : List Node) : Node :=
  choose ((nodes.map size).foldl (· + ·) 1) nodes

end Node

end RecordAudit.Pattern
