import Std.Data.HashMap
import RecordAudit.Pattern.Node
import RecordAudit.Unicode.Encoding

/-!
# The size of a pattern's machines

A search reads the bytes of a text by a machine with states and links between them, once
forward and once backward, and either machine may take so many bytes at most.  This module
lays out the machines of a pattern without their links: it counts the states and what their
links take.  Repetitions are written out.  The bytes of a set of characters share states as
far as these are found again in a table of fixed size, whose slots keep what came last;
states count in the order in which they are made, for the slots depend on their numbers.
-/

namespace RecordAudit.Pattern.Machine

/-- Which way a machine reads a text. -/
inductive Direction where
  | forward
  | backward
deriving Repr, DecidableEq

/-- The bytes of a state without its links. -/
def stateBytes : Nat := 32

/-- The bytes of a link for a range of bytes, in a state with several of them. -/
def rangeBytes : Nat := 8

/-- The bytes of a link of a fork, which reads nothing. -/
def branchBytes : Nat := 4

/-- The most bytes that a machine may take. -/
def byteLimit : Nat := 10485760

/-- A machine as far as it is laid out: the number of its states, and the bytes of all. -/
structure Draft where
  states : Nat
  bytes : Nat

/-- A step of laying out a machine, which fails when it takes too many bytes. -/
abbrev Build (α : Type) := StateT Draft Option α

/-- Takes so many bytes more. -/
def grow (bytes : Nat) : Build Unit := fun d =>
  let total := d.bytes + bytes
  if total ≤ byteLimit then some ((), { d with bytes := total }) else none

/-- Makes a state with so many bytes of links, and gives its number. -/
def state (linkBytes : Nat) : Build Nat := do
  let number := (← get).states
  modify fun d => { d with states := number + 1 }
  grow (stateBytes + linkBytes)
  return number

/-- What a part of a machine ends with: a state with room for one link, or a fork. -/
inductive Exit where
  | single
  | fork

/-- Makes a state that is a part by itself. -/
def single : Build Exit := do
  discard (state 0)
  return .single

/-- Links the end of a part to what follows. -/
def Exit.link : Exit → Build Unit
  | single => pure ()
  | fork => grow branchBytes

/-! ## Sets of characters -/

/-- A link for a range of bytes to the state with a number. -/
structure Link where
  range : Unicode.ByteRange
  next : Nat
deriving DecidableEq

/-- Mixes a number into a hash. -/
def mix (hash : UInt64) (n : Nat) : UInt64 := (hash ^^^ n.toUInt64) * 1099511628211

/-- The hash of nothing. -/
def hashSeed : UInt64 := 14695981039346656037

/-- A table of states by what they have been made for; a slot keeps the last one only. -/
structure Table (α : Type) where
  slots : Std.HashMap UInt64 (α × Nat)

/-- The table without states. -/
def Table.empty {α : Type} : Table α := ⟨∅⟩

/-- The state in a slot, if it has been made for the same. -/
def Table.find? {α : Type} [DecidableEq α] (t : Table α) (slot : UInt64) (key : α) : Option Nat :=
  (t.slots[slot]?).bind fun (kept, number) => if kept = key then some number else none

/-- Puts a state into a slot. -/
def Table.put {α : Type} (t : Table α) (slot : UInt64) (key : α) (number : Nat) : Table α :=
  ⟨t.slots.insert slot (key, number)⟩

/-- A step of laying out a set, with the states that can be shared. -/
abbrev Sharing (α β : Type) := StateT (Table α) Build β

/-- The state that a table has for a key, or a new one. -/
def shared {α : Type} [DecidableEq α] (slot : UInt64) (key : α) (linkBytes : Nat) :
    Sharing α Nat := do
  match (← get).find? slot key with
  | some number => return number
  | none => do
    let number ← state linkBytes
    modify fun t => t.put slot key number
    return number

/-- The slots for the states of the forward machine. -/
def forwardSlots : UInt64 := 10000

/-- The slots for the states of the backward machine. -/
def backwardSlots : UInt64 := 1000

/-- The state with some links in the forward machine. -/
def linked (links : List Link) : Sharing (List Link) Nat :=
  let hash := links.foldl
    (fun h l => mix (mix (mix h l.range.1.toNat) l.range.2.toNat) l.next) hashSeed
  shared (hash % forwardSlots) links (rangeBytes * links.length)

/-- A state that is not made yet: its links, the last one first, and the range whose link is not
known yet. -/
structure Pending where
  links : List Link
  range : Option Unicode.ByteRange

/-- Links the range of a pending state. -/
def Pending.settle (p : Pending) (next : Nat) : Pending :=
  ⟨(p.range.map fun r => ⟨r, next⟩).toList ++ p.links, none⟩

/-- Makes pending states, each of which follows the one before it; gives the number of the first
one. -/
def settleAll (target : Nat) : List Pending → Sharing (List Link) Nat
  | [] => return target
  | p :: rest => do
    let next ← settleAll target rest
    linked (p.settle next).links.reverse

/-- Adds a sequence of ranges; pending states are kept as far as their ranges are the same. -/
def addSequence (target : Nat) :
    List Unicode.ByteRange → List Pending → Sharing (List Link) (List Pending)
  | r :: rest, p :: below =>
    if p.range = some r then do return p :: (← addSequence target rest below)
    else do
      let next ← settleAll target below
      return { p.settle next with range := some r } :: rest.map fun r => ⟨[], some r⟩
  | ranges, _ => return ranges.map fun r => ⟨[], some r⟩

/-- Lays out a set forward. -/
def forwardSet (sequences : List (List Unicode.ByteRange)) : Build Exit := do
  let target ← state 0
  let walk : Sharing (List Link) Unit := do
    let pending ← sequences.foldlM (fun pending s => addSequence target s pending) [⟨[], none⟩]
    discard (settleAll target pending)
  discard (walk.run .empty)
  return .single

/-- Lays out a set backward: a fork to each sequence, whose states are shared from its end on. -/
def backwardSet (sequences : List (List Unicode.ByteRange)) : Build Exit := do
  discard (state 0)
  let target ← state 0
  let before (next : Nat) (r : Unicode.ByteRange) : Sharing Link Nat :=
    let hash := mix (mix (mix hashSeed next) r.1.toNat) r.2.toNat
    shared (hash % backwardSlots) ⟨r, next⟩ 0
  let walk : Sharing Link Unit := sequences.forM fun s => do
    discard (s.foldlM before target)
    grow branchBytes
  discard (walk.run .empty)
  return .single

/-- Lays out one character out of a set. -/
def oneOf (d : Direction) (s : CodeSet) : Build Exit :=
  if s.ranges.all fun (_, hi) => hi ≤ 127 then do
    discard (state 0)
    discard (state (rangeBytes * s.ranges.length))
    return .single
  else
    let sequences := Unicode.byteSequences s
    match d with
    | .forward => forwardSet sequences
    | .backward => backwardSet sequences

/-! ## Texts -/

/-- The bytes of a text in the order of reading. -/
def textBytes (d : Direction) (text : List Char) : List UInt8 :=
  let bytes := text.flatMap String.utf8EncodeChar
  match d with
  | .forward => bytes
  | .backward => bytes.reverse

/-- Lays out so many states without links of their own. -/
def states : Nat → Build Unit
  | 0 => pure ()
  | count + 1 => do
    discard (state 0)
    states count

/-- The words of a choice that lead through a state, in runs: where a word ends, a run ends.  Each
word of a run is given by its next byte and the rest. -/
def runs : List (List UInt8) → List (List (UInt8 × List UInt8))
  | [] => [[]]
  | [] :: rest => [] :: runs rest
  | (b :: word) :: rest =>
    match runs rest with
    | [] => [[(b, word)]]
    | run :: more => ((b, word) :: run) :: more

/-- Words of which those that are empty stand only once at the front. -/
def withOneEnd (words : List (List UInt8)) : List (List UInt8) :=
  match words with
  | [] :: rest => [] :: rest.dropWhile (· = [])
  | words => words

/-- The next bytes of a run, with what follows each of them. -/
def fanOut (run : List (UInt8 × List UInt8)) : List (List (List UInt8)) :=
  ((run.map (·.1)).eraseDups).map fun b =>
    run.filterMap fun (b', word) => if b' = b then some word else none

/-- Lays out the states for words that begin alike, unless they all end here: one for each run, one
that forks to the runs and to the end, and those that follow. -/
def wordStates : Nat → List (List UInt8) → Build Unit
  | 0, _ => pure ()
  | fuel + 1, words =>
    if words.all (· = []) then pure ()
    else do
      let parts := runs (withOneEnd words)
      let filled := parts.filter (· ≠ [])
      for run in filled do
        let nexts := fanOut run
        discard (state (if nexts.length = 1 then 0 else rangeBytes * nexts.length))
        for words in nexts do wordStates fuel words
      discard (state (branchBytes * (filled.length + (parts.length - 1))))

/-- Lays out a choice between texts. -/
def choiceOfTexts (d : Direction) (texts : List (List Char)) : Build Exit := do
  let words := texts.map (textBytes d)
  discard (state 0)
  wordStates ((words.map (·.length)).foldl max 0 + 1) words
  return .single

/-! ## Repetitions -/

/-- Lays out a part so many times more after an end. -/
def copies (part : Build Exit) : Nat → Exit → Build Exit
  | 0, e => return e
  | count + 1, e => do
    let next ← part
    e.link
    copies part count next

/-- Lays out a part so many times. -/
def exactly (part : Build Exit) : Nat → Build Exit
  | 0 => single
  | count + 1 => do copies part count (← part)

/-- Lays out a part so many times more, before each of which a fork may go to the end. -/
def optional (part : Build Exit) : Nat → Exit → Build Exit
  | 0, e => return e
  | count + 1, e => do
    discard (state 0)
    let next ← part
    e.link
    grow (2 * branchBytes)
    optional part count next

/-- Lays out a part any number of times.  A part that may take nothing needs a fork before it and
one after it. -/
def anyNumber (part : Build Exit) (takesSome : Bool) : Build Exit := do
  if takesSome then
    discard (state branchBytes)
    (← part).link
    return .fork
  else
    (← part).link
    discard (state (2 * branchBytes))
    discard (state (2 * branchBytes))
    discard (state 0)
    return .single

/-- Lays out a repetition. -/
def times (part : Build Exit) (takesSome : Bool) : Nat → Option Nat → Build Exit
  | 0, some 1 => do
    discard (state 0)
    let e ← part
    discard (state 0)
    e.link
    grow (2 * branchBytes)
    return .single
  | least, some 0 => exactly part least
  | least, some extra => do
    let e ← exactly part least
    discard (state 0)
    (← optional part extra e).link
    return .single
  | 0, none => anyNumber part takesSome
  | 1, none => do
    let e ← part
    discard (state branchBytes)
    e.link
    return .fork
  | least, none => do
    let e ← exactly part (least - 1)
    let last ← part
    discard (state branchBytes)
    e.link
    last.link
    return .fork

/-! ## Patterns -/

/-- How a pattern is laid out by itself, and as the last branches of a choice; these know whether
there is only one branch before them.  A pattern that is a choice between texts knows them. -/
structure Plan where
  alone : Build Exit
  asBranches : Bool → Build Unit
  texts? : Option (List (List Char))

/-- The plan of what is one branch of a choice: after the second branch come the fork of the choice
and the state where its branches meet. -/
def Plan.ofBranch (part : Build Exit) : Plan where
  alone := part
  asBranches second := do
    let e ← part
    if second then states 2
    grow branchBytes
    e.link
  texts? := none

/-- The plan of a text. -/
def Plan.ofText (d : Direction) (text : List Char) : Plan :=
  let part := Plan.ofBranch do
    states (textBytes d text).length
    return .single
  { part with texts? := some [text] }

/-- The plan of a choice. -/
def Plan.choice (d : Direction) (first rest : Plan) : Plan :=
  let texts? := do return (← first.texts?) ++ (← rest.texts?)
  { alone := texts?.elim
      (do
        let e ← first.alone
        rest.asBranches true
        grow branchBytes
        e.link
        return .single)
      (choiceOfTexts d)
    asBranches second := do
      first.asBranches second
      rest.asBranches false
    texts? }

/-- Lays out two parts in a row; backward the second one is read first. -/
def inRow (d : Direction) (first second : Build Exit) : Build Exit := do
  let (first, second) := match d with
    | .forward => (first, second)
    | .backward => (second, first)
  let e ← first
  let last ← second
  e.link
  return last

/-- Lays out a group; only a forward machine notes where it begins and ends. -/
def group (d : Direction) (part : Build Exit) : Build Exit :=
  match d with
  | .backward => part
  | .forward => do
    discard (state 0)
    let e ← part
    discard (state 0)
    e.link
    return .single

/-- The plan of a pattern. -/
def plan (d : Direction) : Node → Plan
  | .empty | .look _ => .ofBranch single
  | .literal text => .ofText d text
  | .one s => .ofBranch (oneOf d s)
  | .seq a b => .ofBranch (inRow d (plan d a).alone (plan d b).alone)
  | .alt a b => .choice d (plan d a) (plan d b)
  | .times body least extra _ =>
    .ofBranch (times (plan d body).alone (body.shortest?.any (0 < ·)) least extra)
  | .group _ body => .ofBranch (group d (plan d body).alone)

/-- Lays out a whole machine.  Unless the pattern can occur at the near end of a text only, a loop
over any bytes stands before it; the last state is that of success. -/
def whole (d : Direction) (n : Node) : Build Unit := do
  let anchored := match d with
    | .forward => n.fromStart
    | .backward => n.toEnd
  if anchored then discard (state 0)
  else
    discard (state (2 * branchBytes))
    discard (state 0)
    discard (state rangeBytes)
  let e ← group d (plan d n).alone
  discard (state 0)
  e.link

/-- Whether both machines of a pattern stay within the limit. -/
def fits (n : Node) : Bool :=
  [Direction.forward, .backward].all fun d => ((whole d n).run ⟨0, 0⟩).isSome

end RecordAudit.Pattern.Machine
