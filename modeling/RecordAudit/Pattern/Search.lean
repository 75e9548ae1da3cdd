import RecordAudit.Pattern.Reader

/-!
# Searching for a pattern

A search follows all ways through a pattern at once.  The places of a text, from before
its first character to after its last, are the bits of a number; a pattern turns the
places where it may begin into those where it may end.
-/

namespace RecordAudit

namespace Pattern

/-- Some places of a text, each a bit. -/
abbrev Places := Nat

/-- A pattern made ready for one text: it knows the places before the characters of each set and
those where each condition holds. -/
inductive Walk where
  | stay
  | over (before : Places)
  | only (places : Places)
  | seq (first second : Walk)
  | alt (first second : Walk)
  | times (body : Walk) (least : Nat) (extra : Option Nat)

/-- The places whose flags are set; the first flag is for the first place. -/
def placesOf : List Bool → Places
  | [] => 0
  | b :: rest => 2 * placesOf rest + (if b then 1 else 0)

/-- The characters before and after each place. -/
def surroundings (text : List Char) : List (Option Char × Option Char) :=
  (none :: text.map some).zip (text.map some ++ [none])

/-- Makes a pattern ready for a text. -/
def Node.ready (text : List Char) : Node → Walk
  | .empty => .stay
  | .literal chars =>
    chars.foldr (fun c rest => .seq (.over (placesOf (text.map (· == c)))) rest) .stay
  | .one s => .over (placesOf (text.map s.has))
  | .look l =>
    .only (placesOf ((surroundings text).map fun (before, after) => l.holds before after))
  | .seq a b => .seq (a.ready text) (b.ready text)
  | .alt a b => .alt (a.ready text) (b.ready text)
  | .times body least extra _ => .times (body.ready text) least extra
  | .group _ body => body.ready text

/-- Takes a step so many times; one that changes nothing, as a step from nowhere, is the last. -/
def repeatStep (step : Places → Places) : Nat → Places → Places
  | 0, p => p
  | count + 1, p =>
    let q := step p
    if q = p then p else repeatStep step count q

/-- The places where a pattern may end if it begins at one of the given places. -/
def Walk.ends (length : Nat) : Walk → Places → Places
  | .stay, p => p
  | .over before, p => (p &&& before) <<< 1
  | .only places, p => p &&& places
  | .seq a b, p => b.ends length (a.ends length p)
  | .alt a b, p => a.ends length p ||| b.ends length p
  | .times body least extra, p =>
    let widen (q : Places) : Places := q ||| body.ends length q
    repeatStep widen (extra.getD (length + 1)) (repeatStep (body.ends length) least p)

/-- Whether a pattern occurs somewhere in a text. -/
def Node.occursIn (n : Node) (text : List Char) : Bool :=
  (n.ready text).ends text.length (Nat.pow 2 (text.length + 1) - 1) != 0

end Pattern

/-- A pattern with the text that it was read from. -/
structure Pattern where
  text : String
  node : Pattern.Node

namespace Pattern

/-- The pattern of a text. -/
def ofText (text : String) : Except PatternFault Pattern := do
  let node ← read text
  .ok ⟨text, node⟩

/-- Whether a pattern occurs somewhere in a text. -/
def occursIn (p : Pattern) (text : String) : Bool := p.node.occursIn text.toList

end Pattern

end RecordAudit
