import FantasyConsole.Text.Pattern.Fault
import FantasyConsole.Text.Pattern.Meaning
import FantasyConsole.Text.Pattern.Reading
import FantasyConsole.Text.Pattern.Simple
import FantasyConsole.Text.Utf8.Ranges

/-!
# Sizes of automata

A pattern is looked for by an automaton on the bytes of UTF-8, and its end by another
one that goes backward. Both are measured before they are made, in bytes of memory: a
state has one size, a branch on a range of bytes takes some more and a free branch
less. Counted repetition makes a copy for each time.
-/
namespace FantasyConsole.Text.Pattern

/-- The size of a state with at most one branch. -/
def stateSize : Nat := 32

/-- The size of a state with branches on ranges of bytes. -/
def rangesSize (branches : Nat) : Nat := stateSize + 8 * branches

/-- The size of a state with free branches. -/
def forkSize (branches : Nat) : Nat := stateSize + 4 * branches

def total (sizes : List Nat) : Nat := sizes.foldl (· + ·) 0

/-! ## Sets -/

/-- Neighbouring byte sequences with one first range, without it. -/
def tails (seqs : List (List Utf8.DigitRange)) : List (List (List Utf8.DigitRange)) :=
  let groups := seqs.splitBy fun a b => a.head? == b.head?
  groups.map fun g => g.map (·.drop 1)

/-- What may follow at the states for some byte sequences, up to `depth` bytes on: what is the same
makes one state. -/
def continuations : (depth : Nat) → List (List Utf8.DigitRange) → List (List (List Utf8.DigitRange))
  | 0, _ => []
  | depth + 1, seqs => seqs :: ((tails seqs).filter (· != [[]])).flatMap (continuations depth)

/-- What a sequence begins with, and how it goes on up to its end. -/
def beginnings (q : List Utf8.DigitRange) : List (List Utf8.DigitRange) :=
  (List.range q.length).map fun i => q.take (i + 1)

/-- The size of a set that goes beyond ASCII. Forward, states share what follows them; backward,
what is before them. -/
def wideSetSize (backward : Bool) (s : CharSet) : Nat :=
  let seqs := s.ranges.flatMap fun (low, high) => Utf8.byteRanges low high
  if backward then
    forkSize seqs.length + stateSize + stateSize * (seqs.flatMap beginnings).eraseDups.length
  else
    stateSize + total ((continuations 4 seqs).eraseDups.map fun q => rangesSize (tails q).length)

def setSize (backward : Bool) (s : CharSet) : Nat :=
  if s.isAscii then stateSize + rangesSize s.ranges.length else wideSetSize backward s

/-! ## Words -/

/-- Words without their common first byte, for each first byte. -/
def byFirst (words : List (List UInt8)) : List (List (List UInt8)) :=
  let firsts := (words.filterMap List.head?).eraseDups
  firsts.map fun b => (words.filter (·.head? == some b)).map (·.drop 1)

/-- The size of the states of some words that share what they begin with. A word that ends separates
those before it from those after it. -/
def wordsSize : (fuel : Nat) → List (List UInt8) → Nat
  | 0, _ => 0
  | fuel + 1, words =>
    let words := if words.head? == some [] then [] :: words.dropWhile (· == []) else words
    let runs := (words.splitOn []).filter (· != [])
    let ends := words.count []
    let next := runs.flatMap byFirst
    let size :=
      total (runs.map fun r => if (byFirst r).length = 1 then stateSize
        else rangesSize (byFirst r).length)
    forkSize (runs.length + ends) + size
      + total ((next.filter fun words => words.any (· != [])).map (wordsSize fuel))

/-- The words that alternatives are, if all of them are literals. -/
def words? (ps : List Pattern) : Option (List (List UInt8)) :=
  ps.mapM fun
    | .literal cs => some (String.ofList cs).toUTF8.toList
    | _ => none

/-! ## Patterns -/

/-- The fewest characters of a piece, none if some part has no pieces. -/
def shortest? : Pattern → Option Nat
  | .empty | .edge _ => some 0
  | .literal cs => some cs.length
  | .one s => if s.isEmpty then none else some 1
  | .seq a b => do return (← a.shortest?) + (← b.shortest?)
  | .either a b => do return min (← a.shortest?) (← b.shortest?)
  | .times least _ a => a.shortest?.map (least * ·)
  | .group _ a => a.shortest?

/-- The size of repetition, where one time takes `one` and may be empty or not. -/
def timesSize (least : Nat) (most : Option Nat) (mayBeEmpty : Bool) (one : Nat) : Nat :=
  match least, most with
  | 0, some 1 => forkSize 2 + one + stateSize
  | 0, none => if mayBeEmpty then one + forkSize 2 + forkSize 2 + stateSize else forkSize 2 + one
  | least, none => least * one + forkSize 2
  | least, some most =>
    (if least = 0 then stateSize else least * one)
      + if least = most then 0 else stateSize + (most - least) * (forkSize 2 + one)

/-- The size of alternatives that are all literals: what they begin with is shared. -/
def literalsSize (backward : Bool) (words : List (List UInt8)) : Nat :=
  let words := if backward then words.map List.reverse else words
  stateSize + wordsSize (total (words.map List.length) + 1) words

/-- The size of a pattern's states; where it is a branch, with the free branch to it. -/
def weight (backward : Bool) (isBranch : Bool) (p : Pattern) : Nat :=
  let sized (n : Nat) : Nat := if isBranch then forkSize 1 - stateSize + n else n
  match p with
  | .empty | .edge _ => sized stateSize
  | .literal cs => sized (stateSize * (String.ofList cs).utf8ByteSize)
  | .one s => sized (setSize backward s)
  | .seq a b => sized (a.weight backward false + b.weight backward false)
  | .either a b =>
    let size := a.weight backward true + b.weight backward true
    if isBranch then size
    else
      match words? (branches (.either a b)) with
      | some words => literalsSize backward words
      | none => stateSize + stateSize + size
  | .times least most a =>
    sized (timesSize least most (!a.shortest?.any (0 < ·)) (a.weight backward false))
  | .group _ a => sized (a.weight backward false + if backward then 0 else 2 * stateSize)
termination_by structural p

/-- Whether every piece begins at the start of the text, as can be seen from what comes first. -/
def startsText : Pattern → Bool
  | .edge e => e = .textStart
  | .empty | .literal _ | .one _ => false
  | .seq a b => a.startsText || (a.takesNothing && b.startsText)
  | .either a b => a.startsText && b.startsText
  | .times least _ a => 0 < least && a.startsText
  | .group _ a => a.startsText

/-- Whether every piece stops at the end of the text, as can be seen from what comes last. -/
def endsText : Pattern → Bool
  | .edge e => e = .textEnd
  | .empty | .literal _ | .one _ => false
  | .seq a b => b.endsText || (b.takesNothing && a.endsText)
  | .either a b => a.endsText && b.endsText
  | .times least _ a => 0 < least && a.endsText
  | .group _ a => a.endsText

/-- The size of the automaton. Bytes before the pattern are passed over unless it can only be at the
very front. -/
def size (backward : Bool) (p : Pattern) : Nat :=
  let atFront := if backward then p.endsText else p.startsText
  let passing := if atFront then stateSize else forkSize 2 + stateSize + rangesSize 1
  passing + p.weight backward false + stateSize + if backward then 0 else 2 * stateSize

/-- Whether edges of words are asked for where their characters are not known. -/
def hasWideEdge : Pattern → Bool
  | .edge (.word _ wide) => wide
  | .empty | .edge _ | .literal _ | .one _ => false
  | .seq a b | .either a b => a.hasWideEdge || b.hasWideEdge
  | .times _ _ a | .group _ a => a.hasWideEdge

/-- Refuse a pattern that no automaton is made for. -/
def check (p : Pattern) : Except Refusal Unit :=
  if sizeLimit < p.size false then .error .tooLarge
  else if p.hasWideEdge then .error .wideEdge
  else if sizeLimit < p.size true then .error .tooLarge
  else .ok ()

/-! ## Patterns as texts

A text is a pattern if it can be read, if what it says is known, and if its automaton is
not too large. The first of these that fails is why it is refused. -/

def ofString (text : String) : Except Refusal Pattern := do
  let t ← (Tree.ofString text).mapError .fault
  let (p, _) ← (t.meaning .standard).mapError .fault
  p.check
  return p

end FantasyConsole.Text.Pattern
