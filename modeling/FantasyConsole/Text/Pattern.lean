import FantasyConsole.Text.CharSet

/-!
# Patterns

A pattern describes pieces of text. Its meaning is a function on sets of positions:
from the positions at which a piece may begin to those at which it may end. A
pattern occurs in a text if a piece that begins anywhere can end.
-/
namespace FantasyConsole.Text

/-- Conditions on the characters of words before and after a position. -/
inductive WordEdge where
  | edge | notEdge | start | stop
  /-- No such character before. -/
  | mayStart
  /-- No such character after. -/
  | mayStop
  deriving DecidableEq, Repr

def WordEdge.holds (e : WordEdge) (before after : Bool) : Bool :=
  match e with
  | .edge => before != after
  | .notEdge => before == after
  | .start => !before && after
  | .stop => before && !after
  | .mayStart => !before
  | .mayStop => !after

/-- Conditions on a position in a text. -/
inductive Edge where
  | textStart | textEnd
  /-- The start of the text or a place after the end of a line. A line feed ends lines; a carriage
  return may do so too, and then both together are one end. -/
  | lineStart (returns : Bool)
  /-- The end of the text or a place before the end of a line. -/
  | lineEnd (returns : Bool)
  /-- An edge of words. Words are of ASCII characters; the pattern that is told so is not wide. -/
  | word (e : WordEdge) (wide : Bool)
  deriving DecidableEq, Repr

def Edge.holds (e : Edge) (text : Array Char) (i : Nat) : Bool :=
  let before := if i = 0 then none else text[i - 1]?
  let after := text[i]?
  match e with
  | .textStart => before.isNone
  | .textEnd => after.isNone
  | .lineStart returns =>
    before.all fun c => c = '\n' || (returns && c = '\r' && after != some '\n')
  | .lineEnd returns =>
    after.all fun c => if returns then c = '\r' || (c = '\n' && before != some '\r') else c = '\n'
  | .word e _ =>
    e.holds (before.any CharSet.wordLike.contains) (after.any CharSet.wordLike.contains)

inductive Pattern where
  | empty
  | literal (cs : List Char)
  | one (s : CharSet)
  | edge (e : Edge)
  | seq (a b : Pattern)
  | either (a b : Pattern)
  /-- Repeated at least so often, and at most so often if that is given. -/
  | times (least : Nat) (most : Option Nat) (a : Pattern)
  /-- A group, which has a number. -/
  | group (number : Nat) (a : Pattern)
  deriving DecidableEq, Repr

namespace Pattern

abbrev Positions := Array Bool

def Positions.union (s t : Positions) : Positions := s.zipWith (· || ·) t

/-- The positions that are `length` behind one where something fits. -/
def Positions.moved (s : Positions) (length : Nat) (fits : Nat → Bool) : Positions :=
  (Array.range s.size).map fun i => length ≤ i && s.getD (i - length) false && fits (i - length)

/-- Whether some characters are in a text from position `i` on. -/
def isAt (text : Array Char) (i : Nat) : List Char → Bool
  | [] => true
  | c :: rest => text[i]? == some c && isAt text (i + 1) rest

/-- Apply a function up to `n` times, and no more once that changes nothing. -/
def iterate (f : Positions → Positions) : Nat → Positions → Positions
  | 0, s => s
  | n + 1, s =>
    let t := f s
    if t = s then s else iterate f n t

/-- Where pieces end that begin at some of the positions. -/
def after (text : Array Char) : Pattern → Positions → Positions
  | empty => id
  | literal cs => fun s => s.moved cs.length fun i => isAt text i cs
  | one set => fun s => s.moved 1 fun i => (text[i]?).any set.contains
  | edge e => fun s => s.mapIdx fun i here => here && e.holds text i
  | seq a b => fun s => b.after text (a.after text s)
  | either a b => fun s => (a.after text s).union (b.after text s)
  | times least most a => fun s =>
    let s := iterate (a.after text) least s
    let more := (most.getD (least + text.size + 1)) - least
    iterate (fun s => s.union (a.after text s)) more s
  | group _ a => a.after text

/-- Whether a piece of the text fits. -/
def occursIn (p : Pattern) (text : String) : Bool :=
  let chars := text.toList.toArray
  (p.after chars (Array.replicate (chars.size + 1) true)).any id

end Pattern

end FantasyConsole.Text
