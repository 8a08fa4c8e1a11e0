import FantasyConsole.Text.Pattern
import FantasyConsole.Text.Pattern.Fault

/-!
# Trees of patterns

What the text of a pattern says, part by part, and where each part is. What a part
stands for also depends on flags, which are set inside the text.
-/
namespace FantasyConsole.Text.Pattern

inductive Flag where
  /-- Letters count in both cases. -/
  | anyCase
  /-- The signs for the ends of the text hold at the ends of each line. -/
  | everyLine
  /-- The sign for any character is for line feeds too. -/
  | dotAll
  /-- Carriage returns end lines as well. -/
  | returns
  /-- Repetition takes as little as it can. That decides what is found, not whether. -/
  | lazy
  /-- More than ASCII counts. -/
  | wide
  /-- Blanks and remarks after a number sign are left out. -/
  | spaced
  deriving DecidableEq, Repr

def Flag.ofChar? : Char → Option Flag
  | 'i' => some .anyCase
  | 'm' => some .everyLine
  | 's' => some .dotAll
  | 'R' => some .returns
  | 'U' => some .lazy
  | 'u' => some .wide
  | 'x' => some .spaced
  | _ => none

/-- Flags that are set or taken back. -/
abbrev FlagChanges := List (Flag × Bool)

/-- A character. One that is written as a number of two digits may be meant as a byte. -/
structure Letter where
  char : Char
  isByte : Bool
  span : Span
  deriving DecidableEq, Repr

/-- A set that an escape stands for. -/
inductive Shorthand where
  | digit | blank | word
  deriving DecidableEq, Repr

def Shorthand.set : Shorthand → CharSet
  | .digit => .digit
  | .blank => .blank
  | .word => .wordLike

/-- Operations on two sets: what both have, what the first one has alone, what one of them has
alone. -/
inductive SetOp where
  | both | without | oneOf
  deriving DecidableEq, Repr

inductive SetTree where
  | nothing (place : Nat)
  | letter (l : Letter)
  | range (low high : Letter)
  /-- A set with a name in brackets and colons. -/
  | named (s : CharSet) (negated : Bool) (span : Span)
  | shorthand (s : Shorthand) (negated : Bool) (span : Span)
  /-- The characters with a property. No property is known; the name may be one for which values are
  looked up. -/
  | property (forValues : Bool) (span : Span)
  | bracketed (negated : Bool) (inner : SetTree) (span : Span)
  | union (items : List SetTree) (span : Span)
  | combined (op : SetOp) (a b : SetTree) (span : Span)
  deriving Repr

def SetTree.span : SetTree → Span
  | nothing place => ⟨place, place⟩
  | letter l => l.span
  | range low high => low.span.through high.span
  | named _ _ span | shorthand _ _ span | property _ span | bracketed _ _ span | union _ span
  | combined _ _ _ span =>
    span

inductive EdgeSign where
  | textStart | textEnd | lineStart | lineEnd
  | word (e : WordEdge)
  deriving DecidableEq, Repr

/-- Parts that have no other patterns in them. -/
inductive Atom where
  | letter (l : Letter)
  | any (span : Span)
  | edge (e : EdgeSign) (span : Span)
  | set (s : SetTree)
  deriving Repr

def Atom.span : Atom → Span
  | letter l => l.span
  | any span | edge _ span => span
  | set s => s.span

/-- Groups that have a number, and groups that have flags of their own. -/
inductive GroupKind where
  | numbered (number : Nat)
  | flagged (changes : FlagChanges)
  deriving DecidableEq, Repr

inductive Tree where
  | empty
  | atom (a : Atom)
  /-- Flags for what follows up to the end of the group. -/
  | flags (changes : FlagChanges)
  | group (kind : GroupKind) (inner : Tree) (span : Span)
  | times (least : Nat) (most : Option Nat) (t : Tree) (span : Span)
  | all (items : List Tree) (span : Span)
  | any (branches : List Tree) (span : Span)
  deriving Repr

/-- Where a part is. Parts that cannot be repeated need no place. -/
def Tree.start : Tree → Nat
  | empty | flags _ => 0
  | atom a => a.span.start
  | group _ _ span | times _ _ _ span | all _ span | any _ span => span.start

end FantasyConsole.Text.Pattern
