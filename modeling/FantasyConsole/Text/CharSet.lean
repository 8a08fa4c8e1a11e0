/-!
# Sets of characters

A set of characters is kept as its ranges, in ascending order and as wide as they
can be. Characters count by their numbers. The numbers of surrogates stand for no
character, so two ranges do not touch across them.
-/
namespace FantasyConsole.Text

/-- Ranges of character numbers, both ends included. -/
structure CharSet where
  ranges : List (Nat × Nat)
  deriving DecidableEq, Repr

namespace CharSet

def empty : CharSet := ⟨[]⟩

def isEmpty (s : CharSet) : Bool := s.ranges.isEmpty

def contains (s : CharSet) (c : Char) : Bool :=
  s.ranges.any fun (low, high) => low ≤ c.toNat && c.toNat ≤ high

/-- Add a range to others, and join it to those that it meets or touches. -/
def addTo (low high : Nat) : List (Nat × Nat) → List (Nat × Nat)
  | [] => [(low, high)]
  | (a, b) :: rest =>
    if high + 1 < a then (low, high) :: (a, b) :: rest
    else if b + 1 < low then (a, b) :: addTo low high rest
    else addTo (min low a) (max high b) rest

def add (s : CharSet) (low high : Nat) : CharSet := ⟨addTo low high s.ranges⟩

def ofRanges (rs : List (Char × Char)) : CharSet :=
  rs.foldl (fun s (low, high) => s.add low.toNat high.toNat) empty

def range (low high : Char) : CharSet := ofRanges [(low, high)]

def ofChars (cs : List Char) : CharSet := ofRanges (cs.map fun c => (c, c))

def union (s t : CharSet) : CharSet := t.ranges.foldl (fun s (low, high) => s.add low high) s

def inter (s t : CharSet) : CharSet :=
  ⟨s.ranges.flatMap fun (a, b) => t.ranges.filterMap fun (c, d) =>
    if max a c ≤ min b d then some (max a c, min b d) else none⟩

/-- The number of the character after that of number `n`. -/
def next (n : Nat) : Nat := if n = 0xD7FF then 0xE000 else n + 1

/-- The number of the character before that of number `n`. -/
def previous (n : Nat) : Nat := if n = 0xE000 then 0xD7FF else n - 1

/-- What a range has below and above another one. -/
def cut (low high : Nat) (r : Nat × Nat) : List (Nat × Nat) :=
  if r.2 < low || high < r.1 then [r]
  else (if r.1 < low then [(r.1, previous low)] else []) ++
    if high < r.2 then [(next high, r.2)] else []

def diff (s t : CharSet) : CharSet :=
  ⟨t.ranges.foldl (fun rs (low, high) => rs.flatMap (cut low high)) s.ranges⟩

def lastNumber : Nat := 0x10FFFF

/-- What lies between two neighbouring ranges. Where only surrogates do, the ends of the ranges
stand for it. -/
def gap (above below : Nat) : Nat × Nat :=
  (min (next above) (previous below), max (next above) (previous below))

/-- The gaps of ranges above a number that is in none of them, and up to the last number. -/
def gapsAfter : (above : Nat) → List (Nat × Nat) → List (Nat × Nat)
  | above, [] => if above < lastNumber then [(next above, lastNumber)] else []
  | above, (low, high) :: rest => gap above low :: gapsAfter high rest

def compl (s : CharSet) : CharSet :=
  match s.ranges with
  | [] => ⟨[(0, lastNumber)]⟩
  | (low, high) :: rest => ⟨(if 0 < low then [(0, previous low)] else []) ++ gapsAfter high rest⟩

/-- The set with its ASCII letters in both cases. -/
def bothCases (s : CharSet) : CharSet :=
  let shifted (letters : CharSet) (shift : Nat → Nat) : CharSet :=
    ⟨(s.inter letters).ranges.map fun (low, high) => (shift low, shift high)⟩
  (s.union (shifted (range 'a' 'z') (· - 32))).union (shifted (range 'A' 'Z') (· + 32))

def isAscii (s : CharSet) : Bool := s.ranges.all (·.2 < 128)

/-- The only character of a set that has no other. -/
def single? (s : CharSet) : Option Char :=
  match s.ranges with
  | [(low, high)] => if low = high then some (Char.ofNat low) else none
  | _ => none

def digit : CharSet := range '0' '9'

/-- Blanks among the ASCII characters. -/
def blank : CharSet := ofRanges [('\t', '\r'), (' ', ' ')]

/-- The characters of words. -/
def wordLike : CharSet := ofRanges [('0', '9'), ('A', 'Z'), ('a', 'z'), ('_', '_')]

end CharSet

end FantasyConsole.Text
