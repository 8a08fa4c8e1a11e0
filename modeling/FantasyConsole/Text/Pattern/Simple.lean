import FantasyConsole.Text.Pattern

/-!
# Simple forms of patterns

Patterns are put together in a simple form. A sequence has no empty parts, no
sequences and no two literals in a row among its parts. Alternatives have none among
them that are alternatives themselves; if all are characters or all are sets they are
one set, and what all of them begin with stands before them once. What can take
nothing is not repeated.
-/
namespace FantasyConsole.Text.Pattern

def ofSet (s : CharSet) : Pattern :=
  match s.single? with
  | some c => .literal [c]
  | none => .one s

/-! ## Sequences -/

def parts : Pattern → List Pattern
  | .empty => []
  | .seq a b => a.parts ++ b.parts
  | p => [p]

def chain : List Pattern → Pattern
  | [] => .empty
  | [p] => p
  | p :: rest => .seq p (chain rest)

/-- Put a part before others; literals run together. -/
def addPart (p : Pattern) (rest : List Pattern) : List Pattern :=
  match p, rest with
  | .literal a, .literal b :: rest => .literal (a ++ b) :: rest
  | p, rest => p :: rest

def sequence (ps : List Pattern) : Pattern := chain ((ps.flatMap parts).foldr addPart [])

/-! ## Alternatives -/

def branches : Pattern → List Pattern
  | .either a b => a.branches ++ b.branches
  | p => [p]

/-- One of some patterns, none of them alternatives. -/
def oneOf : List Pattern → Pattern
  | [] => .one .empty
  | [p] => p
  | p :: rest => .either p (oneOf rest)

/-- The character that a literal of one is. -/
def asChar? : Pattern → Option Char
  | .literal [c] => some c
  | _ => none

def asSet? : Pattern → Option CharSet
  | .one s => some s
  | _ => none

/-- The one set that alternatives are. -/
def merged? (ps : List Pattern) : Option Pattern :=
  match ps.mapM asChar?, ps.mapM asSet? with
  | some cs, _ => some (ofSet (.ofChars cs))
  | none, some sets => some (ofSet (sets.foldl .union .empty))
  | none, none => none

/-- One of some patterns, which may be alternatives. -/
def together (ps : List Pattern) : Pattern :=
  let ps := ps.flatMap branches
  (merged? ps).getD (oneOf ps)

def isSequence : Pattern → Bool
  | .seq _ _ => true
  | _ => false

/-- What two sequences both begin with. -/
def samePart : List Pattern → List Pattern → List Pattern
  | p :: ps, q :: qs => if p = q then p :: samePart ps qs else []
  | _, _ => []

/-- What several sequences all begin with. -/
def sharedStart (ps : List Pattern) : List Pattern :=
  match ps.map parts with
  | l :: rest => if ps.all isSequence then rest.foldl samePart l else []
  | [] => []

def choice (ps : List Pattern) : Pattern :=
  let ps := ps.flatMap branches
  match merged? ps, sharedStart ps with
  | some p, _ => p
  | none, [] => oneOf ps
  | none, front =>
    sequence (front ++ [together (ps.map fun p => chain (p.parts.drop front.length))])

/-! ## Repetition -/

/-- Whether all pieces are known to be empty. -/
def takesNothing : Pattern → Bool
  | .empty | .edge _ => true
  | .literal _ | .one _ => false
  | .seq a b | .either a b => a.takesNothing && b.takesNothing
  | .times _ most a => most.isSome && a.takesNothing
  | .group _ a => a.takesNothing

def repeated (least : Nat) (most : Option Nat) (p : Pattern) : Pattern :=
  let (least, most) :=
    if p.takesNothing then (min least 1, some (min (most.getD 1) 1)) else (least, most)
  if most = some 0 then .empty
  else if least = 1 && most = some 1 then p
  else .times least most p

end FantasyConsole.Text.Pattern
