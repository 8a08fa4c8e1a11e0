import FantasyConsole.Text.Pattern.Brackets
import FantasyConsole.Text.Pattern.Nesting
import FantasyConsole.Text.Pattern.Opening

/-!
# Reading patterns

The text of a pattern is read from left to right. Parentheses make groups, a bar
separates alternatives, brackets enclose sets of characters, and a star, a plus, a
question mark or counts in braces repeat what stands before them. Everything else
is an escape, one of the signs for any character and for edges, or itself.
-/
namespace FantasyConsole.Text.Pattern

open Read

/-! ## Counts -/

/-- Read a decimal number, blanks around it allowed. What is wrong with it may count later or not at
all. -/
def decimal : Read (Except FaultAt Nat) := do
  let _ ← takeText isBlank
  let start ← place
  let digits ← takeText (·.isDigit)
  let span : Span := ⟨start, ← place⟩
  let _ ← takeText isBlank
  let n := digits.foldl (fun n c => n * 10 + (c.toNat - 48)) 0
  if digits.isEmpty then return .error ⟨.emptyCount, span, none⟩
  else if n < 4294967296 then return .ok n
  else return .error ⟨.badNumber, span, none⟩

/-- Go over a question mark, which makes repetition take as little as it can. -/
def skipLazy : Read Unit := do let _ ← accept "?"

/-- Read counts in braces after the opening one is reached. -/
def counts : Read (Nat × Option Nat) := do
  let start ← place
  let advance : Read Unit := do
    next
    if ← isAtEnd then failSince .unclosedCount start
  advance
  let least ← decimal
  if ← isAtEnd then failSince .unclosedCount start
  let (least, most) ←
    if (← char?) = some ',' then
      advance
      let least ← ofExcept least
      if (← char?) = some '}' then pure (least, none)
      else pure (least, some (← ofExcept (← decimal)))
    else
      let n ← ofExcept least
      pure (n, some n)
  if (← char?) != some '}' then failSince .unclosedCount start
  next
  skipLazy
  if most.any (· < least) then failSince .badCountRange start
  return (least, most)

/-! ## Groups -/

/-- The alternatives of a group: those that are complete, last first, and the items of the open one,
last first, and where all of them and the open one begin. -/
structure Branches where
  start : Nat
  complete : List Tree
  place : Nat
  items : List Tree

namespace Branches

def startAt (place : Nat) : Branches := ⟨place, [], place, []⟩

def push (b : Branches) (t : Tree) : Branches := { b with items := t :: b.items }

def last (b : Branches) (stop : Nat) : Tree :=
  match b.items with
  | [] => .empty
  | [t] => t
  | items => .all items.reverse ⟨b.place, stop⟩

def close (b : Branches) (stop : Nat) : Tree :=
  match b.complete with
  | [] => b.last stop
  | complete => .any (b.last stop :: complete).reverse ⟨b.start, stop⟩

def bar (b : Branches) (place : Nat) : Branches :=
  ⟨b.start, b.last place :: b.complete, place + 1, []⟩

end Branches

/-- An open group: where it begins, whether the text around it is spaced, and the alternatives
around it. -/
structure OpenGroup where
  kind : GroupKind
  place : Nat
  spaced : Bool
  around : Branches

/-- Whether text is spaced after some changes of flags. -/
def spacedBy (changes : FlagChanges) (spaced : Bool) : Bool := (changes.lookup .spaced).getD spaced

/-! ## Whole patterns -/

/-- Read an item that is no group and no repetition: a set, an escape or a sign. -/
def item (c : Char) : Read Atom := do
  let span := (← get).span
  match c with
  | '[' => return .set (← bracketed)
  | '\\' => escape
  | _ =>
    step
    match c with
    | '.' => return .any span
    | '^' => return .edge .lineStart span
    | '$' => return .edge .lineEnd span
    | c => return .letter ⟨c, false, span⟩

/-- How a sign repeats what stands before it. -/
def repetition? : Char → Option (Nat × Option Nat)
  | '*' => some (0, none)
  | '+' => some (1, none)
  | '?' => some (0, some 1)
  | _ => none

/-- Repeat the last item by counts that are read. Flags cannot be repeated. -/
def repeatLast (b : Branches) (counts : Read (Nat × Option Nat)) : Read Branches := do
  let here ← place
  match b.items with
  | [] | .empty :: _ | .flags _ :: _ => fail .missingOperand here here
  | t :: items =>
    let (least, most) ← counts
    return { b with items := .times least most t ⟨t.start, ← place⟩ :: items }

/-- Read a pattern up to its end, in some open groups. -/
def readAll : (fuel : Nat) → List OpenGroup → Branches → Read Tree
  | 0, _, b => return b.close (← place)
  | fuel + 1, groups, b => do
    skip
    let here ← place
    match ← char? with
    | none =>
      match groups with
      | [] => return b.close here
      | g :: _ => fail .unclosedGroup g.place (g.place + 1)
    | some '(' =>
      let spaced := (← get).spaced
      match ← opening with
      | .group kind =>
        let changes := match kind with
          | .flagged changes => changes
          | .numbered _ => []
        modify fun r => { r with spaced := spacedBy changes spaced }
        readAll fuel (⟨kind, here, spaced, b⟩ :: groups) (.startAt (← place))
      | .flags changes =>
        modify fun r => { r with spaced := spacedBy changes spaced }
        readAll fuel groups (b.push (.flags changes))
    | some ')' =>
      match groups with
      | [] => failHere .unopenedGroup
      | g :: groups =>
        step
        modify fun r => { r with spaced := g.spaced }
        readAll fuel groups (g.around.push (.group g.kind (b.close here) ⟨g.place, here + 1⟩))
    | some '|' =>
      step
      readAll fuel groups (b.bar here)
    | some '{' => readAll fuel groups (← repeatLast b counts)
    | some c =>
      match repetition? c with
      | some bounds =>
        let b ← repeatLast b do
          step
          skipLazy
          return bounds
        readAll fuel groups b
      | none => readAll fuel groups (b.push (.atom (← item c)))

def Tree.ofString (text : String) : Except FaultAt Tree := do
  let (t, _) ← (readAll (text.length + 1) [] (.startAt 0)).run (.ofString text)
  t.checkDepth
  return t

end FantasyConsole.Text.Pattern
