import FantasyConsole.Text.Pattern.Fault

/-!
# The reader of a pattern

A reader goes over a text character by character. Where the text is spaced, blanks
and remarks from a number sign to the end of the line are left out, but only where
the reader is told to skip them.
-/
namespace FantasyConsole.Text

/-! ## Blanks

The blank characters, layout controls and spaces of all widths, and texts without
blanks around them. -/

def isBlank (c : Char) : Bool :=
  let n := c.toNat
  (9 ≤ n && n ≤ 13) || n = 0x20 || n = 0x85 || n = 0xA0 || n = 0x1680 ||
  (0x2000 ≤ n && n ≤ 0x200A) || n = 0x2028
    || n = 0x2029 || n = 0x202F || n = 0x205F || n = 0x3000

/-- A text without the blanks at its ends. -/
def trimmed (s : String) : String :=
  String.ofList ((s.toList.dropWhile isBlank).reverse.dropWhile isBlank).reverse

/-! ## Readers -/

namespace Pattern

/-- What is left of a text, and what is kept in mind of it: where the reader is, whether the text is
spaced, how many groups were opened and which of them have names. -/
structure Reader where
  rest : List Char
  place : Nat
  spaced : Bool
  groups : Nat
  names : List (String × Span)

namespace Reader

def ofString (text : String) : Reader := ⟨text.toList, 0, false, 0, []⟩

def step (r : Reader) : Reader :=
  match r.rest with
  | [] => r
  | _ :: rest => { r with rest, place := r.place + 1 }

/-- What is left after the blanks and remarks at the front, and its place. -/
def afterBlanks : (inRemark : Bool) → List Char → (place : Nat) → List Char × Nat
  | _, [], place => ([], place)
  | true, c :: rest, place => afterBlanks (c != '\n') rest (place + 1)
  | false, c :: rest, place =>
    if isBlank c then afterBlanks false rest (place + 1)
    else if c = '#' then afterBlanks true rest (place + 1)
    else (c :: rest, place)

def skip (r : Reader) : Reader :=
  if r.spaced then
    let (rest, place) := afterBlanks false r.rest r.place
    { r with rest, place }
  else r

/-- Look past the next character for one that is no blank. What a remark says counts as well; where
there are only blanks the first of them does. -/
def peek? (r : Reader) : Option Char :=
  let rest := r.rest.drop 1
  let past := rest.dropWhile isBlank
  let found := if past.head? = some '#' then (past.drop 1).dropWhile isBlank else past
  if r.spaced then found.head?.or rest.head? else rest.head?

def isAt (r : Reader) (s : String) : Bool := s.toList.isPrefixOf r.rest

/-- Where the next character is, if there is one. -/
def span (r : Reader) : Span := ⟨r.place, if r.rest.isEmpty then r.place else r.place + 1⟩

end Reader

abbrev Read := StateT Reader (Except FaultAt)

namespace Read

def fail {α : Type} (fault : Fault) (start stop : Nat) : Read α :=
  throw ⟨fault, ⟨start, stop⟩, none⟩

/-- Refuse what was there before. -/
def failTwice {α : Type} (fault : Fault) (span earlier : Span) : Read α :=
  throw ⟨fault, span, some earlier⟩

def failSince {α : Type} (fault : Fault) (start : Nat) : Read α := do fail fault start (← get).place

def failHere {α : Type} (fault : Fault) : Read α := do
  let span := (← get).span
  fail fault span.start span.stop

def place : Read Nat := return (← get).place

def char? : Read (Option Char) := return (← get).rest.head?

def step : Read Unit := modify Reader.step

def skip : Read Unit := modify Reader.skip

/-- Go over a character and what is left out after it. -/
def next : Read Unit := modify fun r => r.step.skip

/-- Go over a text if it is ahead. -/
def accept (s : String) : Read Bool := do
  let r ← get
  if r.isAt s then
    set { r with rest := r.rest.drop s.length, place := r.place + s.length }
    return true
  else return false

def acceptAny : List String → Read Bool
  | [] => return false
  | s :: rest => do if ← accept s then return true else acceptAny rest

def isAtEnd : Read Bool := return (← get).rest.isEmpty

/-- Take characters that suit, up to `fuel` of them. -/
def takeUpTo (suits : Char → Bool) : (fuel : Nat) → Read (List (Char × Span))
  | 0 => return []
  | fuel + 1 => do
    match ← char? with
    | none => return []
    | some c =>
      if suits c then
        let span := (← get).span
        next
        return (c, span) :: (← takeUpTo suits fuel)
      else return []

/-- Take all characters at the front that suit, without what is left out after each. -/
def takeWhile (suits : Char → Bool) : Read (List (Char × Span)) := do
  takeUpTo suits (← get).rest.length

/-- The text of all characters at the front that suit. -/
def takeText (suits : Char → Bool) : Read (List Char) := return (← takeWhile suits).map (·.1)

end Read

end Pattern

end FantasyConsole.Text
