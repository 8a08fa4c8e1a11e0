import FantasyConsole.Text.Pattern.Escape

/-!
# Sets in brackets

A set in brackets has characters, ranges of them, escapes and other sets as its items.
Between items two equal signs join what is before them to what follows: all before the
first one, then the result to what is before the second one, and so on.
-/
namespace FantasyConsole.Text.Pattern

open Read

def namedSets : List (String × CharSet) :=
  [("alnum", .ofRanges [('0', '9'), ('A', 'Z'), ('a', 'z')]),
    ("alpha", .ofRanges [('A', 'Z'), ('a', 'z')]), ("ascii", .range '\x00' '\x7f'),
    ("blank", .ofChars ['\t', ' ']), ("cntrl", .ofRanges [('\x00', '\x1f'), ('\x7f', '\x7f')]),
    ("digit", .digit), ("graph", .range '!' '~'), ("lower", .range 'a' 'z'),
    ("print", .range ' ' '~'),
    ("punct", .ofRanges [('!', '/'), (':', '@'), ('[', '\x60'), ('\x7b', '~')]),
    ("space", .blank), ("upper", .range 'A' 'Z'), ("word", .wordLike),
    ("xdigit", .ofRanges [('0', '9'), ('A', 'F'), ('a', 'f')])]

/-- Read the name of a set in brackets and colons. Anything else there is left as it is. -/
def namedSet? : Read (Option SetTree) := do
  let before ← get
  if ← accept "[:" then
    let negated ← accept "^"
    let name := String.ofList ((← get).rest.takeWhile (· != ':'))
    if ← accept (name ++ ":]") then
      if let some s := namedSets.lookup name then
        return some (.named s negated ⟨before.place, ← place⟩)
  set before
  return none

def setOp? : Read (Option SetOp) := do
  if ← accept "&&" then return some .both
  else if ← accept "--" then return some .without
  else if ← accept "~~" then return some .oneOf
  else return none

/-- The start of a set: its bracket and what follows up to the first item that counts as such,
whether it is negated, the place of the first item, and the signs that count as themselves at the
start. -/
structure SetStart where
  span : Span
  negated : Bool
  inside : Nat
  signs : List SetTree

namespace SetStart

def unclosed {α : Type} (s : SetStart) : Read α := fail .unclosedClass s.span.start s.span.stop

/-- Read the start of a set. Hyphens count as themselves there, and without them a closing bracket
does. -/
def read : Read SetStart := do
  let start ← place
  let advance : Read Unit := do
    next
    if ← isAtEnd then failSince .unclosedClass start
  advance
  let negated := (← char?) = some '^'
  if negated then advance
  let inside ← place
  let hyphens ← takeWhile (· = '-')
  let signs ←
    if !hyphens.isEmpty then
      if ← isAtEnd then fail .unclosedClass start start
      pure (hyphens.map fun (c, span) => SetTree.letter ⟨c, false, span⟩)
    else if (← char?) = some ']' then
      let span := (← get).span
      advance
      pure [.letter ⟨']', false, span⟩]
    else pure []
  return ⟨⟨start, ← place⟩, negated, inside, signs⟩

end SetStart

/-- The items since the last operation, last first, where they begin, and what they are joined
to. -/
structure SetItems where
  before : Option (SetOp × SetTree)
  place : Nat
  items : List SetTree

namespace SetItems

def push (s : SetItems) (t : SetTree) : SetItems := { s with items := t :: s.items }

def close (s : SetItems) : SetTree :=
  let last := match s.items.reverse with
    | [] => .nothing s.place
    | [t] => t
    | t :: rest => .union (t :: rest) (t.span.through ((rest.getLast?.getD t).span))
  match s.before with
  | none => last
  | some (op, a) => .combined op a last (a.span.through last.span)

end SetItems

/-- Read an item that is an escape or a character. -/
def setItem (c : Char) : Read Atom := do
  if c = '\\' then escape
  else
    let span := (← get).span
    step
    return .letter ⟨c, false, span⟩

def Atom.toSet : Atom → Read SetTree
  | .letter l => return .letter l
  | .set s => return s
  | a => fail .badClassEscape a.span.start a.span.stop

def Atom.toLetter : Atom → Read Letter
  | .letter l => return l
  | a => fail .rangeBoundary a.span.start a.span.stop

/-- Read an item or a range. A hyphen before the end of the set or before another one makes no
range. -/
def setRange (s : SetStart) (c : Char) : Read SetTree := do
  let first ← setItem c
  skip
  if ← isAtEnd then s.unclosed
  let ahead := (← get).peek?
  if (← char?) != some '-' || ahead = some ']' || ahead = some '-' then first.toSet
  else
    next
    match ← char? with
    | none => s.unclosed
    | some d =>
      let second ← setItem d
      let low ← first.toLetter
      let high ← second.toLetter
      if high.char < low.char then fail .badRange low.span.start high.span.stop
      return .range low high

/-- Read the items of a set up to its closing bracket. -/
def setItems : (fuel : Nat) → SetStart → SetItems → Read SetTree
  | 0, s, _ => s.unclosed
  | fuel + 1, s, items => do
    skip
    match ← char? with
    | none => s.unclosed
    | some ']' =>
      step
      return .bracketed s.negated items.close ⟨s.span.start, ← place⟩
    | some '[' =>
      match ← namedSet? with
      | some t => setItems fuel s (items.push t)
      | none =>
        let inner ← SetStart.read
        let t ← setItems fuel inner ⟨none, inner.inside, inner.signs.reverse⟩
        setItems fuel s (items.push t)
    | some c =>
      match ← setOp? with
      | some op => setItems fuel s ⟨some (op, items.close), ← place, []⟩
      | none => setItems fuel s (items.push (← setRange s c))

/-- Read a set after its bracket is reached. -/
def bracketed : Read SetTree := do
  let fuel := (← get).rest.length
  let s ← SetStart.read
  setItems fuel s ⟨none, s.inside, s.signs.reverse⟩

end FantasyConsole.Text.Pattern
