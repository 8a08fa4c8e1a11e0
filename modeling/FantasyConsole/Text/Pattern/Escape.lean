import FantasyConsole.Text.Pattern.Reader
import FantasyConsole.Text.Pattern.Tree

/-!
# Escapes

After a backslash a letter stands for a character, a set or an edge, and a sign for
itself. Characters may also be written as hexadecimal numbers.
-/
namespace FantasyConsole.Text.Pattern

open Read

def hexValue? (c : Char) : Option Nat :=
  if '0' ≤ c && c ≤ '9' then some (c.toNat - 48)
  else if 'a' ≤ c && c ≤ 'f' then some (c.toNat - 87)
  else if 'A' ≤ c && c ≤ 'F' then some (c.toNat - 55)
  else none

def scalar (n start stop : Nat) : Read Char :=
  if n.isValidChar then return Char.ofNat n else fail .badHexNumber start stop

/-- Read `left` more digits of a number. -/
def hexDigits : (left value : Nat) → Read Nat
  | 0, value => return value
  | left + 1, value => do
    match ← char? with
    | none => failSince .endInEscape (← place)
    | some c =>
      match hexValue? c with
      | none => failHere .badHexDigit
      | some d =>
        next
        hexDigits left (value * 16 + d)

/-- Read digits up to a closing brace, after the opening one is reached. -/
def hexBraced : Read Char := do
  let brace ← place
  next
  let digits ← takeText (hexValue? · |>.isSome)
  match ← char? with
  | none => failSince .endInEscape brace
  | some '}' =>
    let stop ← place
    next
    if digits.isEmpty then failSince .emptyHex brace
    scalar (digits.foldl (fun n c => min (n * 16 + (hexValue? c).getD 0) 0x110000) 0)
      (brace + 1) stop
  | some _ => failHere .badHexDigit

/-- Read a number of some digits, or of any in braces, after the letter for it is reached. -/
def hexEscape (start digits : Nat) : Read Letter := do
  next
  match ← char? with
  | none => failSince .endInEscape (← place)
  | some '{' => return ⟨← hexBraced, false, ⟨start, ← place⟩⟩
  | some _ =>
    let first ← place
    let n ← hexDigits digits 0
    return ⟨← scalar n first (← place), digits = 2, ⟨start, ← place⟩⟩

/-- A name of a property without what may be left out of it. -/
def plainName (name : List Char) : List Char :=
  let name := if (name.take 2).map Char.toLower = ['i', 's'] then name.drop 2 else name
  (name.filter fun c => c.toNat < 128 && !(c = ' ' || c = '_' || c = '-')).map Char.toLower

/-- Names that are for values of a property and for a property as well: the values are looked up. -/
def namesValue (name : List Char) : Bool :=
  !(name.contains ':' || name.contains '=') &&
    ["cf", "sc", "lc"].contains (String.ofList (plainName name))

/-- Read the name of a property, a letter or a text in braces, after the letter for it is
reached. -/
def property (start : Nat) : Read SetTree := do
  next
  match ← char? with
  | none => failSince .endInEscape (← place)
  | some '\\' => failHere .badProperty
  | some '{' =>
    next
    let name ← takeText (· != '}')
    if ← isAtEnd then failSince .endInEscape (← place)
    step
    return .property (namesValue name) ⟨start, ← place⟩
  | some _ =>
    next
    return .property false ⟨start, ← place⟩

/-- The letters that stand for a character. -/
def charOf? : Char → Option Char
  | 'a' => some '\x07'
  | 'f' => some '\x0c'
  | 't' => some '\t'
  | 'n' => some '\n'
  | 'r' => some '\r'
  | 'v' => some '\x0b'
  | _ => none

/-- The letters that stand for a set. -/
def shorthandOf? : Char → Option Shorthand
  | 'd' => some .digit
  | 's' => some .blank
  | 'w' => some .word
  | _ => none

/-- The signs that stand for an edge. -/
def edgeOf? : Char → Option EdgeSign
  | 'A' => some .textStart
  | 'z' => some .textEnd
  | 'b' => some (.word .edge)
  | 'B' => some (.word .notEdge)
  | '<' => some (.word .start)
  | '>' => some (.word .stop)
  | _ => none

def edgeNames : List (String × WordEdge) :=
  [("start", .start), ("end", .stop), ("start-half", .mayStart), ("end-half", .mayStop)]

/-- Read the name of an edge in braces, if there is one. The braces may also be those of counts. -/
def namedEdge? (start : Nat) : Read (Option WordEdge) := do
  let inName (c : Char) : Bool := c.isAlpha || c = '-'
  let before ← get
  if (← char?) != some '{' then return none
  next
  let inside ← place
  match ← char? with
  | none => failSince .edgeOrCount start
  | some c =>
    if !inName c then
      set before
      return none
    let name ← takeText inName
    if (← char?) != some '}' then failSince .unclosedEdge before.place
    match edgeNames.lookup (String.ofList name) with
    | none => failSince .unknownEdge inside
    | some e =>
      step
      return some e

/-- Read an escape after its backslash is reached. Any other ASCII sign stands for itself. -/
def escape : Read Atom := do
  let start ← place
  step
  match ← char? with
  | none => failSince .endInEscape start
  | some 'x' => return .letter (← hexEscape start 2)
  | some 'u' => return .letter (← hexEscape start 4)
  | some 'U' => return .letter (← hexEscape start 8)
  | some 'p' | some 'P' => return .set (← property start)
  | some c =>
    step
    let span : Span := ⟨start, ← place⟩
    if c.isDigit then failSince .backReference start
    else if let some s := shorthandOf? c then return .set (.shorthand s false span)
    else if let some s := shorthandOf? c.toLower then return .set (.shorthand s true span)
    else if let some d := charOf? c then return .letter ⟨d, false, span⟩
    else if let some e := edgeOf? c then
      match ← if c = 'b' then namedEdge? start else pure none with
      | some e => return .edge (.word e) ⟨start, ← place⟩
      | none => return .edge e span
    else if c.toNat < 128 && !c.isAlphanum then return .letter ⟨c, false, span⟩
    else failSince .unknownEscape start

end FantasyConsole.Text.Pattern
