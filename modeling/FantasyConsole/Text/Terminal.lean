/-!
# Terminal text

A terminal takes some characters as commands: single controls and the sequences
that an escape opens. Plain text is what is left without them. Tabs, line feeds,
form feeds and carriage returns count as text, and so does every character
beyond ASCII that no open sequence swallows.
-/
namespace FantasyConsole.Terminal

/-- Which sequence is open: none, or how far one has been read. -/
inductive State where
  | ground
  /-- After an escape. -/
  | escape
  /-- After an escape and blanks or marks, before the final character. -/
  | escapeMiddle
  /-- In a control sequence, up to its final character. -/
  | control
  | deviceEntry
  | deviceParameters
  | deviceMiddle
  /-- In a text that is for the terminal only, up to a string terminator. -/
  | device
  /-- In a system command, up to a bell or a string terminator. -/
  | system
  deriving DecidableEq, Repr

def within (low high : Nat) (c : Char) : Bool := low ≤ c.toNat && c.toNat ≤ high

/-- Tab, line feed, form feed and carriage return. -/
def isLayout (c : Char) : Bool := c = '\t' || c = '\n' || c = '\x0c' || c = '\r'

/-- The characters that end any sequence without being its end: cancel and substitute. -/
def isCancel (c : Char) : Bool := c = '\x18' || c = '\x1a'

def isEscape (c : Char) : Bool := c = '\x1b'

/-- Whether a byte of the character, beyond the first, is the string terminator `0x9C`. -/
def holdsTerminator (c : Char) : Bool :=
  let n := c.toNat
  128 ≤ n && (n % 64 = 0x1C || (2048 ≤ n && n / 64 % 64 = 0x1C) ||
    (65536 ≤ n && n / 4096 % 64 = 0x1C))

/-- Go on in a device text: its parameters, what stands between them and the final character, the
text. -/
def deviceNext (c : Char) (digits marks : State) (stay : State) : State :=
  if within 0x20 0x2F c then .deviceMiddle
  else if within 0x30 0x3B c then digits
  else if within 0x3C 0x3F c then marks
  else if within 0x40 0x7E c then .device
  else stay

/-- What a character after an escape opens. -/
def opened (c : Char) : State :=
  match c with
  | '[' => .control
  | ']' => .system
  | 'P' => .deviceEntry
  | 'X' | '^' | '_' => .device
  | _ => .ground

/-- Whether a character is text where no sequence is open. -/
def isText (c : Char) : Bool := isLayout c || within 0x20 0x7E c || 128 ≤ c.toNat

/-- The state after a character that is read in a state, and whether it is text. Layout in an escape
or a control sequence is text and leaves it open. -/
def advance (s : State) (c : Char) : State × Bool :=
  if isCancel c then (.ground, false)
  else if isEscape c then (.escape, false)
  else
    match s with
    | .ground => (.ground, isText c)
    | .escape =>
      if within 0x20 0x2F c then (.escapeMiddle, false)
      else if within 0x30 0x7E c then (opened c, false)
      else (.escape, isLayout c)
    | .escapeMiddle => (if within 0x30 0x7E c then .ground else .escapeMiddle, isLayout c)
    | .control => (if within 0x40 0x7E c then .ground else .control, isLayout c)
    | .deviceEntry => (deviceNext c .deviceParameters .deviceParameters .deviceEntry, false)
    | .deviceParameters => (deviceNext c .deviceParameters .device .deviceParameters, false)
    | .deviceMiddle => (deviceNext c .device .device .deviceMiddle, false)
    | .device => (if holdsTerminator c then .ground else .device, false)
    | .system => (if c = '\x07' then .ground else .system, false)

/-- A reader of terminal text. Once it has shown a character it shows what follows, also within an
open sequence, until a control that is not layout; then the sequence goes on, unless a character
beyond ASCII was shown. -/
structure Reader where
  state : State
  showing : Bool
  deriving DecidableEq, Repr

namespace Reader

def start : Reader := ⟨.ground, false⟩

/-- The reader after a character, and whether the character is text. -/
def next (r : Reader) (c : Char) : Reader × Bool :=
  if r.showing && isText c then (⟨if 128 ≤ c.toNat then .ground else r.state, true⟩, true)
  else
    let (s, shown) := advance r.state c
    (⟨s, shown⟩, shown)

end Reader

/-- The text among characters that a reader takes. -/
def plainFrom (r : Reader) : List Char → List Char
  | [] => []
  | c :: cs =>
    let (r, shown) := r.next c
    if shown then c :: plainFrom r cs else plainFrom r cs

def plain (text : String) : String := String.ofList (plainFrom .start text.toList)

def withoutReturn (line : List Char) : List Char :=
  if line.getLast? = some '\r' then line.dropLast else line

/-- The lines of a text. A line feed ends a line, together with a carriage return before it; what
follows the last line feed is a line if it is not empty. -/
def lines (text : String) : List String :=
  let pieces := text.splitOn "\n"
  (pieces.dropLast.map fun line => String.ofList (withoutReturn line.toList))
    ++ (pieces.getLast?.toList.filter (· != ""))

end FantasyConsole.Terminal
