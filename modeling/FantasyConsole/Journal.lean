import FantasyConsole.Journal.Filter
import FantasyConsole.Text.Terminal

/-!
# Journal

What a console says while it works, in order: messages, kept if a filter shows them,
and lines that a debug console prints.
-/
namespace FantasyConsole

/-- Where a debug console prints: the terminal, which the messages go to as well, or a buffer of its
own. -/
inductive Sink where
  | terminal | buffer
  deriving DecidableEq, Repr

inductive Entry where
  | message (level : Level) (text : String)
  | line (sink : Sink) (text : String)
  deriving DecidableEq, Repr

/-- A kind of event that can be put into words. -/
class Loggable (ε : Type) where
  topic : ε → Topic
  level : ε → Level
  message : ε → String

/-- Entries in the order they were made. -/
structure Journal where
  filter : LogFilter
  entries : Array Entry

namespace Journal

def empty (filter : LogFilter) : Journal := ⟨filter, #[]⟩

/-- Keep the message of an event if the filter shows it. -/
@[specialize] def note {ε : Type} [Loggable ε] (j : Journal) (e : ε) : Journal :=
  if j.filter.shows (Loggable.topic e) (Loggable.level e) then
    let text := Loggable.message e
    if j.filter.fits text then { j
      with entries := j.entries.push (.message (Loggable.level e) text) } else j
  else j

/-- Printed lines are kept whatever the filter. -/
def print (j : Journal) (sink : Sink) (text : String) : Journal :=
  { j with entries := j.entries.push (.line sink text) }

end Journal

def messages (entries : List Entry) : List String :=
  entries.filterMap fun
    | .message level text => some (level.name ++ " " ++ text)
    | .line _ _ => none

def printed (sink : Sink) (entries : List Entry) : List String :=
  entries.filterMap fun
    | .line s text => if s = sink then some text else none
    | .message _ _ => none

/-- A text whose lines after the first are indented by four blanks. -/
def indented (text : String) : String := String.intercalate "\n    " (text.splitOn "\n")

/-- What an entry puts on a terminal. A message is plain text up to its last line feed; a printed
line stays as it is. -/
def Entry.shown : Entry → String
  | .message level text => Terminal.plain (indented (level.name ++ " " ++ text) ++ "\n")
  | .line .terminal text => text ++ "\n"
  | .line .buffer _ => ""

/-- The text that a terminal shows: the messages and what is printed to it. -/
def shown (entries : List Entry) : String := String.join (entries.map (·.shown))

end FantasyConsole
