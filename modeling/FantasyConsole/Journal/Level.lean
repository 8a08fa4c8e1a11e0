/-!
# Levels of detail

Messages have levels, from the most urgent on. A limit is the last level that is
shown, or nothing if no level is.
-/
namespace FantasyConsole

inductive Level where
  | error | warn | info | debug | trace
  deriving DecidableEq, Repr

namespace Level

def name : Level → String
  | .error => "ERROR"
  | .warn => "WARN"
  | .info => "INFO"
  | .debug => "DEBUG"
  | .trace => "TRACE"

def detail (l : Level) : Nat := l.ctorIdx

def all : List Level := [.error, .warn, .info, .debug, .trace]

/-- The level of a name, in capitals or not. -/
def ofName? (s : String) : Option Level := all.find? (·.name == s.toUpper)

/-- The limit of a name: a level's, or `OFF`. -/
def limit? (s : String) : Option (Option Level) :=
  if s.toUpper = "OFF" then some none else (ofName? s).map some

def shownBy (limit : Option Level) : Nat := limit.elim 0 (·.detail + 1)

end Level

end FantasyConsole
