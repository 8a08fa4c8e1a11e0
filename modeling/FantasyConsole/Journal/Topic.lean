/-!
# Topics

The parts of a console that speak of what they do. The name of a part begins with
the name of what it is a part of.
-/
namespace FantasyConsole

inductive Topic where
  | play | machine | evaluator | bus | video | devices | pager | debugConsole | controller
  | rom | screenshot
  | stamping
  deriving DecidableEq, Repr

namespace Topic

def name : Topic → String
  | .play => "b6x"
  | .machine => "b6x::machine"
  | .evaluator => "b6x::cpu::execute"
  | .bus => "b6x::bus"
  | .video => "b6x::vdp::registers"
  | .devices => "b6x::devices"
  | .pager => "b6x::devices::pager"
  | .debugConsole => "b6x::devices::debug"
  | .controller => "b6x::controller"
  | .rom => "b6x::rom"
  | .screenshot => "b6x::screenshot"
  | .stamping => "b6xzp"

def all : Vector Topic 12 :=
  #v[.play, .machine, .evaluator, .bus, .video, .devices, .pager, .debugConsole, .controller,
    .rom, .screenshot, .stamping]

def index (t : Topic) : Fin 12 := ⟨t.ctorIdx, by cases t <;> decide⟩

end Topic

end FantasyConsole
