import FantasyConsole.Board

/-!
# Device handlers

A handler is a finite tree of accesses: it inspects or changes the board, reads
or writes ports as a program would, runs the program at an address, and goes on
with the answers. It cannot attach devices or route ports.
-/
namespace FantasyConsole

/-- How a run ended: at a halt instruction, or because its step limit was used up. -/
inductive Outcome where
  | halted | ranOff
  deriving DecidableEq, Repr

/-- The status code of an outcome. -/
def Outcome.code : Outcome → UInt8
  | .halted => 0
  | .ranOff => 1

inductive Handler (α : Type) where
  | done (a : α)
  | inspect (next : Board → Handler α)
  | update (f : Board → Board) (next : Handler α)
  | dei (port : UInt8) (next : UInt8 → Handler α)
  | deo (port value : UInt8) (next : Handler α)
  | run (address : UInt16) (next : Outcome → Handler α)

namespace Handler

variable {α β : Type}

def bind : Handler α → (α → Handler β) → Handler β
  | .done a, k => k a
  | .inspect next, k => .inspect fun b => (next b).bind k
  | .update f next, k => .update f (next.bind k)
  | .dei port next, k => .dei port fun v => (next v).bind k
  | .deo port value next, k => .deo port value (next.bind k)
  | .run address next, k => .run address fun o => (next o).bind k

instance : Monad Handler where
  pure := .done
  bind := bind

def ask (f : Board → α) : Handler α := .inspect fun b => .done (f b)

def change (f : Board → Board) : Handler Unit := .update f (.done ())

def byte (port : UInt8) : Handler UInt8 := ask fun b => b.ports.get port

/-- The word whose low byte is stored at a port. -/
def field (port : UInt8) : Handler UInt16 := ask fun b => b.ports.fieldEndingAt port

def setByte (port v : UInt8) : Handler Unit := change fun b => b.setPort port v

/-- Store a word with its high byte at a port. -/
def setField (port : UInt8) (w : UInt16) : Handler Unit :=
  change fun b => { b with ports := b.ports.setFieldFrom port w }

def note (e : Event) : Handler Unit := change fun b => b.note e

def readPort (port : UInt8) : Handler UInt8 := .dei port .done

def writePort (port v : UInt8) : Handler Unit := .deo port v (.done ())

def runAt (address : UInt16) : Handler Outcome := .run address .done

end Handler

end FantasyConsole
