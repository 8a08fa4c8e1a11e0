import FantasyConsole.Handler

/-!
# The controller

The host reports each key transition as an event code: bit 7 for a press, bit 3
for the second player, the button in the low three bits. The controller keeps
the last code and the address of the program to run on each event, zero for none.
-/
namespace FantasyConsole

inductive Button where
  | start | a | b | c | up | down | left | right
  deriving DecidableEq, Repr

inductive Player where
  | one | two
  deriving DecidableEq, Repr

def eventCode (player : Player) (button : Button) (pressed : Bool) : UInt8 :=
  (if pressed then 0x80 else 0) ||| (match player with | .one => 0 | .two => 8) |||
    UInt8.ofNat button.ctorIdx

structure Controller where
  code : UInt8
  vector : UInt16
  deriving DecidableEq, Repr

namespace Controller

def idle : Controller := ⟨0, 0⟩

def latch (c : Controller) (code : UInt8) : Controller := { c with code }

/-- Reading leaves the last code in the port byte. -/
def onRead (c : Controller) (port : UInt8) : Handler (UInt8 × Controller) := do
  Handler.setByte port c.code
  return (c.code, c)

/-- Writing sets the vector from the field that ends at the port. -/
def onWrite (c : Controller) (port : UInt8) : Handler Controller := do
  let vector ← Handler.field port
  Handler.note (.vectorSet vector)
  return { c with vector }

end Controller

end FantasyConsole
