import FantasyConsole.Device.Controller
import FantasyConsole.Device.Pager
import FantasyConsole.Device.DebugConsole

/-!
# Devices

The standard devices, and scripted ones whose handlers are given as values. A
handler yields the device as it is afterwards. A device that does not care about
reads or writes leaves its ports as plain storage.
-/
namespace FantasyConsole

/-- A device with handlers of its own, which counts its activations and keeps bytes. -/
structure Script where
  name : String
  calls : Nat
  kept : Array UInt8
  onRead : UInt8 → Array UInt8 → Handler (UInt8 × Array UInt8)
  onWrite : UInt8 → Array UInt8 → Handler (Array UInt8)

namespace Script

/-- Reading gives the stored byte. -/
def plainRead (port : UInt8) (kept : Array UInt8) : Handler (UInt8 × Array UInt8) := do
  return (← Handler.byte port, kept)

/-- Writing only stores. -/
def plainWrite (_ : UInt8) (kept : Array UInt8) : Handler (Array UInt8) := return kept

end Script

inductive Device where
  | stackPointers
  | metadata
  | pager (p : Pager)
  | controller (c : Controller)
  | debug (d : DebugConsole)
  | scripted (s : Script)

namespace Device

def workingPort : UInt8 := 0x04
def returnPort : UInt8 := 0x05
def metadataPort : UInt8 := 0x07
def pagerPort : UInt8 := 0x09
def codePort : UInt8 := 0x0A
def vectorPort : UInt8 := 0x0B
def vdpReadPort : UInt8 := 0x0C
def vdpWritePort : UInt8 := 0x0D
def debugPort : UInt8 := 0x0E

def name : Device → String
  | .stackPointers => "stack"
  | .metadata => "meta"
  | .pager _ => "rom"
  | .controller _ => "controller"
  | .debug _ => "debug"
  | .scripted s => s.name

/-- The stack whose pointer a port shows. -/
def stackAt (port : UInt8) : Option StackId :=
  if port = workingPort then some .working else if port = returnPort then some .ret else none

/-- What a program reads from a port of the device. -/
def onRead (d : Device) (port : UInt8) : Handler (UInt8 × Device) :=
  match d with
  | .stackPointers =>
    match stackAt port with
    | some id => do return (← Handler.ask fun b => (b.core.stackPair.get id).ptr, d)
    | none => do return (← Handler.byte port, d)
  | .controller c => do
    let (v, c) ← c.onRead port
    return (v, .controller c)
  | .debug _ => return (0, d)
  | .scripted s => do
    let (v, kept) ← s.onRead port s.kept
    return (v, .scripted { s with calls := s.calls + 1, kept })
  | .metadata | .pager _ => do return (← Handler.byte port, d)

/-- What happens after a byte was stored at a port of the device. -/
def onWrite (d : Device) (port : UInt8) : Handler Device :=
  match d with
  | .stackPointers =>
    match stackAt port with
    | some id => do
      let p ← Handler.byte port
      Handler.change fun b => { b with core.stackPair := b.core.stackPair.modify id (·.setPtr p) }
      return d
    | none => return d
  | .metadata => return d
  | .pager p => do return .pager (← p.onWrite port)
  | .controller c => do return .controller (← c.onWrite port)
  | .debug c => do return .debug (← c.onWrite port)
  | .scripted s => do
    let kept ← s.onWrite port s.kept
    return .scripted { s with calls := s.calls + 1, kept }

end Device

end FantasyConsole
