import FantasyConsole.Device

/-!
# The machine

A machine is a board with devices around it. Two tables route reads and writes of
each port to the video processor or to a device; a port without a route is plain
storage. A device leaves its slot while one of its handlers runs.
-/
namespace FantasyConsole

/-- What a host may choose: the most instructions of one run, none for no limit. -/
structure Config where
  stepLimit : Option UInt64
  deriving DecidableEq, Repr

namespace Config

def standard : Config := ⟨none⟩

def withStepLimit (_ : Config) (limit : UInt64) : Config := ⟨some limit⟩

def unbounded (_ : Config) : Config := ⟨none⟩

end Config

/-- Where an access to a port goes. -/
inductive Route where
  | vdp
  | device (id : Nat)
  deriving DecidableEq, Repr

/-- The place of a device; it is empty while a handler of the device runs. -/
structure Slot where
  name : String
  device : Option Device

structure Bus where
  readRoutes : Vector (Option Route) 256
  writeRoutes : Vector (Option Route) 256
  slots : Array Slot

namespace Bus

def empty : Bus := ⟨Vector.replicate 256 none, Vector.replicate 256 none, #[]⟩

@[inline] def readRoute (b : Bus) (port : UInt8) : Option Route :=
  getElem b.readRoutes port.toNat port.toNat_lt

@[inline] def writeRoute (b : Bus) (port : UInt8) : Option Route :=
  getElem b.writeRoutes port.toNat port.toNat_lt

def setReadRoute (b : Bus) (port : UInt8) (r : Route) : Bus :=
  { b with readRoutes := b.readRoutes.set port.toNat (some r) port.toNat_lt }

def setWriteRoute (b : Bus) (port : UInt8) (r : Route) : Bus :=
  { b with writeRoutes := b.writeRoutes.set port.toNat (some r) port.toNat_lt }

@[simp] theorem readRoute_empty (port : UInt8) : empty.readRoute port = none := by
  simp [readRoute, empty]

@[simp] theorem writeRoute_empty (port : UInt8) : empty.writeRoute port = none := by
  simp [writeRoute, empty]

@[simp] theorem slots_setReadRoute (b : Bus) (port : UInt8) (r : Route) :
    (b.setReadRoute port r).slots = b.slots := rfl

@[simp] theorem slots_setWriteRoute (b : Bus) (port : UInt8) (r : Route) :
    (b.setWriteRoute port r).slots = b.slots := rfl

@[simp] theorem readRoute_setWriteRoute (b : Bus) (i j : UInt8) (r : Route) :
    (b.setWriteRoute i r).readRoute j = b.readRoute j := rfl

@[simp] theorem writeRoute_setReadRoute (b : Bus) (i j : UInt8) (r : Route) :
    (b.setReadRoute i r).writeRoute j = b.writeRoute j := rfl

theorem readRoute_setReadRoute (b : Bus) (i j : UInt8) (r : Route) :
    (b.setReadRoute i r).readRoute j = if i = j then some r else b.readRoute j := by
  simp [readRoute, setReadRoute, Vector.getElem_set, UInt8.toNat_inj]

theorem writeRoute_setWriteRoute (b : Bus) (i j : UInt8) (r : Route) :
    (b.setWriteRoute i r).writeRoute j = if i = j then some r else b.writeRoute j := by
  simp [writeRoute, setWriteRoute, Vector.getElem_set, UInt8.toNat_inj]

/-- The name a route is reported by; a number that no device has is reported as unknown. -/
def routeName (b : Bus) : Route → String
  | .vdp => "vdp"
  | .device id => (b.slots[id]?.map (·.name)).getD "?"

def deviceAt? (b : Bus) (id : Nat) : Option Device := b.slots[id]?.bind (·.device)

def setDevice (b : Bus) (id : Nat) (d : Option Device) : Bus :=
  { b with slots := b.slots.modify id fun s => { s with device := d } }

/-- The number of devices that are in their slots. -/
def attachedCount (b : Bus) : Nat := b.slots.countP (·.device.isSome)

end Bus

structure Machine where
  board : Board
  bus : Bus
  config : Config
  /-- The device that key events go to. -/
  controller : Option Nat

namespace Machine

/-- A machine with zeroed memories and nothing attached. -/
def bare (config : Config) (filter : LogFilter) : Machine :=
  ⟨.zero filter, .empty, config, none⟩

@[inline] def note (m : Machine) (e : Event) : Machine := { m with board := m.board.note e }

@[inline] def onCore {α : Type} (m : Machine) (f : Core → α × Core) : α × Machine :=
  match m with
  | ⟨⟨core, ports, vdp, journal⟩, bus, config, controller⟩ =>
    let (a, core) := f core
    (a, ⟨⟨core, ports, vdp, journal⟩, bus, config, controller⟩)

/-- Copy bytes into memory, wrapping at the top. -/
def load (m : Machine) (offset : UInt16) (bytes : Array UInt8) : Machine :=
  let m := m.note (.loaded bytes.size offset)
  { m with board.core.memory := m.board.core.memory.load offset bytes }

/-- Attach a device; the result holds its number. -/
def attach (m : Machine) (d : Device) : Nat × Machine :=
  let id := m.bus.slots.size
  let m := { m with bus.slots := m.bus.slots.push ⟨d.name, some d⟩ }
  (id, m.note (.attached d.name id))

def routeRead (m : Machine) (port : UInt8) (r : Route) : Machine :=
  let m := m.note (.readRouted port (m.bus.routeName r))
  { m with bus := m.bus.setReadRoute port r }

def routeWrite (m : Machine) (port : UInt8) (r : Route) : Machine :=
  let m := m.note (.writeRouted port (m.bus.routeName r))
  { m with bus := m.bus.setWriteRoute port r }

/-- Route the video processor's two ports. -/
def installVdp (m : Machine) : Machine :=
  (m.routeRead Device.vdpReadPort .vdp).routeWrite Device.vdpWritePort .vdp

def setController (m : Machine) (id : Nat) : Machine := { m with controller := some id }

@[simp] theorem bus_bare (config : Config) (filter : LogFilter) :
    (bare config filter).bus = .empty := rfl

@[simp] theorem bus_note (m : Machine) (e : Event) : (m.note e).bus = m.bus := rfl

@[simp] theorem bus_setController (m : Machine) (id : Nat) : (m.setController id).bus = m.bus := rfl

@[simp] theorem slots_attach (m : Machine) (d : Device) :
    (m.attach d).2.bus.slots = m.bus.slots.push ⟨d.name, some d⟩ := rfl

@[simp] theorem readRoute_attach (m : Machine) (d : Device) (port : UInt8) :
    (m.attach d).2.bus.readRoute port = m.bus.readRoute port := rfl

@[simp] theorem writeRoute_attach (m : Machine) (d : Device) (port : UInt8) :
    (m.attach d).2.bus.writeRoute port = m.bus.writeRoute port := rfl

@[simp] theorem bus_routeRead (m : Machine) (port : UInt8) (r : Route) :
    (m.routeRead port r).bus = m.bus.setReadRoute port r := rfl

@[simp] theorem bus_routeWrite (m : Machine) (port : UInt8) (r : Route) :
    (m.routeWrite port r).bus = m.bus.setWriteRoute port r := rfl

/-- Attach the standard devices and route their ports. The pager serves `image`; the debug console
reads `input` and prints to the terminal. -/
def installStandard (m : Machine) (image : Array UInt8) (input : Option (List UInt8)) : Machine :=
  let (stack, m) := m.attach .stackPointers
  let m := m.routeRead Device.workingPort (.device stack)
  let m := m.routeWrite Device.workingPort (.device stack)
  let m := m.routeRead Device.returnPort (.device stack)
  let m := m.routeWrite Device.returnPort (.device stack)
  let (metadata, m) := m.attach .metadata
  let m := m.routeWrite Device.metadataPort (.device metadata)
  let (pager, m) := m.attach (.pager (.ofImage image))
  let m := m.routeWrite Device.pagerPort (.device pager)
  let (pad, m) := m.attach (.controller .idle)
  let m := m.routeRead Device.codePort (.device pad)
  let m := m.routeWrite Device.vectorPort (.device pad)
  let m := m.setController pad
  let m := m.installVdp
  let (debug, m) := m.attach (.debug ⟨.terminal, input⟩)
  let m := m.routeRead Device.debugPort (.device debug)
  let m := m.routeWrite Device.debugPort (.device debug)
  m.note (.devicesInstalled m.bus.slots.size)

def standard (config : Config) (filter : LogFilter) (image : Array UInt8)
    (input : Option (List UInt8)) : Machine :=
  (bare config filter).installStandard image input

end Machine

end FantasyConsole
