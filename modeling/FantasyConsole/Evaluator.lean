import FantasyConsole.Machine

/-!
# Evaluation

A run executes instructions until a halt or its step limit. Instructions reach
devices, and handlers may read and write ports or run programs in turn. The calls
a handler makes are answered one nesting level below the handler itself. A device
is away while its handler runs, so a level for each attached device is enough. A
run without a step limit may not end; it is given `fuel` instructions, and no
result means that some such run needs more.
-/
namespace FantasyConsole

/-- The calls into the machine that an instruction or a handler can make. -/
structure Access where
  dei : UInt8 → Machine → Option (UInt8 × Machine)
  deo : UInt8 → UInt8 → Machine → Option Machine
  run : UInt16 → Machine → Option (Outcome × Machine)

/-- No call is answered. -/
def Access.refused : Access := ⟨fun _ _ => none, fun _ _ _ => none, fun _ _ => none⟩

def Handler.follow {α : Type} (io : Access) : Handler α → Machine → Option (α × Machine)
  | .done a, m => some (a, m)
  | .inspect next, m => (next m.board).follow io m
  | .update f next, m => next.follow io { m with board := f m.board }
  | .dei port next, m =>
    match io.dei port m with
    | none => none
    | some (v, m) => (next v).follow io m
  | .deo port v next, m =>
    match io.deo port v m with
    | none => none
    | some m => next.follow io m
  | .run address next, m =>
    match io.run address m with
    | none => none
    | some (o, m) => (next o).follow io m

namespace Machine

/-- Read a port. A handler's calls are answered by `inner`; a device that is away leaves the stored
byte. -/
def deiWith (inner : Access) (port : UInt8) (m : Machine) : Option (UInt8 × Machine) :=
  match m.bus.readRoute port with
  | none => some (m.board.ports.get port, m)
  | some .vdp =>
    let (v, board) := m.board.readVdp port
    some (v, { m with board })
  | some (.device id) =>
    match m.bus.deviceAt? id with
    | none => some (m.board.ports.get port, m.note (.readBusy port (m.bus.routeName (.device id))))
    | some d =>
      match (d.onRead port).follow inner { m with bus := m.bus.setDevice id none } with
      | none => none
      | some ((v, d), m) => some (v, { m with bus := m.bus.setDevice id (some d) })

/-- Write a port: the byte is stored, then the handler runs. -/
def deoWith (inner : Access) (port v : UInt8) (m : Machine) : Option Machine :=
  let m := { m with board := m.board.setPort port v }
  match m.bus.writeRoute port with
  | none => some m
  | some .vdp => some { m with board := m.board.sendVdp port }
  | some (.device id) =>
    match m.bus.deviceAt? id with
    | none => some (m.note (.writeBusy port (m.bus.routeName (.device id))))
    | some d =>
      match (d.onWrite port).follow inner { m with bus := m.bus.setDevice id none } with
      | none => none
      | some (d, m) => some { m with bus := m.bus.setDevice id (some d) }

/-- Push the result of an instruction on its stack. -/
def give (op : Opcode) (v : UInt16) (m : Machine) : Machine :=
  (m.onCore fun c => ((), { c with stackPair := c.stackPair.modify op.stack (op.give · v) })).2

/-- Device input: a word is read high byte first, the low byte from the next port. -/
def input (io : Access) (op : Opcode) (m : Machine) : Option Machine :=
  let (port, m) := m.onCore op.takePort
  match io.dei port m with
  | none => none
  | some (high, m) =>
    if op.short then
      match io.dei (port + 1) m with
      | none => none
      | some (low, m) => some (m.give op (word high low))
    else some (m.give op high.toUInt16)

/-- Device output: a word is written high byte first, the low byte to the next port. -/
def output (io : Access) (op : Opcode) (m : Machine) : Option Machine :=
  let ((port, v), m) := m.onCore op.takePortAndValue
  if op.short then
    match io.deo port (highByte v) m with
    | none => none
    | some m => io.deo (port + 1) (lowByte v) m
  else io.deo port (lowByte v) m

/-- One instruction at `pc`. The result holds the address of the next one, none after a halt. -/
@[inline] def step (io : Access) (pc : UInt16) (m : Machine) : Option (Option UInt16 × Machine) :=
  let b := m.board.core.memory.read pc
  let op := Opcode.decode b
  let m := m.note (.executed pc b)
  match op.base with
  | .immediate => some (m.onCore (op.executeImmediate (pc + 1)))
  | .dei => (m.input io op).map fun m => (some (pc + 1), m)
  | .deo => (m.output io op).map fun m => (some (pc + 1), m)
  | _ =>
    let (next, m) := m.onCore (op.execute (pc + 1))
    some (some next, m)

/-- At most `budget` instructions from `pc` on. The result holds the address where execution would
go on, none after a halt. -/
def steps (io : Access) : (budget : Nat) → UInt16 → Machine → Option (Option UInt16 × Machine)
  | 0, pc, m => some (some pc, m)
  | budget + 1, pc, m =>
    match m.step io pc with
    | none => none
    | some (none, m) => some (none, m)
    | some (some pc, m) => steps io budget pc m

/-- Run from `start` until a halt or the step limit. -/
def runWith (io : Access) (fuel : Nat) (start : UInt16) (m : Machine) :
    Option (Outcome × Machine) :=
  match m.config.stepLimit with
  | some limit =>
    match steps io limit.toNat start m with
    | none => none
    | some (none, m) => some (.halted, m)
    | some (some pc, m) => some (.ranOff, m.note (.limitReached start limit.toNat pc))
  | none =>
    match steps io fuel start m with
    | some (none, m) => some (.halted, m)
    | _ => none

end Machine

namespace Access

/-- The calls at one level, with the handlers' own calls answered by the level below. -/
def above (fuel : Nat) (inner : Access) : Access :=
  let dei := Machine.deiWith inner
  let deo := Machine.deoWith inner
  { dei, deo, run := Machine.runWith ⟨dei, deo, inner.run⟩ fuel }

/-- The calls with at most `depth` handlers below the current one active at a time. -/
def level (fuel : Nat) : (depth : Nat) → Access
  | 0 => above fuel .refused
  | depth + 1 => above fuel (level fuel depth)

end Access

namespace Machine

/-- The calls that a host makes, with a level for each attached device. -/
def access (m : Machine) (fuel : Nat) : Access := .level fuel m.bus.attachedCount

def dei (m : Machine) (fuel : Nat) (port : UInt8) : Option (UInt8 × Machine) :=
  (m.access fuel).dei port m

def deo (m : Machine) (fuel : Nat) (port v : UInt8) : Option Machine := (m.access fuel).deo port v m

def run (m : Machine) (fuel : Nat) (start : UInt16) : Option (Outcome × Machine) :=
  (m.access fuel).run start m

/-- Copy an image to address 0, as much as memory holds, and run from `entry`. -/
def boot (m : Machine) (fuel : Nat) (image : Array UInt8) (entry : UInt16) :
    Option (Outcome × Machine) :=
  let kept := min image.size 65536
  let m := if kept < image.size then m.note (.imageCut image.size kept) else m
  let m := m.load 0 (image.extract 0 kept)
  let m := m.note (.booting entry)
  m.run fuel entry

/-- A key event: the controller keeps the code, and then its program runs if it has one. -/
def press (m : Machine) (fuel : Nat) (code : UInt8) : Option Machine :=
  match m.controller with
  | none => some (m.note (.noController code))
  | some id =>
    match m.bus.deviceAt? id with
    | some (.controller c) =>
      let m := { m with bus := m.bus.setDevice id (some (.controller (c.latch code))) }
      if c.vector = 0 then some m else (m.run fuel c.vector).map (·.2)
    | _ => some m

end Machine

end FantasyConsole
