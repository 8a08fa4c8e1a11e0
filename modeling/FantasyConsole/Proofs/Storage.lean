import FantasyConsole.Proofs.Effects
import FantasyConsole.Proofs.Nesting

/-!
# Ports without a device

An access to a port that leads to no device is one to storage or to the video
processor. It always returns, and it neither reads nor changes the stacks: on machines
that differ in their stacks only it does the same. So device input and output there
are an operand phase, one access for each byte, and a result.
-/
namespace FantasyConsole

namespace Bus

variable (b : Bus) (port : UInt8)

/-- No device that is in its slot answers reads of the port. -/
def NoDeviceReads : Prop := ∀ id, b.readRoute port = some (.device id) → b.deviceAt? id = none

/-- No device that is in its slot takes writes to the port. -/
def NoDeviceWrites : Prop := ∀ id, b.writeRoute port = some (.device id) → b.deviceAt? id = none

variable {b}

theorem Deviceless.noDeviceReads (h : b.Deviceless) (port : UInt8) : b.NoDeviceReads port :=
  fun id hr => h port id (.inl hr)

theorem Deviceless.noDeviceWrites (h : b.Deviceless) (port : UInt8) : b.NoDeviceWrites port :=
  fun id hr => h port id (.inr hr)

variable (b)

theorem noDevice_or (r : Option Route) : (∀ id, r = some (.device id) → b.deviceAt? id = none) ∨
    ∃ id d, r = some (.device id) ∧ b.deviceAt? id = some d := by
  by_cases h : ∀ id, r = some (.device id) → b.deviceAt? id = none
  · exact .inl h
  · simp only [not_forall] at h
    obtain ⟨id, hr, hd⟩ := h
    obtain ⟨d, hd⟩ := Option.ne_none_iff_exists'.1 hd
    exact .inr ⟨id, d, hr, hd⟩

/-- What a read meets: storage or the video processor, or else a device. -/
theorem noDeviceReads_or (port : UInt8) : b.NoDeviceReads port ∨
    ∃ id d, b.readRoute port = some (.device id) ∧ b.deviceAt? id = some d :=
  b.noDevice_or (b.readRoute port)

theorem noDeviceWrites_or (port : UInt8) : b.NoDeviceWrites port ∨
    ∃ id d, b.writeRoute port = some (.device id) ∧ b.deviceAt? id = some d :=
  b.noDevice_or (b.writeRoute port)

end Bus

/-- The ports that device input and output reach from this one on: a word goes to two. -/
def Opcode.accessed (op : Opcode) (port : UInt8) : List UInt8 :=
  if op.short then [port, port + 1] else [port]

def Board.withPair (b : Board) (pair : StackPair) : Board := { b with core.stackPair := pair }

theorem Board.sendVdp_withPair (b : Board) (pair : StackPair) (port : UInt8) :
    (b.withPair pair).sendVdp port = (b.sendVdp port).withPair pair := by
  rw [sendVdp, sendVdp]
  by_cases h : b.vdp.pending = 0 <;> simp [h, withPair, note]

namespace Machine

variable {m : Machine} {port : UInt8}

/-- A read of a port where no device answers, and the machine after it. -/
def fetched (m : Machine) (port : UInt8) : UInt8 × Machine :=
  match m.bus.readRoute port with
  | none => (m.board.ports.get port, m)
  | some .vdp => ((m.board.readVdp port).1, { m with board := (m.board.readVdp port).2 })
  | some (.device id) =>
    (m.board.ports.get port, m.note (.readBusy port (m.bus.routeName (.device id))))

/-- The machine after a write to a port where no device listens. -/
def stored (m : Machine) (port v : UInt8) : Machine :=
  let m := { m with board := m.board.setPort port v }
  match m.bus.writeRoute port with
  | none => m
  | some .vdp => { m with board := m.board.sendVdp port }
  | some (.device id) => m.note (.writeBusy port (m.bus.routeName (.device id)))

theorem deiWith_eq_fetched (h : m.bus.NoDeviceReads port) (inner : Access) :
    m.deiWith inner port = some (m.fetched port) := by
  rw [deiWith, fetched]
  cases hr : m.bus.readRoute port with
  | none => rfl
  | some route =>
    cases route with
    | vdp => rfl
    | device id => simp only [h id hr]

theorem deoWith_eq_stored (h : m.bus.NoDeviceWrites port) (inner : Access) (v : UInt8) :
    m.deoWith inner port v = some (m.stored port v) := by
  rw [deoWith, stored]
  dsimp only
  cases hr : m.bus.writeRoute port with
  | none => rfl
  | some route =>
    cases route with
    | vdp => rfl
    | device id => simp only [h id hr]

theorem dei_eq_fetched (h : m.bus.NoDeviceReads port) (fuel : Nat) :
    m.dei fuel port = some (m.fetched port) := by
  rw [dei, access_eq_above]
  exact deiWith_eq_fetched h (m.inner fuel)

theorem deo_eq_stored (h : m.bus.NoDeviceWrites port) (fuel : Nat) (v : UInt8) :
    m.deo fuel port v = some (m.stored port v) := by
  rw [deo, access_eq_above]
  exact deoWith_eq_stored h (m.inner fuel) v

/-- The machine after a word is written to the field that starts at the port, where no device
listens. -/
def storedWord (m : Machine) (port : UInt8) (w : UInt16) : Machine :=
  (m.stored port (highByte w)).stored (port + 1) (lowByte w)

theorem bus_fetched (m : Machine) (port : UInt8) : (m.fetched port).2.bus = m.bus := by
  unfold fetched
  split <;> rfl

theorem bus_stored (m : Machine) (port v : UInt8) : (m.stored port v).bus = m.bus := by
  unfold stored
  dsimp only
  split <;> rfl

theorem core_fetched (m : Machine) (port : UInt8) :
    (m.fetched port).2.board.core = m.board.core := by
  unfold fetched
  split <;> rfl

theorem core_stored (m : Machine) (port v : UInt8) :
    (m.stored port v).board.core = m.board.core := by
  unfold stored
  dsimp only
  split
  · rfl
  · exact Board.core_sendVdp _ port
  · rfl

theorem ports_stored (m : Machine) (port v : UInt8) :
    (m.stored port v).board.ports = m.board.ports.set port v := by
  unfold stored
  dsimp only
  split
  · rfl
  · exact Board.ports_sendVdp _ port
  · rfl

theorem vdp_stored (m : Machine) (port v : UInt8) : (m.stored port v).board.vdp =
    if m.bus.writeRoute port = some .vdp then
      m.board.vdp.receive m.board.core.memory ((m.board.ports.set port v).fieldEndingAt port)
    else m.board.vdp := by
  unfold stored
  dsimp only
  split
  · rename_i hr
    simp [hr, Board.setPort]
  · rename_i hr
    rw [if_pos hr]
    exact Board.vdp_sendVdp _ port
  · rename_i hr
    simp [hr, Board.setPort, note, Board.note]

/-! ## Other stacks -/

def withPair (m : Machine) (pair : StackPair) : Machine := { m with board := m.board.withPair pair }

theorem fetched_withPair (m : Machine) (pair : StackPair) (port : UInt8) :
    (m.withPair pair).fetched port = ((m.fetched port).1, (m.fetched port).2.withPair pair) := by
  have hbus : (m.withPair pair).bus = m.bus := rfl
  rw [fetched, fetched, hbus]
  cases m.bus.readRoute port with
  | none => rfl
  | some route => cases route <;> rfl

theorem stored_withPair (m : Machine) (pair : StackPair) (port v : UInt8) :
    (m.withPair pair).stored port v = (m.stored port v).withPair pair := by
  have hbus : (m.withPair pair).bus = m.bus := rfl
  rw [stored, stored]
  dsimp only
  rw [hbus]
  cases m.bus.writeRoute port with
  | none => rfl
  | some route =>
    cases route with
    | vdp =>
      have hs := (m.board.setPort port v).sendVdp_withPair pair port
      exact congrArg (fun b => { m with board := b }) hs
    | device id => rfl

theorem dei_withPair (h : m.bus.NoDeviceReads port) (inner : Access) (pair : StackPair) :
    inner.instructions.dei port (m.withPair pair) =
      some ((m.fetched port).1, (m.fetched port).2.withPair pair) :=
  (deiWith_eq_fetched (m := m.withPair pair) h inner).trans
    (congrArg some (m.fetched_withPair pair port))

theorem deo_withPair (h : m.bus.NoDeviceWrites port) (inner : Access)
    (pair : StackPair) (v : UInt8) :
    inner.instructions.deo port v (m.withPair pair) = some ((m.stored port v).withPair pair) :=
  (deoWith_eq_stored (m := m.withPair pair) h inner v).trans
    (congrArg some (m.stored_withPair pair port v))

def stack (m : Machine) (id : StackId) : Stack := m.board.core.stackPair.get id

def withStack (m : Machine) (id : StackId) (s : Stack) : Machine :=
  m.withPair (m.board.core.stackPair.modify id fun _ => s)

theorem stack_withStack (m : Machine) (id : StackId) (s : Stack) :
    (m.withStack id s).stack id = s := by
  cases id <;> rfl

theorem withStack_withStack (m : Machine) (id : StackId) (s t : Stack) :
    (m.withStack id s).withStack id t = m.withStack id t := by
  cases id <;> rfl

/-! ## Instructions -/

/-- One instruction, with `pc` the address after its opcode. -/
def perform (io : Access) (op : Opcode) (pc : UInt16) (m : Machine) :
    Option (Option UInt16 × Machine) :=
  match op.base with
  | .immediate => some (m.onCore (op.executeImmediate pc))
  | .dei => (m.input io op).map fun m => (some pc, m)
  | .deo => (m.output io op).map fun m => (some pc, m)
  | _ => some (some (m.onCore (op.execute pc)).1, (m.onCore (op.execute pc)).2)

/-- A step reads an opcode, notes it and performs it. -/
theorem step_eq_perform (io : Access) (pc : UInt16) (m : Machine) :
    m.step io pc = (m.note (.executed pc (m.board.core.memory.read pc))).perform io
      (.decode (m.board.core.memory.read pc)) (pc + 1) := by
  simp only [step]
  unfold perform
  cases (Opcode.decode (m.board.core.memory.read pc)).base <;> rfl

/-- A value read at the width of the instruction where no device answers, and the machine after
it. -/
def inputAt (m : Machine) (op : Opcode) (port : UInt8) : UInt16 × Machine :=
  let (high, m) := m.fetched port
  if op.short then (word high (m.fetched (port + 1)).1, (m.fetched (port + 1)).2)
  else (high.toUInt16, m)

/-- The machine after a value is written at the width of the instruction where no device listens. -/
def outputAt (m : Machine) (op : Opcode) (port : UInt8) (v : UInt16) : Machine :=
  if op.short then m.storedWord port v else m.stored port (lowByte v)

/-- The pair of stacks after the operand phase on `n` bytes. -/
def leftover (m : Machine) (op : Opcode) (n : Nat) : StackPair :=
  m.board.core.stackPair.modify op.stack fun _ => op.rest (m.stack op.stack) n

theorem onCore_operands {α : Type} (m : Machine) (op : Opcode) {f : Stack → α × Stack}
    {a : Stack → α} {n : Nat} (h : ∀ s, f s = (a s, s.dropped n)) :
    (m.onCore fun c => let r := c.stackPair.on op.stack (op.operands f); (r.1, ⟨c.memory, r.2⟩)) =
      (a (m.stack op.stack), m.withPair (m.leftover op n)) := by
  have hp : m.board.core.stackPair.on op.stack (op.operands f) =
      (a (m.stack op.stack), m.board.core.stackPair.modify op.stack (op.rest · n)) :=
    Opcode.on_operands h
  rw [onCore_eq, hp, leftover]
  cases op.stack <;> rfl

theorem onCore_takePort (m : Machine) (op : Opcode) :
    m.onCore op.takePort = ((m.stack op.stack).pop.1, m.withPair (m.leftover op 1)) :=
  m.onCore_operands op (f := Stack.pop) (a := fun s => s.pop.1) (n := 1) fun _ => rfl

theorem onCore_takePortAndValue (m : Machine) (op : Opcode) : m.onCore op.takePortAndValue =
    (((m.stack op.stack).pop.1, UInt16.ofNat (((m.stack op.stack).dropped 1).item op.size)),
      m.withPair (m.leftover op (op.size + 1))) := by
  refine m.onCore_operands op (f := op.takeByteThen)
    (a := fun s => (s.pop.1, UInt16.ofNat ((s.dropped 1).item op.size)))
    (n := op.size + 1) fun s => ?_
  rw [op.takeByteThen_eq, s.pop_eq]

theorem give_withPair (n : Machine) (pair : StackPair) (op : Opcode) (v : UInt16) :
    (n.withPair pair).give op v =
      n.withPair (pair.modify op.stack (·.pushAll (digits op.size v.toNat))) := by
  have hg : (op.give · v) = (·.pushAll (digits op.size v.toNat)) := funext fun s => op.give_eq s v
  exact congrArg (fun f => n.withPair (pair.modify op.stack f)) hg

variable {op : Opcode}

theorem input_eq (inner : Access)
    (h : ∀ port ∈ op.accessed (m.stack op.stack).pop.1, m.bus.NoDeviceReads port) :
    m.input inner.instructions op =
      let r := m.inputAt op (m.stack op.stack).pop.1
      some ((r.2.withPair (m.leftover op 1)).give op r.1) := by
  generalize hp : (m.stack op.stack).pop.1 = port at h
  rw [input, onCore_takePort, hp, inputAt]
  dsimp only
  cases hs : op.short with
  | false =>
    have hport : m.bus.NoDeviceReads port := h port (by simp [Opcode.accessed, hs])
    rw [dei_withPair hport]
    rfl
  | true =>
    have hport : m.bus.NoDeviceReads port := h port (by simp [Opcode.accessed, hs])
    have hnext : (m.fetched port).2.bus.NoDeviceReads (port + 1) :=
      m.bus_fetched port ▸ h (port + 1) (by simp [Opcode.accessed, hs])
    rw [dei_withPair hport]
    dsimp only
    rw [dei_withPair hnext]
    rfl

theorem output_eq (inner : Access)
    (h : ∀ port ∈ op.accessed (m.stack op.stack).pop.1, m.bus.NoDeviceWrites port) :
    m.output inner.instructions op =
      let v := UInt16.ofNat (((m.stack op.stack).dropped 1).item op.size)
      some ((m.outputAt op (m.stack op.stack).pop.1 v).withPair (m.leftover op (op.size + 1))) := by
  generalize hp : (m.stack op.stack).pop.1 = port at h
  rw [output, onCore_takePortAndValue, hp]
  dsimp only
  rw [outputAt]
  cases hs : op.short with
  | false =>
    have hport : m.bus.NoDeviceWrites port := h port (by simp [Opcode.accessed, hs])
    exact deo_withPair hport inner _ _
  | true =>
    have hport : m.bus.NoDeviceWrites port := h port (by simp [Opcode.accessed, hs])
    have hnext (v : UInt8) : (m.stored port v).bus.NoDeviceWrites (port + 1) :=
      m.bus_stored port v ▸ h (port + 1) (by simp [Opcode.accessed, hs])
    rw [deo_withPair hport]
    exact deo_withPair (hnext _) inner _ _

end Machine

end FantasyConsole
