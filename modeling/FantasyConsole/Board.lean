import FantasyConsole.Instruction
import FantasyConsole.Journal
import FantasyConsole.Video.Command

/-!
# The board

Everything of a console that a device handler can reach: memory and stacks, the
port bytes, the video processor and the journal. A field of two ports is a word,
high byte at the lower port, and port numbers wrap.
-/
namespace FantasyConsole

/-- The byte stored at each port. -/
@[ext] structure Ports where
  cells : Vector UInt8 256

namespace Ports

def zero : Ports := ⟨Vector.replicate 256 0⟩

@[inline] def get (p : Ports) (port : UInt8) : UInt8 := getElem p.cells port.toNat port.toNat_lt

@[inline] def set (p : Ports) (port v : UInt8) : Ports := ⟨p.cells.set port.toNat v port.toNat_lt⟩

/-- The word whose low byte is at `port`. -/
def fieldEndingAt (p : Ports) (port : UInt8) : UInt16 := word (p.get (port - 1)) (p.get port)

/-- Store a word with its high byte at `port`. -/
def setFieldFrom (p : Ports) (port : UInt8) (w : UInt16) : Ports :=
  (p.set port (highByte w)).set (port + 1) (lowByte w)

theorem get_set (p : Ports) (i j v : UInt8) : (p.set i v).get j = if i = j then v else p.get j := by
  simp [get, set, Vector.getElem_set, UInt8.toNat_inj]

theorem next_ne (port : UInt8) : port + 1 ≠ port := by
  intro h
  exact absurd (UInt8.add_eq_left.1 h) (by decide)

theorem get_setFieldFrom (p : Ports) (port : UInt8) (w : UInt16) :
    (p.setFieldFrom port w).get port = highByte w := by
  rw [setFieldFrom, get_set, get_set, if_neg (next_ne port), if_pos rfl]

/-- A word is read back from the field that it was stored in. -/
theorem fieldEndingAt_setFieldFrom (p : Ports) (port : UInt8) (w : UInt16) :
    (p.setFieldFrom port w).fieldEndingAt (port + 1) = w := by
  have hp : port + 1 - 1 = port := UInt8.add_sub_cancel port 1
  have hl : (p.setFieldFrom port w).get (port + 1) = lowByte w := by
    rw [setFieldFrom, get_set, if_pos rfl]
  rw [fieldEndingAt, hp, get_setFieldFrom, hl, word_highByte_lowByte]

end Ports

/-- What a console reports in its journal. -/
inductive Event where
  | executed (pc : UInt16) (opcode : UInt8)
  | limitReached (start : UInt16) (steps : Nat) (pc : UInt16)
  | loaded (count : Nat) (offset : UInt16)
  | imageCut (size kept : Nat)
  | booting (entry : UInt16)
  | readRouted (port : UInt8) (name : String)
  | writeRouted (port : UInt8) (name : String)
  | attached (name : String) (id : Nat)
  | devicesInstalled (count : Nat)
  | readBusy (port : UInt8) (name : String)
  | writeBusy (port : UInt8) (name : String)
  | noController (code : UInt8)
  | vectorSet (vector : UInt16)
  | paged (page destination count : UInt16)
  | commandRun (command operand : UInt16)
  | commandRead (command data : UInt16)
  | malformedLine
  deriving DecidableEq, Repr

namespace Event

def topic : Event → Topic
  | .executed .. | .limitReached .. => .evaluator
  | .readRouted .. | .writeRouted .. => .bus
  | .devicesInstalled _ => .devices
  | .vectorSet _ => .controller
  | .paged .. => .pager
  | .commandRun .. | .commandRead .. => .video
  | .malformedLine => .debugConsole
  | _ => .machine

def level : Event → Level
  | .executed .. | .commandRun .. | .commandRead .. => .trace
  | .limitReached .. | .malformedLine => .warn
  | .imageCut .. | .booting _ => .info
  | _ => .debug

def message : Event → String
  | .executed pc b => hexWord pc ++ "  " ++ hexByte b ++ "  " ++ (Opcode.decode b).name
  | .limitReached start steps pc =>
    "run(0x" ++ hexWord start ++ "): step limit of " ++ toString steps ++
      " reached at pc=0x" ++ hexWord pc
  | .loaded count offset => "load: " ++ toString count ++ " bytes at 0x" ++ hexWord offset
  | .imageCut size kept =>
    "boot: image is " ++ toString size ++ " bytes, loading the first " ++ toString kept
  | .booting entry => "boot: entry 0x" ++ hexWord entry
  | .readRouted port name => "bus: read port 0x" ++ hexByte port ++ " -> " ++ name
  | .writeRouted port name => "bus: write port 0x" ++ hexByte port ++ " -> " ++ name
  | .attached name id => "attached " ++ name ++ " as device " ++ toString id
  | .devicesInstalled count => "standard devices installed (" ++ toString count ++ " attached)"
  | .readBusy port name => "dei 0x" ++ hexByte port ++ ": " ++ name ++ " busy, raw read"
  | .writeBusy port name => "deo 0x" ++ hexByte port ++ ": " ++ name ++ " busy, raw write"
  | .noController code => "press 0x" ++ hexByte code ++ ": no controller attached"
  | .vectorSet vector => "controller: vector = 0x" ++ hexWord vector
  | .paged page destination count =>
    "rom: page 0x" ++ hexWord page ++ " -> 0x" ++ hexWord destination ++ ", " ++
      toString count.toNat ++ " bytes"
  | .commandRun command operand =>
    "vdp: cmd=0x" ++ hexWord command ++ " sel=0x" ++ hexByte (lowByte (Command.selector command))
      ++ " p=0x" ++ hexByte (highByte command) ++ " operand=0x" ++ hexWord operand
  | .commandRead command data => "vdp: read cmd=0x" ++ hexWord command ++ " -> 0x" ++ hexWord data
  | .malformedLine => "debug: wait failed: stream did not contain valid UTF-8"

end Event

instance : Loggable Event := ⟨Event.topic, Event.level, Event.message⟩

@[ext] structure Board where
  core : Core
  ports : Ports
  vdp : Vdp
  journal : Journal

namespace Board

def zero (filter : LogFilter) : Board := ⟨.zero, .zero, .zero, .empty filter⟩

def note (b : Board) (e : Event) : Board := { b with journal := b.journal.note e }

def setPort (b : Board) (port v : UInt8) : Board := { b with ports := b.ports.set port v }

/-- Hand the word that ends at `port` to the video processor. -/
def sendVdp (b : Board) (port : UInt8) : Board :=
  let w := b.ports.fieldEndingAt port
  let b := if b.vdp.pending = 0 then b else b.note (.commandRun b.vdp.pending w)
  { b with vdp := b.vdp.receive b.core.memory w }

/-- Read from the video processor: the word goes to the field that starts at `port`, and the byte at
`port` is the result. -/
def readVdp (b : Board) (port : UInt8) : UInt8 × Board :=
  let (w, vdp) := b.vdp.answer
  let b := b.note (.commandRead b.vdp.pending w)
  let ports := b.ports.setFieldFrom port w
  (ports.get port, { b with ports, vdp })

@[simp] theorem core_sendVdp (b : Board) (port : UInt8) : (b.sendVdp port).core = b.core := by
  rw [sendVdp]
  by_cases h : b.vdp.pending = 0 <;> simp [h, note]

@[simp] theorem ports_sendVdp (b : Board) (port : UInt8) : (b.sendVdp port).ports = b.ports := by
  rw [sendVdp]
  by_cases h : b.vdp.pending = 0 <;> simp [h, note]

@[simp] theorem vdp_sendVdp (b : Board) (port : UInt8) :
    (b.sendVdp port).vdp = b.vdp.receive b.core.memory (b.ports.fieldEndingAt port) := by
  rw [sendVdp]
  by_cases h : b.vdp.pending = 0 <;> simp [h, note]

theorem journal_sendVdp (b : Board) (port : UInt8) : (b.sendVdp port).journal =
    if b.vdp.pending = 0 then b.journal
    else b.journal.note (Event.commandRun b.vdp.pending (b.ports.fieldEndingAt port)) := by
  rw [sendVdp]
  by_cases h : b.vdp.pending = 0 <;> simp [h, note]

def dumpStacks (b : Board) (sink : Sink) : Board :=
  let journal := b.journal.print sink (b.core.stackPair.working.dump "WST")
  { b with journal := journal.print sink (b.core.stackPair.ret.dump "RST") }

end Board

end FantasyConsole
