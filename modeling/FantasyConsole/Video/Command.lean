import FantasyConsole.Video.Basic

/-!
# Video commands

A command is two words. The first waits in the command register, the second is
its operand. The low five bits of the first select the operation, its high byte
names registers or a palette entry. Every command marks in the mode register what
kind of state it wrote and leaves the command register at zero. Reading needs no
operand: the waiting word selects what is read and is dropped.
-/
namespace FantasyConsole

/-- A command with its operand. Cell addresses and counts may stand in registers. -/
inductive Command where
  | setRegister (i : Fin 16) (w : UInt16)
  | setColor (i : Fin 64) (w : UInt16)
  | clearCell (address : UInt16)
  | setCell (pointer : Fin 16) (b : UInt8)
  | copyCells (pointer source : Fin 16) (count : UInt16)
  | clearCells (pointer : Fin 16) (count : UInt16)
  | fillCells (pointer count : Fin 16) (b : UInt8)
  | repeatWord (pointer count : Fin 16) (w : UInt16)
  | loadFont (address : UInt16)
  | nothing
  deriving DecidableEq, Repr

namespace Command

def selector (command : UInt16) : UInt16 := command &&& 31

/-- The register named by the low half of the high byte. -/
def lowRegister (command : UInt16) : Fin 16 := Register.ofNat (highByte command).toNat

/-- The register named by the high half of the high byte. -/
def highRegister (command : UInt16) : Fin 16 := Register.ofNat ((highByte command).toNat / 16)

/-- The palette entry named by the low six bits of the high byte. -/
def colorIndex (command : UInt16) : Fin 64 := Fin.ofNat 64 (highByte command).toNat

/-- Odd selectors of byte operations use the operand's low byte, even ones its high byte. -/
def operandByte (command operand : UInt16) : UInt8 :=
  if command &&& 1 != 0 then lowByte operand else highByte operand

def decode (command operand : UInt16) : Command :=
  let i := lowRegister command
  let j := highRegister command
  let k := colorIndex command
  let b := operandByte command operand
  match (selector command).toNat with
  | 0x00 => .setRegister i 0
  | 0x01 | 0x02 => .setRegister i b.toUInt16
  | 0x03 => .setRegister i operand
  | 0x04 => .setColor k 0
  | 0x05 | 0x06 => .setColor k b.toUInt16
  | 0x07 => .setColor k operand
  | 0x08 => .clearCell operand
  | 0x09 | 0x0A => .setCell i b
  | 0x0B => .copyCells i j operand
  | 0x0C => .clearCells i operand
  | 0x0D | 0x0E => .fillCells i j b
  | 0x0F => .repeatWord i j operand
  | 0x10 => .loadFont operand
  | _ => .nothing

/-- The mark a command leaves in the mode register. -/
def mark : Command → UInt16
  | .setRegister .. => Mode.registersWritten
  | .setColor .. => Mode.paletteWritten
  | .loadFont _ => Mode.fontWritten
  | .nothing => 0
  | _ => Mode.memoryWritten

end Command

namespace Vdp

/-- The write a command makes, before marks and the end of the command. -/
def write (v : Vdp) (main : Memory) : Command → Vdp
  | .setRegister i w => v.setRegister i w
  | .setColor i w => v.setColor i w
  | .clearCell address => { v with memory := v.memory.write address 0 }
  | .setCell pointer b =>
    let address := v.register pointer
    { v with memory := v.memory.write address b }
  | .copyCells pointer source count =>
    let start := (v.register pointer).toNat
    let origin := (v.register source).toNat
    { v with memory := ⟨Ring.copy v.memory.cells start main.cells origin count.toNat⟩ }
  | .clearCells pointer count =>
    let start := (v.register pointer).toNat
    { v with memory := ⟨Ring.fill v.memory.cells start 0 count.toNat⟩ }
  | .fillCells pointer count b =>
    let start := (v.register pointer).toNat
    let n := (v.register count).toNat
    { v with memory := ⟨Ring.fill v.memory.cells start b n⟩ }
  | .repeatWord pointer count w =>
    let start := (v.register pointer).toNat
    let n := (v.register count).toNat
    { v with memory := ⟨Ring.copy v.memory.cells start #v[highByte w, lowByte w] 0 n⟩ }
  | .loadFont address => { v with font := Ring.copy v.font 0 main.cells address.toNat 1024 }
  | .nothing => v

/-- Carry out one command: the write, its mark, and the end of the command. -/
def perform (v : Vdp) (main : Memory) (c : Command) : Vdp :=
  let v := v.write main c
  let v := v.setMode (v.mode ||| c.mark)
  v.setRegister Register.command 0

/-- The waiting command word, zero for none. -/
@[inline] def pending (v : Vdp) : UInt16 := v.register Register.command

/-- Receive a word: it waits as a command, or is the operand of the one that waits. -/
def receive (v : Vdp) (main : Memory) (w : UInt16) : Vdp :=
  if v.pending = 0 then v.setRegister Register.command w
  else v.perform main (.decode v.pending w)

/-- The word that a read with the given command word selects. -/
def selected (v : Vdp) (command : UInt16) : UInt16 :=
  match (command &&& 15).toNat with
  | 0 => v.register (Command.lowRegister command)
  | 1 => v.palette[Command.colorIndex command]
  | 2 => v.memory.readWord (v.register (Command.lowRegister command))
  | _ => 0

/-- Answer a read: the word the waiting command selects, with nothing waiting afterwards. -/
def answer (v : Vdp) : UInt16 × Vdp :=
  (v.selected v.pending, v.setRegister Register.command 0)

end Vdp

end FantasyConsole
