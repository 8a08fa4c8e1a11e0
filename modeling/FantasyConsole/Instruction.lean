import FantasyConsole.Memory
import FantasyConsole.Opcode

/-!
# Instructions on memory and stacks

Every instruction except the immediate forms takes its operands from the active
stack, puts the pointer back in keep mode, and only then has its effect and
gives its results. Results therefore lie above kept operands. This module holds
the instructions that touch memory and the two stacks only; device input and
output share its operand phase.
-/
namespace FantasyConsole

/-- What instructions other than device input and output work on. -/
@[ext] structure Core where
  memory : Memory
  stackPair : StackPair

namespace Core

def zero : Core := ⟨.zero, .empty⟩

end Core

namespace Opcode

variable {α : Type}

/-- Take one operand at the width of the instruction. -/
@[inline] def take (op : Opcode) (s : Stack) : UInt16 × Stack :=
  if op.short then s.popWord else let (b, s) := s.pop; (b.toUInt16, s)

/-- Take two operands, the top one first. -/
@[inline] def takeTwo (op : Opcode) (s : Stack) : (UInt16 × UInt16) × Stack :=
  let (x, s) := op.take s
  let (y, s) := op.take s
  ((x, y), s)

@[inline] def takeThree (op : Opcode) (s : Stack) : (UInt16 × UInt16 × UInt16) × Stack :=
  let (x, s) := op.take s
  let (y, s) := op.take s
  let (z, s) := op.take s
  ((x, y, z), s)

/-- Take a byte, then an operand at the width of the instruction. -/
@[inline] def takeByteThen (op : Opcode) (s : Stack) : (UInt8 × UInt16) × Stack :=
  let (a, s) := s.pop
  let (v, s) := op.take s
  ((a, v), s)

/-- Give one result at the width of the instruction. -/
@[inline] def give (op : Opcode) (s : Stack) (v : UInt16) : Stack :=
  if op.short then s.pushWord v else s.push (lowByte v)

/-- The operand phase: take with `f`, then put the pointer back in keep mode. -/
@[inline] def operands (op : Opcode) (f : Stack → α × Stack) (s : Stack) : α × Stack :=
  let p := s.ptr
  let (a, s) := f s
  (a, if op.keep then s.setPtr p else s)

/-- A jump is absolute in short mode and a signed byte displacement otherwise. -/
def target (op : Opcode) (pc a : UInt16) : UInt16 := if op.short then a else displace pc (lowByte a)

def compare : BaseOp → UInt16 → UInt16 → Bool
  | .equ, b, a => b == a
  | .neq, b, a => b != a
  | .gth, b, a => a < b
  | _, b, a => b < a

/-- Two-operand arithmetic; a quotient by zero is zero. -/
def arithmetic : BaseOp → UInt16 → UInt16 → UInt16
  | .add, b, a => b + a
  | .sub, b, a => b - a
  | .mul, b, a => b * a
  | .div, b, a => b / a
  | .and, b, a => b &&& a
  | .ora, b, a => b ||| a
  | _, b, a => b ^^^ a

/-- Shift right by the low four bits of `a`, then left by its high four bits. -/
def shift (a : UInt8) (b : UInt16) : UInt16 :=
  ((b.toUInt32 >>> (a &&& 0x0F).toUInt32) <<< (a >>> 4).toUInt32).toUInt16

def rework (op : Opcode) (s : Stack) : Stack :=
  match op.base with
  | .inc => let (a, s) := op.operands op.take s; op.give s (a + 1)
  | .pop => (op.operands op.take s).2
  | .nip => let ((x, _), s) := op.operands op.takeTwo s; op.give s x
  | .swp => let ((x, y), s) := op.operands op.takeTwo s; op.give (op.give s x) y
  | .rot => let ((x, y, z), s) := op.operands op.takeThree s; op.give (op.give (op.give s y) x) z
  | .dup => let (x, s) := op.operands op.take s; op.give (op.give s x) x
  | .ovr => let ((x, y), s) := op.operands op.takeTwo s; op.give (op.give (op.give s y) x) y
  | .equ | .neq | .gth | .lth =>
    let ((a, b), s) := op.operands op.takeTwo s
    s.push (if compare op.base b a then 1 else 0)
  | .add | .sub | .mul | .div | .and | .ora | .eor =>
    let ((a, b), s) := op.operands op.takeTwo s
    op.give s (arithmetic op.base b a)
  | .sft => let ((a, b), s) := op.operands op.takeByteThen s; op.give s (shift a b)
  | _ => s

/-- Take the address of a load or store: a zero-page byte, a displacement from `pc`, or a word. -/
@[inline] def takeAddress (op : Opcode) (pc : UInt16) (s : Stack) : UInt16 × Stack :=
  match op.base with
  | .ldz | .stz => let (a, s) := s.pop; (a.toUInt16, s)
  | .ldr | .str => let (d, s) := s.pop; (displace pc d, s)
  | _ => s.popWord

/-- Zero-page accesses, the second byte of a word too, stay inside the first 256 bytes. -/
def addressMask (op : Opcode) : UInt16 :=
  match op.base with
  | .ldz | .stz => 0x00FF
  | _ => 0xFFFF

def load (op : Opcode) (m : Memory) (address : UInt16) : UInt16 :=
  if op.short then m.readWordMasked address op.addressMask
  else (m.read (address &&& op.addressMask)).toUInt16

def store (op : Opcode) (m : Memory) (address v : UInt16) : Memory :=
  if op.short then m.writeWordMasked address op.addressMask v
  else m.write (address &&& op.addressMask) (lowByte v)

/-- One instruction that is neither immediate nor device input or output. `pc` is the address after
the opcode; the result holds the address of the next one. -/
def execute (op : Opcode) (pc : UInt16) : Core → UInt16 × Core
  | ⟨memory, pair⟩ =>
    match op.base with
    | .jmp =>
      let (a, pair) := pair.on op.stack (op.operands op.take)
      (op.target pc a, ⟨memory, pair⟩)
    | .jcn =>
      let ((a, c), pair) := pair.on op.stack (op.operands fun s =>
        let (a, s) := op.take s
        let (c, s) := s.pop
        ((a, c), s))
      (if c != 0 then op.target pc a else pc, ⟨memory, pair⟩)
    | .jsr =>
      let (a, pair) := pair.on op.stack (op.operands op.take)
      (op.target pc a, ⟨memory, pair.modify op.stack.other (·.pushWord pc)⟩)
    | .sth =>
      let (x, pair) := pair.on op.stack (op.operands op.take)
      (pc, ⟨memory, pair.modify op.stack.other (op.give · x)⟩)
    | .ldz | .ldr | .lda =>
      let (a, pair) := pair.on op.stack (op.operands (op.takeAddress pc))
      let v := op.load memory a
      (pc, ⟨memory, pair.modify op.stack (op.give · v)⟩)
    | .stz | .str | .sta =>
      let ((a, v), pair) := pair.on op.stack (op.operands fun s =>
        let (a, s) := op.takeAddress pc s
        let (v, s) := op.take s
        ((a, v), s))
      (pc, ⟨op.store memory a v, pair⟩)
    | _ => (pc, ⟨memory, pair.modify op.stack op.rework⟩)

/-- One immediate form; no next address means that evaluation halts. -/
def executeImmediate (op : Opcode) (pc : UInt16) : Core → Option UInt16 × Core
  | ⟨memory, pair⟩ =>
    match op.immediateForm with
    | .halt => (none, ⟨memory, pair⟩)
    | .jumpIf =>
      let (c, pair) := pair.on op.stack Stack.pop
      (some (if c != 0 then pc + 2 + memory.readWord pc else pc + 2), ⟨memory, pair⟩)
    | .jump => (some (pc + 2 + memory.readWord pc), ⟨memory, pair⟩)
    | .call =>
      (some (pc + 2 + memory.readWord pc), ⟨memory, pair.modify op.stack (·.pushWord (pc + 2))⟩)
    | .literal =>
      let a := memory.read pc
      if op.short then
        let b := memory.read (pc + 1)
        (some (pc + 2), ⟨memory, pair.modify op.stack fun s => (s.push a).push b⟩)
      else (some (pc + 1), ⟨memory, pair.modify op.stack (·.push a)⟩)

def takePort (op : Opcode) : Core → UInt8 × Core
  | ⟨memory, pair⟩ =>
    let (port, pair) := pair.on op.stack (op.operands Stack.pop)
    (port, ⟨memory, pair⟩)

def takePortAndValue (op : Opcode) : Core → (UInt8 × UInt16) × Core
  | ⟨memory, pair⟩ =>
    let (operands, pair) := pair.on op.stack (op.operands op.takeByteThen)
    (operands, ⟨memory, pair⟩)

end Opcode

end FantasyConsole
