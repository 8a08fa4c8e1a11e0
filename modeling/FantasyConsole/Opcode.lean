import FantasyConsole.Stack

/-!
# Opcodes

An opcode byte packs one of 32 base operations in its low five bits and three
mode flags above them: short (bit 5) for operands of two bytes, return (bit 6)
for the return stack, keep (bit 7) for operands that stay on the stack. Base
operation 0 takes no operands; its flags choose one of five immediate forms.
-/
namespace FantasyConsole

inductive BaseOp where
  | immediate | inc | pop | nip | swp | rot | dup | ovr
  | equ | neq | gth | lth | jmp | jcn | jsr | sth
  | ldz | stz | ldr | str | lda | sta | dei | deo
  | add | sub | mul | div | and | ora | eor | sft
  deriving DecidableEq, Repr

/-- The immediate forms of base operation 0. -/
inductive ImmediateForm where
  | halt | jumpIf | jump | call | literal
  deriving DecidableEq, Repr

structure Opcode where
  base : BaseOp
  short : Bool
  stack : StackId
  keep : Bool
  deriving DecidableEq, Repr

namespace BaseOp

def table : Vector BaseOp 32 := #v[
  .immediate, .inc, .pop, .nip, .swp, .rot, .dup, .ovr,
  .equ, .neq, .gth, .lth, .jmp, .jcn, .jsr, .sth,
  .ldz, .stz, .ldr, .str, .lda, .sta, .dei, .deo,
  .add, .sub, .mul, .div, .and, .ora, .eor, .sft]

/-- The operation whose code is the low five bits of `b`. -/
def ofByte (b : UInt8) : BaseOp := getElem table (b.toNat % 32) (Nat.mod_lt _ (by decide))

def code (op : BaseOp) : Nat := op.ctorIdx

def mnemonic : BaseOp → String
  | .immediate => "LIT" | .inc => "INC" | .pop => "POP" | .nip => "NIP"
  | .swp => "SWP" | .rot => "ROT" | .dup => "DUP" | .ovr => "OVR"
  | .equ => "EQU" | .neq => "NEQ" | .gth => "GTH" | .lth => "LTH"
  | .jmp => "JMP" | .jcn => "JCN" | .jsr => "JSR" | .sth => "STH"
  | .ldz => "LDZ" | .stz => "STZ" | .ldr => "LDR" | .str => "STR"
  | .lda => "LDA" | .sta => "STA" | .dei => "DEI" | .deo => "DEO"
  | .add => "ADD" | .sub => "SUB" | .mul => "MUL" | .div => "DIV"
  | .and => "AND" | .ora => "ORA" | .eor => "EOR" | .sft => "SFT"

end BaseOp

namespace Opcode

/-- Split an opcode byte into its base operation and mode flags. -/
def decode (b : UInt8) : Opcode where
  base := .ofByte b
  short := b &&& 0x20 != 0
  stack := if b &&& 0x40 != 0 then .ret else .working
  keep := b &&& 0x80 != 0

/-- Which immediate form the flags choose; it has a meaning for base operation 0 only. -/
def immediateForm (op : Opcode) : ImmediateForm :=
  match op.keep, op.stack, op.short with
  | true, _, _ => .literal
  | false, .working, false => .halt
  | false, .working, true => .jumpIf
  | false, .ret, false => .jump
  | false, .ret, true => .call

/-- The base name with its flags. A literal keeps by nature, so its name has no keep mark. -/
def flaggedName (op : Opcode) : String :=
  let literal := op.base == .immediate
  op.base.mnemonic ++ (if op.short then "2" else "") ++ (if op.keep && !literal then "k" else "")
    ++ (if op.stack == .ret then "r" else "")

def name (op : Opcode) : String :=
  match op.base, op.immediateForm with
  | .immediate, .halt => "BRK"
  | .immediate, .jumpIf => "JCI"
  | .immediate, .jump => "JMI"
  | .immediate, .call => "JSI"
  | _, _ => op.flaggedName

end Opcode

end FantasyConsole
