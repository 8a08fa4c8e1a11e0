import FantasyConsole.Evaluator
import FantasyConsole.Proofs.Items

/-!
# The effect of an instruction

Each instruction reads some items off its stack and gives others for them. This
module says in numbers which: for every operation, both widths and either stack, one
step does what the table says, and nothing else changes.
-/
namespace FantasyConsole

/-- What an instruction makes of its operands: the bytes it gives to its own stack, those it sends
to the other stack, the memory, and the address of the next instruction. -/
structure Effect where
  given : List UInt8
  sent : List UInt8
  memory : Memory
  next : Nat

def signed (d : Nat) : Int := if d < 128 then d else d - 256

def Memory.writeAll (m : Memory) (cells : List UInt16) (bytes : List UInt8) : Memory :=
  (cells.zip bytes).foldl (fun m p => m.write p.1 p.2) m

/-- The operation of each number, which is that of no operands where the table says nothing. -/
def BaseOp.numbered : Nat → BaseOp
  | 0x01 => .inc | 0x02 => .pop | 0x03 => .nip | 0x04 => .swp
  | 0x05 => .rot | 0x06 => .dup | 0x07 => .ovr | 0x08 => .equ
  | 0x09 => .neq | 0x0A => .gth | 0x0B => .lth | 0x0C => .jmp
  | 0x0D => .jcn | 0x0E => .jsr | 0x0F => .sth | 0x10 => .ldz
  | 0x11 => .stz | 0x12 => .ldr | 0x13 => .str | 0x14 => .lda
  | 0x15 => .sta | 0x16 => .dei | 0x17 => .deo | 0x18 => .add
  | 0x19 => .sub | 0x1A => .mul | 0x1B => .div | 0x1C => .and
  | 0x1D => .ora | 0x1E => .eor | 0x1F => .sft | _ => .immediate

namespace Opcode

/-- The opcode of a byte: the operation's number is the remainder by 32, and each of the three
bits above it is a flag. -/
def ofNumber (b : Nat) : Opcode where
  base := .numbered (b % 32)
  short := b / 32 % 2 = 1
  stack := if b / 64 % 2 = 1 then .ret else .working
  keep := b / 128 % 2 = 1

theorem decode_eq_ofNumber (b : UInt8) : decode b = ofNumber b.toNat := by
  have hall : ∀ n < 256, decode (UInt8.ofNat n) = ofNumber n := by decide +kernel
  rw [← hall b.toNat b.toNat_lt, UInt8.ofNat_toNat]

theorem plain_ofNumber {n : Nat} (h : n % 32 ∉ [0x00, 0x16, 0x17]) :
    (ofNumber n).base ∉ [.immediate, .dei, .deo] := by
  have hall : ∀ k < 32, k ∉ [0x00, 0x16, 0x17] →
      BaseOp.numbered k ∉ [.immediate, .dei, .deo] := by decide
  exact hall (n % 32) (Nat.mod_lt n (by decide)) h

theorem keep_ofNumber {n : Nat} (h : n < 128) : (ofNumber n).keep = false := by
  simp [ofNumber, Nat.div_eq_of_lt h]

/-- The size of the address that a load or store takes: a byte for the zero page or a displacement,
else a word. -/
def addressSize (op : Opcode) : Nat :=
  match op.base with
  | .ldz | .stz | .ldr | .str => 1
  | _ => 2

/-- The sizes of the operands, the top one last. -/
def sizes (op : Opcode) : List Nat :=
  match op.base with
  | .immediate | .dei | .deo => []
  | .inc | .pop | .dup | .jmp | .jsr | .sth => [op.size]
  | .rot => [op.size, op.size, op.size]
  | .sft => [op.size, 1]
  | .jcn => [1, op.size]
  | .ldz | .ldr | .lda => [op.addressSize]
  | .stz | .str | .sta => [op.size, op.addressSize]
  | _ => [op.size, op.size]

/-- Where a jump goes: to the word `t`, or by the signed byte `t` on from `pc`. -/
def destination (op : Opcode) (pc : UInt16) (t : Nat) : Nat :=
  if op.short then t else ((pc.toNat + signed t) % 65536).toNat

/-- The cells that a load or store at the operand `a` reaches: those of the zero page, those that
lie the signed byte `a` on from `pc`, or those at the word `a`. -/
def cells (op : Opcode) (pc : UInt16) (a : Nat) : List UInt16 :=
  (List.range op.size).map fun i => UInt16.ofNat <|
    match op.base with
    | .ldz | .stz => (a + i) % 256
    | .ldr | .str => ((pc.toNat + signed a + i) % 65536).toNat
    | _ => (a + i) % 65536

/-- The effect of each operation on its operands, the top one last. Of a result only the last bytes
count, and a quotient by zero is zero. -/
@[grind =] def effect (op : Opcode) (pc : UInt16) (m : Memory) (items : List Nat) : Effect :=
  let give (results : List Nat) : Effect := ⟨results.flatMap (digits op.size), [], m, pc.toNat⟩
  let test (p : Bool) : Effect := ⟨[if p then 1 else 0], [], m, pc.toNat⟩
  match op.base, items with
  | .inc, [a] => give [a + 1]
  | .pop, [_] => give []
  | .nip, [_, b] => give [b]
  | .swp, [a, b] => give [b, a]
  | .rot, [a, b, c] => give [b, c, a]
  | .dup, [a] => give [a, a]
  | .ovr, [a, b] => give [a, b, a]
  | .equ, [a, b] => test (a = b)
  | .neq, [a, b] => test (a ≠ b)
  | .gth, [a, b] => test (a > b)
  | .lth, [a, b] => test (a < b)
  | .add, [a, b] => give [a + b]
  | .sub, [a, b] => give [a + 256 ^ op.size - b]
  | .mul, [a, b] => give [a * b]
  | .div, [a, b] => give [a / b]
  | .and, [a, b] => give [a &&& b]
  | .ora, [a, b] => give [a ||| b]
  | .eor, [a, b] => give [a ^^^ b]
  | .sft, [a, s] => give [a / 2 ^ (s % 16) * 2 ^ (s / 16)]
  | .jmp, [t] => { give [] with next := op.destination pc t }
  | .jcn, [c, t] => { give [] with next := if c ≠ 0 then op.destination pc t else pc.toNat }
  | .jsr, [t] => { give [] with sent := digits 2 pc.toNat, next := op.destination pc t }
  | .sth, [a] => { give [] with sent := digits op.size a }
  | .ldz, [a] | .ldr, [a] | .lda, [a] => { give [] with given := (op.cells pc a).map m.read }
  | .stz, [v, a] | .str, [v, a] | .sta, [v, a] =>
    { give [] with memory := m.writeAll (op.cells pc a) (digits op.size v) }
  | _, _ => give []

/-! ## Operations on numbers -/

section Numbers

variable (op : Opcode) {a b : Nat}

/-- Words may carry more than the width of the instruction, which only keeps its last bytes. -/
theorem digits_size_mod (v : Nat) : digits op.size (v % 65536) = digits op.size v := by
  apply digits_congr
  rcases op.size_cases with ⟨-, h⟩ | ⟨-, h⟩ <;> rw [h] <;> omega

theorem digits_arithmetic (ha : a < 65536) (hb : b < 256 ^ op.size) (pc : UInt16) (m : Memory)
    (hop : op.base ∈ [.add, .sub, .mul, .div, .and, .ora, .eor]) :
    digits op.size (arithmetic op.base (UInt16.ofNat a) (UInt16.ofNat b)).toNat =
      (op.effect pc m [a, b]).given := by
  have hb' : b < 65536 := by
    rcases op.size_cases with ⟨-, h⟩ | ⟨-, h⟩ <;> rw [h] at hb <;> omega
  have hta : (UInt16.ofNat a).toNat = a := UInt16.toNat_ofNat_of_lt' ha
  have htb : (UInt16.ofNat b).toNat = b := UInt16.toNat_ofNat_of_lt' hb'
  simp only [List.mem_cons, List.not_mem_nil, or_false] at hop
  rcases hop with h | h | h | h | h | h | h <;>
    simp only [h, arithmetic, effect, List.flatMap_cons, List.flatMap_nil, List.append_nil]
  · rw [UInt16.toNat_add, hta, htb]
    exact op.digits_size_mod (a + b)
  · rw [UInt16.toNat_sub, hta, htb]
    apply digits_congr
    rcases op.size_cases with ⟨-, hs⟩ | ⟨-, hs⟩ <;> rw [hs] at hb ⊢ <;> omega
  · rw [UInt16.toNat_mul, hta, htb]
    exact op.digits_size_mod (a * b)
  · rw [UInt16.toNat_div, hta, htb]
  · rw [UInt16.toNat_and, hta, htb]
  · rw [UInt16.toNat_or, hta, htb]
  · rw [UInt16.toNat_xor, hta, htb]

theorem compare_eq (ha : a < 65536) (hb : b < 65536) (pc : UInt16) (m : Memory)
    (hop : op.base ∈ [.equ, .neq, .gth, .lth]) :
    [if compare op.base (UInt16.ofNat a) (UInt16.ofNat b) then 1 else 0] =
      (op.effect pc m [a, b]).given := by
  have hta : (UInt16.ofNat a).toNat = a := UInt16.toNat_ofNat_of_lt' ha
  have htb : (UInt16.ofNat b).toNat = b := UInt16.toNat_ofNat_of_lt' hb
  have he : UInt16.ofNat a = UInt16.ofNat b ↔ a = b := by rw [← UInt16.toNat_inj, hta, htb]
  simp only [List.mem_cons, List.not_mem_nil, or_false] at hop
  rcases hop with h | h | h | h <;> simp [h, compare, effect, he, UInt16.lt_iff_toNat_lt, hta, htb]

theorem toNat_shift (s : UInt8) (v : UInt16) :
    (shift s v).toNat = v.toNat / 2 ^ (s.toNat % 16) * 2 ^ (s.toNat / 16) % 65536 := by
  have hs := s.toNat_lt
  have hlow : (s &&& 0x0F).toUInt32.toNat % 32 = s.toNat % 16 := by
    have hm : s.toNat &&& 15 = s.toNat % 16 := Nat.and_two_pow_sub_one_eq_mod s.toNat 4
    rw [UInt8.toNat_toUInt32, UInt8.toNat_and]
    change (s.toNat &&& 15) % 32 = _
    omega
  have hhigh : (s >>> 4).toUInt32.toNat % 32 = s.toNat / 16 := by
    rw [UInt8.toNat_toUInt32, UInt8.toNat_shiftRight]
    change (s.toNat >>> 4) % 32 = _
    rw [Nat.shiftRight_eq_div_pow]
    omega
  rw [shift, UInt32.toNat_toUInt16, UInt32.toNat_shiftLeft, UInt32.toNat_shiftRight, hlow, hhigh,
    UInt16.toNat_toUInt32, Nat.shiftLeft_eq, Nat.shiftRight_eq_div_pow]
  exact Nat.mod_mod_of_dvd _ (by decide)

theorem toNat_displace (pc : UInt16) (d : UInt8) :
    ((displace pc d).toNat : Int) = (pc.toNat + signed d.toNat) % 65536 := by
  have hp := pc.toNat_lt
  have hd := d.toNat_lt
  have hlt : d < 128 ↔ d.toNat < 128 := UInt8.lt_iff_toNat_lt
  rw [displace, signed]
  by_cases h : d < 128
  · rw [if_pos h, if_pos (hlt.mp h), UInt16.toNat_add, UInt8.toNat_toUInt16]
    omega
  · have hor : (d.toUInt16 ||| 0xFF00).toNat = 65280 + d.toNat := by
      rw [UInt16.toNat_or, UInt8.toNat_toUInt16, Nat.or_comm]
      exact (Nat.two_pow_add_eq_or_of_lt (i := 8) (by omega) 255).symm
    rw [if_neg h, if_neg (mt hlt.mpr h), UInt16.toNat_add, hor]
    omega

theorem target_eq (ha : a < 256 ^ op.size) (pc : UInt16) :
    op.target pc (UInt16.ofNat a) = UInt16.ofNat (op.destination pc a) := by
  rw [target, destination]
  rcases op.size_cases with ⟨h, hs⟩ | ⟨h, hs⟩ <;> rw [hs] at ha
  · rw [if_pos h, if_pos h]
  · have hl : (lowByte (UInt16.ofNat a)).toNat = a := by
      rw [toNat_lowByte, UInt16.toNat_ofNat_of_lt' (Nat.lt_trans ha (by decide))]
      omega
    have ht := toNat_displace pc (lowByte (UInt16.ofNat a))
    have hf : ¬ op.short = true := by simp [h]
    rw [hl] at ht
    rw [if_neg hf, if_neg hf,
      ← UInt16.ofNat_toNat (x := displace pc (lowByte (UInt16.ofNat a))), ← ht, Int.toNat_natCast]

end Numbers

/-! ## Stack work -/

section Rework

variable (op : Opcode) (s : Stack)

@[simp] theorem item_mod : s.item op.size % 65536 = s.item op.size :=
  Nat.mod_eq_of_lt (op.item_size_lt_word s)

theorem toNat_item : (UInt16.ofNat (s.item op.size)).toNat = s.item op.size := by simp

/-- Instructions that only rework the active stack leave it with the results of the table in place
of the operands. -/
theorem rework_eq (pc : UInt16) (m : Memory)
    (h : op.base ∉ [.jmp, .jcn, .jsr, .sth, .ldz, .stz, .ldr, .str, .lda, .sta]) :
    op.rework s = (op.rest s op.sizes.sum).pushAll (op.effect pc m (s.items op.sizes)).given := by
  have hone := op.operands_eq s (op.take_eq s)
  have htwo := op.operands_eq s (op.takeTwo_eq s)
  have hthree := op.operands_eq s (op.takeThree_eq s)
  cases hb : op.base with
  | immediate | dei | deo => simp [rework, hb, effect, sizes, Stack.items, rest, Stack.pushAll]
  | jmp | jcn | jsr | sth | ldz | stz | ldr | str | lda | sta => simp [hb] at h
  | inc =>
    have hv : ((UInt16.ofNat (s.item op.size)) + 1).toNat = (s.item op.size + 1) % 65536 := by
      rw [UInt16.toNat_add, toNat_item]
      rfl
    simp [rework, hb, hone, effect, sizes, Stack.items, give_eq, hv, digits_size_mod]
  | pop => simp [rework, hb, hone, effect, sizes, Stack.items, Stack.pushAll]
  | nip => simp [rework, hb, htwo, effect, sizes, Stack.items, give_eq]
  | swp => simp [rework, hb, htwo, effect, sizes, Stack.items, give_eq, Stack.pushAll_append]
  | rot => simp [rework, hb, hthree, effect, sizes, Stack.items, give_eq, Stack.pushAll_append]
  | dup => simp [rework, hb, hone, effect, sizes, Stack.items, give_eq, Stack.pushAll_append]
  | ovr => simp [rework, hb, htwo, effect, sizes, Stack.items, give_eq, Stack.pushAll_append]
  | equ | neq | gth | lth =>
    have hc :=
      op.compare_eq (op.item_size_lt_word (s.dropped op.size)) (op.item_size_lt_word s) pc m
        (by simp [hb])
    simp only [rework, hb, htwo, sizes, Stack.items, List.sum_cons, List.sum_nil, Nat.add_zero,
      Stack.dropped_zero, ← hc]
    rfl
  | add | sub | mul | div | and | ora | eor =>
    have ha :=
      op.digits_arithmetic (op.item_size_lt_word (s.dropped op.size)) (op.item_size_lt s) pc m
        (by simp [hb])
    simp only [rework, hb, htwo, sizes, Stack.items, List.sum_cons, List.sum_nil, Nat.add_zero,
      Stack.dropped_zero, ← ha, give_eq]
  | sft =>
    have hs : (UInt8.ofNat (s.item 1)).toNat = s.item 1 := UInt8.toNat_ofNat_of_lt' s.item_one_lt
    have ht := op.operands_eq s (op.takeByteThen_eq s)
    simp [rework, hb, ht, effect, sizes, Stack.items, give_eq, toNat_shift, digits_size_mod, hs]

end Rework

/-! ## Memory accesses -/

section Accesses

variable (op : Opcode) (pc : UInt16) (s : Stack) (m : Memory)

def reached (a : Nat) : UInt16 :=
  match op.base with
  | .ldr | .str => displace pc (UInt8.ofNat a)
  | _ => UInt16.ofNat a

theorem addressSize_cases : op.addressSize = 1 ∨ op.addressSize = 2 := by
  unfold addressSize
  split <;> simp

theorem item_addressSize_lt : s.item op.addressSize < 256 ^ op.addressSize := by
  rcases op.addressSize_cases with h | h <;> rw [h]
  · exact s.item_one_lt
  · exact s.item_two_lt

theorem takeAddress_eq :
    op.takeAddress pc s = (op.reached pc (s.item op.addressSize), s.dropped op.addressSize) := by
  have hb : s.pop.1.toUInt16 = UInt16.ofNat (s.item 1) := by
    rw [s.item_one]
    exact (UInt16.toNat_inj.mp (by simp)).symm
  unfold takeAddress reached addressSize
  rw [s.pop_eq] at hb
  split <;> simp_all [s.pop_eq, s.popWord_eq]

def takeAddressThen (op : Opcode) (pc : UInt16) (s : Stack) : (UInt16 × UInt16) × Stack :=
  let (a, s) := op.takeAddress pc s
  let (v, s) := op.take s
  ((a, v), s)

theorem takeAddressThen_eq : op.takeAddressThen pc s =
    ((op.reached pc (s.item op.addressSize),
      UInt16.ofNat ((s.dropped op.addressSize).item op.size)),
      s.dropped (op.size + op.addressSize)) := by
  simp only [takeAddressThen, takeAddress_eq, take_eq, Stack.dropped_dropped, Nat.add_comm]

theorem cells_eq {a : Nat} (ha : a < 256 ^ op.addressSize) : op.cells pc a =
    (List.range op.size).map fun i => (op.reached pc a + UInt16.ofNat i) &&& op.addressMask := by
  have hfull (w : UInt16) : w &&& 0xFFFF = w := UInt16.and_neg_one
  have hpage (w : UInt16) : (w &&& 0xFF).toNat = w.toNat % 256 :=
    Nat.and_two_pow_sub_one_eq_mod w.toNat 8
  refine List.map_congr_left fun i _ => UInt16.toNat_inj.mp ?_
  have hzero : (UInt16.ofNat ((a + i) % 256)).toNat =
      (UInt16.ofNat a + UInt16.ofNat i).toNat % 256 := by
    simp only [UInt16.toNat_add, UInt16.toNat_ofNat']
    omega
  have hrelative (h : a < 256) : (UInt16.ofNat ((pc.toNat + signed a + i) % 65536).toNat).toNat =
      (displace pc (UInt8.ofNat a) + UInt16.ofNat i).toNat := by
    have hd := toNat_displace pc (UInt8.ofNat a)
    rw [UInt8.toNat_ofNat_of_lt' h] at hd
    simp only [UInt16.toNat_add, UInt16.toNat_ofNat']
    omega
  have hword : (UInt16.ofNat ((a + i) % 65536)).toNat =
      (UInt16.ofNat a + UInt16.ofNat i).toNat := by
    simp only [UInt16.toNat_add, UInt16.toNat_ofNat']
    omega
  unfold reached addressMask addressSize at *
  split at ha
  case h_1 h | h_2 h =>
    simp only [h, hpage]
    exact hzero
  case h_3 h | h_4 h =>
    simp only [h, hfull]
    exact hrelative ha
  case h_5 hldz hstz hldr hstr =>
    simp only [hfull]
    exact hword

theorem give_load (address : UInt16) : op.give s (op.load m address) = s.pushAll
    ((List.range op.size).map fun i => m.read ((address + UInt16.ofNat i) &&& op.addressMask)) := by
  rw [give, load]
  rcases op.size_cases with ⟨h, hs⟩ | ⟨h, hs⟩
  · rw [if_pos h, if_pos h, hs, Stack.pushWord, Memory.readWordMasked, highByte_word, lowByte_word]
    simp [List.range_succ, Stack.pushAll]
  · have hf : ¬ op.short = true := by simp [h]
    rw [if_neg hf, if_neg hf, hs]
    simp [Stack.pushAll, lowByte]

theorem store_eq (address v : UInt16) : op.store m address v = m.writeAll
    ((List.range op.size).map fun i => (address + UInt16.ofNat i) &&& op.addressMask)
      (digits op.size v.toNat) := by
  rw [store]
  rcases op.size_cases with ⟨h, hs⟩ | ⟨h, hs⟩
  · rw [if_pos h, hs, digits_two_toNat]
    simp [List.range_succ, Memory.writeAll, Memory.writeWordMasked]
  · have hf : ¬ op.short = true := by simp [h]
    rw [if_neg hf, hs]
    simp [Memory.writeAll, lowByte, digits_one]

end Accesses

/-! ## Instructions -/

section Instructions

variable (op : Opcode) (pc : UInt16) (m : Memory) (pair : StackPair)

/-- What an instruction leaves when it has the effect `e`: the operands go in the way the mode says,
and the results come on top of what is left. -/
def applied (e : Effect) : UInt16 × Core :=
  (UInt16.ofNat e.next, ⟨e.memory,
    (pair.modify op.stack fun s => (op.rest s op.sizes.sum).pushAll e.given).modify op.stack.other
    (·.pushAll e.sent)⟩)

def Follows : Prop :=
  op.execute pc ⟨m, pair⟩ = op.applied pair (op.effect pc m ((pair.get op.stack).items op.sizes))

variable {op pc m pair}

theorem on_operands {α : Type} {f : Stack → α × Stack} {a : Stack → α} {n : Nat}
    (h : ∀ s, f s = (a s, s.dropped n)) :
    pair.on op.stack (op.operands f) =
      (a (pair.get op.stack), pair.modify op.stack (op.rest · n)) := by
  have ho (s : Stack) : op.operands f s = (a s, op.rest s n) := op.operands_eq s (h s)
  rw [StackPair.on_eq, ho]
  simp only [ho]

theorem applied_of_sent_nil {e : Effect} (h : e.sent = []) : op.applied pair e =
    (UInt16.ofNat e.next,
      ⟨e.memory, pair.modify op.stack fun s => (op.rest s op.sizes.sum).pushAll e.given⟩) := by
  rw [applied, h]
  cases op.stack <;> rfl

theorem follows_jmp (h : op.base = .jmp) : op.Follows pc m pair := by
  have ht := op.target_eq (op.item_size_lt (pair.get op.stack)) pc
  rw [Follows, applied_of_sent_nil (by simp [effect, h, sizes, Stack.items]), execute]
  simp only [h, on_operands op.take_eq, ht]
  simp [effect, sizes, h, Stack.items, Stack.pushAll]

theorem follows_jcn (h : op.base = .jcn) : op.Follows pc m pair := by
  have ht := op.target_eq (op.item_size_lt (pair.get op.stack)) pc
  have hc (s : Stack) : s.pop.1 ≠ 0 ↔ s.item 1 ≠ 0 := by
    rw [s.item_one]
    simp [← UInt8.toNat_inj]
  have hx : op.execute pc ⟨m, pair⟩ =
      let r := pair.on op.stack (op.operands op.takeThenByte)
      (if r.1.2 != 0 then op.target pc r.1.1 else pc, ⟨m, r.2⟩) := by
    simp only [execute, h]
    rfl
  rw [Follows, applied_of_sent_nil (by simp [effect, h, sizes, Stack.items]), hx,
    on_operands op.takeThenByte_eq]
  simp only [ht]
  simp [effect, sizes, h, Stack.items, Stack.pushAll, hc, apply_ite UInt16.ofNat]

theorem follows_jsr (h : op.base = .jsr) : op.Follows pc m pair := by
  have ht := op.target_eq (op.item_size_lt (pair.get op.stack)) pc
  rw [Follows, execute]
  simp only [h, on_operands op.take_eq, ht]
  simp [applied, effect, sizes, h, Stack.items, Stack.pushAll, Stack.pushWord_eq]

theorem follows_sth (h : op.base = .sth) : op.Follows pc m pair := by
  rw [Follows, execute]
  simp only [h, on_operands op.take_eq, give_eq, toNat_item]
  simp [applied, effect, sizes, h, Stack.items, Stack.pushAll]

theorem sizes_of_load (h : op.base = .ldz ∨ op.base = .ldr ∨ op.base = .lda) :
    op.sizes = [op.addressSize] := by
  rcases h with h | h | h <;> simp only [sizes, h]

theorem effect_of_load (h : op.base = .ldz ∨ op.base = .ldr ∨ op.base = .lda) (a : Nat) :
    op.effect pc m [a] = ⟨(op.cells pc a).map m.read, [], m, pc.toNat⟩ := by
  rcases h with h | h | h <;> simp only [effect, h]

theorem sizes_of_store (h : op.base = .stz ∨ op.base = .str ∨ op.base = .sta) :
    op.sizes = [op.size, op.addressSize] := by
  rcases h with h | h | h <;> simp only [sizes, h]

theorem effect_of_store (h : op.base = .stz ∨ op.base = .str ∨ op.base = .sta) (v a : Nat) :
    op.effect pc m [v, a] = ⟨[], [], m.writeAll (op.cells pc a) (digits op.size v), pc.toNat⟩ := by
  rcases h with h | h | h <;> simp only [effect, h, List.flatMap_nil]

theorem follows_load (h : op.base = .ldz ∨ op.base = .ldr ∨ op.base = .lda) :
    op.Follows pc m pair := by
  have hs := sizes_of_load h
  have hx : op.execute pc ⟨m, pair⟩ =
      let r := pair.on op.stack (op.operands (op.takeAddress pc))
      (pc, ⟨m, r.2.modify op.stack (op.give · (op.load m r.1))⟩) := by
    rcases h with h | h | h <;> simp only [execute, h]
  have hc := op.cells_eq pc (op.item_addressSize_lt (pair.get op.stack))
  rw [Follows, hs, Stack.items, Stack.items, effect_of_load h, applied_of_sent_nil rfl, hx,
    on_operands (op.takeAddress_eq pc)]
  simp only [give_load, hc, hs, List.sum_cons, List.sum_nil, Stack.dropped_zero,
    List.map_map, Nat.add_zero, UInt16.ofNat_toNat, StackPair.modify_modify]
  rfl

theorem follows_store (h : op.base = .stz ∨ op.base = .str ∨ op.base = .sta) :
    op.Follows pc m pair := by
  have hs := sizes_of_store h
  have hx : op.execute pc ⟨m, pair⟩ =
      let r := pair.on op.stack (op.operands (op.takeAddressThen pc))
      (pc, ⟨op.store m r.1.1 r.1.2, r.2⟩) := by
    rcases h with h | h | h <;> simp only [execute, h] <;> rfl
  have hc := op.cells_eq pc (op.item_addressSize_lt (pair.get op.stack))
  rw [Follows, hs, Stack.items, Stack.items, Stack.items, effect_of_store h,
    applied_of_sent_nil rfl, hx, on_operands (op.takeAddressThen_eq pc)]
  simp only [store_eq, hc, hs, List.sum_cons, List.sum_nil, Stack.dropped_zero,
    Nat.add_zero, toNat_item, UInt16.ofNat_toNat]
  rfl

theorem follows_rework
    (h : op.base ∉ [.jmp, .jcn, .jsr, .sth, .ldz, .stz, .ldr, .str, .lda, .sta]) :
    op.Follows pc m pair := by
  have hx : op.execute pc ⟨m, pair⟩ = (pc, ⟨m, pair.modify op.stack op.rework⟩) := by
    cases hb : op.base <;> simp [hb] at h <;> simp only [execute, hb]
  have he (items : List Nat) : (op.effect pc m items).sent = [] ∧
      (op.effect pc m items).memory = m ∧ (op.effect pc m items).next = pc.toNat := by
    unfold effect
    split <;> simp_all
  obtain ⟨hs, hm, hn⟩ := he ((pair.get op.stack).items op.sizes)
  rw [Follows, applied_of_sent_nil hs, hm, hn, hx, UInt16.ofNat_toNat]
  exact congrArg (fun p => (pc, Core.mk m p))
    (pair.modify_congr op.stack (op.rework_eq (pair.get op.stack) pc m h))

variable (op pc m pair) in
/-- Every instruction has the effect of the table. -/
theorem follows : op.Follows pc m pair := by
  cases hb : op.base with
  | jmp => exact follows_jmp hb
  | jcn => exact follows_jcn hb
  | jsr => exact follows_jsr hb
  | sth => exact follows_sth hb
  | ldz | ldr | lda => exact follows_load (by simp [hb])
  | stz | str | sta => exact follows_store (by simp [hb])
  | _ => exact follows_rework (by simp [hb])

end Instructions

end Opcode

namespace Machine

theorem onCore_eq {α : Type} (m : Machine) (f : Core → α × Core) :
    m.onCore f = ((f m.board.core).1, { m with board.core := (f m.board.core).2 }) := rfl

theorem step_of_plain (io : Access) (pc : UInt16) (m : Machine) {op : Opcode}
    (hop : .decode (m.board.core.memory.read pc) = op) (h : op.base ∉ [.immediate, .dei, .deo]) :
    m.step io pc =
      let (next, m) :=
        (m.note (.executed pc (m.board.core.memory.read pc))).onCore (op.execute (pc + 1))
      some (some next, m) := by
  rw [step, hop]
  cases hb : op.base <;> first | rfl | simp [hb] at h

/-- What a step of an instruction that reaches no device leaves, in keep mode too. -/
theorem step_eq_applied (io : Access) (pc : UInt16) (m : Machine) {op : Opcode}
    (hop : .decode (m.board.core.memory.read pc) = op)
    (hbase : op.base ∉ [.immediate, .dei, .deo]) :
    let core := m.board.core
    let r :=
      op.applied core.stackPair
        (op.effect (pc + 1) core.memory ((core.stackPair.get op.stack).items op.sizes))
    m.step io pc = some (some r.1,
      { m.note (.executed pc (core.memory.read pc)) with board.core := r.2 }) := by
  have hx : op.execute (pc + 1) m.board.core = op.applied m.board.core.stackPair
      (op.effect (pc + 1) m.board.core.memory
        ((m.board.core.stackPair.get op.stack).items op.sizes)) :=
    op.follows (pc + 1) m.board.core.memory m.board.core.stackPair
  rw [step_of_plain io pc m hop hbase, onCore_eq]
  exact congrArg (fun r : UInt16 × Core => some (some r.1,
    { m.note (.executed pc (m.board.core.memory.read pc)) with board.core := r.2 })) hx

/-- One step of any byte whose operation is none of the three that take no operands from a stack
alone, and whose highest bit is clear. The operands go off the stack that the byte names, and
the results of the table come in their place, with its memory and its next address. -/
theorem step_eq_effect (io : Access) (pc : UInt16) (m : Machine)
    (hbase : (m.board.core.memory.read pc).toNat % 32 ∉ [0x00, 0x16, 0x17])
    (hkeep : (m.board.core.memory.read pc).toNat < 128) :
    let core := m.board.core
    let b := core.memory.read pc
    let op := Opcode.ofNumber b.toNat
    let e := op.effect (pc + 1) core.memory ((core.stackPair.get op.stack).items op.sizes)
    let pair := core.stackPair.modify op.stack fun s => (s.dropped op.sizes.sum).pushAll e.given
    m.step io pc = some (some (UInt16.ofNat e.next),
      { m.note (.executed pc b) with
        board.core := ⟨e.memory, pair.modify op.stack.other (·.pushAll e.sent)⟩ }) := by
  intro core b op
  have hk : op.keep = false := Opcode.keep_ofNumber hkeep
  have hr (s : Stack) : op.rest s op.sizes.sum = s.dropped op.sizes.sum := by simp [Opcode.rest, hk]
  have hstep := step_eq_applied io pc m (Opcode.decode_eq_ofNumber b) (Opcode.plain_ofNumber hbase)
  simp only [Opcode.applied] at hstep
  rw [hstep]
  simp only [op, b, core, ← hr]

/-- A machine with bytes on both stacks, on the working one across the end of its cells. -/
def calculating : Machine :=
  let m := bare .standard (.upTo none)
  let memory :=
    ((((Memory.zero.write 0xFFFF 0x3B).write 0 0x19).write 1 0x5F).write 2 0x0E).write 3 0x31
  let working := (Stack.empty.setPtr 0xFE).pushAll [0x9A, 0x34, 0x12, 0xFF]
  { m with board.core := ⟨memory, ⟨working, Stack.empty.pushAll [0x81, 0x12]⟩⟩ }

/-- The next address, the pointers and the bytes below them after one step. -/
def outcome (m : Machine) (pc : UInt16) (n k : UInt8) :
    Option (Option UInt16 × (UInt8 × List UInt8) × UInt8 × List UInt8) :=
  (m.step .refused pc).map fun r =>
    let pair := r.2.board.core.stackPair
    (r.1, (pair.working.ptr, pair.working.window n), pair.ret.ptr, pair.ret.window k)

/-- A division, a subtraction, a shift on the return stack, a call backwards and a store across the
end of the zero page, each from the same machine. -/
theorem step_eq_effect_calculating :
    (∀ pc ∈ [0xFFFF, 0, 1, 2, 3], (calculating.board.core.memory.read pc).toNat % 32 ∉
      [0x00, 0x16, 0x17] ∧
      (calculating.board.core.memory.read pc).toNat < 128) ∧
    calculating.outcome 0xFFFF 2 2 = some (some 0, (0, [0x00, 0x08]), 2, [0x81, 0x12]) ∧
    calculating.outcome 0 3 2 = some (some 1, (1, [0x9A, 0x34, 0x13]), 2, [0x81, 0x12]) ∧
    calculating.outcome 1 4 1 = some (some 2, (2, [0x9A, 0x34, 0x12, 0xFF]), 1, [0x40]) ∧
    calculating.outcome 2 3 4 = some (some 2, (1, [0x9A, 0x34, 0x12]), 4,
      [0x81, 0x12, 0x00, 0x03]) ∧
    (calculating.step .refused 3).map (fun r =>
      (r.1, r.2.board.core.memory.read 0xFF, r.2.board.core.memory.read 0)) =
        some (some 4, 0x34, 0x12) := by
  have hbyte : calculating.board.core.memory.read 0xFFFF = 0x3B ∧
      calculating.board.core.memory.read 0 = 0x19 ∧
      calculating.board.core.memory.read 1 = 0x5F ∧ calculating.board.core.memory.read 2 = 0x0E ∧
      calculating.board.core.memory.read 3 = 0x31 := by
    simp [calculating, Memory.read_write]
  obtain ⟨hdiv, hsub, hsft, hjsr, hstz⟩ := hbyte
  have hbytes : ∀ pc ∈ [0xFFFF, 0, 1, 2, 3],
      (calculating.board.core.memory.read pc).toNat % 32 ∉ [0x00, 0x16, 0x17] ∧
        (calculating.board.core.memory.read pc).toNat < 128 := by
    simp [hdiv, hsub, hsft, hjsr, hstz]
  have hstep (pc : UInt16) (hpc : pc ∈ [0xFFFF, 0, 1, 2, 3]) :=
    step_eq_effect .refused pc calculating (hbytes pc hpc).1 (hbytes pc hpc).2
  refine ⟨hbytes, ?_, ?_, ?_, ?_, ?_⟩
  · rw [outcome, hstep 0xFFFF (by decide), hdiv]
    decide +kernel
  · rw [outcome, hstep 0 (by decide), hsub]
    decide +kernel
  · rw [outcome, hstep 1 (by decide), hsft]
    decide +kernel
  · rw [outcome, hstep 2 (by decide), hjsr]
    decide +kernel
  · rw [hstep 3 (by decide), hstz]
    decide +kernel

end Machine

end FantasyConsole
