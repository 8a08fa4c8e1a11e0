import FantasyConsole.Instruction
import Mathlib.Algebra.Ring.Nat

/-!
# Stack items as numbers

The bytes below the pointer are read as items of some sizes, each a number with its
high byte first. Taking an operand reads an item and moves the pointer down by its
size, giving a result pushes its last bytes. So what an instruction does to a stack
can be said with items and numbers alone.
-/
namespace FantasyConsole

/-- The number that bytes hold, high byte first. -/
def number (bytes : List UInt8) : Nat := bytes.foldl (fun v b => v * 256 + b.toNat) 0

/-- The last `n` bytes of a number, high byte first. -/
def digits : (n : Nat) → Nat → List UInt8
  | 0, _ => []
  | n + 1, v => digits n (v / 256) ++ [UInt8.ofNat v]

theorem digits_mod (n v : Nat) : digits n (v % 256 ^ n) = digits n v := by
  induction n generalizing v with
  | zero => rfl
  | succ n ih =>
    have hq : v % 256 ^ (n + 1) / 256 = v / 256 % 256 ^ n := by
      rw [Nat.pow_succ, Nat.mod_mul_left_div_self]
    have hr : UInt8.ofNat (v % 256 ^ (n + 1)) = UInt8.ofNat v := by
      apply UInt8.toNat_inj.mp
      rw [UInt8.toNat_ofNat', UInt8.toNat_ofNat']
      exact Nat.mod_mod_of_dvd v (Nat.dvd_mul_left 256 (256 ^ n))
    rw [digits, hq, ih, hr, digits]

theorem digits_congr {n v w : Nat} (h : v % 256 ^ n = w % 256 ^ n) : digits n v = digits n w := by
  rw [← digits_mod n v, h, digits_mod]

theorem digits_one (v : Nat) : digits 1 v = [UInt8.ofNat v] := rfl

theorem length_digits (n v : Nat) : (digits n v).length = n := by
  induction n generalizing v with
  | zero => rfl
  | succ n ih => rw [digits, List.length_append, ih, List.length_singleton]

theorem digits_two_toNat (w : UInt16) : digits 2 w.toNat = [highByte w, lowByte w] := by
  have hh : UInt8.ofNat (w.toNat / 256) = highByte w := by
    rw [← toNat_highByte, UInt8.ofNat_toNat]
  have hl : UInt8.ofNat w.toNat = lowByte w := by
    apply UInt8.toNat_inj.mp
    rw [UInt8.toNat_ofNat', toNat_lowByte]
  change [UInt8.ofNat (w.toNat / 256), UInt8.ofNat w.toNat] = _
  rw [hh, hl]

theorem number_append_singleton (bytes : List UInt8) (b : UInt8) :
    number (bytes ++ [b]) = number bytes * 256 + b.toNat := by
  simp [number]

theorem number_digits (n v : Nat) : number (digits n v) = v % 256 ^ n := by
  induction n generalizing v with
  | zero => exact (Nat.mod_one v).symm
  | succ n ih =>
    have hb : (UInt8.ofNat v).toNat = v % 256 := UInt8.toNat_ofNat'
    rw [digits, number_append_singleton, ih, hb, Nat.pow_succ,
      Nat.mul_comm (256 ^ n) 256, Nat.mod_mul]
    omega

namespace Stack

variable (s : Stack)

/-- The stack without the `n` bytes below the pointer, which stay in their cells. -/
def dropped (n : Nat) : Stack := s.setPtr (s.ptr - UInt8.ofNat n)

def item (n : Nat) : Nat := number (s.window (UInt8.ofNat n))

/-- The items of the given sizes at the top, the top one last. -/
def items (s : Stack) : List Nat → List Nat
  | [] => []
  | n :: sizes => (s.dropped sizes.sum).item n :: s.items sizes

@[simp] theorem dropped_zero : s.dropped 0 = s := by
  have hp : s.ptr - UInt8.ofNat 0 = s.ptr := UInt8.sub_zero s.ptr
  rw [dropped, hp]
  rfl

theorem dropped_dropped (a b : Nat) : (s.dropped a).dropped b = s.dropped (a + b) := by
  have hp : s.ptr - UInt8.ofNat a - UInt8.ofNat b = s.ptr - UInt8.ofNat (a + b) := by
    rw [UInt8.ofNat_add]
    grind
  exact congrArg s.setPtr hp

theorem window_one : s.window 1 = [s.get (s.ptr - 1)] := by
  simp [window]

theorem window_two : s.window 2 = [s.get (s.ptr - 2), s.get (s.ptr - 1)] := by
  have hp : s.ptr - 2 + 1 = s.ptr - 1 := by grind
  simp [window, List.range_succ, hp]

theorem item_one : s.item 1 = s.pop.1.toNat := by
  rw [item]
  change number (s.window 1) = _
  rw [window_one, number]
  simp [pop]

theorem item_two : s.item 2 = s.popWord.1.toNat := by
  have hp : s.ptr - 1 - 1 = s.ptr - 2 := by grind
  rw [item]
  change number (s.window 2) =
    (word ((s.setPtr (s.ptr - 1)).get (s.ptr - 1 - 1)) (s.get (s.ptr - 1))).toNat
  rw [window_two, toNat_word, get_setPtr, hp, number]
  simp

theorem item_one_lt : s.item 1 < 256 := s.item_one ▸ s.pop.1.toNat_lt

theorem item_two_lt : s.item 2 < 65536 := s.item_two ▸ s.popWord.1.toNat_lt

theorem pop_eq : s.pop = (UInt8.ofNat (s.item 1), s.dropped 1) := by
  rw [item_one, UInt8.ofNat_toNat]
  rfl

theorem popWord_eq : s.popWord = (UInt16.ofNat (s.item 2), s.dropped 2) := by
  have hp : s.ptr - 1 - 1 = s.ptr - 2 := by grind
  have hs : s.popWord.2 = s.dropped 2 := congrArg s.setPtr hp
  rw [item_two, UInt16.ofNat_toNat, ← hs]

theorem pushAll_cons (b : UInt8) (bytes : List UInt8) :
    s.pushAll (b :: bytes) = (s.push b).pushAll bytes := rfl

theorem pushAll_append (a b : List UInt8) : s.pushAll (a ++ b) = (s.pushAll a).pushAll b :=
  List.foldl_append

theorem pushWord_eq (w : UInt16) : s.pushWord w = s.pushAll (digits 2 w.toNat) := by
  rw [digits_two_toNat]
  rfl

theorem ptr_pushAll (bytes : List UInt8) :
    (s.pushAll bytes).ptr = s.ptr + UInt8.ofNat bytes.length := by
  induction bytes generalizing s with
  | nil => exact (UInt8.add_zero s.ptr).symm
  | cons b bytes ih =>
    rw [pushAll_cons, ih, ptr_push, List.length_cons, UInt8.ofNat_add]
    grind

theorem get_pushAll_of_ne (bytes : List UInt8) {j : UInt8}
    (h : ∀ i < bytes.length, s.ptr + UInt8.ofNat i ≠ j) :
    (s.pushAll bytes).get j = s.get j := by
  induction bytes generalizing s with
  | nil => rfl
  | cons b bytes ih =>
    have hfirst : s.ptr ≠ j := by simpa using h 0 (by simp)
    have hrest : ∀ i < bytes.length, (s.push b).ptr + UInt8.ofNat i ≠ j := by
      intro i hi
      have hne := h (i + 1) (by simpa using hi)
      rw [UInt8.ofNat_add] at hne
      rw [ptr_push]
      grind
    rw [pushAll_cons, ih _ hrest, get_push, if_neg hfirst]

/-- The bytes lie from the pointer on, as long as they do not run over themselves. -/
theorem get_pushAll_add (bytes : List UInt8) (hfits : bytes.length ≤ 256) {i : Nat}
    (hi : i < bytes.length) :
    (s.pushAll bytes).get (s.ptr + UInt8.ofNat i) = bytes[i] := by
  induction bytes generalizing s i with
  | nil => exact absurd hi (Nat.not_lt_zero i)
  | cons b bytes ih =>
    rw [List.length_cons] at hfits
    rw [pushAll_cons]
    cases i with
    | zero =>
      have hlater : ∀ i < bytes.length, (s.push b).ptr + UInt8.ofNat i ≠ s.ptr := by
        intro i hi he
        refine ofNat_succ_ne_zero (i := i) (by omega) ?_
        rw [ptr_push] at he
        rw [UInt8.ofNat_add]
        grind
      have hp : s.ptr + UInt8.ofNat 0 = s.ptr := UInt8.add_zero s.ptr
      rw [hp, get_pushAll_of_ne _ _ hlater, get_push, if_pos rfl, List.getElem_cons_zero]
    | succ i =>
      have hp : s.ptr + UInt8.ofNat (i + 1) = (s.push b).ptr + UInt8.ofNat i := by
        rw [UInt8.ofNat_add, ptr_push]
        grind
      rw [hp, ih (s.push b) (by omega) (by simpa using hi), List.getElem_cons_succ]

theorem window_pushAll {bytes : List UInt8} (h : bytes.length < 256) :
    (s.pushAll bytes).window (UInt8.ofNat bytes.length) = bytes := by
  have hn : (UInt8.ofNat bytes.length).toNat = bytes.length := UInt8.toNat_ofNat_of_lt' h
  have hp : (s.pushAll bytes).ptr - UInt8.ofNat bytes.length = s.ptr := by
    rw [ptr_pushAll]
    exact UInt8.add_sub_cancel ..
  apply List.ext_getElem
  · simp [window, hn]
  · intro i _ hi
    simp only [window, hn, hp, List.getElem_map, List.getElem_range]
    exact s.get_pushAll_add bytes (Nat.le_of_lt h) hi

theorem item_pushAll_digits {n v : Nat} (hn : n < 256) (hv : v < 256 ^ n) :
    (s.pushAll (digits n v)).item n = v := by
  have hlen := length_digits n v
  have hw : (s.pushAll (digits n v)).window (UInt8.ofNat (digits n v).length) = digits n v :=
    s.window_pushAll (hlen.symm ▸ hn)
  rw [hlen] at hw
  rw [item, hw, number_digits, Nat.mod_eq_of_lt hv]

end Stack

namespace Opcode

variable (op : Opcode) (s : Stack)

def size : Nat := if op.short then 2 else 1

theorem size_cases : op.short = true ∧ op.size = 2 ∨ op.short = false ∧ op.size = 1 := by
  rw [size]
  cases op.short <;> simp

theorem item_size_lt : s.item op.size < 256 ^ op.size := by
  rcases op.size_cases with ⟨-, h⟩ | ⟨-, h⟩ <;> rw [h]
  · exact s.item_two_lt
  · exact s.item_one_lt

theorem item_size_lt_word : s.item op.size < 65536 := by
  rcases op.size_cases with ⟨-, h⟩ | ⟨-, h⟩ <;> rw [h]
  · exact s.item_two_lt
  · exact Nat.lt_trans s.item_one_lt (by decide)

theorem take_eq : op.take s = (UInt16.ofNat (s.item op.size), s.dropped op.size) := by
  rw [take, size]
  cases op.short with
  | true => exact s.popWord_eq
  | false =>
    have hw : s.pop.1.toUInt16 = UInt16.ofNat (s.item 1) := by
      apply UInt16.toNat_inj.mp
      rw [UInt8.toNat_toUInt16, UInt16.toNat_ofNat', ← s.item_one]
      have := s.item_one_lt
      omega
    simp only [Bool.false_eq_true, if_false, ← hw]
    rfl

theorem give_eq (v : UInt16) : op.give s v = s.pushAll (digits op.size v.toNat) := by
  rw [give, size]
  cases op.short with
  | true => exact s.pushWord_eq v
  | false =>
    have hl : lowByte v = UInt8.ofNat v.toNat := by
      apply UInt8.toNat_inj.mp
      rw [toNat_lowByte, UInt8.toNat_ofNat']
    simp only [Bool.false_eq_true, if_false, digits_one, ← hl]
    rfl

def rest (n : Nat) : Stack := if op.keep then s else s.dropped n

theorem operands_eq {α : Type} {f : Stack → α × Stack} {a : α} {n : Nat}
    (h : f s = (a, s.dropped n)) :
    op.operands f s = (a, op.rest s n) := by
  rw [operands, h, rest]
  rfl

theorem takeTwo_eq : op.takeTwo s =
    ((UInt16.ofNat (s.item op.size), UInt16.ofNat ((s.dropped op.size).item op.size)),
      s.dropped (op.size + op.size)) := by
  rw [takeTwo, take_eq]
  dsimp only
  rw [take_eq, Stack.dropped_dropped]

theorem takeThree_eq : op.takeThree s =
    ((UInt16.ofNat (s.item op.size), UInt16.ofNat ((s.dropped op.size).item op.size),
      UInt16.ofNat ((s.dropped (op.size + op.size)).item op.size)),
        s.dropped (op.size + (op.size + op.size))) := by
  rw [takeThree, take_eq]
  dsimp only
  rw [take_eq]
  dsimp only
  rw [take_eq, Stack.dropped_dropped, Stack.dropped_dropped, Nat.add_assoc]

theorem takeByteThen_eq : op.takeByteThen s =
    ((UInt8.ofNat (s.item 1), UInt16.ofNat ((s.dropped 1).item op.size)),
      s.dropped (op.size + 1)) := by
  rw [takeByteThen, Stack.pop_eq]
  dsimp only
  rw [take_eq, Stack.dropped_dropped, Nat.add_comm]

def takeThenByte (op : Opcode) (s : Stack) : (UInt16 × UInt8) × Stack :=
  let (a, s) := op.take s
  let (c, s) := s.pop
  ((a, c), s)

theorem takeThenByte_eq : op.takeThenByte s =
    ((UInt16.ofNat (s.item op.size), (s.dropped op.size).pop.1), s.dropped (1 + op.size)) := by
  simp only [takeThenByte, take_eq, Stack.pop_eq, Stack.dropped_dropped, Nat.add_comm]

end Opcode

end FantasyConsole
