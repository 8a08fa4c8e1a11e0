import FantasyConsole.Board

/-!
# Accesses that refuse

Strict arithmetic has no result where plain arithmetic would leave its range, and a strict
access has none outside of its buffer. An algorithm written with them shows that nothing
goes out of range by always having a result, the one of the algorithm that cannot fail.
-/
namespace FantasyConsole

namespace Strict

/-- The sum of two words, none if it is no word. -/
def add (a b : UInt16) : Option UInt16 := if a.toNat + b.toNat < 65536 then some (a + b) else none

/-- The difference of two words, none if it is below zero. -/
def sub (a b : UInt16) : Option UInt16 := if b.toNat ≤ a.toNat then some (a - b) else none

def mul (a b : UInt16) : Option UInt16 := if a.toNat * b.toNat < 65536 then some (a * b) else none

/-- A byte shifted to the right, none if nothing can be left of it. -/
def shiftRight (a : UInt8) (n : UInt16) : Option UInt8 :=
  if n.toNat < 8 then some (a >>> n.toUInt8) else none

/-- Sizes and indexes stay below this bound, the smallest that is in use. -/
def sizeLimit : Nat := 4294967296

def addSize (a b : Nat) : Option Nat := if a + b < sizeLimit then some (a + b) else none

variable {α : Type} {n : Nat}

def put (xs : Vector α n) (i : Nat) (a : α) : Option (Vector α n) :=
  if h : i < n then some (xs.set i a) else none

variable {a b : UInt16}

theorem add_eq (h : a.toNat + b.toNat < 65536) : add a b = some (a + b) := if_pos h

theorem sub_eq (h : b.toNat ≤ a.toNat) : sub a b = some (a - b) := if_pos h

theorem mul_eq (h : a.toNat * b.toNat < 65536) : mul a b = some (a * b) := if_pos h

theorem shiftRight_eq {a : UInt8} {n : UInt16} (h : n.toNat < 8) :
    shiftRight a n = some (a >>> n.toUInt8) := if_pos h

theorem addSize_eq {a b : Nat} (h : a + b < sizeLimit) : addSize a b = some (a + b) := if_pos h

theorem put_eq (xs : Vector α n) {i : Nat} (h : i < n) (a : α) :
    put xs i a = some (xs.set i a) := dif_pos h

end Strict

/-! ## Memory and ports -/

namespace Memory

def strictRead (m : Memory) (a : UInt16) : Option UInt8 := m.cells[a.toNat]?

def strictWord (m : Memory) (a : UInt16) : Option UInt16 := do
  return word (← m.strictRead a) (← m.strictRead (a + 1))

def strictWrite (m : Memory) (a : UInt16) (v : UInt8) : Option Memory := do
  return ⟨← Strict.put m.cells a.toNat v⟩

@[simp] theorem strictRead_eq (m : Memory) (a : UInt16) : m.strictRead a = some (m.read a) :=
  Vector.getElem?_eq_getElem a.toNat_lt

@[simp] theorem strictWord_eq (m : Memory) (a : UInt16) : m.strictWord a = some (m.readWord a) := by
  simp [strictWord, readWord]

@[simp] theorem strictWrite_eq (m : Memory) (a : UInt16) (v : UInt8) :
    m.strictWrite a v = some (m.write a v) := by
  simp [strictWrite, write, Strict.put_eq _ a.toNat_lt]

end Memory

namespace Ports

def strictGet (p : Ports) (port : UInt8) : Option UInt8 := p.cells[port.toNat]?

def strictSet (p : Ports) (port v : UInt8) : Option Ports := do
  return ⟨← Strict.put p.cells port.toNat v⟩

def strictField (p : Ports) (port : UInt8) : Option UInt16 := do
  return word (← p.strictGet (port - 1)) (← p.strictGet port)

def strictSetField (p : Ports) (port : UInt8) (w : UInt16) : Option Ports := do
  (← p.strictSet port (highByte w)).strictSet (port + 1) (lowByte w)

@[simp] theorem strictGet_eq (p : Ports) (port : UInt8) : p.strictGet port = some (p.get port) :=
  Vector.getElem?_eq_getElem port.toNat_lt

@[simp] theorem strictSet_eq (p : Ports) (port v : UInt8) :
    p.strictSet port v = some (p.set port v) := by
  simp [strictSet, set, Strict.put_eq _ port.toNat_lt]

@[simp] theorem strictField_eq (p : Ports) (port : UInt8) :
    p.strictField port = some (p.fieldEndingAt port) := by
  simp [strictField, fieldEndingAt]

@[simp] theorem strictSetField_eq (p : Ports) (port : UInt8) (w : UInt16) :
    p.strictSetField port w = some (p.setFieldFrom port w) := by
  simp [strictSetField, setFieldFrom]

end Ports

/-! ## Circular fill and copy -/

namespace Ring

open Strict (sizeLimit)

variable {α : Type} {n m : Nat}

/-- Fill a slice, none if it does not lie in the buffer. -/
def strictFillRun (dst : Vector α n) (start : Nat) (v : α) (count : Nat) : Option (Vector α n) :=
  if h : start + count < sizeLimit ∧ start + count ≤ n then some (fillRun dst start v count h.2)
  else none

/-- Copy a slice to another, none if one of them does not lie in its buffer. -/
def strictCopyRun (dst : Vector α n) (start : Nat) (src : Vector α m) (origin count : Nat) :
    Option (Vector α n) :=
  if h : (start + count < sizeLimit ∧ origin + count < sizeLimit) ∧
      start + count ≤ n ∧ origin + count ≤ m then
    some (copyRun dst start src origin count h.2.1 h.2.2)
  else none

/-- Fill `left` cells run by run. A run is at most as long as what is left and as the difference of
size and start, which must not be below zero; a run of no cells is refused, because it would be made
again and again. -/
def strictFillRuns (dst : Vector α n) (start : Nat) (v : α) (left : Nat) : Option (Vector α n) :=
  if left = 0 then some dst
  else
    let run := min (n - start) left
    if _h : start ≤ n ∧ 0 < run then
      (strictFillRun dst start v run).bind fun dst =>
        strictFillRuns dst ((start + run) % n) v (left - run)
    else none
termination_by left
decreasing_by omega

def strictCopyRuns (dst : Vector α n) (start : Nat) (src : Vector α m) (origin left : Nat) :
    Option (Vector α n) :=
  if left = 0 then some dst
  else
    let run := min (min (n - start) (m - origin)) left
    if _h : (start ≤ n ∧ origin ≤ m) ∧ 0 < run then
      (strictCopyRun dst start src origin run).bind fun dst =>
        strictCopyRuns dst ((start + run) % n) src ((origin + run) % m) (left - run)
    else none
termination_by left
decreasing_by omega

def strictFill (dst : Vector α n) (offset : Nat) (v : α) (count : Nat) : Option (Vector α n) :=
  if n = 0 then some dst
  else if n ≤ count then some (Vector.replicate n v)
  else strictFillRuns dst (offset % n) v count

def strictCopy (dst : Vector α n) (offset : Nat) (src : Vector α m) (origin count : Nat) :
    Option (Vector α n) :=
  if n = 0 then some dst
  else if m = 0 then some dst
  else strictCopyRuns dst (offset % n) src (origin % m) count

theorem strictFillRuns_eq (hn : n < sizeLimit) (dst : Vector α n) (start : Nat) (v : α) (left : Nat)
    (h : start < n) :
    strictFillRuns dst start v left = some (fillRuns dst start v left h) := by
  fun_induction fillRuns dst start v left h with
  | case1 dst start h => rw [strictFillRuns, if_pos rfl]
  | case2 dst start left h hleft run ih =>
    have hrun : 0 < run := by omega
    have hin : start + run < sizeLimit ∧ start + run ≤ n := by omega
    rw [strictFillRuns, if_neg hleft]
    dsimp only
    rw [dif_pos ⟨Nat.le_of_lt h, hrun⟩, strictFillRun, dif_pos hin, Option.bind_some, ih]

theorem strictCopyRuns_eq (hn : n < sizeLimit) (hm : m < sizeLimit) (dst : Vector α n) (start : Nat)
    (src : Vector α m) (origin left : Nat) (hd : start < n) (hs : origin < m) :
    strictCopyRuns dst start src origin left = some (copyRuns dst start src origin left hd hs) := by
  fun_induction copyRuns dst start src origin left hd hs with
  | case1 dst start origin hd hs => rw [strictCopyRuns, if_pos rfl]
  | case2 dst start origin left hd hs hleft run ih =>
    have hrun : 0 < run := by omega
    have hin : (start + run < sizeLimit ∧ origin + run < sizeLimit) ∧ start + run ≤ n ∧
        origin + run ≤ m := by omega
    rw [strictCopyRuns, if_neg hleft]
    dsimp only
    rw [dif_pos ⟨⟨Nat.le_of_lt hd, Nat.le_of_lt hs⟩, hrun⟩, strictCopyRun, dif_pos hin,
      Option.bind_some, ih]

theorem strictFill_eq (hn : n < sizeLimit) (dst : Vector α n) (offset : Nat) (v : α) (count : Nat) :
    strictFill dst offset v count = some (fill dst offset v count) := by
  unfold strictFill fill
  by_cases h : n = 0
  · simp [h]
  · by_cases hc : n ≤ count
    · simp [h, hc]
    · simp only [h, hc, if_false, dif_neg, not_false_eq_true]
      exact strictFillRuns_eq hn ..

theorem strictCopy_eq (hn : n < sizeLimit) (hm : m < sizeLimit) (dst : Vector α n) (offset : Nat)
    (src : Vector α m) (origin count : Nat) :
    strictCopy dst offset src origin count = some (copy dst offset src origin count) := by
  unfold strictCopy copy
  by_cases h : n = 0
  · simp [h]
  · by_cases h' : m = 0
    · simp [h, h']
    · simp only [h, h', if_false, dif_neg, not_false_eq_true]
      exact strictCopyRuns_eq hn hm ..

end Ring

end FantasyConsole
