import FantasyConsole.Word
import FantasyConsole.Ring

/-!
# Memory

A memory has a byte for every 16-bit address, so no access is out of range.
Words are big-endian and their second byte wraps.
-/
namespace FantasyConsole

@[ext] structure Memory where
  cells : Vector UInt8 65536

namespace Memory

def zero : Memory := ⟨Vector.replicate 65536 0⟩

@[inline] def read (m : Memory) (address : UInt16) : UInt8 :=
  getElem m.cells address.toNat address.toNat_lt

@[inline] def write (m : Memory) (address : UInt16) (v : UInt8) : Memory :=
  ⟨m.cells.set address.toNat v address.toNat_lt⟩

/-- The word at `address`, both byte addresses cut down to `mask`. -/
def readWordMasked (m : Memory) (address mask : UInt16) : UInt16 :=
  word (m.read (address &&& mask)) (m.read ((address + 1) &&& mask))

def readWord (m : Memory) (address : UInt16) : UInt16 :=
  word (m.read address) (m.read (address + 1))

/-- Store a word at `address`, both byte addresses cut down to `mask`. -/
def writeWordMasked (m : Memory) (address mask v : UInt16) : Memory :=
  (m.write (address &&& mask) (highByte v)).write ((address + 1) &&& mask) (lowByte v)

def writeWord (m : Memory) (address v : UInt16) : Memory :=
  (m.write address (highByte v)).write (address + 1) (lowByte v)

/-- Copy all of `bytes` into memory from `offset` on, wrapping at the top. -/
def load (m : Memory) (offset : UInt16) (bytes : Array UInt8) : Memory :=
  ⟨Ring.store m.cells ⟨offset.toNat, offset.toNat_lt⟩ bytes.toVector⟩

/-- The `count` bytes from `address` on, wrapping at the top. -/
def window (m : Memory) (address : UInt16) (count : Nat) : List UInt8 :=
  (List.range count).map fun i => m.read (address + UInt16.ofNat i)

@[simp] theorem read_write_self (m : Memory) (a : UInt16) (v : UInt8) :
    (m.write a v).read a = v := by
  simp [read, write]

theorem read_write (m : Memory) (a b : UInt16) (v : UInt8) :
    (m.write a v).read b = if a = b then v else m.read b := by
  simp [read, write, Vector.getElem_set, UInt16.toNat_inj]

end Memory

end FantasyConsole
