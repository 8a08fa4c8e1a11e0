/-!
# Streams of bits

Numbers of any width follow each other without gaps, low bits first.
-/
namespace FantasyConsole

/-- Whole bytes, and the bits of one that is not full yet. -/
structure BitStream where
  bytes : Array UInt8
  value : Nat
  count : Nat

namespace BitStream

def empty : BitStream := ⟨#[], 0, 0⟩

def put (s : BitStream) (width n : Nat) : BitStream :=
  let ⟨bytes, value, count⟩ := s
  let value := value + (n % Nat.pow 2 width) * Nat.pow 2 count
  let full := (count + width) / 8
  ⟨Nat.fold full (fun i _ bytes => bytes.push (UInt8.ofNat (value / Nat.pow 256 i))) bytes,
    value / Nat.pow 256 full, (count + width) % 8⟩

def putAll (s : BitStream) (width : Nat) (ns : Array Nat) : BitStream := ns.foldl (·.put width ·) s

/-- All bytes; the last one is filled up with zeros. -/
def close (s : BitStream) : Array UInt8 :=
  if s.count = 0 then s.bytes else s.bytes.push (UInt8.ofNat s.value)

end BitStream

end FantasyConsole
