/-!
# Reading UTF-8

Bytes are read one by one. A lead byte opens a sequence, and the range allowed
for the byte after it rules out overlong forms, surrogates and values past the
last character. A byte that cannot continue the open sequence ends it as
malformed and is then read afresh, so each longest well-begun but malformed
sequence counts once.
-/
namespace FantasyConsole.Utf8

/-- An open sequence: the value so far, how many bytes are missing, and the range of the next
one. -/
structure Partial where
  value : Nat
  missing : Nat
  low : UInt8
  high : UInt8

/-- Read a byte with no sequence open: what it completes, none for malformed, and what it opens. -/
def lead (b : UInt8) : List (Option Char) × Option Partial :=
  let v := b.toNat
  if b < 0x80 then ([some (Char.ofNat v)], none)
  else if b < 0xC2 then ([none], none)
  else if b < 0xE0 then ([], some ⟨v - 0xC0, 1, 0x80, 0xBF⟩)
  else if b < 0xF0 then
    ([], some ⟨v - 0xE0, 2, if b = 0xE0 then 0xA0 else 0x80, if b = 0xED then 0x9F else 0xBF⟩)
  else if b < 0xF5 then
    ([], some ⟨v - 0xF0, 3, if b = 0xF0 then 0x90 else 0x80, if b = 0xF4 then 0x8F else 0xBF⟩)
  else ([none], none)

def next : Option Partial → UInt8 → List (Option Char) × Option Partial
  | none, b => lead b
  | some p, b =>
    if p.low ≤ b && b ≤ p.high then
      let v := p.value * 64 + b.toNat % 64
      if p.missing = 1 then ([some (Char.ofNat v)], none)
      else ([], some ⟨v, p.missing - 1, 0x80, 0xBF⟩)
    else
      let (out, state) := lead b
      (none :: out, state)

/-- Read the remaining bytes; a sequence still open at the end is malformed. -/
def decodeFrom : Option Partial → List UInt8 → List (Option Char)
  | none, [] => []
  | some _, [] => [none]
  | state, b :: bs =>
    let (out, state) := next state b
    out ++ decodeFrom state bs

/-- The characters of a byte string, none for each malformed sequence. -/
def decode (bytes : List UInt8) : List (Option Char) := decodeFrom none bytes

def isValid (bytes : List UInt8) : Bool := (decode bytes).all (·.isSome)

/-- The text of a byte string, with the replacement character for each malformed sequence. -/
def decodeLossy (bytes : List UInt8) : String :=
  String.ofList ((decode bytes).map fun c => c.getD (Char.ofNat 0xFFFD))

end FantasyConsole.Utf8
