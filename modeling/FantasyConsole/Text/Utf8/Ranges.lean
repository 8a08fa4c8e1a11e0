/-!
# Ranges of characters in UTF-8

The characters of a range are the texts of a few sequences of byte ranges: the
first byte is of the first range, the next byte of the second one, and so on. The
sequences are in ascending order and as few as their form allows.
-/
namespace FantasyConsole.Utf8

/-- A range of bytes, or of digits in base 64. -/
abbrev DigitRange := Nat × Nat

/-- The sequences of digit ranges for numbers of `k + 1` digits. Where first digits differ, the
numbers with the lowest and the highest of them stand apart unless they are all there. -/
def digitRanges : (k : Nat) → (low high : Nat) → List (List DigitRange)
  | 0, low, high => [[(low, high)]]
  | k + 1, low, high =>
    let unit := 64 ^ (k + 1)
    let first := low / unit
    let last := high / unit
    let under (digit low high : Nat) : List (List DigitRange) :=
      (digitRanges k low high).map ((digit, digit) :: ·)
    if first = last then under first (low % unit) (high % unit)
    else
      let fromStart := low % unit = 0
      let toEnd := high % unit = unit - 1
      let whole : DigitRange :=
        (if fromStart then first else first + 1, if toEnd then last else last - 1)
      (if fromStart then [] else under first (low % unit) (unit - 1))
        ++ (if whole.1 ≤ whole.2 then [whole :: List.replicate (k + 1) (0, 63)] else [])
        ++ if toEnd then [] else under last 0 (high % unit)

/-- Numbers whose sequences have one form: how many continuation bytes they have, their range, and
what the first byte has besides its digit. No number is a surrogate's. -/
structure Form where
  more : Nat
  low : Nat
  high : Nat
  lead : Nat

def forms : List Form :=
  [⟨0, 0, 0x7F, 0⟩, ⟨1, 0x80, 0x7FF, 0xC0⟩, ⟨2, 0x800, 0xD7FF, 0xE0⟩, ⟨2, 0xE000, 0xFFFF, 0xE0⟩,
    ⟨3, 0x10000, 0x10FFFF, 0xF0⟩]

/-- The bytes of digits. -/
def Form.bytes (f : Form) : List DigitRange → List DigitRange
  | [] => []
  | (a, b) :: rest => (f.lead + a, f.lead + b) :: rest.map fun (a, b) => (0x80 + a, 0x80 + b)

/-- The sequences of byte ranges for the characters of a range. -/
def byteRanges (low high : Nat) : List (List DigitRange) :=
  forms.flatMap fun f =>
    let low := max low f.low
    let high := min high f.high
    if low ≤ high then (digitRanges f.more low high).map f.bytes else []

end FantasyConsole.Utf8
