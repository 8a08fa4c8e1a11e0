import Std.Data.HashMap
import FantasyConsole.Image.ColorCells

/-!
# Palettes

A palette of at most 256 colours for a picture. A picture with no more colours
keeps them all. For any other picture the palette is learnt, ordered by green, and
each pixel gets an entry that is near to it.
-/
namespace FantasyConsole.Palette

/-- The numbers of colours in the order in which they appear, up to one more than a palette
holds. -/
def distinct (pixels : Array Rgba) : Std.HashMap Rgba Nat × Array Rgba :=
  pixels.foldl (fun (numbers, found) c =>
    if ColorCells.count < found.size || numbers.contains c then (numbers, found)
    else (numbers.insert c found.size, found.push c)) (∅, #[])

/-- Put the entry with the least green among those from `i` on in the place of entry `i`. -/
def settle (entries : Array Rgba) (i : Nat) : Array Rgba :=
  let least := Nat.fold entries.size (fun j _ least =>
    if i < j && (entries.getD j ⟨0, 0, 0, 0⟩).green < (entries.getD least ⟨0, 0, 0, 0⟩).green then j
      else least) i
  entries.swapIfInBounds i least

/-- Entries in ascending order of green. -/
def byGreen (entries : Array Rgba) : Array Rgba :=
  Nat.fold entries.size (fun i _ entries => settle entries i) entries

/-- The palette that the cells learn. -/
def learnt (pixels : Array Rgba) : Array Rgba :=
  let colors := ColorCells.learn pixels
  byGreen ((Array.range ColorCells.count).map colors.color)

def square (a b : UInt8) : Nat :=
  let d := max a b - min a b
  d.toNat * d.toNat

def distance (a b : Rgba) : Nat :=
  square a.green b.green + square a.red b.red + square a.blue b.blue + square a.alpha b.alpha

structure Found where
  index : Nat
  distance : Nat

/-- Compare one more entry. There is nothing more to find when its green alone is as far away as
what was found. -/
def visit (entries : Array Rgba) (c : Rgba) (i : Nat) (f : Found) : Option Found :=
  let e := entries.getD i ⟨0, 0, 0, 0⟩
  if f.distance ≤ square e.green c.green then none
  else some (if distance e c < f.distance then ⟨i, distance e c⟩ else f)

/-- Go up from entry `up` and down from entry `down` in turn, down to entry 1, until one of both
ways shows that there is nothing more to find. -/
def nearestFrom (entries : Array Rgba) (c : Rgba) (up down : Nat) (f : Found) : Nat :=
  if up < entries.size ∨ 0 < down then
    match if up < entries.size then visit entries c up f else some f with
    | none => f.index
    | some f =>
      match if 0 < down then visit entries c down f else some f with
      | none => f.index
      | some f => nearestFrom entries c (up + 1) (down - 1) f
  else f.index
termination_by (entries.size - up) + down

/-- Where the greens next to a colour's green are: in the middle of the equal ones. -/
def middle (entries : Array Rgba) (c : Rgba) : Nat :=
  let last := entries.size - 1
  let below := entries.countP (·.green < c.green)
  let upTo := entries.countP (·.green ≤ c.green)
  (min below last + min upTo last) / 2

/-- An entry of a palette in order of green that is near to a colour. -/
def nearest (entries : Array Rgba) (c : Rgba) : Nat :=
  let m := middle entries c
  nearestFrom entries c m (m - 1) ⟨0, 0x40000000⟩

/-- The numbers of the pixels in a palette; each colour is looked up once. -/
def numbers (entries : Array Rgba) (pixels : Array Rgba) : Array Nat :=
  (pixels.foldl (fun ((known : Std.HashMap Rgba Nat), (out : Array Nat)) c =>
    match known[c]? with
    | some n => (known, out.push n)
    | none =>
      let n := nearest entries c
      (known.insert c n, out.push n)) (∅, Array.emptyWithCapacity pixels.size)).2

/-- The palette of a picture and the numbers of its pixels in it. -/
def indexed (p : Picture) : Array Rgba × Array Nat :=
  let pixels := p.pixels
  let (known, found) := distinct pixels
  if found.size ≤ ColorCells.count then (found, pixels.map fun c => known.getD c 0)
  else
    let entries := learnt pixels
    (entries, numbers entries pixels)

end FantasyConsole.Palette
