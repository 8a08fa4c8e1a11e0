import FantasyConsole.Image.Picture

/-!
# Cells that learn colours

A row of cells, each a colour of four real channels, learns the colours of a
picture. Pixels are shown to the cells one by one. The cell that wins a pixel
moves towards it, and so do the cells beside it, less with their distance in the
row. Rate and reach shrink while more pixels are shown. A cell that wins often
gets a handicap, so that all cells come to be used.
-/
namespace FantasyConsole.ColorCells

def count : Nat := 256

/-- The numbers `f 0`, `f 1`, … below `count`. -/
def row (f : Nat → Float) : FloatArray :=
  Nat.fold count (fun i _ a => a.push (f i)) (FloatArray.emptyWithCapacity count)

@[inline] def get (a : FloatArray) (i : Nat) : Float := if h : i < a.size then a.get i h else 0

@[inline] def set (a : FloatArray) (i : Nat) (x : Float) : FloatArray :=
  if h : i < a.size then a.set i x h else a

/-- The colours of the cells. -/
structure Colors where
  red : FloatArray
  green : FloatArray
  blue : FloatArray
  alpha : FloatArray

structure Target where
  red : Float
  green : Float
  blue : Float
  alpha : Float

def Target.ofPixel (c : Rgba) : Target :=
  ⟨c.red.toFloat, c.green.toFloat, c.blue.toFloat, c.alpha.toFloat⟩

namespace Colors

/-- Grey from dark to bright; only the darkest cells are not opaque. -/
def start : Colors :=
  let grey := row fun i => i.toFloat * 256 / count.toFloat
  ⟨grey, grey, grey, row fun i => if i < 16 then i.toFloat * 16 else 255⟩

/-- Move a number towards another one. -/
@[inline] def approach (a : FloatArray) (i : Nat) (rate target : Float) : FloatArray :=
  set a i (get a i - rate * (get a i - target))

def pull (c : Colors) (i : Nat) (rate : Float) (t : Target) : Colors :=
  ⟨approach c.red i rate t.red, approach c.green i rate t.green, approach c.blue i rate t.blue,
    approach c.alpha i rate t.alpha⟩

/-- Move the cells on both sides of cell `i` towards a colour, those at distance `d` at a rate that
falls with the square of `d - 1` and is zero at `reach`. The first and the last cell that could be
reached stay. -/
def pullBeside (c : Colors) (i reach : Nat) (rate : Float) (t : Target) : Colors :=
  let square := reach.toFloat * reach.toFloat
  Nat.fold reach (fun q _ c =>
    let rate := rate * (square - q.toFloat * q.toFloat) / square
    let c := if i + 1 + q < min (i + reach) count then c.pull (i + 1 + q) rate t else c
    if (i - reach) + 1 + q < i then c.pull (i - 1 - q) rate t else c) c

end Colors

/-- How often cells win, and the handicaps that follow from it. -/
structure Standing where
  frequency : FloatArray
  handicap : FloatArray

def Standing.start : Standing := ⟨row fun _ => 1 / count.toFloat, row fun _ => 0⟩

/-- The share of a win in a frequency. -/
def share : Float := 1 / 1024

/-- What a contest for a pixel has found in the cells before some cell. -/
structure Contest where
  standing : Standing
  /-- The cell nearest to the pixel. -/
  nearest : Nat
  /-- The nearest cell when handicaps count. -/
  winner : Nat

/-- Go through the cells from `i` on. Distances are sums over the channels; green and alpha count
only where red and blue leave a cell a chance. -/
def contestFrom (c : Colors) (t : Target) : (left i : Nat) → (frequency handicap : FloatArray) →
    (best : Float) → (nearest : Nat) → (bestFair : Float) → (winner : Nat) → Contest
  | 0, _, frequency, handicap, _, nearest, _, winner => ⟨⟨frequency, handicap⟩, nearest, winner⟩
  | left + 1, i, frequency, handicap, best, nearest, bestFair, winner =>
    let own := get handicap i
    let f := get frequency i
    let f' := f - share * f
    let frequency := set frequency i f'
    let handicap := set handicap i (own + f')
    let part := (get c.blue i - t.blue).abs + (get c.red i - t.red).abs
    if part < best || part < bestFair + own then
      let whole := part + (get c.green i - t.green).abs + (get c.alpha i - t.alpha).abs
      let fair := whole - own
      let closer := whole < best
      let fairer := fair < bestFair
      contestFrom c t left (i + 1) frequency handicap (if closer then whole else best)
      (if closer then i else nearest)
        (if fairer then fair else bestFair) (if fairer then i else winner)
    else contestFrom c t left (i + 1) frequency handicap best nearest bestFair winner

/-- A contest of all cells for a pixel. The nearest cell is the one that counts a win. -/
def contest (c : Colors) (s : Standing) (t : Target) : Nat × Standing :=
  let infinity : Float := 1 / 0
  let r := contestFrom c t count 0 s.frequency s.handicap infinity 0 infinity 0
  let ⟨frequency, handicap⟩ := r.standing
  let f := get frequency r.nearest + share
  let h := get handicap r.nearest - 1
  (r.winner, ⟨set frequency r.nearest f, set handicap r.nearest h⟩)

/-- The cells and how fast they learn: the rate in 1024ths, the reach in 64ths. -/
structure Learner where
  colors : Colors
  standing : Standing
  rate : Nat
  reach : Nat

namespace Learner

def start : Learner := ⟨.start, .start, 1024, count / 8 * 64⟩

/-- Whole cells of reach; one cell is none. -/
def cells (l : Learner) : Nat := if l.reach / 64 ≤ 1 then 0 else l.reach / 64

def see (l : Learner) (t : Target) : Learner :=
  let reach := l.cells
  let ⟨colors, standing, rate, r⟩ := l
  let (winner, standing) := contest colors standing t
  let share := rate.toFloat / 1024
  let colors := colors.pull winner share t
  ⟨if reach = 0 then colors else colors.pullBeside winner reach share t, standing, rate, r⟩

/-- Rate and reach lose a thirtieth. -/
def cool (l : Learner) : Learner :=
  { l with rate := l.rate - l.rate / 30, reach := l.reach - l.reach / 30 }

end Learner

/-- A stride through `n` pixels: one of four numbers that does not divide `n`. -/
def stride (n : Nat) : Nat := ([499, 491, 478].find? fun p => n % p != 0).getD 503

/-- After so many of `n` pixels the cells cool: 128 times in all. -/
def period (n : Nat) : Nat := max 1 (n / 128)

/-- Show `left` more pixels, `seen` having been shown, the next one at position `at`. -/
def learnFrom (pixels : Array Rgba) : (left seen position : Nat) → Learner → Learner
  | 0, _, _, l => l
  | left + 1, seen, position, l =>
    let l := l.see (Target.ofPixel (pixels.getD position ⟨0, 0, 0, 0⟩))
    let l := if (seen + 1) % period pixels.size = 0 then l.cool else l
    learnFrom pixels left (seen + 1) ((position + stride pixels.size) % pixels.size) l

/-- The cells after each pixel was shown once. -/
def learn (pixels : Array Rgba) : Colors := (learnFrom pixels pixels.size 0 0 .start).colors

def Colors.color (c : Colors) (i : Nat) : Rgba :=
  ⟨(get c.red i).round.toUInt8, (get c.green i).round.toUInt8, (get c.blue i).round.toUInt8,
    (get c.alpha i).round.toUInt8⟩

end FantasyConsole.ColorCells
