import FantasyConsole.Evaluator
import FantasyConsole.Video.Pixel

/-!
# Frames

A frame is drawn row by row into a buffer of pixels, 320 to a row, at most 224
rows, as far as the buffer reaches. First the vertical blank program runs, if the
mode asks for it; without any mark of a write the buffer then stays as it is.
Before each row its sprites are collected, the horizontal blank program runs if
this is its row, the palette cache is refreshed if the palette was written, and
the marks are cleared.
-/
namespace FantasyConsole

namespace Machine

def runBlank (m : Machine) (fuel : Nat) (address : UInt16) : Option Machine :=
  (m.run fuel address).map (·.2)

@[inline] def onVdp (m : Machine) (f : Vdp → Vdp) : Machine := { m with board.vdp := f m.board.vdp }

/-- The sprites of row `y`, none when the sprite layer is off. -/
def collectSprites (m : Machine) (y : UInt16) : Machine :=
  m.onVdp fun v => if v.has Mode.sprites then v.collectRow y else { v with rowSprites := [] }

def hblank (m : Machine) (fuel : Nat) (y : UInt16) : Option Machine :=
  let v := m.board.vdp
  if v.has Mode.hblank && y == v.register Register.hblankRow then
    m.runBlank fuel (v.register Register.hblank)
  else some m

/-- The palette cache after a write to the palette, and no marks. -/
def settleRow (m : Machine) : Machine :=
  m.onVdp fun v =>
    let mode := v.mode
    let v := if v.has Mode.paletteWritten then v.refreshColors else v
    v.setMode (mode &&& ~~~Mode.dirty)

/-- Everything that comes before the pixels of row `y`. -/
def beginRow (m : Machine) (fuel : Nat) (y : UInt16) : Option Machine :=
  ((m.collectSprites y).hblank fuel y).map settleRow

/-- The vertical blank program, if the mode asks for it. -/
def vblank (m : Machine) (fuel : Nat) : Option Machine :=
  let v := m.board.vdp
  if v.has Mode.vblank then m.runBlank fuel (v.register Register.vblank) else some m

/-- The palette counts as written when a frame is drawn. -/
def markPalette (m : Machine) : Machine :=
  m.onVdp fun v => v.setMode (v.mode ||| Mode.paletteWritten)

end Machine

/-- Draw the pixels of row `y`, as far as the buffer reaches. -/
def Vdp.paintRow (v : Vdp) (y : Nat) (frame : Array UInt32) : Array UInt32 :=
  Nat.fold Screen.width
    (fun x _ frame =>
      if h : y * Screen.width + x < frame.size then
        frame.set (y * Screen.width + x) (v.pixel (UInt16.ofNat x) (UInt16.ofNat y))
      else frame)
    frame

namespace Machine

def drawRows (fuel : Nat) :
    (count y : Nat) → Machine → Array UInt32 → Option (Machine × Array UInt32)
  | 0, _, m, frame => some (m, frame)
  | count + 1, y, m, frame =>
    match m.beginRow fuel (UInt16.ofNat y) with
    | none => none
    | some m => drawRows fuel count (y + 1) m (m.board.vdp.paintRow y frame)

/-- The number of rows that a buffer of `size` pixels has a part of. -/
def rowCount (size : Nat) : Nat := min Screen.height ((size + Screen.width - 1) / Screen.width)

def render (m : Machine) (fuel : Nat) (frame : Array UInt32) : Option (Machine × Array UInt32) :=
  match m.vblank fuel with
  | none => none
  | some m =>
    if Mode.isDirty m.board.vdp.mode then
      drawRows fuel (rowCount frame.size) 0 m.markPalette frame
    else some (m, frame)

/-! ## Frames that nobody sees

A frame that is drawn covers what was drawn before it, so of several frames only the
last drawn one has to be painted. The others pass with their effects on the machine. -/

def passRows (fuel : Nat) : (count y : Nat) → Machine → Option Machine
  | 0, _, m => some m
  | count + 1, y, m =>
    match m.beginRow fuel (UInt16.ofNat y) with
    | none => none
    | some m => passRows fuel count (y + 1) m

/-- Let a frame of some rows pass: the machine after it and, if the frame is drawn, the machine
before its first row. -/
def pass (m : Machine) (fuel rows : Nat) : Option (Machine × Option Machine) :=
  match m.vblank fuel with
  | none => none
  | some m =>
    if Mode.isDirty m.board.vdp.mode then
      (passRows fuel rows 0 m.markPalette).map (·, some m.markPalette)
    else some (m, none)

/-- Draw the frame of a machine before its first row. -/
def paint (m : Machine) (fuel : Nat) (frame : Array UInt32) : Option (Array UInt32) :=
  (drawRows fuel (rowCount frame.size) 0 m frame).map (·.2)

/-- Let frames of some rows pass one after another. The last one drawn before is that of `drawn`. -/
def passTimes (fuel rows : Nat) :
    (count : Nat) → Machine → (drawn : Option Machine) → Option (Machine × Option Machine)
  | 0, m, drawn => some (m, drawn)
  | count + 1, m, drawn =>
    match m.pass fuel rows with
    | none => none
    | some (m, next) => passTimes fuel rows count m (next.or drawn)

/-- Draw frames one after another into one buffer. -/
def renderTimes (m : Machine) (fuel count : Nat) (frame : Array UInt32) :
    Option (Machine × Array UInt32) :=
  match passTimes fuel (rowCount frame.size) count m none with
  | none => none
  | some (m, none) => some (m, frame)
  | some (m, some drawn) => (drawn.paint fuel frame).map (m, ·)

/-- Rows pass as they are drawn. -/
theorem map_fst_drawRows (fuel count y : Nat) (m : Machine) (frame : Array UInt32) :
    (drawRows fuel count y m frame).map (·.1) = passRows fuel count y m := by
  induction count generalizing y m frame with
  | zero => rfl
  | succ count ih =>
    simp only [drawRows, passRows]
    split
    · rfl
    · exact ih ..

/-- A frame passes as it is rendered. -/
theorem map_fst_render (m : Machine) (fuel : Nat) (frame : Array UInt32) :
    (m.render fuel frame).map (·.1) = (m.pass fuel (rowCount frame.size)).map (·.1) := by
  simp only [render, pass]
  split
  · rfl
  · split
    · rw [map_fst_drawRows, Option.map_map]
      exact Option.map_id'.symm
    · rfl

/-- What is painted of a frame that passes is what is rendered. -/
theorem paint_of_render {m m' drawn : Machine} {fuel : Nat} {frame : Array UInt32}
    (h : m.pass fuel (rowCount frame.size) = some (m', some drawn)) :
    (m.render fuel frame).map (·.2) = drawn.paint fuel frame := by
  simp only [pass] at h
  simp only [render, paint]
  split at h
  · exact absurd h (by simp)
  · split at h
    · rename_i hd
      obtain ⟨_, _, h⟩ := Option.map_eq_some_iff.1 h
      injection h with _ h
      injection h with h
      simp only [hd, if_true, h]
    · exact absurd h (by simp)

end Machine

end FantasyConsole
