import FantasyConsole.Video.Sprite

/-!
# Tile planes

A plane is a map of 64 by 32 cells in video memory, a word for each, row by row.
The screen shows a window into it that is moved by two scroll registers and wraps
at the edges of the map.
-/
namespace FantasyConsole

inductive Plane where
  | a | b
  deriving DecidableEq, Repr

namespace Plane

def base : Plane → Fin 16
  | .a => Register.planeA
  | .b => Register.planeB

def scrollX : Plane → Fin 16
  | .a => Register.planeAX
  | .b => Register.planeBX

def scrollY : Plane → Fin 16
  | .a => Register.planeAY
  | .b => Register.planeBY

end Plane

/-- What a map entry shows at row `v` and column `u` of its cell. -/
def Vdp.cellPixel (vdp : Vdp) (entry u v : UInt16) : Option LayerPixel :=
  let pattern := entry &&& 0x07FF
  if pattern = 0 then none
  else
    let u := if entry &&& 0x0800 != 0 then 7 - u else u
    let v := if entry &&& 0x1000 != 0 then 7 - v else v
    let n := vdp.nibble ((pattern <<< 5) + (v <<< 2) + (u >>> 1)) u
    if n = 0 then none
    else some ⟨n ||| ((entry >>> 9) &&& 0x30).toUInt8, entry &&& 0x8000 != 0⟩

def Vdp.planePixel (vdp : Vdp) (plane : Plane) (x y : UInt16) : Option LayerPixel :=
  let sx := x + vdp.register plane.scrollX
  let sy := y + vdp.register plane.scrollY
  let column := (sx >>> 3) &&& 63
  let row := (sy >>> 3) &&& 31
  let entry := vdp.memory.readWord (vdp.register plane.base + (column <<< 1) + (row <<< 7))
  vdp.cellPixel entry (sx &&& 7) (sy &&& 7)

end FantasyConsole
