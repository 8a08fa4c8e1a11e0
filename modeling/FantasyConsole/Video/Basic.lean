import FantasyConsole.Memory
import FantasyConsole.Video.SpriteEntry

/-!
# The video processor

Sixteen registers, a palette of 64 words, 64 KiB of memory of its own and a font
of 128 glyphs. Two caches serve the drawing of a row: the palette as pixels and
the sprites of the row. The mode register says which layers are shown, which
blank programs run, and in its top four bits what was written since the last row.
-/
namespace FantasyConsole

/-- The palette word `0x0BGR` as a pixel `0x00RRGGBB`, each nibble in the high half of its byte. -/
def expandColor (c : UInt16) : UInt32 :=
  let c := c.toUInt32
  ((c &&& 0x0F00) >>> 4) ||| ((c &&& 0x00F0) <<< 8) ||| ((c &&& 0x000F) <<< 20)

/-! The bits of the mode register. -/

namespace Mode

def text : UInt16 := 0x0001
def sprites : UInt16 := 0x0002
def planeA : UInt16 := 0x0004
def planeB : UInt16 := 0x0008
def backgroundRow : UInt16 := 0x0030
def hblank : UInt16 := 0x0040
def vblank : UInt16 := 0x0080
def registersWritten : UInt16 := 0x1000
def memoryWritten : UInt16 := 0x2000
def paletteWritten : UInt16 := 0x4000
def fontWritten : UInt16 := 0x8000

/-- Any of the four marks of a write. -/
def dirty : UInt16 := 0xF000

/-- The palette index of the background: the row bits, pixel value 0. -/
def background (mode : UInt16) : UInt8 := (mode &&& backgroundRow).toUInt8

def isDirty (mode : UInt16) : Bool := mode &&& dirty != 0

end Mode

/-! What each register is for. Registers 2, 3 and 4 are free for programs. -/

namespace Register

def command : Fin 16 := 0
def mode : Fin 16 := 1
def hblank : Fin 16 := 5
def hblankRow : Fin 16 := 6
def vblank : Fin 16 := 7
def text : Fin 16 := 8
def sprites : Fin 16 := 9
def planeA : Fin 16 := 10
def planeAX : Fin 16 := 11
def planeAY : Fin 16 := 12
def planeB : Fin 16 := 13
def planeBX : Fin 16 := 14
def planeBY : Fin 16 := 15

/-- The register that the low four bits of a number name. -/
def ofNat (n : Nat) : Fin 16 := Fin.ofNat 16 n

end Register

@[ext] structure Vdp where
  registers : Vector UInt16 16
  palette : Vector UInt16 64
  memory : Memory
  font : Vector UInt8 1024
  /-- The palette as pixels, as it stood when the cache was last refreshed. -/
  colors : Vector UInt32 64
  /-- The sprites of the row last prepared. -/
  rowSprites : List SpriteEntry

namespace Vdp

def zero : Vdp where
  registers := Vector.replicate 16 0
  palette := Vector.replicate 64 0
  memory := .zero
  font := Vector.replicate 1024 0
  colors := Vector.replicate 64 0
  rowSprites := []

@[inline] def register (v : Vdp) (i : Fin 16) : UInt16 := v.registers[i.val]

@[inline] def setRegister (v : Vdp) (i : Fin 16) (w : UInt16) : Vdp :=
  { v with registers := v.registers.set i.val w }

@[inline] def mode (v : Vdp) : UInt16 := v.register Register.mode

@[inline] def setMode (v : Vdp) (w : UInt16) : Vdp := v.setRegister Register.mode w

@[inline] def has (v : Vdp) (flag : UInt16) : Bool := v.mode &&& flag != 0

@[inline] def setColor (v : Vdp) (i : Fin 64) (w : UInt16) : Vdp :=
  { v with palette := v.palette.set i.val w }

/-- The cached pixel of the palette index in the low six bits of `i`. -/
@[inline] def color (v : Vdp) (i : UInt8) : UInt32 :=
  getElem v.colors (i.toNat % 64) (Nat.mod_lt _ (by decide))

/-- Bring the cached pixels up to date with the palette. -/
def refreshColors (v : Vdp) : Vdp := { v with colors := v.palette.map expandColor }

theorem register_setRegister (v : Vdp) (i j : Fin 16) (w : UInt16) :
    (v.setRegister i w).register j = if i = j then w else v.register j := by
  simp [register, setRegister, Vector.getElem_set, Fin.ext_iff]

@[simp] theorem mode_setMode (v : Vdp) (w : UInt16) : (v.setMode w).mode = w := by
  rw [mode, setMode, register_setRegister, if_pos rfl]

theorem register_setMode (v : Vdp) (w : UInt16) {i : Fin 16} (h : i ≠ Register.mode) :
    (v.setMode w).register i = v.register i := by
  rw [setMode, register_setRegister, if_neg (Ne.symm h)]

end Vdp

end FantasyConsole
