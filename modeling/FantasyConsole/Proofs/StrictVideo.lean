import FantasyConsole.Proofs.StrictAccess
import FantasyConsole.Proofs.SpritePictures
import FantasyConsole.Proofs.Scene
import Mathlib.Tactic.IntervalCases

/-!
# No access of the video processor goes out of range

Commands, the collection of a row's sprites and the sampling of the three layers are written
once more, with sums, differences and products that refuse where plain ones leave their range,
and with indexes that refuse outside of their buffer. Whatever is in the registers and in the
memories, on the screen nothing is refused, and the results are those of the drawing.
-/
namespace FantasyConsole

open Strict

theorem toNat_and_lt (a : UInt16) {mask : UInt16} {k : Nat} (h : mask.toNat = 2 ^ k - 1) :
    (a &&& mask).toNat < 2 ^ k := by
  rw [toNat_and_mask a h]
  exact Nat.mod_lt _ (Nat.two_pow_pos k)

/-! ## Registers and colors -/

namespace Vdp

def strictRegister (v : Vdp) (i : Nat) : Option UInt16 := v.registers[i]?

def strictSetRegister (v : Vdp) (i : Nat) (w : UInt16) : Option Vdp := do
  return { v with registers := ← put v.registers i w }

def strictPaletteWord (v : Vdp) (i : Nat) : Option UInt16 := v.palette[i]?

def strictSetColor (v : Vdp) (i : Nat) (w : UInt16) : Option Vdp := do
  return { v with palette := ← put v.palette i w }

def strictColor (v : Vdp) (i : UInt8) : Option UInt32 := v.colors[(i &&& 63).toNat]?

def strictStore (v : Vdp) (a : UInt16) (b : UInt8) : Option Vdp := do
  return { v with memory := ← v.memory.strictWrite a b }

def strictFill (v : Vdp) (start : Nat) (b : UInt8) (count : Nat) : Option Vdp := do
  return { v with memory := ⟨← Ring.strictFill v.memory.cells start b count⟩ }

def strictCopy (v : Vdp) (start : Nat) {k : Nat} (src : Vector UInt8 k) (origin count : Nat) :
    Option Vdp := do
  return { v with memory := ⟨← Ring.strictCopy v.memory.cells start src origin count⟩ }

def strictLoadFont (v : Vdp) {k : Nat} (src : Vector UInt8 k) (origin : Nat) : Option Vdp := do
  return { v with font := ← Ring.strictCopy v.font 0 src origin 1024 }

variable (v : Vdp)

@[simp] theorem strictRegister_eq (i : Fin 16) : v.strictRegister i = some (v.register i) :=
  Vector.getElem?_eq_getElem i.isLt

@[simp] theorem strictSetRegister_eq (i : Fin 16) (w : UInt16) :
    v.strictSetRegister i w = some (v.setRegister i w) := by
  simp [strictSetRegister, setRegister, put_eq _ i.isLt]

@[simp] theorem strictPaletteWord_eq (i : Fin 64) :
    v.strictPaletteWord i = some (getElem v.palette i.val i.isLt) :=
  Vector.getElem?_eq_getElem i.isLt

@[simp] theorem strictSetColor_eq (i : Fin 64) (w : UInt16) :
    v.strictSetColor i w = some (v.setColor i w) := by
  simp [strictSetColor, setColor, put_eq _ i.isLt]

@[simp] theorem strictColor_eq (i : UInt8) : v.strictColor i = some (v.color i) := by
  have hi : (i &&& 63).toNat = i.toNat % 64 := by
    rw [UInt8.toNat_and]
    exact Nat.and_two_pow_sub_one_eq_mod _ 6
  rw [strictColor, hi]
  exact Vector.getElem?_eq_getElem (Nat.mod_lt _ (by decide))

@[simp] theorem strictStore_eq (a : UInt16) (b : UInt8) :
    v.strictStore a b = some { v with memory := v.memory.write a b } := by
  simp [strictStore]

@[simp] theorem strictFill_eq (start : Nat) (b : UInt8) (count : Nat) :
    v.strictFill start b count =
      some { v with memory := ⟨Ring.fill v.memory.cells start b count⟩ } := by
  simp [strictFill, Ring.strictFill_eq (by decide : 65536 < sizeLimit)]

@[simp] theorem strictCopy_eq (start : Nat) {k : Nat} (hk : k < sizeLimit) (src : Vector UInt8 k)
    (origin count : Nat) :
    v.strictCopy start src origin count =
      some { v with memory := ⟨Ring.copy v.memory.cells start src origin count⟩ } := by
  simp [strictCopy, Ring.strictCopy_eq (by decide : 65536 < sizeLimit) hk]

@[simp] theorem strictLoadFont_eq (main : Memory) (origin : Nat) :
    v.strictLoadFont main.cells origin =
      some { v with font := Ring.copy v.font 0 main.cells origin 1024 } := by
  simp [strictLoadFont, Ring.strictCopy_eq (by decide : 1024 < sizeLimit)
    (by decide : 65536 < sizeLimit)]

end Vdp

/-! ## Commands -/

namespace Vdp

/-- The write of a command, by the selector, the high byte and the operand. -/
def strictPerform (v : Vdp) (main : Memory) (command w : UInt16) : Option Vdp := do
  let p := (command >>> 8).toNat
  let low := p &&& 15
  let high := p >>> 4
  let color := p &&& 63
  let b := Command.operandByte command w
  match (command &&& 31).toNat with
  | 0x00 => v.strictSetRegister low 0
  | 0x01 | 0x02 => v.strictSetRegister low b.toUInt16
  | 0x03 => v.strictSetRegister low w
  | 0x04 => v.strictSetColor color 0
  | 0x05 | 0x06 => v.strictSetColor color b.toUInt16
  | 0x07 => v.strictSetColor color w
  | 0x08 => v.strictStore w 0
  | 0x09 | 0x0A => v.strictStore (← v.strictRegister low) b
  | 0x0B =>
    v.strictCopy (← v.strictRegister low).toNat main.cells (← v.strictRegister high).toNat w.toNat
  | 0x0C => v.strictFill (← v.strictRegister low).toNat 0 w.toNat
  | 0x0D | 0x0E => v.strictFill (← v.strictRegister low).toNat b (← v.strictRegister high).toNat
  | 0x0F =>
    v.strictCopy (← v.strictRegister low).toNat #[highByte w, lowByte w].toVector 0
      (← v.strictRegister high).toNat
  | 0x10 => v.strictLoadFont main.cells w.toNat
  | _ => some v

/-- A write: the word that ends at the port waits, or is the operand of the command that waits. -/
def strictReceive (v : Vdp) (main : Memory) (ports : Ports) (port : UInt8) : Option Vdp := do
  let w ← ports.strictField port
  let command ← v.strictRegister Register.command
  if command = 0 then v.strictSetRegister Register.command w
  else
    let v ← v.strictPerform main command w
    let mode ← v.strictRegister Register.mode
    let v ← v.strictSetRegister Register.mode (mode ||| (Command.decode command w).mark)
    v.strictSetRegister Register.command 0

def strictSelected (v : Vdp) (command : UInt16) : Option UInt16 := do
  let p := (command >>> 8).toNat
  match (command &&& 15).toNat with
  | 0 => v.strictRegister (p &&& 15)
  | 1 => v.strictPaletteWord (p &&& 63)
  | 2 => v.memory.strictWord (← v.strictRegister (p &&& 15))
  | _ => some 0

/-- A read: the word goes to the field at the port, and the byte there is the result. -/
def strictAnswer (v : Vdp) (ports : Ports) (port : UInt8) : Option (UInt8 × Ports × Vdp) := do
  let w ← v.strictSelected (← v.strictRegister Register.command)
  let ports ← ports.strictSetField port w
  let v ← v.strictSetRegister Register.command 0
  return (← ports.strictGet port, ports, v)

end Vdp

theorem toNat_shift_eight (c : UInt16) : (c >>> 8).toNat = (highByte c).toNat := by
  have h := c.toNat_lt
  have h8 : (8 : UInt16).toNat % 16 = 8 := by decide
  rw [toNat_highByte, UInt16.toNat_shiftRight, h8, Nat.shiftRight_eq_div_pow]

theorem lowRegister_val (c : UInt16) : (c >>> 8).toNat &&& 15 = (Command.lowRegister c).val := by
  rw [toNat_shift_eight]
  exact Nat.and_two_pow_sub_one_eq_mod _ 4

theorem highRegister_val (c : UInt16) : (c >>> 8).toNat >>> 4 = (Command.highRegister c).val := by
  have h := (highByte c).toNat_lt
  rw [toNat_shift_eight, Nat.shiftRight_eq_div_pow]
  exact (Nat.mod_eq_of_lt (by omega)).symm

theorem colorIndex_val (c : UInt16) : (c >>> 8).toNat &&& 63 = (Command.colorIndex c).val := by
  rw [toNat_shift_eight]
  exact Nat.and_two_pow_sub_one_eq_mod _ 6

namespace Vdp

variable (v : Vdp)

theorem strictPerform_eq (main : Memory) (command w : UInt16) :
    v.strictPerform main command w = some (v.write main (.decode command w)) := by
  have hmain : 65536 < sizeLimit := by decide
  have hpair (start count : Nat) : v.strictCopy start #[highByte w, lowByte w].toVector 0 count =
      some { v with memory :=
        ⟨Ring.copy v.memory.cells start #v[highByte w, lowByte w] 0 count⟩ } :=
    v.strictCopy_eq start (by decide : 2 < sizeLimit) _ 0 count
  have hk : (command &&& 31).toNat < 32 := toNat_and_lt command (k := 5) (by decide)
  unfold strictPerform Command.decode Command.selector
  dsimp only
  rw [lowRegister_val, highRegister_val, colorIndex_val]
  generalize (command &&& 31).toNat = k at hk
  interval_cases k <;> simp [write, hmain, hpair]

theorem strictReceive_eq (main : Memory) (ports : Ports) (port : UInt8) :
    v.strictReceive main ports port = some (v.receive main (ports.fieldEndingAt port)) := by
  unfold strictReceive receive pending
  rw [Ports.strictField_eq, strictRegister_eq, Option.bind_eq_bind, Option.bind_some,
    Option.bind_eq_bind, Option.bind_some]
  by_cases h : v.register Register.command = 0
  · rw [if_pos h, if_pos h, strictSetRegister_eq]
  · simp [h, strictPerform_eq, perform, setMode, mode]

theorem strictSelected_eq (command : UInt16) :
    v.strictSelected command = some (v.selected command) := by
  have hk : (command &&& 15).toNat < 16 := toNat_and_lt command (k := 4) (by decide)
  unfold strictSelected selected
  dsimp only
  rw [lowRegister_val, colorIndex_val]
  generalize (command &&& 15).toNat = k at hk
  interval_cases k <;> simp

theorem strictAnswer_eq (ports : Ports) (port : UInt8) : v.strictAnswer ports port =
    some (let ports := ports.setFieldFrom port v.answer.1;
      (ports.get port, ports, v.answer.2)) := by
  simp [strictAnswer, strictSelected_eq, answer, pending]

end Vdp

/-! ## Sprites of a row -/

namespace SpriteEntry

def strictPixels (cells : UInt16) : Option UInt16 := do mul (← add cells 1) 8

def strictWidth (s : SpriteEntry) : Option UInt16 := strictPixels ((s.size >>> 8) &&& 3)

def strictHeight (s : SpriteEntry) : Option UInt16 := strictPixels ((s.size >>> 10) &&& 3)

/-- Whether an entry covers a row. The place where it would come in from the left is worked out only
when it does not begin on the screen. -/
def strictCovers (s : SpriteEntry) (y : UInt16) : Option Bool := do
  let hidden ← if 320 ≤ s.x then (do return decide (s.x < (← sub 512 (← s.strictWidth))))
  else some false
  let off := decide ((← s.strictHeight) ≤ (y - s.y).toUInt8.toUInt16)
  return s.pattern != 0 && !hidden && !off

theorem strictPixels_eq (a : UInt16) : strictPixels (a &&& 3) = some (((a &&& 3) + 1) * 8) := by
  have h : (a &&& 3).toNat < 4 := toNat_and_lt a (k := 2) (by decide)
  have h1 : (1 : UInt16).toNat = 1 := by decide
  have h8 : (8 : UInt16).toNat = 8 := by decide
  have hadd : add (a &&& 3) 1 = some ((a &&& 3) + 1) := add_eq (by omega)
  have hmul : mul ((a &&& 3) + 1) 8 = some (((a &&& 3) + 1) * 8) := by
    apply mul_eq
    rw [UInt16.toNat_add, h1, h8]
    omega
  rw [strictPixels, hadd, Option.bind_eq_bind, Option.bind_some, hmul]

variable (s : SpriteEntry)

@[simp] theorem strictWidth_eq : s.strictWidth = some s.width := strictPixels_eq _

@[simp] theorem strictHeight_eq : s.strictHeight = some s.height := strictPixels_eq _

theorem width_le : s.width.toNat ≤ 32 := by
  have h := s.cellsAcross_le
  rw [toNat_width]
  omega

theorem height_le : s.height.toNat ≤ 32 := by
  have h := s.cellsDown_le
  rw [toNat_height]
  omega

theorem strictCovers_eq (y : UInt16) : s.strictCovers y = some (s.covers y) := by
  have hsub : sub 512 s.width = some (512 - s.width) := by
    apply sub_eq
    have h := s.width_le
    have h512 : (512 : UInt16).toNat = 512 := by decide
    omega
  have hoff (a : UInt16) : (!decide (s.height ≤ a)) = decide (a < s.height) := by
    rw [← decide_not]
    exact decide_eq_decide.2 UInt16.not_le
  unfold strictCovers covers
  by_cases hx : 320 ≤ s.x <;> simp [hx, hsub, hoff]

end SpriteEntry

/-- The sprites of a row in 32 places, of which the first `count` are in use. -/
structure RowCache where
  entries : Vector SpriteEntry 32
  count : Nat

namespace RowCache

def shown (c : RowCache) : List SpriteEntry := c.entries.toList.take c.count

/-- The sprites in use as a slice, none if it does not lie in the places. -/
def slice (c : RowCache) : Option (List SpriteEntry) := if c.count ≤ 32 then some c.shown else none

def push (c : RowCache) (s : SpriteEntry) : Option RowCache := do
  return ⟨← put c.entries c.count s, ← addSize c.count 1⟩

theorem slice_eq {c : RowCache} (h : c.count ≤ 32) : c.slice = some c.shown := if_pos h

theorem exists_push {c : RowCache} (h : c.count < 32) (s : SpriteEntry) :
    ∃ c', c.push s = some c' ∧ c'.count = c.count + 1 ∧ c'.shown = c.shown ++ [s] := by
  have hsize : addSize c.count 1 = some (c.count + 1) := addSize_eq (by unfold sizeLimit; omega)
  refine ⟨⟨c.entries.set c.count s, c.count + 1⟩, ?_, rfl, ?_⟩
  · simp [push, put_eq _ h, hsize]
  · rw [shown, shown, Vector.toList_set, List.take_add_one]
    simp [h, List.take_set_of_le]

end RowCache

namespace Vdp

def strictSpriteAt (v : Vdp) (address : UInt16) : Option SpriteEntry := do
  return {
    attributes := ← v.memory.strictWord address
    size := ← v.memory.strictWord (address + 2)
    x := (← v.memory.strictWord (address + 4)) &&& 511
    y := (← v.memory.strictWord (address + 6)) &&& 255 }

/-- Collect sprites for row `y` from the entry at an address on, at most `limit` entries. -/
def strictCollectFrom (v : Vdp) (base y : UInt16) :
    (limit : Nat) → (address : UInt16) → RowCache → Option RowCache
  | 0, _, cache => some cache
  | limit + 1, address, cache => do
    let s ← v.strictSpriteAt address
    let cache ← if ← s.strictCovers y then cache.push s else some cache
    let next := linked base s
    -- The cache is full only after the entry that takes the last place.
    if cache.count = 32 ∨ next = address then return cache
    else v.strictCollectFrom base y limit next cache

def strictCollect (v : Vdp) (y : UInt16) (cache : RowCache) : Option RowCache := do
  let base ← v.strictRegister Register.sprites
  v.strictCollectFrom base y walkLimit base { cache with count := 0 }

variable (v : Vdp)

@[simp] theorem strictSpriteAt_eq (address : UInt16) :
    v.strictSpriteAt address = some (v.spriteAt address) := by
  simp [strictSpriteAt, spriteAt]

/-- A cache with a free place takes what the walk from an address on shows, and at most 32 places of
it are in use. -/
theorem exists_strictCollectFrom (base y : UInt16) (limit : Nat) (address : UInt16)
    {cache : RowCache} (h : cache.count < 32) :
    ∃ cache', v.strictCollectFrom base y limit address cache = some cache' ∧
      cache'.count ≤ 32 ∧ cache'.shown = cache.shown ++
        ((v.examinedFrom base y limit (32 - cache.count) address).map v.spriteAt).filter
        (·.covers y) := by
  induction limit generalizing address cache with
  | zero => exact ⟨cache, rfl, Nat.le_of_lt h, (List.append_nil _).symm⟩
  | succ limit ih =>
    simp only [strictCollectFrom, examinedFrom, strictSpriteAt_eq, SpriteEntry.strictCovers_eq,
      Option.bind_eq_bind, Option.bind_some, List.map_cons]
    cases hc : (v.spriteAt address).covers y with
    | false =>
      have hfull : cache.count ≠ 32 := Nat.ne_of_lt h
      have hroom : 32 - cache.count ≠ 0 := by omega
      by_cases hnext : linked base (v.spriteAt address) = address
      · exact ⟨cache, by simp [hnext], Nat.le_of_lt h, by simp [hnext, hc]⟩
      · obtain ⟨cache', he, hle, hshown⟩ := ih (linked base (v.spriteAt address)) h
        exact ⟨cache', by simp [hfull, hnext, he], hle, by simp [hnext, hc, hroom, hshown]⟩
    | true =>
      obtain ⟨pushed, hpush, hcount, hshown⟩ := RowCache.exists_push h (v.spriteAt address)
      have hroom : 32 - cache.count - 1 = 32 - pushed.count := by omega
      have hfull : 32 - pushed.count = 0 ↔ pushed.count = 32 := by omega
      by_cases hstop : pushed.count = 32 ∨ linked base (v.spriteAt address) = address
      · exact ⟨pushed, by simp [hpush, hstop], by omega, by simp [hroom, hfull, hstop, hc, hshown]⟩
      · have hlt : pushed.count < 32 := by omega
        obtain ⟨cache', he, hle, hshown'⟩ := ih (linked base (v.spriteAt address)) hlt
        exact ⟨cache', by simp [hpush, hstop, he],
          hle, by simp [hroom, hfull, hstop, hc, hshown, hshown']⟩

theorem exists_strictCollect (y : UInt16) (cache : RowCache) :
    ∃ cache', v.strictCollect y cache = some cache' ∧
    cache'.count ≤ 32 ∧ cache'.shown = (v.collectRow y).rowSprites := by
  have hfree : ({ cache with count := 0 } : RowCache).count < 32 := Nat.zero_lt_succ 31
  obtain ⟨cache', he, hle, hshown⟩ :=
    v.exists_strictCollectFrom (v.register Register.sprites) y walkLimit
    (v.register Register.sprites) hfree
  refine ⟨cache', ?_, hle, ?_⟩
  · rw [strictCollect, strictRegister_eq, Option.bind_eq_bind, Option.bind_some, he]
  · have hempty : ({ cache with count := 0 } : RowCache).shown = [] := List.take_zero
    have hroom : 32 - ({ cache with count := 0 } : RowCache).count = rowLimit := rfl
    rw [hempty, hroom, List.nil_append] at hshown
    exact hshown

end Vdp

/-! ## Samples -/

namespace Vdp

def strictNibble (v : Vdp) (address column : UInt16) : Option UInt8 := do
  let b ← v.memory.strictRead address
  return if column &&& 1 = 0 then b >>> 4 else b &&& 0x0F

/-- A place in a row of places, counted from the last one on a condition. -/
def strictMirrored (b : Bool) (last l : UInt16) : Option UInt16 := if b then sub last l else some l

def strictTile (pattern h u t : UInt16) : Option UInt16 := do
  add (← add pattern (← mul (u >>> 3) (h >>> 3))) (t >>> 3)

def strictPatternByte (pattern u t : UInt16) : Option UInt16 := do
  add (← add (pattern <<< 5) (t <<< 2)) (u >>> 1)

/-- The pixel of an entry at a screen position, if it is in the box. -/
def strictSpriteNibble (v : Vdp) (s : SpriteEntry) (x y : UInt16) : Option (Option UInt8) := do
  let lx := (x - s.x) &&& 511
  let ly := (y - s.y) &&& 255
  let w ← s.strictWidth
  let h ← s.strictHeight
  if w ≤ lx || h ≤ ly then return none
  else
    let lx ← strictMirrored s.flipsAcross (← sub w 1) lx
    let ly ← strictMirrored s.flipsDown (← sub h 1) ly
    let tile ← strictTile s.pattern h lx ly
    let address := (tile <<< 5) + ((ly &&& 7) <<< 2) + ((lx &&& 7) >>> 1)
    return some (← v.strictNibble address lx)

/-- Scan entries in order. Entries that are passed over are sampled here all the same. -/
def strictScan (v : Vdp) (x y : UInt16) (found : Option LayerPixel) :
    List SpriteEntry → Option (Option LayerPixel)
  | [] => some found
  | s :: rest => do
    let sample ← v.strictSpriteNibble s x y
    if found.isSome && !s.priority then v.strictScan x y found rest
    else
      match sample with
      | none => v.strictScan x y found rest
      | some n =>
        if n = 0 then v.strictScan x y found rest
        else if s.priority then return some ⟨n ||| s.paletteRow, true⟩
        else v.strictScan x y (some ⟨n ||| s.paletteRow, false⟩) rest

def strictSpritePixel (v : Vdp) (cache : RowCache) (x y : UInt16) : Option (Option LayerPixel) := do
  v.strictScan x y none (← cache.slice)

def strictPlanePixel (v : Vdp) (plane : Plane) (x y : UInt16) : Option (Option LayerPixel) := do
  let sx := x + (← v.strictRegister plane.scrollX)
  let sy := y + (← v.strictRegister plane.scrollY)
  let column := (sx >>> 3) &&& 63
  let row := (sy >>> 3) &&& 31
  let entry ← v.memory.strictWord ((← v.strictRegister plane.base) + (column <<< 1) + (row <<< 7))
  let pattern := entry &&& 0x07FF
  if pattern = 0 then return none
  else
    let lx ← strictMirrored (entry &&& 0x0800 != 0) 7 (sx &&& 7)
    let ly ← strictMirrored (entry &&& 0x1000 != 0) 7 (sy &&& 7)
    let n ← v.strictNibble (← strictPatternByte pattern lx ly) lx
    if n = 0 then return none
    else return some ⟨n ||| ((entry >>> 9) &&& 0x30).toUInt8, entry &&& 0x8000 != 0⟩

def strictTextPixel (v : Vdp) (x y : UInt16) : Option (Option UInt32) := do
  let cell := (← v.strictRegister Register.text) + (x >>> 3) + (← mul 40 (y >>> 3))
  let character ← v.memory.strictRead cell
  if character = 0 then return none
  else
    let color ← v.strictColor (Mode.background v.mode)
    let color := if character &&& 0x80 != 0 then ~~~color else color
    let glyph ← v.font[← addSize ((character &&& 0x7F).toNat <<< 3) (y &&& 7).toNat]?
    let bit ← shiftRight glyph (← sub 7 (x &&& 7))
    return some (if bit &&& 1 != 0 then ~~~color else color)

variable (v : Vdp)

@[simp] theorem strictNibble_eq (address column : UInt16) :
    v.strictNibble address column = some (v.nibble address column) := by
  simp [strictNibble, nibble]

theorem strictMirrored_eq (b : Bool) {last l : UInt16} (h : l.toNat ≤ last.toNat) :
    strictMirrored b last l = some (if b then last - l else l) := by
  cases b with
  | false => rfl
  | true => exact sub_eq h

theorem toNat_mirrored_lt (b : Bool) {last l : UInt16} (h : l.toNat ≤ last.toNat) :
    (if b then last - l else l).toNat < last.toNat + 1 := by
  rw [toNat_mirrored b last h]
  exact mirroredIf_lt b (Nat.lt_succ_of_le h)

theorem strictTile_eq {pattern h u t : UInt16} (hpattern : pattern.toNat < 2048) (hh : h.toNat ≤ 32)
    (hu : u.toNat < 32) (ht : t.toNat < 32) :
    strictTile pattern h u t = some (pattern + (u >>> 3) * (h >>> 3) + (t >>> 3)) := by
  have hcells : (u >>> 3).toNat * (h >>> 3).toNat ≤ 3 * 4 := by
    rw [toNat_shiftRight_three, toNat_shiftRight_three]
    exact Nat.mul_le_mul (by omega) (by omega)
  have hlast := toNat_shiftRight_three t
  have hmul : mul (u >>> 3) (h >>> 3) = some ((u >>> 3) * (h >>> 3)) := mul_eq (by omega)
  have hcolumn : ((u >>> 3) * (h >>> 3)).toNat ≤ 12 := by
    rw [UInt16.toNat_mul]
    omega
  have hadd : add pattern ((u >>> 3) * (h >>> 3)) = some (pattern + (u >>> 3) * (h >>> 3)) :=
    add_eq (by omega)
  have hsum : add (pattern + (u >>> 3) * (h >>> 3)) (t >>> 3) =
      some (pattern + (u >>> 3) * (h >>> 3) + (t >>> 3)) := by
    apply add_eq
    rw [UInt16.toNat_add]
    omega
  simp only [strictTile, hmul, hadd, hsum, Option.bind_eq_bind, Option.bind_some]

theorem strictPatternByte_eq {pattern u t : UInt16} (hpattern : pattern.toNat < 2048)
    (hu : u.toNat < 8) (ht : t.toNat < 8) :
    strictPatternByte pattern u t = some ((pattern <<< 5) + (t <<< 2) + (u >>> 1)) := by
  have h5 : (5 : UInt16).toNat % 16 = 5 := by decide
  have h2 : (2 : UInt16).toNat % 16 = 2 := by decide
  have h1 : (1 : UInt16).toNat % 16 = 1 := by decide
  have hbase : (pattern <<< 5).toNat = pattern.toNat * 32 := by
    rw [UInt16.toNat_shiftLeft, h5, Nat.shiftLeft_eq]
    omega
  have hrow : (t <<< 2).toNat = t.toNat * 4 := by
    rw [UInt16.toNat_shiftLeft, h2, Nat.shiftLeft_eq]
    omega
  have hcolumn : (u >>> 1).toNat = u.toNat / 2 := by
    rw [UInt16.toNat_shiftRight, h1, Nat.shiftRight_eq_div_pow]
  have hadd : add (pattern <<< 5) (t <<< 2) = some ((pattern <<< 5) + (t <<< 2)) :=
    add_eq (by omega)
  have hsum : add ((pattern <<< 5) + (t <<< 2)) (u >>> 1) =
      some ((pattern <<< 5) + (t <<< 2) + (u >>> 1)) := by
    apply add_eq
    rw [UInt16.toNat_add, hbase, hrow, hcolumn]
    omega
  simp only [strictPatternByte, hadd, hsum, Option.bind_eq_bind, Option.bind_some]

theorem toNat_pattern_lt (a : UInt16) : (a &&& 0x07FF).toNat < 2048 :=
  toNat_and_lt a (k := 11) (by decide)

theorem toNat_and_seven_lt (a : UInt16) : (a &&& 7).toNat < 8 := toNat_and_lt a (k := 3) (by decide)

theorem sub_one {size l : UInt16} (hsize : size.toNat ≤ 32) (h : l.toNat < size.toNat) :
    sub size 1 = some (size - 1) ∧ l.toNat ≤ (size - 1).toNat ∧ (size - 1).toNat + 1 ≤ 32 := by
  have hone : (1 : UInt16).toNat ≤ size.toNat := Nat.lt_of_le_of_lt (Nat.zero_le _) h
  have hlast : (size - 1).toNat = size.toNat - 1 :=
    UInt16.toNat_sub_of_le _ _ (UInt16.le_iff_toNat_le.2 hone)
  exact ⟨sub_eq hone, by omega, by omega⟩

/-- An entry is sampled anywhere without a refusal. -/
theorem strictSpriteNibble_eq (s : SpriteEntry) (x y : UInt16) :
    v.strictSpriteNibble s x y = some (v.spriteNibble s x y) := by
  unfold strictSpriteNibble spriteNibble
  simp only [SpriteEntry.strictWidth_eq, SpriteEntry.strictHeight_eq, Option.bind_eq_bind,
    Option.bind_some]
  generalize (x - s.x) &&& 511 = lx
  generalize (y - s.y) &&& 255 = ly
  by_cases hbox : s.width ≤ lx ∨ s.height ≤ ly
  · have hout : (decide (s.width ≤ lx) || decide (s.height ≤ ly)) = true := by simpa using hbox
    rw [if_pos hout, if_pos hout]
    rfl
  · have hin : ¬ (decide (s.width ≤ lx) || decide (s.height ≤ ly)) = true := by simpa using hbox
    obtain ⟨hx, hy⟩ := not_or.1 hbox
    have hlx : lx.toNat < s.width.toNat := UInt16.lt_iff_toNat_lt.1 (UInt16.not_le.1 hx)
    have hly : ly.toNat < s.height.toNat := UInt16.lt_iff_toNat_lt.1 (UInt16.not_le.1 hy)
    obtain ⟨hw, hwidth⟩ := sub_one s.width_le hlx
    obtain ⟨hh, hheight⟩ := sub_one s.height_le hly
    have hu := toNat_mirrored_lt s.flipsAcross hwidth.1
    have ht := toNat_mirrored_lt s.flipsDown hheight.1
    have htile :=
      strictTile_eq (toNat_pattern_lt s.attributes) s.height_le (Nat.lt_of_lt_of_le hu hwidth.2)
      (Nat.lt_of_lt_of_le ht hheight.2)
    rw [if_neg hin, if_neg hin, hw, hh, Option.bind_some, strictMirrored_eq _ hwidth.1,
      Option.bind_some, Option.bind_some, strictMirrored_eq _ hheight.1]
    simp only [Option.bind_some, SpriteEntry.pattern, htile, strictNibble_eq]
    rfl

theorem strictScan_eq (x y : UInt16) (found : Option LayerPixel) (sprites : List SpriteEntry) :
    v.strictScan x y found sprites = some (v.scanSprites x y found sprites) := by
  induction sprites generalizing found with
  | nil => rfl
  | cons s rest ih =>
    simp only [strictScan, scanSprites, strictSpriteNibble_eq, Option.bind_eq_bind,
      Option.bind_some, ih]
    cases v.spriteNibble s x y with
    | none => simp
    | some n => simp only [apply_ite some, pure]

theorem strictPlanePixel_eq (plane : Plane) (x y : UInt16) :
    v.strictPlanePixel plane x y = some (v.planePixel plane x y) := by
  have hle (a : UInt16) : (a &&& 7).toNat ≤ (7 : UInt16).toNat :=
    Nat.le_of_lt_succ (toNat_and_seven_lt a)
  unfold strictPlanePixel planePixel cellPixel
  simp only [strictRegister_eq, Memory.strictWord_eq, Option.bind_eq_bind, Option.bind_some]
  generalize v.memory.readWord _ = entry
  by_cases hp : entry &&& 0x07FF = 0
  · rw [if_pos hp, if_pos hp]
    rfl
  · have hbyte := strictPatternByte_eq (toNat_pattern_lt entry)
      (toNat_mirrored_lt (entry &&& 0x0800 != 0) (hle (x + v.register plane.scrollX)))
      (toNat_mirrored_lt (entry &&& 0x1000 != 0) (hle (y + v.register plane.scrollY)))
    rw [if_neg hp, if_neg hp, strictMirrored_eq _ (hle _), strictMirrored_eq _ (hle _)]
    simp only [Option.bind_some, hbyte, strictNibble_eq]
    exact (apply_ite some ..).symm

theorem strictTextPixel_eq (x : UInt16) {y : UInt16} (hy : y < 224) :
    v.strictTextPixel x y = some (v.textPixel x y) := by
  have hy' : y.toNat < 224 := UInt16.lt_iff_toNat_lt.1 hy
  have h40 : (40 : UInt16).toNat = 40 := by decide
  have hmul : mul 40 (y >>> 3) = some ((40 : UInt16) * (y >>> 3)) := by
    apply mul_eq
    rw [toNat_shiftRight_three, h40]
    omega
  unfold strictTextPixel textPixel textCell
  simp only [strictRegister_eq, hmul, Memory.strictRead_eq, Option.bind_eq_bind, Option.bind_some]
  generalize v.memory.read _ = character
  by_cases hc : character = 0
  · rw [if_pos hc, if_pos hc]
    rfl
  · have hlt := glyphRow_lt character y
    have hindex : addSize ((character &&& 0x7F).toNat <<< 3) (y &&& 7).toNat =
        some ((character &&& 0x7F).toNat * 8 + (y &&& 7).toNat) := by
      rw [Nat.shiftLeft_eq]
      apply addSize_eq
      unfold sizeLimit
      omega
    have hcolumn : sub 7 (x &&& 7) = some (7 - (x &&& 7)) :=
      sub_eq (Nat.le_of_lt_succ (toNat_and_seven_lt x))
    have hshift (row : UInt8) : shiftRight row (7 - (x &&& 7)) =
        some (row >>> (7 - (x &&& 7)).toUInt8) := by
      apply shiftRight_eq
      exact toNat_mirrored_lt true (Nat.le_of_lt_succ (toNat_and_seven_lt x))
    rw [if_neg hc, if_neg hc, strictColor_eq, hindex, hcolumn]
    simp only [Option.bind_some, Vector.getElem?_eq_getElem hlt, hshift, glyphBit]
    rfl

theorem strictSpritePixel_eq {cache : RowCache} (h : cache.count ≤ 32) (x y : UInt16) :
    v.strictSpritePixel cache x y =
      some ({ v with rowSprites := cache.shown }.spritePixel x y) := by
  have hmemory : v.memory = ({ v with rowSprites := cache.shown } : Vdp).memory := rfl
  rw [strictSpritePixel, RowCache.slice_eq h, Option.bind_eq_bind, Option.bind_some,
    strictScan_eq, spritePixel, ← scanSprites_congr hmemory]

end Vdp

/-- No access goes out of range. Whatever the registers and the memories hold, a word written to the
processor is received, a read is answered, the sprites of any row on the screen find their places in
the cache, and at any column of it the sprites in the cache, the planes and the text are sampled: no
sum, difference or product leaves its range, no index its buffer, and the results are those of the
plain functions. -/
theorem Board.accesses_in_range (b : Board) (port : UInt8) (x : UInt16) {y : UInt16}
    (hy : y < 224) :
    b.vdp.strictReceive b.core.memory b.ports port = some (b.sendVdp port).vdp ∧
    b.vdp.strictAnswer b.ports port =
      some ((b.readVdp port).1, (b.readVdp port).2.ports, (b.readVdp port).2.vdp) ∧
    (∀ cache, ∃ cache', b.vdp.strictCollect y cache = some cache' ∧ cache'.count ≤ 32 ∧
      cache'.shown = (b.vdp.collectRow y).rowSprites) ∧
    (∀ cache, cache.count ≤ 32 → b.vdp.strictSpritePixel cache x y =
      some (({ b.vdp with rowSprites := cache.shown } : Vdp).spritePixel x y)) ∧
    (∀ plane, b.vdp.strictPlanePixel plane x y = some (b.vdp.planePixel plane x y)) ∧
    b.vdp.strictTextPixel x y = some (b.vdp.textPixel x y) := by
  refine ⟨?_, ?_, ?_, ?_, ?_, ?_⟩
  · rw [Vdp.strictReceive_eq, Board.vdp_sendVdp]
  · rw [Vdp.strictAnswer_eq]
    rfl
  · exact fun cache => b.vdp.exists_strictCollect y cache
  · exact fun cache h => b.vdp.strictSpritePixel_eq h x y
  · exact fun plane => b.vdp.strictPlanePixel_eq plane x y
  · exact b.vdp.strictTextPixel_eq x hy

/-- A board with ones in all bits of the video memory and the font, and scrolled by a pixel each
way. -/
def brimful : Board :=
  { Board.zero (.upTo none) with vdp :=
    { Vdp.zero with
      registers := Vector.replicate 16 1
      memory := ⟨Vector.replicate 65536 0xFF⟩
      font := Vector.replicate 1024 0xFF } }

/-- In the last column of the last row the last byte of the last pattern is in the last cell of the
memory, and the last row of the last glyph is the last byte of the font. -/
theorem accesses_in_range_brimful : (223 : UInt16) < 224 ∧
    brimful.vdp.strictPlanePixel .a 319 223 = some (some ⟨0x3F, true⟩) ∧
    Vdp.strictPatternByte 0x07FF 7 7 = some 0xFFFF ∧
    brimful.vdp.strictTextPixel 319 223 = some (some 0) ∧
    ∃ cache, brimful.vdp.strictCollect 223 ⟨Vector.replicate 32 ⟨0, 0, 0, 0⟩, 32⟩ = some cache ∧
      cache.count ≤ 32 := by
  have hy : (223 : UInt16) < 224 := by decide
  obtain ⟨-, -, hcollect, -, hplane, htext⟩ := brimful.accesses_in_range 0x0D 319 hy
  have hread (a : UInt16) : brimful.vdp.memory.read a = 0xFF := Vector.getElem_replicate _
  have hcell : brimful.vdp.planePixel .a 319 223 = some ⟨0x3F, true⟩ := by
    simp only [Vdp.planePixel, Vdp.cellPixel, Vdp.nibble, Memory.readWord, hread]
    decide +kernel
  have hink : brimful.vdp.textPixel 319 223 = some 0 := by decide +kernel
  obtain ⟨cache, hcache, hle, -⟩ := hcollect ⟨Vector.replicate 32 ⟨0, 0, 0, 0⟩, 32⟩
  exact ⟨hy, (hplane .a).trans (congrArg some hcell), by decide, htext.trans (congrArg some hink),
    cache, hcache, hle⟩

end FantasyConsole
