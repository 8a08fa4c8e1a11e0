import FantasyConsole.Proofs.Marks
import FantasyConsole.Proofs.Transfers

/-!
# What a command writes

A command word and its operand name cells, palette entries, glyph rows and registers,
and what is written to each. Where it goes is computed from the numbers in the command
word and from the registers as they stand before the command; blocks of cells wrap at
the end of memory. Everything else is kept.
-/
namespace FantasyConsole

/-- What is written at each place, none where nothing is, and the mark that tells of it. -/
structure Footprint where
  memory : UInt16 → Option UInt8 := fun _ => none
  palette : Fin 64 → Option UInt16 := fun _ => none
  font : Fin 1024 → Option UInt8 := fun _ => none
  registers : Fin 16 → Option UInt16 := fun _ => none
  mark : UInt16 := 0

namespace Footprint

/-- One place and what is written there. -/
def only {ι α : Type} [DecidableEq ι] (i : ι) (a : α) (j : ι) : Option α :=
  if i = j then some a else none

theorem mod_palette_lt (n : Nat) : n % 64 < 64 := Nat.mod_lt n (by decide)

def entry (n : Nat) : Fin 64 := ⟨n % 64, mod_palette_lt n⟩

/-- The `count` cells from `start` on, wrapping, with what is written at each distance from
`start`. -/
def block (start count : UInt16) (f : UInt16 → UInt8) (a : UInt16) : Option UInt8 :=
  if a - start < count then some (f (a - start)) else none

theorem block_add (start count : UInt16) (f : UInt16 → UInt8) (k : UInt16) :
    block start count f (start + k) = if k < count then some (f k) else none := by
  rw [block, UInt16.add_comm, UInt16.add_sub_cancel]

end Footprint

open Footprint in
/-- What the command word `c` writes with operand `w`. -/
def Vdp.footprint (v : Vdp) (main : Memory) (c w : UInt16) : Footprint :=
  let p := c.toNat / 256
  let i := Register.ofNat p
  let j := Register.ofNat (p / 16)
  let b := if c.toNat % 2 = 1 then lowByte w else highByte w
  match c.toNat % 32 with
  | 0x00 => { registers := only i 0, mark := Mode.registersWritten }
  | 0x01 | 0x02 => { registers := only i b.toUInt16, mark := Mode.registersWritten }
  | 0x03 => { registers := only i w, mark := Mode.registersWritten }
  | 0x04 => { palette := only (entry p) 0, mark := Mode.paletteWritten }
  | 0x05 | 0x06 => { palette := only (entry p) b.toUInt16, mark := Mode.paletteWritten }
  | 0x07 => { palette := only (entry p) w, mark := Mode.paletteWritten }
  | 0x10 => { font := fun k => some (main.read (w + UInt16.ofNat k)), mark := Mode.fontWritten }
  | 0x08 => { memory := only w 0, mark := Mode.memoryWritten }
  | 0x09 | 0x0A => { memory := only (v.register i) b, mark := Mode.memoryWritten }
  | 0x0B =>
    { memory := block (v.register i) w fun k =>
      main.read (v.register j + k), mark := Mode.memoryWritten }
  | 0x0C => { memory := block (v.register i) w fun _ => 0, mark := Mode.memoryWritten }
  | 0x0D | 0x0E =>
    { memory := block (v.register i) (v.register j) fun _ => b, mark := Mode.memoryWritten }
  | 0x0F =>
    { memory := block (v.register i) (v.register j) fun k =>
      if k.toNat % 2 = 0 then highByte w else lowByte w
      mark := Mode.memoryWritten }
  | _ => {}

namespace Command
open Footprint

def footprint (v : Vdp) (main : Memory) : Command → Footprint
  | .setRegister i w => { registers := only i w, mark := Mode.registersWritten }
  | .setColor i w => { palette := only i w, mark := Mode.paletteWritten }
  | .clearCell a => { memory := only a 0, mark := Mode.memoryWritten }
  | .setCell i b => { memory := only (v.register i) b, mark := Mode.memoryWritten }
  | .copyCells i j n =>
    { memory := block (v.register i) n fun k =>
      main.read (v.register j + k), mark := Mode.memoryWritten }
  | .clearCells i n => { memory := block (v.register i) n fun _ => 0, mark := Mode.memoryWritten }
  | .fillCells i j b =>
    { memory := block (v.register i) (v.register j) fun _ => b, mark := Mode.memoryWritten }
  | .repeatWord i j w =>
    { memory := block (v.register i) (v.register j) fun k =>
      if k.toNat % 2 = 0 then highByte w else lowByte w
      mark := Mode.memoryWritten }
  | .loadFont a =>
    { font := fun k => some (main.read (a + UInt16.ofNat k)), mark := Mode.fontWritten }
  | .nothing => {}

theorem mark_footprint (v : Vdp) (main : Memory) (c : Command) :
    (c.footprint v main).mark = c.mark := by
  cases c <;> rfl

theorem toNat_selector (c : UInt16) : (selector c).toNat = c.toNat % 32 := by
  rw [selector, UInt16.toNat_and]
  exact Nat.and_two_pow_sub_one_eq_mod c.toNat 5

theorem lowRegister_eq (c : UInt16) : lowRegister c = Register.ofNat (c.toNat / 256) := by
  rw [lowRegister, toNat_highByte]

theorem highRegister_eq (c : UInt16) : highRegister c = Register.ofNat (c.toNat / 256 / 16) := by
  rw [highRegister, toNat_highByte]

theorem colorIndex_eq (c : UInt16) : colorIndex c = entry (c.toNat / 256) := by
  rw [colorIndex, toNat_highByte]
  rfl

theorem operandByte_eq (c w : UInt16) :
    operandByte c w = if c.toNat % 2 = 1 then lowByte w else highByte w := by
  have h : (c &&& 1).toNat = c.toNat % 2 := by
    rw [UInt16.toNat_and]
    exact Nat.and_two_pow_sub_one_eq_mod c.toNat 1
  have hodd : (c &&& 1 != 0) = decide (c.toNat % 2 = 1) := by
    rw [Bool.eq_iff_iff, bne_iff_ne, ne_eq, ← UInt16.toNat_inj, h, decide_eq_true_eq]
    exact Nat.mod_two_ne_zero
  rw [operandByte, hodd]
  simp

theorem footprint_decode (v : Vdp) (main : Memory) (c w : UInt16) :
    (decode c w).footprint v main = v.footprint main c w := by
  unfold decode Vdp.footprint
  rw [toNat_selector, lowRegister_eq, highRegister_eq, colorIndex_eq, operandByte_eq]
  dsimp only
  generalize c.toNat % 32 = s
  match s with
  | 0 | 1 | 2 | 3 | 4 | 5 | 6 | 7 | 8 | 9 | 10 | 11 | 12 | 13 | 14 | 15 | 16 => rfl
  | _ + 17 => rfl

end Command

/-- A copy into memory writes a block. Its count is a word, so that no place is written twice. -/
theorem Memory.read_copied (m : Memory) (start count : UInt16) {n : Nat} (hn : 0 < n)
    (src : Vector UInt8 n) (origin : Nat) (a : UInt16) :
    (⟨Ring.copy m.cells start.toNat src origin count.toNat⟩ : Memory).read a =
      (Footprint.block start count (fun k => Ring.cell hn src (origin + k.toNat)) a).getD
      (m.read a) := by
  obtain ⟨k, rfl⟩ : ∃ k, a = start + k :=
    ⟨a - start, by rw [UInt16.add_comm, UInt16.sub_add_cancel]⟩
  have hcount := count.toNat_lt
  rw [Footprint.block_add, read_add,
    Ring.cell_copy (by decide) hn _ _ _ _ (by omega) k.toNat_lt, ← read_add]
  simp only [UInt16.lt_iff_toNat_lt]
  split <;> rfl

theorem Memory.read_filled (m : Memory) (start count : UInt16) (b : UInt8) (a : UInt16) :
    (⟨Ring.fill m.cells start.toNat b count.toNat⟩ : Memory).read a =
      (Footprint.block start count (fun _ => b) a).getD (m.read a) := by
  have hb (k : Nat) : Ring.cell Nat.one_pos #v[b] k = b := by simp [Ring.cell, Nat.mod_one]
  rw [Ring.fill_eq_copy, read_copied m _ _ Nat.one_pos]
  simp only [hb]

namespace Vdp

/-- `r` is `v` with the writes of a footprint made. -/
structure Follows (v : Vdp) (x : Footprint) (r : Vdp) : Prop where
  memory : ∀ a, r.memory.read a = (x.memory a).getD (v.memory.read a)
  palette : ∀ i, r.palette.get i = (x.palette i).getD (v.palette.get i)
  font : ∀ i, r.font.get i = (x.font i).getD (v.font.get i)
  registers : ∀ i, r.register i = (x.registers i).getD (v.register i)
  colors : r.colors = v.colors
  rowSprites : r.rowSprites = v.rowSprites

theorem follows_memory {v : Vdp} {x : UInt16 → Option UInt8} {m : Memory} (mark : UInt16)
    (h : ∀ a, m.read a = (x a).getD (v.memory.read a)) :
    v.Follows { memory := x, mark } { v with memory := m } :=
  ⟨h, fun _ => rfl, fun _ => rfl, fun _ => rfl, rfl, rfl⟩

theorem follows_write (v : Vdp) (main : Memory) (c : Command) :
    v.Follows (c.footprint v main) (v.write main c) := by
  cases c with
  | setRegister i w =>
    refine ⟨fun _ => rfl, fun _ => rfl, fun _ => rfl, fun j => ?_, rfl, rfl⟩
    rw [write, register_setRegister]
    unfold Command.footprint Footprint.only
    dsimp only
    split <;> rfl
  | setColor i w =>
    refine ⟨fun _ => rfl, fun j => ?_, fun _ => rfl, fun _ => rfl, rfl, rfl⟩
    have hset : (v.setColor i w).palette.get j = if i = j then w else v.palette.get j := by
      change (v.palette.set i w)[j] = if i = j then w else v.palette[j]
      simp [Vector.getElem_set, Fin.ext_iff]
    rw [write, hset]
    unfold Command.footprint Footprint.only
    dsimp only
    split <;> rfl
  | clearCell a | setCell i b =>
    refine follows_memory _ fun a => ?_
    rw [Memory.read_write]
    unfold Footprint.only
    split <;> rfl
  | copyCells i j n =>
    refine follows_memory _ fun a => ?_
    rw [Memory.read_copied v.memory _ _ (by decide)]
    simp only [Memory.read_add]
  | clearCells i n | fillCells i j b => exact follows_memory _ fun a => Memory.read_filled ..
  | repeatWord i j w =>
    refine follows_memory _ fun a => ?_
    have hcell (k : Nat) : Ring.cell Nat.two_pos #v[highByte w, lowByte w] (0 + k) =
        if k % 2 = 0 then highByte w else lowByte w := by
      rcases Nat.mod_two_eq_zero_or_one k with h | h <;> simp [Ring.cell, h]
    rw [Memory.read_copied v.memory _ _ Nat.two_pos]
    simp only [hcell]
  | loadFont a =>
    refine ⟨fun _ => rfl, fun _ => rfl, fun k => ?_, fun _ => rfl, rfl, rfl⟩
    have hk := k.isLt
    have hsmall : (UInt16.ofNat k).toNat = k :=
      UInt16.toNat_ofNat_of_lt' (Nat.lt_trans hk (by decide))
    have hcell :=
      Ring.cell_copy (by decide) (by decide) v.font 0 main.cells a.toNat (Nat.le_refl 1024) hk
    have hread := main.read_add a (UInt16.ofNat k)
    rw [hsmall] at hread
    rw [if_pos hk, ← hread] at hcell
    have hfont : (Ring.copy v.font 0 main.cells a.toNat 1024).get k =
        main.read (a + UInt16.ofNat k) := by
      change (Ring.copy v.font 0 main.cells a.toNat 1024)[k] = _
      simpa [Ring.cell, Nat.mod_eq_of_lt hk] using hcell
    exact hfont
  | nothing => exact ⟨fun _ => rfl, fun _ => rfl, fun _ => rfl, fun _ => rfl, rfl, rfl⟩

theorem pending_perform (v : Vdp) (main : Memory) (c : Command) :
    (v.perform main c).pending = 0 := by
  rw [perform, pending, register_setRegister, if_pos rfl]

theorem register_perform (v : Vdp) (main : Memory) (c : Command) {i : Fin 16}
    (hc : i ≠ Register.command)
    (hm : i ≠ Register.mode) : (v.perform main c).register i = (v.write main c).register i := by
  rw [perform, register_setRegister, if_neg (Ne.symm hc), register_setMode _ _ hm]

/-- What a command writes with its operand, read off at every place. The registers are those before
the command, so the command register reads as the command word. Nothing waits afterwards, the mode
register has gained the mark of the kind of place that was written, and all else is kept. -/
theorem receive_footprint (v : Vdp) (main : Memory) (w : UInt16) (h : v.pending ≠ 0) :
    let x := v.footprint main v.pending w
    let r := v.receive main w
    (∀ a, r.memory.read a = (x.memory a).getD (v.memory.read a)) ∧
      (∀ i, r.palette.get i = (x.palette i).getD (v.palette.get i)) ∧
      (∀ i, r.font.get i = (x.font i).getD (v.font.get i)) ∧
      r.pending = 0 ∧
      r.mode = (x.registers Register.mode).getD v.mode ||| x.mark ∧
      (∀ i, i ≠ Register.command → i ≠ Register.mode →
        r.register i = (x.registers i).getD (v.register i)) ∧
      r.colors = v.colors ∧ r.rowSprites = v.rowSprites := by
  intro x r
  have hx : x = (Command.decode v.pending w).footprint v main :=
    (Command.footprint_decode v main v.pending w).symm
  have hr : r = v.perform main (.decode v.pending w) := if_neg h
  have hf := v.follows_write main (.decode v.pending w)
  have hmark := Command.mark_footprint v main (.decode v.pending w)
  rw [← hx] at hf hmark
  rw [hr]
  refine ⟨hf.memory, hf.palette, hf.font, v.pending_perform main _, ?_, ?_, hf.colors,
    hf.rowSprites⟩
  · rw [mode_perform, hmark, mode, hf.registers]
    rfl
  · intro i hc hm
    rw [register_perform v main _ hc hm, hf.registers]

/-- A fill that goes around the end of memory and takes its count from the command register, which
holds the command word itself. -/
theorem receive_footprint_aliased :
    let v := (Vdp.zero.setRegister 2 0xFFFF).setRegister Register.command 0x020D
    let r := v.receive .zero 0x0055
    v.pending ≠ 0 ∧ r.memory.read (0xFFFF + 0x020C) = 0x55 ∧
      r.memory.read (0xFFFF + 0x020D) = v.memory.read (0xFFFF + 0x020D) ∧ r.pending = 0 ∧
      r.mode = Mode.memoryWritten := by
  intro v r
  have hp : v.pending ≠ 0 := by decide +kernel
  have hlast : (v.footprint .zero v.pending 0x0055).memory (0xFFFF + 0x020C) = some 0x55 := by
    decide +kernel
  have hnext : (v.footprint .zero v.pending 0x0055).memory (0xFFFF + 0x020D) = none := by
    decide +kernel
  obtain ⟨hmemory, -, -, hpending, hmode, -⟩ := receive_footprint v .zero 0x0055 hp
  refine ⟨hp, ?_, ?_, hpending, hmode.trans (by decide +kernel)⟩
  · rw [hmemory, hlast]
    rfl
  · rw [hmemory, hnext]
    rfl

end Vdp

end FantasyConsole
