import FantasyConsole.Proofs.Tiles

/-!
# Tile planes as scrolling tori

The map of a plane is a torus of 512 by 256 pixels. A position of the screen and the
scroll registers select a pixel of it by their sums alone, so a plane that is scrolled
shows the same picture moved, and one that is scrolled once round shows it unmoved.
-/
namespace FantasyConsole

/-- The word of the map cell at column `u` and row `v` of the 512 by 256 pixels of the map from
`base` on. Its high byte comes first, and the places of both wrap at the end of memory. -/
def Memory.mapWord (m : Memory) (base u v : Nat) : Nat :=
  let place := base + 2 * (u / 8) + 128 * (v / 8)
  (m.read (UInt16.ofNat place)).toNat * 256 + (m.read (UInt16.ofNat (place + 1))).toNat

/-- What a cell shows at column `u` and row `v` of it: nothing if it is empty or its tile has
nothing there. -/
def Memory.cellPixel (m : Memory) (cell u v : Nat) : Option LayerPixel :=
  let n :=
    m.tilePixel (cell % 2048) (mirroredIf (cell.testBit 11) 8 u) (mirroredIf (cell.testBit 12) 8 v)
  if cell % 2048 = 0 ∨ n = 0 then none else some (.ofWord cell n)

/-- What a map shows at column `u` and row `v`. -/
def Memory.mapPixel (m : Memory) (base u v : Nat) : Option LayerPixel :=
  m.cellPixel (m.mapWord base u v) (u % 8) (v % 8)

namespace Plane

def registers (p : Plane) : List (Fin 16) := [p.base, p.scrollX, p.scrollY]

theorem distinct_registers (p : Plane) :
    p.scrollX ≠ p.base ∧ p.scrollY ≠ p.base ∧ p.scrollX ≠ p.scrollY := by
  cases p <;> decide

theorem disjoint_registers {p q : Plane} (h : q ≠ p) : ∀ i ∈ q.registers, i ∉ p.registers := by
  cases p <;> cases q
  · exact absurd rfl h
  · decide
  · decide
  · exact absurd rfl h

end Plane

namespace Vdp

variable {v w : Vdp} {p : Plane} {x y x' y' : UInt16}

theorem toNat_cellPlace (entry bit : UInt16) {l : UInt16} {k : Nat} (hb : bit.toNat = 2 ^ k)
    (hl : l.toNat < 8) :
    (if entry &&& bit != 0 then 7 - l else l).toNat =
      mirroredIf (entry.toNat.testBit k) 8 l.toNat := by
  rw [and_bit_ne_zero entry hb]
  exact toNat_mirrored _ 7 (Nat.le_of_lt_succ hl)

theorem cellPixel_eq (v : Vdp) (entry : UInt16) {column row : UInt16} (hcolumn : column.toNat < 8)
    (hrow : row.toNat < 8) :
    v.cellPixel entry column row = v.memory.cellPixel entry.toNat column.toNat row.toNat := by
  have hpattern : (entry &&& 0x07FF).toNat = entry.toNat % 2048 :=
    toNat_and_mask entry (k := 11) (by decide)
  have hempty : entry &&& 0x07FF = 0 ↔ entry.toNat % 2048 = 0 := by
    rw [← hpattern]
    exact UInt16.toNat_inj.symm
  have hu := toNat_cellPlace entry 0x0800 (k := 11) (by decide) hcolumn
  have ht := toNat_cellPlace entry 0x1000 (k := 12) (by decide) hrow
  have hu8 := mirroredIf_lt (entry.toNat.testBit 11) hcolumn
  have ht8 := mirroredIf_lt (entry.toNat.testBit 12) hrow
  unfold cellPixel Memory.cellPixel
  dsimp only
  generalize (if entry &&& 0x0800 != 0 then 7 - column else column) = c at hu ⊢
  generalize (if entry &&& 0x1000 != 0 then 7 - row else row) = r at ht ⊢
  have hn := v.toNat_nibble_tile (entry &&& 0x07FF) (ht ▸ ht8) (hu ▸ hu8) (c := c) rfl
  generalize v.nibble (((entry &&& 0x07FF) <<< 5) + (r <<< 2) + (c >>> 1)) c = n at hn ⊢
  rw [hpattern, Nat.mod_mod, hu, ht] at hn
  have hlt : n.toNat < 16 := hn ▸ Memory.tilePixel_lt ..
  have hzero : n = 0 ↔ n.toNat = 0 := UInt8.toNat_inj.symm
  rw [← hn, LayerPixel.ofWord_eq hlt]
  by_cases h : entry.toNat % 2048 = 0
  · rw [if_pos (hempty.2 h), if_pos (.inl h)]
  · rw [if_neg (mt hempty.1 h)]
    simp only [hzero, h, false_or]

theorem toNat_entry (m : Memory) (base sx sy : UInt16) :
    (m.readWord (base + ((sx >>> 3 &&& 63) <<< 1) + ((sy >>> 3 &&& 31) <<< 7))).toNat =
      m.mapWord base.toNat (sx.toNat % 512) (sy.toNat % 256) := by
  have hcolumn : (sx >>> 3 &&& 63).toNat = sx.toNat % 512 / 8 := by
    rw [toNat_and_mask _ (k := 6) (by decide), toNat_shiftRight_three]
    omega
  have hrow : (sy >>> 3 &&& 31).toNat = sy.toNat % 256 / 8 := by
    rw [toNat_and_mask _ (k := 5) (by decide), toNat_shiftRight_three]
    omega
  have h1 : (1 : UInt16).toNat % 16 = 1 := by decide
  have h7 : (7 : UInt16).toNat % 16 = 7 := by decide
  have hplace : base + ((sx >>> 3 &&& 63) <<< 1) + ((sy >>> 3 &&& 31) <<< 7) =
      UInt16.ofNat (base.toNat + 2 * (sx.toNat % 512 / 8) + 128 * (sy.toNat % 256 / 8)) := by
    apply UInt16.toNat_inj.1
    rw [UInt16.toNat_add, UInt16.toNat_add, UInt16.toNat_shiftLeft, UInt16.toNat_shiftLeft,
      hcolumn, hrow, h1, h7, Nat.shiftLeft_eq, Nat.shiftLeft_eq, UInt16.toNat_ofNat']
    omega
  rw [hplace, Memory.readWord, toNat_word, Memory.mapWord, UInt16.ofNat_add _ 1]
  rfl

/-- A plane shows the pixel of its map that position and scroll add up to. -/
theorem planePixel_eq_mapPixel (v : Vdp) (p : Plane) (x y : UInt16) : v.planePixel p x y =
    v.memory.mapPixel (v.register p.base).toNat ((x.toNat + (v.register p.scrollX).toNat) % 512)
      ((y.toNat + (v.register p.scrollY).toNat) % 256) := by
  have hx : (x + v.register p.scrollX).toNat % 512 =
      (x.toNat + (v.register p.scrollX).toNat) % 512 := by
    rw [UInt16.toNat_add]
    omega
  have hy : (y + v.register p.scrollY).toNat % 256 =
      (y.toNat + (v.register p.scrollY).toNat) % 256 := by
    rw [UInt16.toNat_add]
    omega
  have hin (a : UInt16) : (a &&& 7).toNat = a.toNat % 8 := toNat_and_mask a (k := 3) (by decide)
  have hlt (a : UInt16) : (a &&& 7).toNat < 8 := hin a ▸ Nat.mod_lt _ (by decide)
  unfold planePixel
  dsimp only
  rw [cellPixel_eq v _ (hlt _) (hlt _), toNat_entry, Memory.mapPixel, ← hx, ← hy, hin, hin]
  congr 1 <;> omega

theorem memory_setRegister (v : Vdp) (i : Fin 16) (word : UInt16) :
    (v.setRegister i word).memory = v.memory := rfl

theorem planePixel_congr (hm : w.memory = v.memory) (hb : w.register p.base = v.register p.base)
    (hx : (x'.toNat + (w.register p.scrollX).toNat) % 512 =
      (x.toNat + (v.register p.scrollX).toNat) % 512)
    (hy : (y'.toNat + (w.register p.scrollY).toNat) % 256 =
      (y.toNat + (v.register p.scrollY).toNat) % 256) :
    w.planePixel p x' y' = v.planePixel p x y := by
  rw [planePixel_eq_mapPixel, planePixel_eq_mapPixel, hm, hb, hx, hy]

theorem planePixel_setScrollX (v : Vdp) (p : Plane) {r : UInt16}
    (h : (x.toNat + r.toNat) % 512 = (x'.toNat + (v.register p.scrollX).toNat) % 512) (y : UInt16) :
    (v.setRegister p.scrollX r).planePixel p x y = v.planePixel p x' y := by
  obtain ⟨hbase, -, hy⟩ := p.distinct_registers
  refine planePixel_congr (memory_setRegister v _ r) ?_ ?_ ?_
  · rw [register_setRegister, if_neg hbase]
  · rw [register_setRegister, if_pos rfl, h]
  · rw [register_setRegister, if_neg hy]

theorem planePixel_setScrollY (v : Vdp) (p : Plane) {r : UInt16} (x : UInt16)
    (h : (y.toNat + r.toNat) % 256 = (y'.toNat + (v.register p.scrollY).toNat) % 256) :
    (v.setRegister p.scrollY r).planePixel p x y = v.planePixel p x y' := by
  obtain ⟨-, hbase, hx⟩ := p.distinct_registers
  refine planePixel_congr (memory_setRegister v _ r) ?_ ?_ ?_
  · rw [register_setRegister, if_neg hbase]
  · rw [register_setRegister, if_neg hx.symm]
  · rw [register_setRegister, if_pos rfl, h]

theorem planePixel_setRegister (v : Vdp) {i : Fin 16} (h : i ∉ p.registers) (word x y : UInt16) :
    (v.setRegister i word).planePixel p x y = v.planePixel p x y := by
  have hkept : ∀ j ∈ p.registers, (v.setRegister i word).register j = v.register j := by
    intro j hj
    rw [register_setRegister, if_neg]
    rintro rfl
    exact h hj
  have hbase := hkept p.base (by simp [Plane.registers])
  have hx := hkept p.scrollX (by simp [Plane.registers])
  have hy := hkept p.scrollY (by simp [Plane.registers])
  exact planePixel_congr (memory_setRegister v i word) hbase (by rw [hx]) (by rw [hy])

/-- A plane shows a torus. Its pixel is that of the map in the column and the row that position and
scroll add up to, so only the sums count, going once round changes nothing, and with the scroll
moved the picture is the same one moved, round the edges of the map. The other plane's registers
have no part in it. -/
theorem planePixel_torus (v : Vdp) (p : Plane) :
    (∀ x y : UInt16, v.planePixel p x y =
      v.memory.mapPixel (v.register p.base).toNat ((x.toNat + (v.register p.scrollX).toNat) % 512)
        ((y.toNat + (v.register p.scrollY).toNat) % 256)) ∧
    (∀ (w : Vdp) (x y x' y' : UInt16), w.memory = v.memory → w.register p.base = v.register p.base →
      (x'.toNat + (w.register p.scrollX).toNat) % 512 =
        (x.toNat + (v.register p.scrollX).toNat) % 512 →
      (y'.toNat + (w.register p.scrollY).toNat) % 256 =
        (y.toNat + (v.register p.scrollY).toNat) % 256 →
      w.planePixel p x' y' = v.planePixel p x y) ∧
    (∀ k x y : UInt16,
      (v.setRegister p.scrollX (v.register p.scrollX + 512 * k)).planePixel p x y =
        v.planePixel p x y ∧
      (v.setRegister p.scrollY (v.register p.scrollY + 256 * k)).planePixel p x y =
        v.planePixel p x y) ∧
    (∀ d x x' y : UInt16, x'.toNat % 512 = (x.toNat + d.toNat) % 512 →
      (v.setRegister p.scrollX (v.register p.scrollX + d)).planePixel p x y = v.planePixel p x' y) ∧
    (∀ d x y y' : UInt16, y'.toNat % 256 = (y.toNat + d.toNat) % 256 →
      (v.setRegister p.scrollY (v.register p.scrollY + d)).planePixel p x y = v.planePixel p x y') ∧
    ∀ q ≠ p, ∀ i ∈ q.registers, ∀ word x y : UInt16,
      (v.setRegister i word).planePixel p x y = v.planePixel p x y := by
  refine ⟨v.planePixel_eq_mapPixel p, fun w x y x' y' => planePixel_congr, ?_, ?_, ?_, ?_⟩
  · intro k x y
    have h512 : (512 : UInt16).toNat = 512 := by decide
    have h256 : (256 : UInt16).toNat = 256 := by decide
    constructor
    · apply planePixel_setScrollX
      rw [UInt16.toNat_add, UInt16.toNat_mul, h512]
      omega
    · apply planePixel_setScrollY
      rw [UInt16.toNat_add, UInt16.toNat_mul, h256]
      omega
  · intro d x x' y h
    apply planePixel_setScrollX
    rw [UInt16.toNat_add]
    omega
  · intro d x y y' h
    apply planePixel_setScrollY
    rw [UInt16.toNat_add]
    omega
  · intro q hq i hi word x y
    exact v.planePixel_setRegister (Plane.disjoint_registers hq i hi) word x y

/-- A map that goes over the end of memory: its ninth entry is at the start, with a mirrored tile.
It is scrolled to all but a cell of the range of its register. -/
def edged : Vdp :=
  ({ Vdp.zero with memory := ((Memory.zero.write 0 0x88).write 1 1).write 35 5 }.setRegister
    Register.planeB
    0xFFF0).setRegister Register.planeBX 0xFFF8

/-- The first pixel of that entry is in column 72. It stays three times round, moves with the
scroll, and does not go with the other plane. -/
theorem planePixel_torus_edged : edged.planePixel .b 72 0 = some ⟨5, true⟩ ∧
    (edged.setRegister Register.planeBX (0xFFF8 + 512 * 3)).planePixel .b 72 0 = some ⟨5, true⟩ ∧
    (edged.setRegister Register.planeBX (0xFFF8 + 8)).planePixel .b 64 0 = some ⟨5, true⟩ ∧
    (edged.setRegister Register.planeA 7).planePixel .b 72 0 = some ⟨5, true⟩ := by
  have hscroll : edged.register Plane.b.scrollX = 0xFFF8 := by decide +kernel
  have h : edged.planePixel .b 72 0 = some ⟨5, true⟩ := by
    rw [(planePixel_torus edged .b).1]
    decide +kernel
  obtain ⟨-, -, hround, hmoved, -, hother⟩ := planePixel_torus edged .b
  refine ⟨h, ?_, ?_, ?_⟩
  · have hr := (hround 3 72 0).1
    rw [hscroll] at hr
    exact hr.trans h
  · have hd := hmoved 8 64 72 0 (by decide)
    rw [hscroll] at hd
    exact hd.trans h
  · exact (hother .a (by decide) Register.planeA (by decide) 7 72 0).trans h

end Vdp

end FantasyConsole
