import FantasyConsole.Proofs.Skipping

/-!
# What text covers

Under a character nothing of the layers is seen. Its pixels depend on the character,
its glyph and the background color alone: two machines with the same text draw the same
pixels there, whatever else is in their video memory, palettes, registers and caches.
-/
namespace FantasyConsole

namespace Vdp

def backgroundWord (v : Vdp) : UInt16 :=
  getElem v.palette ((Mode.background v.mode).toNat % 64) (mod_64_lt _)

/-- The text layer is on, no blank program is asked for, and the next frame is drawn. -/
structure DrawsText (v : Vdp) : Prop where
  text : v.has Mode.text = true
  noHblank : v.has Mode.hblank = false
  noVblank : v.has Mode.vblank = false
  marked : Mode.isDirty v.mode = true

/-- The same text in the same place, with the same font, on the same background. -/
structure SameText (v w : Vdp) : Prop where
  place : v.register Register.text = w.register Register.text
  cells : ∀ k < 40 * 28, v.memory.read (v.register Register.text + UInt16.ofNat k) =
    w.memory.read (w.register Register.text + UInt16.ofNat k)
  font : v.font = w.font
  background : Mode.background v.mode = Mode.background w.mode
  color : v.backgroundWord = w.backgroundWord

/-- The pixel of a character: the background's, inverted once for an inverse character and once more
for ink. -/
def textShade (v : Vdp) (x y : Nat) : UInt32 :=
  let character := v.characterAt x y
  invertedIf (v.inkAt character x y) (invertedIf (128 ≤ character) (expandColor v.backgroundWord))

variable {v w : Vdp} {x y : Nat}

theorem characterAt_eq_read (v : Vdp) (x y : Nat) :
    v.characterAt x y = v.memory.read
      (v.register Register.text + UInt16.ofNat (x / 8 + 40 * (y / 8))) := by
  rw [characterAt, Nat.add_assoc, UInt16.ofNat_add, UInt16.ofNat_toNat]

theorem SameText.characterAt (h : v.SameText w) (hx : x < 320) (hy : y < 224) :
    v.characterAt x y = w.characterAt x y := by
  rw [characterAt_eq_read, characterAt_eq_read]
  exact h.cells _ (by omega)

theorem SameText.textShade (h : v.SameText w) (hx : x < 320) (hy : y < 224) :
    v.textShade x y = w.textShade x y := by
  have hink (c : UInt8) : v.inkAt c x y = w.inkAt c x y := by
    simp only [inkAt, h.font]
  unfold Vdp.textShade
  dsimp only
  rw [h.characterAt hx hy, hink, h.color]

theorem composed_of_text (ht : v.has Mode.text = true) (hc : v.characterAt x y ≠ 0)
    (sprites : List SpriteEntry) :
    v.composed v.shades sprites x y = v.textShade x y := by
  have htext : v.hasText x y = true := by
    rw [hasText, ht, Bool.true_and, bne_iff_ne]
    exact hc
  have hshade : shadeOf v.shades (Mode.background v.mode) = expandColor v.backgroundWord := by
    rw [shadeOf, shades, backgroundWord, Vector.getElem_map]
  unfold composed indexAt textShade
  dsimp only
  rw [if_pos htext, if_pos htext, hshade]

end Vdp

namespace Machine

variable {m n : Machine}

theorem exists_render_of_text (h : m.board.vdp.DrawsText) (fuel : Nat) (frame : Array UInt32) :
    ∃ m' picture, m.render fuel frame = some (m', picture) ∧ picture.size = frame.size ∧
      ∀ x y, x < 320 → y < 224 → y * 320 + x < frame.size → m.board.vdp.characterAt x y ≠ 0 →
        picture[y * 320 + x]? = some (m.board.vdp.textShade x y) := by
  have hv : m.vblank fuel = some m := by
    unfold vblank
    dsimp only
    rw [h.noVblank]
    exact if_neg Bool.false_ne_true
  have hb : m.markPalette.board.vdp.has Mode.hblank = false :=
    m.board.vdp.agrees_mark.clear h.noHblank
  obtain ⟨m', picture, hr, -⟩ := drawRows_of_clear fuel hb (rowCount frame.size) 0 frame
  have hsize : picture.size = frame.size := (drawRows_frame hr).1
  refine ⟨m', picture, (render_of_dirty hv h.marked).trans hr, hsize, ?_⟩
  intro x y hx hy hi hc
  rw [shownOn_of_clear h.noHblank hr x y hx hy (hsize ▸ hi), Vdp.composed_of_text h.text hc]

/-- Text hides everything beneath it. Two machines with the same text both draw a frame, into
buffers of any size, and wherever there is a character the frames have the same pixel: it is that of
the text. -/
theorem render_text_covers (hm : m.board.vdp.DrawsText) (hn : n.board.vdp.DrawsText)
    (h : m.board.vdp.SameText n.board.vdp) (fuel fuel' : Nat) (frame frame' : Array UInt32) :
    ∃ m' n' picture picture',
      m.render fuel frame = some (m', picture) ∧ n.render fuel' frame' = some (n', picture') ∧
      picture.size = frame.size ∧ picture'.size = frame'.size ∧
      ∀ x y, x < 320 → y < 224 → y * 320 + x < frame.size → y * 320 + x < frame'.size →
        m.board.vdp.characterAt x y ≠ 0 →
          picture[y * 320 + x]? = picture'[y * 320 + x]? ∧
            picture[y * 320 + x]? = some (m.board.vdp.textShade x y) := by
  obtain ⟨m', picture, hr, hsize, hshown⟩ := exists_render_of_text hm fuel frame
  obtain ⟨n', picture', hr', hsize', hshown'⟩ := exists_render_of_text hn fuel' frame'
  refine ⟨m', n', picture, picture', hr, hr', hsize, hsize', ?_⟩
  intro x y hx hy hi hi' hc
  have hc' : n.board.vdp.characterAt x y ≠ 0 := h.characterAt hx hy ▸ hc
  have hp := hshown x y hx hy hi hc
  have hp' := hshown' x y hx hy hi' hc'
  rw [← h.textShade hx hy] at hp'
  exact ⟨hp.trans hp'.symm, hp⟩

/-- An inverse character without ink in the first text cell, with something else in video memory
behind the text, in the palette and in its cache. -/
def lettered (mode : UInt16) (other : UInt8) : Machine :=
  (showing mode []).onVdp fun v =>
    { v.setColor (Command.colorIndex 0x0500) other.toUInt16 with
      memory := (v.memory.write 0 0x81).write 5000 other
      colors := Vector.replicate 64 other.toUInt32 }

/-- With all layers on and with none the first pixel is that of the character. -/
theorem render_text_covers_lettered : ∃ m' n' picture picture',
    (lettered 0x1001 0).render 0 #[7] = some (m', picture) ∧
      (lettered 0x200F 0x55).render 9 #[3, 4] = some (n', picture') ∧
      picture[0]? = some 0xFFFFFF0F ∧ picture'[0]? = some 0xFFFFFF0F := by
  have hm : (lettered 0x1001 0).board.vdp.DrawsText := by constructor <;> decide +kernel
  have hn : (lettered 0x200F 0x55).board.vdp.DrawsText := by constructor <;> decide +kernel
  have hplace (mode : UInt16) (other : UInt8) :
      (lettered mode other).board.vdp.register Register.text = 0 := rfl
  have hcells (mode : UInt16) (other : UInt8) {k : Nat} (hk : k < 40 * 28) :
      (lettered mode other).board.vdp.memory.read (0 + UInt16.ofNat k) =
        (Memory.zero.write 0 0x81).read (UInt16.ofNat k) := by
    have hne : (5000 : UInt16) ≠ UInt16.ofNat k := by
      intro he
      have h5000 : (5000 : UInt16).toNat = 5000 := by decide
      have h := congrArg UInt16.toNat he
      rw [UInt16.toNat_ofNat', h5000] at h
      omega
    rw [UInt16.zero_add]
    exact (Memory.read_write _ _ _ _).trans (if_neg hne)
  have h : (lettered 0x1001 0).board.vdp.SameText (lettered 0x200F 0x55).board.vdp := by
    refine ⟨rfl, fun k hk => ?_, rfl, by decide, by decide +kernel⟩
    rw [hplace, hplace, hcells _ _ hk, hcells _ _ hk]
  obtain ⟨m', n', picture, picture', hr, hr', -, -, hsame⟩ :=
    render_text_covers hm hn h 0 9 #[7] #[3, 4]
  obtain ⟨he, hshade⟩ :=
    hsame 0 0 (by decide) (by decide) (by decide) (by decide) (by decide +kernel)
  have hvalue : (lettered 0x1001 0).board.vdp.textShade 0 0 = 0xFFFFFF0F := by decide +kernel
  rw [hvalue] at hshade
  exact ⟨m', n', picture, picture', hr, hr', hshade, he.symm.trans hshade⟩

end Machine

end FantasyConsole
