import FantasyConsole.Proofs.Course

/-!
# What a drawn frame shows

Each row of a drawn frame is composed from what its blank program left, with the
sprites listed when the row began. Its shades are those of its palette as long as
no blank program returned with the mark of the palette wiped out and other colors
than those cached: that is the exact condition under which no row is painted with
stale shades.
-/
namespace FantasyConsole

namespace Machine

variable {m m₀ m' : Machine} {fuel : Nat} {frame frame' : Array UInt32}

theorem render_of_dirty (hv : m.vblank fuel = some m₀)
    (hd : Mode.isDirty m₀.board.vdp.mode = true) :
    m.render fuel frame = drawRows fuel (rowCount frame.size) 0 m₀.markPalette frame := by
  rw [render, hv]
  exact if_pos hd

/-- The settled machine shows what the blank program left, with the shades that the row is painted
with. -/
theorem pixel_settleRow (a : Machine) {x y : Nat} (hx : x < 320) (hy : y < 224) :
    a.settleRow.board.vdp.pixel (UInt16.ofNat x) (UInt16.ofNat y) =
      a.board.vdp.composed a.board.vdp.usedShades a.board.vdp.rowSprites x y := by
  rw [Vdp.pixel_eq_composed _ hx hy, settleRow_eq]
  exact (a.board.vdp.agrees_clear.withCaches _ _).composed _ _ x y

/-- Rows that are drawn have a course, and each is painted by the settled machine that left it. -/
theorem exists_course_of_drawRows
    (hr : drawRows fuel (rowCount frame.size) 0 m₀.markPalette frame = some (m', frame')) :
    ∃ c : Course fuel (rowCount frame.size) m₀,
      (∀ y < rowCount frame.size, m₀.painter fuel y = some (c.left y).settleRow) ∧
      ∀ x y, x < 320 → y < 224 → y * 320 + x < frame.size →
        frame'[y * 320 + x]? =
          some ((c.left y).settleRow.board.vdp.pixel (UInt16.ofNat x) (UInt16.ofNat y)) := by
  obtain ⟨c, hc⟩ := exists_course (rowCount_le _) (passRows_of_drawRows hr)
  refine ⟨c, hc, ?_⟩
  intro x y hx hy hi
  obtain ⟨p, hp, hq⟩ := drawRows_pixel hr (lt_rowCount hy hi) hx (by rwa [Nat.zero_add])
  rw [Nat.zero_add] at hq
  have he : some p = some (c.left y).settleRow := hp.symm.trans (hc y (lt_rowCount hy hi))
  rw [hq, Option.some.inj he]

/-- A machine with the standard devices, a mode, one color in its palette, and a program at address
0. Blank programs run there, the horizontal one on row 0. -/
def showing (mode : UInt16) (program : List UInt8) : Machine :=
  let m := standard .standard (.upTo none) #[] none
  { m with
    board.core.memory :=
      program.zipIdx.foldl (fun memory (b, i) => memory.write (UInt16.ofNat i) b) .zero
    board.vdp := (m.board.vdp.setColor (Command.colorIndex 0) 0x0F00).setMode mode }

/-- Words to the video processor: the command that sets color 0, and its operand. -/
def recolor : List UInt8 := [0xA0, 0, 7, 0x80, 0x0C, 0x37, 0xA0, 0, 0x0F, 0x80, 0x0C, 0x37]

/-- The command that overwrites the mode, and the mode of horizontal blank programs alone. -/
def overwrite : List UInt8 := [0xA0, 1, 3, 0x80, 0x0C, 0x37, 0xA0, 0, 0x40, 0x80, 0x0C, 0x37]

theorem sparesVideo_showing (mode : UInt16) (program : List UInt8) :
    (showing mode program).SparesVideo := by
  intro id d hd
  exact sparesVideo_standard .standard (.upTo none) #[] none id d hd

/-- The palette cache of a drawn frame. The row that the machine `p` paints is painted with the
shades of its palette, in every row, exactly if each blank program that ran returned with the
palette marked or with shades that the cache shows. The cache is what the row before was painted
with, and what was there before the frame in the first row. -/
theorem colors_eq_shades_iff (hv : m.vblank fuel = some m₀)
    (hd : Mode.isDirty m₀.board.vdp.mode = true) (hr : m.render fuel frame = some (m', frame')) :
    ∃ c : Course fuel (rowCount frame.size) m₀,
      (∀ y < rowCount frame.size, ∃ p, m₀.painter fuel y = some p ∧
        p.board.vdp.palette = (c.left y).board.vdp.palette ∧
        ∀ x < 320, y * 320 + x < frame.size →
          frame'[y * 320 + x]? = some (p.board.vdp.pixel (UInt16.ofNat x) (UInt16.ofNat y))) ∧
      ((∀ y < rowCount frame.size, ∀ p, m₀.painter fuel y = some p →
          p.board.vdp.colors = p.board.vdp.shades) ↔
        ∀ y < rowCount frame.size, (c.entered y).RunsBlank y → (c.left y).board.vdp.Refreshed) ∧
      (0 < frame.size → ¬ (c.entered 0).RunsBlank 0 →
        (c.left 0).board.vdp.has Mode.paletteWritten = true) ∧
      (m.SparesVideo → ∀ y < rowCount frame.size, (c.left y).board.vdp.colors =
        if y = 0 then m₀.board.vdp.colors else (c.left (y - 1)).board.vdp.usedShades) := by
  rw [render_of_dirty hv hd] at hr
  obtain ⟨c, hp, hc⟩ := exists_course_of_drawRows hr
  have hcolors (a : Machine) : a.settleRow.board.vdp.colors = a.board.vdp.usedShades := by
    rw [settleRow_eq]
    rfl
  have hpalette (a : Machine) : a.settleRow.board.vdp.palette = a.board.vdp.palette := by
    rw [settleRow_eq]
    rfl
  have hshades (a : Machine) : a.settleRow.board.vdp.shades = a.board.vdp.shades := by
    rw [Vdp.shades, Vdp.shades, hpalette]
  refine ⟨c, ?_, ⟨?_, ?_⟩, ?_, ?_⟩
  · intro y hy
    refine ⟨_, hp y hy, hpalette _, ?_⟩
    intro x hx hi
    have hle := rowCount_le frame.size
    exact hc x y hx (by omega) hi
  · intro h y hy _
    have he := h y hy _ (hp y hy)
    rw [hcolors, hshades] at he
    exact (Vdp.usedShades_eq_shades_iff _).1 he
  · intro h y hy p hpy
    rw [hp y hy, Option.some.injEq] at hpy
    subst hpy
    rw [hcolors, hshades]
    exact (Vdp.usedShades_eq_shades_iff _).2 (c.refreshed hy fun r hr => h r (by omega))
  · intro hn hr₀
    have hrow : 0 < rowCount frame.size := lt_rowCount (x := 0) (by decide) (by omega)
    rw [(c.blank 0 hrow).eq_of_not_runs hr₀]
    exact c.has_paletteWritten_first
  · intro hs y hy
    have hs₀ : m₀.SparesVideo := (through_vblank Vdp.kept_caches hv hs).1
    rw [(c.caches_left hs₀ hy).1]
    cases y with
    | zero =>
      rw [if_pos rfl, c.first]
      rfl
    | succ y =>
      rw [if_neg (Nat.succ_ne_zero y), c.colors_next hy]
      rfl

/-- A blank program that overwrites the mode wipes out the mark of the palette: the frame is drawn
without the cache being brought up to date. -/
theorem stale_shades_of_overwrite :
    ((showing 0x1040 overwrite).render 20 #[7]).map (fun r => (r.2[0]?, r.1.board.vdp.shades[0])) =
      some (some 0, 0xF0) := by
  decide +kernel

/-- In that frame the program returns with a palette that is neither marked nor shown by the
cache. -/
theorem colors_eq_shades_iff_overwrite :
    ∃ c : Course 20 1 (showing 0x1040 overwrite),
      (c.entered 0).RunsBlank 0 ∧ ¬ (c.left 0).board.vdp.Refreshed := by
  generalize hm : showing 0x1040 overwrite = m
  have hv : m.vblank 20 = some m := by rw [← hm]; rfl
  have hd : Mode.isDirty m.board.vdp.mode = true := by rw [← hm]; decide +kernel
  have hr : (m.render 20 #[7]).isSome = true := by rw [← hm]; decide +kernel
  have hp : (m.painter 20 0).map (fun p => decide (p.board.vdp.colors = p.board.vdp.shades)) =
      some false := by
    rw [← hm]
    decide +kernel
  obtain ⟨⟨m', frame'⟩, hr⟩ := Option.isSome_iff_exists.1 hr
  obtain ⟨p, hp, hn⟩ := Option.map_eq_some_iff.1 hp
  obtain ⟨c, -, hiff, -⟩ := colors_eq_shades_iff hv hd hr
  refine ⟨c, ?_⟩
  have hs : ¬ ∀ y < 1, (c.entered y).RunsBlank y → (c.left y).board.vdp.Refreshed := by
    intro h
    exact of_decide_eq_false hn (hiff.2 h 0 Nat.one_pos p hp)
  push Not at hs
  obtain ⟨y, hy, hb, hf⟩ := hs
  obtain rfl : y = 0 := by omega
  exact ⟨hb, hf⟩

/-- A drawn frame, pixel by pixel. It is composed from what the blank program of each row left, the
sprites listed when the row began, and the shades the row is painted with; so a pixel has the color
of the palette exactly if these shades agree with the palette on its index, and all have it as long
as each blank program that ran returned with the palette marked or with shades that the cache
shows. -/
theorem render_eq_composed (hs : m.SparesVideo) (hv : m.vblank fuel = some m₀)
    (hd : Mode.isDirty m₀.board.vdp.mode = true) (hr : m.render fuel frame = some (m', frame')) :
    ∃ c : Course fuel (rowCount frame.size) m₀, ∀ x y, x < 320 → y < 224 →
      y * 320 + x < frame.size →
      let v := (c.left y).board.vdp
      let sprites := (c.entered y).board.vdp.listed y
      frame'[y * 320 + x]? = some (v.composed v.usedShades sprites x y) ∧
      (frame'[y * 320 + x]? = some (v.composed v.shades sprites x y) ↔
        shadeOf v.usedShades (v.indexAt sprites x y) = shadeOf v.shades (v.indexAt sprites x y)) ∧
      ((∀ r ≤ y, (c.entered r).RunsBlank r → (c.left r).board.vdp.Refreshed) →
        frame'[y * 320 + x]? = some (v.composed v.shades sprites x y)) := by
  have hs₀ : m₀.SparesVideo := (through_vblank Vdp.kept_caches hv hs).1
  rw [render_of_dirty hv hd] at hr
  obtain ⟨c, -, hc⟩ := exists_course_of_drawRows hr
  refine ⟨c, ?_⟩
  intro x y hx hy hi v sprites
  have hrow : y < rowCount frame.size := lt_rowCount hy hi
  have hp : frame'[y * 320 + x]? = some (v.composed v.usedShades sprites x y) := by
    rw [hc x y hx hy hi, pixel_settleRow _ hx hy, (c.caches_left hs₀ hrow).2,
      c.rowSprites_entered hrow]
  refine ⟨hp, ?_, ?_⟩
  · rw [hp, Option.some.injEq]
    exact v.composed_eq_iff _ _ sprites x y
  · intro hk
    have hu : v.usedShades = v.shades := v.usedShades_eq_shades_iff.2 (c.refreshed hrow hk)
    rw [hp, hu]

/-- The row does not show a color that its blank program has set if the program goes on to overwrite
the mode. -/
theorem stale_pixel_of_overwrite :
    ((showing 0x1040 (recolor ++ overwrite)).render 30 #[7]).map (fun r =>
        (r.2[0]?, r.1.board.vdp.composed r.1.board.vdp.shades (r.1.board.vdp.listed 0) 0 0)) =
      some (some 0, 0xF00000) := by
  decide +kernel

/-- A color that the blank program sets before its row is the color of the row. -/
theorem render_eq_composed_recolor :
    ∃ m' frame', (showing 0x1040 recolor).render 20 #[7] = some (m', frame') ∧
      frame'[0]? = some 0xF00000 ∧
      ∃ c : Course 20 1 (showing 0x1040 recolor),
        let v := (c.left 0).board.vdp
        frame'[0]? = some (v.composed v.shades ((c.entered 0).board.vdp.listed 0) 0 0) := by
  generalize hm : showing 0x1040 recolor = m
  have hs : m.SparesVideo := hm ▸ sparesVideo_showing _ _
  have hv : m.vblank 20 = some m := by rw [← hm]; rfl
  have hd : Mode.isDirty m.board.vdp.mode = true := by rw [← hm]; decide +kernel
  have hr : (m.render 20 #[7]).map (·.2[0]?) = some (some 0xF00000) := by
    rw [← hm]
    decide +kernel
  obtain ⟨⟨m', frame'⟩, hr, he⟩ := Option.map_eq_some_iff.1 hr
  refine ⟨m', frame', hr, he, ?_⟩
  obtain ⟨c, hc⟩ := render_eq_composed hs hv hd hr
  refine ⟨c, (hc 0 0 (by decide) (by decide) (by decide)).2.2 ?_⟩
  intro r hr hb
  obtain rfl : r = 0 := by omega
  have hl := (c.blank 0 (by decide)).runBlank_of_runs hb
  rw [c.first] at hl
  have hw : ((m.onVdp fun v =>
      { v.setMode (v.mode ||| Mode.paletteWritten) with
        rowSprites := v.listed 0 }).runBlank 20 0).map
        (·.board.vdp.has Mode.paletteWritten) = some true := by
    rw [← hm]
    decide +kernel
  have h0 : (m.onVdp fun v => { v.setMode (v.mode ||| Mode.paletteWritten) with
      rowSprites := v.listed 0 }).board.vdp.register Register.hblank = 0 := by
    rw [← hm]
    decide +kernel
  rw [h0] at hl
  rw [hl] at hw
  exact .inl (Option.some.inj hw)

end Machine

end FantasyConsole
