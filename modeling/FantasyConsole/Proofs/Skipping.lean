import FantasyConsole.Proofs.Composition
import Mathlib.Logic.Relation

/-!
# Skipped frames

A frame without any mark of a write is not drawn. That is sound as long as no
horizontal blank program takes part in what is drawn: whatever a host does after a
drawn frame, as long as no mark is seen the contents of the video processor are
those that the last drawn frame showed, and the buffer holds their picture.
-/
namespace FantasyConsole

namespace Vdp

variable {v w : Vdp} {frame frame' : Array UInt32}

/-- The buffer holds the picture without caches in all cells that lie on the screen. -/
def ShownOn (v : Vdp) (frame : Array UInt32) : Prop :=
  ∀ x y, x < 320 → y < 224 → y * 320 + x < frame.size →
    frame[y * 320 + x]? = some (v.composed v.shades (v.listed y) x y)

theorem Agrees.shownOn (h : v.Agrees w) (hw : w.ShownOn frame) : v.ShownOn frame := by
  intro x y hx hy hi
  rw [hw x y hx hy hi, h.composed, h.listed, h.shades]

theorem ShownOn.getElem?_eq (h : v.ShownOn frame) (h' : v.ShownOn frame')
    (hs : frame'.size = frame.size) {i : Nat} (hi : i < 320 * 224) : frame'[i]? = frame[i]? := by
  have he : i / 320 * 320 + i % 320 = i := by omega
  by_cases hn : i < frame.size
  · have hp := h (i % 320) (i / 320) (by omega) (by omega) (by omega)
    have hp' := h' (i % 320) (i / 320) (by omega) (by omega) (by omega)
    rw [he] at hp hp'
    rw [hp, hp']
  · rw [Array.getElem?_eq_none (by omega), Array.getElem?_eq_none (by omega)]

end Vdp

/-! ## Frames without a horizontal blank program -/

theorem Vdp.Agrees.clear {v w : Vdp} (h : v.Agrees w) (hb : w.has Mode.hblank = false) :
    v.has Mode.hblank = false := by
  rw [h.has (by decide), hb]

theorem Machine.not_runsBlank_of_clear {m : Machine}
    (hb : m.board.vdp.has Mode.hblank = false) (y : Nat) :
    ¬ m.RunsBlank y := by
  intro hr
  rw [hr.1] at hb
  exact absurd hb (by simp)

namespace Course

variable {fuel rows : Nat} {m₀ : Machine} (c : Course fuel rows m₀)

/-- If the mode asks for no horizontal blank program then no row changes the contents. -/
theorem agrees_of_clear (hb : m₀.board.vdp.has Mode.hblank = false) {y : Nat} (hy : y < rows) :
    (c.entered y).board.vdp.Agrees m₀.board.vdp ∧ c.left y = c.entered y := by
  have hrests {y : Nat} (hy : y < rows) (ha : (c.entered y).board.vdp.Agrees m₀.board.vdp) :
      c.left y = c.entered y :=
    (c.blank y hy).eq_of_not_runs (Machine.not_runsBlank_of_clear (ha.clear hb) y)
  induction y with
  | zero => exact ⟨c.agrees_first, hrests hy c.agrees_first⟩
  | succ y ih =>
    obtain ⟨ha, hl⟩ := ih (by omega)
    have hn := c.agrees_next hy
    rw [hl] at hn
    exact ⟨hn.trans ha, hrests hy (hn.trans ha)⟩

theorem pixel_of_clear (hb : m₀.board.vdp.has Mode.hblank = false) {x y : Nat} (hy : y < rows)
    (hx : x < 320) (hs : y < 224) :
    (c.left y).settleRow.board.vdp.pixel (UInt16.ofNat x) (UInt16.ofNat y) =
      m₀.board.vdp.composed m₀.board.vdp.shades (m₀.board.vdp.listed y) x y := by
  obtain ⟨ha, hl⟩ := c.agrees_of_clear hb hy
  have hf : (c.left y).board.vdp.Refreshed := by
    refine c.refreshed hy ?_
    intro r hr hruns
    obtain ⟨hg, -⟩ := c.agrees_of_clear hb (y := r) (by omega)
    exact absurd hruns (Machine.not_runsBlank_of_clear (hg.clear hb) r)
  have hshades : (c.left y).board.vdp.usedShades = m₀.board.vdp.shades := by
    rw [(Vdp.usedShades_eq_shades_iff _).2 hf, hl, ha.shades]
  rw [Machine.pixel_settleRow _ hx hs, hshades, hl, c.rowSprites_entered hy, ha.listed, ha.composed]

end Course

namespace Machine

variable {m m₀ m' : Machine} {fuel : Nat} {frame frame' : Array UInt32}

/-- The machine with other marks in the mode register and other caches. -/
def Retouched (m m' : Machine) : Prop :=
  ∃ mode colors sprites, mode &&& ~~~Mode.dirty = m.board.vdp.mode &&& ~~~Mode.dirty ∧
    m' = m.onVdp fun v => { v.setMode mode with colors := colors, rowSprites := sprites }

theorem Retouched.refl (m : Machine) : m.Retouched m :=
  ⟨m.board.vdp.mode, m.board.vdp.colors, m.board.vdp.rowSprites, rfl, by
    simp [onVdp, Vdp.setMode, Vdp.setRegister, Vdp.mode, Vdp.register]⟩

theorem Retouched.trans {m m₁ m₂ : Machine} (h : m.Retouched m₁) (h' : m₁.Retouched m₂) :
    m.Retouched m₂ := by
  obtain ⟨mode, colors, sprites, hm, rfl⟩ := h
  obtain ⟨mode', colors', sprites', hm', rfl⟩ := h'
  have hmode : (m.onVdp fun v =>
      { v.setMode mode with colors := colors, rowSprites := sprites }).board.vdp.mode = mode := m.board.vdp.mode_setMode mode
  rw [hmode] at hm'
  refine ⟨mode', colors', sprites', hm'.trans hm, ?_⟩
  simp [onVdp, Vdp.setMode, Vdp.setRegister]

theorem Retouched.agrees {m m' : Machine} (h : m.Retouched m') :
    m'.board.vdp.Agrees m.board.vdp := by
  obtain ⟨mode, colors, sprites, hm, rfl⟩ := h
  exact (m.board.vdp.agrees_setMode hm).withCaches colors sprites

theorem Retouched.bus {m m' : Machine} (h : m.Retouched m') : m'.bus = m.bus := by
  obtain ⟨mode, colors, sprites, hm, rfl⟩ := h
  rfl

theorem retouched_markPalette (m : Machine) : m.Retouched m.markPalette :=
  ⟨_, m.board.vdp.colors, m.board.vdp.rowSprites, Mode.or_and_not_dirty _ (by decide), rfl⟩

theorem beginRow_of_clear (hb : m.board.vdp.has Mode.hblank = false) (y : Nat) :
    ∃ a, m.beginRow fuel (UInt16.ofNat y) = some a ∧ m.Retouched a := by
  have hc : (m.collectSprites (UInt16.ofNat y)).hblank fuel (UInt16.ofNat y) =
      some (m.collectSprites (UInt16.ofNat y)) := by
    have hn : (m.collectSprites (UInt16.ofNat y)).board.vdp.has Mode.hblank = false := by
      rw [collectSprites_eq]
      exact hb
    unfold hblank
    dsimp only
    rw [hn, Bool.false_and]
    exact if_neg Bool.false_ne_true
  refine ⟨(m.collectSprites (UInt16.ofNat y)).settleRow, ?_, ?_⟩
  · rw [beginRow, hc]
    rfl
  · rw [settleRow_eq, collectSprites_eq]
    exact ⟨_, _, _, Mode.and_not_dirty_and _ (by decide), rfl⟩

theorem drawRows_of_clear (fuel : Nat) (hb : m.board.vdp.has Mode.hblank = false) (count y : Nat)
    (frame : Array UInt32) :
    ∃ m' frame', drawRows fuel count y m frame = some (m', frame') ∧ m.Retouched m' := by
  induction count generalizing y m frame with
  | zero => exact ⟨m, frame, rfl, .refl m⟩
  | succ count ih =>
    obtain ⟨a, ha, hg⟩ := beginRow_of_clear hb y
    obtain ⟨m', frame', hr, hg'⟩ := ih (hg.agrees.clear hb) (y + 1) (a.board.vdp.paintRow y frame)
    refine ⟨m', frame', ?_, hg.trans hg'⟩
    rw [drawRows, ha]
    exact hr

theorem shownOn_of_clear (hb : m₀.board.vdp.has Mode.hblank = false)
    (hr : drawRows fuel (rowCount frame.size) 0 m₀.markPalette frame = some (m', frame')) :
    m₀.board.vdp.ShownOn frame' := by
  obtain ⟨c, -, hc⟩ := exists_course_of_drawRows hr
  intro x y hx hy hi
  rw [(drawRows_frame hr).1] at hi
  rw [hc x y hx hy hi, c.pixel_of_clear hb (lt_rowCount hy hi) hx hy]

/-- The contents from which a frame was drawn, drawn from scratch into any buffer of its size. -/
theorem paint_of_clear (hb : m₀.board.vdp.has Mode.hblank = false) (fuel : Nat)
    (frame : Array UInt32) :
    ∃ picture, m₀.markPalette.paint fuel frame = some picture ∧ picture.size = frame.size ∧
      m₀.board.vdp.ShownOn picture := by
  have hm : m₀.markPalette.board.vdp.has Mode.hblank = false := m₀.board.vdp.agrees_mark.clear hb
  obtain ⟨m', picture, hr, -⟩ := drawRows_of_clear fuel hm (rowCount frame.size) 0 frame
  refine ⟨picture, ?_, (drawRows_frame hr).1, shownOn_of_clear hb hr⟩
  rw [paint, hr]
  rfl

/-- A frame that is drawn without horizontal blank programs shows the contents after its vertical
blank phase, and keeps them and the devices. -/
theorem render_of_clear (hv : m.vblank fuel = some m₀) (hd : Mode.isDirty m₀.board.vdp.mode = true)
    (hb : m₀.board.vdp.has Mode.hblank = false) (hr : m.render fuel frame = some (m', frame')) :
    m'.board.vdp.Agrees m₀.board.vdp ∧ m'.bus = m₀.bus ∧ m₀.board.vdp.ShownOn frame' := by
  rw [render_of_dirty hv hd] at hr
  have ha : m₀.markPalette.board.vdp.Agrees m₀.board.vdp := m₀.board.vdp.agrees_mark
  have hm : m₀.markPalette.board.vdp.has Mode.hblank = false := ha.clear hb
  obtain ⟨a, picture, hp, hg⟩ := drawRows_of_clear fuel hm (rowCount frame.size) 0 frame
  rw [hr, Option.some.injEq, Prod.mk.injEq] at hp
  rw [hp.1]
  exact ⟨hg.agrees.trans ha, hg.bus, shownOn_of_clear hb hr⟩

theorem render_of_clean (hv : m.vblank fuel = some m₀)
    (hd : Mode.isDirty m₀.board.vdp.mode = false) :
    m.render fuel frame = some (m₀, frame) := by
  rw [render, hv]
  exact if_neg (by simp [hd])

/-- Right after a frame was drawn into a buffer that is not empty no mark is set, so the next one is
skipped unless something is written before. -/
theorem clean_of_render (hv : m.vblank fuel = some m₀) (hd : Mode.isDirty m₀.board.vdp.mode = true)
    (hn : 0 < frame.size) (hr : m.render fuel frame = some (m', frame')) :
    Mode.isDirty m'.board.vdp.mode = false := by
  rw [render_of_dirty hv hd] at hr
  have hp := passRows_of_drawRows hr
  obtain ⟨n, hrows⟩ :=
    Nat.exists_eq_succ_of_ne_zero (lt_rowCount (x := 0) (y := 0) (by decide) hn).ne'
  rw [hrows] at hp
  obtain ⟨b, a, -, -, hs⟩ := exists_of_passRows hp (Nat.lt_succ_self n)
  rw [hs, Option.some.injEq] at hp
  rw [← hp, settleRow_eq]
  change Mode.isDirty (a.board.vdp.setMode (a.board.vdp.mode &&& ~~~Mode.dirty)).mode = false
  rw [Vdp.mode_setMode, Mode.isDirty_and_not_dirty]

end Machine

/-! ## Histories -/

theorem Vdp.kept_unmarked : Vdp.Kept Vdp.Unmarked where
  refl v := fun _ => ⟨.refl v, rfl⟩
  trans h h' := h.trans h'
  receive v main w := by
    rw [Vdp.receive]
    split
    · exact v.unmarked_setCommand w
    · exact v.unmarked_perform main _
  answer v := v.unmarked_setCommand 0

/-- A machine with its buffer, and the video processor as the last drawn frame found it when its
vertical blank phase was over. -/
structure Moment where
  machine : Machine
  frame : Array UInt32
  drawn : Vdp

namespace Moment

/-- What a host does: it reads and writes ports and runs programs, and it renders frames. The frames
that are drawn have no horizontal blank program. Each act has fuel of its own. -/
inductive Act : Moment → Moment → Prop
  | read {m m' : Machine} {frame : Array UInt32} {v : Vdp} {fuel : Nat} {port b : UInt8}
    (h : m.dei fuel port = some (b, m')) : Act ⟨m, frame, v⟩ ⟨m', frame, v⟩
  | write {m m' : Machine} {frame : Array UInt32} {v : Vdp} {fuel : Nat} {port b : UInt8}
    (h : m.deo fuel port b = some m') : Act ⟨m, frame, v⟩ ⟨m', frame, v⟩
  | run {m m' : Machine} {frame : Array UInt32} {v : Vdp} {fuel : Nat}
      {start : UInt16} {o : Outcome}
    (h : m.run fuel start = some (o, m')) : Act ⟨m, frame, v⟩ ⟨m', frame, v⟩
  | draw {m m₀ m' : Machine} {frame frame' : Array UInt32} {v : Vdp} {fuel : Nat}
    (hv : m.vblank fuel = some m₀) (hd : Mode.isDirty m₀.board.vdp.mode = true)
    (hb : m₀.board.vdp.has Mode.hblank = false) (hr : m.render fuel frame = some (m', frame')) :
    Act ⟨m, frame, v⟩ ⟨m', frame', m₀.board.vdp⟩
  | skip {m m₀ m' : Machine} {frame frame' : Array UInt32} {v : Vdp} {fuel : Nat}
    (hv : m.vblank fuel = some m₀) (hd : Mode.isDirty m₀.board.vdp.mode = false)
    (hr : m.render fuel frame = some (m', frame')) : Act ⟨m, frame, v⟩ ⟨m', frame', v⟩

/-- What every act preserves: the contents that were drawn are shown, and they are there as long as
no mark is seen. -/
structure Faithful (s : Moment) : Prop where
  spares : s.machine.SparesVideo
  clear : s.drawn.has Mode.hblank = false
  shown : s.drawn.ShownOn s.frame
  kept : Mode.isDirty s.machine.board.vdp.mode = false → s.machine.board.vdp.Agrees s.drawn

variable {s t : Moment}

theorem Faithful.through {m m' : Machine} {frame : Array UInt32} {v : Vdp}
    (hs : Faithful ⟨m, frame, v⟩) (h : m.Through Vdp.Unmarked m') : Faithful ⟨m', frame, v⟩ := by
  obtain ⟨hs', hu⟩ := h hs.spares
  refine ⟨hs', hs.clear, hs.shown, ?_⟩
  intro hd
  obtain ⟨ha, hm⟩ := hu hd
  exact ha.trans (hs.kept (hm ▸ hd))

theorem faithful_of_render {m m₀ m' : Machine} {fuel : Nat} {frame frame' : Array UInt32}
    (hs : m.SparesVideo) (hv : m.vblank fuel = some m₀) (hd : Mode.isDirty m₀.board.vdp.mode = true)
    (hb : m₀.board.vdp.has Mode.hblank = false) (hr : m.render fuel frame = some (m', frame')) :
    Faithful ⟨m', frame', m₀.board.vdp⟩ := by
  obtain ⟨ha, hbus, hp⟩ := Machine.render_of_clear hv hd hb hr
  have hs₀ := (Machine.through_vblank Vdp.kept_unmarked hv hs).1
  refine ⟨?_, hb, hp, fun _ => ha⟩
  intro id d hd
  rw [hbus] at hd
  exact hs₀ id d hd

theorem Act.faithful (h : Act s t) (hs : s.Faithful) : t.Faithful := by
  cases h with
  | read h => exact hs.through (Machine.through_dei Vdp.kept_unmarked h)
  | write h => exact hs.through (Machine.through_deo Vdp.kept_unmarked h)
  | run h => exact hs.through (Machine.through_run Vdp.kept_unmarked h)
  | draw hv hd hb hr => exact faithful_of_render hs.spares hv hd hb hr
  | skip hv hd hr =>
    rw [Machine.render_of_clean hv hd, Option.some.injEq, Prod.mk.injEq] at hr
    obtain ⟨rfl, rfl⟩ := hr
    exact hs.through (Machine.through_vblank Vdp.kept_unmarked hv)

theorem faithful_of_acts (h : Relation.ReflTransGen Act s t) (hs : s.Faithful) : t.Faithful := by
  induction h with
  | refl => exact hs
  | tail _ h ih => exact h.faithful ih

/-- Skipping a frame is sound. Whatever happens after a frame that was drawn without horizontal
blank programs, at each moment at which no mark is set the video processor has the contents that the
last drawn frame had, and drawing them from scratch gives the pixels that the buffer holds. -/
theorem shown_while_clean {m m₀ m' : Machine} {fuel : Nat} {frame frame' : Array UInt32}
    (hs : m.SparesVideo) (hv : m.vblank fuel = some m₀) (hd : Mode.isDirty m₀.board.vdp.mode = true)
    (hb : m₀.board.vdp.has Mode.hblank = false) (hr : m.render fuel frame = some (m', frame'))
    (h : Relation.ReflTransGen Act ⟨m', frame', m₀.board.vdp⟩ s)
    (hc : Mode.isDirty s.machine.board.vdp.mode = false) :
    s.machine.board.vdp.Agrees s.drawn ∧
      ∀ (fuel : Nat) (blank : Array UInt32), blank.size = s.frame.size →
        ∃ picture, s.machine.markPalette.paint fuel blank = some picture ∧
          ∀ i < 320 * 224, picture[i]? = s.frame[i]? := by
  have hf := faithful_of_acts h (faithful_of_render hs hv hd hb hr)
  have ha := hf.kept hc
  refine ⟨ha, ?_⟩
  intro fuel blank hsize
  obtain ⟨picture, hp, hsize', hshown⟩ := Machine.paint_of_clear (ha.clear hf.clear) fuel blank
  refine ⟨picture, hp, ?_⟩
  intro i hi
  exact (ha.shownOn hf.shown).getElem?_eq hshown (hsize'.trans hsize) hi

/-- A command that waits and is given up leaves no mark, and the next frame is skipped. -/
theorem shown_while_clean_given_up :
    ∃ m' frame' s, (Machine.showing 0x1000 []).render 20 #[7] = some (m', frame') ∧
      Relation.ReflTransGen Act ⟨m', frame', (Machine.showing 0x1000 []).board.vdp⟩ s ∧
      Mode.isDirty s.machine.board.vdp.mode = false ∧
      ∃ picture, s.machine.markPalette.paint 20 #[5] = some picture ∧
        picture[0]? = s.frame[0]? := by
  generalize hm : Machine.showing 0x1000 [] = m
  have hs : m.SparesVideo := hm ▸ Machine.sparesVideo_showing _ _
  have hv : m.vblank 20 = some m := by rw [← hm]; rfl
  have hd : Mode.isDirty m.board.vdp.mode = true := by rw [← hm]; decide +kernel
  have hb : m.board.vdp.has Mode.hblank = false := by rw [← hm]; decide +kernel
  have hacts : ((m.render 20 #[7]).bind fun r => (r.1.deo 20 Device.vdpWritePort 7).bind fun a =>
      (a.dei 20 Device.vdpReadPort).bind fun b => (b.2.vblank 20).map fun c =>
        (a.board.vdp.pending, Mode.isDirty c.board.vdp.mode, r.2.size)) = some (7, false, 1) := by
    rw [← hm]
    decide +kernel
  obtain ⟨⟨m', frame'⟩, hr, hacts⟩ := Option.bind_eq_some_iff.1 hacts
  obtain ⟨a, ha, hacts⟩ := Option.bind_eq_some_iff.1 hacts
  obtain ⟨⟨v, b⟩, hb', hacts⟩ := Option.bind_eq_some_iff.1 hacts
  obtain ⟨c, hv', he⟩ := Option.map_eq_some_iff.1 hacts
  simp only [Prod.mk.injEq] at he
  obtain ⟨-, hc, hsize⟩ := he
  have h : Relation.ReflTransGen Act ⟨m', frame', m.board.vdp⟩ ⟨c, frame', m.board.vdp⟩ :=
    ((Relation.ReflTransGen.single (.write ha)).tail (.read hb')).tail
      (.skip hv' hc (Machine.render_of_clean hv' hc))
  obtain ⟨-, hpaint⟩ := shown_while_clean hs hv hd hb hr h hc
  obtain ⟨picture, hp, hi⟩ := hpaint 20 #[5] hsize.symm
  exact ⟨m', frame', _, hr, h, hc, picture, hp, hi 0 (by decide)⟩

end Moment

end FantasyConsole
