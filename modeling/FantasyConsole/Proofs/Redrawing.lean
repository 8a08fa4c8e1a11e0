import FantasyConsole.Proofs.Skipping

/-!
# What a frame touches

Without blank programs a frame is always drawn to its end. It touches the marks and the
caches of the video processor and the cells of the buffer that lie on the screen, and a
short buffer gets the first pixels of a full one. With blank programs a frame returns as
long as they do. It leaves no mark, so that without a vertical one the next frame is
skipped.
-/
namespace FantasyConsole

namespace Machine

variable {m m₀ m₁ m₂ : Machine} {fuel : Nat} {frame frame' full full' : Array UInt32}

theorem vblank_of_clear (hv : m.board.vdp.has Mode.vblank = false) (fuel : Nat) :
    m.vblank fuel = some m := by
  unfold vblank
  dsimp only
  rw [hv]
  exact if_neg Bool.false_ne_true

/-! ## Short buffers -/

/-- The rows that two buffers both have a part of are drawn alike. -/
theorem getElem?_eq_of_drawRows
    (h : drawRows fuel (rowCount frame.size) 0 m frame = some (m₁, frame'))
    (h' : drawRows fuel (rowCount full.size) 0 m full = some (m₂, full')) {i : Nat}
    (hi : i < 320 * 224) (hs : i < frame.size) (hs' : i < full.size) : frame'[i]? = full'[i]? := by
  have he : i / 320 * 320 + i % 320 = i := by omega
  have hx : i % 320 < 320 := Nat.mod_lt _ (by decide)
  have hy : i / 320 < 224 := by omega
  have hrow {size : Nat} (h : i < size) : i / 320 < rowCount size :=
    lt_rowCount (x := i % 320) hy (by omega)
  obtain ⟨p, hp, hpixel⟩ := drawRows_pixel h (hrow hs) hx (by omega)
  obtain ⟨q, hq, hpixel'⟩ := drawRows_pixel h' (hrow hs') hx (by omega)
  rw [Nat.zero_add, he] at hpixel hpixel'
  rw [hp, Option.some.injEq] at hq
  rw [hpixel, hpixel', hq]

theorem getElem?_of_drawRows
    (h : drawRows fuel (rowCount frame.size) 0 m frame = some (m₁, frame')) {i : Nat}
    (hi : 320 * 224 ≤ i) : frame'[i]? = frame[i]? := by
  have hle := rowCount_le frame.size
  exact (drawRows_frame h).2 i (.inr (by omega))

/-! ## Frames without blank programs -/

theorem exists_render_of_clear (hv : m.board.vdp.has Mode.vblank = false)
    (hb : m.board.vdp.has Mode.hblank = false) (fuel : Nat) (frame : Array UInt32) :
    ∃ m' frame', m.render fuel frame = some (m', frame') ∧ m.Retouched m' ∧
      if Mode.isDirty m.board.vdp.mode then
        drawRows fuel (rowCount frame.size) 0 m.markPalette frame = some (m', frame')
      else frame' = frame := by
  have hv₀ := vblank_of_clear hv fuel
  by_cases hd : Mode.isDirty m.board.vdp.mode = true
  · have hm : m.markPalette.board.vdp.has Mode.hblank = false := m.board.vdp.agrees_mark.clear hb
    obtain ⟨m', frame', hr, ht⟩ := drawRows_of_clear fuel hm (rowCount frame.size) 0 frame
    refine ⟨m', frame', (render_of_dirty hv₀ hd).trans hr, m.retouched_markPalette.trans ht, ?_⟩
    rw [if_pos hd]
    exact hr
  · refine ⟨m, frame, render_of_clean hv₀ (by simpa using hd), .refl m, ?_⟩
    rw [if_neg hd]

/-! ## Frames with blank programs -/

/-- The blank programs that a frame of `rows` rows comes to, each with the machine on which it is
run: the vertical one at first, and the horizontal one of a row that the rows before have passed. -/
inductive ComesTo (m : Machine) (fuel rows : Nat) : Machine → UInt16 → Prop
  | vertical (h : m.board.vdp.has Mode.vblank = true) :
    ComesTo m fuel rows m (m.board.vdp.register Register.vblank)
  | horizontal {m₀ b : Machine} {y : Nat} (hv : m.vblank fuel = some m₀)
    (hd : Mode.isDirty m₀.board.vdp.mode = true) (hy : y < rows)
    (hb : passRows fuel y 0 m₀.markPalette = some b)
    (hr : (b.collectSprites (UInt16.ofNat y)).RunsBlank y) :
    ComesTo m fuel rows (b.collectSprites (UInt16.ofNat y))
      ((b.collectSprites (UInt16.ofNat y)).board.vdp.register Register.hblank)

theorem exists_runBlank_of_run {a : UInt16} (h : (m.run fuel a).isSome = true) :
    ∃ m', m.runBlank fuel a = some m' := by
  obtain ⟨r, hr⟩ := Option.isSome_iff_exists.1 h
  refine ⟨r.2, ?_⟩
  rw [runBlank, hr]
  rfl

/-- Rows are drawn to the last if each begins on the machine that the rows before it leave. -/
theorem exists_drawRows_of_beginRow {count y : Nat}
    (h : ∀ k < count, ∀ b, passRows fuel k y m = some b → ∃ a,
      b.beginRow fuel (UInt16.ofNat (y + k)) = some a) :
    ∃ m' frame', drawRows fuel count y m frame = some (m', frame') := by
  induction count generalizing y m frame with
  | zero => exact ⟨m, frame, rfl⟩
  | succ count ih =>
    obtain ⟨a, ha⟩ := h 0 (Nat.succ_pos count) m rfl
    rw [Nat.add_zero] at ha
    have hrest : ∀ k < count, ∀ b, passRows fuel k (y + 1) a = some b →
        ∃ a', b.beginRow fuel (UInt16.ofNat (y + 1 + k)) = some a' := by
      intro k hk b hb
      rw [Nat.add_right_comm]
      apply h (k + 1) (by omega) b
      rw [passRows, ha]
      exact hb
    have hrows : ∃ m' frame', drawRows fuel count (y + 1) a (a.board.vdp.paintRow y frame) =
        some (m', frame') :=
      ih hrest
    rw [drawRows, ha]
    exact hrows

/-- A frame returns if the blank programs that it comes to return. -/
theorem exists_render_of_comesTo
    (h : ∀ n a, m.ComesTo fuel (rowCount frame.size) n a → (n.run fuel a).isSome = true) :
    ∃ m' frame', m.render fuel frame = some (m', frame') := by
  have hv : ∃ m₀, m.vblank fuel = some m₀ := by
    by_cases hv : m.board.vdp.has Mode.vblank = true
    · obtain ⟨m₀, hm₀⟩ := exists_runBlank_of_run (h m _ (.vertical hv))
      refine ⟨m₀, ?_⟩
      unfold vblank
      dsimp only
      rw [if_pos hv, hm₀]
    · exact ⟨m, vblank_of_clear (by simpa using hv) fuel⟩
  obtain ⟨m₀, hv⟩ := hv
  by_cases hd : Mode.isDirty m₀.board.vdp.mode = true
  · rw [render_of_dirty hv hd]
    apply exists_drawRows_of_beginRow
    intro y hy b hb
    rw [Nat.zero_add]
    have hy' : y < 224 := Nat.lt_of_lt_of_le hy (rowCount_le _)
    have hh : ∃ a, (b.collectSprites (UInt16.ofNat y)).hblank fuel (UInt16.ofNat y) = some a := by
      unfold hblank
      dsimp only
      by_cases hr : (b.collectSprites (UInt16.ofNat y)).RunsBlank y
      · rw [if_pos ((runsBlank_iff _ hy').1 hr)]
        exact exists_runBlank_of_run (h _ _ (.horizontal hv hd hy hb hr))
      · rw [if_neg (mt (runsBlank_iff _ hy').2 hr)]
        exact ⟨_, rfl⟩
    obtain ⟨a, ha⟩ := hh
    refine ⟨a.settleRow, ?_⟩
    rw [beginRow, ha]
    rfl
  · exact ⟨m₀, frame, render_of_clean hv (by simpa using hd)⟩

theorem isDirty_of_render {m' : Machine} (hn : 0 < frame.size)
    (hr : m.render fuel frame = some (m', frame')) :
    Mode.isDirty m'.board.vdp.mode = false := by
  cases hv : m.vblank fuel with
  | none =>
    rw [render, hv] at hr
    exact absurd hr (by simp)
  | some m₀ =>
    by_cases hd : Mode.isDirty m₀.board.vdp.mode = true
    · exact clean_of_render hv hd hn hr
    · rw [Bool.not_eq_true] at hd
      rw [render_of_clean hv hd, Option.some.injEq, Prod.mk.injEq] at hr
      rw [← hr.1, hd]

/-- What a frame touches. If the mode asks for no blank program then the frame returns, the machine
differs after it in marks and caches alone, and so does the buffer in the cells on the screen: these
get the pixels that a full buffer gets there, or nothing is drawn in either. If the frame comes to
blank programs then it returns as long as these do. After a frame on a buffer that is not empty no
mark is set, so that unless a vertical blank program is asked for then, one more frame changes
neither a buffer nor the machine. -/
theorem render_touches (m : Machine) (fuel : Nat) (frame : Array UInt32) :
    (m.board.vdp.has Mode.vblank = false → m.board.vdp.has Mode.hblank = false →
      ∃ m' frame', m.render fuel frame = some (m', frame') ∧ m.Retouched m' ∧
        frame'.size = frame.size ∧
        (∀ i, 320 * 224 ≤ i → frame'[i]? = frame[i]?) ∧
        ∀ full : Array UInt32, full.size = 320 * 224 → ∃ n full',
          m.render fuel full = some (n, full') ∧
          if Mode.isDirty m.board.vdp.mode then ∀ i < 320 * 224, i < frame.size →
          frame'[i]? = full'[i]?
          else frame' = frame ∧ full' = full) ∧
    ((∀ n a, m.ComesTo fuel (rowCount frame.size) n a → (n.run fuel a).isSome = true) →
      ∃ m' frame', m.render fuel frame = some (m', frame') ∧
        (0 < frame.size → Mode.isDirty m'.board.vdp.mode = false ∧
          (m'.board.vdp.has Mode.vblank = false →
            ∀ fuel' again, m'.render fuel' again = some (m', again)))) := by
  constructor
  · intro hv hb
    obtain ⟨m', frame', hr, ht, hdrawn⟩ := exists_render_of_clear hv hb fuel frame
    have hfull (full : Array UInt32) := exists_render_of_clear hv hb fuel full
    refine ⟨m', frame', hr, ht, ?_⟩
    by_cases hd : Mode.isDirty m.board.vdp.mode = true
    · rw [if_pos hd] at hdrawn
      refine ⟨(drawRows_frame hdrawn).1, fun i hi => getElem?_of_drawRows hdrawn hi, ?_⟩
      intro full hsize
      obtain ⟨n, full', hr', -, hdrawn'⟩ := hfull full
      rw [if_pos hd] at hdrawn'
      refine ⟨n, full', hr', ?_⟩
      rw [if_pos hd]
      intro i hi hs
      exact getElem?_eq_of_drawRows hdrawn hdrawn' hi hs (hsize ▸ hi)
    · rw [if_neg hd] at hdrawn
      subst hdrawn
      refine ⟨rfl, fun _ _ => rfl, ?_⟩
      intro full _
      obtain ⟨n, full', hr', -, hskipped⟩ := hfull full
      rw [if_neg hd] at hskipped
      refine ⟨n, full', hr', ?_⟩
      rw [if_neg hd]
      exact ⟨rfl, hskipped⟩
  · intro h
    obtain ⟨m', frame', hr⟩ := exists_render_of_comesTo h
    refine ⟨m', frame', hr, ?_⟩
    intro hn
    have hd := isDirty_of_render hn hr
    refine ⟨hd, ?_⟩
    intro hv fuel' again
    exact render_of_clean (vblank_of_clear hv fuel') hd

/-- A frame without blank programs on two cells, and one whose horizontal program writes the
palette: the latter leaves no mark and is not drawn again. -/
theorem render_touches_recolor :
    (∃ m' frame', (showing 0x1F00 []).render 0 #[7, 7] = some (m', frame') ∧ frame'.size = 2 ∧
      (showing 0x1F00 []).Retouched m') ∧
    ∃ m' frame', (showing 0x1040 recolor).render 20 #[7] = some (m', frame') ∧
      frame'[0]? = some 0xF00000 ∧
      Mode.isDirty m'.board.vdp.mode = false ∧ m'.render 0 frame' = some (m', frame') := by
  constructor
  · have hv : (showing 0x1F00 []).board.vdp.has Mode.vblank = false := by decide +kernel
    have hb : (showing 0x1F00 []).board.vdp.has Mode.hblank = false := by decide +kernel
    obtain ⟨m', frame', hr, ht, hsize, -⟩ := (render_touches (showing 0x1F00 []) 0 #[7, 7]).1 hv hb
    exact ⟨m', frame', hr, hsize, ht⟩
  · generalize hm : showing 0x1040 recolor = m
    have hv : m.board.vdp.has Mode.vblank = false := by rw [← hm]; decide +kernel
    have hrun : ((m.markPalette.collectSprites 0).run 20
        ((m.markPalette.collectSprites 0).board.vdp.register Register.hblank)).isSome = true := by
      rw [← hm]
      decide +kernel
    have hreturns : ∀ n a, m.ComesTo 20 1 n a → (n.run 20 a).isSome = true := by
      intro n a h
      cases h with
      | vertical h => exact absurd (h.symm.trans hv) (by simp)
      | horizontal h _ hy hb _ =>
        obtain rfl := Nat.lt_one_iff.1 hy
        rw [vblank_of_clear hv, Option.some.injEq] at h
        subst h
        cases hb
        exact hrun
    obtain ⟨m', frame', hr, hclean⟩ := (render_touches m 20 #[7]).2 hreturns
    have hshown : (m.render 20 #[7]).map (fun r => (r.2[0]?, r.1.board.vdp.has Mode.vblank)) =
        some (some 0xF00000, false) := by
      rw [← hm]
      decide +kernel
    rw [hr, Option.map_some, Option.some.injEq, Prod.mk.injEq] at hshown
    obtain ⟨hd, hagain⟩ := hclean (by decide)
    exact ⟨m', frame', hr, hshown.1, hd, hagain hshown.2 0 frame'⟩

end Machine

end FantasyConsole
