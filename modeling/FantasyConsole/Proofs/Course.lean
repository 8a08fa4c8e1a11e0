import FantasyConsole.Proofs.Rows
import FantasyConsole.Proofs.Sparing

/-!
# The course of a frame

Row after row the blank program of a drawn frame may run, and what it leaves is
what the row shows. The course of the frame is that sequence of machines, from the
one that the vertical blank phase left. The shades a row is painted with are its
palette's if the palette is still marked as written when its blank program has
returned, and the cached ones otherwise.
-/
namespace FantasyConsole

namespace Vdp

/-- The shades that a row is painted with, from what its blank program left. -/
def usedShades (v : Vdp) : Vector UInt32 64 :=
  if v.has Mode.paletteWritten then v.shades else v.colors

/-- The palette is marked as written, or the cache shows it. -/
def Refreshed (v : Vdp) : Prop := v.has Mode.paletteWritten = true ∨ v.colors = v.shades

theorem usedShades_eq_shades_iff (v : Vdp) : v.usedShades = v.shades ↔ v.Refreshed := by
  rw [usedShades, Refreshed]
  cases v.has Mode.paletteWritten <;> simp

end Vdp

namespace Machine

def RunsBlank (m : Machine) (y : Nat) : Prop :=
  m.board.vdp.has Mode.hblank = true ∧ (m.board.vdp.register Register.hblankRow).toNat = y

/-- The blank phase of row `y`: the program runs on its row, and other rows leave the machine as it
is. -/
inductive BlankPhase (fuel y : Nat) (m : Machine) : Machine → Prop
  | runs {o : Outcome} {m' : Machine} (h : m.RunsBlank y)
    (hr : m.run fuel (m.board.vdp.register Register.hblank) = some (o, m')) : BlankPhase fuel y m m'
  | rests (h : ¬ m.RunsBlank y) : BlankPhase fuel y m m

theorem BlankPhase.eq_of_not_runs {m m' : Machine} {fuel y : Nat} (h : BlankPhase fuel y m m')
    (hn : ¬ m.RunsBlank y) : m' = m := by
  cases h with
  | runs h _ => exact absurd h hn
  | rests _ => rfl

theorem BlankPhase.runBlank_of_runs {m m' : Machine} {fuel y : Nat} (h : BlankPhase fuel y m m')
    (hb : m.RunsBlank y) : m.runBlank fuel (m.board.vdp.register Register.hblank) = some m' := by
  cases h with
  | runs _ hr =>
    rw [runBlank, hr]
    rfl
  | rests h => exact absurd hb h

theorem runsBlank_iff (m : Machine) {y : Nat} (hy : y < 224) : m.RunsBlank y ↔
    (m.board.vdp.has Mode.hblank && UInt16.ofNat y == m.board.vdp.register Register.hblankRow) =
      true := by
  rw [Bool.and_eq_true, beq_iff_eq, ← UInt16.toNat_inj, UInt16.toNat_ofNat',
    Nat.mod_eq_of_lt (by omega)]
  exact and_congr_right fun _ => eq_comm

theorem blankPhase_of_hblank {m m' : Machine} {fuel y : Nat} (hy : y < 224)
    (h : m.hblank fuel (UInt16.ofNat y) = some m') : BlankPhase fuel y m m' := by
  unfold hblank at h
  dsimp only at h
  split at h
  · rename_i hr
    obtain ⟨⟨o, m₁⟩, h₁, rfl⟩ := Option.map_eq_some_iff.1 h
    exact .runs ((m.runsBlank_iff hy).2 hr) h₁
  · rename_i hr
    cases h
    exact .rests fun hn => hr ((m.runsBlank_iff hy).1 hn)

end Machine

/-- The course of a frame of `rows` rows that is drawn after `m₀`, the machine after the vertical
blank phase: the machines that come to the rows' blank phases and those that leave them. From row to
row only marks and caches change. -/
structure Course (fuel rows : Nat) (m₀ : Machine) where
  entered : Nat → Machine
  left : Nat → Machine
  first : entered 0 = m₀.onVdp fun v =>
    { v.setMode (v.mode ||| Mode.paletteWritten) with rowSprites := v.listed 0 }
  blank : ∀ y < rows, (entered y).BlankPhase fuel y (left y)
  next : ∀ y, y + 1 < rows → entered (y + 1) = (left y).onVdp fun v =>
    { v.setMode (v.mode &&& ~~~Mode.dirty)
      with colors := v.usedShades, rowSprites := v.listed (y + 1) }

namespace Machine

theorem collectSprites_eq (m : Machine) (y : Nat) :
    m.collectSprites (UInt16.ofNat y) = m.onVdp fun v => { v with rowSprites := v.listed y } := by
  unfold collectSprites onVdp Vdp.listed
  dsimp only
  split <;> rfl

theorem collectSprites_onVdp (m : Machine) {f : Vdp → Vdp}
    (h : (f m.board.vdp).Agrees m.board.vdp) (y : Nat) :
    (m.onVdp f).collectSprites (UInt16.ofNat y) =
      m.onVdp fun v => { f v with rowSprites := v.listed y } := by
  rw [collectSprites_eq]
  simp only [onVdp, h.listed]

theorem settleRow_eq (m : Machine) :
    m.settleRow = m.onVdp fun v =>
      { v.setMode (v.mode &&& ~~~Mode.dirty) with colors := v.usedShades } := by
  unfold settleRow onVdp Vdp.usedShades
  dsimp only
  split <;> rfl

theorem exists_of_passRows {fuel rows y : Nat} {m m' : Machine}
    (h : passRows fuel rows 0 m = some m') (hy : y < rows) : ∃ b a, passRows fuel y 0 m = some b ∧
      (b.collectSprites (UInt16.ofNat y)).hblank fuel (UInt16.ofNat y) = some a ∧
      passRows fuel (y + 1) 0 m = some a.settleRow := by
  obtain ⟨b, hb⟩ := passRows_of_le h (Nat.le_of_lt hy)
  obtain ⟨p, hp⟩ := passRows_of_le h (Nat.succ_le_of_lt hy)
  have hs := hp
  rw [passRows_succ, hb, Nat.zero_add] at hs
  obtain ⟨a, ha, -⟩ := Option.map_eq_some_iff.1 hs
  refine ⟨b, a, hb, ha, ?_⟩
  rw [passRows_succ, hb, Nat.zero_add]
  change ((b.collectSprites (UInt16.ofNat y)).hblank fuel (UInt16.ofNat y)).map settleRow = _
  rw [ha]
  rfl

/-- Rows that pass are the course of a frame, and each is painted by the settled machine that left
it. -/
theorem exists_course {fuel rows : Nat} {m₀ m' : Machine} (hr : rows ≤ 224)
    (h : passRows fuel rows 0 m₀.markPalette = some m') :
    ∃ c : Course fuel rows m₀, ∀ y < rows, m₀.painter fuel y = some (c.left y).settleRow := by
  let entered (y : Nat) : Machine :=
    ((passRows fuel y 0 m₀.markPalette).getD m₀).collectSprites (UInt16.ofNat y)
  let left (y : Nat) : Machine := ((entered y).hblank fuel (UInt16.ofNat y)).getD m₀
  have hrow (y : Nat) (hy : y < rows) : (entered y).hblank fuel (UInt16.ofNat y) = some (left y) ∧
      passRows fuel (y + 1) 0 m₀.markPalette = some (left y).settleRow := by
    obtain ⟨b, a, hb, ha, hs⟩ := exists_of_passRows h hy
    have he : entered y = b.collectSprites (UInt16.ofNat y) := by
      simp only [entered, hb, Option.getD_some]
    have hl : left y = a := by
      simp only [left, he, ha, Option.getD_some]
    rw [he, hl]
    exact ⟨ha, hs⟩
  refine ⟨⟨entered, left, ?_, fun y hy => blankPhase_of_hblank (by omega) (hrow y hy).1, ?_⟩,
    fun y hy => (hrow y hy).2⟩
  · have he : entered 0 = m₀.markPalette.collectSprites (UInt16.ofNat 0) := by
      simp only [entered, passRows, Option.getD_some]
    rw [he]
    exact m₀.collectSprites_onVdp m₀.board.vdp.agrees_mark 0
  · intro y hy
    have he : entered (y + 1) = (left y).settleRow.collectSprites (UInt16.ofNat (y + 1)) := by
      simp only [entered, (hrow y (by omega)).2, Option.getD_some]
    rw [he, settleRow_eq]
    exact (left y).collectSprites_onVdp ((left y).board.vdp.agrees_clear.withCaches _ _) (y + 1)

end Machine

namespace Machine

variable {Q : Vdp → Vdp → Prop} {m m' : Machine} {fuel y : Nat}

theorem BlankPhase.through (hQ : Vdp.Kept Q) (h : BlankPhase fuel y m m') : Through Q m m' := by
  cases h with
  | runs _ hr => exact through_run hQ hr
  | rests _ => exact (kept_through hQ).refl m

theorem through_vblank (hQ : Vdp.Kept Q) (h : m.vblank fuel = some m') : Through Q m m' := by
  unfold vblank at h
  dsimp only at h
  split at h
  · obtain ⟨⟨o, m₁⟩, h₁, rfl⟩ := Option.map_eq_some_iff.1 h
    exact through_run hQ h₁
  · cases h
    exact (kept_through hQ).refl m

end Machine

theorem Vdp.kept_caches :
    Vdp.Kept fun v w => w.colors = v.colors ∧ w.rowSprites = v.rowSprites where
  refl v := ⟨rfl, rfl⟩
  trans h h' := ⟨h'.1.trans h.1, h'.2.trans h.2⟩
  receive v main w := by
    rw [Vdp.receive]
    split
    · exact ⟨rfl, rfl⟩
    · cases Command.decode v.pending w <;> exact ⟨rfl, rfl⟩
  answer v := ⟨rfl, rfl⟩

namespace Course

variable {fuel rows : Nat} {m₀ : Machine} (c : Course fuel rows m₀)

theorem agrees_first : (c.entered 0).board.vdp.Agrees m₀.board.vdp := by
  rw [c.first]
  exact m₀.board.vdp.agrees_mark.withCaches _ _

theorem agrees_next {y : Nat} (hy : y + 1 < rows) :
    (c.entered (y + 1)).board.vdp.Agrees (c.left y).board.vdp := by
  rw [c.next y hy]
  exact (c.left y).board.vdp.agrees_clear.withCaches _ _

theorem has_paletteWritten_first : (c.entered 0).board.vdp.has Mode.paletteWritten = true := by
  rw [c.first]
  change (m₀.board.vdp.setMode (m₀.board.vdp.mode ||| Mode.paletteWritten)).mode &&&
    Mode.paletteWritten != 0
  rw [Vdp.mode_setMode, Mode.or_mark_and_mark]
  decide

/-- A row comes to its blank phase with the cached shades that the row before was painted with. -/
theorem colors_next {y : Nat} (hy : y + 1 < rows) :
    (c.entered (y + 1)).board.vdp.colors = (c.left y).board.vdp.usedShades := by
  rw [c.next y hy]
  rfl

theorem rowSprites_entered {y : Nat} (hy : y < rows) :
    (c.entered y).board.vdp.rowSprites = (c.entered y).board.vdp.listed y := by
  cases y with
  | zero =>
    rw [c.agrees_first.listed, c.first]
    rfl
  | succ y =>
    rw [(c.agrees_next hy).listed, c.next y hy]
    rfl

theorem sparesVideo_entered (hs : m₀.SparesVideo) {y : Nat} (hy : y < rows) :
    (c.entered y).SparesVideo := by
  induction y with
  | zero =>
    rw [c.first]
    exact hs
  | succ y ih =>
    rw [c.next y hy]
    exact ((c.blank y (by omega)).through Vdp.kept_caches (ih (by omega))).1

theorem caches_left (hs : m₀.SparesVideo) {y : Nat} (hy : y < rows) :
    (c.left y).board.vdp.colors = (c.entered y).board.vdp.colors ∧
      (c.left y).board.vdp.rowSprites = (c.entered y).board.vdp.rowSprites :=
  ((c.blank y hy).through Vdp.kept_caches (c.sparesVideo_entered hs hy)).2

/-- A row is painted with its palette's shades if no blank program up to it has let the palette go
stale: each that ran returned with the palette marked, or with shades that the cache shows. -/
theorem refreshed {y : Nat} (hy : y < rows)
    (h : ∀ r ≤ y, (c.entered r).RunsBlank r → (c.left r).board.vdp.Refreshed) :
    (c.left y).board.vdp.Refreshed := by
  induction y with
  | zero =>
    by_cases hr : (c.entered 0).RunsBlank 0
    · exact h 0 le_rfl hr
    · rw [(c.blank 0 hy).eq_of_not_runs hr]
      exact .inl c.has_paletteWritten_first
  | succ y ih =>
    by_cases hr : (c.entered (y + 1)).RunsBlank (y + 1)
    · exact h (y + 1) le_rfl hr
    · -- A row that rests shows the palette of the row before, and the cache came from there.
      have hb := ih (by omega) fun r hry => h r (by omega)
      rw [(c.blank (y + 1) hy).eq_of_not_runs hr]
      right
      rw [c.colors_next hy, (Vdp.usedShades_eq_shades_iff _).2 hb]
      exact (c.agrees_next hy).shades.symm

end Course

end FantasyConsole
