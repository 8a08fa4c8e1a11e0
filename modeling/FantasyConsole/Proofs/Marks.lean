import FantasyConsole.Frame

/-!
# Marks of a write

The top four bits of the mode register say what was written since the last row
was begun. They can be set and cleared without a trace in the other bits. Every
command that writes leaves a mark, also one that overwrites the mode register.
-/
namespace FantasyConsole

namespace Mode

theorem or_and_distrib (a b c : UInt16) : (a ||| b) &&& c = a &&& c ||| b &&& c :=
  UInt16.toBitVec_inj.1 BitVec.and_or_distrib_right

theorem isDirty_or {mode mark : UInt16} (h : mark &&& dirty ≠ 0) :
    isDirty (mode ||| mark) = true := by
  simp only [isDirty, bne_iff_ne, or_and_distrib]
  intro h0
  exact h (UInt16.or_eq_zero_iff.1 h0).2

theorem and_not_dirty_and (mode : UInt16) {flag : UInt16} (h : ~~~dirty &&& flag = flag) :
    mode &&& ~~~dirty &&& flag = mode &&& flag := by
  rw [UInt16.and_assoc, h]

theorem isDirty_and_not_dirty (mode : UInt16) : isDirty (mode &&& ~~~dirty) = false := by
  rw [isDirty, UInt16.and_assoc, UInt16.not_and_self, UInt16.and_zero]
  rfl

theorem or_and_not_dirty (mode : UInt16) {mark : UInt16} (h : mark &&& ~~~dirty = 0) :
    (mode ||| mark) &&& ~~~dirty = mode &&& ~~~dirty := by
  rw [or_and_distrib, h, UInt16.or_zero]

theorem or_mark_and_mark (mode mark : UInt16) : (mode ||| mark) &&& mark = mark := by
  apply UInt16.toBitVec_inj.1
  apply BitVec.eq_of_getLsbD_eq
  intro i _
  simp only [UInt16.toBitVec_and, UInt16.toBitVec_or, BitVec.getLsbD_and, BitVec.getLsbD_or]
  cases mode.toBitVec.getLsbD i <;> cases mark.toBitVec.getLsbD i <;> rfl

end Mode

namespace Vdp

/-- The same contents, but for the command register, the marks and the caches. -/
structure Agrees (v w : Vdp) : Prop where
  memory : v.memory = w.memory
  palette : v.palette = w.palette
  font : v.font = w.font
  registers : ∀ i, i ≠ Register.command → i ≠ Register.mode → v.register i = w.register i
  mode : v.mode &&& ~~~Mode.dirty = w.mode &&& ~~~Mode.dirty

namespace Agrees

variable {u v w : Vdp}

theorem refl (v : Vdp) : v.Agrees v := ⟨rfl, rfl, rfl, fun _ _ _ => rfl, rfl⟩

theorem trans (h : u.Agrees v) (h' : v.Agrees w) : u.Agrees w :=
  ⟨h.memory.trans h'.memory, h.palette.trans h'.palette, h.font.trans h'.font,
    fun i hc hm => (h.registers i hc hm).trans (h'.registers i hc hm), h.mode.trans h'.mode⟩

theorem and_mode (h : v.Agrees w) {flag : UInt16} (hf : ~~~Mode.dirty &&& flag = flag) :
    v.mode &&& flag = w.mode &&& flag := by
  rw [← Mode.and_not_dirty_and v.mode hf, h.mode, Mode.and_not_dirty_and w.mode hf]

theorem has (h : v.Agrees w) {flag : UInt16} (hf : ~~~Mode.dirty &&& flag = flag) :
    v.has flag = w.has flag := by
  rw [Vdp.has, Vdp.has, h.and_mode hf]

end Agrees

theorem agrees_setMode (v : Vdp) {mode : UInt16}
    (h : mode &&& ~~~Mode.dirty = v.mode &&& ~~~Mode.dirty) :
    (v.setMode mode).Agrees v where
  memory := rfl
  palette := rfl
  font := rfl
  registers i _ hm := v.register_setMode mode hm
  mode := by rw [mode_setMode, h]

theorem Agrees.withCaches {v w : Vdp} (h : v.Agrees w) (colors : Vector UInt32 64)
    (sprites : List SpriteEntry) :
    Agrees { v with colors := colors, rowSprites := sprites } w :=
  ⟨h.memory, h.palette, h.font, h.registers, h.mode⟩

theorem agrees_mark (v : Vdp) : (v.setMode (v.mode ||| Mode.paletteWritten)).Agrees v :=
  v.agrees_setMode (Mode.or_and_not_dirty _ (by decide))

theorem agrees_clear (v : Vdp) : (v.setMode (v.mode &&& ~~~Mode.dirty)).Agrees v :=
  v.agrees_setMode (Mode.and_not_dirty_and _ (by decide))

/-! ## Commands -/

theorem mode_perform (v : Vdp) (main : Memory) (c : Command) :
    (v.perform main c).mode = (v.write main c).mode ||| c.mark := by
  rw [perform, mode, register_setRegister, if_neg (by decide)]
  exact mode_setMode _ _

theorem mark_and_dirty_ne_zero {c : Command} (h : c ≠ .nothing) : c.mark &&& Mode.dirty ≠ 0 := by
  cases c with
  | nothing => exact absurd rfl h
  | setRegister i w => exact (by decide : Mode.registersWritten &&& Mode.dirty ≠ 0)
  | setColor i w => exact (by decide : Mode.paletteWritten &&& Mode.dirty ≠ 0)
  | loadFont address => exact (by decide : Mode.fontWritten &&& Mode.dirty ≠ 0)
  | _ => exact (by decide : Mode.memoryWritten &&& Mode.dirty ≠ 0)

/-- Every command that writes leaves a mark. -/
theorem isDirty_perform (v : Vdp) (main : Memory) {c : Command} (h : c ≠ .nothing) :
    Mode.isDirty (v.perform main c).mode = true := by
  rw [mode_perform]
  exact Mode.isDirty_or (mark_and_dirty_ne_zero h)

/-- Contents are kept for as long as no mark is seen. -/
def Unmarked (v w : Vdp) : Prop := Mode.isDirty w.mode = false → w.Agrees v ∧ w.mode = v.mode

theorem unmarked_setCommand (v : Vdp) (w : UInt16) :
    Unmarked v (v.setRegister Register.command w) := by
  intro _
  have hm : (v.setRegister Register.command w).mode = v.mode := by
    rw [mode, register_setRegister, if_neg (by decide)]
    rfl
  refine ⟨⟨rfl, rfl, rfl, ?_, by rw [hm]⟩, hm⟩
  intro i hc _
  rw [register_setRegister, if_neg (Ne.symm hc)]

theorem Unmarked.trans {u v w : Vdp} (h : Unmarked u v) (h' : Unmarked v w) : Unmarked u w := by
  intro hw
  obtain ⟨ha', hm'⟩ := h' hw
  obtain ⟨ha, hm⟩ := h (hm' ▸ hw)
  exact ⟨ha'.trans ha, hm'.trans hm⟩

/-- The one command that leaves no mark does nothing. -/
theorem unmarked_perform (v : Vdp) (main : Memory) (c : Command) :
    Unmarked v (v.perform main c) := by
  by_cases h : c = .nothing
  · subst h
    have hs : v.setMode (v.mode ||| 0) = v := by
      rw [UInt16.or_zero, setMode, setRegister, mode, register]
      simp
    have hp : v.perform main .nothing = v.setRegister Register.command 0 :=
      congrArg (·.setRegister Register.command 0) hs
    rw [hp]
    exact unmarked_setCommand v 0
  · intro hd
    rw [isDirty_perform v main h] at hd
    exact absurd hd (by simp)

end Vdp

end FantasyConsole
