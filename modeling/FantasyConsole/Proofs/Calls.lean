import FantasyConsole.Evaluator

/-!
# What calls keep

A relation between the machine before and the machine after is kept by a call if
each piece of the call keeps it: a note, work on memory and stacks, an access of
the video processor, and one visit to a device. Runs then keep it by induction on
the instructions, and calls that nest by induction on the levels.
-/
namespace FantasyConsole

namespace Handler

variable {α β : Type}

/-- Every change that a handler makes to the board satisfies `U`, and every result `A`. -/
def Holds (U : (Board → Board) → Prop) (A : α → Prop) : Handler α → Prop
  | .done a => A a
  | .inspect next => ∀ b, (next b).Holds U A
  | .update f next => U f ∧ next.Holds U A
  | .dei _ next => ∀ v, (next v).Holds U A
  | .deo _ _ next => next.Holds U A
  | .run _ next => ∀ o, (next o).Holds U A

variable {U : (Board → Board) → Prop} {A : α → Prop} {B : β → Prop}

theorem Holds.mono {h : Handler α} {A' : α → Prop} (hh : h.Holds U A) (ha : ∀ a, A a → A' a) :
    h.Holds U A' := by
  induction h with
  | done a => exact ha a hh
  | inspect next ih => exact fun b => ih b (hh b)
  | update f next ih => exact ⟨hh.1, ih hh.2⟩
  | dei port next ih => exact fun v => ih v (hh v)
  | deo port v next ih => exact ih hh
  | run address next ih => exact fun o => ih o (hh o)

theorem Holds.mono_change {h : Handler α} {U' : (Board → Board) → Prop} (hh : h.Holds U A)
    (hu : ∀ f, U f → U' f) :
    h.Holds U' A := by
  induction h with
  | done a => exact hh
  | inspect next ih => exact fun b => ih b (hh b)
  | update f next ih => exact ⟨hu f hh.1, ih hh.2⟩
  | dei port next ih => exact fun v => ih v (hh v)
  | deo port v next ih => exact ih hh
  | run address next ih => exact fun o => ih o (hh o)

theorem Holds.bind {h : Handler α} {k : α → Handler β} (hh : h.Holds U fun a => (k a).Holds U B) :
    (h.bind k).Holds U B := by
  induction h with
  | done a => exact hh
  | inspect next ih => exact fun b => ih b (hh b)
  | update f next ih => exact ⟨hh.1, ih hh.2⟩
  | dei port next ih => exact fun v => ih v (hh v)
  | deo port v next ih => exact ih hh
  | run address next ih => exact fun o => ih o (hh o)

end Handler

/-- The calls relate the machine before to the machine after. -/
structure Access.Keeps (io : Access) (R : Machine → Machine → Prop) : Prop where
  dei : ∀ {port v m m'}, io.dei port m = some (v, m') → R m m'
  deo : ∀ {port v m m'}, io.deo port v m = some m' → R m m'
  run : ∀ {address o m m'}, io.run address m = some (o, m') → R m m'

theorem Access.keeps_refused (R : Machine → Machine → Prop) : Access.refused.Keeps R :=
  ⟨fun h => (Option.some_ne_none _ h.symm).elim, fun h => (Option.some_ne_none _ h.symm).elim,
    fun h => (Option.some_ne_none _ h.symm).elim⟩

/-- A visit to device `id` before and after: the device is away while its handler runs. -/
def Machine.away (m : Machine) (id : Nat) : Machine := { m with bus := m.bus.setDevice id none }

def Machine.back (m : Machine) (id : Nat) (d : Device) : Machine :=
  { m with bus := m.bus.setDevice id (some d) }

/-- A visit for a read: the device is taken out, its handler is followed, and the device that it
yields is put back. -/
theorem Machine.deiWith_of_device {m : Machine} {port : UInt8} {id : Nat} {d : Device}
    (hr : m.bus.readRoute port = some (.device id)) (hd : m.bus.deviceAt? id = some d)
    (io : Access) :
    m.deiWith io port = ((d.onRead port).follow io (m.away id)).map fun r =>
      (r.1.1, r.2.back id r.1.2) := by
  rw [deiWith, hr]
  dsimp only
  rw [hd, away]
  dsimp only
  cases (d.onRead port).follow io { m with bus := m.bus.setDevice id none } <;> rfl

theorem Machine.deoWith_of_device {m : Machine} {port : UInt8} {id : Nat} {d : Device}
    (hr : m.bus.writeRoute port = some (.device id)) (hd : m.bus.deviceAt? id = some d)
    (io : Access) (v : UInt8) :
    m.deoWith io port v =
      ((d.onWrite port).follow io ({ m with board := m.board.setPort port v }.away id)).map
      fun r => r.2.back id r.1 := by
  rw [deoWith]
  dsimp only
  rw [hr]
  dsimp only
  rw [hd, away]
  dsimp only
  cases (d.onWrite port).follow io
    { m with board := m.board.setPort port v, bus := m.bus.setDevice id none } <;> rfl

/-- A relation that every piece of a call keeps, so that calls keep it. -/
structure Machine.Kept (R : Machine → Machine → Prop) : Prop where
  refl : ∀ m, R m m
  trans : ∀ {a b c}, R a b → R b c → R a c
  note : ∀ m e, R m (m.note e)
  core : ∀ {α : Type} (m : Machine) (f : Core → α × Core), R m (m.onCore f).2
  store : ∀ m port v, R m { m with board := m.board.setPort port v }
  send : ∀ m port, R m { m with board := m.board.sendVdp port }
  fetch : ∀ m port, R m { m with board := (m.board.readVdp port).2 }
  read : ∀ {io : Access} {m m' : Machine} {id : Nat} {d d' : Device} {port v : UInt8}, io.Keeps R →
    m.bus.deviceAt? id = some d → (d.onRead port).follow io (m.away id) = some ((v, d'), m') →
    R m (m'.back id d')
  write : ∀ {io : Access} {m m' : Machine} {id : Nat} {d d' : Device} {port : UInt8}, io.Keeps R →
    m.bus.deviceAt? id = some d → (d.onWrite port).follow io (m.away id) = some (d', m') →
    R m (m'.back id d')

namespace Handler

variable {α : Type} {U : (Board → Board) → Prop} {A : α → Prop} {R : Machine → Machine → Prop}

/-- A handler keeps what the calls it makes and its changes to the board keep. -/
theorem Holds.follow {io : Access} (hio : io.Keeps R) (hrefl : ∀ m, R m m)
    (htrans : ∀ {a b c}, R a b → R b c → R a c)
    (hU : ∀ f, U f → ∀ m, R m { m with board := f m.board })
    {h : Handler α} (hh : h.Holds U A) {m m' : Machine} {a : α}
    (hf : h.follow io m = some (a, m')) :
    A a ∧ R m m' := by
  induction h generalizing m with
  | done b =>
    simp only [Handler.follow, Option.some.injEq, Prod.mk.injEq] at hf
    obtain ⟨rfl, rfl⟩ := hf
    exact ⟨hh, hrefl _⟩
  | inspect next ih => exact ih m.board (hh m.board) hf
  | update f next ih =>
    obtain ⟨ha, hr⟩ := ih hh.2 hf
    exact ⟨ha, htrans (hU f hh.1 m) hr⟩
  | dei port next ih =>
    simp only [Handler.follow] at hf
    split at hf
    · exact absurd hf (by simp)
    · rename_i v m₁ hd
      obtain ⟨ha, hr⟩ := ih v (hh v) hf
      exact ⟨ha, htrans (hio.dei hd) hr⟩
  | deo port v next ih =>
    simp only [Handler.follow] at hf
    split at hf
    · exact absurd hf (by simp)
    · rename_i m₁ hd
      obtain ⟨ha, hr⟩ := ih hh hf
      exact ⟨ha, htrans (hio.deo hd) hr⟩
  | run address next ih =>
    simp only [Handler.follow] at hf
    split at hf
    · exact absurd hf (by simp)
    · rename_i o m₁ hd
      obtain ⟨ha, hr⟩ := ih o (hh o) hf
      exact ⟨ha, htrans (hio.run hd) hr⟩

end Handler

namespace Machine

variable {R : Machine → Machine → Prop} {io : Access}

theorem Kept.deiWith (hR : Kept R) (hio : io.Keeps R) {port v : UInt8} {m m' : Machine}
    (h : m.deiWith io port = some (v, m')) : R m m' := by
  rw [Machine.deiWith] at h
  split at h
  · simp only [Option.some.injEq, Prod.mk.injEq] at h
    obtain ⟨-, rfl⟩ := h
    exact hR.refl m
  · simp only [Option.some.injEq, Prod.mk.injEq] at h
    obtain ⟨-, rfl⟩ := h
    exact hR.fetch m port
  · split at h
    · simp only [Option.some.injEq, Prod.mk.injEq] at h
      obtain ⟨-, rfl⟩ := h
      exact hR.note m _
    · rename_i d hd
      split at h
      · exact absurd h (by simp)
      · rename_i v' d' m₁ hf
        simp only [Option.some.injEq, Prod.mk.injEq] at h
        obtain ⟨-, rfl⟩ := h
        exact hR.read hio hd hf

theorem Kept.deoWith (hR : Kept R) (hio : io.Keeps R) {port v : UInt8} {m m' : Machine}
    (h : m.deoWith io port v = some m') : R m m' := by
  have hs := hR.store m port v
  rw [Machine.deoWith] at h
  simp only at h
  split at h
  · simp only [Option.some.injEq] at h
    subst h
    exact hs
  · simp only [Option.some.injEq] at h
    subst h
    exact hR.trans hs (hR.send { m with board := m.board.setPort port v } port)
  · split at h
    · simp only [Option.some.injEq] at h
      subst h
      exact hR.trans hs (hR.note _ _)
    · rename_i d hd
      split at h
      · exact absurd h (by simp)
      · rename_i d' m₁ hf
        simp only [Option.some.injEq] at h
        subst h
        exact hR.trans hs (hR.write (m := { m with board := m.board.setPort port v }) hio hd hf)

theorem Kept.input (hR : Kept R) (hio : io.Keeps R) {op : Opcode} {m m' : Machine}
    (h : m.input io op = some m') : R m m' := by
  have hc := hR.core m op.takePort
  rw [Machine.input] at h
  simp only at h
  split at h
  · exact absurd h (by simp)
  · rename_i high m₁ h₁
    have hr₁ := hR.trans hc (hio.dei h₁)
    split at h
    · split at h
      · exact absurd h (by simp)
      · rename_i low m₂ h₂
        simp only [Option.some.injEq] at h
        subst h
        exact hR.trans (hR.trans hr₁ (hio.dei h₂)) (hR.core m₂ _)
    · simp only [Option.some.injEq] at h
      subst h
      exact hR.trans hr₁ (hR.core m₁ _)

theorem Kept.output (hR : Kept R) (hio : io.Keeps R) {op : Opcode} {m m' : Machine}
    (h : m.output io op = some m') : R m m' := by
  have hc := hR.core m op.takePortAndValue
  rw [Machine.output] at h
  simp only at h
  split at h
  · split at h
    · exact absurd h (by simp)
    · rename_i m₁ h₁
      exact hR.trans (hR.trans hc (hio.deo h₁)) (hio.deo h)
  · exact hR.trans hc (hio.deo h)

theorem Kept.step (hR : Kept R) (hio : io.Keeps R) {pc : UInt16} {next : Option UInt16}
    {m m' : Machine} (h : m.step io pc = some (next, m')) : R m m' := by
  have hn := hR.note m (.executed pc (m.board.core.memory.read pc))
  rw [Machine.step] at h
  simp only at h
  split at h
  · simp only [Option.some.injEq, Prod.ext_iff] at h
    exact h.2 ▸ hR.trans hn (hR.core _ _)
  · obtain ⟨m₁, h₁, h₂⟩ := Option.map_eq_some_iff.1 h
    simp only [Prod.mk.injEq] at h₂
    exact h₂.2 ▸ hR.trans hn (hR.input hio h₁)
  · obtain ⟨m₁, h₁, h₂⟩ := Option.map_eq_some_iff.1 h
    simp only [Prod.mk.injEq] at h₂
    exact h₂.2 ▸ hR.trans hn (hR.output hio h₁)
  · simp only [Option.some.injEq, Prod.mk.injEq] at h
    exact h.2 ▸ hR.trans hn (hR.core _ _)

theorem Kept.steps (hR : Kept R) (hio : io.Keeps R) {budget : Nat} {pc : UInt16}
    {next : Option UInt16}
    {m m' : Machine} (h : steps io budget pc m = some (next, m')) : R m m' := by
  induction budget generalizing pc m with
  | zero =>
    simp only [Machine.steps, Option.some.injEq, Prod.mk.injEq] at h
    exact h.2 ▸ hR.refl m
  | succ budget ih =>
    simp only [Machine.steps] at h
    split at h
    · exact absurd h (by simp)
    · rename_i m₁ h₁
      simp only [Option.some.injEq, Prod.mk.injEq] at h
      exact h.2 ▸ hR.step hio h₁
    · rename_i pc' m₁ h₁
      exact hR.trans (hR.step hio h₁) (ih h)

theorem Kept.runWith (hR : Kept R) (hio : io.Keeps R) {fuel : Nat} {start : UInt16} {o : Outcome}
    {m m' : Machine} (h : m.runWith io fuel start = some (o, m')) : R m m' := by
  rw [Machine.runWith] at h
  split at h
  · split at h
    · exact absurd h (by simp)
    · rename_i m₁ h₁
      simp only [Option.some.injEq, Prod.mk.injEq] at h
      exact h.2 ▸ hR.steps hio h₁
    · rename_i pc m₁ h₁
      simp only [Option.some.injEq, Prod.mk.injEq] at h
      exact h.2 ▸ hR.trans (hR.steps hio h₁) (hR.note m₁ _)
  · split at h
    · rename_i m₁ h₁
      simp only [Option.some.injEq, Prod.mk.injEq] at h
      exact h.2 ▸ hR.steps hio h₁
    · exact absurd h (by simp)

theorem Kept.above (hR : Kept R) (fuel : Nat) {inner : Access} (hin : inner.Keeps R) :
    (Access.above fuel inner).Keeps R := by
  have hio : Access.Keeps ⟨Machine.deiWith inner, Machine.deoWith inner, inner.run⟩ R :=
    ⟨hR.deiWith hin, hR.deoWith hin, hin.run⟩
  exact ⟨hio.dei, hio.deo, hR.runWith hio⟩

/-- The induction on nesting: the calls of a level keep what those of the level below keep. -/
theorem Kept.level (hR : Kept R) (fuel depth : Nat) : (Access.level fuel depth).Keeps R := by
  induction depth with
  | zero => exact hR.above fuel (Access.keeps_refused R)
  | succ depth ih => exact hR.above fuel ih

theorem Kept.access (hR : Kept R) (m : Machine) (fuel : Nat) : (m.access fuel).Keeps R :=
  hR.level fuel m.bus.attachedCount

end Machine

end FantasyConsole
