import FantasyConsole.Proofs.Attachment
import FantasyConsole.Proofs.Course
import FantasyConsole.Proofs.Programs

/-!
# Nested calls

A request of a host begins calls, calls lead to others through handlers and through
programs, and so on. Each call that is under way is nested in some handlers that are
still running. Their devices are exactly the ones that are away, so no handler of
such a device is entered again: an access to one of its ports is an access to
storage. When a request is done all devices are back.
-/
namespace FantasyConsole

/-- What answers the calls of a handler, with `count` devices in their slots when the handler is
entered. -/
def Access.below (fuel : Nat) : (count : Nat) → Access
  | 0 => .refused
  | count + 1 => .level fuel count

theorem Access.level_eq_above (fuel count : Nat) :
    Access.level fuel count = .above fuel (.below fuel count) := by
  cases count <;> rfl

/-- What answers the calls of instructions, with the calls of handlers answered by `inner`. -/
def Access.instructions (inner : Access) : Access :=
  ⟨Machine.deiWith inner, Machine.deoWith inner, inner.run⟩

theorem Access.agree_instructions (fuel : Nat) (inner : Access) {c : Call} (hc : c.IsPort)
    (m : Machine) :
    inner.instructions.Agree (.above fuel inner) c m := by
  cases c with
  | dei port => rfl
  | deo port v => rfl
  | run start => exact hc.elim

theorem Machine.steps_instructions (fuel : Nat) (inner : Access) (budget : Nat) (pc : UInt16)
    (m : Machine) :
    steps inner.instructions budget pc m = steps (.above fuel inner) budget pc m := by
  rw [← Handler.follow_program, ← Handler.follow_program]
  exact Handler.follow_congr fun p hp =>
    Access.agree_instructions fuel inner ((Handler.calling_program budget pc).of_mem_calls hp) p.2

namespace Machine

variable {fuel : Nat} {m m' : Machine}

/-- What answers the calls of a handler that is entered on this machine. -/
def inner (m : Machine) (fuel : Nat) : Access := .below fuel m.bus.attachedCount

theorem access_eq_above (m : Machine) (fuel : Nat) : m.access fuel = .above fuel (m.inner fuel) :=
  Access.level_eq_above fuel m.bus.attachedCount

def budget (m : Machine) (fuel : Nat) : Nat :=
  match m.config.stepLimit with
  | some limit => limit.toNat
  | none => fuel

/-! ## Which calls a call leads to -/

/-- The call enters a handler of device `id`. -/
def Enters (m : Machine) : Call → Nat → Prop
  | .dei port, id => m.bus.readRoute port = some (.device id) ∧ (m.bus.deviceAt? id).isSome
  | .deo port _, id => m.bus.writeRoute port = some (.device id) ∧ (m.bus.deviceAt? id).isSome
  | .run _, _ => False

/-- A call leads to the calls of the handler that it enters, if any, and a run to those of its
instructions. -/
inductive Makes (fuel : Nat) (m : Machine) : Call → Option Nat → Call → Machine → Prop
  | read {port : UInt8} {id : Nat} {d : Device} {c : Call} {n : Machine}
    (hr : m.bus.readRoute port = some (.device id)) (hd : m.bus.deviceAt? id = some d)
    (hc : (c, n) ∈ (d.onRead port).calls (m.inner fuel) (m.away id)) :
    Makes fuel m (.dei port) (some id) c n
  | write {port v : UInt8} {id : Nat} {d : Device} {c : Call} {n : Machine}
    (hr : m.bus.writeRoute port = some (.device id)) (hd : m.bus.deviceAt? id = some d)
    (hc : (c, n) ∈ (d.onWrite port).calls (m.inner fuel)
      ({ m with board := m.board.setPort port v }.away id)) :
    Makes fuel m (.deo port v) (some id) c n
  | run {start : UInt16} {c : Call} {n : Machine}
    (hc : (c, n) ∈ (Handler.program (m.budget fuel) start).calls (m.inner fuel).instructions m) :
    Makes fuel m (.run start) none c n

end Machine

/-- What a host asks of a machine. -/
inductive Request where
  | dei (port : UInt8)
  | deo (port value : UInt8)
  | run (start : UInt16)
  | press (code : UInt8)
  | render (frame : Array UInt32)

def Request.perform (fuel : Nat) : Request → Machine → Option Machine
  | .dei port, m => (m.dei fuel port).map (·.2)
  | .deo port v, m => m.deo fuel port v
  | .run start, m => (m.run fuel start).map (·.2)
  | .press code, m => m.press fuel code
  | .render frame, m => (m.render fuel frame).map (·.1)

namespace Machine

variable {fuel : Nat} {m m' : Machine}

/-- The machine on which a key event runs the program of controller `id`. -/
def latched (m : Machine) (id : Nat) (c : Controller) (code : UInt8) : Machine :=
  m.back id (.controller (c.latch code))

/-- The calls that a request begins: a key event runs the controller's program, and a frame runs the
blank programs. -/
inductive Begins (fuel : Nat) (m : Machine) : Request → Call → Machine → Prop
  | dei (port : UInt8) : Begins fuel m (.dei port) (.dei port) m
  | deo (port v : UInt8) : Begins fuel m (.deo port v) (.deo port v) m
  | run (start : UInt16) : Begins fuel m (.run start) (.run start) m
  | press {id : Nat} {c : Controller} (code : UInt8) (hi : m.controller = some id)
    (hc : m.bus.deviceAt? id = some (.controller c)) (hv : c.vector ≠ 0) :
    Begins fuel m (.press code) (.run c.vector) (m.latched id c code)
  | vblank (frame : Array UInt32) (h : m.board.vdp.has Mode.vblank = true) :
    Begins fuel m (.render frame) (.run (m.board.vdp.register Register.vblank)) m
  | hblank {frame : Array UInt32} {m₀ a b : Machine} {y : Nat} (hv : m.vblank fuel = some m₀)
    (hd : Mode.isDirty m₀.board.vdp.mode = true) (hy : y < rowCount frame.size)
    (hp : passRows fuel y 0 m₀.markPalette = some a) (hb : b = a.collectSprites (UInt16.ofNat y))
    (hr : b.RunsBlank y) :
    Begins fuel m (.render frame) (.run (b.board.vdp.register Register.hblank)) b

/-- The calls under way below a request, each with the devices whose handlers it is nested in, the
innermost first. -/
inductive Underway (fuel : Nat) (q : Request) (m : Machine) : List Nat → Call → Machine → Prop
  | host {c : Call} {n : Machine} (h : m.Begins fuel q c n) : Underway fuel q m [] c n
  | nested {active : List Nat} {c c' : Call} {n n' : Machine} {entered : Option Nat}
    (h : Underway fuel q m active c n) (hm : n.Makes fuel c entered c' n') :
    Underway fuel q m (entered.toList ++ active) c' n'

/-! ## Requests leave the setup -/

theorem sameSetup_onVdp (m : Machine) (f : Vdp → Vdp) : SameSetup m (m.onVdp f) := ⟨rfl, rfl, rfl⟩

theorem sameSetup_run {start : UInt16} {o : Outcome} (h : m.run fuel start = some (o, m')) :
    SameSetup m m' :=
  (kept_sameSetup.access m fuel).run h

theorem sameSetup_runBlank {start : UInt16} (h : m.runBlank fuel start = some m') :
    SameSetup m m' := by
  obtain ⟨⟨o, m₁⟩, h₁, rfl⟩ := Option.map_eq_some_iff.1 h
  exact sameSetup_run h₁

theorem sameSetup_vblank (h : m.vblank fuel = some m') : SameSetup m m' := by
  unfold vblank at h
  dsimp only at h
  split at h
  · exact sameSetup_runBlank h
  · cases h
    exact .refl m

theorem sameSetup_hblank {y : UInt16} (h : m.hblank fuel y = some m') : SameSetup m m' := by
  unfold hblank at h
  dsimp only at h
  split at h
  · exact sameSetup_runBlank h
  · cases h
    exact .refl m

theorem sameSetup_beginRow {y : UInt16} (h : m.beginRow fuel y = some m') : SameSetup m m' := by
  obtain ⟨a, ha, rfl⟩ := Option.map_eq_some_iff.1 h
  exact ((m.sameSetup_onVdp _).trans (sameSetup_hblank ha)).trans (a.sameSetup_onVdp _)

theorem sameSetup_passRows {count y : Nat} (h : passRows fuel count y m = some m') :
    SameSetup m m' := by
  induction count generalizing y m with
  | zero =>
    cases h
    exact .refl _
  | succ count ih =>
    rw [passRows] at h
    split at h
    · exact absurd h (by simp)
    · rename_i a ha
      exact (sameSetup_beginRow ha).trans (ih h)

theorem sameSetup_render {frame frame' : Array UInt32}
    (h : m.render fuel frame = some (m', frame')) :
    SameSetup m m' := by
  unfold render at h
  split at h
  · exact absurd h (by simp)
  · rename_i m₀ hv
    split at h
    · have hr := passRows_of_drawRows h
      exact ((sameSetup_vblank hv).trans (m₀.sameSetup_onVdp _)).trans (sameSetup_passRows hr)
    · cases h
      exact sameSetup_vblank hv

theorem sameSetup_latched {id : Nat} {c : Controller}
    (hc : m.bus.deviceAt? id = some (.controller c))
    (code : UInt8) : SameSetup m (m.latched id c code) :=
  have ha : SameSetup (m.away id) (m.away id) := .refl _
  have hb : (m.away id).back id (.controller (c.latch code)) = m.latched id c code := by
    simp only [back, away, latched, Bus.setDevice_setDevice]
  hb ▸ ha.back hc rfl

theorem sameSetup_press {code : UInt8} (h : m.press fuel code = some m') : SameSetup m m' := by
  unfold press at h
  split at h
  · cases h
    exact ⟨rfl, rfl, rfl⟩
  · split at h
    · rename_i c hc
      have hl := sameSetup_latched hc code
      dsimp only at h
      split at h
      · cases h
        exact hl
      · obtain ⟨⟨o, m₁⟩, h₁, rfl⟩ := Option.map_eq_some_iff.1 h
        exact hl.trans (sameSetup_run h₁)
    · cases h
      exact .refl m

theorem sameSetup_perform {q : Request} (h : q.perform fuel m = some m') : SameSetup m m' := by
  cases q with
  | dei port =>
    obtain ⟨⟨v, m₁⟩, h₁, rfl⟩ := Option.map_eq_some_iff.1 h
    exact (kept_sameSetup.access m fuel).dei h₁
  | deo port v => exact (kept_sameSetup.access m fuel).deo h
  | run start => exact sameSetup_runBlank h
  | press code => exact sameSetup_press h
  | render frame =>
    obtain ⟨⟨m₁, frame'⟩, h₁, rfl⟩ := Option.map_eq_some_iff.1 h
    exact sameSetup_render h₁

/-! ## Devices that are away -/

theorem keeps_inner (m : Machine) (fuel : Nat) : (m.inner fuel).Keeps SameSetup := by
  rw [inner]
  cases m.bus.attachedCount with
  | zero => exact Access.keeps_refused SameSetup
  | succ count => exact kept_sameSetup.level fuel count

theorem keeps_instructions (m : Machine) (fuel : Nat) :
    (m.inner fuel).instructions.Keeps SameSetup :=
  ⟨kept_sameSetup.deiWith (m.keeps_inner fuel), kept_sameSetup.deoWith (m.keeps_inner fuel),
    (m.keeps_inner fuel).run⟩

/-- The calls of a handler are made on machines with the setup that the handler was entered with. -/
theorem sameSetup_of_mem_calls {io : Access} {α : Type} {h : Handler α} {n : Machine} {c : Call}
    (hio : io.Keeps SameSetup) (hc : (c, n) ∈ h.calls io m) : SameSetup m n :=
  Handler.rel_of_mem_calls hio SameSetup.refl SameSetup.trans (fun _ _ => ⟨rfl, rfl, rfl⟩) hc

theorem Makes.enters {c c' : Call} {id : Nat} {n : Machine} (h : m.Makes fuel c (some id) c' n) :
    m.Enters c id := by
  cases h with
  | read hr hd _ => exact ⟨hr, Option.isSome_of_eq_some hd⟩
  | write hr hd _ => exact ⟨hr, Option.isSome_of_eq_some hd⟩

theorem Enters.present {c : Call} {id : Nat} (h : m.Enters c id) :
    ∃ d, m.bus.deviceAt? id = some d := by
  cases c with
  | dei port => exact Option.isSome_iff_exists.1 h.2
  | deo port v => exact Option.isSome_iff_exists.1 h.2
  | run start => exact h.elim

/-- Calls of a handler of device `id` are made while it is away. -/
theorem Makes.sameSetup_away {c c' : Call} {id : Nat} {n : Machine}
    (h : m.Makes fuel c (some id) c' n) :
    SameSetup (m.away id) n := by
  cases h with
  | read hr hd hc => exact sameSetup_of_mem_calls (m.keeps_inner fuel) hc
  | write hr hd hc =>
    have hs := sameSetup_of_mem_calls (m.keeps_inner fuel) hc
    exact ⟨hs.layout, hs.config, hs.controller⟩

theorem Makes.sameSetup {c c' : Call} {n : Machine} (h : m.Makes fuel c none c' n) :
    SameSetup m n := by
  cases h with
  | run hc => exact sameSetup_of_mem_calls (m.keeps_instructions fuel) hc

theorem Begins.sameSetup {q : Request} {c : Call} {n : Machine} (h : m.Begins fuel q c n) :
    SameSetup m n := by
  cases h with
  | press code hi hc hv => exact sameSetup_latched hc code
  | hblank hv hd hy hp hb hr =>
    rename_i m₀ a y
    subst hb
    exact (((sameSetup_vblank hv).trans (m₀.sameSetup_onVdp _)).trans (sameSetup_passRows hp)).trans
      (a.sameSetup_onVdp _)
  | _ => exact .refl m

theorem deiWith_of_away {port : UInt8} {id : Nat} (hr : m.bus.readRoute port = some (.device id))
    (hd : m.bus.deviceAt? id = none) (inner : Access) : m.deiWith inner port =
      some (m.board.ports.get port, m.note (.readBusy port (m.bus.routeName (.device id)))) := by
  rw [deiWith, hr]
  simp only [hd]

theorem deoWith_of_away {port : UInt8} {id : Nat} (hr : m.bus.writeRoute port = some (.device id))
    (hd : m.bus.deviceAt? id = none) (inner : Access) (v : UInt8) : m.deoWith inner port v =
      some (note { m with board := m.board.setPort port v }
        (.writeBusy port (m.bus.routeName (.device id)))) := by
  rw [deoWith, hr]
  simp only [hd]

end Machine

def Bus.without (b : Bus) (ids : List Nat) : Bus := ids.foldr (fun id b => b.setDevice id none) b

theorem Bus.deviceAt?_without (b : Bus) (ids : List Nat) (j : Nat) :
    (b.without ids).deviceAt? j = if j ∈ ids then none else b.deviceAt? j := by
  induction ids with
  | nil => rfl
  | cons id ids ih =>
    change ((b.without ids).setDevice id none).deviceAt? j = _
    by_cases hj : id = j
    · rw [hj, deviceAt?_setDevice_none_self, if_pos List.mem_cons_self]
    · rw [deviceAt?_setDevice_of_ne _ hj, ih]
      simp only [List.mem_cons, Ne.symm hj, false_or]

namespace Machine

variable {fuel : Nat} {m n : Machine} {q : Request} {active : List Nat} {c : Call}

/-- What every call under way preserves: the devices of the handlers that it is nested in are away,
each counted once, and nothing else has changed in the setup. -/
structure AwayAt (m : Machine) (active : List Nat) (n : Machine) : Prop where
  layout : n.bus.layout = m.bus.layout.without active
  config : n.config = m.config
  nodup : active.Nodup
  count : n.bus.attachedCount + active.length = m.bus.attachedCount

theorem AwayAt.deviceAt?_eq_none_iff (h : AwayAt m active n) {id : Nat} :
    n.bus.deviceAt? id = none ↔ id ∈ active ∨ m.bus.deviceAt? id = none := by
  have hl : n.bus.layout.deviceAt? id = (m.bus.layout.without active).deviceAt? id := by
    rw [h.layout]
  rw [Bus.deviceAt?_layout, Bus.deviceAt?_without, Bus.deviceAt?_layout] at hl
  rw [← Option.map_eq_none_iff (f := Device.fresh), hl]
  by_cases hi : id ∈ active <;> simp [hi]

theorem AwayAt.not_mem_of_enters (h : AwayAt m active n) {id : Nat} (he : n.Enters c id) :
    id ∉ active := by
  intro hi
  have hn : n.bus.deviceAt? id = none := h.deviceAt?_eq_none_iff.2 (.inl hi)
  obtain ⟨d, hd⟩ := he.present
  exact Option.some_ne_none d (hd.symm.trans hn)

theorem AwayAt.makes (h : AwayAt m active n) {entered : Option Nat} {c' : Call} {n' : Machine}
    (hm : n.Makes fuel c entered c' n') : AwayAt m (entered.toList ++ active) n' := by
  cases entered with
  | none =>
    have hs := hm.sameSetup
    exact ⟨hs.layout.trans h.layout, hs.config.trans h.config, h.nodup, hs.attachedCount ▸ h.count⟩
  | some id =>
    have hs := hm.sameSetup_away
    have hi : id ∉ active := h.not_mem_of_enters hm.enters
    obtain ⟨d, hd⟩ := hm.enters.present
    refine ⟨?_, hs.config.trans h.config, List.nodup_cons.2 ⟨hi, h.nodup⟩, ?_⟩
    · have ha : (n.away id).bus.layout = n.bus.layout.setDevice id none :=
        n.bus.layout_setDevice id none
      rw [hs.layout, ha, h.layout]
      rfl
    · have hc : (n.bus.setDevice id none).attachedCount + 1 = n.bus.attachedCount :=
        Bus.attachedCount_setDevice_none hd
      have hn : n'.bus.attachedCount = (n.bus.setDevice id none).attachedCount := hs.attachedCount
      have hm := h.count
      simp only [Option.toList_some, List.singleton_append, List.length_cons]
      omega

/-- From the request down to any call under way. -/
theorem Underway.awayAt (h : m.Underway fuel q active c n) : AwayAt m active n := by
  induction h with
  | host h =>
    have hs := h.sameSetup
    exact ⟨hs.layout, hs.config, List.nodup_nil, hs.attachedCount⟩
  | nested h hm ih => exact ih.makes hm

end Machine

/-- A device that runs the program at the word written to it. -/
def Script.vectored : Script where
  name := "vectored"
  calls := 0
  kept := #[]
  onRead := plainRead
  onWrite port kept := do
    let o ← Handler.runAt (← Handler.field port)
    return kept.push o.code

theorem Device.onWrite_vectored (port : UInt8) : (Device.scripted .vectored).onWrite port =
    .inspect fun b => .run (b.ports.fieldEndingAt port) fun o =>
      .done (.scripted { Script.vectored with calls := 1, kept := #[o.code] }) := rfl

namespace Machine

variable {fuel : Nat} {m : Machine}

/-- A program that begins with a write to the port of the device that runs it is under way below the
device's handler, and so is that write. -/
theorem underway_of_vectored (hr : m.bus.writeRoute 0x31 = some (.device 0))
    (hd : m.bus.deviceAt? 0 = some (.scripted .vectored))
    (hf : (m.board.setPort 0x31 0).ports.fieldEndingAt 0x31 = 0)
    (hhead : let r := away { m with board := m.board.setPort 0x31 0 } 0
      (((Handler.program (r.budget fuel) 0).calls (r.inner fuel).instructions r).head?).map (·.1) =
        some (.deo 0x31 0)) :
    ∃ r n, m.Underway fuel (.deo 0x31 0) [0] (.run 0) r ∧
      m.Underway fuel (.deo 0x31 0) [0] (.deo 0x31 0) n := by
  let r := away { m with board := m.board.setPort 0x31 0 } 0
  have hrun : m.Makes fuel (.deo 0x31 0) (some 0) (.run 0) r := by
    refine .write hr hd ?_
    have hf : r.board.ports.fieldEndingAt 0x31 = 0 := hf
    rw [Device.onWrite_vectored, Handler.calls, Handler.calls, ← hf]
    exact List.mem_cons_self
  obtain ⟨⟨c, n⟩, hp, rfl⟩ := Option.map_eq_some_iff.1 hhead
  have hu : m.Underway fuel (.deo 0x31 0) [0] (.run 0) r := .nested (.host (.deo 0x31 0)) hrun
  exact ⟨r, n, hu, .nested hu (.run (List.mem_of_head? hp))⟩

/-- A machine with a device whose program writes to the device's own port. -/
def selfWriting : Machine :=
  let m := (bare ⟨some 100⟩ (.upTo none)).load 0 #[0x80, 0x00, 0x80, 0x31, 0x17, 0x00]
  (m.attach (.scripted .vectored)).2.routeWrite 0x31 (.device 0)

theorem underway_selfWriting : ∃ r n, selfWriting.Underway 0 (.deo 0x31 0) [0] (.run 0) r ∧
    selfWriting.Underway 0 (.deo 0x31 0) [0] (.deo 0x31 0) n :=
  underway_of_vectored (by simp [selfWriting, Bus.writeRoute_setWriteRoute]) rfl (by decide +kernel)
    (by decide +kernel)

end Machine

end FantasyConsole
