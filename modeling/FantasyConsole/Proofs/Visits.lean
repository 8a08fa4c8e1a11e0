import FantasyConsole.Proofs.Histories
import FantasyConsole.Proofs.Storage

/-!
# Visits to devices

A handler that is followed to its end is a visit to its device: it finds the device that
was taken out of the slot and leaves the one that is put back. A key event that a controller
takes is a visit too. The visits of a request are listed along its history, those that a
handler leads to before its own. Each device is handed on from one of its visits to the
next, and nothing else changes what a slot holds.
-/
namespace FantasyConsole

structure Visit where
  id : Nat
  found : Device
  left : Device

/-- From what a slot holds to what it holds after some visits. Each visit finds what is there. -/
def Visit.Leads : Option Device → List Visit → Option Device → Prop
  | d, [], d' => d' = d
  | d, v :: vs, d' => d = some v.found ∧ Leads (some v.left) vs d'

theorem Visit.Leads.append {d e f : Option Device} {vs ws : List Visit} (h : Leads d vs e)
    (h' : Leads e ws f) : Leads d (vs ++ ws) f := by
  induction vs generalizing d with
  | nil => exact h ▸ h'
  | cons v vs ih => exact ⟨h.1, ih h.2⟩

theorem Visit.Leads.of_none {d : Option Device} {vs : List Visit} (h : Leads none vs d) :
    vs = [] ∧ d = none := by
  cases vs with
  | nil => exact ⟨rfl, h⟩
  | cons v vs => exact absurd h.1 (Option.some_ne_none _).symm

theorem Visit.Leads.eq_getLast {d d' : Device} {vs : List Visit} (h : Leads (some d) vs (some d')) :
    d' = (vs.map Visit.left).getLast?.getD d := by
  induction vs generalizing d with
  | nil => exact Option.some.inj h
  | cons v vs ih =>
    rw [ih h.2, List.map_cons, List.getLast?_cons, Option.getD_some]

/-! ## The list of visits -/

/-- The visits that a handler of device `id` leads to, and then its own. -/
def Handler.visits {α : Type} (h : Handler α) (inner : Access)
    (below : Call → Machine → List Visit) (id : Nat)
    (found : Device) (left : α → Device) (m : Machine) : List Visit :=
  (h.calls inner m).flatMap (fun p => below p.1 p.2) ++
    ((h.follow inner m).map fun r => ⟨id, found, left r.1⟩).toList

def Bus.present (b : Bus) : Option Route → Option (Nat × Device)
  | some (.device id) => (b.deviceAt? id).map (id, ·)
  | _ => none

theorem Bus.present_eq_some_iff {b : Bus} {r : Option Route} {id : Nat} {d : Device} :
    b.present r = some (id, d) ↔ r = some (.device id) ∧ b.deviceAt? id = some d := by
  rcases r with _ | _ | j <;> simp only [present, reduceCtorEq, false_and, Option.map_eq_some_iff,
    Prod.mk.injEq, Option.some.injEq, Route.device.injEq]
  constructor
  · rintro ⟨e, he, rfl, rfl⟩
    exact ⟨rfl, he⟩
  · rintro ⟨rfl, he⟩
    exact ⟨d, he, rfl, rfl⟩

theorem Bus.mem_elim_present {b : Bus} {r : Option Route} {f : Nat × Device → List Visit}
    {v : Visit} : v ∈ (b.present r).elim [] f ↔
      ∃ id d, r = some (.device id) ∧ b.deviceAt? id = some d ∧ v ∈ f (id, d) := by
  constructor
  · intro h
    cases hp : b.present r with
    | none =>
      rw [hp] at h
      exact absurd h List.not_mem_nil
    | some p =>
      rw [hp] at h
      obtain ⟨hr, hd⟩ := present_eq_some_iff.1 hp
      exact ⟨p.1, p.2, hr, hd, h⟩
  · rintro ⟨id, d, hr, hd, hv⟩
    rw [present_eq_some_iff.2 ⟨hr, hd⟩]
    exact hv

theorem Bus.present_eq_none {b : Bus} {r : Option Route}
    (h : ∀ id, r = some (.device id) → b.deviceAt? id = none) : b.present r = none := by
  refine Option.eq_none_iff_forall_ne_some.2 fun p hp => ?_
  obtain ⟨hr, hd⟩ := present_eq_some_iff.1 hp
  exact absurd ((h p.1 hr).symm.trans hd) (Option.some_ne_none p.2).symm

namespace Call

/-- The visits of a call whose handler has its calls answered by `inner`. -/
def entering (inner : Access) (below : Call → Machine → List Visit) : Call → Machine → List Visit
  | .dei port, m => (m.bus.present (m.bus.readRoute port)).elim [] fun p =>
    (p.2.onRead port).visits inner below p.1 p.2 (·.2) (m.away p.1)
  | .deo port v, m => (m.bus.present (m.bus.writeRoute port)).elim [] fun p =>
    (p.2.onWrite port).visits inner below p.1 p.2 (·)
      ({ m with board := m.board.setPort port v }.away p.1)
  | .run start, m => below (.run start) m

/-- The accesses to ports that a call consists of: itself, or those of its program. -/
def accesses (fuel : Nat) (inner : Access) : Call → Machine → List (Call × Machine)
  | .run start, m => (Handler.program (m.budget fuel) start).calls inner.instructions m
  | c, m => [(c, m)]

/-- The visits of a call with at most `count` handlers active at a time. -/
def visitsBelow (fuel : Nat) : (count : Nat) → Call → Machine → List Visit
  | 0, _, _ => []
  | count + 1, c, m => (c.accesses fuel (.below fuel count) m).flatMap fun p =>
    p.1.entering (.below fuel count) (visitsBelow fuel count) p.2

def visits (fuel : Nat) (c : Call) (m : Machine) : List Visit :=
  c.visitsBelow fuel (m.bus.attachedCount + 1) m

end Call

/-- The controller that key events go to, with its number. -/
def Machine.pad (m : Machine) : Option (Nat × Controller) :=
  m.controller.bind fun id =>
    match m.bus.deviceAt? id with
    | some (.controller c) => some (id, c)
    | _ => none

def Occurrence.visits (fuel : Nat) : Occurrence → List Visit
  | .press code m =>
    (m.pad.map fun p => ⟨p.1, .controller p.2, .controller { p.2 with code }⟩).toList
  | .call c m => c.visits fuel m

def Request.visits (fuel : Nat) (q : Request) (m : Machine) : List Visit :=
  (q.history fuel m).flatMap (·.visits fuel)

namespace Machine

variable {fuel : Nat} {m n : Machine} {id : Nat} {d d' : Device} {vs ws : List Visit}

/-! ## Devices are handed on -/

/-- Between two machines the visits lead from what each slot holds to what it holds then. -/
def Led (m : Machine) (vs : List Visit) (n : Machine) : Prop :=
  ∀ id, Visit.Leads (m.bus.deviceAt? id) (vs.filter (·.id = id)) (n.bus.deviceAt? id)

theorem Led.of_bus (h : n.bus = m.bus) : Led m [] n := by
  intro id
  change n.bus.deviceAt? id = m.bus.deviceAt? id
  rw [h]

theorem Led.trans {a b c : Machine} (h : Led a vs b) (h' : Led b ws c) : Led a (vs ++ ws) c := by
  intro id
  rw [List.filter_append]
  exact (h id).append (h' id)

theorem deviceAt?_back (h : SameSetup (m.away id) n) (hd : m.bus.deviceAt? id = some d)
    (d' : Device) :
    (n.back id d').bus.deviceAt? id = some d' := by
  obtain ⟨s, hs, -⟩ := Option.bind_eq_some_iff.1 hd
  have hl : n.bus.layout.slots[id]? = (m.away id).bus.layout.slots[id]? := by rw [h.layout]
  have ha : (m.away id).bus.slots[id]? = some { s with device := none } := by
    rw [away, Bus.getElem?_setDevice, if_pos rfl, hs]
    rfl
  rw [Bus.getElem?_layout, Bus.getElem?_layout, ha] at hl
  obtain ⟨s', hs', -⟩ := Option.map_eq_some_iff.1 hl
  rw [back, Bus.deviceAt?, Bus.getElem?_setDevice, if_pos rfl, hs']
  rfl

theorem Led.back (h : Led (m.away id) vs n) (hs : SameSetup (m.away id) n)
    (hd : m.bus.deviceAt? id = some d) (d' : Device) :
    Led m (vs ++ [⟨id, d, d'⟩]) (n.back id d') := by
  intro j
  rw [List.filter_append]
  by_cases hj : id = j
  · subst hj
    have hvs := h id
    rw [away, Bus.deviceAt?_setDevice_none_self] at hvs
    rw [hvs.of_none.1, hd, deviceAt?_back hs hd]
    simp [Visit.Leads]
  · have hvs := h j
    rw [away, Bus.deviceAt?_setDevice_of_ne _ hj] at hvs
    rw [Machine.back, Bus.deviceAt?_setDevice_of_ne _ hj]
    simpa [hj] using hvs

end Machine

/-- Each call that is answered leads through the visits listed for it. -/
def Access.Leads (io : Access) (visits : Call → Machine → List Visit) : Prop :=
  ∀ {c : Call} {m n : Machine}, io.after c m = some n → Machine.Led m (visits c m) n

namespace Access.Leads
open Machine

variable {io inner : Access} {visits below : Call → Machine → List Visit} {m n : Machine}

/-- A handler leads through the visits of its calls, by induction on the tree. -/
theorem follow (hio : io.Leads visits) {α : Type} {h : Handler α} {a : α}
    (hf : h.follow io m = some (a, n)) :
    Led m ((h.calls io m).flatMap fun p => visits p.1 p.2) n := by
  induction h generalizing m with
  | done b =>
    cases hf
    exact .of_bus rfl
  | inspect next ih => exact ih m.board hf
  | update f next ih => exact (Led.of_bus (n := { m with board := f m.board }) rfl).trans (ih hf)
  | dei port next ih =>
    rw [Handler.follow] at hf
    rw [Handler.calls, List.flatMap_cons]
    cases hd : io.dei port m with
    | none =>
      rw [hd] at hf
      exact absurd hf (Option.some_ne_none _).symm
    | some r =>
      rw [hd] at hf
      have hfirst : io.after (.dei port) m = some r.2 := by rw [after_dei, hd, Option.map_some]
      exact (hio hfirst).trans (ih r.1 hf)
  | deo port v next ih =>
    rw [Handler.follow] at hf
    rw [Handler.calls, List.flatMap_cons]
    cases hd : io.deo port v m with
    | none =>
      rw [hd] at hf
      exact absurd hf (Option.some_ne_none _).symm
    | some r =>
      rw [hd] at hf
      exact (hio (c := .deo port v) hd).trans (ih hf)
  | run start next ih =>
    rw [Handler.follow] at hf
    rw [Handler.calls, List.flatMap_cons]
    cases hr : io.run start m with
    | none =>
      rw [hr] at hf
      exact absurd hf (Option.some_ne_none _).symm
    | some r =>
      rw [hr] at hf
      have hfirst : io.after (.run start) m = some r.2 := by rw [after_run, hr, Option.map_some]
      exact (hio hfirst).trans (ih r.1 hf)

/-- A visit: the device is taken out, its handler followed, and what the handler leaves is put
back. -/
theorem handler (hio : inner.Leads below) (hsame : inner.Keeps SameSetup) {α : Type}
    {h : Handler α} {a : α}
    {id : Nat} {d : Device} (hd : m.bus.deviceAt? id = some d) (left : α → Device)
    (hf : h.follow inner (m.away id) = some (a, n)) :
    Led m (h.visits inner below id d left (m.away id)) (n.back id (left a)) := by
  have hs : SameSetup (m.away id) n :=
    ((Handler.holds_anyChange h).follow hsame SameSetup.refl SameSetup.trans
      (fun _ _ _ => ⟨rfl, rfl, rfl⟩) hf).2
  rw [Handler.visits, hf]
  exact (hio.follow hf).back hs hd (left a)

theorem dei (hio : inner.Leads below) (hsame : inner.Keeps SameSetup) {port v : UInt8}
    (h : m.deiWith inner port = some (v, n)) :
    Led m (Call.entering inner below (.dei port) m) n := by
  rw [Call.entering]
  rcases m.bus.noDeviceReads_or port with hno | ⟨id, d, hr, hd⟩
  · rw [deiWith_eq_fetched hno] at h
    have hn : (m.fetched port).2 = n := congrArg (·.2) (Option.some.inj h)
    rw [Bus.present_eq_none hno, ← hn]
    exact .of_bus (m.bus_fetched port)
  · rw [deiWith_of_device hr hd] at h
    obtain ⟨⟨⟨w, d'⟩, a⟩, hf, he⟩ := Option.map_eq_some_iff.1 h
    cases he
    rw [Bus.present_eq_some_iff.2 ⟨hr, hd⟩]
    exact hio.handler hsame hd (·.2) hf

theorem deo (hio : inner.Leads below) (hsame : inner.Keeps SameSetup) {port v : UInt8}
    (h : m.deoWith inner port v = some n) :
    Led m (Call.entering inner below (.deo port v) m) n := by
  rw [Call.entering]
  rcases m.bus.noDeviceWrites_or port with hno | ⟨id, d, hr, hd⟩
  · rw [deoWith_eq_stored hno] at h
    rw [Bus.present_eq_none hno, ← Option.some.inj h]
    exact .of_bus (m.bus_stored port v)
  · rw [deoWith_of_device hr hd] at h
    obtain ⟨⟨d', a⟩, hf, rfl⟩ := Option.map_eq_some_iff.1 h
    rw [Bus.present_eq_some_iff.2 ⟨hr, hd⟩]
    exact hio.handler (m := { m with board := m.board.setPort port v }) hsame hd (·) hf

theorem instructions (hio : inner.Leads below) (hsame : inner.Keeps SameSetup) :
    inner.instructions.Leads (Call.entering inner below) := by
  intro c m n h
  cases c with
  | dei port =>
    obtain ⟨⟨v, a⟩, hd, rfl⟩ := Option.map_eq_some_iff.1 h
    exact hio.dei hsame hd
  | deo port v => exact hio.deo hsame h
  | run start => exact hio (c := .run start) h

theorem above (hio : inner.Leads below) (hsame : inner.Keeps SameSetup) (fuel : Nat) :
    (Access.above fuel inner).Leads fun c m =>
      (c.accesses fuel inner m).flatMap fun p => p.1.entering inner below p.2 := by
  intro c m n h
  have hport := hio.instructions hsame (c := c) (m := m) (n := n)
  cases c with
  | dei port => simpa [Call.accesses] using hport h
  | deo port v => simpa [Call.accesses] using hport h
  | run start =>
    obtain ⟨⟨o, a⟩, hr, rfl⟩ := Option.map_eq_some_iff.1 h
    change m.runWith inner.instructions fuel start = some (o, a) at hr
    rw [runWith_eq_concluded, ← Handler.follow_program] at hr
    obtain ⟨r, hf, hc⟩ := Option.bind_eq_some_iff.1 hr
    have hrun := follow (hio.instructions hsame) hf
    have hend : Led r.2 [] a := .of_bus (sameAround_of_concluded hc).bus
    have hall := hrun.trans hend
    rwa [List.append_nil] at hall

/-- By induction on the number of handlers that may be active at a time. -/
theorem visitsBelow (fuel count : Nat) :
    (Access.below fuel count).Leads (Call.visitsBelow fuel count) := by
  induction count with
  | zero =>
    intro c m n h
    cases c <;> exact absurd h (Option.some_ne_none n).symm
  | succ count ih =>
    rw [Access.below, Access.level_eq_above]
    refine ih.above ?_ fuel
    cases count with
    | zero => exact Access.keeps_refused SameSetup
    | succ count => exact kept_sameSetup.level fuel count

end Access.Leads

namespace Machine

variable {fuel : Nat} {m n : Machine} {id : Nat}

theorem led_access {c : Call} (h : (m.access fuel).after c m = some n) :
    Led m (c.visits fuel m) n :=
  Access.Leads.visitsBelow fuel (m.bus.attachedCount + 1) h

theorem pad_eq_some_iff {c : Controller} :
    m.pad = some (id, c) ↔ m.controller = some id ∧ m.bus.deviceAt? id = some (.controller c) := by
  rw [pad, Option.bind_eq_some_iff]
  constructor
  · rintro ⟨j, hj, h⟩
    split at h
    · cases h
      exact ⟨hj, ‹_›⟩
    · exact absurd h (Option.some_ne_none _).symm
  · rintro ⟨hi, hc⟩
    exact ⟨id, hi, by rw [hc]⟩

/-- The visits along a history lead from what the slots hold to what they hold afterwards. -/
theorem traced_led (fuel : Nat) :
    Traced fuel fun m os r => ∀ n, r = some n → Led m (os.flatMap (·.visits fuel)) n where
  rest h n hn := .of_bus (h n hn).bus
  bind {m os r f g} h hnext n hn := by
    obtain ⟨a, ha, hf⟩ := Option.bind_eq_some_iff.1 hn
    rw [ha, Option.elim_some, List.flatMap_append]
    exact (h a ha).trans (hnext a ha n hf)
  port m hc n hn := by
    rw [List.flatMap_singleton]
    exact led_access hn
  latch {m id c} code hi hc n hn := by
    have hv : (Occurrence.press code m).visits fuel =
        [⟨id, .controller c, .controller (c.latch code)⟩] := by
      rw [Occurrence.visits, pad_eq_some_iff.2 ⟨hi, hc⟩]
      rfl
    have hb : (m.away id).back id (.controller (c.latch code)) = m.latched id c code := by
      simp only [back, away, latched, Bus.setDevice_setDevice]
    rw [List.flatMap_singleton, hv, ← Option.some.inj hn, ← hb]
    exact (Led.of_bus rfl).back (.refl _) hc _
  idle {m n} code hnone h a ha := by
    have hv : (Occurrence.press code m).visits fuel = [] := by
      have hp : m.pad = none := Option.eq_none_iff_forall_ne_some.2 fun p hp =>
        hnone p.1 p.2 (pad_eq_some_iff.1 hp).1 (pad_eq_some_iff.1 hp).2
      rw [Occurrence.visits, hp]
      rfl
    rw [List.flatMap_singleton, hv, ← Option.some.inj ha]
    exact .of_bus h.bus

theorem led_perform {q : Request} (h : q.perform fuel m = some n) : Led m (q.visits fuel m) n :=
  (traced_led fuel).perform m q n h

/-! ## Visits and calls under way -/

/-- The call enters a handler that comes to its end, with the visit that this is. -/
inductive Yields (fuel : Nat) (m : Machine) : Call → Visit → Prop
  | read {port v : UInt8} {id : Nat} {d d' : Device} {n : Machine}
    (hr : m.bus.readRoute port = some (.device id)) (hd : m.bus.deviceAt? id = some d)
    (hf : (d.onRead port).follow (m.inner fuel) (m.away id) = some ((v, d'), n)) :
    Yields fuel m (.dei port) ⟨id, d, d'⟩
  | write {port v : UInt8} {id : Nat} {d d' : Device} {n : Machine}
    (hr : m.bus.writeRoute port = some (.device id)) (hd : m.bus.deviceAt? id = some d)
    (hf : (d.onWrite port).follow (m.inner fuel)
      ({ m with board := m.board.setPort port v }.away id) = some (d', n)) :
    Yields fuel m (.deo port v) ⟨id, d, d'⟩

/-- The request is a key event whose code a controller takes. -/
inductive Latches (m : Machine) : Request → Visit → Prop
  | press {id : Nat} {c : Controller} (code : UInt8) (hi : m.controller = some id)
    (hc : m.bus.deviceAt? id = some (.controller c)) :
    Latches m (.press code) ⟨id, .controller c, .controller { c with code }⟩

theorem mem_handler_visits {α : Type} {h : Handler α} {inner : Access}
    {below : Call → Machine → List Visit}
    {d : Device} {left : α → Device} {v : Visit} : v ∈ h.visits inner below id d left m ↔
      (∃ a n, h.follow inner m = some (a, n) ∧ v = ⟨id, d, left a⟩) ∨
        ∃ p ∈ h.calls inner m, v ∈ below p.1 p.2 := by
  rw [Handler.visits, List.mem_append, List.mem_flatMap, Option.mem_toList,
    Option.map_eq_some_iff, or_comm]
  simp only [Prod.exists, eq_comm]

theorem visits_of_isPort {c : Call} (hc : c.IsPort) :
    c.visits fuel m = c.entering (m.inner fuel) (Call.visitsBelow fuel m.bus.attachedCount) m := by
  cases c with
  | dei port => exact List.flatMap_singleton ..
  | deo port v => exact List.flatMap_singleton ..
  | run start => exact hc.elim

theorem Makes.visitsBelow_eq {c c' : Call} (h : m.Makes fuel c (some id) c' n) :
    c'.visitsBelow fuel m.bus.attachedCount n = c'.visits fuel n := by
  rw [← h.attachedCount]
  rfl

theorem mem_visits_dei {port : UInt8} {v : Visit} : v ∈ (Call.dei port).visits fuel m ↔
    m.Yields fuel (.dei port) v ∨
      ∃ entered c' n, m.Makes fuel (.dei port) entered c' n ∧ v ∈ c'.visits fuel n := by
  rw [visits_of_isPort (by trivial), Call.entering, Bus.mem_elim_present]
  constructor
  · rintro ⟨id, d, hr, hd, hv⟩
    rcases mem_handler_visits.1 hv with ⟨⟨w, d'⟩, n, hf, rfl⟩ | ⟨p, hp, hv⟩
    · exact .inl (.read hr hd hf)
    · have hm : m.Makes fuel (.dei port) (some id) p.1 p.2 := .read hr hd hp
      exact .inr ⟨_, _, _, hm, hm.visitsBelow_eq ▸ hv⟩
  · rintro (hy | ⟨entered, c', n, hm, hv⟩)
    · cases hy with
      | read hr hd hf => exact ⟨_, _, hr, hd, mem_handler_visits.2 (.inl ⟨_, _, hf, rfl⟩)⟩
    · cases hm with
      | read hr hd hp =>
        have hm : m.Makes fuel (.dei port) _ c' n := .read hr hd hp
        exact ⟨_, _, hr, hd, mem_handler_visits.2 (.inr ⟨_, hp, hm.visitsBelow_eq.symm ▸ hv⟩)⟩

theorem mem_visits_deo {port w : UInt8} {v : Visit} : v ∈ (Call.deo port w).visits fuel m ↔
    m.Yields fuel (.deo port w) v ∨
      ∃ entered c' n, m.Makes fuel (.deo port w) entered c' n ∧ v ∈ c'.visits fuel n := by
  rw [visits_of_isPort (by trivial), Call.entering, Bus.mem_elim_present]
  constructor
  · rintro ⟨id, d, hr, hd, hv⟩
    rcases mem_handler_visits.1 hv with ⟨d', n, hf, rfl⟩ | ⟨p, hp, hv⟩
    · exact .inl (.write hr hd hf)
    · have hm : m.Makes fuel (.deo port w) (some id) p.1 p.2 := .write hr hd hp
      exact .inr ⟨_, _, _, hm, hm.visitsBelow_eq ▸ hv⟩
  · rintro (hy | ⟨entered, c', n, hm, hv⟩)
    · cases hy with
      | write hr hd hf => exact ⟨_, _, hr, hd, mem_handler_visits.2 (.inl ⟨_, _, hf, rfl⟩)⟩
    · cases hm with
      | write hr hd hp =>
        have hm : m.Makes fuel (.deo port w) _ c' n := .write hr hd hp
        exact ⟨_, _, hr, hd, mem_handler_visits.2 (.inr ⟨_, hp, hm.visitsBelow_eq.symm ▸ hv⟩)⟩

theorem mem_visits_run {start : UInt16} {v : Visit} : v ∈ (Call.run start).visits fuel m ↔
    ∃ entered c' n, m.Makes fuel (.run start) entered c' n ∧ v ∈ c'.visits fuel n := by
  have hvisits {c' : Call} {n : Machine} (hm : m.Makes fuel (.run start) none c' n) :
      c'.visits fuel n =
        c'.entering (m.inner fuel) (Call.visitsBelow fuel m.bus.attachedCount) n := by
    rw [visits_of_isPort hm.isPort, inner, hm.sameSetup.attachedCount]
    rfl
  constructor
  · intro h
    obtain ⟨p, hp, hv⟩ := List.mem_flatMap.1 h
    have hm : m.Makes fuel (.run start) none p.1 p.2 := .run hp
    exact ⟨none, p.1, p.2, hm, (hvisits hm).symm ▸ hv⟩
  · rintro ⟨entered, c', n, hm, hv⟩
    cases hm with
    | run hp => exact List.mem_flatMap.2 ⟨(c', n), hp, hvisits (.run hp) ▸ hv⟩

/-- The visits of a call are its own, if it enters a handler, and those of the calls that it leads
to. -/
theorem mem_visits_iff {c : Call} {v : Visit} : v ∈ c.visits fuel m ↔ m.Yields fuel c v ∨
    ∃ entered c' n, m.Makes fuel c entered c' n ∧ v ∈ c'.visits fuel n := by
  cases c with
  | dei port => exact mem_visits_dei
  | deo port w => exact mem_visits_deo
  | run start =>
    have hnone : ¬ m.Yields fuel (.run start) v := fun hy => by cases hy
    rw [or_iff_right hnone]
    exact mem_visits_run

variable {q : Request} {active : List Nat} {c : Call} {v : Visit}

theorem Underway.exists_yields (h : m.Underway fuel q active c n) (hv : v ∈ c.visits fuel n) :
    ∃ active' c' n', m.Underway fuel q active' c' n' ∧ n'.Yields fuel c' v := by
  induction c, n using makes_induction fuel generalizing active with
  | h c n ih =>
    rcases mem_visits_iff.1 hv with hy | ⟨entered, c', n', hm, hv⟩
    · exact ⟨active, c, n, h, hy⟩
    · exact ih entered c' n' hm (.nested h hm) hv

theorem Underway.mem_visits (h : m.Underway fuel q active c n) (hv : v ∈ c.visits fuel n) :
    v ∈ q.visits fuel m := by
  have hcall {c : Call} {n : Machine} (hc : c.IsPort) (hu : m.Underway fuel q [] c n)
      (hv : v ∈ c.visits fuel n) : v ∈ q.visits fuel m :=
    List.mem_flatMap.2 ⟨.call c n, mem_history_iff.2 ⟨hc, hu⟩, hv⟩
  induction h with
  | @host c n hb =>
    cases c with
    | dei port => exact hcall (c := .dei port) trivial (.host hb) hv
    | deo port w => exact hcall (c := .deo port w) trivial (.host hb) hv
    | run start =>
      rcases mem_visits_iff.1 hv with hy | ⟨entered, c', n', hm, hv⟩
      · cases hy
      · cases hm with
        | run hp =>
          have hm := Makes.run hp
          exact hcall hm.isPort (.nested (.host hb) hm) hv
  | nested h hm ih => exact ih (mem_visits_iff.2 (.inr ⟨_, _, _, hm, hv⟩))

/-- The visits of a request are those of the calls under way, and that of a key event. -/
theorem mem_request_visits_iff : v ∈ q.visits fuel m ↔
    m.Latches q v ∨ ∃ active c n, m.Underway fuel q active c n ∧ n.Yields fuel c v := by
  constructor
  · intro h
    obtain ⟨o, ho, hv⟩ := List.mem_flatMap.1 h
    cases o with
    | press code a =>
      rcases of_mem_history ho with ⟨code', rfl, he⟩ | ⟨_, _, _, he⟩ | ⟨_, _, _, hr⟩
      · cases he
        rw [Occurrence.visits, Option.mem_toList, Option.map_eq_some_iff] at hv
        obtain ⟨⟨id, c⟩, hp, rfl⟩ := hv
        obtain ⟨hi, hc⟩ := pad_eq_some_iff.1 hp
        exact .inl (.press code hi hc)
      · exact absurd he (by simp)
      · obtain ⟨p, -, he⟩ := List.mem_map.1 hr
        exact absurd he (by simp)
    | call c a => exact .inr ((mem_history_iff.1 ho).2.exists_yields hv)
  · rintro (hl | ⟨active, c, n, hu, hy⟩)
    · cases hl with
      | press code hi hc =>
        refine List.mem_flatMap.2 ⟨_, press_mem_history fuel code m, ?_⟩
        rw [Occurrence.visits, pad_eq_some_iff.2 ⟨hi, hc⟩]
        exact List.mem_singleton_self _
    · exact hu.mem_visits (mem_visits_iff.2 (.inl hy))

/-! ## Handlers come to their ends -/

theorem Makes.isSome_after {entered : Option Nat} {c' : Call} (h : m.Makes fuel c entered c' n)
    (hc : ((m.access fuel).after c m).isSome) : ((n.access fuel).after c' n).isSome := by
  rw [access_eq_above] at hc
  cases h with
  | read hr hd hp =>
    have hm : m.Makes fuel _ _ c' n := .read hr hd hp
    change ((m.deiWith (m.inner fuel) _).map (·.2)).isSome at hc
    rw [Option.isSome_map, deiWith_of_device hr hd, Option.isSome_map] at hc
    exact hm.inner_eq_access ▸ (Handler.isSome_follow_iff _ _).1 hc _ hp
  | write hr hd hp =>
    have hm : m.Makes fuel _ _ c' n := .write hr hd hp
    change (m.deoWith (m.inner fuel) _ _).isSome at hc
    rw [deoWith_of_device hr hd, Option.isSome_map] at hc
    exact hm.inner_eq_access ▸ (Handler.isSome_follow_iff _ _).1 hc _ hp
  | run hp =>
    have hm := Makes.run hp
    change ((m.runWith (m.inner fuel).instructions fuel _).map (·.2)).isSome at hc
    rw [Option.isSome_map, runWith_eq_concluded, ← Handler.follow_program] at hc
    have hf := (Handler.isSome_follow_iff _ _).1 (Option.isSome_of_isSome_bind hc) _ hp
    rwa [hm.agree_access.after_eq] at hf

theorem Begins.isSome_after (h : m.Begins fuel q c n) (hq : (q.perform fuel m).isSome) :
    ((n.access fuel).after c n).isSome := by
  cases h with
  | dei port => exact hq
  | deo port w => exact hq
  | run start => exact hq
  | press code hi hc hv =>
    rw [Request.perform, press_of_controller hi hc, if_neg hv] at hq
    exact hq
  | vblank frame hm =>
    rw [Request.perform, map_fst_render_eq_bind] at hq
    have hv := Option.isSome_of_isSome_bind hq
    rw [Machine.vblank, if_pos hm] at hv
    exact hv
  | hblank hv hd hy hp hb hr =>
    rw [Request.perform, map_fst_render_eq_bind, hv, Option.bind_some, if_pos hd] at hq
    obtain ⟨m', hm'⟩ := Option.isSome_iff_exists.1 hq
    obtain ⟨a, b, ha, hh, -⟩ := exists_of_passRows hm' hy
    cases Option.some.inj (hp.symm.trans ha)
    rw [← hb, Machine.hblank,
      if_pos ((runsBlank_iff _ (Nat.lt_of_lt_of_le hy (rowCount_le _))).1 hr)] at hh
    exact Option.isSome_of_eq_some hh

theorem Underway.isSome_after (h : m.Underway fuel q active c n) (hq : (q.perform fuel m).isSome) :
    ((n.access fuel).after c n).isSome := by
  induction h with
  | host hb => exact hb.isSome_after hq
  | nested _ hm ih => exact hm.isSome_after ih

theorem Enters.exists_yields {id : Nat} (h : m.Enters c id)
    (hc : ((m.access fuel).after c m).isSome) :
    ∃ v, m.Yields fuel c v ∧ v.id = id := by
  rw [access_eq_above] at hc
  obtain ⟨d, hd⟩ := h.present
  cases c with
  | dei port =>
    change ((m.deiWith (m.inner fuel) port).map (·.2)).isSome at hc
    rw [Option.isSome_map, deiWith_of_device h.1 hd, Option.isSome_map] at hc
    obtain ⟨⟨⟨w, d'⟩, a⟩, hf⟩ := Option.isSome_iff_exists.1 hc
    exact ⟨⟨id, d, d'⟩, .read h.1 hd hf, rfl⟩
  | deo port w =>
    change (m.deoWith (m.inner fuel) port w).isSome at hc
    rw [deoWith_of_device h.1 hd, Option.isSome_map] at hc
    obtain ⟨⟨d', a⟩, hf⟩ := Option.isSome_iff_exists.1 hc
    exact ⟨⟨id, d, d'⟩, .write h.1 hd hf, rfl⟩
  | run start => exact h.elim

theorem Yields.enters (h : m.Yields fuel c v) : m.Enters c v.id := by
  cases h with
  | read hr hd _ => exact ⟨hr, Option.isSome_of_eq_some hd⟩
  | write hr hd _ => exact ⟨hr, Option.isSome_of_eq_some hd⟩

/-! ## What a request leaves -/

theorem slot_of_perform (hm : ∀ s ∈ m.bus.slots, s.device.isSome) {m' : Machine}
    (h : q.perform fuel m = some m')
    {id : Nat} {s : Slot} (hs : m.bus.slots[id]? = some s) : ∃ d d' : Device, s.device = some d ∧
      m'.bus.slots[id]? = some ⟨s.name, some d'⟩ ∧ d'.fresh = d.fresh := by
  have hslots : m'.bus.layout.slots = m.bus.layout.slots :=
    congrArg Bus.slots (sameSetup_perform h).layout
  obtain ⟨d, hd⟩ := Option.isSome_iff_exists.1 (hm s (Array.mem_of_getElem? hs))
  have hget : m'.bus.layout.slots[id]? = m.bus.layout.slots[id]? := by rw [hslots]
  rw [Bus.getElem?_layout, Bus.getElem?_layout, hs] at hget
  obtain ⟨s', hs', he⟩ := Option.map_eq_some_iff.1 hget
  simp only [Slot.mk.injEq, hd, Option.map_some] at he
  obtain ⟨d', hd', hfresh⟩ := Option.map_eq_some_iff.1 he.2
  refine ⟨d, d', hd, ?_, hfresh⟩
  rw [hs', ← he.1, ← hd']

theorem filter_visits_eq_nil {id : Nat}
    (hcalls : ∀ active c n, m.Underway fuel q active c n → ¬ n.Enters c id)
    (hpress : ∀ v, m.Latches q v → v.id ≠ id) : (q.visits fuel m).filter (·.id = id) = [] := by
  refine List.filter_eq_nil_iff.2 fun v hv hid => ?_
  obtain rfl := of_decide_eq_true hid
  rcases mem_request_visits_iff.1 hv with hl | ⟨active, c, n, hu, hy⟩
  · exact hpress v hl rfl
  · exact hcalls active c n hu hy.enters

/-- No device is lost and none is entered twice. When a request returns, the routes and the slots
are as before, and each slot holds its own device as the visits to it have left it, each of which
found what the one before had left. The visits are those of all handlers that were entered, and that
of a key event. A device that none of them reaches is the one that was there. During the request the
empty slots are those of the devices whose handlers are running, one handler for each, and their
ports are plain storage. -/
theorem devices_return (hm : ∀ s ∈ m.bus.slots, s.device.isSome) (fuel : Nat) (q : Request) :
    let visits := q.visits fuel m
    (∀ m', q.perform fuel m = some m' →
      m'.bus.readRoutes = m.bus.readRoutes ∧ m'.bus.writeRoutes = m.bus.writeRoutes ∧
        m'.bus.slots.size = m.bus.slots.size ∧
        (∀ (id : Nat) (s : Slot), m.bus.slots[id]? = some s → ∃ d d' : Device, s.device = some d ∧
          m'.bus.slots[id]? = some ⟨s.name, some d'⟩ ∧ d'.fresh = d.fresh ∧
          Visit.Leads (some d) (visits.filter (·.id = id)) (some d') ∧
          ((∀ active c n, m.Underway fuel q active c n → ¬ n.Enters c id) →
            (∀ v, m.Latches q v → v.id ≠ id) → d' = d)) ∧
        ∀ active c n id, m.Underway fuel q active c n → n.Enters c id →
          ∃ v ∈ visits, v.id = id ∧ n.Yields fuel c v) ∧
      (∀ v, v ∈ visits ↔ m.Latches q v ∨ ∃ active c n, m.Underway fuel q active c n ∧
        n.Yields fuel c v) ∧
      ∀ active c n, m.Underway fuel q active c n →
        active.Nodup ∧ (∀ id < m.bus.slots.size, n.bus.deviceAt? id = none ↔ id ∈ active) ∧
          (∀ id, n.Enters c id → id ∉ active) ∧
          ∀ id ∈ active, ∀ inner,
            (∀ port, n.bus.readRoute port = some (.device id) → n.deiWith inner port =
              some (n.board.ports.get port,
                n.note (.readBusy port (n.bus.routeName (.device id))))) ∧
            ∀ port v, n.bus.writeRoute port = some (.device id) → n.deoWith inner port v =
              some (note { n with board := n.board.setPort port v }
                (.writeBusy port (n.bus.routeName (.device id)))) := by
  intro visits
  refine ⟨fun m' h => ?_, fun v => mem_request_visits_iff, fun active c n h => ?_⟩
  · have hl : m'.bus.layout = m.bus.layout := (sameSetup_perform h).layout
    have hread : m'.bus.layout.readRoutes = m.bus.layout.readRoutes := congrArg Bus.readRoutes hl
    have hwrite : m'.bus.layout.writeRoutes = m.bus.layout.writeRoutes :=
      congrArg Bus.writeRoutes hl
    refine ⟨hread, hwrite, ?_, fun id s hs => ?_, fun active c n id hu he => ?_⟩
    · have hsize : m'.bus.layout.slots.size = m.bus.layout.slots.size := by rw [hl]
      rwa [Bus.layout, Bus.layout, Array.size_map, Array.size_map] at hsize
    · obtain ⟨d, d', hd, hs', hfresh⟩ := slot_of_perform hm h hs
      have hled : Visit.Leads (some d) (visits.filter (·.id = id)) (some d') := by
        have hid := led_perform h id
        rwa [Bus.deviceAt?, Bus.deviceAt?, hs, hs', Option.bind_some, Option.bind_some, hd] at hid
      refine ⟨d, d', hd, hs', hfresh, hled, fun hcalls hpress => ?_⟩
      rw [show visits.filter (·.id = id) = [] from filter_visits_eq_nil hcalls hpress] at hled
      exact Option.some.inj hled
    · obtain ⟨v, hy, hv⟩ := he.exists_yields (hu.isSome_after (Option.isSome_of_eq_some h))
      exact ⟨v, mem_request_visits_iff.2 (.inr ⟨active, c, n, hu, hy⟩), hv, hy⟩
  · have ha := h.awayAt
    refine ⟨ha.nodup, ?_, fun id he => ha.not_mem_of_enters he, ?_⟩
    · intro id hid
      have hsome : m.bus.deviceAt? id ≠ none := by
        have hs : m.bus.slots[id]? = some (m.bus.slots[id]) := Array.getElem?_eq_getElem hid
        obtain ⟨d, hd⟩ := Option.isSome_iff_exists.1 (hm _ (Array.getElem_mem hid))
        rw [Bus.deviceAt?, hs, Option.bind_some, hd]
        exact Option.some_ne_none d
      rw [ha.deviceAt?_eq_none_iff, or_iff_left hsome]
    · intro id hid inner
      have hd : n.bus.deviceAt? id = none := ha.deviceAt?_eq_none_iff.2 (.inl hid)
      exact ⟨fun port hr => deiWith_of_away hr hd inner,
        fun port v hr => deoWith_of_away hr hd inner v⟩

end Machine

/-- A device that writes to its own port and keeps the bytes written to it. -/
def Script.loopback : Script where
  name := "loopback"
  calls := 0
  kept := #[]
  onRead := plainRead
  onWrite port kept := do
    let v ← Handler.byte port
    Handler.writePort port 0x77
    return kept.push v

def Device.progress : Device → Option (Nat × Array UInt8)
  | .scripted s => some (s.calls, s.kept)
  | _ => none

namespace Machine

/-- A machine whose program writes to the port of the device that runs it and twice to that of
another device. The third device is not written to. -/
def relaying : Machine :=
  let m := (bare ⟨some 100⟩ (.upTo none)).load 0
    #[0x80, 0x00, 0x80, 0x31, 0x17, 0x80, 0x12, 0x80, 0x40, 0x17, 0x80, 0x34, 0x80,
      0x40, 0x17, 0x00]
  let m :=
    (((m.attach (.scripted .vectored)).2.attach (.scripted .loopback)).2.attach
      (.scripted .loopback)).2
  ((m.routeWrite 0x31 (.device 0)).routeWrite 0x40 (.device 1)).routeWrite 0x41 (.device 2)

/-- The writes to the other device are visits, and the one to the device that runs the program is
stored. -/
theorem devices_return_relaying :
    (∀ s ∈ relaying.bus.slots, s.device.isSome) ∧
      ((Request.deo 0x31 0).visits 0 relaying).map
      (fun v => (v.id, v.found.progress, v.left.progress)) =
        [(1, some (0, #[]), some (1, #[0x12])), (1, some (1, #[0x12]), some (2, #[0x12, 0x34])),
          (0, some (0, #[]), some (1, #[0]))] ∧
      (∃ m' d₀ d₁, (Request.deo 0x31 0).perform 0 relaying = some m' ∧
        m'.bus.slots[0]? = some ⟨"vectored", some d₀⟩ ∧ d₀.progress = some (1, #[0]) ∧
        m'.bus.slots[1]? = some ⟨"loopback", some d₁⟩ ∧ d₁.progress = some (2, #[0x12, 0x34]) ∧
        m'.bus.slots[2]? = some ⟨"loopback", some (.scripted .loopback)⟩) ∧
      ∃ n, relaying.Underway 0 (.deo 0x31 0) [0] (.deo 0x31 0) n ∧ n.bus.deviceAt? 0 = none ∧
        (n.deoWith .refused 0x31 0).map (·.board.ports) = some (n.board.ports.set 0x31 0) := by
  have hm : ∀ s ∈ relaying.bus.slots, s.device.isSome := by
    simp [relaying, load, note, bare, Bus.empty]
  have hroute : relaying.bus.writeRoute 0x31 = some (.device 0) := by
    simp [relaying, Bus.writeRoute_setWriteRoute]
  obtain ⟨hreturn, -, hnested⟩ := devices_return hm 0 (.deo 0x31 0)
  refine ⟨hm, by decide +kernel, ?_, ?_⟩
  · have hp : ((Request.deo 0x31 0).perform 0 relaying).isSome := by decide +kernel
    obtain ⟨m', hp⟩ := Option.isSome_iff_exists.1 hp
    obtain ⟨-, -, -, hslots, -⟩ := hreturn m' hp
    obtain ⟨d, d₀, hd, hs₀, -, hled₀, -⟩ := hslots 0 ⟨"vectored", some (.scripted .vectored)⟩ rfl
    cases hd
    obtain ⟨d, d₁, hd, hs₁, -, hled₁, -⟩ := hslots 1 ⟨"loopback", some (.scripted .loopback)⟩ rfl
    cases hd
    obtain ⟨d, d₂, hd, hs₂, -, hled₂, -⟩ := hslots 2 ⟨"loopback", some (.scripted .loopback)⟩ rfl
    cases hd
    have hnone : ((Request.deo 0x31 0).visits 0 relaying).filter (·.id = 2) = [] :=
      List.isEmpty_iff.1 (by decide +kernel)
    rw [hnone] at hled₂
    cases hled₂
    refine ⟨m', d₀, d₁, hp, hs₀, ?_, hs₁, ?_, hs₂⟩
    · rw [hled₀.eq_getLast]
      decide +kernel
    · rw [hled₁.eq_getLast]
      decide +kernel
  · have hu : ∃ r n, relaying.Underway 0 (.deo 0x31 0) [0] (.run 0) r ∧
        relaying.Underway 0 (.deo 0x31 0) [0] (.deo 0x31 0) n :=
      underway_of_vectored hroute rfl (by decide +kernel) (by decide +kernel)
    obtain ⟨r, n, -, hn⟩ := hu
    obtain ⟨-, haway, -, hplain⟩ := hnested _ _ _ hn
    have hr : n.bus.writeRoute 0x31 = some (.device 0) :=
      (congrArg (·.writeRoute 0x31) hn.awayAt.layout).trans hroute
    refine ⟨n, hn, (haway 0 (by decide +kernel)).2 (by decide), ?_⟩
    rw [(hplain 0 (by decide) .refused).2 0x31 0 hr]
    rfl

end Machine

end FantasyConsole
