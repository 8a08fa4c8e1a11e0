import FantasyConsole.Proofs.Histories
import FantasyConsole.Proofs.StandardAccess

/-!
# What the controller remembers

A controller remembers a code and a vector. Over any requests of a host and whatever the
programs do that run meanwhile, the code is that of the last key event, and the vector is
what its field held when its port was last written to. This is so although the code is
left in the field's first byte whenever it is read.
-/
namespace FantasyConsole

namespace Occurrence

def code? : Occurrence → Option UInt8
  | .press code _ => some code
  | .call _ _ => none

/-- What the controller's field holds when its port is written to. -/
def vector? : Occurrence → Option UInt16
  | .call (.deo port v) n =>
    if port = Device.vectorPort then some ((n.board.setPort port v).ports.fieldEndingAt port)
    else none
  | _ => none

def last? {α : Type} (f : Occurrence → Option α) (os : List Occurrence) : Option α :=
  os.reverse.findSome? f

theorem last?_cons {α : Type} (f : Occurrence → Option α) (o : Occurrence) (os : List Occurrence) :
    last? f (o :: os) = (last? f os).or (f o) := by
  rw [last?, List.reverse_cons, List.findSome?_append, last?, List.findSome?_singleton]

def lastCode (os : List Occurrence) : UInt8 := (last? code? os).getD 0

def lastVector (os : List Occurrence) : UInt16 := (last? vector? os).getD 0

end Occurrence

namespace Controller

open Occurrence

def after (c : Controller) (o : Occurrence) : Controller :=
  ⟨o.code?.getD c.code, o.vector?.getD c.vector⟩

def replay (c : Controller) (os : List Occurrence) : Controller := os.foldl after c

theorem replay_append (c : Controller) (a b : List Occurrence) :
    c.replay (a ++ b) = (c.replay a).replay b :=
  List.foldl_append

theorem replay_eq (c : Controller) (os : List Occurrence) :
    c.replay os = ⟨(last? code? os).getD c.code, (last? vector? os).getD c.vector⟩ := by
  induction os generalizing c with
  | nil => rfl
  | cons o os ih =>
    have hgetD {α : Type} (a b : Option α) (d : α) : (a.or b).getD d = a.getD (b.getD d) := by
      cases a <;> rfl
    change (c.after o).replay os = _
    rw [ih, last?_cons, last?_cons, hgetD, hgetD]
    rfl

end Controller

namespace Machine

theorem exists_requests {m : Machine} {l : UInt64} (hl : m.config.stepLimit = some l) (fuel : Nat)
    (qs : List Request) :
    ∃ n, m.requests fuel qs = some n := by
  induction qs generalizing m with
  | nil => exact ⟨m, rfl⟩
  | cons q qs ih =>
    obtain ⟨a, ha⟩ := exists_perform hl fuel q
    obtain ⟨n, hn⟩ := ih ((sameSetup_perform ha).config ▸ hl)
    refine ⟨n, ?_⟩
    rw [requests, List.foldlM_cons, ha]
    exact hn

section Standard

variable {config : Config} {filter : LogFilter} {image : Array UInt8}
    {input : Option (List UInt8)} {m : Machine}
  {c : Controller} {fuel : Nat}

/-- A standard machine whose controller is `c`. -/
structure Holding (config : Config) (filter : LogFilter) (image : Array UInt8)
    (input : Option (List UInt8)) (c : Controller) (m : Machine) : Prop where
  setup : SameSetup (standard config filter image input) m
  pad : m.bus.deviceAt? 3 = some (.controller c)

theorem Holding.of_sameAround (h : Holding config filter image input c m) {n : Machine}
    (hn : SameAround m n) :
    Holding config filter image input c n :=
  ⟨h.setup.trans hn.sameSetup, hn.bus ▸ h.pad⟩

/-! ## Accesses -/

theorem Holding.deiWith_codePort (h : Holding config filter image input c m) (inner : Access) :
    m.deiWith inner Device.codePort =
      some (c.code, { m with board := m.board.setPort Device.codePort c.code }) := by
  have hr : m.bus.readRoute Device.codePort = some (.device 3) :=
    (h.setup.readRoute _).trans (readRoute_standard ..)
  have hf : ((Device.controller c).onRead Device.codePort).follow inner (m.away 3) =
      some ((c.code, .controller c),
        { m.away 3 with board := m.board.setPort Device.codePort c.code }) := rfl
  rw [deiWith_of_device hr h.pad, hf]
  exact congrArg (fun n => some (c.code, n)) (back_away h.pad _)

theorem Holding.dei (h : Holding config filter image input c m) (inner : Access) (port : UInt8) :
    ∃ v n, m.deiWith inner port = some (v, n) ∧ Holding config filter image input c n := by
  obtain ⟨v, n, hd, hn⟩ := h.setup.exists_deiWith inner port
  exact ⟨v, n, hd, h.of_sameAround hn⟩

theorem Holding.deoWith_vectorPort (h : Holding config filter image input c m)
    (inner : Access) (v : UInt8) :
    let board := m.board.setPort Device.vectorPort v
    let vector := board.ports.fieldEndingAt Device.vectorPort
    m.deoWith inner Device.vectorPort v =
      some ({ m with board := board.note (.vectorSet vector) }.back 3
        (.controller { c with vector })) := by
  intro board vector
  have hr : m.bus.writeRoute Device.vectorPort = some (.device 3) :=
    (h.setup.writeRoute _).trans (writeRoute_standard ..)
  have hf : ((Device.controller c).onWrite Device.vectorPort).follow inner
        ({ m with board }.away 3) =
      some (.controller { c with vector },
        { m with board := board.note (.vectorSet vector) }.away 3) := rfl
  rw [deoWith_of_device hr h.pad, hf]
  exact congrArg (fun bus => some { m with board := board.note (.vectorSet vector), bus })
    (Bus.setDevice_setDevice m.bus 3 none (some (.controller { c with vector })))

theorem writeRoute_standard_controller {port : UInt8}
    (h : (standard config filter image input).bus.writeRoute port = some (.device 3)) :
    port = Device.vectorPort := by
  rw [writeRoute_standard] at h
  split_ifs at h with h₁ h₂ h₃ <;>
    simp only [Option.some.injEq, Route.device.injEq, reduceCtorEq] at h
  all_goals first | exact h₃.symm | exact absurd h (by decide)

/-- A write makes of the controller what its place in the history says. -/
theorem Holding.deo (h : Holding config filter image input c m) (inner : Access)
    (port v : UInt8) :
    ∃ n, m.deoWith inner port v = some n ∧
      Holding config filter image input (c.after (.call (.deo port v) m)) n := by
  obtain ⟨n, hn, hs, -, hothers⟩ := h.setup.exists_deoWith inner port v
  refine ⟨n, hn, h.setup.trans hs, ?_⟩
  by_cases hport : port = Device.vectorPort
  · subst hport
    rw [h.deoWith_vectorPort inner v] at hn
    cases hn
    exact Bus.deviceAt?_setDevice_self h.pad _
  · have hafter : c.after (.call (.deo port v) m) = c := by
      rw [Controller.after, Occurrence.vector?, if_neg hport]
      rfl
    have hroute : m.bus.writeRoute port ≠ some (.device 3) :=
      fun hr => hport (writeRoute_standard_controller ((h.setup.writeRoute port).symm.trans hr))
    rw [hafter, hothers 3 hroute, h.pad]

/-! ## Histories of programs -/

/-- At each call of a history the controller is what the history before has made of it. -/
def Recorded (config : Config) (filter : LogFilter) (image : Array UInt8)
    (input : Option (List UInt8)) :
    Controller → List Occurrence → Prop
  | _, [] => True
  | c, .press code m :: os => Recorded config filter image input (c.after (.press code m)) os
  | c, .call call n :: os => Holding config filter image input c n ∧
      Recorded config filter image input (c.after (.call call n)) os

theorem Recorded.append {a b : List Occurrence} (ha : Recorded config filter image input c a)
    (hb : Recorded config filter image input (c.replay a) b) :
    Recorded config filter image input c (a ++ b) := by
  induction a generalizing c with
  | nil => exact hb
  | cons o a ih =>
    cases o with
    | press code m => exact ih ha hb
    | call call n => exact ⟨ha.1, ih ha.2 hb⟩

theorem Recorded.holding {a b : List Occurrence} {call : Call} {n : Machine}
    (h : Recorded config filter image input c (a ++ .call call n :: b)) :
    Holding config filter image input (c.replay a) n := by
  induction a generalizing c with
  | nil => exact h.1
  | cons o a ih =>
    cases o with
    | press code m => exact ih h
    | call call n => exact ih h.2

/-- A history that is right at each call, and so is the machine that it ends with, if any. -/
structure Told (config : Config) (filter : LogFilter) (image : Array UInt8)
    (input : Option (List UInt8))
    (c : Controller) (os : List Occurrence) (r : Option Machine) : Prop where
  recorded : Recorded config filter image input c os
  reached : ∀ n, r = some n → Holding config filter image input (c.replay os) n

theorem Told.bind {os : List Occurrence} {r : Option Machine}
    (h : Told config filter image input c os r)
    {next : Machine → List Occurrence} {f : Machine → Option Machine}
    (hnext : ∀ n, r = some n → Told config filter image input (c.replay os) (next n) (f n)) :
    Told config filter image input c (os ++ r.elim [] next) (r.bind f) := by
  cases r with
  | none => exact ⟨h.recorded.append trivial, fun _ hn => absurd hn (Option.some_ne_none _).symm⟩
  | some n =>
    have hn := hnext n rfl
    refine ⟨h.recorded.append hn.recorded, fun n' hn' => ?_⟩
    rw [Option.elim_some, Controller.replay_append]
    exact hn.reached n' hn'

theorem Holding.told_port (hm : Holding config filter image input c m) (fuel : Nat) {call : Call}
    (hc : call.IsPort) :
    Told config filter image input c [.call call m] ((m.access fuel).after call m) := by
  refine ⟨⟨hm, trivial⟩, fun n' hn' => ?_⟩
  rw [access_eq_above] at hn'
  cases call with
  | dei port =>
    obtain ⟨v, n, hd, hn⟩ := hm.dei (m.inner fuel) port
    change (m.deiWith (m.inner fuel) port).map (·.2) = some n' at hn'
    rw [hd] at hn'
    exact Option.some.inj hn' ▸ hn
  | deo port v =>
    obtain ⟨n, hd, hn⟩ := hm.deo (m.inner fuel) port v
    change m.deoWith (m.inner fuel) port v = some n' at hn'
    rw [hd] at hn'
    exact Option.some.inj hn' ▸ hn
  | run start => exact hc.elim

theorem Holding.controller (hm : Holding config filter image input c m) : m.controller = some 3 :=
  hm.setup.controller

theorem Holding.latched (hm : Holding config filter image input c m) (code : UInt8) :
    Holding config filter image input (c.latch code) (m.latched 3 c code) :=
  ⟨hm.setup.trans (sameSetup_latched hm.pad code), Bus.deviceAt?_setDevice_self hm.pad _⟩

theorem traced_told (config : Config) (filter : LogFilter) (image : Array UInt8)
    (input : Option (List UInt8))
    (fuel : Nat) : Traced fuel fun m os r => ∀ c, Holding config filter image input c m →
      Told config filter image input c os r where
  rest h c hm := ⟨trivial, fun n hn => hm.of_sameAround (h n hn)⟩
  bind h hnext c hm := (h c hm).bind fun n hn => hnext n hn _ ((h c hm).reached n hn)
  port m hc c hm := hm.told_port fuel hc
  latch {m id c'} code hi hc c hm := by
    obtain rfl := Option.some.inj (hi.symm.trans hm.controller)
    cases Option.some.inj (hc.symm.trans hm.pad)
    exact ⟨trivial, fun n hn => Option.some.inj hn ▸ hm.latched code⟩
  idle code hnone _ c hm := absurd hm.pad (hnone 3 c hm.controller)

theorem Holding.press_eq (hm : Holding config filter image input c m) (fuel : Nat) (code : UInt8) :
    m.press fuel code = if c.vector = 0 then some (m.latched 3 c code)
      else ((m.latched 3 c code).run fuel c.vector).map (·.2) :=
  press_of_controller hm.controller hm.pad fuel code

/-! ## Calls under way -/

/-- Only runs lead to calls, and these are accesses to ports. -/
theorem SameSetup.of_makes (hs : SameSetup (standard config filter image input) m)
    {call call' : Call} {entered : Option Nat} {n : Machine}
    (h : m.Makes fuel call entered call' n) :
    entered = none ∧ ∃ start, call = .run start ∧
      (call', n) ∈
        (Handler.program (m.budget fuel) start).calls (m.inner fuel).instructions m := by
  cases h with
  | read hr hd hc =>
    exact (((hs.isBuiltIn hd).calling_onRead _ fun _ => False).of_mem_calls hc).elim
  | write hr hd hc =>
    exact (((hs.isBuiltIn hd).calling_onWrite _ fun _ => False).of_mem_calls hc).elim
  | run hc => exact ⟨rfl, _, rfl, hc⟩

/-- No call under way is nested in a handler. -/
theorem SameSetup.of_underway (hs : SameSetup (standard config filter image input) m) {q : Request}
    {active : List Nat} {call : Call} {n : Machine} (h : m.Underway fuel q active call n) :
    active = [] ∧ SameSetup (standard config filter image input) n := by
  induction h with
  | host hb => exact ⟨rfl, hs.trans hb.sameSetup⟩
  | nested _ hm ih =>
    obtain ⟨rfl, hn⟩ := ih
    obtain ⟨rfl, -⟩ := SameSetup.of_makes hn hm
    exact ⟨rfl, hn.trans hm.sameSetup⟩

theorem Holding.underway_press_iff (hm : Holding config filter image input c m) {code : UInt8}
    {active : List Nat}
    {start : UInt16} {r : Machine} : m.Underway fuel (.press code) active (.run start) r ↔
      active = [] ∧ c.vector ≠ 0 ∧ start = c.vector ∧ r = m.latched 3 c code := by
  constructor
  · intro h
    obtain ⟨rfl, -⟩ := hm.setup.of_underway h
    rcases underway_nil_iff.1 h with hb | ⟨start', a, hb, hc⟩
    · cases hb with
      | press code hi hc hv =>
        obtain rfl := Option.some.inj (hi.symm.trans hm.controller)
        cases Option.some.inj (hc.symm.trans hm.pad)
        exact ⟨rfl, hv, rfl, rfl⟩
    · exact hc.isPort.elim
  · rintro ⟨rfl, hv, rfl, rfl⟩
    exact .host (.press code hm.controller hm.pad hv)

theorem SameSetup.requests (hs : SameSetup (standard config filter image input) m)
    {qs : List Request} {a : Machine}
    (h : m.requests fuel qs = some a) : SameSetup (standard config filter image input) a := by
  induction qs generalizing m with
  | nil =>
    cases h
    exact hs
  | cons q qs ih =>
    rw [Machine.requests, List.foldlM_cons] at h
    obtain ⟨b, hb, hrest⟩ := Option.bind_eq_some_iff.1 h
    exact ih (hs.trans (sameSetup_perform hb)) hrest

/-- The calls of a history are all the accesses to ports that are under way meanwhile. -/
theorem SameSetup.mem_history_iff (hs : SameSetup (standard config filter image input) m)
    {qs : List Request} {call : Call} {n : Machine} : .call call n ∈ history fuel qs m ↔
      ∃ qs₁ q qs₂ a, qs = qs₁ ++ q :: qs₂ ∧ m.requests fuel qs₁ = some a ∧
        call.IsPort ∧ ∃ active, a.Underway fuel q active call n := by
  rw [mem_history_requests_iff]
  refine exists_congr fun qs₁ => exists_congr fun q => exists_congr fun qs₂ =>
    exists_congr fun a => ?_
  refine and_congr_right fun _ => and_congr_right fun ha => ?_
  rw [Machine.mem_history_iff]
  refine and_congr_right fun _ => ⟨fun h => ⟨[], h⟩, fun ⟨active, h⟩ => ?_⟩
  obtain ⟨rfl, -⟩ := (hs.requests ha).of_underway h
  exact h

/-! ## What is remembered -/

/-- The controller has the last code and the last vector of a history, and the code is what a read
of its port gives and leaves in the port's byte. -/
structure Remembers (m : Machine) (os : List Occurrence) : Prop where
  controller : m.bus.deviceAt? 3 =
    some (.controller ⟨Occurrence.lastCode os, Occurrence.lastVector os⟩)
  read : ∀ inner, m.deiWith inner 0x0A = some (Occurrence.lastCode os,
    { m with board := m.board.setPort 0x0A (Occurrence.lastCode os) })

theorem Holding.remembers {os : List Occurrence}
    (hm : Holding config filter image input (Controller.idle.replay os) m) : m.Remembers os := by
  have hc : Controller.idle.replay os = ⟨Occurrence.lastCode os, Occurrence.lastVector os⟩ :=
    Controller.replay_eq .idle os
  rw [hc] at hm
  exact ⟨hm.pad, hm.deiWith_codePort⟩

/-- What the controller remembers over any history of a standard machine that starts with an idle
controller. The requests return if there is a step limit. When they have returned, and also whenever
a program makes a call meanwhile, the controller has the code of the last key event and the vector
from the last write to its port. A key event then is one run on the machine with its code, at the
vector that was there before; without a vector it is none. The calls of the history are the accesses
to ports that are under way during the requests. -/
theorem controller_history (hs : SameSetup (standard config filter image input) m)
    (hidle : m.bus.deviceAt? 3 = some (.controller .idle)) (fuel : Nat) (qs : List Request) :
    let os := history fuel qs m
    (∀ l, m.config.stepLimit = some l → ∃ n, m.requests fuel qs = some n) ∧
    (∀ n, m.requests fuel qs = some n → n.Remembers os ∧ ∀ code,
      let c : Controller := ⟨Occurrence.lastCode os, Occurrence.lastVector os⟩
      n.press fuel code = (if c.vector = 0 then some (n.latched 3 c code)
        else ((n.latched 3 c code).run fuel c.vector).map (·.2)) ∧
      ∀ active start r, n.Underway fuel (.press code) active (.run start) r ↔
        active = [] ∧ c.vector ≠ 0 ∧ start = c.vector ∧ r = n.latched 3 c code) ∧
    (∀ before call n after, os = before ++ .call call n :: after → n.Remembers before) ∧
    ∀ call n, .call call n ∈ os ↔ ∃ qs₁ q qs₂ a, qs = qs₁ ++ q :: qs₂ ∧
      m.requests fuel qs₁ = some a ∧ call.IsPort ∧ ∃ active, a.Underway fuel q active call n := by
  intro os
  have hm : Holding config filter image input .idle m := ⟨hs, hidle⟩
  have hall := (traced_told config filter image input fuel).requests m qs _ hm
  refine ⟨fun l hl => exists_requests hl fuel qs, fun n hn => ?_, fun before call n after hos => ?_,
    fun call n => hs.mem_history_iff⟩
  · have hn := hall.reached n hn
    refine ⟨hn.remembers, fun code => ?_⟩
    rw [Controller.replay_eq] at hn
    exact ⟨hn.press_eq fuel code, fun active start r => hn.underway_press_iff⟩
  · have hrecorded : Recorded config filter image input .idle os := hall.recorded
    rw [hos] at hrecorded
    exact hrecorded.holding.remembers

end Standard

/-- A standard machine whose program installs a vector. The program there installs another one and
then reads the code, which goes into the field's first byte. -/
def rehooking : Machine :=
  ((standard (Config.standard.withStepLimit 100) (.upTo none) #[] none).load 0
    #[0xA0, 0x01, 0x00, 0x80, 0x0A, 0x37, 0x00]).load 0x0100
    #[0xA0, 0x02, 0x00, 0x80, 0x0A, 0x37, 0x80, 0x0A, 0x16, 0x02, 0x00]

theorem controller_history_rehooking :
    SameSetup (standard (Config.standard.withStepLimit 100) (.upTo none) #[] none) rehooking ∧
      rehooking.bus.deviceAt? 3 = some (.controller .idle) ∧
      ∃ n, rehooking.requests 0 [.run 0, .press 0x85] = some n ∧
        n.bus.deviceAt? 3 = some (.controller ⟨0x85, 0x0200⟩) ∧
        n.board.ports.fieldEndingAt 0x0B = 0x8500 ∧
        n.press 0 0x05 = ((n.latched 3 ⟨0x85, 0x0200⟩ 0x05).run 0 0x0200).map (·.2) := by
  have hs :
      SameSetup (standard (Config.standard.withStepLimit 100) (.upTo none) #[] none) rehooking :=
    (sameSetup_load _ _ _).trans (sameSetup_load _ _ _)
  have hidle : rehooking.bus.deviceAt? 3 = some (.controller .idle) := rfl
  obtain ⟨hreturn, hreached, -, -⟩ := controller_history hs hidle 0 [.run 0, .press 0x85]
  obtain ⟨n, hn⟩ := hreturn 100 rfl
  obtain ⟨hremembers, hpress⟩ := hreached n hn
  have hcode : Occurrence.lastCode (history 0 [.run 0, .press 0x85] rehooking) = 0x85 := by
    decide +kernel
  have hvector : Occurrence.lastVector (history 0 [.run 0, .press 0x85] rehooking) = 0x0200 := by
    decide +kernel
  have hfield : (rehooking.requests 0 [.run 0, .press 0x85]).map
      (·.board.ports.fieldEndingAt 0x0B) = some 0x8500 := by
    decide +kernel
  rw [hn, Option.map_some, Option.some.injEq] at hfield
  have hcontroller := hremembers.controller
  have hnext := (hpress 0x05).1
  rw [hcode, hvector] at hcontroller hnext
  exact ⟨hs, hidle, n, hn, hcontroller, hfield, hnext⟩

end Machine

end FantasyConsole
