import FantasyConsole.Proofs.Returning

/-!
# Histories of requests

What happens to a machine during a request can be told as a list: key events and accesses
to ports, each with the machine as it then is. What holds of each occurrence and can be
put together along such lists holds of every request. The accesses of a history are
those that are under way while no handler runs.
-/
namespace FantasyConsole

/-- What happens to a machine: a key event or a call. -/
inductive Occurrence where
  | press (code : UInt8) (m : Machine)
  | call (c : Call) (m : Machine)

namespace Machine

def runHistory (m : Machine) (fuel : Nat) (start : UInt16) : List Occurrence :=
  ((Handler.program (m.budget fuel) start).calls (m.inner fuel).instructions m).map
    fun p => .call p.1 p.2

def vblankHistory (m : Machine) (fuel : Nat) : List Occurrence :=
  if m.board.vdp.has Mode.vblank then m.runHistory fuel (m.board.vdp.register Register.vblank)
  else []

def hblankHistory (m : Machine) (fuel : Nat) (y : UInt16) : List Occurrence :=
  if m.board.vdp.has Mode.hblank && y == m.board.vdp.register Register.hblankRow then
    m.runHistory fuel (m.board.vdp.register Register.hblank)
  else []

def rowsHistory (fuel : Nat) : (count y : Nat) → Machine → List Occurrence
  | 0, _, _ => []
  | count + 1, y, m =>
    (m.collectSprites (UInt16.ofNat y)).hblankHistory fuel (UInt16.ofNat y) ++
      (m.beginRow fuel (UInt16.ofNat y)).elim [] (rowsHistory fuel count (y + 1))

def renderHistory (m : Machine) (fuel rows : Nat) : List Occurrence :=
  m.vblankHistory fuel ++ (m.vblank fuel).elim [] fun m =>
    if Mode.isDirty m.board.vdp.mode then rowsHistory fuel rows 0 m.markPalette else []

def pressHistory (m : Machine) (fuel : Nat) (code : UInt8) : List Occurrence :=
  .press code m :: match m.controller with
    | none => []
    | some id =>
      match m.bus.deviceAt? id with
      | some (.controller c) =>
        if c.vector = 0 then [] else (m.latched id c code).runHistory fuel c.vector
      | _ => []

end Machine

def Request.history (fuel : Nat) : Request → Machine → List Occurrence
  | .dei port, m => [.call (.dei port) m]
  | .deo port v, m => [.call (.deo port v) m]
  | .run start, m => m.runHistory fuel start
  | .press code, m => m.pressHistory fuel code
  | .render frame, m => m.renderHistory fuel (Machine.rowCount frame.size)

namespace Machine

def requests (m : Machine) (fuel : Nat) (qs : List Request) : Option Machine :=
  qs.foldlM (fun m q => q.perform fuel m) m

def history (fuel : Nat) : List Request → Machine → List Occurrence
  | [], _ => []
  | q :: qs, m => q.history fuel m ++ (q.perform fuel m).elim [] (history fuel qs)

variable {fuel : Nat} {m n : Machine}

/-! ## Along a history -/

/-- A relation between a machine, a history from it on and the machine that it ends with, if any,
which holds of each occurrence and along histories. -/
structure Traced (fuel : Nat) (T : Machine → List Occurrence → Option Machine → Prop) : Prop where
  rest : ∀ {m : Machine} {r : Option Machine}, (∀ n, r = some n → SameAround m n) → T m [] r
  bind : ∀ {m : Machine} {os : List Occurrence} {r : Option Machine} {f : Machine → Option Machine}
    {g : Machine → List Occurrence}, T m os r → (∀ n, r = some n → T n (g n) (f n)) →
    T m (os ++ r.elim [] g) (r.bind f)
  port : ∀ {c : Call} (m : Machine), c.IsPort → T m [.call c m] ((m.access fuel).after c m)
  latch : ∀ {m : Machine} {id : Nat} {c : Controller} (code : UInt8), m.controller = some id →
    m.bus.deviceAt? id = some (.controller c) → T m [.press code m] (some (m.latched id c code))
  idle : ∀ {m n : Machine} (code : UInt8), (∀ id c, m.controller = some id →
    m.bus.deviceAt? id ≠ some (.controller c)) → SameAround m n → T m [.press code m] (some n)

variable {T : Machine → List Occurrence → Option Machine → Prop}

theorem Traced.refl (hT : Traced fuel T) (m : Machine) : T m [] (some m) :=
  hT.rest fun _ hn => Option.some.inj hn ▸ .refl m

theorem Traced.after (hT : Traced fuel T) (h : SameAround m n) {os : List Occurrence}
    {r : Option Machine} (hn : T n os r) : T m os r :=
  hT.bind (f := fun _ => r) (g := fun _ => os) (hT.rest fun _ ha => Option.some.inj ha ▸ h)
    fun _ ha => Option.some.inj ha ▸ hn

/-- What comes after changes the board only, if it returns. -/
theorem Traced.ending (hT : Traced fuel T) {os : List Occurrence} {r : Option Machine}
    (h : T m os r)
    {f : Machine → Option Machine} (hf : ∀ n, r = some n → ∀ n', f n = some n' → SameAround n n') :
    T m os (r.bind f) := by
  have hos : os ++ r.elim [] (fun _ => []) = os := by cases r <;> exact List.append_nil os
  exact hos ▸ hT.bind (g := fun _ => []) h fun n hn => hT.rest (hf n hn)

theorem Traced.map (hT : Traced fuel T) {os : List Occurrence} {r : Option Machine} (h : T m os r)
    {f : Machine → Machine} (hf : ∀ n, SameAround n (f n)) : T m os (r.map f) := by
  rw [Option.map_eq_bind]
  exact hT.ending h fun n _ n' hn' => Option.some.inj hn' ▸ hf n

/-- A handler without runs, whose calls are answered like those of instructions: the induction is on
the tree. -/
theorem Traced.follow (hT : Traced fuel T) {α : Type} {h : Handler α} (hh : h.Calling Call.IsPort)
    {inner : Access} (hi : m.inner fuel = inner) :
    T m ((h.calls inner.instructions m).map fun p => .call p.1 p.2)
      ((h.follow inner.instructions m).map (·.2)) := by
  have hport {c : Call} {m : Machine} (hc : c.IsPort) (hi : m.inner fuel = inner) :
      T m [.call c m] (inner.instructions.after c m) := by
    have hafter : inner.instructions.after c m = (m.access fuel).after c m := by
      rw [access_eq_above, hi]
      exact (Access.agree_instructions fuel inner hc m).after_eq
    exact hafter ▸ hT.port m hc
  have hsame {c : Call} {m n : Machine} (hi : m.inner fuel = inner)
      (hn : inner.instructions.after c m = some n) : n.inner fuel = inner := by
    subst hi
    rw [inner, ((m.keeps_instructions fuel).after hn).attachedCount]
    rfl
  induction h generalizing m with
  | done a => exact hT.refl m
  | inspect next ih => exact ih m.board (hh m.board) hi
  | update f next ih => exact hT.after ⟨f m.board, rfl⟩ (ih hh hi)
  | dei port next ih =>
    have hfirst := hport hh.1 hi
    rw [Access.after_dei] at hfirst
    rw [Handler.calls, Handler.follow]
    cases hd : inner.instructions.dei port m with
    | none =>
      rw [hd] at hfirst
      exact hfirst
    | some r =>
      rw [hd] at hfirst
      have hi' : r.2.inner fuel = inner :=
        hsame (c := .dei port) hi (by rw [Access.after_dei, hd]; rfl)
      exact hT.bind (f := fun n => ((next r.1).follow inner.instructions n).map (·.2))
        (g := fun n => ((next r.1).calls inner.instructions n).map fun p => .call p.1 p.2)
        hfirst fun n hn => Option.some.inj hn ▸ ih r.1 (hh.2 r.1) hi'
  | deo port v next ih =>
    have hfirst := hport hh.1 hi
    rw [Access.after_deo] at hfirst
    rw [Handler.calls, Handler.follow]
    cases hd : inner.instructions.deo port v m with
    | none =>
      rw [hd] at hfirst
      exact hfirst
    | some n =>
      rw [hd] at hfirst
      exact hT.bind (f := fun n => (next.follow inner.instructions n).map (·.2))
        (g := fun n => (next.calls inner.instructions n).map fun p => .call p.1 p.2)
        hfirst fun a ha => Option.some.inj ha ▸ ih hh.2 (hsame (c := .deo port v) hi hd)
  | run start next ih => exact hh.1.elim

theorem sameAround_of_concluded {limit : Option UInt64} {start : UInt16}
    {r : Option UInt16 × Machine}
    {o : Outcome} (h : concluded limit start r = some (o, n)) : SameAround r.2 n := by
  obtain ⟨_ | pc, a⟩ := r
  · cases h
    exact ⟨_, rfl⟩
  · obtain ⟨l, -, hl⟩ := Option.map_eq_some_iff.1 h
    cases hl
    exact ⟨_, rfl⟩

theorem Traced.run (hT : Traced fuel T) (m : Machine) (start : UInt16) :
    T m (m.runHistory fuel start) ((m.run fuel start).map (·.2)) := by
  have hfollow := hT.follow (Handler.calling_program (m.budget fuel) start) (m := m) rfl
  rw [run_eq_concluded, access_eq_above, ← steps_instructions, ← Handler.follow_program]
  cases hr : (Handler.program (m.budget fuel) start).follow (m.inner fuel).instructions m with
  | none =>
    rw [hr] at hfollow
    exact hfollow
  | some r =>
    rw [hr] at hfollow
    refine hT.ending (f := fun _ => (concluded m.config.stepLimit start r).map (·.2)) hfollow ?_
    intro n hn n' hn'
    obtain ⟨⟨o, a⟩, ha, rfl⟩ := Option.map_eq_some_iff.1 hn'
    exact Option.some.inj hn ▸ sameAround_of_concluded ha

theorem Traced.vblank (hT : Traced fuel T) (m : Machine) :
    T m (m.vblankHistory fuel) (m.vblank fuel) := by
  rw [vblankHistory, Machine.vblank]
  split
  · exact hT.run m _
  · exact hT.refl m

theorem Traced.beginRow (hT : Traced fuel T) (m : Machine) (y : UInt16) :
    T m ((m.collectSprites y).hblankHistory fuel y) (m.beginRow fuel y) := by
  have hblank : T (m.collectSprites y) ((m.collectSprites y).hblankHistory fuel y)
      ((m.collectSprites y).hblank fuel y) := by
    rw [hblankHistory, hblank]
    split
    · exact hT.run _ _
    · exact hT.refl _
  exact hT.map (hT.after ⟨_, rfl⟩ hblank) fun _ => ⟨_, rfl⟩

theorem Traced.rows (hT : Traced fuel T) (m : Machine) (count y : Nat) :
    T m (rowsHistory fuel count y m) (passRows fuel count y m) := by
  induction count generalizing m y with
  | zero => exact hT.refl m
  | succ count ih =>
    have hrows : passRows fuel (count + 1) y m =
        (m.beginRow fuel (UInt16.ofNat y)).bind (passRows fuel count (y + 1)) := by
      rw [passRows]
      cases m.beginRow fuel (UInt16.ofNat y) <;> rfl
    rw [hrows, rowsHistory]
    exact hT.bind (hT.beginRow m (UInt16.ofNat y)) fun n _ => ih n (y + 1)

theorem map_fst_render_eq_bind (m : Machine) (fuel : Nat) (frame : Array UInt32) :
    (m.render fuel frame).map (·.1) = (m.vblank fuel).bind fun m =>
      if Mode.isDirty m.board.vdp.mode then passRows fuel (rowCount frame.size) 0 m.markPalette
      else some m := by
  rw [map_fst_render, pass]
  cases m.vblank fuel with
  | none => rfl
  | some n =>
    dsimp only [Option.bind_some]
    split
    · rw [Option.map_map]
      exact Option.map_id'
    · rfl

theorem Traced.render (hT : Traced fuel T) (m : Machine) (frame : Array UInt32) :
    T m (m.renderHistory fuel (rowCount frame.size)) ((m.render fuel frame).map (·.1)) := by
  rw [map_fst_render_eq_bind, renderHistory]
  refine hT.bind (hT.vblank m) fun n _ => ?_
  split
  · exact hT.after ⟨_, rfl⟩ (hT.rows n.markPalette _ 0)
  · exact hT.refl n

section Press

variable {id : Nat} {c : Controller} (hi : m.controller = some id)
  (hc : m.bus.deviceAt? id = some (.controller c))
include hi hc

theorem press_of_controller (fuel : Nat) (code : UInt8) : m.press fuel code =
    if c.vector = 0 then some (m.latched id c code)
    else ((m.latched id c code).run fuel c.vector).map (·.2) := by
  rw [press, latched, back, hi]
  dsimp only
  rw [hc]

theorem pressHistory_of_controller (fuel : Nat) (code : UInt8) : m.pressHistory fuel code =
    .press code m :: if c.vector = 0 then []
    else (m.latched id c code).runHistory fuel c.vector := by
  rw [pressHistory, hi]
  dsimp only
  rw [hc]

end Press

theorem press_of_none
    (h : ∀ id c, m.controller = some id → m.bus.deviceAt? id ≠ some (.controller c))
    (fuel : Nat) (code : UInt8) :
    (∃ n, m.press fuel code = some n ∧ SameAround m n) ∧
      m.pressHistory fuel code = [.press code m] := by
  cases hi : m.controller with
  | none =>
    exact ⟨⟨m.note (.noController code), by rw [press, hi], ⟨_, rfl⟩⟩, by rw [pressHistory, hi]⟩
  | some id =>
    have hother : ∀ c, m.bus.deviceAt? id ≠ some (.controller c) := fun c => h id c hi
    rw [press, pressHistory, hi]
    dsimp only
    constructor
    · split
      · exact absurd ‹_› (hother _)
      · exact ⟨m, rfl, .refl m⟩
    · split
      · exact absurd ‹_› (hother _)
      · rfl

theorem Traced.press (hT : Traced fuel T) (m : Machine) (code : UInt8) :
    T m (m.pressHistory fuel code) (m.press fuel code) := by
  by_cases h : ∃ id c, m.controller = some id ∧ m.bus.deviceAt? id = some (.controller c)
  · obtain ⟨id, c, hi, hc⟩ := h
    have hfirst := hT.latch code hi hc
    rw [press_of_controller hi hc, pressHistory_of_controller hi hc]
    split
    · exact hfirst
    · exact hT.bind (f := fun n => (n.run fuel c.vector).map (·.2))
        (g := fun n => n.runHistory fuel c.vector) hfirst fun n _ => hT.run n c.vector
  · have hnone : ∀ id c, m.controller = some id → m.bus.deviceAt? id ≠ some (.controller c) :=
      fun id c hi hc => h ⟨id, c, hi, hc⟩
    obtain ⟨⟨n, hn, hs⟩, hos⟩ := press_of_none hnone fuel code
    rw [hn, hos]
    exact hT.idle code hnone hs

theorem Traced.perform (hT : Traced fuel T) (m : Machine) (q : Request) :
    T m (q.history fuel m) (q.perform fuel m) := by
  cases q with
  | dei port => exact hT.port m trivial
  | deo port v => exact hT.port m trivial
  | run start => exact hT.run m start
  | press code => exact hT.press m code
  | render frame => exact hT.render m frame

/-- What a sequence of requests does, by induction on the sequence. -/
theorem Traced.requests (hT : Traced fuel T) (m : Machine) (qs : List Request) :
    T m (history fuel qs m) (m.requests fuel qs) := by
  induction qs generalizing m with
  | nil => exact hT.refl m
  | cons q qs ih =>
    rw [Machine.requests, List.foldlM_cons, history]
    exact hT.bind (hT.perform m q) fun n _ => ih n

/-! ## What is in a history -/

theorem mem_runHistory {start : UInt16} {c : Call} :
    .call c n ∈ m.runHistory fuel start ↔ m.Makes fuel (.run start) none c n := by
  constructor
  · intro h
    obtain ⟨p, hp, he⟩ := List.mem_map.1 h
    cases he
    exact .run hp
  · intro h
    cases h with
    | run hp => exact List.mem_map_of_mem hp

theorem mem_rowsHistory {count y : Nat} {o : Occurrence} :
    o ∈ rowsHistory fuel count y m ↔ ∃ k < count, ∃ a, passRows fuel k y m = some a ∧
      o ∈ (a.collectSprites (UInt16.ofNat (y + k))).hblankHistory fuel (UInt16.ofNat (y + k)) := by
  induction count generalizing m y with
  | zero => simp [rowsHistory]
  | succ count ih =>
    have hrest : o ∈ (m.beginRow fuel (UInt16.ofNat y)).elim [] (rowsHistory fuel count (y + 1)) ↔
        ∃ k < count, ∃ a, passRows fuel (k + 1) y m = some a ∧
          o ∈ (a.collectSprites (UInt16.ofNat (y + (k + 1)))).hblankHistory fuel
            (UInt16.ofNat (y + (k + 1))) := by
      cases hb : m.beginRow fuel (UInt16.ofNat y) with
      | none => simp [passRows, hb]
      | some b =>
        simp only [Option.elim_some, ih, passRows, hb, Nat.add_right_comm y 1, Nat.add_assoc]
    rw [rowsHistory, List.mem_append, hrest]
    constructor
    · rintro (h | ⟨k, hk, h⟩)
      · exact ⟨0, Nat.succ_pos count, m, rfl, h⟩
      · exact ⟨k + 1, Nat.succ_lt_succ hk, h⟩
    · rintro ⟨_ | k, hk, a, hp, h⟩
      · cases hp
        exact .inl h
      · exact .inr ⟨k, Nat.lt_of_succ_lt_succ hk, a, hp, h⟩

/-- A call at no depth is one that the request begins, or one of a run that the request begins. -/
theorem underway_nil_iff {q : Request} {c : Call} : m.Underway fuel q [] c n ↔ m.Begins fuel q c n ∨
    ∃ start a, m.Begins fuel q (.run start) a ∧ a.Makes fuel (.run start) none c n := by
  constructor
  · intro h
    generalize hactive : ([] : List Nat) = active at h
    induction h with
    | host hb => exact .inl hb
    | @nested active c c' a n entered h hm ih =>
      cases entered with
      | some id => exact absurd hactive (by simp)
      | none =>
        cases hm with
        | run hp =>
          rcases ih hactive with hb | ⟨start', b, -, hm'⟩
          · exact .inr ⟨_, _, hb, .run hp⟩
          · exact hm'.isPort.elim
  · rintro (hb | ⟨start, a, hb, hm⟩)
    · exact .host hb
    · exact .nested (.host hb) hm

theorem Begins.mem_history {q : Request} {start : UInt16} {a : Machine}
    (h : m.Begins fuel q (.run start) a)
    {o : Occurrence} (ho : o ∈ a.runHistory fuel start) : o ∈ q.history fuel m := by
  cases h with
  | run start => exact ho
  | press code hi hc hv =>
    rw [Request.history, pressHistory_of_controller hi hc, if_neg hv]
    exact List.mem_cons_of_mem _ ho
  | vblank frame h =>
    refine List.mem_append_left _ ?_
    rw [vblankHistory, if_pos h]
    exact ho
  | hblank hv hd hy hp hb hr =>
    subst hb
    refine List.mem_append_right _ ?_
    rw [hv, Option.elim_some, if_pos hd]
    refine mem_rowsHistory.2 ⟨_, hy, _, hp, ?_⟩
    rw [Nat.zero_add, hblankHistory,
      if_pos ((runsBlank_iff _ (Nat.lt_of_lt_of_le hy (rowCount_le _))).1 hr)]
    exact ho

/-- What happens during a request is a key event, the request's own access to a port, or a call of a
run that the request begins. -/
theorem of_mem_history {q : Request} {o : Occurrence} (h : o ∈ q.history fuel m) :
    (∃ code, q = .press code ∧ o = .press code m) ∨
      (∃ c : Call, c.IsPort ∧ m.Begins fuel q c m ∧ o = .call c m) ∨
      ∃ start a, m.Begins fuel q (.run start) a ∧ o ∈ a.runHistory fuel start := by
  cases q with
  | dei port => exact .inr (.inl ⟨.dei port, trivial, .dei port, List.mem_singleton.1 h⟩)
  | deo port v => exact .inr (.inl ⟨.deo port v, trivial, .deo port v, List.mem_singleton.1 h⟩)
  | run start => exact .inr (.inr ⟨start, m, .run start, h⟩)
  | press code =>
    rw [Request.history] at h
    by_cases hpad : ∃ id c, m.controller = some id ∧ m.bus.deviceAt? id = some (.controller c)
    · obtain ⟨id, c, hi, hc⟩ := hpad
      rw [pressHistory_of_controller hi hc] at h
      rcases List.mem_cons.1 h with rfl | h
      · exact .inl ⟨code, rfl, rfl⟩
      · split at h
        · exact absurd h List.not_mem_nil
        · exact .inr (.inr ⟨c.vector, _, .press code hi hc ‹_›, h⟩)
    · rw [(press_of_none (fun id c hi hc => hpad ⟨id, c, hi, hc⟩) fuel code).2] at h
      exact .inl ⟨code, rfl, List.mem_singleton.1 h⟩
  | render frame =>
    right
    right
    rcases List.mem_append.1 h with h | h
    · rw [vblankHistory] at h
      split at h
      · exact ⟨_, m, .vblank frame ‹_›, h⟩
      · exact absurd h List.not_mem_nil
    · cases hv : m.vblank fuel with
      | none =>
        rw [hv] at h
        exact absurd h List.not_mem_nil
      | some m₀ =>
        rw [hv, Option.elim_some] at h
        split at h
        · obtain ⟨y, hy, a, hp, ho⟩ := mem_rowsHistory.1 h
          rw [Nat.zero_add, hblankHistory] at ho
          split at ho
          · rename_i hd hr
            have hlt : y < 224 := Nat.lt_of_lt_of_le hy (rowCount_le _)
            exact ⟨_, _, .hblank hv hd hy hp rfl ((runsBlank_iff _ hlt).2 hr), ho⟩
          · exact absurd ho List.not_mem_nil
        · exact absurd h List.not_mem_nil

theorem press_mem_history (fuel : Nat) (code : UInt8) (m : Machine) :
    .press code m ∈ (Request.press code).history fuel m :=
  List.mem_cons_self

theorem mem_history_iff {q : Request} {c : Call} :
    .call c n ∈ q.history fuel m ↔ c.IsPort ∧ m.Underway fuel q [] c n := by
  rw [underway_nil_iff]
  constructor
  · intro h
    rcases of_mem_history h with ⟨code, -, ho⟩ | ⟨c', hc, hb, ho⟩ | ⟨start, a, hb, ho⟩
    · exact absurd ho (by simp)
    · cases ho
      exact ⟨hc, .inl hb⟩
    · have hm := mem_runHistory.1 ho
      exact ⟨hm.isPort, .inr ⟨start, a, hb, hm⟩⟩
  · rintro ⟨hc, hb | ⟨start, a, hb, hm⟩⟩
    · cases hb with
      | dei port => exact List.mem_singleton_self _
      | deo port v => exact List.mem_singleton_self _
      | run | press | vblank | hblank => exact hc.elim
    · exact hb.mem_history (mem_runHistory.2 hm)

theorem mem_history_requests_iff {qs : List Request} {o : Occurrence} : o ∈ history fuel qs m ↔
    ∃ qs₁ q qs₂ a, qs = qs₁ ++ q :: qs₂ ∧ m.requests fuel qs₁ = some a ∧ o ∈ q.history fuel a := by
  constructor
  · intro h
    induction qs generalizing m with
    | nil => exact absurd h List.not_mem_nil
    | cons q qs ih =>
      rcases List.mem_append.1 h with h | h
      · exact ⟨[], q, qs, m, rfl, rfl, h⟩
      · cases hq : q.perform fuel m with
        | none =>
          rw [hq] at h
          exact absurd h List.not_mem_nil
        | some b =>
          rw [hq] at h
          obtain ⟨qs₁, p, qs₂, a, rfl, ha, ho⟩ := ih h
          refine ⟨q :: qs₁, p, qs₂, a, rfl, ?_, ho⟩
          rw [requests, List.foldlM_cons, hq]
          exact ha
  · rintro ⟨qs₁, q, qs₂, a, rfl, ha, ho⟩
    induction qs₁ generalizing m with
    | nil =>
      cases ha
      exact List.mem_append_left _ ho
    | cons p qs ih =>
      rw [requests, List.foldlM_cons] at ha
      obtain ⟨b, hb, hrest⟩ := Option.bind_eq_some_iff.1 ha
      refine List.mem_append_right _ ?_
      rw [hb]
      exact ih hrest

end Machine

end FantasyConsole
