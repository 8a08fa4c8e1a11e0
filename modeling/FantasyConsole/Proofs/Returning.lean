import FantasyConsole.Proofs.Nesting

/-!
# Requests that return

Under a step limit every request returns. A handler takes one more device away, so
the calls that it makes see one device fewer, and a run makes calls to ports only.
Along this order every call returns if the calls that it leads to do, and handlers
are nested at most as deep as there are devices. Each run ends within its limit.
-/
namespace FantasyConsole

namespace Machine

variable {fuel : Nat} {m n : Machine} {c c' : Call} {l : UInt64}

/-! ## Calls return if those they lead to do -/

theorem Makes.attachedCount {id : Nat} (h : m.Makes fuel c (some id) c' n) :
    n.bus.attachedCount + 1 = m.bus.attachedCount := by
  obtain ⟨d, hd⟩ := h.enters.present
  have hn : n.bus.attachedCount = (m.bus.setDevice id none).attachedCount :=
    h.sameSetup_away.attachedCount
  rw [hn, Bus.attachedCount_setDevice_none hd]

/-- What answers a handler's calls answers them as calls of a host on the same machine. -/
theorem Makes.inner_eq_access {id : Nat} (h : m.Makes fuel c (some id) c' n) :
    m.inner fuel = n.access fuel := by
  rw [inner, ← h.attachedCount]
  rfl

theorem Makes.isPort (h : m.Makes fuel c none c' n) : c'.IsPort := by
  cases h with
  | run hc => exact (Handler.calling_program _ _).of_mem_calls hc

theorem Makes.agree_access (h : m.Makes fuel c none c' n) :
    (m.inner fuel).instructions.Agree (n.access fuel) c' n := by
  have hi : m.inner fuel = n.inner fuel := by rw [inner, inner, h.sameSetup.attachedCount]
  rw [hi, access_eq_above]
  exact Access.agree_instructions fuel (n.inner fuel) h.isPort n

theorem Makes.config {entered : Option Nat} (h : m.Makes fuel c entered c' n) :
    n.config = m.config := by
  cases entered with
  | none => exact h.sameSetup.config
  | some id => exact h.sameSetup_away.config

/-- What leads to what comes to an end: the calls of a handler see one device fewer, and those of a
run are accesses to ports. -/
theorem makes_induction (fuel : Nat) {P : Call → Machine → Prop}
    (h : ∀ c m, (∀ entered c' n, m.Makes fuel c entered c' n → P c' n) → P c m) (c : Call)
    (m : Machine) :
    P c m := by
  generalize hk : m.bus.attachedCount = k
  induction k using Nat.strong_induction_on generalizing c m with
  | _ k ih =>
    have hhandler {c c' : Call} {m n : Machine} {id : Nat} (hk : m.bus.attachedCount = k)
        (hm : m.Makes fuel c (some id) c' n) : P c' n := by
      have hn := hm.attachedCount
      exact ih n.bus.attachedCount (by omega) c' n rfl
    have hport {c : Call} {m : Machine} (hk : m.bus.attachedCount = k) (hc : c.IsPort) : P c m := by
      refine h c m fun entered c' n hm => ?_
      cases entered with
      | some id => exact hhandler hk hm
      | none =>
        cases hm with
        | run _ => exact hc.elim
    refine h c m fun entered c' n hm => ?_
    cases entered with
    | some id => exact hhandler hk hm
    | none => exact hport (hm.sameSetup.attachedCount.trans hk) hm.isPort

/-- Under a step limit a call returns if all the calls that it leads to return. -/
theorem isSome_after_of_makes (hl : m.config.stepLimit = some l)
    (h : ∀ entered c' n, m.Makes fuel c entered c' n → ((n.access fuel).after c' n).isSome) :
    ((m.access fuel).after c m).isSome := by
  rw [access_eq_above]
  cases c with
  | dei port =>
    change ((m.deiWith (m.inner fuel) port).map (·.2)).isSome
    rw [Option.isSome_map, deiWith]
    split
    · rfl
    · rfl
    · rename_i id hr
      split
      · rfl
      · rename_i d hd
        have hf : ((d.onRead port).follow (m.inner fuel) (m.away id)).isSome := by
          refine (Handler.isSome_follow_iff _ _).2 fun p hp => ?_
          have hmakes : m.Makes fuel (.dei port) (some id) p.1 p.2 := .read hr hd hp
          rw [hmakes.inner_eq_access]
          exact h _ _ _ hmakes
        obtain ⟨r, hf⟩ := Option.isSome_iff_exists.1 hf
        unfold away at hf
        rw [hf]
        rfl
  | deo port v =>
    change (m.deoWith (m.inner fuel) port v).isSome
    rw [deoWith]
    dsimp only
    split
    · rfl
    · rfl
    · rename_i id hr
      split
      · rfl
      · rename_i d hd
        have hf : ((d.onWrite port).follow (m.inner fuel)
            ({ m with board := m.board.setPort port v }.away id)).isSome := by
          refine (Handler.isSome_follow_iff _ _).2 fun p hp => ?_
          have hmakes : m.Makes fuel (.deo port v) (some id) p.1 p.2 := .write hr hd hp
          rw [hmakes.inner_eq_access]
          exact h _ _ _ hmakes
        obtain ⟨r, hf⟩ := Option.isSome_iff_exists.1 hf
        unfold away at hf
        rw [hf]
        rfl
  | run start =>
    change ((m.runWith (m.inner fuel).instructions fuel start).map (·.2)).isSome
    have hb : m.budget fuel = l.toNat := by rw [budget, hl]
    have hs : (steps (m.inner fuel).instructions l.toNat start m).isSome := by
      rw [← Handler.follow_program, ← hb]
      refine (Handler.isSome_follow_iff _ _).2 fun p hp => ?_
      have hmakes : m.Makes fuel (.run start) none p.1 p.2 := .run hp
      rw [hmakes.agree_access.after_eq]
      exact h _ _ _ hmakes
    obtain ⟨⟨next, m'⟩, hr⟩ := Option.isSome_iff_exists.1 hs
    rw [Option.isSome_map, runWith, hl]
    dsimp only
    rw [hr]
    cases next <;> rfl

theorem isSome_after (fuel : Nat) (hl : m.config.stepLimit = some l) (c : Call) :
    ((m.access fuel).after c m).isSome := by
  induction c, m using makes_induction fuel with
  | h c m ih =>
    exact isSome_after_of_makes hl fun entered c' n hm => ih entered c' n hm (hm.config ▸ hl)

/-! ## Levels of nesting -/

theorem deiWith_congr {io io' : Access} {port : UInt8}
    (h : ∀ id d, m.bus.readRoute port = some (.device id) → m.bus.deviceAt? id = some d →
      (d.onRead port).follow io (m.away id) = (d.onRead port).follow io' (m.away id)) :
    m.deiWith io port = m.deiWith io' port := by
  rw [deiWith, deiWith]
  split
  · rfl
  · rfl
  · rename_i id hr
    split
    · rfl
    · rename_i d hd
      have hf := h id d hr hd
      unfold away at hf
      rw [hf]

theorem deoWith_congr {io io' : Access} {port v : UInt8}
    (h : ∀ id d, m.bus.writeRoute port = some (.device id) → m.bus.deviceAt? id = some d →
      (d.onWrite port).follow io ({ m with board := m.board.setPort port v }.away id) =
        (d.onWrite port).follow io' ({ m with board := m.board.setPort port v }.away id)) :
    m.deoWith io port v = m.deoWith io' port v := by
  rw [deoWith, deoWith]
  dsimp only
  split
  · rfl
  · rfl
  · rename_i id hr
    split
    · rfl
    · rename_i d hd
      have hf := h id d hr hd
      unfold away at hf
      rw [hf]

theorem runWith_congr {io io' : Access} {start : UInt16}
    (h : steps io (m.budget fuel) start m = steps io' (m.budget fuel) start m) :
    m.runWith io fuel start = m.runWith io' fuel start := by
  rw [runWith, runWith]
  cases hl : m.config.stepLimit with
  | none =>
    have hs : steps io fuel start m = steps io' fuel start m := by simpa only [budget, hl] using h
    simp only [hs]
  | some limit =>
    have hs : steps io limit.toNat start m = steps io' limit.toNat start m := by
      simpa only [budget, hl] using h
    simp only [hs]

/-- How a run ends that has come to an address, or to a halt where there is none. -/
def concluded (limit : Option UInt64) (start : UInt16) :
    Option UInt16 × Machine → Option (Outcome × Machine)
  | (none, n) => some (.halted, n)
  | (some pc, n) => limit.map fun l => (.ranOff, n.note (.limitReached start l.toNat pc))

theorem runWith_eq_concluded (io : Access) (m : Machine) (fuel : Nat) (start : UInt16) :
    m.runWith io fuel start = (steps io (m.budget fuel) start m).bind
      (concluded m.config.stepLimit start) := by
  rw [runWith, budget]
  cases m.config.stepLimit with
  | some l =>
    dsimp only
    cases steps io l.toNat start m with
    | none => rfl
    | some r => obtain ⟨_ | pc, n⟩ := r <;> rfl
  | none =>
    dsimp only
    cases steps io fuel start m with
    | none => rfl
    | some r => obtain ⟨_ | pc, n⟩ := r <;> rfl

/-- The instructions of a run may be answered as the host's own calls are. -/
theorem run_eq_concluded (m : Machine) (fuel : Nat) (start : UInt16) : m.run fuel start =
    (steps (m.access fuel) (m.budget fuel) start m).bind (concluded m.config.stepLimit start) := by
  rw [run, access_eq_above, ← steps_instructions]
  exact runWith_eq_concluded _ m fuel start

/-- A level for each device is enough: with more levels every call is answered in the same way. -/
theorem agree_level (c : Call) (m : Machine) {depth : Nat} (hd : m.bus.attachedCount ≤ depth) :
    (m.access fuel).Agree (.level fuel depth) c m := by
  induction c, m using makes_induction fuel generalizing depth with
  | h c m ih =>
    -- The calls of a handler are answered one level below, and there is one device fewer.
    have hhandler {c' : Call} {n : Machine} {id : Nat} (hm : m.Makes fuel c (some id) c' n) :
        (m.inner fuel).Agree (.below fuel depth) c' n := by
      have hn := hm.attachedCount
      obtain ⟨depth, rfl⟩ := Nat.exists_eq_succ_of_ne_zero (by omega : depth ≠ 0)
      rw [hm.inner_eq_access]
      exact ih _ _ _ hm (by omega)
    rw [access_eq_above, Access.level_eq_above]
    cases c with
    | dei port =>
      exact deiWith_congr fun id d hr hd => Handler.follow_congr fun p hp =>
        hhandler (.read hr hd hp)
    | deo port v =>
      exact deoWith_congr fun id d hr hd => Handler.follow_congr fun p hp =>
        hhandler (.write hr hd hp)
    | run start =>
      have hs : steps (m.inner fuel).instructions (m.budget fuel) start m =
          steps (Access.below fuel depth).instructions (m.budget fuel) start m := by
        rw [← Handler.follow_program, ← Handler.follow_program]
        refine Handler.follow_congr fun p hp => ?_
        have hm : m.Makes fuel (.run start) none p.1 p.2 := .run hp
        have hle : p.2.bus.attachedCount ≤ depth := hm.sameSetup.attachedCount ▸ hd
        have ha := ih _ _ _ hm hle
        rw [Access.level_eq_above] at ha
        have hi := Access.agree_instructions fuel (.below fuel depth) hm.isPort p.2
        exact (hm.agree_access.trans ha).trans hi.symm
      exact runWith_congr hs

/-! ## Instructions of a run -/

/-- A number of instructions executed from `pc` on, up to the address of the next one, or up to a
halt. -/
inductive Executes (io : Access) : Nat → UInt16 → Machine → Option UInt16 → Machine → Prop
  | rest (pc : UInt16) (m : Machine) : Executes io 0 pc m (some pc) m
  | halt {pc : UInt16} {m m' : Machine} (h : m.step io pc = some (none, m')) :
      Executes io 1 pc m none m'
  | step {k : Nat} {pc pc' : UInt16} {m m₁ m' : Machine} {next : Option UInt16}
    (h : m.step io pc = some (some pc', m₁)) (hr : Executes io k pc' m₁ next m') :
    Executes io (k + 1) pc m next m'

/-- How a run ends within a limit: at a halt, or after exactly as many instructions as the limit
allows. -/
inductive EndsWithin (io : Access) (limit : Nat) (start : UInt16) (m : Machine) :
    Outcome → Machine → Prop
  | halted {k : Nat} {m' : Machine} (hk : k ≤ limit) (h : Executes io k start m none m') :
    EndsWithin io limit start m .halted m'
  | ranOff {pc : UInt16} {m' : Machine} (h : Executes io limit start m (some pc) m') :
    EndsWithin io limit start m .ranOff (m'.note (.limitReached start limit pc))

theorem exists_executes_of_steps {io : Access} {budget : Nat} {pc : UInt16} {next : Option UInt16}
    {m' : Machine} (h : steps io budget pc m = some (next, m')) :
    ∃ k ≤ budget, Executes io k pc m next m' ∧ (next ≠ none → k = budget) := by
  induction budget generalizing pc m with
  | zero =>
    cases h
    exact ⟨0, le_rfl, .rest _ _, fun _ => rfl⟩
  | succ budget ih =>
    rw [steps] at h
    split at h
    · exact absurd h (by simp)
    · rename_i m₁ hs
      cases h
      exact ⟨1, by omega, .halt hs, fun hn => absurd rfl hn⟩
    · rename_i pc' m₁ hs
      obtain ⟨k, hk, he, hn⟩ := ih h
      exact ⟨k + 1, by omega, .step hs he, fun hne => by rw [hn hne]⟩

theorem endsWithin_of_run (hl : m.config.stepLimit = some l) {start : UInt16} {o : Outcome}
    {m' : Machine}
    (h : m.run fuel start = some (o, m')) : EndsWithin (m.access fuel) l.toNat start m o m' := by
  rw [access_eq_above]
  rw [run, access_eq_above] at h
  change m.runWith (m.inner fuel).instructions fuel start = some (o, m') at h
  rw [runWith, hl] at h
  dsimp only at h
  rw [steps_instructions fuel] at h
  split at h
  · exact absurd h (by simp)
  · rename_i m₁ hs
    cases h
    obtain ⟨k, hk, he, -⟩ := exists_executes_of_steps hs
    exact .halted hk he
  · rename_i pc m₁ hs
    cases h
    obtain ⟨k, hk, he, hn⟩ := exists_executes_of_steps hs
    exact .ranOff (hn (Option.some_ne_none pc) ▸ he)

/-! ## Requests -/

theorem exists_dei (hl : m.config.stepLimit = some l) (fuel : Nat) (port : UInt8) :
    ∃ r, m.dei fuel port = some r := by
  have h := isSome_after fuel hl (.dei port)
  rw [Access.after_dei, Option.isSome_map] at h
  exact Option.isSome_iff_exists.1 h

theorem exists_deo (hl : m.config.stepLimit = some l) (fuel : Nat) (port v : UInt8) :
    ∃ m', m.deo fuel port v = some m' :=
  Option.isSome_iff_exists.1 (isSome_after fuel hl (.deo port v))

theorem exists_run (hl : m.config.stepLimit = some l) (fuel : Nat) (start : UInt16) :
    ∃ r, m.run fuel start = some r := by
  have h := isSome_after fuel hl (.run start)
  rw [Access.after_run, Option.isSome_map] at h
  exact Option.isSome_iff_exists.1 h

theorem exists_runBlank (hl : m.config.stepLimit = some l) (fuel : Nat) (start : UInt16) :
    ∃ m', m.runBlank fuel start = some m' := by
  obtain ⟨r, hr⟩ := exists_run hl fuel start
  exact ⟨r.2, by rw [runBlank, hr]; rfl⟩

theorem exists_vblank (hl : m.config.stepLimit = some l) (fuel : Nat) :
    ∃ m', m.vblank fuel = some m' := by
  unfold vblank
  dsimp only
  split
  · exact exists_runBlank hl fuel _
  · exact ⟨m, rfl⟩

theorem exists_beginRow (hl : m.config.stepLimit = some l) (fuel : Nat) (y : UInt16) :
    ∃ m', m.beginRow fuel y = some m' := by
  have hh : ∃ a, (m.collectSprites y).hblank fuel y = some a := by
    unfold hblank
    dsimp only
    split
    · exact exists_runBlank (m := m.collectSprites y) hl fuel _
    · exact ⟨_, rfl⟩
  obtain ⟨a, ha⟩ := hh
  exact ⟨a.settleRow, by rw [beginRow, ha]; rfl⟩

theorem exists_drawRows (hl : m.config.stepLimit = some l) (fuel count y : Nat)
    (frame : Array UInt32) :
    ∃ r, drawRows fuel count y m frame = some r := by
  induction count generalizing y m frame with
  | zero => exact ⟨_, rfl⟩
  | succ count ih =>
    obtain ⟨a, ha⟩ := exists_beginRow hl fuel (UInt16.ofNat y)
    obtain ⟨r, hr⟩ :=
      ih ((sameSetup_beginRow ha).config ▸ hl) (y + 1) (a.board.vdp.paintRow y frame)
    exact ⟨r, by rw [drawRows, ha]; exact hr⟩

theorem exists_render (hl : m.config.stepLimit = some l) (fuel : Nat) (frame : Array UInt32) :
    ∃ r, m.render fuel frame = some r := by
  obtain ⟨m₀, hv⟩ := exists_vblank hl fuel
  rw [render, hv]
  dsimp only
  split
  · exact exists_drawRows (m := m₀.markPalette) ((sameSetup_vblank hv).config ▸ hl) fuel _ 0 frame
  · exact ⟨_, rfl⟩

theorem exists_press (hl : m.config.stepLimit = some l) (fuel : Nat) (code : UInt8) :
    ∃ m', m.press fuel code = some m' := by
  unfold press
  split
  · exact ⟨_, rfl⟩
  · split
    · rename_i id _ _ c hc
      dsimp only
      split
      · exact ⟨_, rfl⟩
      · exact exists_runBlank (m := m.latched id c code) hl fuel c.vector
    · exact ⟨_, rfl⟩

theorem exists_perform (hl : m.config.stepLimit = some l) (fuel : Nat) (q : Request) :
    ∃ m', q.perform fuel m = some m' := by
  cases q with
  | dei port =>
    obtain ⟨r, hr⟩ := exists_dei hl fuel port
    exact ⟨r.2, by rw [Request.perform, hr]; rfl⟩
  | deo port v => exact exists_deo hl fuel port v
  | run start => exact exists_runBlank hl fuel start
  | press code => exact exists_press hl fuel code
  | render frame =>
    obtain ⟨r, hr⟩ := exists_render hl fuel frame
    exact ⟨r.1, by rw [Request.perform, hr]; rfl⟩

/-- Under a step limit every request returns. Handlers are nested at most as deep as devices are
attached, and every call under way returns. A run among them, the outer one or a nested one, ends at
a halt or after as many instructions as the limit allows. -/
theorem requests_return (hl : m.config.stepLimit = some l) (fuel : Nat) (q : Request) :
    (∃ m', q.perform fuel m = some m') ∧
      ∀ active c n, m.Underway fuel q active c n →
        active.length ≤ m.bus.attachedCount ∧
          (∀ id, n.Enters c id → active.length < m.bus.attachedCount) ∧
          (∃ n', (n.access fuel).after c n = some n') ∧
          (∀ depth, n.bus.attachedCount ≤ depth → (n.access fuel).Agree (.level fuel depth) c n) ∧
          ∀ start, c = .run start → ∃ o n', n.run fuel start = some (o, n') ∧
            EndsWithin (n.access fuel) l.toNat start n o n' := by
  constructor
  · exact exists_perform hl fuel q
  · intro active c n h
    have ha := h.awayAt
    have hn : n.config.stepLimit = some l := ha.config ▸ hl
    have hcount := ha.count
    refine ⟨by omega, ?_, Option.isSome_iff_exists.1 (isSome_after fuel hn c),
      fun depth hd => agree_level c n hd, ?_⟩
    · intro id he
      have hpos : 0 < n.bus.attachedCount := by
        obtain ⟨d, hd⟩ := he.present
        have := Bus.attachedCount_setDevice_none hd
        omega
      omega
    · intro start _
      obtain ⟨⟨o, n'⟩, hr⟩ := exists_run hn fuel start
      exact ⟨o, n', hr, endsWithin_of_run hn hr⟩

/-- A device whose program writes to the device's own port: the one handler is nested as deep as
there are devices, and the program below it ends. -/
theorem requests_return_selfWriting :
    selfWriting.config.stepLimit = some 100 ∧
      (∃ m', (Request.deo 0x31 0).perform 0 selfWriting = some m') ∧
      ∃ r, selfWriting.Underway 0 (.deo 0x31 0) [0] (.run 0) r ∧
        [0].length ≤ selfWriting.bus.attachedCount ∧
        ∃ o r', r.run 0 0 = some (o, r') ∧ EndsWithin (r.access 0) 100 0 r o r' := by
  have hl : selfWriting.config.stepLimit = some 100 := rfl
  obtain ⟨hreturn, hnested⟩ := requests_return hl 0 (.deo 0x31 0)
  obtain ⟨r, n, hr, -⟩ := underway_selfWriting
  obtain ⟨hdepth, -, -, -, hruns⟩ := hnested _ _ _ hr
  exact ⟨hl, hreturn, r, hr, hdepth, hruns 0 rfl⟩

end Machine

end FantasyConsole
