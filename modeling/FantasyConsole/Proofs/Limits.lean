import FantasyConsole.Proofs.Returning
import FantasyConsole.Proofs.Storage

/-!
# Step limits

A step limit cuts a run short and has no other effect, as long as no handler that a
port leads to runs programs itself. Under every limit the machine takes the same
steps: a run halts if a halt is among the first instructions that the limit allows,
and otherwise it stops before the next one. A larger limit lets it go on from there.
-/
namespace FantasyConsole

def Opcode.IsHalt (op : Opcode) : Prop := op.base = .immediate ∧ op.immediateForm = .halt

theorem Opcode.executeImmediate_eq_none_iff (op : Opcode) (pc : UInt16) (c c' : Core) :
    op.executeImmediate pc c = (none, c') ↔ op.immediateForm = .halt ∧ c' = c := by
  rw [executeImmediate]
  cases op.immediateForm with
  | halt =>
    exact ⟨fun h => ⟨rfl, (congrArg (·.2) h).symm⟩, fun h => congrArg (Prod.mk none) h.2.symm⟩
  | jumpIf => simp
  | jump => simp
  | call => simp
  | literal => cases op.short <;> simp

/-! ## Devices that make no calls -/

theorem Pager.calling_onWrite (p : Pager) (port : UInt8) (P : Call → Prop) :
    (p.onWrite port).Calling P := by
  rw [onWrite]
  split
  · trivial
  · intro b
    cases p.phase <;> trivial

theorem DebugConsole.calling_onWrite (d : DebugConsole) (port : UInt8) (P : Call → Prop) :
    (d.onWrite port).Calling P := by
  intro b
  change Handler.Calling P (if b.ports.get port = 1 then _ else _)
  split
  · trivial
  · split
    · cases d.input with
      | none => trivial
      | some bytes =>
        change Handler.Calling P (if Utf8.isValid (splitLine bytes).1 then _ else _)
        split <;> trivial
    · trivial

namespace Device

def IsBuiltIn : Device → Prop
  | .scripted _ => False
  | _ => True

theorem IsBuiltIn.of_fresh {d e : Device} (h : d.IsBuiltIn) (he : e.fresh = d.fresh) :
    e.IsBuiltIn := by
  cases e with
  | scripted s => cases d <;> simp [fresh, IsBuiltIn] at he h
  | _ => trivial

theorem IsBuiltIn.calling_onRead {d : Device} (h : d.IsBuiltIn) (port : UInt8) (P : Call → Prop) :
    (d.onRead port).Calling P := by
  cases d with
  | stackPointers =>
    unfold onRead
    dsimp only
    split <;> exact fun _ => trivial
  | metadata | pager p => exact fun _ => trivial
  | controller c | debug c => trivial
  | scripted s => exact h.elim

theorem IsBuiltIn.calling_onWrite {d : Device} (h : d.IsBuiltIn) (port : UInt8) (P : Call → Prop) :
    (d.onWrite port).Calling P := by
  cases d with
  | stackPointers =>
    rw [onWrite]
    dsimp only
    split
    · exact fun _ => trivial
    · trivial
  | metadata => trivial
  | pager p => exact (p.calling_onWrite port P).bind fun _ => trivial
  | controller c => exact fun _ => trivial
  | debug c => exact (c.calling_onWrite port P).bind fun _ => trivial
  | scripted s => exact h.elim

end Device

namespace Machine

variable {io : Access} {m n : Machine} {pc : UInt16} {fuel : Nat}

/-! ## Counting instructions -/

theorem step_eq_none_iff : m.step io pc = some (none, n) ↔
    (Opcode.decode (m.board.core.memory.read pc)).IsHalt ∧
      n = m.note (.executed pc (m.board.core.memory.read pc)) := by
  rw [step, Opcode.IsHalt]
  generalize Opcode.decode (m.board.core.memory.read pc) = op
  dsimp only
  generalize m.note _ = a
  cases hb : op.base with
  | immediate =>
    have hx := op.executeImmediate_eq_none_iff (pc + 1) a.board.core n.board.core
    rw [onCore_eq]
    constructor
    · intro h
      simp only [Option.some.injEq, Prod.mk.injEq] at h
      obtain ⟨hn, rfl⟩ := h
      obtain ⟨hf, hc⟩ := hx.1 (Prod.ext hn rfl)
      exact ⟨⟨rfl, hf⟩, congrArg (fun c => { a with board.core := c }) hc⟩
    · rintro ⟨⟨-, hf⟩, rfl⟩
      rw [hx.2 ⟨hf, rfl⟩]
  | dei => simp
  | deo => simp
  | _ => simp

theorem steps_add (io : Access) (a b : Nat) (pc : UInt16) (m : Machine) : steps io (a + b) pc m =
    (steps io a pc m).bind fun r =>
      match r with
      | (none, n) => some (none, n)
      | (some pc, n) => steps io b pc n := by
  induction a generalizing pc m with
  | zero => simp [steps]
  | succ a ih =>
    rw [Nat.succ_add, steps, steps]
    cases m.step io pc with
    | none => rfl
    | some r =>
      obtain ⟨_ | pc', n⟩ := r
      · rfl
      · exact ih pc' n

theorem Executes.steps_eq {k : Nat} {next : Option UInt16} (h : Executes io k pc m next n) :
    steps io k pc m = some (next, n) := by
  induction h with
  | rest pc m => rfl
  | halt h => rw [steps, h]
  | step h hr ih => rw [steps, h]; exact ih

theorem executes_iff_steps {k : Nat} {pc' : UInt16} :
    Executes io k pc m (some pc') n ↔ steps io k pc m = some (some pc', n) := by
  constructor
  · exact Executes.steps_eq
  · intro h
    obtain ⟨j, -, he, hj⟩ := exists_executes_of_steps h
    rwa [hj (Option.some_ne_none pc')] at he

theorem steps_eq_none_iff {limit : Nat} : steps io limit pc m = some (none, n) ↔
    ∃ i < limit, ∃ pc' a, Executes io i pc m (some pc') a ∧ a.step io pc' = some (none, n) := by
  constructor
  · intro h
    induction limit generalizing pc m with
    | zero => simp [steps] at h
    | succ limit ih =>
      rw [steps] at h
      split at h
      · exact absurd h (by simp)
      · rename_i a hs
        cases h
        exact ⟨0, by omega, pc, m, .rest pc m, hs⟩
      · rename_i pc' a hs
        obtain ⟨i, hi, pc'', b, he, hb⟩ := ih h
        exact ⟨i + 1, by omega, pc'', b, .step hs he, hb⟩
  · rintro ⟨i, hi, pc', a, he, hs⟩
    obtain ⟨j, rfl⟩ := Nat.exists_eq_add_of_lt hi
    rw [Nat.add_assoc, steps_add, he.steps_eq]
    simp only [Option.bind_some, steps, hs]

/-! ## Handlers that run nothing -/

/-- No handler that a port leads to runs programs, whatever its device remembers. -/
def RunsNothing (m : Machine) : Prop :=
  ∀ id d, m.bus.deviceAt? id = some d → ∀ e : Device, e.fresh = d.fresh → ∀ port,
    (m.bus.readRoute port = some (.device id) → (e.onRead port).Calling Call.IsPort) ∧
      (m.bus.writeRoute port = some (.device id) → (e.onWrite port).Calling Call.IsPort)

theorem SameSetup.runsNothing (h : SameSetup m n) (hm : m.RunsNothing) : n.RunsNothing := by
  intro id d hd e he port
  obtain ⟨d', hd', hf⟩ := h.exists_device hd
  rw [h.readRoute, h.writeRoute]
  exact hm id d' hd' e (he.trans hf.symm) port

theorem RunsNothing.away (hm : m.RunsNothing) (id : Nat) : (m.away id).RunsNothing := by
  intro j d hd
  rcases Bus.deviceAt?_setDevice hd with hn | ho
  · exact absurd hn (by simp)
  · exact hm j d ho

theorem runsNothing_of_builtIn (h : ∀ s ∈ m.bus.slots, ∀ d ∈ s.device, d.IsBuiltIn) :
    m.RunsNothing := by
  intro id d hd e he port
  obtain ⟨s, hs, hsd⟩ := Option.bind_eq_some_iff.1 hd
  have hb : e.IsBuiltIn := (h s (Array.mem_of_getElem? hs) d hsd).of_fresh he
  exact ⟨fun _ => hb.calling_onRead port _, fun _ => hb.calling_onWrite port _⟩

theorem runsNothing_standard (config : Config) (filter : LogFilter) (image : Array UInt8)
    (input : Option (List UInt8)) : (standard config filter image input).RunsNothing := by
  apply runsNothing_of_builtIn
  simp [standard, installStandard, installVdp, bare, Bus.empty, Device.IsBuiltIn]

def chosen (m : Machine) (config : Config) : Machine := { m with config }

/-- The port calls do not depend on what the host chose. -/
structure IgnoresChoice (io : Access) : Prop where
  dei : ∀ {m : Machine} (c : Config) (port : UInt8), m.RunsNothing →
    io.dei port (m.chosen c) = (io.dei port m).map fun r => (r.1, r.2.chosen c)
  deo : ∀ {m : Machine} (c : Config) (port v : UInt8), m.RunsNothing →
    io.deo port v (m.chosen c) = (io.deo port v m).map (·.chosen c)

theorem follow_chosen {α : Type} (hk : io.Keeps SameSetup) (hio : IgnoresChoice io) {h : Handler α}
    (hh : h.Calling Call.IsPort) (hm : m.RunsNothing) (c : Config) :
    h.follow io (m.chosen c) = (h.follow io m).map fun r => (r.1, r.2.chosen c) := by
  induction h generalizing m with
  | done a => rfl
  | inspect next ih => exact ih m.board (hh m.board) hm
  | update f next ih => exact ih hh (m := { m with board := f m.board }) hm
  | dei port next ih =>
    rw [Handler.follow, Handler.follow, hio.dei c port hm]
    cases hd : io.dei port m with
    | none => rfl
    | some r => exact ih r.1 (hh.2 r.1) ((hk.dei hd).runsNothing hm)
  | deo port v next ih =>
    rw [Handler.follow, Handler.follow, hio.deo c port v hm]
    cases hd : io.deo port v m with
    | none => rfl
    | some m' => exact ih hh.2 ((hk.deo hd).runsNothing hm)
  | run address next ih => exact hh.1.elim

theorem fetched_chosen (m : Machine) (c : Config) (port : UInt8) :
    (m.chosen c).fetched port = ((m.fetched port).1, (m.fetched port).2.chosen c) := by
  have hbus : (m.chosen c).bus = m.bus := rfl
  rw [fetched, fetched, hbus]
  cases m.bus.readRoute port with
  | none => rfl
  | some r => cases r <;> rfl

theorem stored_chosen (m : Machine) (c : Config) (port v : UInt8) :
    (m.chosen c).stored port v = (m.stored port v).chosen c := by
  have hbus : (m.chosen c).bus = m.bus := rfl
  rw [stored, stored, hbus]
  cases m.bus.writeRoute port with
  | none => rfl
  | some r => cases r <;> rfl

theorem deiWith_chosen {inner : Access} (hk : inner.Keeps SameSetup) (hio : IgnoresChoice inner)
    (hm : m.RunsNothing) (c : Config) (port : UInt8) :
    (m.chosen c).deiWith inner port = (m.deiWith inner port).map fun r => (r.1, r.2.chosen c) := by
  rcases m.bus.noDeviceReads_or port with hno | ⟨id, d, hr, hd⟩
  · rw [deiWith_eq_fetched hno, deiWith_eq_fetched (m := m.chosen c) hno, fetched_chosen]
    rfl
  · have hf := follow_chosen hk hio ((hm id d hd d rfl port).1 hr) (hm.away id) c
    have haway : (m.chosen c).away id = (m.away id).chosen c := rfl
    rw [deiWith_of_device hr hd, deiWith_of_device (m := m.chosen c) hr hd, haway, hf,
      Option.map_map, Option.map_map]
    rfl

theorem deoWith_chosen {inner : Access} (hk : inner.Keeps SameSetup) (hio : IgnoresChoice inner)
    (hm : m.RunsNothing) (c : Config) (port v : UInt8) :
    (m.chosen c).deoWith inner port v = (m.deoWith inner port v).map (·.chosen c) := by
  rcases m.bus.noDeviceWrites_or port with hno | ⟨id, d, hr, hd⟩
  · rw [deoWith_eq_stored hno, deoWith_eq_stored (m := m.chosen c) hno, stored_chosen]
    rfl
  · let stored : Machine := { m with board := m.board.setPort port v }
    have hf :=
      follow_chosen (m := stored.away id) hk hio ((hm id d hd d rfl port).2 hr) (hm.away id) c
    have haway :
        ({ m.chosen c with board := (m.chosen c).board.setPort port v } : Machine).away id =
          (stored.away id).chosen c := rfl
    rw [deoWith_of_device hr hd, deoWith_of_device (m := m.chosen c) hr hd, haway, hf,
      Option.map_map, Option.map_map]
    rfl

theorem ignoresChoice_refused : IgnoresChoice .refused := ⟨fun _ _ _ => rfl, fun _ _ _ _ => rfl⟩

theorem IgnoresChoice.above {inner : Access} (hk : inner.Keeps SameSetup)
    (hio : IgnoresChoice inner) (fuel : Nat) :
    IgnoresChoice (.above fuel inner) :=
  ⟨fun c port hm => deiWith_chosen hk hio hm c port,
    fun c port v hm => deoWith_chosen hk hio hm c port v⟩

/-- The induction on nesting: no level depends on the choice. -/
theorem ignoresChoice_level (fuel depth : Nat) : IgnoresChoice (.level fuel depth) := by
  induction depth with
  | zero => exact ignoresChoice_refused.above (Access.keeps_refused SameSetup) fuel
  | succ depth ih => exact ih.above (kept_sameSetup.level fuel depth) fuel

theorem steps_chosen (hm : m.RunsNothing) (fuel budget : Nat) (start : UInt16) (c : Config) :
    steps (m.access fuel) budget start (m.chosen c) =
      (steps (m.access fuel) budget start m).map fun r => (r.1, r.2.chosen c) := by
  rw [← Handler.follow_program, ← Handler.follow_program]
  exact follow_chosen (kept_sameSetup.access m fuel) (ignoresChoice_level fuel m.bus.attachedCount)
    (Handler.calling_program budget start) hm c

/-! ## Runs under a limit -/

def limited (m : Machine) (limit : UInt64) : Machine := m.chosen (m.config.withStepLimit limit)

/-- The result of a run under a limit that ends where `r` says: at a halt if there is no next
address, else because the limit was used up. -/
def ended (limit : UInt64) (start : UInt16) (r : Option UInt16 × Machine) : Outcome × Machine :=
  match r with
  | (none, n) => (.halted, n.limited limit)
  | (some pc, n) => (.ranOff, (n.note (.limitReached start limit.toNat pc)).limited limit)

theorem run_limited (hm : m.RunsNothing) (fuel : Nat) (start : UInt16) (limit : UInt64) :
    (m.limited limit).run fuel start =
      (steps (m.access fuel) limit.toNat start m).map (ended limit start) := by
  have ha : (m.limited limit).access fuel = m.access fuel := rfl
  have hb : (m.limited limit).budget fuel = limit.toNat := rfl
  have hl : (m.limited limit).config.stepLimit = some limit := rfl
  rw [run_eq_concluded, ha, hb, hl, limited, steps_chosen hm]
  cases steps (m.access fuel) limit.toNat start m with
  | none => rfl
  | some r => obtain ⟨_ | pc, n⟩ := r <;> rfl

theorem exists_steps (hm : m.RunsNothing) (fuel : Nat) (start : UInt16) (limit : UInt64) :
    ∃ r, steps (m.access fuel) limit.toNat start m = some r := by
  obtain ⟨r, hr⟩ := exists_run (m := m.limited limit) rfl fuel start
  rw [run_limited hm] at hr
  obtain ⟨r', hr', -⟩ := Option.map_eq_some_iff.1 hr
  exact ⟨r', hr'⟩

/-- A run from `start` comes to a halt instruction after exactly `i` others and leaves `n`. -/
def HaltsAfter (m : Machine) (fuel : Nat) (start : UInt16) (i : Nat) (n : Machine) : Prop :=
  ∃ pc a, Executes (m.access fuel) i start m (some pc) a ∧
    (Opcode.decode (a.board.core.memory.read pc)).IsHalt ∧
    n = a.note (.executed pc (a.board.core.memory.read pc))

theorem steps_eq_none_iff_haltsAfter {limit : Nat} {start : UInt16} :
    steps (m.access fuel) limit start m = some (none, n) ↔ ∃ i < limit,
      m.HaltsAfter fuel start i n := by
  simp only [steps_eq_none_iff, step_eq_none_iff, HaltsAfter]

theorem run_eq_halted_iff (hm : m.RunsNothing) (fuel : Nat) (start : UInt16) (limit : UInt64)
    (n : Machine) :
    (m.limited limit).run fuel start = some (.halted, n) ↔
      ∃ i < limit.toNat, ∃ a, m.HaltsAfter fuel start i a ∧ n = a.limited limit := by
  rw [run_limited hm]
  constructor
  · intro h
    obtain ⟨⟨_ | pc, a⟩, ha, he⟩ := Option.map_eq_some_iff.1 h
    · obtain ⟨i, hi, hh⟩ := steps_eq_none_iff_haltsAfter.1 ha
      exact ⟨i, hi, a, hh, (congrArg (·.2) he).symm⟩
    · simp [ended] at he
  · rintro ⟨i, hi, a, hh, rfl⟩
    rw [steps_eq_none_iff_haltsAfter.2 ⟨i, hi, hh⟩]
    rfl

theorem run_eq_ranOff_iff (hm : m.RunsNothing) (fuel : Nat) (start : UInt16) (limit : UInt64)
    (n : Machine) :
    (m.limited limit).run fuel start = some (.ranOff, n) ↔
      ∃ pc a, Executes (m.access fuel) limit.toNat start m (some pc) a ∧
        n = (a.note (.limitReached start limit.toNat pc)).limited limit := by
  rw [run_limited hm]
  constructor
  · intro h
    obtain ⟨⟨_ | pc, a⟩, ha, he⟩ := Option.map_eq_some_iff.1 h
    · simp [ended] at he
    · exact ⟨pc, a, executes_iff_steps.2 ha, (congrArg (·.2) he).symm⟩
  · rintro ⟨pc, a, ha, rfl⟩
    rw [ha.steps_eq]
    rfl

theorem halted_of_le (hm : m.RunsNothing) {fuel : Nat} {start : UInt16}
    {l l' : UInt64} (hl : l ≤ l') (h : (m.limited l).run fuel start = some (.halted, n)) :
    (m.limited l').run fuel start = some (.halted, n.limited l') := by
  obtain ⟨i, hi, a, hh, rfl⟩ := (run_eq_halted_iff hm fuel start l n).1 h
  exact (run_eq_halted_iff hm fuel start l' _).2 ⟨i, Nat.lt_of_lt_of_le hi hl, a, hh, rfl⟩

theorem run_add (hm : m.RunsNothing) {fuel : Nat} {start pc : UInt16} {a b : UInt64}
    (hab : a.toNat + b.toNat < 2 ^ 64) (h : Executes (m.access fuel) a.toNat start m (some pc) n) :
    ∃ r, (n.limited b).run fuel pc = some (ended b pc r) ∧
      (m.limited (a + b)).run fuel start = some (ended (a + b) start r) := by
  have hs : SameSetup m n := kept_sameSetup.steps (kept_sameSetup.access m fuel) h.steps_eq
  have haccess : n.access fuel = m.access fuel := by rw [access, access, hs.attachedCount]
  have hsum : (a + b).toNat = a.toNat + b.toNat := by
    rw [UInt64.toNat_add, Nat.mod_eq_of_lt hab]
  obtain ⟨r, hr⟩ := exists_steps (hs.runsNothing hm) fuel pc b
  have hwhole : steps (m.access fuel) (a + b).toNat start m = some r := by
    rw [hsum, steps_add, h.steps_eq]
    exact haccess ▸ hr
  refine ⟨r, ?_, ?_⟩
  · rw [run_limited (hs.runsNothing hm), hr, Option.map_some]
  · rw [run_limited hm, hwhole, Option.map_some]

/-- What a step limit means. A run under `l` halts exactly if there is a halt among its first `l`
instructions, and otherwise stops after `l` of them. What halts under a limit halts in the same way
under every larger one. A run under the sum of two limits is the run under the first, continued
under the second from the address where it stopped and on the machine that it had reached. -/
theorem run_of_limits (hm : m.RunsNothing) (fuel : Nat) (start : UInt16) :
    (∀ l : UInt64, (∃ r, (m.limited l).run fuel start = some r) ∧
      (∀ n, (m.limited l).run fuel start = some (.halted, n) ↔
        ∃ i < l.toNat, ∃ a, m.HaltsAfter fuel start i a ∧ n = a.limited l) ∧
      ∀ n, (m.limited l).run fuel start = some (.ranOff, n) ↔
        ∃ pc a, Executes (m.access fuel) l.toNat start m (some pc) a ∧
          n = (a.note (.limitReached start l.toNat pc)).limited l) ∧
    (∀ (l l' : UInt64) (n : Machine), l ≤ l' → (m.limited l).run fuel start = some (.halted, n) →
      (m.limited l').run fuel start = some (.halted, n.limited l')) ∧
    ∀ a b : UInt64, a.toNat + b.toNat < 2 ^ 64 →
      (∀ n, (m.limited a).run fuel start = some (.halted, n) →
        (m.limited (a + b)).run fuel start = some (.halted, n.limited (a + b))) ∧
      ∀ n₁, (m.limited a).run fuel start = some (.ranOff, n₁) → ∃ pc n r,
        Executes (m.access fuel) a.toNat start m (some pc) n ∧
          n₁ = (n.note (.limitReached start a.toNat pc)).limited a ∧
          (n.limited b).run fuel pc = some (ended b pc r) ∧
          (m.limited (a + b)).run fuel start = some (ended (a + b) start r) := by
  refine ⟨fun l => ⟨?_, run_eq_halted_iff hm fuel start l, run_eq_ranOff_iff hm fuel start l⟩,
    fun l l' n hl h => halted_of_le hm hl h, fun a b hab => ⟨fun n h => ?_, fun n₁ h => ?_⟩⟩
  · exact exists_run (m := m.limited l) rfl fuel start
  · have hle : a ≤ a + b := by
      rw [UInt64.le_iff_toNat_le, UInt64.toNat_add, Nat.mod_eq_of_lt hab]
      omega
    exact halted_of_le hm hle h
  · obtain ⟨pc, n, he, hn⟩ := (run_eq_ranOff_iff hm fuel start a n₁).1 h
    obtain ⟨r, hb, hab⟩ := run_add hm hab he
    exact ⟨pc, n, r, he, hn, hb, hab⟩

/-- A standard machine with a program that moves the working stack's pointer: the fourth instruction
is a halt. -/
def movingPointer : Machine :=
  (standard .standard (.upTo none) #[] none).load 0 #[0x80, 0x05, 0x80, 0x04, 0x17, 0x00]

/-- Three instructions are not enough, four are, and three and then one do the same. -/
theorem run_of_limits_movingPointer : movingPointer.RunsNothing ∧
    ((∃ i < (4 : UInt64).toNat, ∃ a, movingPointer.HaltsAfter 0 0 i a) ∧
      (∃ n, (movingPointer.limited 4).run 0 0 = some (.halted, n) ∧
        (movingPointer.limited 9).run 0 0 = some (.halted, n.limited 9))) ∧
    ∃ pc n r, Executes (movingPointer.access 0) 3 0 movingPointer (some pc) n ∧
      (n.limited 1).run 0 pc = some (ended 1 pc r) ∧
      (movingPointer.limited 4).run 0 0 = some (ended 4 0 r) := by
  have hm : movingPointer.RunsNothing := runsNothing_standard .standard (.upTo none) #[] none
  obtain ⟨hends, hmore, hsum⟩ := run_of_limits hm 0 0
  have hhalts : ((movingPointer.limited 4).run 0 0).map (·.1) = some .halted := by decide +kernel
  have hstops : ((movingPointer.limited 3).run 0 0).map (·.1) = some .ranOff := by decide +kernel
  obtain ⟨⟨o, n⟩, hn, ho⟩ := Option.map_eq_some_iff.1 hhalts
  obtain ⟨⟨o', n'⟩, hn', ho'⟩ := Option.map_eq_some_iff.1 hstops
  dsimp only at ho ho'
  subst ho ho'
  obtain ⟨i, hi, a, hh, -⟩ := ((hends 4).2.1 n).1 hn
  obtain ⟨pc, b, r, he, -, hb, hr⟩ := (hsum 3 1 (by decide)).2 n' hn'
  exact ⟨hm, ⟨⟨i, hi, a, hh⟩, n, hn, hmore 4 9 n (by decide) hn⟩, pc, b, r, he, hb, hr⟩

end Machine

end FantasyConsole
