import FantasyConsole.Proofs.Limits
import FantasyConsole.Proofs.Transfers

/-!
# Relocated programs

Many instructions know addresses only by their distance from where they stand
themselves. A program of such instructions does not know where it lies: with all of
memory turned by some distance, past the top and on from zero, it runs the same from
the place where its start has gone. The two runs are compared step by step, and all
that tells them apart is the turn of the memory and the addresses in the journal.
-/
namespace FantasyConsole

theorem displace_add (base k : UInt16) (d : UInt8) :
    displace (base + k) d = displace base d + k := by
  unfold displace
  split <;> grind

/-- The second memory is the first one turned by `k`: what was at an address is `k` further on. -/
def Memory.Moved (k : UInt16) (m m' : Memory) : Prop := ∀ a, m'.read (a + k) = m.read a

namespace Memory.Moved

variable {k : UInt16} {m m' : Memory}

theorem readWord (h : Moved k m m') (a : UInt16) : m'.readWord (a + k) = m.readWord a := by
  have hnext : a + k + 1 = a + 1 + k := by grind
  rw [Memory.readWord, h a, hnext, h (a + 1), Memory.readWord]

theorem write (h : Moved k m m') (a : UInt16) (v : UInt8) :
    Moved k (m.write a v) (m'.write (a + k) v) := by
  intro b
  rw [read_write, read_write, h b]
  simp only [UInt16.add_left_inj]

theorem load (h : Moved k m m') (offset : UInt16) {bytes : Array UInt8} (hb : bytes.size ≤ 65536) :
    Moved k (m.load offset bytes) (m'.load (offset + k) bytes) := by
  intro b
  obtain ⟨a, rfl⟩ : ∃ a, b = offset + a := ⟨b - offset, by grind⟩
  have hk : offset + a + k = offset + k + a := by grind
  rw [hk, read_load _ _ hb, read_load _ _ hb, ← hk, h (offset + a)]

end Memory.Moved

structure Core.Moved (k : UInt16) (c c' : Core) : Prop where
  memory : c.memory.Moved k c'.memory
  stackPair : c'.stackPair = c.stackPair

namespace Opcode

variable (op : Opcode) (pc : UInt16) {k : UInt16} {c c' : Core} {m m' : Memory}

/-- The instruction knows addresses only by their distance from itself. A call does not: it leaves
the address to return to. -/
def isRelative (op : Opcode) : Bool :=
  match op.base with
  | .immediate => op.immediateForm != .call
  | .jmp | .jcn => !op.short
  | .jsr | .ldz | .stz | .lda | .sta => false
  | _ => true

theorem target_add (h : op.short = false) (a : UInt16) :
    op.target (pc + k) a = op.target pc a + k := by
  simp [target, h, displace_add]

/-! ## Relative loads and stores -/

section Accesses

variable (h : op.base = .ldr ∨ op.base = .str)
include h

theorem takeAddress_add (s : Stack) :
    op.takeAddress (pc + k) s = ((op.takeAddress pc s).1 + k, (op.takeAddress pc s).2) := by
  rcases h with h | h <;> simp [takeAddress, h, displace_add]

theorem and_addressMask (a : UInt16) : a &&& op.addressMask = a := by
  have hfull : a &&& 0xFFFF = a := UInt16.and_neg_one
  rcases h with h | h <;> simpa [addressMask, h] using hfull

theorem load_moved (hm : m.Moved k m') (a : UInt16) : op.load m' (a + k) = op.load m a := by
  have hnext : a + k + 1 = a + 1 + k := by grind
  simp only [load, Memory.readWordMasked, op.and_addressMask h, hnext, hm a, hm (a + 1)]

theorem store_moved (hm : m.Moved k m') (a v : UInt16) :
    (op.store m a v).Moved k (op.store m' (a + k) v) := by
  have hnext : a + k + 1 = a + 1 + k := by grind
  simp only [store, Memory.writeWordMasked, op.and_addressMask h, hnext]
  split
  · exact (hm.write a _).write (a + 1) _
  · exact hm.write a _

end Accesses

/-! ## Instructions -/

theorem on_operands_map {α β : Type} {f : Stack → α × Stack} {g : Stack → β × Stack} (φ : α → β)
    (h : ∀ s, g s = (φ (f s).1, (f s).2)) (pair : StackPair) : pair.on op.stack (op.operands g) =
      (φ (pair.on op.stack (op.operands f)).1, (pair.on op.stack (op.operands f)).2) := by
  rw [StackPair.on_eq, StackPair.on_eq]
  simp only [operands, h]

/-- What an instruction of memory and stacks leaves on a turned memory, with the next one as far
on. -/
theorem execute_moved (hop : op.base ≠ .immediate) (hr : op.isRelative = true) (hc : c.Moved k c') :
    (op.execute (pc + k) c').1 = (op.execute pc c).1 + k ∧
      (op.execute pc c).2.Moved k (op.execute (pc + k) c').2 := by
  obtain ⟨m, pair⟩ := c
  obtain ⟨m', pair'⟩ := c'
  obtain ⟨hm, rfl⟩ := hc
  dsimp only at hm ⊢
  cases hb : op.base with
  | immediate => exact absurd hb hop
  | jsr | ldz | stz | lda | sta => simp [isRelative, hb] at hr
  | jmp =>
    have hs : op.short = false := by simpa [isRelative, hb] using hr
    simp only [execute, hb, op.target_add pc hs]
    exact ⟨trivial, hm, rfl⟩
  | jcn =>
    have hs : op.short = false := by simpa [isRelative, hb] using hr
    simp only [execute, hb, op.target_add pc hs, ite_add]
    exact ⟨trivial, hm, rfl⟩
  | ldr =>
    have ha := op.on_operands_map (· + k) (op.takeAddress_add pc (.inl hb)) pair'
    simp only [execute, hb, ha, op.load_moved (.inl hb) hm]
    exact ⟨trivial, hm, rfl⟩
  | str =>
    have ha (s : Stack) : op.takeAddressThen (pc + k) s =
        (((op.takeAddressThen pc s).1.1 + k, (op.takeAddressThen pc s).1.2),
          (op.takeAddressThen pc s).2) := by
      simp only [takeAddressThen, op.takeAddress_add pc (.inr hb)]
    have hx (pc : UInt16) (m : Memory) : op.execute pc ⟨m, pair'⟩ =
        let r := pair'.on op.stack (op.operands (op.takeAddressThen pc))
        (pc, ⟨op.store m r.1.1 r.1.2, r.2⟩) := by
      simp only [execute, hb]
      rfl
    rw [hx, hx, op.on_operands_map (fun a : UInt16 × UInt16 => (a.1 + k, a.2)) ha pair']
    exact ⟨rfl, op.store_moved (.inr hb) hm _ _, rfl⟩
  | _ =>
    simp only [execute, hb]
    exact ⟨trivial, hm, rfl⟩

theorem executeImmediate_moved (hop : op.base = .immediate) (hr : op.isRelative = true)
    (hc : c.Moved k c') :
    (op.executeImmediate (pc + k) c').1 = (op.executeImmediate pc c).1.map (· + k) ∧
      (op.executeImmediate pc c).2.Moved k (op.executeImmediate (pc + k) c').2 := by
  have hform : op.immediateForm ≠ .call := by simpa [isRelative, hop] using hr
  have hone : pc + k + 1 = pc + 1 + k := by grind
  have htwo : pc + k + 2 = pc + 2 + k := by grind
  have hjump (w : UInt16) : pc + 2 + k + w = pc + 2 + w + k := by grind
  obtain ⟨m, pair⟩ := c
  obtain ⟨m', pair'⟩ := c'
  obtain ⟨hm, rfl⟩ := hc
  dsimp only at hm ⊢
  cases hf : op.immediateForm with
  | halt =>
    simp only [executeImmediate, hf]
    exact ⟨rfl, hm, rfl⟩
  | jumpIf =>
    simp only [executeImmediate, hf, hm.readWord, htwo, hjump, Option.map_some, ite_add]
    exact ⟨trivial, hm, rfl⟩
  | jump =>
    simp only [executeImmediate, hf, hm.readWord, htwo, hjump, Option.map_some]
    exact ⟨trivial, hm, rfl⟩
  | call => exact absurd hf hform
  | literal =>
    simp only [executeImmediate, hf, hm pc, htwo, hone, hm (pc + 1)]
    split
    · exact ⟨rfl, hm, rfl⟩
    · exact ⟨rfl, hm, rfl⟩

theorem takePort_moved (hc : c.Moved k c') :
    (op.takePort c').1 = (op.takePort c).1 ∧ (op.takePort c).2.Moved k (op.takePort c').2 := by
  obtain ⟨hm, hs⟩ := hc
  simp only [takePort, hs]
  exact ⟨trivial, hm, rfl⟩

theorem takePortAndValue_moved (hc : c.Moved k c') :
    (op.takePortAndValue c').1 = (op.takePortAndValue c).1 ∧
    (op.takePortAndValue c).2.Moved k (op.takePortAndValue c').2 := by
  obtain ⟨hm, hs⟩ := hc
  simp only [takePortAndValue, hs]
  exact ⟨trivial, hm, rfl⟩

/-- What device input finds in ports that hold bytes and no more. -/
def stored (op : Opcode) (ports : Ports) (port : UInt8) : UInt16 :=
  if op.short then word (ports.get port) (ports.get (port + 1)) else (ports.get port).toUInt16

/-- What device output leaves in such ports. -/
def storedTo (op : Opcode) (ports : Ports) (port : UInt8) (v : UInt16) : Ports :=
  if op.short then ports.setFieldFrom port v else ports.set port (lowByte v)

end Opcode

def Bus.Unmapped (b : Bus) : Prop := ∀ port, b.readRoute port = none ∧ b.writeRoute port = none

namespace Machine

variable {k pc : UInt16} {m m' : Machine} (fuel : Nat) (inner : Access)

theorem SameSetup.unmapped (h : SameSetup m m') (hm : m.bus.Unmapped) :
    m'.bus.Unmapped := fun port =>
  ⟨(h.readRoute port).trans (hm port).1, (h.writeRoute port).trans (hm port).2⟩

/-- The second machine is the first one with its memory turned by `k`, whatever the two journals
say. -/
structure Moved (k : UInt16) (m m' : Machine) : Prop where
  core : m.board.core.Moved k m'.board.core
  ports : m'.board.ports = m.board.ports
  vdp : m'.board.vdp = m.board.vdp
  bus : m'.bus = m.bus
  config : m'.config = m.config
  controller : m'.controller = m.controller

theorem Moved.note (h : Moved k m m') (e e' : Event) : Moved k (m.note e) (m'.note e') :=
  ⟨h.core, h.ports, h.vdp, h.bus, h.config, h.controller⟩

theorem Moved.onCore {α β : Type} (h : Moved k m m') {f : Core → α × Core} {g : Core → β × Core}
    (hfg : (f m.board.core).2.Moved k (g m'.board.core).2) :
    Moved k (m.onCore f).2 (m'.onCore g).2 :=
  ⟨hfg, h.ports, h.vdp, h.bus, h.config, h.controller⟩

theorem dei_of_unmapped (hm : m.bus.Unmapped) (port : UInt8) :
    (Access.above fuel inner).dei port m = some (m.board.ports.get port, m) := by
  change m.deiWith inner port = _
  rw [deiWith, (hm port).1]

theorem deo_of_unmapped (hm : m.bus.Unmapped) (port v : UInt8) :
    (Access.above fuel inner).deo port v m = some { m with board := m.board.setPort port v } := by
  change m.deoWith inner port v = _
  rw [deoWith, (hm port).2]

theorem Moved.give (h : Moved k m m') (op : Opcode) (v : UInt16) :
    Moved k (m.give op v) (m'.give op v) :=
  h.onCore ⟨h.core.memory, congrArg (·.modify op.stack (op.give · v)) h.core.stackPair⟩

theorem input_of_unmapped (hm : m.bus.Unmapped) (op : Opcode) : m.input (.above fuel inner) op =
    some ((m.onCore op.takePort).2.give op (op.stored m.board.ports (m.onCore op.takePort).1)) := by
  have hn : (m.onCore op.takePort).2.bus.Unmapped := hm
  have hports : (m.onCore op.takePort).2.board.ports = m.board.ports := rfl
  rw [input]
  generalize m.onCore op.takePort = r at hn hports
  simp only [dei_of_unmapped fuel inner hn, Opcode.stored, hports]
  split <;> rfl

theorem output_of_unmapped (hm : m.bus.Unmapped) (op : Opcode) : m.output (.above fuel inner) op =
    let r := m.onCore op.takePortAndValue
    some { r.2 with board.ports := op.storedTo m.board.ports r.1.1 r.1.2 } := by
  have hn : (m.onCore op.takePortAndValue).2.bus.Unmapped := hm
  have hports : (m.onCore op.takePortAndValue).2.board.ports = m.board.ports := rfl
  rw [output]
  generalize m.onCore op.takePortAndValue = r at hn hports
  obtain ⟨⟨port, v⟩, n⟩ := r
  have hhigh : ({ n with board := n.board.setPort port (highByte v) } : Machine).bus.Unmapped := hn
  dsimp only at hn hports ⊢
  rw [Opcode.storedTo, ← hports]
  cases op.short with
  | false => exact deo_of_unmapped fuel inner hn port (lowByte v)
  | true =>
    simp only [if_true, deo_of_unmapped fuel inner hn]
    exact deo_of_unmapped fuel inner hhigh (port + 1) (lowByte v)

theorem Moved.input (h : Moved k m m') (hm : m.bus.Unmapped) (op : Opcode) :
    ∃ n n', m.input (.above fuel inner) op = some n ∧ m'.input (.above fuel inner) op = some n' ∧
      Moved k n n' := by
  obtain ⟨hport, hcore⟩ := op.takePort_moved h.core
  have hport : (m'.onCore op.takePort).1 = (m.onCore op.takePort).1 := hport
  refine ⟨_, _, input_of_unmapped fuel inner hm op,
    input_of_unmapped fuel inner (h.bus ▸ hm) op, ?_⟩
  rw [hport, h.ports]
  exact (h.onCore hcore).give op _

theorem Moved.output (h : Moved k m m') (hm : m.bus.Unmapped) (op : Opcode) :
    ∃ n n', m.output (.above fuel inner) op = some n ∧ m'.output (.above fuel inner) op = some n' ∧
      Moved k n n' := by
  obtain ⟨hport, hcore⟩ := op.takePortAndValue_moved h.core
  have hport : (m'.onCore op.takePortAndValue).1 = (m.onCore op.takePortAndValue).1 := hport
  refine ⟨_, _, output_of_unmapped fuel inner hm op,
    output_of_unmapped fuel inner (h.bus ▸ hm) op, ?_⟩
  rw [hport, h.ports]
  exact ⟨hcore, rfl, h.vdp, h.bus, h.config, h.controller⟩

/-! ## Runs -/

theorem Moved.step (h : Moved k m m') (hm : m.bus.Unmapped)
    (hr : (Opcode.decode (m.board.core.memory.read pc)).isRelative = true) :
    ∃ next n n', m.step (.above fuel inner) pc = some (next, n) ∧
      m'.step (.above fuel inner) (pc + k) = some (next.map (· + k), n') ∧ Moved k n n' := by
  have hnext : pc + k + 1 = pc + 1 + k := by grind
  have hbyte := h.core.memory pc
  rw [Machine.step, Machine.step, hbyte]
  have hn :=
    h.note (.executed pc (m.board.core.memory.read pc))
      (.executed (pc + k) (m.board.core.memory.read pc))
  have hmn : (m.note (.executed pc (m.board.core.memory.read pc))).bus.Unmapped := hm
  generalize m.note _ = n at hn hmn ⊢
  generalize m'.note _ = n' at hn ⊢
  generalize Opcode.decode (m.board.core.memory.read pc) = op at hr ⊢
  dsimp only
  rw [hnext]
  cases hb : op.base with
  | immediate =>
    obtain ⟨ha, hc⟩ := op.executeImmediate_moved (pc + 1) hb hr hn.core
    exact ⟨_, _, _, rfl, congrArg some (Prod.ext ha rfl), hn.onCore hc⟩
  | dei =>
    obtain ⟨a, a', ha, ha', hmoved⟩ := hn.input fuel inner hmn op
    exact ⟨_, _, _, by rw [ha]; rfl, by rw [ha']; rfl, hmoved⟩
  | deo =>
    obtain ⟨a, a', ha, ha', hmoved⟩ := hn.output fuel inner hmn op
    exact ⟨_, _, _, by rw [ha]; rfl, by rw [ha']; rfl, hmoved⟩
  | _ =>
    obtain ⟨ha, hc⟩ := op.execute_moved (pc + 1) (by simp [hb]) hr hn.core
    exact ⟨_, _, _, rfl, congrArg some (Prod.ext (congrArg some ha) rfl), hn.onCore hc⟩

theorem Moved.steps (hk : (Access.above fuel inner).Keeps SameSetup) (h : Moved k m m')
    (hm : m.bus.Unmapped)
    {budget : Nat} (hr : ∀ i < budget, ∀ pc' a, Executes (.above fuel inner) i pc m (some pc') a →
      (Opcode.decode (a.board.core.memory.read pc')).isRelative = true) :
    ∃ next n n', steps (.above fuel inner) budget pc m = some (next, n) ∧
      steps (.above fuel inner) budget (pc + k) m' = some (next.map (· + k), n') ∧
      Moved k n n' := by
  induction budget generalizing pc m m' with
  | zero => exact ⟨some pc, m, m', rfl, rfl, h⟩
  | succ budget ih =>
    obtain ⟨next, n, n', hs, hs', hn⟩ := h.step fuel inner hm (hr 0 (by omega) pc m (.rest pc m))
    rw [Machine.steps, Machine.steps, hs, hs']
    cases next with
    | none => exact ⟨none, n, n', rfl, rfl, hn⟩
    | some pc' =>
      refine ih hn ((kept_sameSetup.step hk hs).unmapped hm) fun i hi pc'' a ha => ?_
      exact hr (i + 1) (by omega) pc'' a (.step hs ha)

def RunsRelative (m : Machine) (fuel : Nat) (start : UInt16) : Prop :=
  ∀ i < m.budget fuel, ∀ pc n, Executes (m.access fuel) i start m (some pc) n →
    (Opcode.decode (n.board.core.memory.read pc)).isRelative = true

theorem runsRelative_iff {start : UInt16} : m.RunsRelative fuel start ↔
    ∀ i < m.budget fuel, (Machine.steps (m.access fuel) i start m).all (fun r =>
      r.1.all fun pc => (Opcode.decode (r.2.board.core.memory.read pc)).isRelative) = true := by
  refine forall_congr' fun i => forall_congr' fun _ => ?_
  simp only [executes_iff_steps]
  cases Machine.steps (m.access fuel) i start m with
  | none => simp
  | some r =>
    obtain ⟨_ | pc, n⟩ := r
    · simp
    · simp only [Option.all_some, Option.some.injEq, Prod.mk.injEq]
      exact ⟨fun h => h pc n ⟨rfl, rfl⟩, fun h _ _ ⟨hpc, hn⟩ => hpc ▸ hn ▸ h⟩

instance (m : Machine) (fuel : Nat) (start : UInt16) : Decidable (m.RunsRelative fuel start) :=
  decidable_of_iff _ (runsRelative_iff fuel).symm

/-- A program of relative instructions runs the same on turned memory, from where its start has
gone: with the same outcome, and with machines that are still the same but for the turn. Only a run
that no limit ends may be without a result, and then both are. -/
theorem run_moved (hm : m.bus.Unmapped) (h : Moved k m m') {start : UInt16}
    (hr : m.RunsRelative fuel start) :
    (∃ o n n', m.run fuel start = some (o, n) ∧ m'.run fuel (start + k) = some (o, n') ∧
      Moved k n n') ∨
      (m.config.stepLimit = none ∧ m.run fuel start = none ∧ m'.run fuel (start + k) = none) := by
  have haccess : m'.access fuel = m.access fuel := by rw [access, access, h.bus]
  have hkeeps := kept_sameSetup.access m fuel
  rw [RunsRelative, access_eq_above] at hr
  rw [access_eq_above] at hkeeps
  obtain ⟨next, n, n', hs, hs', hn⟩ := h.steps fuel (m.inner fuel) hkeeps hm hr
  have hbudget : m'.budget fuel = m.budget fuel := by rw [budget, budget, h.config]
  rw [run_eq_concluded, run_eq_concluded, haccess, hbudget, h.config, access_eq_above, hs, hs']
  cases next with
  | none => exact .inl ⟨.halted, n, n', rfl, rfl, hn⟩
  | some pc =>
    cases m.config.stepLimit with
    | some l => exact .inl ⟨.ranOff, _, _, rfl, rfl, hn.note _ _⟩
    | none => exact .inr ⟨rfl, rfl, rfl⟩

/-- A machine without devices, loaded with a program that stores the successor of the byte behind it
one further on. -/
def succeeding (start : UInt16) : Machine :=
  (bare (Config.standard.withStepLimit 6) (.upTo none)).load start
    #[0x80, 0x05, 0x12, 0x01, 0x80, 0x02, 0x13, 0x00, 0x2A]

theorem unmapped_succeeding (start : UInt16) : (succeeding start).bus.Unmapped := by
  intro port
  simp [succeeding, load, Bus.empty, Bus.readRoute, Bus.writeRoute]

theorem moved_succeeding (k : UInt16) : Moved k (succeeding 0) (succeeding (0 + k)) := by
  have hzero : Memory.zero.Moved k .zero := fun a => by simp [Memory.zero, Memory.read]
  exact ⟨⟨hzero.load 0 (by decide), rfl⟩, rfl, rfl, rfl, rfl, rfl⟩

/-- Two places of the same program, of which the second lies across the top of memory. -/
theorem run_moved_succeeding :
    (succeeding 0).bus.Unmapped ∧ Moved 0xFFFA (succeeding 0) (succeeding (0 + 0xFFFA)) ∧
    (succeeding 0).RunsRelative 0 0 ∧ ∃ n n', (succeeding 0).run 0 0 = some (.halted, n) ∧
      (succeeding (0 + 0xFFFA)).run 0 (0 + 0xFFFA) = some (.halted, n') ∧
      n.board.core.memory.read 9 = 0x2B ∧ n'.board.core.memory.read 3 = 0x2B := by
  have hm := unmapped_succeeding 0
  have h := moved_succeeding 0xFFFA
  have hr : (succeeding 0).RunsRelative 0 0 := by decide +kernel
  have hbyte : ((succeeding 0).run 0 0).map (fun r => (r.1, r.2.board.core.memory.read 9)) =
      some (.halted, 0x2B) := by
    decide +kernel
  have hlimit : (succeeding 0).config.stepLimit = some 6 := rfl
  obtain ⟨o, n, n', hn, hn', hmoved⟩ := (run_moved 0 hm h hr).resolve_right fun hnone => by
    simp [hlimit] at hnone
  rw [hn, Option.map_some, Option.some.injEq, Prod.mk.injEq] at hbyte
  obtain ⟨ho, hb⟩ := hbyte
  dsimp only at ho hb
  subst ho
  exact ⟨hm, h, hr, n, n', hn, hn', hb, (hmoved.core.memory 9).trans hb⟩

end Machine

end FantasyConsole
