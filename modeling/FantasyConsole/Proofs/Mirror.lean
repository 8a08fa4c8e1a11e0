import FantasyConsole.Proofs.Keeping
import FantasyConsole.Proofs.Bits

/-!
# The return flag

The return flag of an opcode says which of the two stacks is the instruction's own, and the
other one is then the other. Nothing in an instruction names a stack in any other way. So
with the flag turned over and the two stacks exchanged it does the same: it goes on at the
same address and leaves the same machine, with the stacks exchanged.
-/
namespace FantasyConsole

namespace StackPair

variable (pair : StackPair) (id : StackId)

def exchanged (pair : StackPair) : StackPair := ⟨pair.ret, pair.working⟩

theorem get_exchanged : pair.exchanged.get id.other = pair.get id := by
  cases id <;> rfl

theorem modify_exchanged (f : Stack → Stack) :
    pair.exchanged.modify id.other f = (pair.modify id f).exchanged := by
  cases id <;> rfl

end StackPair

def Core.exchanged (c : Core) : Core := { c with stackPair := c.stackPair.exchanged }

/-! ## Opcodes -/

namespace Opcode

variable (op : Opcode) (c : Core) (pc : UInt16)

def mirrored (op : Opcode) : Opcode := { op with stack := op.stack.other }

theorem decode_xor_returnFlag (b : UInt8) : decode (b ^^^ 0x40) = (decode b).mirrored := by
  have hflag : (0x40 : UInt8).toNat = 2 ^ 6 := by decide
  have hbit (k : Nat) : (b ^^^ 0x40).toNat.testBit k = (b.toNat.testBit k ^^ decide (6 = k)) := by
    rw [UInt8.toNat_xor, Nat.testBit_xor, hflag, Nat.testBit_two_pow]
  have hlow : (b ^^^ 0x40).toNat % 2 ^ 5 = b.toNat % 2 ^ 5 := by
    rw [UInt8.toNat_xor, Nat.xor_mod_two_pow]
    exact Nat.xor_zero _
  have hbase : BaseOp.ofByte (b ^^^ 0x40) = BaseOp.ofByte b := by
    simp only [BaseOp.ofByte]
    congr 1
  simp only [decode, mirrored, hbase,
    byte_and_bit_ne_zero _ (show (0x20 : UInt8).toNat = 2 ^ 5 by decide),
    byte_and_bit_ne_zero _ hflag,
    byte_and_bit_ne_zero _ (show (0x80 : UInt8).toNat = 2 ^ 7 by decide), hbit]
  cases b.toNat.testBit 5 <;> cases b.toNat.testBit 6 <;> cases b.toNat.testBit 7 <;> rfl

/-- The effect of an instruction is worked out from its items, and both its stacks change in the
other's place. -/
theorem execute_mirrored :
    op.mirrored.execute pc c.exchanged = ((op.execute pc c).1, (op.execute pc c).2.exchanged) := by
  have hc : op.execute pc c = op.applied c.stackPair
      (op.effect pc c.memory ((c.stackPair.get op.stack).items op.sizes)) :=
    op.follows pc c.memory c.stackPair
  have hr : op.mirrored.execute pc c.exchanged = op.mirrored.applied c.stackPair.exchanged
      (op.effect pc c.memory ((c.stackPair.exchanged.get op.stack.other).items op.sizes)) :=
    op.mirrored.follows pc c.memory c.stackPair.exchanged
  rw [hr, hc, StackPair.get_exchanged]
  simp only [applied, mirrored, StackPair.modify_exchanged]
  rfl

theorem executeImmediate_of_keep (h : op.keep = true) : op.executeImmediate pc c =
    (some (if op.short then pc + 2 else pc + 1), { c with
      stackPair := c.stackPair.modify op.stack
        (·.pushAll (if op.short then [c.memory.read pc, c.memory.read (pc + 1)]
          else [c.memory.read pc])) }) := by
  have hform : op.immediateForm = .literal := by simp only [immediateForm, h]
  rw [executeImmediate, hform]
  cases op.short <;> rfl

theorem executeImmediate_mirrored (h : op.keep = true) :
    op.mirrored.executeImmediate pc c.exchanged =
      ((op.executeImmediate pc c).1, (op.executeImmediate pc c).2.exchanged) := by
  rw [op.executeImmediate_of_keep c pc h, op.mirrored.executeImmediate_of_keep c.exchanged pc h]
  simp only [mirrored, Core.exchanged, StackPair.modify_exchanged]
  rfl

end Opcode

/-! ## Machines -/

namespace Machine

variable {m : Machine} {op : Opcode}

def exchanged (m : Machine) : Machine := m.withPair m.board.core.stackPair.exchanged

theorem stack_exchanged (m : Machine) (op : Opcode) :
    m.exchanged.stack op.mirrored.stack = m.stack op.stack :=
  m.board.core.stackPair.get_exchanged op.stack

theorem onCore_exchanged {α : Type} {f g : Core → α × Core}
    (h : g m.board.core.exchanged = ((f m.board.core).1, (f m.board.core).2.exchanged)) :
    m.exchanged.onCore g = ((m.onCore f).1, (m.onCore f).2.exchanged) := by
  rw [onCore_eq, onCore_eq]
  exact congrArg (fun r : α × Core => (r.1, { m with board.core := r.2 })) h

theorem leftover_exchanged (m : Machine) (op : Opcode) (n : Nat) :
    m.exchanged.leftover op.mirrored n = (m.leftover op n).exchanged := by
  rw [leftover, stack_exchanged]
  exact m.board.core.stackPair.modify_exchanged op.stack fun _ => op.rest (m.stack op.stack) n

theorem inputAt_withPair (m : Machine) (pair : StackPair) (op : Opcode) (port : UInt8) :
    (m.withPair pair).inputAt op port =
      ((m.inputAt op port).1, (m.inputAt op port).2.withPair pair) := by
  simp only [inputAt, fetched_withPair]
  cases op.short <;> rfl

theorem outputAt_withPair (m : Machine) (pair : StackPair) (op : Opcode) (port : UInt8)
    (v : UInt16) :
    (m.withPair pair).outputAt op port v = (m.outputAt op port v).withPair pair := by
  simp only [outputAt, storedWord, stored_withPair]
  cases op.short <;> rfl

theorem give_mirrored (n : Machine) (pair : StackPair) (op : Opcode) (v : UInt16) :
    (n.withPair pair.exchanged).give op.mirrored v = ((n.withPair pair).give op v).exchanged := by
  rw [give_withPair, give_withPair]
  exact congrArg n.withPair (pair.modify_exchanged op.stack (·.pushAll (digits op.size v.toNat)))

theorem input_mirrored (inner : Access)
    (h : ∀ port ∈ op.accessed (m.stack op.stack).pop.1, m.bus.NoDeviceReads port) :
    ∃ n, m.input inner.instructions op = some n ∧
      m.exchanged.input inner.instructions op.mirrored = some n.exchanged := by
  have hports : ∀ port ∈ op.mirrored.accessed (m.exchanged.stack op.mirrored.stack).pop.1,
      m.exchanged.bus.NoDeviceReads port := by
    rw [stack_exchanged]
    exact h
  have hread (port : UInt8) : m.exchanged.inputAt op.mirrored port =
      ((m.inputAt op port).1, (m.inputAt op port).2.withPair m.board.core.stackPair.exchanged) :=
    m.inputAt_withPair m.board.core.stackPair.exchanged op port
  refine ⟨_, input_eq inner h, ?_⟩
  rw [input_eq inner hports, stack_exchanged, leftover_exchanged, hread]
  exact congrArg some (give_mirrored _ _ op _)

theorem output_mirrored (inner : Access)
    (h : ∀ port ∈ op.accessed (m.stack op.stack).pop.1, m.bus.NoDeviceWrites port) :
    ∃ n, m.output inner.instructions op = some n ∧
      m.exchanged.output inner.instructions op.mirrored = some n.exchanged := by
  have hports : ∀ port ∈ op.mirrored.accessed (m.exchanged.stack op.mirrored.stack).pop.1,
      m.exchanged.bus.NoDeviceWrites port := by
    rw [stack_exchanged]
    exact h
  have hwrite (port : UInt8) (v : UInt16) : m.exchanged.outputAt op.mirrored port v =
      (m.outputAt op port v).withPair m.board.core.stackPair.exchanged :=
    m.outputAt_withPair m.board.core.stackPair.exchanged op port v
  refine ⟨_, output_eq inner h, ?_⟩
  rw [output_eq inner hports, stack_exchanged, leftover_exchanged]
  dsimp only
  rw [hwrite]
  rfl

theorem perform_of_plain (io : Access) (op : Opcode) (pc : UInt16) (m : Machine)
    (h : op.base ∉ [.immediate, .dei, .deo]) :
    m.perform io op pc = some (some (m.onCore (op.execute pc)).1,
      (m.onCore (op.execute pc)).2) := by
  rw [perform]
  cases hb : op.base <;> first | rfl | simp [hb] at h

/-! The opcode and its mirror image, by what the opcode is. -/

/-- The opcode and its mirror image go on at one address, and the machine that the image leaves is
the other one's with exchanged stacks. -/
def Mirrors (m : Machine) (inner : Access) (op : Opcode) (pc : UInt16) : Prop :=
  ∃ next n, m.perform inner.instructions op pc = some (some next, n) ∧
    m.exchanged.perform inner.instructions op.mirrored pc = some (some next, n.exchanged)

theorem mirrors_literal (inner : Access) (pc : UInt16) (m : Machine) (h : op.base = .immediate)
    (hk : op.keep = true) :
    m.Mirrors inner op pc := by
  have hop (m : Machine) (op : Opcode) (h : op.base = .immediate) :
      m.perform inner.instructions op pc = some (m.onCore (op.executeImmediate pc)) := by
    rw [perform, h]
  have hnext : (m.onCore (op.executeImmediate pc)).1 =
      some (if op.short then pc + 2 else pc + 1) := by
    rw [onCore_eq, op.executeImmediate_of_keep m.board.core pc hk]
  refine ⟨if op.short then pc + 2 else pc + 1, (m.onCore (op.executeImmediate pc)).2, ?_, ?_⟩
  · rw [hop m op h, ← hnext]
  · rw [hop m.exchanged op.mirrored h,
      onCore_exchanged (op.executeImmediate_mirrored m.board.core pc hk), hnext]

theorem mirrors_plain (inner : Access) (pc : UInt16) (m : Machine)
    (h : op.base ∉ [.immediate, .dei, .deo]) :
    m.Mirrors inner op pc := by
  refine ⟨_, _, perform_of_plain inner.instructions op pc m h, ?_⟩
  rw [perform_of_plain inner.instructions op.mirrored pc m.exchanged h,
    onCore_exchanged (op.execute_mirrored m.board.core pc)]

theorem mirrors_dei (inner : Access) (pc : UInt16) (h : op.base = .dei)
    (hports : m.ReachesNoDevice op) :
    m.Mirrors inner op pc := by
  rw [ReachesNoDevice, h] at hports
  obtain ⟨n, hn, hx⟩ := input_mirrored inner hports
  have hbase : op.mirrored.base = .dei := h
  refine ⟨pc, n, ?_, ?_⟩
  · rw [perform, h, hn]
    rfl
  · rw [perform, hbase, hx]
    rfl

theorem mirrors_deo (inner : Access) (pc : UInt16) (h : op.base = .deo)
    (hports : m.ReachesNoDevice op) :
    m.Mirrors inner op pc := by
  rw [ReachesNoDevice, h] at hports
  obtain ⟨n, hn, hx⟩ := output_mirrored inner hports
  have hbase : op.mirrored.base = .deo := h
  refine ⟨pc, n, ?_, ?_⟩
  · rw [perform, h, hn]
    rfl
  · rw [perform, hbase, hx]
    rfl

/-- Return mode is the mirror image of working mode. Take any opcode that is no halt and no
immediate jump or call. With its return flag turned over, on the machine with exchanged stacks, it
goes on at the same address and leaves the same machine with exchanged stacks. -/
theorem perform_exchanged (inner : Access) (b : UInt8) (pc : UInt16) (m : Machine)
    (h : (Opcode.decode b).base ≠ .immediate ∨ (Opcode.decode b).keep = true)
    (hports : m.ReachesNoDevice (.decode b)) : ∃ next n,
      m.perform inner.instructions (.decode b) pc = some (some next, n) ∧
      m.exchanged.perform inner.instructions (.decode (b ^^^ 0x40)) pc =
        some (some next, n.exchanged) := by
  rw [Opcode.decode_xor_returnFlag]
  generalize Opcode.decode b = op at h hports
  change m.Mirrors inner op pc
  by_cases himmediate : op.base = .immediate
  · exact mirrors_literal inner pc m himmediate (h.resolve_left (not_not_intro himmediate))
  · by_cases hdei : op.base = .dei
    · exact mirrors_dei inner pc hdei hports
    · by_cases hdeo : op.base = .deo
      · exact mirrors_deo inner pc hdeo hports
      · exact mirrors_plain inner pc m (by simp [himmediate, hdei, hdeo])

/-- A machine with a return address across the end of its return stack, and a byte on its working
stack. -/
def straddlingReturn : Machine :=
  let m := bare .standard (.upTo none)
  { m with board.core.stackPair :=
    ⟨Stack.empty.push 0x77, (Stack.empty.setPtr 0xFF).pushAll [0x12, 0x34]⟩ }

/-- JSR2kr calls the address on the return stack and stores its own on the working stack; JSR2k the
other way round. -/
theorem perform_exchanged_straddlingReturn :
    ((Opcode.decode 0xEE).base ≠ .immediate ∨ (Opcode.decode 0xEE).keep = true) ∧
      straddlingReturn.ReachesNoDevice (.decode 0xEE) ∧ ∃ n,
        straddlingReturn.perform Access.refused.instructions (.decode 0xEE) 0xABCD =
          some (some 0x1234, n) ∧
        straddlingReturn.exchanged.perform Access.refused.instructions (.decode 0xAE) 0xABCD =
          some (some 0x1234, n.exchanged) ∧
        (n.stack .working).window 3 = [0x77, 0xAB, 0xCD] ∧
        (n.exchanged.stack .ret).window 3 = [0x77, 0xAB, 0xCD] := by
  have hbase : (Opcode.decode 0xEE).base ≠ .immediate ∨
      (Opcode.decode 0xEE).keep = true := by decide
  have hports : straddlingReturn.ReachesNoDevice (.decode 0xEE) := trivial
  obtain ⟨next, n, hn, hx⟩ := perform_exchanged .refused 0xEE 0xABCD straddlingReturn hbase hports
  have hresult : (straddlingReturn.perform Access.refused.instructions (.decode 0xEE) 0xABCD).map
      (fun r => (r.1, (r.2.stack .working).window 3)) = some (some 0x1234, [0x77, 0xAB, 0xCD]) := by
    decide +kernel
  rw [hn] at hresult
  simp only [Option.map_some, Option.some.injEq, Prod.mk.injEq] at hresult
  obtain ⟨rfl, hwindow⟩ := hresult
  exact ⟨hbase, hports, n, hn, hx, hwindow, hwindow⟩

end Machine

end FantasyConsole
