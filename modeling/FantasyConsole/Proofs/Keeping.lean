import FantasyConsole.Proofs.Storage

/-!
# Keep mode

An instruction in keep mode does what the plain one does. It goes on at the same
address and leaves the same machine, its own stack apart: there the operands stay and
the results lie above them, byte by byte those of the plain instruction.
-/
namespace FantasyConsole

namespace Stack

/-- Two stacks that one stack becomes when `n` bytes are taken off and `k` are given for them, in
`kept` on top of the taken ones: they stay below the old pointer, and the given bytes lie from there
on. -/
structure KeepsOperands (start plain kept : Stack) (n k : Nat) : Prop where
  ptr_plain : plain.ptr = start.ptr - UInt8.ofNat n + UInt8.ofNat k
  ptr_kept : kept.ptr = start.ptr + UInt8.ofNat k
  results : ∀ i < k, kept.get (start.ptr + UInt8.ofNat i) =
    plain.get (start.ptr - UInt8.ofNat n + UInt8.ofNat i)
  operands : ∀ i, 1 ≤ i → i ≤ n → kept.get (start.ptr - UInt8.ofNat i) =
    start.get (start.ptr - UInt8.ofNat i)
  others : ∀ j, (∀ i < k, start.ptr + UInt8.ofNat i ≠ j) → kept.get j = start.get j

theorem keepsOperands_pushAll (s : Stack) (bytes : List UInt8) {n : Nat}
    (h : n + bytes.length < 256) :
    KeepsOperands s ((s.dropped n).pushAll bytes) (s.pushAll bytes) n bytes.length where
  ptr_plain := (s.dropped n).ptr_pushAll bytes
  ptr_kept := s.ptr_pushAll bytes
  results i hi := by
    have hplain := (s.dropped n).get_pushAll_add bytes (by omega) hi
    rw [s.get_pushAll_add bytes (by omega) hi]
    exact hplain.symm
  operands i hpos hi := by
    refine s.get_pushAll_of_ne bytes fun k hk he =>
      ofNat_succ_ne_zero (i := k + (i - 1)) (by omega) ?_
    rw [Nat.add_assoc, Nat.sub_add_cancel hpos, UInt8.ofNat_add]
    grind
  others _ h := s.get_pushAll_of_ne bytes h

end Stack

/-! ## How much an instruction takes and gives -/

namespace Opcode

variable (op : Opcode)

def keeping (op : Opcode) (keep : Bool) : Opcode := { op with keep }

@[simp] theorem base_keeping (keep : Bool) : (op.keeping keep).base = op.base := rfl

@[simp] theorem stack_keeping (keep : Bool) : (op.keeping keep).stack = op.stack := rfl

def operandBytes (op : Opcode) : Nat :=
  match op.base with
  | .dei => 1
  | .deo => op.size + 1
  | _ => op.sizes.sum

def resultBytes (op : Opcode) : Nat :=
  match op.base with
  | .immediate | .pop | .jmp | .jcn | .jsr | .sth | .stz | .str | .sta | .deo => 0
  | .equ | .neq | .gth | .lth => 1
  | .swp | .dup => 2 * op.size
  | .rot | .ovr => 3 * op.size
  | _ => op.size

theorem length_given (pc : UInt16) (m : Memory) (s : Stack)
    (h : op.base ∉ [.immediate, .dei, .deo]) :
    (op.effect pc m (s.items op.sizes)).given.length = op.resultBytes := by
  cases hb : op.base with
  | immediate | dei | deo => simp [hb] at h
  | _ => simp [effect, resultBytes, sizes, hb, Stack.items, length_digits, cells] <;> omega

theorem resultBytes_le : op.resultBytes ≤ 6 := by
  have hs : op.size ≤ 2 := by rcases op.size_cases with ⟨-, h⟩ | ⟨-, h⟩ <;> omega
  unfold resultBytes
  split <;> omega

theorem operandBytes_le : op.operandBytes ≤ 6 := by
  have hs : op.size ≤ 2 := by rcases op.size_cases with ⟨-, h⟩ | ⟨-, h⟩ <;> omega
  have ha : op.addressSize ≤ 2 := by rcases op.addressSize_cases with h | h <;> omega
  unfold operandBytes sizes
  cases op.base <;> simp <;> omega

end Opcode

namespace Machine

/-- The instruction does not reach a device: if it is device input or output, no device is behind
its ports. -/
def ReachesNoDevice (m : Machine) (op : Opcode) : Prop :=
  match op.base with
  | .dei => ∀ port ∈ op.accessed (m.stack op.stack).pop.1, m.bus.NoDeviceReads port
  | .deo => ∀ port ∈ op.accessed (m.stack op.stack).pop.1, m.bus.NoDeviceWrites port
  | _ => True

variable {m : Machine} {op : Opcode}

/-- What an instruction comes to: where it goes on, the bytes it gives, and the machine that it
leaves, its own stack apart. The keep flag decides only what is left of the operands. -/
def Performs (m : Machine) (inner : Access) (op : Opcode) (pc : UInt16) : Prop :=
  ∃ (next : UInt16) (results : List UInt8) (n : Machine), results.length = op.resultBytes ∧ ∀ keep,
    m.perform inner.instructions (op.keeping keep) pc = some (some next, n.withStack op.stack
      (((op.keeping keep).rest (m.stack op.stack) op.operandBytes).pushAll results))

theorem performs_plain (inner : Access) (pc : UInt16) (h : op.base ∉ [.immediate, .dei, .deo]) :
    m.Performs inner op pc := by
  let core := m.board.core
  let e := op.effect pc core.memory ((m.stack op.stack).items op.sizes)
  have hbytes : op.operandBytes = op.sizes.sum := by
    unfold Opcode.operandBytes
    split <;> simp_all
  refine ⟨UInt16.ofNat e.next, e.given,
    { m with board.core := ⟨e.memory, core.stackPair.modify op.stack.other (·.pushAll e.sent)⟩ },
    op.length_given pc core.memory (m.stack op.stack) h, fun keep => ?_⟩
  have hx : m.perform inner.instructions (op.keeping keep) pc =
      let r := (op.keeping keep).execute pc core
      some (some r.1, { m with board.core := r.2 }) := by
    rw [perform, Opcode.base_keeping]
    cases hb : op.base <;> first | rfl | simp [hb] at h
  have hf : (op.keeping keep).execute pc core = (op.keeping keep).applied core.stackPair e :=
    (op.keeping keep).follows pc core.memory core.stackPair
  rw [hx, hf, hbytes]
  cases hs : op.stack <;> simp only [Opcode.applied, Opcode.keeping, hs] <;> rfl

theorem performs_dei (inner : Access) (pc : UInt16) (h : op.base = .dei)
    (hports : m.ReachesNoDevice op) :
    m.Performs inner op pc := by
  rw [ReachesNoDevice, h] at hports
  let r := m.inputAt op (m.stack op.stack).pop.1
  have hbytes : op.operandBytes = 1 := by rw [Opcode.operandBytes, h]
  refine ⟨pc, digits op.size r.1.toNat, r.2.withPair m.board.core.stackPair, ?_, fun keep => ?_⟩
  · rw [length_digits, Opcode.resultBytes, h]
  · have hi : m.input inner.instructions (op.keeping keep) =
        some ((r.2.withPair (m.leftover (op.keeping keep) 1)).give (op.keeping keep) r.1) :=
      input_eq inner hports
    rw [perform, Opcode.base_keeping, h, hi, give_withPair, hbytes, leftover, Opcode.stack_keeping]
    cases op.stack <;> rfl

theorem performs_deo (inner : Access) (pc : UInt16) (h : op.base = .deo)
    (hports : m.ReachesNoDevice op) :
    m.Performs inner op pc := by
  rw [ReachesNoDevice, h] at hports
  let n :=
    m.outputAt op (m.stack op.stack).pop.1
      (UInt16.ofNat (((m.stack op.stack).dropped 1).item op.size))
  have hbytes : op.operandBytes = op.size + 1 := by rw [Opcode.operandBytes, h]
  refine ⟨pc, [], n.withPair m.board.core.stackPair, ?_, fun keep => ?_⟩
  · rw [Opcode.resultBytes, h]
    rfl
  · have ho : m.output inner.instructions (op.keeping keep) =
        some (n.withPair (m.leftover (op.keeping keep) (op.size + 1))) := output_eq inner hports
    rw [perform, Opcode.base_keeping, h, ho, hbytes, leftover, Opcode.stack_keeping]
    cases op.stack <;> rfl

theorem performs (inner : Access) (pc : UInt16) (h : op.base ≠ .immediate)
    (hports : m.ReachesNoDevice op) :
    m.Performs inner op pc := by
  by_cases hdei : op.base = .dei
  · exact performs_dei inner pc hdei hports
  · by_cases hdeo : op.base = .deo
    · exact performs_deo inner pc hdeo hports
    · exact performs_plain inner pc (by simp [h, hdei, hdeo])

/-- Keep mode. For every operation that takes operands, at both widths and on either stack, the
instruction goes on at the same address with the flag as without it and leaves the same machine, the
active stack apart. There the operands stay where they were, and the results of the plain
instruction lie on top of them. -/
theorem perform_keeping (inner : Access) (op : Opcode) (pc : UInt16) (m : Machine)
    (h : op.base ≠ .immediate)
    (hports : m.ReachesNoDevice op) : ∃ (next : UInt16) (plain kept : Machine),
      m.perform inner.instructions (op.keeping false) pc = some (some next, plain) ∧
      m.perform inner.instructions (op.keeping true) pc = some (some next, kept) ∧
      kept = plain.withStack op.stack (kept.stack op.stack) ∧
      (m.stack op.stack).KeepsOperands (plain.stack op.stack)
      (kept.stack op.stack) op.operandBytes op.resultBytes := by
  obtain ⟨next, results, n, hlen, hn⟩ := performs inner pc h hports
  have hbytes := op.operandBytes_le
  have hresults := op.resultBytes_le
  refine ⟨next, _, _, hn false, hn true, ?_, ?_⟩
  · rw [stack_withStack, withStack_withStack]
  · rw [stack_withStack, stack_withStack, ← hlen]
    exact (m.stack op.stack).keepsOperands_pushAll results (by omega)

/-- A machine about to read the port byte in the last cell of its working stack. -/
def polling : Machine :=
  let m := (bare .standard (.upTo none)).installVdp
  { m with board.core.stackPair.working := (Stack.empty.setPtr 0xFF).push 0x0C }

theorem perform_keeping_polling :
    BaseOp.dei ≠ .immediate ∧ polling.ReachesNoDevice ⟨.dei, true, .working, false⟩ ∧
      ∃ next plain kept,
      polling.perform Access.refused.instructions ⟨.dei, true, .working, false⟩ 1 =
        some (some next, plain) ∧
      polling.perform Access.refused.instructions ⟨.dei, true, .working, true⟩ 1 =
        some (some next, kept) ∧
      kept.board.ports = plain.board.ports ∧ kept.board.vdp = plain.board.vdp ∧
      (plain.stack .working).ptr = 1 ∧ (kept.stack .working).ptr = 2 ∧
      (kept.stack .working).get 0xFF = 0x0C := by
  have hbase : BaseOp.dei ≠ .immediate := by decide
  have hports : polling.ReachesNoDevice ⟨.dei, true, .working, false⟩ := by
    intro port _ id _
    simp [polling, installVdp, Bus.deviceAt?, Bus.empty]
  obtain ⟨next, plain, kept, hplain, hkept, hsame, hs⟩ :=
    perform_keeping .refused ⟨.dei, true, .working, false⟩ 1 polling hbase hports
  have hcell : (kept.stack .working).get 0xFF = 0x0C :=
    (hs.operands 1 (by decide) (by decide)).trans (by decide +kernel)
  refine ⟨hbase, hports, next, plain, kept, hplain, hkept, ?_, ?_, hs.ptr_plain, hs.ptr_kept, hcell⟩
  · rw [hsame]
    rfl
  · rw [hsame]
    rfl

end Machine

end FantasyConsole
