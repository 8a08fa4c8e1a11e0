import FantasyConsole.Proofs.StandardAccess

/-!
# Pointers as ports

A program can read and move the pointers of both stacks through two ports, while the
instruction that does so works on one of these stacks itself. The ports see the pointers
as the operand phase left them: a result is pushed after they were read, and a pointer
that was moved stays where it was put.
-/
namespace FantasyConsole

theorem Stack.pushWord_word (high low : UInt8) :
    (fun s : Stack => s.pushWord (word high low)) = (·.pushAll [high, low]) := by
  funext s
  rw [pushWord, highByte_word, lowByte_word]
  rfl

namespace Machine

variable {m : Machine} {op : Opcode}

/-- The pointer of a stack after an operand phase on `n` bytes. Without keep mode it has gone down
on the instruction's own stack. -/
def settledPtr (m : Machine) (op : Opcode) (n : Nat) (id : StackId) : UInt8 :=
  if id = op.stack ∧ op.keep = false then (m.stack id).ptr - UInt8.ofNat n else (m.stack id).ptr

theorem ptr_leftover (m : Machine) (op : Opcode) (n : Nat) (id : StackId) :
    ((m.leftover op n).get id).ptr = m.settledPtr op n id := by
  rw [leftover, settledPtr, Opcode.rest]
  cases op.keep <;> cases op.stack <;> cases id <;> rfl

theorem cells_leftover (m : Machine) (op : Opcode) (n : Nat) (id : StackId) :
    ((m.leftover op n).get id).cells = (m.stack id).cells := by
  rw [leftover, Opcode.rest]
  cases op.keep <;> cases op.stack <;> cases id <;> rfl

/-- Device input from ports whose reads change nothing: the bytes are pushed where the operand phase
left the pointer. -/
theorem input_eq_of_reads (inner : Access) {f : UInt8 → UInt8}
    (h : ∀ port ∈ op.accessed (m.stack op.stack).pop.1,
      (m.withPair (m.leftover op 1)).deiWith inner port =
        some (f port, m.withPair (m.leftover op 1))) :
    m.input inner.instructions op = some (m.withPair ((m.leftover op 1).modify op.stack
      (·.pushAll ((op.accessed (m.stack op.stack).pop.1).map f)))) := by
  generalize hp : (m.stack op.stack).pop.1 = port at h
  rw [input, onCore_takePort, hp]
  dsimp only
  cases hs : op.short with
  | false =>
    have hport : inner.instructions.dei port _ = _ := h port (by simp [Opcode.accessed, hs])
    have hbytes : digits op.size (f port).toUInt16.toNat = (op.accessed port).map f := by
      simp [Opcode.size, Opcode.accessed, hs, digits]
    rw [hport, ← hbytes, ← give_withPair]
    rfl
  | true =>
    have hport : inner.instructions.dei port _ = _ := h port (by simp [Opcode.accessed, hs])
    have hnext : inner.instructions.dei (port + 1) _ = _ :=
      h (port + 1) (by simp [Opcode.accessed, hs])
    have hbytes : digits op.size (word (f port) (f (port + 1))).toNat =
        (op.accessed port).map f := by
      simp [Opcode.size, Opcode.accessed, hs, digits_two_toNat]
    rw [hport, ← hbytes, ← give_withPair]
    dsimp only
    rw [hnext]
    rfl

/-- The stacks after device output at the width of the instruction, as far as the ports show their
pointers. -/
def pointedBy (op : Opcode) (pair : StackPair) (port : UInt8) (v : UInt16) : StackPair :=
  if op.short then (pair.pointed port (highByte v)).pointed (port + 1) (lowByte v)
  else pair.pointed port (lowByte v)

theorem cells_pointedBy (op : Opcode) (pair : StackPair) (port : UInt8) (v : UInt16)
    (id : StackId) :
    ((pointedBy op pair port v).get id).cells = (pair.get id).cells := by
  rw [pointedBy]
  split
  · rw [StackPair.cells_pointed, StackPair.cells_pointed]
  · rw [StackPair.cells_pointed]

section Standard

variable {config : Config} {filter : LogFilter} {image : Array UInt8} {input : Option (List UInt8)}

theorem SameSetup.plain_or_pointer (hs : SameSetup (standard config filter image input) m)
    {port : UInt8} (h : port ∈ [0x03, 0x04, 0x05, 0x06]) :
    m.bus.readRoute port = none ∨ ∃ id, port = Device.pointerPort id := by
  rw [hs.readRoute, readRoute_standard]
  simp only [List.mem_cons, List.not_mem_nil, or_false] at h
  rcases h with rfl | rfl | rfl | rfl
  · exact .inl rfl
  · exact .inr ⟨.working, rfl⟩
  · exact .inr ⟨.ret, rfl⟩
  · exact .inl rfl

theorem SameSetup.step_dei (hs : SameSetup (standard config filter image input) m)
    (inner : Access) {pc : UInt16}
    (hop : .decode (m.board.core.memory.read pc) = op) (hb : op.base = .dei)
    (h : ∀ port ∈ op.accessed (m.stack op.stack).pop.1,
      m.bus.readRoute port = none ∨ ∃ id, port = Device.pointerPort id) :
    m.step inner.instructions pc = some (some (pc + 1),
      (m.note (.executed pc (m.board.core.memory.read pc))).withPair
      ((m.leftover op 1).modify op.stack
        (·.pushAll ((op.accessed (m.stack op.stack).pop.1).map
          (m.withPair (m.leftover op 1)).shown)))) := by
  let a := m.note (.executed pc (m.board.core.memory.read pc))
  have ha : SameSetup (standard config filter image input) (a.withPair (a.leftover op 1)) :=
    hs.trans ⟨rfl, rfl, rfl⟩
  have hreads : ∀ port ∈ op.accessed (a.stack op.stack).pop.1,
      (a.withPair (a.leftover op 1)).deiWith inner port =
        some ((a.withPair (a.leftover op 1)).shown port, a.withPair (a.leftover op 1)) :=
    fun port hport => ha.deiWith_eq_shown inner (h port hport)
  rw [step_eq_perform, hop, perform, hb]
  dsimp only
  rw [input_eq_of_reads inner hreads]
  rfl

/-- Device output returns, and of the stacks it moves the pointers that it writes to. -/
theorem SameSetup.exists_output (hs : SameSetup (standard config filter image input) m)
    (inner : Access) (op : Opcode) :
    ∃ n, m.output inner.instructions op = some n ∧ n.board.core.stackPair =
      pointedBy op (m.leftover op (op.size + 1)) (m.stack op.stack).pop.1
        (UInt16.ofNat (((m.stack op.stack).dropped 1).item op.size)) := by
  have hleft : SameSetup (standard config filter image input)
      (m.withPair (m.leftover op (op.size + 1))) :=
    hs.trans ⟨rfl, rfl, rfl⟩
  rw [output, onCore_takePortAndValue, pointedBy]
  generalize UInt16.ofNat (((m.stack op.stack).dropped 1).item op.size) = v
  generalize (m.stack op.stack).pop.1 = port
  dsimp only
  cases op.short with
  | false =>
    obtain ⟨n, hn, -, hpair, -⟩ := hleft.exists_deoWith inner port (lowByte v)
    exact ⟨n, hn, hpair⟩
  | true =>
    obtain ⟨n₁, hn₁, hs₁, hpair₁, -⟩ := hleft.exists_deoWith inner port (highByte v)
    obtain ⟨n, hn, -, hpair, -⟩ := (hleft.trans hs₁).exists_deoWith inner (port + 1) (lowByte v)
    have hfirst : inner.instructions.deo port (highByte v) _ = some n₁ := hn₁
    refine ⟨n, ?_, ?_⟩
    · rw [if_pos rfl, hfirst]
      exact hn
    · rw [hpair, hpair₁]
      rfl

theorem SameSetup.exists_step_deo (hs : SameSetup (standard config filter image input) m)
    (inner : Access) {pc : UInt16}
    (hop : .decode (m.board.core.memory.read pc) = op) (hb : op.base = .deo) :
    ∃ n, m.step inner.instructions pc = some (some (pc + 1), n) ∧ n.board.core.stackPair =
      pointedBy op (m.leftover op (op.size + 1)) (m.stack op.stack).pop.1
        (UInt16.ofNat (((m.stack op.stack).dropped 1).item op.size)) := by
  let a := m.note (.executed pc (m.board.core.memory.read pc))
  have ha : SameSetup (standard config filter image input) a := hs.trans ⟨rfl, rfl, rfl⟩
  obtain ⟨n, hn, hpair⟩ := ha.exists_output inner op
  refine ⟨n, ?_, hpair⟩
  rw [step_eq_perform, hop, perform, hb]
  dsimp only
  rw [hn]
  rfl

/-- The pointers as ports, on any standard machine, for both widths, on either stack, with and
without keep mode. Device input pushes the pointers as the operand phase left them, a word from two
neighbouring ports; device output moves the pointers it writes to, where they stay, and leaves all
cells and the pointers it does not write to. -/
theorem step_pointerPorts (hs : SameSetup (standard config filter image input) m) (inner : Access)
    (pc : UInt16) :
    let b := m.board.core.memory.read pc
    let op := Opcode.decode b
    let port := (m.stack op.stack).pop.1
    let v := UInt16.ofNat (((m.stack op.stack).dropped 1).item op.size)
    let wp := m.settledPtr op 1 .working
    let rp := m.settledPtr op 1 .ret
    let Pushes (f : Stack → Stack) : Prop := m.step inner.instructions pc =
      some (some (pc + 1), (m.note (.executed pc b)).withPair ((m.leftover op 1).modify op.stack f))
    (op.base = .dei →
      (op.short = false → port = 0x04 → Pushes (·.push wp)) ∧
      (op.short = false → port = 0x05 → Pushes (·.push rp)) ∧
      (op.short = true → port = 0x03 → Pushes (·.pushWord (word (m.board.ports.get 0x03) wp))) ∧
      (op.short = true → port = 0x04 → Pushes (·.pushWord (word wp rp))) ∧
      (op.short = true → port = 0x05 → Pushes (·.pushWord (word rp (m.board.ports.get 0x06))))) ∧
    (op.base = .deo → ∃ n, m.step inner.instructions pc = some (some (pc + 1), n) ∧
      ∀ id, (n.stack id).cells = (m.stack id).cells ∧
        (op.short = false → (n.stack id).ptr =
          if port = Device.pointerPort id then lowByte v else m.settledPtr op 2 id) ∧
        (op.short = true → (n.stack id).ptr =
          if port + 1 = Device.pointerPort id then lowByte v
          else if port = Device.pointerPort id then highByte v
          else m.settledPtr op 3 id)) := by
  intro b op port v wp rp Pushes
  have hop : .decode (m.board.core.memory.read pc) = op := rfl
  refine ⟨fun hb => ?_, fun hb => ?_⟩
  · -- Which bytes are pushed depends on the ports that are read only.
    have hpushes {f : Stack → Stack} {ports : List UInt8} (hports : op.accessed port = ports)
        (hnear : ∀ q ∈ ports, q ∈ [0x03, 0x04, 0x05, 0x06])
        (hf : f = (·.pushAll (ports.map (m.withPair (m.leftover op 1)).shown))) : Pushes f := by
      rw [hf, ← hports]
      exact hs.step_dei inner hop hb fun q hq => hs.plain_or_pointer (hnear q (hports ▸ hq))
    have hworking : (m.withPair (m.leftover op 1)).shown 0x04 = wp := m.ptr_leftover op 1 .working
    have hret : (m.withPair (m.leftover op 1)).shown 0x05 = rp := m.ptr_leftover op 1 .ret
    have hbyte (hshort : op.short = false) : op.accessed port = [port] := by
      rw [Opcode.accessed, hshort, if_neg Bool.false_ne_true]
    have hword (hshort : op.short = true) : op.accessed port = [port, port + 1] := by
      rw [Opcode.accessed, hshort, if_pos rfl]
    refine ⟨fun hshort hp => ?_, fun hshort hp => ?_, fun hshort hp => ?_, fun hshort hp => ?_,
      fun hshort hp => ?_⟩
    · exact hpushes ((hbyte hshort).trans (by rw [hp])) (by simp) (by rw [← hworking]; rfl)
    · exact hpushes ((hbyte hshort).trans (by rw [hp])) (by simp) (by rw [← hret]; rfl)
    · exact hpushes ((hword hshort).trans (by rw [hp])) (by simp)
        (by rw [Stack.pushWord_word, ← hworking]; rfl)
    · exact hpushes ((hword hshort).trans (by rw [hp])) (by simp)
        (by rw [Stack.pushWord_word, ← hworking, ← hret]; rfl)
    · exact hpushes ((hword hshort).trans (by rw [hp])) (by simp)
        (by rw [Stack.pushWord_word, ← hret]; rfl)
  · obtain ⟨n, hn, hpair⟩ := hs.exists_step_deo inner hop hb
    have hstack (id : StackId) :
        n.stack id = (pointedBy op (m.leftover op (op.size + 1)) port v).get id :=
      congrArg (·.get id) hpair
    refine ⟨n, hn, fun id => ⟨?_, fun hshort => ?_, fun hshort => ?_⟩⟩
    · rw [hstack, cells_pointedBy, cells_leftover]
    · have hsize : op.size + 1 = 2 := by rw [Opcode.size, hshort]; rfl
      rw [hstack, pointedBy, hshort, if_neg Bool.false_ne_true, StackPair.ptr_pointed,
        ptr_leftover, hsize]
    · have hsize : op.size + 1 = 3 := by rw [Opcode.size, hshort]; rfl
      rw [hstack, pointedBy, hshort, if_pos rfl, StackPair.ptr_pointed, StackPair.ptr_pointed,
        ptr_leftover, hsize]

end Standard

/-- A standard machine with an instruction at address 0, and with a word and the port of the working
stack's pointer across the end of its working stack. -/
def pointing (b : UInt8) : Machine :=
  ((standard .standard (.upTo none) #[] none).load 0 #[b]).withPair
    ⟨(Stack.empty.setPtr 0xFE).pushAll [0x12, 0x34, 0x04], Stack.empty.setPtr 0x7F⟩

/-- DEI2k pushes both pointers on top of its operands, and DEO2k puts both where the word says. -/
theorem step_pointerPorts_pointing :
    (∀ b, SameSetup (standard .standard (.upTo none) #[] none) (pointing b)) ∧
      (∃ n, (pointing 0xB6).step Access.refused.instructions 0 = some (some 1, n) ∧
        (n.stack .working).window 5 = [0x12, 0x34, 0x04, 0x01, 0x7F]) ∧
      ∃ n, (pointing 0xB7).step Access.refused.instructions 0 = some (some 1, n) ∧
        (n.stack .working).ptr = 0x12 ∧ (n.stack .ret).ptr = 0x34 ∧
        (n.stack .working).get 0x00 = 0x04 := by
  have hs (b : UInt8) : SameSetup (standard .standard (.upTo none) #[] none) (pointing b) :=
    (sameSetup_load _ 0 #[b]).trans (sameSetup_withPair _ _)
  refine ⟨hs, ?_, ?_⟩
  · have hop : Opcode.decode ((pointing 0xB6).board.core.memory.read 0) =
        ⟨.dei, true, .working, true⟩ := by
      decide +kernel
    have hport : ((pointing 0xB6).stack .working).pop.1 = 0x04 := by decide +kernel
    have h := step_pointerPorts (hs 0xB6) .refused 0
    dsimp only at h
    rw [hop] at h
    exact ⟨_, (h.1 rfl).2.2.2.1 rfl hport, by decide +kernel⟩
  · have hop : Opcode.decode ((pointing 0xB7).board.core.memory.read 0) =
        ⟨.deo, true, .working, true⟩ := by
      decide +kernel
    have h := step_pointerPorts (hs 0xB7) .refused 0
    dsimp only at h
    rw [hop] at h
    obtain ⟨n, hn, hstack⟩ := h.2 rfl
    obtain ⟨hcells, -, hworking⟩ := hstack .working
    obtain ⟨-, -, hret⟩ := hstack .ret
    refine ⟨n, hn, ?_, ?_, ?_⟩
    · rw [hworking rfl]
      decide +kernel
    · rw [hret rfl]
      decide +kernel
    · exact (congrArg (fun cells => (Stack.mk cells 0).get 0x00) hcells).trans (by decide +kernel)

end Machine

end FantasyConsole
