import FantasyConsole.Proofs.Effects
import FantasyConsole.Proofs.Storage

/-!
# Rotated stacks

A program sees its stacks from their pointers on. Two machines whose stacks differ by
where in the ring they lie run alike, as long as no port leads to a device: the stacks
of one stay rotated against those of the other, and everything else stays the same.
-/
namespace FantasyConsole

namespace Stack

variable (s : Stack) (k : UInt8)

theorem ext_get {s t : Stack} (hp : s.ptr = t.ptr) (hg : ∀ i, s.get i = t.get i) : s = t := by
  refine Stack.ext (Vector.ext fun i hi => ?_) hp
  have h := hg (UInt8.ofNat i)
  simp only [get, UInt8.toNat_ofNat_of_lt' hi] at h
  exact h

/-- The stack `k` places further up in the ring. -/
def rotated (s : Stack) (k : UInt8) : Stack :=
  ⟨.ofFn fun i => s.get (UInt8.ofNat i.val - k), s.ptr + k⟩

theorem ptr_rotated : (s.rotated k).ptr = s.ptr + k := rfl

theorem get_rotated (i : UInt8) : (s.rotated k).get i = s.get (i - k) := by
  simp [rotated, get]

theorem setPtr_rotated (p : UInt8) : (s.rotated k).setPtr (p + k) = (s.setPtr p).rotated k := rfl

-- From here on a rotated stack is known by its pointer and its cells.
attribute [irreducible] rotated

theorem push_rotated (v : UInt8) : (s.rotated k).push v = (s.push v).rotated k := by
  apply ext_get
  · rw [ptr_push, ptr_rotated, ptr_rotated, ptr_push]
    grind
  · intro i
    have hi : s.ptr + k = i ↔ s.ptr = i - k := by grind
    rw [get_push, get_rotated, get_rotated, get_push, ptr_rotated]
    simp only [hi]

theorem pushAll_rotated (bytes : List UInt8) :
    (s.rotated k).pushAll bytes = (s.pushAll bytes).rotated k := by
  induction bytes generalizing s with
  | nil => rfl
  | cons b bytes ih =>
    rw [pushAll_cons, push_rotated, ih, pushAll_cons]

theorem dropped_rotated (n : Nat) : (s.rotated k).dropped n = (s.dropped n).rotated k := by
  have hp : s.ptr + k - UInt8.ofNat n = s.ptr - UInt8.ofNat n + k := by grind
  rw [dropped, ptr_rotated, hp, setPtr_rotated, dropped]

theorem item_rotated (n : Nat) : (s.rotated k).item n = s.item n := by
  have hw : (s.rotated k).window (UInt8.ofNat n) = s.window (UInt8.ofNat n) := by
    refine List.map_congr_left fun i _ => ?_
    have hi : s.ptr + k - UInt8.ofNat n + UInt8.ofNat i - k =
        s.ptr - UInt8.ofNat n + UInt8.ofNat i := by grind
    rw [get_rotated, ptr_rotated, hi]
  rw [item, hw, item]

theorem items_rotated (sizes : List Nat) : (s.rotated k).items sizes = s.items sizes := by
  induction sizes with
  | nil => rw [items, items]
  | cons n sizes ih => rw [items, items, dropped_rotated, item_rotated, ih]

end Stack

namespace StackPair

variable (pair : StackPair) (k j : UInt8)

def rotated (pair : StackPair) (k j : UInt8) : StackPair :=
  ⟨pair.working.rotated k, pair.ret.rotated j⟩

theorem items_rotated (id : StackId) (sizes : List Nat) :
    ((pair.rotated k j).get id).items sizes = (pair.get id).items sizes := by
  cases id <;> exact Stack.items_rotated ..

theorem modify_rotated (id : StackId) {f : Stack → Stack}
    (hf : ∀ s k, f (s.rotated k) = (f s).rotated k) :
    (pair.rotated k j).modify id f = (pair.modify id f).rotated k j := by
  cases id
  · exact congrArg (StackPair.mk · (pair.ret.rotated j)) (hf pair.working k)
  · exact congrArg (StackPair.mk (pair.working.rotated k)) (hf pair.ret j)

theorem on_rotated {α : Type} (id : StackId) {f : Stack → α × Stack}
    (hf : ∀ s k, f (s.rotated k) = ((f s).1, (f s).2.rotated k)) :
    (pair.rotated k j).on id f = ((pair.on id f).1, (pair.on id f).2.rotated k j) := by
  have hm := pair.modify_rotated k j id (f := fun s => (f s).2) fun s k => by simp only [hf]
  have ha : (f ((pair.rotated k j).get id)).1 = (f (pair.get id)).1 := by
    cases id with
    | working =>
      change (f (pair.working.rotated k)).1 = (f pair.working).1
      rw [hf]
    | ret =>
      change (f (pair.ret.rotated j)).1 = (f pair.ret).1
      rw [hf]
  rw [on_eq, on_eq, hm, ha]

end StackPair

def Core.rotated (c : Core) (k j : UInt8) : Core := { c with stackPair := c.stackPair.rotated k j }

namespace Opcode

variable (op : Opcode) (c : Core) (k j : UInt8)

theorem rest_rotated (s : Stack) (n : Nat) : op.rest (s.rotated k) n = (op.rest s n).rotated k := by
  rw [rest, rest]
  cases op.keep with
  | true => rfl
  | false => exact s.dropped_rotated k n

theorem execute_rotated (pc : UInt16) :
    op.execute pc (c.rotated k j) = ((op.execute pc c).1, (op.execute pc c).2.rotated k j) := by
  have hpush (bytes : List UInt8) (s : Stack) (k : UInt8) :
      (s.rotated k).pushAll bytes = (s.pushAll bytes).rotated k :=
    s.pushAll_rotated k bytes
  have hgive (bytes : List UInt8) (s : Stack) (k : UInt8) :
      (op.rest (s.rotated k) op.sizes.sum).pushAll bytes =
        ((op.rest s op.sizes.sum).pushAll bytes).rotated k := by rw [rest_rotated, hpush]
  -- The effect is that of the items, which are the same.
  have hc : op.execute pc c = op.applied c.stackPair
      (op.effect pc c.memory ((c.stackPair.get op.stack).items op.sizes)) :=
    op.follows pc c.memory c.stackPair
  have hr := op.follows pc c.memory (c.stackPair.rotated k j)
  rw [Follows, StackPair.items_rotated, applied, StackPair.modify_rotated _ _ _ _ (hgive _),
    StackPair.modify_rotated _ _ _ _ (hpush _)] at hr
  rw [hc]
  exact hr

theorem operands_rotated {α : Type} {f : Stack → α × Stack}
    (hf : ∀ s k, f (s.rotated k) = ((f s).1, (f s).2.rotated k)) (s : Stack) :
    op.operands f (s.rotated k) = ((op.operands f s).1, (op.operands f s).2.rotated k) := by
  rw [operands, operands, hf, Stack.ptr_rotated]
  cases op.keep with
  | false => rfl
  | true => exact congrArg (Prod.mk (f s).1) ((f s).2.setPtr_rotated k s.ptr)

theorem pop_rotated (s : Stack) : (s.rotated k).pop = (s.pop.1, s.pop.2.rotated k) := by
  rw [Stack.pop_eq, Stack.pop_eq, Stack.item_rotated, Stack.dropped_rotated]

theorem takeByteThen_rotated (s : Stack) :
    op.takeByteThen (s.rotated k) = ((op.takeByteThen s).1, (op.takeByteThen s).2.rotated k) := by
  simp only [takeByteThen_eq, Stack.dropped_rotated, Stack.item_rotated]

theorem takePort_rotated :
    op.takePort (c.rotated k j) = ((op.takePort c).1, (op.takePort c).2.rotated k j) := by
  have h := c.stackPair.on_rotated k j op.stack fun s k =>
    op.operands_rotated k (fun s k => pop_rotated k s) s
  simp only [takePort, Core.rotated, h]

theorem takePortAndValue_rotated : op.takePortAndValue (c.rotated k j) =
    ((op.takePortAndValue c).1, (op.takePortAndValue c).2.rotated k j) := by
  have h := c.stackPair.on_rotated k j op.stack fun s k =>
    op.operands_rotated k (fun s k => op.takeByteThen_rotated k s) s
  simp only [takePortAndValue, Core.rotated, h]

theorem executeImmediate_rotated (pc : UInt16) : op.executeImmediate pc (c.rotated k j) =
    ((op.executeImmediate pc c).1, (op.executeImmediate pc c).2.rotated k j) := by
  have hp := c.stackPair.on_rotated k j op.stack fun s k => pop_rotated k s
  have hw (w : UInt16) :=
    c.stackPair.modify_rotated k j op.stack (f := (·.pushWord w)) fun s k => by
    simp only [Stack.pushWord, Stack.push_rotated]
  have hb (b : UInt8) :=
    c.stackPair.modify_rotated k j op.stack (f := (·.push b)) fun s k => s.push_rotated k b
  have hbb (a b : UInt8) :=
    c.stackPair.modify_rotated k j op.stack (f := fun s => (s.push a).push b) fun s k => by
    simp only [Stack.push_rotated]
  simp only [executeImmediate, Core.rotated, hp, hw, hb, hbb]
  cases op.immediateForm with
  | literal => cases op.short <;> rfl
  | _ => rfl

end Opcode

def Board.rotated (b : Board) (k j : UInt8) : Board := { b with core := b.core.rotated k j }

namespace Machine

/-- The machine with its working stack `k` and its return stack `j` places further up in their
rings. -/
def rotated (m : Machine) (k j : UInt8) : Machine := { m with board := m.board.rotated k j }

def rotatedResult {α : Type} (k j : UInt8) (r : α × Machine) : α × Machine := (r.1, r.2.rotated k j)

variable {k j : UInt8} {m : Machine} {io : Access}

theorem onCore_rotated {α : Type} {f : Core → α × Core}
    (hf : ∀ c : Core, f (c.rotated k j) = ((f c).1, (f c).2.rotated k j)) :
    (m.rotated k j).onCore f = ((m.onCore f).1, (m.onCore f).2.rotated k j) := by
  have h := hf m.board.core
  rw [onCore_eq, onCore_eq]
  exact congrArg (fun r : α × Core => (r.1, { m with board.core := r.2 })) h

theorem deiWith_rotated (hm : m.bus.Deviceless) (inner : Access) (port : UInt8) :
    deiWith inner port (m.rotated k j) = (deiWith inner port m).map (rotatedResult k j) := by
  have hr : (m.rotated k j).fetched port = _ :=
    m.fetched_withPair (m.board.core.stackPair.rotated k j) port
  rw [← core_fetched m port] at hr
  rw [deiWith_eq_fetched (hm.noDeviceReads port),
    deiWith_eq_fetched (m := m.rotated k j) (hm.noDeviceReads port), hr]
  rfl

theorem deoWith_rotated (hm : m.bus.Deviceless) (inner : Access) (port v : UInt8) :
    deoWith inner port v (m.rotated k j) = (deoWith inner port v m).map (·.rotated k j) := by
  have hr : (m.rotated k j).stored port v = _ :=
    m.stored_withPair (m.board.core.stackPair.rotated k j) port v
  rw [← core_stored m port v] at hr
  rw [deoWith_eq_stored (hm.noDeviceWrites port),
    deoWith_eq_stored (m := m.rotated k j) (hm.noDeviceWrites port), hr]
  rfl

/-- The port calls have rotated results on rotated machines. -/
structure Rotates (io : Access) (k j : UInt8) : Prop where
  dei : ∀ {m : Machine} (port : UInt8), m.bus.Deviceless →
    io.dei port (m.rotated k j) = (io.dei port m).map (rotatedResult k j)
  deo : ∀ {m : Machine} (port v : UInt8), m.bus.Deviceless →
    io.deo port v (m.rotated k j) = (io.deo port v m).map (·.rotated k j)

theorem rotates_instructions (inner : Access) (k j : UInt8) : Rotates inner.instructions k j where
  dei port hm := deiWith_rotated hm inner port
  deo port v hm := deoWith_rotated hm inner port v

theorem give_rotated (op : Opcode) (v : UInt16) :
    (m.rotated k j).give op v = (m.give op v).rotated k j := by
  have hg (s : Stack) (k : UInt8) : op.give (s.rotated k) v = (op.give s v).rotated k := by
    rw [op.give_eq, op.give_eq, Stack.pushAll_rotated]
  have h := m.board.core.stackPair.modify_rotated k j op.stack (f := (op.give · v)) hg
  exact congrArg (fun p => { m with board.core.stackPair := p }) h

theorem input_rotated (hio : io.Keeps SameSetup) (hrot : Rotates io k j) (hm : m.bus.Deviceless)
    (op : Opcode) :
    (m.rotated k j).input io op = (m.input io op).map (·.rotated k j) := by
  rw [input, input, onCore_rotated fun c => op.takePort_rotated c k j]
  have ht : (m.onCore op.takePort).2.bus.Deviceless := hm
  generalize m.onCore op.takePort = r at ht
  dsimp only
  rw [hrot.dei r.1 ht]
  cases h : io.dei r.1 r.2 with
  | none => rfl
  | some p =>
    have hd : p.2.bus.Deviceless := (hio.dei h).deviceless ht
    simp only [Option.map_some, rotatedResult, give_rotated]
    cases op.short with
    | false => rfl
    | true =>
      simp only [if_true, hrot.dei (r.1 + 1) hd]
      cases io.dei (r.1 + 1) p.2 with
      | none => rfl
      | some q => simp only [Option.map_some, rotatedResult, give_rotated]

theorem output_rotated (hio : io.Keeps SameSetup) (hrot : Rotates io k j) (hm : m.bus.Deviceless)
    (op : Opcode) :
    (m.rotated k j).output io op = (m.output io op).map (·.rotated k j) := by
  rw [output, output, onCore_rotated fun c => op.takePortAndValue_rotated c k j]
  have ht : (m.onCore op.takePortAndValue).2.bus.Deviceless := hm
  generalize m.onCore op.takePortAndValue = r at ht
  obtain ⟨⟨port, v⟩, m⟩ := r
  dsimp only
  cases op.short with
  | false => exact hrot.deo port (lowByte v) ht
  | true =>
    simp only [if_true, hrot.deo port (highByte v) ht]
    cases h : io.deo port (highByte v) m with
    | none => rfl
    | some m' => exact hrot.deo (port + 1) (lowByte v) ((hio.deo h).deviceless ht)

theorem step_rotated (hio : io.Keeps SameSetup) (hrot : Rotates io k j) (hm : m.bus.Deviceless)
    (pc : UInt16) :
    (m.rotated k j).step io pc = (m.step io pc).map (rotatedResult k j) := by
  have hread : (m.rotated k j).board.core.memory.read pc = m.board.core.memory.read pc := rfl
  rw [step, step, hread]
  dsimp only
  have hnote (e : Event) : (m.rotated k j).note e = (m.note e).rotated k j := rfl
  have hn (e : Event) : (m.note e).bus.Deviceless := hm
  generalize Opcode.decode (m.board.core.memory.read pc) = op
  cases op.base with
  | immediate =>
    rw [hnote, onCore_rotated fun c => op.executeImmediate_rotated c k j (pc + 1)]
    rfl
  | dei =>
    rw [hnote, input_rotated hio hrot (hn _), Option.map_map, Option.map_map]
    rfl
  | deo =>
    rw [hnote, output_rotated hio hrot (hn _), Option.map_map, Option.map_map]
    rfl
  | _ =>
    dsimp only
    rw [hnote, onCore_rotated fun c => op.execute_rotated c k j (pc + 1)]
    rfl

theorem steps_rotated (hio : io.Keeps SameSetup) (hrot : Rotates io k j) (hm : m.bus.Deviceless)
    (budget : Nat) (pc : UInt16) :
    steps io budget pc (m.rotated k j) = (steps io budget pc m).map (rotatedResult k j) := by
  induction budget generalizing pc m with
  | zero => rfl
  | succ budget ih =>
    rw [steps, steps, step_rotated hio hrot hm]
    cases h : m.step io pc with
    | none => rfl
    | some r =>
      obtain ⟨next, m'⟩ := r
      cases next with
      | none => rfl
      | some pc' => exact ih ((kept_sameSetup.step hio h).deviceless hm) pc'

theorem runWith_rotated (hio : io.Keeps SameSetup) (hrot : Rotates io k j)
    (hm : m.bus.Deviceless) (fuel : Nat) (start : UInt16) :
    runWith io fuel start (m.rotated k j) = (runWith io fuel start m).map (rotatedResult k j) := by
  have hconfig : (m.rotated k j).config = m.config := rfl
  rw [runWith, runWith, hconfig]
  cases m.config.stepLimit with
  | none =>
    simp only [steps_rotated hio hrot hm]
    cases steps io fuel start m with
    | none => rfl
    | some r => obtain ⟨_ | pc, m'⟩ := r <;> rfl
  | some limit =>
    simp only [steps_rotated hio hrot hm]
    cases steps io limit.toNat start m with
    | none => rfl
    | some r => obtain ⟨_ | pc, m'⟩ := r <;> rfl

/-- Where in their rings the stacks lie does not show in a run: it ends in the same way with
everything the same but the stacks, which lie as far from those of the plain run as they did at the
start. -/
theorem run_rotated (m : Machine) (hm : m.bus.Deviceless) (k j : UInt8) (fuel : Nat)
    (start : UInt16) :
    (m.rotated k j).run fuel start = (m.run fuel start).map fun r => (r.1, r.2.rotated k j) := by
  rw [run, run, access_eq_above, access_eq_above]
  exact runWith_rotated (m.keeps_instructions fuel)
    (rotates_instructions (m.inner fuel) k j) hm fuel start

/-- A machine with the video processor and a program that sends it a quotient. -/
def sendingQuotient : Machine :=
  (bare ⟨some 100⟩ (.upTo none)).installVdp.load 0
    #[0xA0, 0x12, 0x34, 0xA0, 0x00, 0x05, 0x3B, 0x80, 0x0C, 0x37, 0x00]

theorem run_rotated_sendingQuotient : sendingQuotient.bus.Deviceless ∧
    ((sendingQuotient.rotated 0xFE 3).run 0 0).map (fun r => (r.1, r.2.board.vdp.pending,
      r.2.board.core.stackPair.working.ptr, r.2.board.core.stackPair.working.get 0xFF)) =
        some (.halted, 0x03A4, 0xFE, 0xA4) := by
  have hm : sendingQuotient.bus.Deviceless := fun port id _ => by
    simp [sendingQuotient, load, installVdp, Bus.deviceAt?, Bus.empty]
  refine ⟨hm, ?_⟩
  rw [run_rotated sendingQuotient hm 0xFE 3 0 0]
  decide +kernel

end Machine

end FantasyConsole
