import FantasyConsole.Proofs.Limits
import FantasyConsole.Proofs.Storage

/-!
# Calls return

A call leaves the address of the instruction behind it on one of the stacks, and a jump to
the word on top of that stack goes back there, if by then the pointer is where the call left
it and the two bytes are still the ones it pushed. In a run where all else leaves the return
addresses of open calls alone, each return therefore ends the call that was made last.
-/
namespace FantasyConsole

namespace Opcode

/-- An instruction that calls and puts the return address on the given stack: the immediate call, or
a jump that stores the address, which goes to the stack that its operand does not come from. -/
inductive Calls : Opcode → StackId → Prop
  | immediate : Calls ⟨.immediate, true, .ret, false⟩ .ret
  | stored (short : Bool) (id : StackId) (keep : Bool) : Calls ⟨.jsr, short, id, keep⟩ id.other

def behind (op : Opcode) (pc : UInt16) : UInt16 := if op.base = .immediate then pc + 3 else pc + 1

def returning (id : StackId) : Opcode := ⟨.jmp, true, id, false⟩

end Opcode

namespace Machine

variable {m : Machine} {op : Opcode} {id : StackId}

theorem exists_step_immediateCall (io : Access) (pc : UInt16)
    (hop : .decode (m.board.core.memory.read pc) = (⟨.immediate, true, .ret, false⟩ : Opcode)) :
    ∃ m', m.step io pc = some (some (pc + 3 + m.board.core.memory.readWord (pc + 1)), m') ∧
      m'.stack .ret = (m.stack .ret).pushWord (pc + 3) ∧
      m'.board.core.memory = m.board.core.memory := by
  have hstep : m.step io pc = some ((m.note (.executed pc (m.board.core.memory.read pc))).onCore
      (Opcode.executeImmediate ⟨.immediate, true, .ret, false⟩ (pc + 1))) := by rw [step, hop]
  have hback : pc + 1 + 2 = pc + 3 := UInt16.add_assoc pc 1 2
  rw [onCore_eq] at hstep
  rw [← hback]
  exact ⟨_, hstep, rfl, rfl⟩

theorem exists_step_call (io : Access) (pc : UInt16)
    (hop : .decode (m.board.core.memory.read pc) = op)
    (h : op.Calls id) : ∃ target m', m.step io pc = some (some target, m') ∧
      m'.stack id = (m.stack id).pushWord (op.behind pc) := by
  cases h with
  | immediate =>
    obtain ⟨m', hstep, hstack, -⟩ := exists_step_immediateCall io pc hop
    exact ⟨_, m', hstep, hstack⟩
  | stored short id keep =>
    have hstep := step_eq_applied io pc m hop (by simp)
    refine ⟨_, _, hstep, ?_⟩
    rw [Stack.pushWord_eq]
    cases id <;> rfl

theorem exists_step_return (io : Access) (pc : UInt16)
    (hop : .decode (m.board.core.memory.read pc) = Opcode.returning id) : ∃ m',
      m.step io pc = some (some (UInt16.ofNat ((m.stack id).item 2)), m') ∧
      m'.stack id = (m.stack id).dropped 2 := by
  have hi : (m.board.core.stackPair.get id).items [2] = [(m.stack id).item 2] := by
    simp [Stack.items, stack]
  have he (a : Nat) : (Opcode.returning id).effect (pc + 1) m.board.core.memory [a] =
      ⟨[], [], m.board.core.memory, a⟩ := rfl
  have hs : (Opcode.returning id).sizes = [2] := rfl
  have hid : (Opcode.returning id).stack = id := rfl
  have hstep := step_eq_applied io pc m hop (by simp [Opcode.returning])
  dsimp only at hstep
  rw [hs, hid, hi, he, Opcode.applied_of_sent_nil rfl] at hstep
  refine ⟨_, hstep, ?_⟩
  cases id <;> rfl

end Machine

namespace Stack

/-- Places within a turn of the stack are different cells. -/
theorem add_ofNat_ne (base : UInt8) {i j : Nat} (hi : i < 256) (hj : j < 256) (h : i ≠ j) :
    base + UInt8.ofNat i ≠ base + UInt8.ofNat j := by
  intro he
  have hn := congrArg UInt8.toNat ((UInt8.add_right_inj base).1 he)
  rw [UInt8.toNat_ofNat_of_lt' hi, UInt8.toNat_ofNat_of_lt' hj] at hn
  exact h hn

variable (s : Stack) {base : UInt8} {k : Nat}

theorem get_pushWord_of_ne (w : UInt16) {j : UInt8} (h : s.ptr ≠ j) (h' : s.ptr + 1 ≠ j) :
    (s.pushWord w).get j = s.get j := by
  rw [pushWord, get_push, get_push, if_neg h, ptr_push, if_neg h']

theorem ofNat_item_two {w : UInt16} (hp : s.ptr = base + UInt8.ofNat (k + 2))
    (hhigh : s.get (base + UInt8.ofNat k) = highByte w)
    (hlow : s.get (base + UInt8.ofNat (k + 1)) = lowByte w) :
    UInt16.ofNat (s.item 2) = w := by
  have hfirst : s.ptr - 1 - 1 = base + UInt8.ofNat k := by
    rw [hp, UInt8.ofNat_add]
    grind
  have hsecond : s.ptr - 1 = base + UInt8.ofNat (k + 1) := by
    rw [hp, UInt8.ofNat_add, UInt8.ofNat_add]
    grind
  have hw : s.popWord.1 = word (s.get (s.ptr - 1 - 1)) (s.get (s.ptr - 1)) := rfl
  rw [item_two, UInt16.ofNat_toNat, hw, hfirst, hsecond, hhigh, hlow, word_highByte_lowByte]

end Stack

/-! ## Nested calls -/

/-- A call that has not returned: how many bytes above the start its return address lies, and that
address. -/
structure OpenCall where
  height : Nat
  back : UInt16

/-- A call with its return address, or a return with the address it goes to. -/
inductive Passage where
  | called (back : UInt16)
  | returned (target : UInt16)

namespace Passage

/-- A passage on the return addresses of the open calls, the last one first. A return must go to the
first of them. -/
def settle (pending : List UInt16) : Passage → Option (List UInt16)
  | .called back => some (back :: pending)
  | .returned target =>
    match pending with
    | [] => none
    | back :: pending => if target = back then some pending else none

variable {pending left : List UInt16}

theorem foldlM_settle_called (backs : List UInt16) :
    (backs.map called).foldlM settle pending = some (backs.reverse ++ pending) := by
  induction backs generalizing pending with
  | nil => rfl
  | cons back backs ih =>
    rw [List.map_cons, List.foldlM_cons, settle, Option.bind_eq_bind, Option.bind_some, ih,
      List.reverse_cons, List.append_assoc]
    rfl

theorem eq_append_of_settle_returned (targets : List UInt16)
    (h : (targets.map returned).foldlM settle pending = some left) : pending = targets ++ left := by
  induction targets generalizing pending with
  | nil => exact Option.some.inj h
  | cons target targets ih =>
    rw [List.map_cons, List.foldlM_cons] at h
    cases pending with
    | nil => exact absurd h (by simp [settle])
    | cons back pending =>
      by_cases ht : target = back
      · rw [settle, if_pos ht] at h
        rw [ht, ih h]
        rfl
      · simp [settle, ht] at h

/-- Returns after calls come in the reverse order. -/
theorem reverse_of_settle {backs targets : List UInt16}
    (h : (backs.map called ++ targets.map returned).foldlM settle [] = some left) :
    backs.reverse = targets ++ left := by
  rw [List.foldlM_append, foldlM_settle_called, List.append_nil] at h
  exact eq_append_of_settle_returned targets h

end Passage

namespace OpenCall

/-- The height of a stack above the return addresses of the open calls. -/
def top : List OpenCall → Nat
  | [] => 0
  | f :: _ => f.height + 2

/-- Open calls in their places: each return address lies above those of the calls made before it,
and all within a turn of the stack. -/
structure InPlace (s : Stack) (base : UInt8) (frames : List OpenCall) : Prop where
  order : frames.Pairwise fun f g => g.height + 2 ≤ f.height
  fits : top frames ≤ 256
  high : ∀ f ∈ frames, s.get (base + UInt8.ofNat f.height) = highByte f.back
  low : ∀ f ∈ frames, s.get (base + UInt8.ofNat (f.height + 1)) = lowByte f.back

variable {s t : Stack} {base : UInt8} {f : OpenCall} {frames : List OpenCall}

theorem InPlace.height_le (h : InPlace s base frames) (hf : f ∈ frames) :
    f.height + 2 ≤ top frames := by
  cases frames with
  | nil => exact absurd hf (List.not_mem_nil)
  | cons g frames =>
    rcases List.mem_cons.1 hf with rfl | hf
    · exact Nat.le_refl _
    · have hg := (List.pairwise_cons.1 h.order).1 f hf
      exact Nat.le_trans hg (Nat.le_add_right ..)

theorem InPlace.congr (h : InPlace s base frames) (hcells : ∀ f ∈ frames, ∀ i < 2,
    t.get (base + UInt8.ofNat (f.height + i)) = s.get (base + UInt8.ofNat (f.height + i))) :
    InPlace t base frames where
  order := h.order
  fits := h.fits
  high f hf := (hcells f hf 0 (by decide)).trans (h.high f hf)
  low f hf := (hcells f hf 1 (by decide)).trans (h.low f hf)

theorem InPlace.push (h : InPlace s base frames) {k : Nat} (hp : s.ptr = base + UInt8.ofNat k)
    (hk : top frames ≤ k) (hroom : k + 2 ≤ 256) (back : UInt16) :
    InPlace (s.pushWord back) base (⟨k, back⟩ :: frames) := by
  have hnext : s.ptr + 1 = base + UInt8.ofNat (k + 1) := by
    rw [hp, UInt8.ofNat_add]
    exact UInt8.add_assoc ..
  have hleft : ∀ f ∈ frames, ∀ i < 2,
      (s.pushWord back).get (base + UInt8.ofNat (f.height + i)) =
        s.get (base + UInt8.ofNat (f.height + i)) := by
    intro f hf i hi
    have hle := h.height_le hf
    apply Stack.get_pushWord_of_ne
    · rw [hp]
      exact Stack.add_ofNat_ne base (by omega) (by omega) (by omega)
    · rw [hnext]
      exact Stack.add_ofNat_ne base (by omega) (by omega) (by omega)
  have hold := h.congr hleft
  have hhigh : (s.pushWord back).get (base + UInt8.ofNat k) = highByte back := by
    have hne : s.ptr + 1 ≠ s.ptr := Ports.next_ne s.ptr
    rw [← hp, Stack.pushWord, Stack.get_push, Stack.ptr_push, if_neg hne,
      Stack.get_push, if_pos rfl]
  have hlow : (s.pushWord back).get (base + UInt8.ofNat (k + 1)) = lowByte back := by
    rw [← hnext, Stack.pushWord, Stack.get_push, Stack.ptr_push, if_pos rfl]
  constructor
  · exact List.pairwise_cons.2 ⟨fun f hf => Nat.le_trans (h.height_le hf) hk, h.order⟩
  · exact hroom
  · exact List.forall_mem_cons.2 ⟨hhigh, hold.high⟩
  · exact List.forall_mem_cons.2 ⟨hlow, hold.low⟩

theorem InPlace.tail (h : InPlace s base (f :: frames)) : InPlace s base frames := by
  obtain ⟨hf, horder⟩ := List.pairwise_cons.1 h.order
  refine ⟨horder, ?_, fun g hg => h.high g (List.mem_cons_of_mem f hg),
    fun g hg => h.low g (List.mem_cons_of_mem f hg)⟩
  have hfits := h.fits
  cases frames with
  | nil => exact Nat.zero_le 256
  | cons g frames =>
    have hg := hf g List.mem_cons_self
    simp only [top] at hfits ⊢
    omega

/-- At most 128 return addresses fit on a stack. -/
theorem InPlace.length_le (h : InPlace s base frames) : 2 * frames.length ≤ top frames := by
  induction frames with
  | nil => exact Nat.le_refl 0
  | cons f frames ih =>
    have htail := ih h.tail
    have hf : top frames ≤ f.height := by
      cases frames with
      | nil => exact Nat.zero_le _
      | cons g frames => exact (List.pairwise_cons.1 h.order).1 g List.mem_cons_self
    simp only [List.length_cons, top]
    omega

end OpenCall

namespace Machine

/-- Runs in which calls on a stack are nested, with the calls open at the end, the last one first,
and all calls and returns on the way. The start is where the pointer is at `base`. A call may be
made anywhere above the open ones and within a turn of the stack, a return when the pointer is where
the last open call left it, and any other step leaves the return addresses of open calls alone. -/
inductive Nested (io : Access) (id : StackId) (base : UInt8) :
    List OpenCall → List Passage → UInt16 → Machine → Prop
  | start {pc : UInt16} {m : Machine} : (m.stack id).ptr = base → Nested io id base [] [] pc m
  | call {frames : List OpenCall} {passages : List Passage} {pc target : UInt16}
      {m m' : Machine} {op : Opcode} {k : Nat} :
      Nested io id base frames passages pc m →
      .decode (m.board.core.memory.read pc) = op → op.Calls id →
      (m.stack id).ptr = base + UInt8.ofNat k → OpenCall.top frames ≤ k → k + 2 ≤ 256 →
      m.step io pc = some (some target, m') →
      Nested io id base (⟨k, op.behind pc⟩ :: frames)
        (passages ++ [.called (op.behind pc)]) target m'
  | back {frames : List OpenCall} {f : OpenCall} {passages : List Passage} {pc target : UInt16}
      {m m' : Machine} :
      Nested io id base (f :: frames) passages pc m →
      .decode (m.board.core.memory.read pc) = Opcode.returning id →
      (m.stack id).ptr = base + UInt8.ofNat (f.height + 2) → m.step io pc = some (some target, m') →
      Nested io id base frames (passages ++ [.returned target]) target m'
  | other {frames : List OpenCall} {passages : List Passage} {pc next : UInt16} {m m' : Machine} :
      Nested io id base frames passages pc m → m.step io pc = some (some next, m') →
      (∀ f ∈ frames, ∀ i < 2, (m'.stack id).get (base + UInt8.ofNat (f.height + i)) =
        (m.stack id).get (base + UInt8.ofNat (f.height + i))) →
      Nested io id base frames passages next m'

variable {io : Access} {id : StackId} {base : UInt8} {f : OpenCall} {frames : List OpenCall}
  {passages : List Passage} {pc : UInt16} {m : Machine}

theorem exists_step_back (io : Access) (h : OpenCall.InPlace (m.stack id) base (f :: frames))
    (hop : .decode (m.board.core.memory.read pc) = Opcode.returning id)
    (hp : (m.stack id).ptr = base + UInt8.ofNat (f.height + 2)) :
    ∃ m', m.step io pc = some (some f.back, m') ∧
      (m'.stack id).ptr = base + UInt8.ofNat f.height ∧
      OpenCall.InPlace (m'.stack id) base frames := by
  obtain ⟨m', hstep, hstack⟩ := exists_step_return io pc hop
  have hback : UInt16.ofNat ((m.stack id).item 2) = f.back :=
    (m.stack id).ofNat_item_two hp (h.high f List.mem_cons_self) (h.low f List.mem_cons_self)
  rw [hback] at hstep
  refine ⟨m', hstep, ?_, ?_⟩
  · rw [hstack, Stack.dropped]
    change (m.stack id).ptr - UInt8.ofNat 2 = _
    rw [hp, UInt8.ofNat_add]
    grind
  · rw [hstack]
    exact h.tail.congr fun g hg i hi => Stack.get_setPtr ..

/-- In a nested run the open calls are in place, and each return went behind the last call then
open. -/
theorem Nested.inPlace (h : Nested io id base frames passages pc m) :
    OpenCall.InPlace (m.stack id) base frames ∧
      passages.foldlM Passage.settle [] = some (frames.map (·.back)) := by
  induction h with
  | start hp =>
    refine ⟨⟨List.Pairwise.nil, Nat.zero_le 256, ?_, ?_⟩, rfl⟩ <;> simp
  | @call frames passages pc target m m' op k _ hop hcall hp hk hroom hstep ih =>
    obtain ⟨target', n, hstep', hstack⟩ := exists_step_call io pc hop hcall
    obtain ⟨-, rfl⟩ := Prod.mk.inj (Option.some.inj (hstep'.symm.trans hstep))
    refine ⟨?_, ?_⟩
    · rw [hstack]
      exact ih.1.push hp hk hroom _
    · rw [List.foldlM_append, ih.2]
      rfl
  | @back frames f passages pc target m m' _ hop hp hstep ih =>
    obtain ⟨n, hstep', -, hplace⟩ := exists_step_back io ih.1 hop hp
    obtain ⟨htarget, rfl⟩ := Prod.mk.inj (Option.some.inj (hstep'.symm.trans hstep))
    obtain rfl := Option.some.inj htarget
    refine ⟨hplace, ?_⟩
    rw [List.foldlM_append, ih.2]
    simp [Passage.settle]
  | other _ _ hcells ih => exact ⟨ih.1.congr hcells, ih.2⟩

/-- A return that finds the word of a call on top, with the pointer where the call left it, goes
behind the call. -/
theorem exists_step_return_of_window (io : Access) {called : Stack} {start : Stack} {back : UInt16}
    (hcalled : called = start.pushWord back)
    (hop : .decode (m.board.core.memory.read pc) = Opcode.returning id)
    (hp : (m.stack id).ptr = called.ptr) (hw : (m.stack id).window 2 = called.window 2) :
    ∃ m', m.step io pc = some (some back, m') ∧ (m'.stack id).ptr = start.ptr := by
  obtain ⟨m', hstep, hstack⟩ := exists_step_return io pc hop
  have hitem : (m.stack id).item 2 = back.toNat := by
    have hsame : (m.stack id).item 2 = called.item 2 := congrArg number hw
    rw [hsame, hcalled, Stack.pushWord_eq]
    exact start.item_pushAll_digits (by decide) back.toNat_lt
  rw [hitem, UInt16.ofNat_toNat] at hstep
  refine ⟨m', hstep, ?_⟩
  rw [hstack]
  change (m.stack id).ptr - 2 = start.ptr
  rw [hp, hcalled, Stack.pushWord, Stack.ptr_push, Stack.ptr_push]
  grind

/-- Calls return. From any state a call leaves the pointer of its stack two bytes up, and whatever
steps are made then, a return that finds the pointer there again and the two bytes below it
unchanged goes on behind the call, with the pointer where it was before. In nested runs, which have
at most 128 calls open, a return at the height of the last open call goes behind it and puts the
pointer where it was before that call. So each return ends the last call still open, and returns
after calls come in the reverse order. -/
theorem calls_return (io : Access) (id : StackId) :
    (∀ (m : Machine) (pc : UInt16) (op : Opcode),
      .decode (m.board.core.memory.read pc) = op → op.Calls id →
      ∃ target called, m.step io pc = some (some target, called) ∧
        (called.stack id).ptr = (m.stack id).ptr + 2 ∧
        ∀ n pc' m', steps io n target called = some (some pc', m') →
          .decode (m'.board.core.memory.read pc') = Opcode.returning id →
          (m'.stack id).ptr = (called.stack id).ptr →
          (m'.stack id).window 2 = (called.stack id).window 2 →
          ∃ m'', steps io (1 + n + 1) pc m = some (some (op.behind pc), m'') ∧
            (m''.stack id).ptr = (m.stack id).ptr) ∧
    ∀ base frames passages pc m, Nested io id base frames passages pc m → frames.length ≤ 128 ∧
      (∀ f rest, frames = f :: rest → .decode (m.board.core.memory.read pc) = Opcode.returning id →
        (m.stack id).ptr = base + UInt8.ofNat (f.height + 2) →
        ∃ m', m.step io pc = some (some f.back, m') ∧
          (m'.stack id).ptr = base + UInt8.ofNat f.height) ∧
      passages.foldlM Passage.settle [] = some (frames.map (·.back)) ∧
      ∀ backs targets : List UInt16, passages = backs.map .called ++ targets.map .returned →
        backs.reverse = targets ++ frames.map (·.back) := by
  constructor
  · intro m pc op hop hcall
    obtain ⟨target, called, hstep, hstack⟩ := exists_step_call io pc hop hcall
    refine ⟨target, called, hstep, ?_, ?_⟩
    · rw [hstack, Stack.pushWord, Stack.ptr_push, Stack.ptr_push]
      exact UInt8.add_assoc ..
    · intro n pc' m' hsteps hop' hp hw
      obtain ⟨m'', hback, hptr⟩ := exists_step_return_of_window io hstack hop' hp hw
      refine ⟨m'', ?_, hptr⟩
      have hfirst : steps io 1 pc m = some (some target, called) := by simp only [steps, hstep]
      have hlast : steps io 1 pc' m' = some (some (op.behind pc), m'') := by
        simp only [steps, hback]
      rw [steps_add, steps_add, hfirst, Option.bind_some]
      dsimp only
      rw [hsteps, Option.bind_some]
      exact hlast
  · intro base frames passages pc m h
    obtain ⟨hplace, hsettle⟩ := h.inPlace
    refine ⟨?_, ?_, hsettle, ?_⟩
    · have hlen := hplace.length_le
      have hfits := hplace.fits
      omega
    · rintro f rest rfl hop hp
      obtain ⟨m', hstep, hptr, -⟩ := exists_step_back io hplace hop hp
      exact ⟨m', hstep, hptr⟩
    · rintro backs targets rfl
      exact Passage.reverse_of_settle hsettle

/-- A program that calls itself over and over comes as deep as it can. -/
theorem exists_nested_recursion (io : Access)
    (hop : .decode (m.board.core.memory.read pc) = (⟨.immediate, true, .ret, false⟩ : Opcode))
    (hself : pc + 3 + m.board.core.memory.readWord (pc + 1) = pc) (n : Nat) (hn : n ≤ 128) :
    ∃ frames passages m', Nested io .ret (m.stack .ret).ptr frames passages pc m' ∧
      frames.length = n ∧
      OpenCall.top frames = 2 * n ∧ (m'.stack .ret).ptr = (m.stack .ret).ptr + UInt8.ofNat (2 * n) ∧
      m'.board.core.memory = m.board.core.memory := by
  induction n with
  | zero => exact ⟨[], [], m, .start rfl, rfl, rfl, (UInt8.add_zero _).symm, rfl⟩
  | succ n ih =>
    obtain ⟨frames, passages, m', h, hlen, htop, hp, hmemory⟩ := ih (by omega)
    obtain ⟨m'', hstep, hstack, hsame⟩ := exists_step_immediateCall io pc (hmemory ▸ hop)
    rw [hmemory, hself] at hstep
    refine ⟨_, _, m'', h.call (hmemory ▸ hop) .immediate hp (Nat.le_of_eq htop) (by omega) hstep,
      ?_, ?_, ?_, ?_⟩
    · rw [List.length_cons, hlen]
    · exact (Nat.mul_succ 2 n).symm
    · rw [hstack, Stack.pushWord, Stack.ptr_push, Stack.ptr_push, hp, Nat.mul_add, UInt8.ofNat_add]
      grind
    · exact hsame.trans hmemory

/-- A machine with a call in the last two cells and the first one, a return where it goes, and a
call of itself. The pointer is in the last cell of the stack. -/
def calling : Machine :=
  let m := bare .standard (.upTo none)
  { m with board.core :=
    ⟨((((Memory.zero.write 0xFFFE 0x60).write 0 0x10).write 0x11 0x6C).write 0x100 0x60).writeWord
      0x101 0xFFFD, ⟨.empty, Stack.empty.setPtr 0xFF⟩⟩ }

/-- The call at the end of memory returns to the second cell, and the pointer is back in the last
cell; the call of itself is 128 times open. -/
theorem calls_return_calling :
    (∃ m, steps .refused 2 0xFFFE calling = some (some 1, m) ∧ (m.stack .ret).ptr = 0xFF) ∧
    ∃ frames passages m, Nested .refused .ret 0xFF frames passages 0x100 m ∧ frames.length = 128 ∧
      passages.foldlM Passage.settle [] = some (frames.map (·.back)) := by
  have hzero (a : UInt16) : Memory.zero.read a = 0 := Vector.getElem_replicate _
  have hcall : Opcode.decode (calling.board.core.memory.read 0xFFFE) =
      ⟨.immediate, true, .ret, false⟩ := by
    have hb : calling.board.core.memory.read 0xFFFE = 0x60 := by
      simp [calling, Memory.writeWord, Memory.read_write]
    rw [hb]
    decide
  have hself : Opcode.decode (calling.board.core.memory.read 0x100) =
      ⟨.immediate, true, .ret, false⟩ := by
    have hb : calling.board.core.memory.read 0x100 = 0x60 := by
      simp [calling, Memory.writeWord, Memory.read_write]
    rw [hb]
    decide
  have htarget : calling.board.core.memory.readWord (0xFFFE + 1) = 0x10 := by
    have hhigh : calling.board.core.memory.read (0xFFFE + 1) = 0 := by
      simp [calling, Memory.writeWord, Memory.read_write, hzero]
    have hlow : calling.board.core.memory.read (0xFFFE + 1 + 1) = 0x10 := by
      simp [calling, Memory.writeWord, Memory.read_write]
    rw [Memory.readWord, hhigh, hlow]
    decide
  have hloop : 0x100 + 3 + calling.board.core.memory.readWord (0x100 + 1) = 0x100 := by
    simp [calling, Memory.readWord, Memory.writeWord, Memory.read_write]
  obtain ⟨hreturn, hnested⟩ := calls_return .refused .ret
  constructor
  · obtain ⟨m', hstep, hstack, hmemory⟩ := exists_step_immediateCall .refused 0xFFFE hcall
    obtain ⟨target, called, hstep', -, hback⟩ := hreturn calling 0xFFFE _ hcall .immediate
    obtain ⟨htarget', rfl⟩ := Prod.mk.inj (Option.some.inj (hstep'.symm.trans hstep))
    obtain rfl := Option.some.inj htarget'
    rw [htarget] at hback
    have hop : Opcode.decode (called.board.core.memory.read 0x11) = Opcode.returning .ret := by
      have hb : calling.board.core.memory.read 0x11 = 0x6C := by
        simp [calling, Memory.writeWord, Memory.read_write]
      rw [hmemory, hb]
      decide
    obtain ⟨m'', hsteps, hp⟩ := hback 0 0x11 called rfl hop rfl rfl
    exact ⟨m'', hsteps, hp⟩
  · obtain ⟨frames, passages, m, h, hlen, -⟩ :=
      exists_nested_recursion .refused hself hloop 128 (Nat.le_refl 128)
    exact ⟨frames, passages, m, h, hlen, (hnested _ _ _ _ _ h).2.2.1⟩

end Machine

end FantasyConsole
