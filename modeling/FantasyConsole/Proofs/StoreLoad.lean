import FantasyConsole.Proofs.Storage

/-!
# Loads give what was stored

A store and a load come to their cells in the same three ways: in the zero page, by a signed
distance from the next instruction, or by a word. Whenever the two come to the same cell, at
the same width, the load gives the stored number; and besides that cell and, for a word, the
one after it a store leaves all memory as it is.
-/
namespace FantasyConsole

/-! ## Cells written and read -/

namespace Memory

variable (m : Memory)

theorem read_writeAll_of_notMem {cells : List UInt16} (bytes : List UInt8) {a : UInt16}
    (h : a ∉ cells) :
    (m.writeAll cells bytes).read a = m.read a := by
  induction cells generalizing m bytes with
  | nil => rfl
  | cons c cells ih =>
    cases bytes with
    | nil => rfl
    | cons b bytes =>
      obtain ⟨hc, hcells⟩ := not_or.1 (mt List.mem_cons.2 h)
      exact (ih (m.write c b) bytes hcells).trans ((m.read_write c a b).trans (if_neg (Ne.symm hc)))

theorem map_read_writeAll {cells : List UInt16} {bytes : List UInt8} (hn : cells.Nodup)
    (hlen : cells.length = bytes.length) : cells.map (m.writeAll cells bytes).read = bytes := by
  induction cells generalizing m bytes with
  | nil => exact (List.length_eq_zero_iff.1 hlen.symm).symm
  | cons c cells ih =>
    cases bytes with
    | nil => exact absurd hlen (by simp)
    | cons b bytes =>
      obtain ⟨hc, hcells⟩ := List.nodup_cons.1 hn
      have hfirst : (m.writeAll (c :: cells) (b :: bytes)).read c = b :=
        ((m.write c b).read_writeAll_of_notMem bytes hc).trans (m.read_write_self c b)
      rw [List.map_cons, hfirst]
      exact congrArg (b :: ·) (ih (m.write c b) hcells (Nat.succ.inj hlen))

end Memory

/-! ## Cells of loads and stores -/

/-- A store, and the load that comes to its cells in the same way. -/
inductive BaseOp.Reads : BaseOp → BaseOp → Prop
  | zeroPage : Reads .ldz .stz
  | relative : Reads .ldr .str
  | absolute : Reads .lda .sta

theorem BaseOp.Reads.cases_load {load store : BaseOp} (h : load.Reads store) :
    load = .ldz ∨ load = .ldr ∨ load = .lda := by
  cases h <;> simp

theorem BaseOp.Reads.cases_store {load store : BaseOp} (h : load.Reads store) :
    store = .stz ∨ store = .str ∨ store = .sta := by
  cases h <;> simp

namespace Opcode

variable (op : Opcode) (pc : UInt16)

/-- The cell that the operand `a` of a load or store stands for: one of the zero page, the one that
lies the signed byte `a` on from `pc`, or the one at the word `a`. -/
def effectiveAddress (op : Opcode) (pc : UInt16) (a : Nat) : UInt16 :=
  match op.base with
  | .ldr | .str => UInt16.ofNat ((pc.toNat + signed a) % 65536).toNat
  | _ => UInt16.ofNat a

/-- The cell after a cell. The zero page begins again after its 256 cells, and memory after all. -/
def cellAfter (op : Opcode) (e : UInt16) : UInt16 :=
  match op.base with
  | .ldz | .stz => UInt16.ofNat ((e.toNat + 1) % 256)
  | _ => UInt16.ofNat ((e.toNat + 1) % 65536)

/-- The cells of an access at a cell: this one, and for a word the one after it. -/
def cellsAt (op : Opcode) (e : UInt16) : List UInt16 :=
  if op.short then [e, op.cellAfter e] else [e]

theorem cellAfter_ne (e : UInt16) : op.cellAfter e ≠ e := by
  intro h
  have hn := congrArg UInt16.toNat h
  have he := e.toNat_lt
  unfold cellAfter at hn
  split at hn <;> rw [UInt16.toNat_ofNat'] at hn <;> omega

theorem nodup_cellsAt (e : UInt16) : (op.cellsAt e).Nodup := by
  have hne := op.cellAfter_ne e
  unfold cellsAt
  cases op.short <;> simp [hne.symm]

theorem length_cellsAt (e : UInt16) : (op.cellsAt e).length = op.size := by
  unfold cellsAt size
  cases op.short <;> rfl

/-- A load and a store of the same kind and width come to the same cells from the same first one. -/
theorem cellsAt_eq_of_reads {load store : Opcode} (h : load.base.Reads store.base)
    (hshort : load.short = store.short) (e : UInt16) : load.cellsAt e = store.cellsAt e := by
  have hafter : load.cellAfter e = store.cellAfter e := by
    unfold cellAfter
    generalize load.base = b, store.base = b' at h
    cases h <;> rfl
  rw [cellsAt, cellsAt, hshort, hafter]

theorem map_range_size {f : Nat → UInt16} {e next : UInt16} (hfirst : f 0 = e)
    (hsecond : f 1 = next) :
    (List.range op.size).map f = if op.short then [e, next] else [e] := by
  unfold size
  cases op.short <;> simp [List.range_succ, hfirst, hsecond]

theorem cells_eq_cellsAt {a : Nat} (ha : a < 256 ^ op.addressSize) :
    op.cells pc a = op.cellsAt (op.effectiveAddress pc a) := by
  unfold cells cellsAt cellAfter effectiveAddress addressSize at *
  split at ha
  case h_1 h | h_2 h =>
    have hlt : a < 256 := ha
    simp only [h]
    apply map_range_size
    · rw [Nat.add_zero, Nat.mod_eq_of_lt hlt]
    · rw [UInt16.toNat_ofNat_of_lt' (Nat.lt_trans hlt (by decide))]
  case h_3 h | h_4 h =>
    simp only [h]
    apply map_range_size
    · rw [Int.natCast_zero, Int.add_zero]
    · rw [UInt16.toNat_ofNat']
      apply congrArg UInt16.ofNat
      omega
  case h_5 hldz hstz hldr hstr =>
    have hlt : a < 65536 := ha
    apply map_range_size
    · simp only [Nat.add_zero, Nat.mod_eq_of_lt hlt]
    · simp only [UInt16.toNat_ofNat_of_lt' hlt]

end Opcode

namespace Machine

variable {m : Machine} {op : Opcode}

def addressOperand (m : Machine) (op : Opcode) : Nat := (m.stack op.stack).item op.addressSize

def valueOperand (m : Machine) (op : Opcode) : Nat :=
  ((m.stack op.stack).dropped op.addressSize).item op.size

def accessedCell (m : Machine) (op : Opcode) (pc : UInt16) : UInt16 :=
  op.effectiveAddress (pc + 1) (m.addressOperand op)

theorem exists_step_store (io : Access) (pc : UInt16)
    (hop : .decode (m.board.core.memory.read pc) = op) (h : op.base = .stz ∨ op.base = .str ∨
      op.base = .sta) : ∃ m', m.step io pc = some (some (pc + 1), m') ∧
      m'.board.core.memory =
        m.board.core.memory.writeAll (op.cellsAt (m.accessedCell op pc))
        (digits op.size (m.valueOperand op)) := by
  have hbase : op.base ∉ [.immediate, .dei, .deo] := by rcases h with h | h | h <;> simp [h]
  have hi : (m.board.core.stackPair.get op.stack).items op.sizes =
      [m.valueOperand op, m.addressOperand op] := by
    simp only [Opcode.sizes_of_store h, Stack.items, List.sum_cons, List.sum_nil, Nat.add_zero,
      Stack.dropped_zero, valueOperand, addressOperand, stack]
  have hc : op.cells (pc + 1) (m.addressOperand op) = op.cellsAt (m.accessedCell op pc) :=
    op.cells_eq_cellsAt (pc + 1) (op.item_addressSize_lt (m.stack op.stack))
  have hstep := step_eq_applied io pc m hop hbase
  dsimp only at hstep
  rw [hi, Opcode.effect_of_store h, hc, Opcode.applied, UInt16.ofNat_toNat] at hstep
  exact ⟨_, hstep, rfl⟩

theorem exists_step_load (io : Access) (pc : UInt16)
    (hop : .decode (m.board.core.memory.read pc) = op) (h : op.base = .ldz ∨ op.base = .ldr ∨
      op.base = .lda) : ∃ m', m.step io pc = some (some (pc + 1), m') ∧
      m'.board.core.memory = m.board.core.memory ∧
      m'.stack op.stack = (op.rest (m.stack op.stack) op.addressSize).pushAll
        ((op.cellsAt (m.accessedCell op pc)).map m.board.core.memory.read) := by
  have hbase : op.base ∉ [.immediate, .dei, .deo] := by rcases h with h | h | h <;> simp [h]
  have hs := Opcode.sizes_of_load h
  have hi : (m.board.core.stackPair.get op.stack).items op.sizes = [m.addressOperand op] := by
    simp only [hs, Stack.items, List.sum_nil, Stack.dropped_zero, addressOperand, stack]
  have hc : op.cells (pc + 1) (m.addressOperand op) = op.cellsAt (m.accessedCell op pc) :=
    op.cells_eq_cellsAt (pc + 1) (op.item_addressSize_lt (m.stack op.stack))
  have hstep := step_eq_applied io pc m hop hbase
  dsimp only at hstep
  rw [hi, Opcode.effect_of_load h, hc, Opcode.applied_of_sent_nil rfl,
    UInt16.ofNat_toNat, hs] at hstep
  refine ⟨_, hstep, rfl, ?_⟩
  rw [stack, stack]
  cases op.stack <;> rfl

/-- Loads give what was stored. A store writes to its cell and, if it stores a word, to the one
after it, and leaves the rest of memory. A load of the same kind and width that comes to the same
cell, whenever these cells are still as the store left them, pushes the stored number for its
address operand, which it keeps in keep mode, and writes nothing. All this is so with any other
flags, on any stacks and in any memory. -/
theorem load_of_store (io : Access) (m : Machine) (pc : UInt16) {store : Opcode} {load : BaseOp}
    (hop : .decode (m.board.core.memory.read pc) = store) (hreads : load.Reads store.base) :
    ∃ m', m.step io pc = some (some (pc + 1), m') ∧
      (∀ a, a ∉ store.cellsAt (m.accessedCell store pc) →
        m'.board.core.memory.read a = m.board.core.memory.read a) ∧
      ∀ (io' : Access) (n : Machine) (pc' : UInt16) (op : Opcode),
        .decode (n.board.core.memory.read pc') = op → op.base = load → op.short = store.short →
        n.accessedCell op pc' = m.accessedCell store pc →
        (∀ a ∈ store.cellsAt (m.accessedCell store pc),
          n.board.core.memory.read a = m'.board.core.memory.read a) →
        ∃ n', n.step io' pc' = some (some (pc' + 1), n') ∧
          n'.board.core.memory = n.board.core.memory ∧
          n'.stack op.stack = (op.rest (n.stack op.stack) op.addressSize).pushAll
            (digits store.size (m.valueOperand store)) ∧
          (n'.stack op.stack).item store.size = m.valueOperand store := by
  obtain ⟨m', hstep, hmemory⟩ := exists_step_store io pc hop hreads.cases_store
  refine ⟨m', hstep, ?_, ?_⟩
  · intro a ha
    rw [hmemory, Memory.read_writeAll_of_notMem _ _ ha]
  · intro io' n pc' op hop' hb hshort hcell hkept
    subst hb
    have hcells : op.cellsAt (n.accessedCell op pc') = store.cellsAt (m.accessedCell store pc) := by
      rw [hcell]
      exact Opcode.cellsAt_eq_of_reads hreads hshort _
    have hbytes : (op.cellsAt (n.accessedCell op pc')).map n.board.core.memory.read =
        digits store.size (m.valueOperand store) := by
      rw [hcells, List.map_congr_left hkept, hmemory]
      apply Memory.map_read_writeAll _ (store.nodup_cellsAt _)
      rw [store.length_cellsAt, length_digits]
    have hsize : store.size < 256 := by
      rcases store.size_cases with ⟨-, h⟩ | ⟨-, h⟩ <;> rw [h] <;> decide
    obtain ⟨n', hstep', hmemory', hstack⟩ := exists_step_load io' pc' hop' hreads.cases_load
    rw [hbytes] at hstack
    refine ⟨n', hstep', hmemory', hstack, ?_⟩
    rw [hstack]
    exact Stack.item_pushAll_digits _ hsize (store.item_size_lt _)

/-- A machine about to store a word in the last and the first cell, with a load of it further up. -/
def straddling : Machine :=
  let m := bare .standard (.upTo none)
  { m with board.core := ⟨(Memory.zero.write 0x40 0x33).write 0xFFC0 0xF2,
      ⟨Stack.empty.pushAll [0x12, 0x34, 0xBE], .empty⟩⟩ }

/-- The store goes back over the start of memory, the load forward to its end; the load keeps its
operand. -/
theorem load_of_store_straddling : BaseOp.Reads .ldr .str ∧
    Opcode.decode (straddling.board.core.memory.read 0x40) = ⟨.str, true, .working, false⟩ ∧
    ∃ m' n', straddling.step .refused 0x40 = some (some 0x41, m') ∧
      ({ m' with board.core.stackPair.ret := Stack.empty.push 0x3E } : Machine).step
      .refused 0xFFC0 =
        some (some 0xFFC1, n') ∧
      (n'.stack .ret).item 2 = 0x1234 ∧ (n'.stack .ret).ptr = 3 ∧
      m'.board.core.memory.read 1 = 0 := by
  have hfirst : straddling.board.core.memory.read 0x40 = 0x33 := by
    simp [straddling, Memory.read_write]
  have hlater : straddling.board.core.memory.read 0xFFC0 = 0xF2 := by simp [straddling]
  have hzero : straddling.board.core.memory.read 1 = 0 := by
    have hread : Memory.zero.read 1 = 0 := Vector.getElem_replicate _
    simp [straddling, Memory.read_write, hread]
  have hop : Opcode.decode (straddling.board.core.memory.read 0x40) =
      ⟨.str, true, .working, false⟩ := by
    rw [hfirst]
    decide
  have hback : straddling.accessedCell ⟨.str, true, .working, false⟩ 0x40 = 0xFFFF := by
    decide +kernel
  have hforth : Opcode.effectiveAddress ⟨.ldr, true, .ret, true⟩ (0xFFC0 + 1)
      ((Stack.empty.push 0x3E).item 1) = 0xFFFF := by decide +kernel
  have hcells : Opcode.cellsAt ⟨.str, true, .working, false⟩
      (straddling.accessedCell ⟨.str, true, .working, false⟩ 0x40) = [0xFFFF, 0] := by
    rw [hback]
    decide
  obtain ⟨m', hstep, hleft, hload⟩ := load_of_store .refused straddling 0x40 hop .relative
  rw [hcells] at hleft
  have hop' : Opcode.decode (m'.board.core.memory.read 0xFFC0) = ⟨.ldr, true, .ret, true⟩ := by
    rw [hleft 0xFFC0 (by decide), hlater]
    decide
  obtain ⟨n', hstep', -, hstack, hitem⟩ := hload .refused
    { m' with board.core.stackPair.ret := Stack.empty.push 0x3E } 0xFFC0 _ hop' rfl rfl
    (hforth.trans hback.symm)
    fun _ _ => rfl
  refine ⟨.relative, hop, m', n', hstep, hstep', hitem.trans (by decide +kernel), ?_, ?_⟩
  · rw [hstack, Stack.ptr_pushAll, length_digits]
    rfl
  · rw [hleft 1 (by decide), hzero]

end Machine

end FantasyConsole
