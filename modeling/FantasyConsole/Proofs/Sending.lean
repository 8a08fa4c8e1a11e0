import FantasyConsole.Proofs.Lifo
import FantasyConsole.Proofs.Limits
import FantasyConsole.Proofs.Paging
import FantasyConsole.Proofs.Storage

/-!
# Programs that send words

A program can send words to a field of two ports by three instructions for each: the
word as a literal, the port as a literal, and a word of output. Where no device
listens it does to memory, ports and the video processor what a host does that writes
the words itself, and it leaves its stacks but for the three cells that it works in.
-/
namespace FantasyConsole

namespace Memory

theorem length_window (m : Memory) (address : UInt16) (n : Nat) :
    (m.window address n).length = n := by
  simp [window]

theorem window_add (m : Memory) (address : UInt16) (a b : Nat) :
    m.window address (a + b) = m.window address a ++ m.window (address + UInt16.ofNat a) b := by
  simp [window, List.range_add, UInt16.ofNat_add, UInt16.add_assoc]

theorem read_of_window {m : Memory} {address : UInt16} {bytes : List UInt8}
    (h : m.window address bytes.length = bytes) {i : Nat} (hi : i < bytes.length) :
    m.read (address + UInt16.ofNat i) = bytes[i] := by
  have hcell := List.getElem_of_eq h.symm hi
  simpa [window] using hcell.symm

theorem window_one (m : Memory) (address : UInt16) : m.window address 1 = [m.read address] := by
  simp [window]

theorem window_two (m : Memory) (address : UInt16) :
    m.window address 2 = [m.read address, m.read (address + 1)] := by
  simp [window, List.range_succ]

theorem window_load (m : Memory) (offset : UInt16) {bytes : Array UInt8} (h : bytes.size ≤ 65536) :
    (m.load offset bytes).window offset bytes.size = bytes.toList := by
  apply List.ext_getElem
  · simp [window]
  · intro i hi hi'
    have hlt : i < bytes.size := by simpa using hi'
    have hn : (UInt16.ofNat i).toNat = i := UInt16.toNat_ofNat_of_lt' (Nat.lt_of_lt_of_le hlt h)
    simp only [window, List.getElem_map, List.getElem_range, read_load m offset h, hn, dif_pos hlt,
      Array.getElem_toList]

end Memory

def sendingWord (port : UInt8) (w : UInt16) : List UInt8 :=
  [0xA0, highByte w, lowByte w, 0x80, port, 0x37]

def sending (port : UInt8) (ws : List UInt16) : List UInt8 :=
  ws.flatMap (sendingWord port) ++ [0x00]

theorem length_words (port : UInt8) (ws : List UInt16) :
    (ws.flatMap (sendingWord port)).length = 6 * ws.length := by
  induction ws with
  | nil => rfl
  | cons w ws ih =>
    rw [List.flatMap_cons, List.length_append, ih, List.length_cons, Nat.mul_succ, Nat.add_comm]
    rfl

namespace Machine

/-- The machines are the same in what a write can reach where no device listens. -/
structure Alike (m n : Machine) : Prop where
  memory : m.board.core.memory = n.board.core.memory
  ports : m.board.ports = n.board.ports
  vdp : m.board.vdp = n.board.vdp
  bus : m.bus = n.bus

variable {m n : Machine}

theorem Alike.refl (m : Machine) : Alike m m := ⟨rfl, rfl, rfl, rfl⟩

theorem Alike.trans {a b c : Machine} (h : Alike a b) (h' : Alike b c) : Alike a c :=
  ⟨h.memory.trans h'.memory, h.ports.trans h'.ports, h.vdp.trans h'.vdp, h.bus.trans h'.bus⟩

theorem Alike.withPair (h : Alike m n) (pair : StackPair) : Alike (m.withPair pair) n :=
  ⟨h.memory, h.ports, h.vdp, h.bus⟩

theorem Alike.note (h : Alike m n) (e : Event) : Alike (m.note e) n :=
  ⟨h.memory, h.ports, h.vdp, h.bus⟩

theorem Alike.stored (h : Alike m n) (port v : UInt8) :
    Alike (m.stored port v) (n.stored port v) where
  memory := by rw [core_stored, core_stored, h.memory]
  ports := by rw [ports_stored, ports_stored, h.ports]
  vdp := by rw [vdp_stored, vdp_stored, h.memory, h.ports, h.vdp, h.bus]
  bus := by rw [bus_stored, bus_stored, h.bus]

theorem Alike.storedWord (h : Alike m n) (port : UInt8) (w : UInt16) :
    Alike (m.storedWord port w) (n.storedWord port w) :=
  (h.stored port (highByte w)).stored (port + 1) (lowByte w)

/-! ## What a host does -/

theorem writeField_eq {port : UInt8} (h : m.bus.NoDeviceWrites port)
    (h' : m.bus.NoDeviceWrites (port + 1)) (fuel : Nat)
    (w : UInt16) : m.writeField fuel port w = some (m.storedWord port w) := by
  rw [writeField, deo_eq_stored h]
  exact deo_eq_stored (m.bus_stored port _ ▸ h') fuel _

theorem bus_storedWord (m : Machine) (port : UInt8) (w : UInt16) :
    (m.storedWord port w).bus = m.bus := by
  rw [Machine.storedWord, bus_stored, bus_stored]

theorem core_storedWord (m : Machine) (port : UInt8) (w : UInt16) :
    (m.storedWord port w).board.core = m.board.core := by
  rw [Machine.storedWord, core_stored, core_stored]

theorem writeFields_eq {port : UInt8} (h : m.bus.NoDeviceWrites port)
    (h' : m.bus.NoDeviceWrites (port + 1)) (fuel : Nat) (ws : List UInt16) :
    m.writeFields fuel port ws = some (ws.foldl (·.storedWord port ·) m) := by
  induction ws generalizing m with
  | nil => rfl
  | cons w ws ih =>
    have hbus := m.bus_storedWord port w
    rw [writeFields, List.foldlM_cons, writeField_eq h h']
    exact ih (hbus ▸ h) (hbus ▸ h')

/-! ## What the program does -/

variable {pc : UInt16}

theorem step_literal (io : Access) {b : UInt8} {bytes : List UInt8}
    (hop : m.board.core.memory.read pc = b)
    (hb : (Opcode.decode b).base = .immediate) (hf : (Opcode.decode b).immediateForm = .literal)
    (hbytes : m.board.core.memory.window (pc + 1) (Opcode.decode b).size = bytes) :
    m.step io pc = some (some (pc + 1 + UInt16.ofNat (Opcode.decode b).size),
      (m.note (.executed pc b)).withStack (Opcode.decode b).stack
        ((m.stack (Opcode.decode b).stack).pushAll bytes)) := by
  rw [step_eq_perform, hop, perform, hb]
  dsimp only
  rw [onCore_eq, Opcode.executeImmediate, hf, ← hbytes]
  generalize Opcode.decode b = op
  rcases op.size_cases with ⟨hs, hsize⟩ | ⟨hs, hsize⟩ <;> rw [hs, hsize]
  · rw [Memory.window_two]
    cases op.stack <;> rfl
  · rw [Memory.window_one]
    cases op.stack <;> rfl

theorem step_deo {port : UInt8} {w : UInt16} {s : Stack} (inner : Access)
    (hop : m.board.core.memory.read pc = 0x37)
    (hs : m.stack .working = s.pushAll [highByte w, lowByte w, port])
    (h : m.bus.NoDeviceWrites port) (h' : m.bus.NoDeviceWrites (port + 1)) : ∃ n,
      m.step inner.instructions pc = some (some (pc + 1), n) ∧ n.Alike (m.storedWord port w) ∧
        n.stack .working = (m.stack .working).dropped 3 ∧ n.stack .ret = m.stack .ret := by
  let op : Opcode := ⟨.deo, true, .working, false⟩
  let noted := m.note (.executed pc 0x37)
  have hshows : (m.stack .working).Shows [port, lowByte w, highByte w] := by
    rw [hs]
    exact ((s.shows_nil.push (by simp) _).push (by simp) _).push (by simp) _
  obtain ⟨hport, hrest⟩ := hshows.pop
  have hword : UInt16.ofNat (((m.stack .working).dropped 1).item 2) = w := by
    have hp := congrArg Prod.fst ((m.stack .working).dropped 1).popWord_eq
    have hd : (m.stack .working).pop.2 = (m.stack .working).dropped 1 := rfl
    rw [← hd, hrest.popWord.1, word_highByte_lowByte, hd] at hp
    exact hp.symm
  have hout : noted.output inner.instructions op =
      some ((noted.storedWord port w).withPair (noted.leftover op 3)) := by
    have hp : (noted.stack op.stack).pop.1 = port := hport
    have hv : UInt16.ofNat (((noted.stack op.stack).dropped 1).item op.size) = w := hword
    have hports : ∀ q ∈ op.accessed (noted.stack op.stack).pop.1, noted.bus.NoDeviceWrites q := by
      intro q hq
      rw [hp] at hq
      have hq' : q ∈ [port, port + 1] := hq
      simp only [List.mem_cons, List.not_mem_nil, or_false] at hq'
      rcases hq' with rfl | rfl
      · exact h
      · exact h'
    rw [output_eq inner hports]
    dsimp only
    rw [hp, hv]
    rfl
  refine ⟨(noted.storedWord port w).withPair (noted.leftover op 3), ?_, ?_, rfl, rfl⟩
  · rw [step_eq_perform, hop]
    change (noted.output inner.instructions op).map _ = _
    rw [hout]
    rfl
  · exact (((Alike.refl m).note _).storedWord port w).withPair _

/-- The instructions of one word send it, and the bytes that they pushed stay above the pointer. -/
theorem steps_sendingWord {port : UInt8} {w : UInt16} (inner : Access)
    (hmem : m.board.core.memory.window pc 6 = sendingWord port w) (h : m.bus.NoDeviceWrites port)
    (h' : m.bus.NoDeviceWrites (port + 1)) : ∃ n,
      steps inner.instructions 3 pc m = some (some (pc + 6), n) ∧ n.Alike (m.storedWord port w) ∧
        n.stack .working = ((m.stack .working).pushAll [highByte w, lowByte w, port]).dropped 3 ∧
        n.stack .ret = m.stack .ret := by
  let working := m.stack .working
  have hbytes : m.board.core.memory.window pc (sendingWord port w).length = sendingWord port w :=
    hmem
  have hread {i : Nat} (hi : i < 6) :
      m.board.core.memory.read (pc + UInt16.ofNat i) = (sendingWord port w)[i] :=
    Memory.read_of_window hbytes hi
  have hzero : pc + UInt16.ofNat 0 = pc := pc.add_zero
  have hlit2 : m.board.core.memory.read pc = 0xA0 := hzero ▸ hread (i := 0) (by decide)
  have hhigh : m.board.core.memory.read (pc + 1) = highByte w := hread (i := 1) (by decide)
  have hlow : m.board.core.memory.read (pc + 1 + 1) = lowByte w := by
    rw [UInt16.add_assoc]
    exact hread (i := 2) (by decide)
  have hlit : m.board.core.memory.read (pc + 3) = 0x80 := hread (i := 3) (by decide)
  have hport : m.board.core.memory.read (pc + 3 + 1) = port := by
    rw [UInt16.add_assoc]
    exact hread (i := 4) (by decide)
  have hdeo : m.board.core.memory.read (pc + 5) = 0x37 := hread (i := 5) (by decide)
  have hword : m.board.core.memory.window (pc + 1) 2 = [highByte w, lowByte w] := by
    rw [Memory.window_two, hhigh, hlow]
  have hbyte : m.board.core.memory.window (pc + 3 + 1) 1 = [port] := by
    rw [Memory.window_one, hport]
  let m₁ :=
    (m.note (.executed pc 0xA0)).withStack .working (working.pushAll [highByte w, lowByte w])
  let m₂ :=
    (m₁.note (.executed (pc + 3) 0x80)).withStack .working
      (working.pushAll [highByte w, lowByte w, port])
  have h₁ : m.step inner.instructions pc = some (some (pc + 3), m₁) := by
    have hnext : pc + 1 + 2 = pc + 3 := UInt16.add_assoc pc 1 2
    exact hnext ▸ step_literal _ hlit2 rfl rfl hword
  have h₂ : m₁.step inner.instructions (pc + 3) = some (some (pc + 5), m₂) := by
    have hnext : pc + 3 + 1 + 1 = pc + 5 := by rw [UInt16.add_assoc, UInt16.add_assoc]; rfl
    exact hnext ▸ step_literal (m := m₁) _ hlit rfl rfl hbyte
  obtain ⟨n, h₃, ha, hw, hr⟩ := step_deo (m := m₂) (s := working) inner hdeo rfl h h'
  have hnext : pc + 5 + 1 = pc + 6 := UInt16.add_assoc pc 5 1
  rw [hnext] at h₃
  have hlike : m₂.Alike m := ((((Alike.refl m).note _).withPair _).note _).withPair _
  refine ⟨n, ?_, ha.trans (hlike.storedWord port w), hw, hr⟩
  rw [steps, h₁]
  dsimp only
  rw [steps, h₂]
  dsimp only
  rw [steps, h₃]
  rfl

/-- What holds after each word: but for its journal the machine is as the host's, but for stack
cells from the pointer on, as many as one word needs. -/
structure Sent (start host m : Machine) : Prop extends Alike m host where
  ptr : (m.stack .working).ptr = (start.stack .working).ptr
  cells : ∀ j, (∀ i < 3, (start.stack .working).ptr + UInt8.ofNat i ≠ j) →
    (m.stack .working).get j = (start.stack .working).get j
  ret : m.stack .ret = start.stack .ret

variable {start host : Machine} {port : UInt8}

theorem Sent.refl (m : Machine) : Sent m m m := ⟨Alike.refl m, rfl, fun _ _ => rfl, rfl⟩

theorem Sent.word (hs : Sent start host m) {w : UInt16} (inner : Access)
    (hmem : m.board.core.memory.window pc 6 = sendingWord port w) (h : host.bus.NoDeviceWrites port)
    (h' : host.bus.NoDeviceWrites (port + 1)) : ∃ n,
      steps inner.instructions 3 pc m = some (some (pc + 6), n) ∧
      Sent start (host.storedWord port w) n := by
  obtain ⟨n, hn, ha, hw, hr⟩ := steps_sendingWord inner hmem (hs.bus ▸ h) (hs.bus ▸ h')
  refine ⟨n, hn, ha.trans (hs.toAlike.storedWord port w), ?_, fun j hj => ?_, hr.trans hs.ret⟩
  · rw [hw, ← hs.ptr, Stack.dropped]
    change ((m.stack .working).pushAll _).ptr - UInt8.ofNat 3 = _
    rw [Stack.ptr_pushAll]
    exact UInt8.add_sub_cancel _ _
  · rw [hw, ← hs.cells j hj]
    exact Stack.get_pushAll_of_ne _ _ (by rw [hs.ptr]; exact hj)

theorem core_storedWords (m : Machine) (port : UInt8) (ws : List UInt16) :
    (ws.foldl (·.storedWord port ·) m).board.core = m.board.core := by
  induction ws generalizing m with
  | nil => rfl
  | cons w ws ih => rw [List.foldl_cons, ih, core_storedWord]

theorem Sent.words (hs : Sent start host m) (ws : List UInt16) (inner : Access)
    (hmem : m.board.core.memory.window pc (6 * ws.length) = ws.flatMap (sendingWord port))
    (h : host.bus.NoDeviceWrites port) (h' : host.bus.NoDeviceWrites (port + 1)) : ∃ n,
      steps inner.instructions (3 * ws.length) pc m =
        some (some (pc + UInt16.ofNat (6 * ws.length)), n) ∧
        Sent start (ws.foldl (·.storedWord port ·) host) n := by
  induction ws generalizing pc m host with
  | nil => exact ⟨m, by rw [List.length_nil, Nat.mul_zero, steps]; simp, hs⟩
  | cons w ws ih =>
    rw [List.length_cons, Nat.mul_succ, Nat.add_comm, Memory.window_add, List.flatMap_cons] at hmem
    obtain ⟨hfirst, hrest⟩ := List.append_inj hmem (Memory.length_window _ pc 6)
    obtain ⟨a, ha, hsa⟩ := hs.word inner hfirst h h'
    have hmemory : a.board.core.memory = m.board.core.memory := by
      rw [hsa.memory, core_storedWord, hs.memory]
    have hbus := host.bus_storedWord port w
    obtain ⟨n, hn, hsn⟩ := ih hsa (hmemory ▸ hrest) (hbus ▸ h) (hbus ▸ h')
    refine ⟨n, ?_, hsn⟩
    have hnext : pc + UInt16.ofNat (6 * (ws.length + 1)) =
        pc + 6 + UInt16.ofNat (6 * ws.length) := by
      rw [Nat.mul_succ, Nat.add_comm, UInt16.ofNat_add, ← UInt16.add_assoc]
      rfl
    rw [List.length_cons, hnext, Nat.mul_succ, Nat.add_comm, steps_add, ha]
    exact hn

/-- A program that sends words to the video processor does what the host does that writes them: run
from where it was loaded, it halts, the video processor, the ports and memory are as after the
host's writes, and of the stacks at most the three cells from the working pointer on have
changed. -/
theorem run_sending (hvdp : m.bus.writeRoute Device.vdpWritePort = some .vdp)
    (hhigh : m.bus.NoDeviceWrites Device.vdpReadPort) (b : UInt16) (ws : List UInt16)
    (hsize : 6 * ws.length + 1 ≤ 65536) (fuel : Nat) (hbudget : 3 * ws.length + 1 ≤ m.budget fuel) :
    let loaded := m.load b (sending Device.vdpReadPort ws).toArray
    ∃ n host, loaded.run fuel b = some (.halted, n) ∧
    loaded.writeFields fuel Device.vdpReadPort ws = some host ∧
      n.board.vdp = host.board.vdp ∧ n.board.ports = host.board.ports ∧
      n.board.core.memory = host.board.core.memory ∧
      (n.stack .working).ptr = (m.stack .working).ptr ∧ n.stack .ret = m.stack .ret ∧
      ∀ j, (∀ i < 3, (m.stack .working).ptr + UInt8.ofNat i ≠ j) →
        (n.stack .working).get j = (m.stack .working).get j := by
  intro loaded
  let host := ws.foldl (·.storedWord Device.vdpReadPort ·) loaded
  have hlow : m.bus.NoDeviceWrites Device.vdpWritePort := fun id hr => by simp [hvdp] at hr
  have hlength : (sending Device.vdpReadPort ws).length = 6 * ws.length + 1 := by
    rw [sending, List.length_append, length_words]
    rfl
  have hmem : loaded.board.core.memory.window b (6 * ws.length + 1) =
      sending Device.vdpReadPort ws := by
    rw [← hlength]
    exact m.board.core.memory.window_load b (by simpa [hlength] using hsize)
  rw [Memory.window_add, sending] at hmem
  obtain ⟨hwords, hend⟩ :=
    List.append_inj hmem ((Memory.length_window _ b _).trans (length_words _ ws).symm)
  obtain ⟨a, ha, hs⟩ := (Sent.refl loaded).words ws (loaded.inner fuel) hwords hhigh hlow
  have hmemory : a.board.core.memory = loaded.board.core.memory := by
    rw [hs.memory, core_storedWords]
  rw [Memory.window_one, List.cons.injEq] at hend
  let n := a.note (.executed (b + UInt16.ofNat (6 * ws.length)) 0x00)
  have hhalt : a.step (loaded.inner fuel).instructions (b + UInt16.ofNat (6 * ws.length)) =
      some (none, n) :=
    step_eq_none_iff.2 (by rw [hmemory, hend.1]; exact ⟨⟨rfl, rfl⟩, rfl⟩)
  have hsteps : steps (loaded.access fuel) (loaded.budget fuel) b loaded = some (none, n) := by
    rw [access_eq_above, ← steps_instructions]
    exact steps_eq_none_iff.2 ⟨3 * ws.length, hbudget, _, a, executes_iff_steps.2 ha, hhalt⟩
  refine ⟨n, host, ?_, writeFields_eq (m := loaded) hhigh hlow fuel ws, hs.vdp, hs.ports, hs.memory,
    hs.ptr, hs.ret, hs.cells⟩
  rw [run_eq_concluded, hsteps]
  rfl

/-- A standard machine that may execute as many instructions as it takes to send two words. -/
def brief : Machine := standard (Config.standard.withStepLimit 7) (.upTo none) #[] none

def registerWords : List UInt16 := [0x0203, 0x1234]

/-- A register is set by a program that lies across the end of memory. -/
theorem run_sending_brief : brief.bus.writeRoute Device.vdpWritePort = some .vdp ∧
    brief.bus.NoDeviceWrites Device.vdpReadPort ∧ 3 * registerWords.length + 1 ≤ brief.budget 0 ∧
    ∃ n, (brief.load 0xFFFA (sending Device.vdpReadPort registerWords).toArray).run 0 0xFFFA =
      some (.halted, n) ∧
      n.board.vdp.register 2 = 0x1234 ∧ (n.stack .working).ptr = 0 := by
  have hwired : brief.Wired :=
    wired_standard (Config.standard.withStepLimit 7) (.upTo none) #[] none
  have hhigh : brief.bus.NoDeviceWrites Device.vdpReadPort := fun id hr => by
    simp [hwired.plain] at hr
  have hbudget : 3 * registerWords.length + 1 ≤ brief.budget 0 := by decide
  obtain ⟨n, host, hrun, hhost, hvdp, -, -, hptr, -⟩ :=
    run_sending hwired.write hhigh 0xFFFA registerWords (by decide) 0 hbudget
  have hset : ((brief.load 0xFFFA (sending Device.vdpReadPort registerWords).toArray).writeFields 0
      Device.vdpReadPort registerWords).map (·.board.vdp.register 2) = some 0x1234 := by
    decide +kernel
  rw [hhost, Option.map_some, Option.some.injEq, ← hvdp] at hset
  exact ⟨hwired.write, hhigh, hbudget, n, hrun, hset, hptr⟩

end Machine

end FantasyConsole
