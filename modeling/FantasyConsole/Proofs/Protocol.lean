import FantasyConsole.Proofs.Footprint
import FantasyConsole.Proofs.StandardMap
import Mathlib.Tactic.SplitIfs

/-!
# The stream of words and reads

Through its two ports the video processor takes words and answers reads. It is a
machine of two states: nothing waits, or one command does, which is no zero word.
The next word is the operand of a command that waits and a read drops it, whatever
the command. So the commands carried out are the pairs of a parse of the stream.
-/
namespace FantasyConsole

inductive Exchange where
  | write (w : UInt16)
  | read
  deriving DecidableEq, Repr

namespace Exchange

/-- The commands of a stream with their operands, in order, after a command that waits. -/
def pairs : Option UInt16 → List Exchange → List (UInt16 × UInt16)
  | _, [] => []
  | _, .read :: es => pairs none es
  | none, .write w :: es => pairs (if w = 0 then none else some w) es
  | some c, .write w :: es => (c, w) :: pairs none es

/-- The command that waits when a stream has ended. -/
def left : Option UInt16 → List Exchange → Option UInt16
  | waiting, [] => waiting
  | _, .read :: es => left none es
  | none, .write w :: es => left (if w = 0 then none else some w) es
  | some _, .write _ :: es => left none es

def words : List Exchange → List UInt16
  | [] => []
  | .read :: es => words es
  | .write w :: es => w :: words es

/-- Each word of a stream is in one pair at most, and the pairs keep its order. -/
theorem sublist_pairs (waiting : Option UInt16) (es : List Exchange) :
    ((pairs waiting es).flatMap fun p => [p.1, p.2]).Sublist (waiting.toList ++ words es) := by
  induction es generalizing waiting with
  | nil => exact List.nil_sublist _
  | cons e es ih =>
    cases e with
    | read =>
      have hn := (ih none).trans (List.sublist_append_right waiting.toList (words es))
      cases waiting <;> exact hn
    | write w =>
      cases waiting with
      | none =>
        simp only [pairs, words, Option.toList_none, List.nil_append]
        by_cases hw : w = 0
        · rw [if_pos hw]
          exact (ih none).trans (List.sublist_cons_self w _)
        · rw [if_neg hw]
          exact ih (some w)
      | some c => exact ((ih none).cons_cons w).cons_cons c

end Exchange

namespace Vdp

/-- The writes of a footprint and its mark, with nothing waiting afterwards. -/
def written (v : Vdp) (x : Footprint) : Vdp where
  registers := Vector.ofFn fun i =>
    let w := (x.registers i).getD (v.register i)
    if i.val = 0 then 0 else if i.val = 1 then w ||| x.mark else w
  palette := Vector.ofFn fun i => (x.palette i).getD (v.palette.get i)
  memory := ⟨Vector.ofFn fun i => (x.memory (UInt16.ofNat i)).getD (v.memory.read (UInt16.ofNat i))⟩
  font := Vector.ofFn fun i => (x.font i).getD (v.font.get i)
  colors := v.colors
  rowSprites := v.rowSprites

/-- A command word carried out with its operand; meanwhile the command register holds it. -/
def executed (v : Vdp) (main : Memory) (command operand : UInt16) : Vdp :=
  let held := v.setRegister Register.command command
  held.written (held.footprint main command operand)

/-- The word that a command word selects to be read: a register, a color, or two cells. -/
def readout (v : Vdp) (command : UInt16) : UInt16 :=
  let p := command.toNat / 256
  match command.toNat % 16 with
  | 0 => v.register (Register.ofNat p)
  | 1 => v.palette.get (Footprint.entry p)
  | 2 =>
    word (v.memory.read (v.register (Register.ofNat p)))
      (v.memory.read (v.register (Register.ofNat p) + 1))
  | _ => 0

theorem register_written (v : Vdp) (x : Footprint) (i : Fin 16) : (v.written x).register i =
    if i.val = 0 then 0 else if i.val = 1 then (x.registers i).getD (v.register i) ||| x.mark
      else (x.registers i).getD (v.register i) := by
  simp [written, register]

theorem palette_written (v : Vdp) (x : Footprint) (i : Fin 64) :
    (v.written x).palette.get i = (x.palette i).getD (v.palette.get i) :=
  Vector.getElem_ofFn i.isLt

theorem memory_written (v : Vdp) (x : Footprint) (a : UInt16) :
    (v.written x).memory.read a = (x.memory a).getD (v.memory.read a) := by
  simp [written, Memory.read]

theorem font_written (v : Vdp) (x : Footprint) (i : Fin 1024) :
    (v.written x).font.get i = (x.font i).getD (v.font.get i) :=
  Vector.getElem_ofFn i.isLt

theorem ext_read {v w : Vdp} (hr : ∀ i, v.register i = w.register i)
    (hp : ∀ i, v.palette.get i = w.palette.get i) (hm : ∀ a, v.memory.read a = w.memory.read a)
    (hf : ∀ i, v.font.get i = w.font.get i) (hc : v.colors = w.colors)
    (hs : v.rowSprites = w.rowSprites) :
    v = w := by
  refine Vdp.ext ?_ ?_ (Memory.ext ?_) ?_ hc hs
  · exact Vector.ext fun i hi => hr ⟨i, hi⟩
  · exact Vector.ext fun i hi => hp ⟨i, hi⟩
  · refine Vector.ext fun i hi => ?_
    have ha := hm (UInt16.ofNat i)
    simpa [Memory.read, Nat.mod_eq_of_lt hi] using ha
  · exact Vector.ext fun i hi => hf ⟨i, hi⟩

theorem perform_eq_written (v : Vdp) (main : Memory) (c : Command) :
    v.perform main c = v.written (c.footprint v main) := by
  have hf := v.follows_write main c
  refine ext_read (fun i => ?_) (fun i => ?_) (fun a => ?_) (fun i => ?_) hf.colors hf.rowSprites
  · rw [register_written]
    split_ifs with hc hm
    · obtain rfl : i = Register.command := Fin.ext hc
      exact v.pending_perform main c
    · obtain rfl : i = Register.mode := Fin.ext hm
      rw [← hf.registers, Command.mark_footprint]
      exact v.mode_perform main c
    · have hc' : i ≠ Register.command := mt (congrArg Fin.val) hc
      have hm' : i ≠ Register.mode := mt (congrArg Fin.val) hm
      rw [v.register_perform main c hc' hm', hf.registers]
  · exact (hf.palette i).trans (v.palette_written _ i).symm
  · exact (hf.memory a).trans (v.memory_written _ a).symm
  · exact (hf.font i).trans (v.font_written _ i).symm

theorem executed_eq_perform (v : Vdp) (main : Memory) (command operand : UInt16) :
    v.executed main command operand =
      (v.setRegister Register.command command).perform main (.decode command operand) := by
  rw [perform_eq_written, Command.footprint_decode]
  rfl

theorem toNat_readSelector (command : UInt16) : (command &&& 15).toNat = command.toNat % 16 := by
  rw [UInt16.toNat_and]
  exact Nat.and_two_pow_sub_one_eq_mod command.toNat 4

theorem selected_eq_readout (v : Vdp) (command : UInt16) :
    v.selected command = v.readout command := by
  have hcolor : v.palette[Command.colorIndex command] =
      v.palette.get (Footprint.entry (command.toNat / 256)) := by
    rw [← Command.colorIndex_eq]
    rfl
  unfold selected readout
  rw [toNat_readSelector, Command.lowRegister_eq, hcolor]
  rfl

theorem pending_setCommand (v : Vdp) (w : UInt16) :
    (v.setRegister Register.command w).pending = w := by
  rw [pending, register_setRegister, if_pos rfl]

theorem pending_executed (v : Vdp) (main : Memory) (command operand : UInt16) :
    (v.executed main command operand).pending = 0 :=
  (register_written ..).trans (if_pos rfl)

theorem setCommand_setCommand (v : Vdp) (w w' : UInt16) :
    (v.setRegister Register.command w).setRegister Register.command w' =
      v.setRegister Register.command w' := by
  simp [setRegister]

theorem setCommand_of_pending {v : Vdp} {w : UInt16} (h : v.pending = w) :
    v.setRegister Register.command w = v := by
  rw [← h, pending, setRegister, register]
  simp

theorem readout_zero (v : Vdp) : v.readout 0 = v.pending := rfl

end Vdp

/-- The two states of the protocol: nothing waits or a command does. The video processor is kept
with an empty command register, and next to it what its ports and the journal hold. -/
structure Session where
  waiting : Option UInt16
  video : Vdp
  ports : Ports
  journal : Journal
  nonzero : waiting ≠ some 0
  idle : video.pending = 0

namespace Session

/-- The content of the command register, zero when nothing waits. -/
def held (s : Session) : UInt16 := s.waiting.getD 0

def board (s : Session) (core : Core) : Board :=
  ⟨core, s.ports, s.video.setRegister Register.command s.held, s.journal⟩

def start (b : Board) (h : b.vdp.pending = 0) : Session :=
  ⟨none, b.vdp, b.ports, b.journal, by simp, h⟩

theorem pending_board (s : Session) (core : Core) : (s.board core).vdp.pending = s.held :=
  s.video.pending_setCommand s.held

theorem board_start (b : Board) (h : b.vdp.pending = 0) : (start b h).board b.core = b := by
  have hv : b.vdp.setRegister Register.command 0 = b.vdp := Vdp.setCommand_of_pending h
  rw [start, board, held]
  dsimp only [Option.getD_none]
  rw [hv]

/-- A word: a command if it is not zero, or the operand of the one that waits. -/
def receive (s : Session) (main : Memory) (w : UInt16) : Session :=
  let ports := (s.ports.set 0x0C (highByte w)).set 0x0D (lowByte w)
  match s.waiting with
  | none =>
    if h : w = 0 then { s with ports }
    else { s with waiting := some w, ports, nonzero := fun he => h (Option.some.inj he) }
  | some c =>
    { waiting := none
      video := s.video.executed main c w
      ports
      journal := s.journal.note (Event.commandRun c w)
      nonzero := by simp
      idle := s.video.pending_executed main c w }

/-- The word that the waiting command selects, zero when nothing waits. -/
def selected (s : Session) : UInt16 :=
  match s.waiting with
  | none => 0
  | some c => (s.video.setRegister Register.command c).readout c

/-- A read: the word is left in the field of the ports, and nothing waits any more. -/
def answer (s : Session) : UInt8 × Session :=
  (highByte s.selected,
    { s with
      waiting := none
      ports := (s.ports.set 0x0C (highByte s.selected)).set 0x0D (lowByte s.selected)
      journal := s.journal.note (Event.commandRead s.held s.selected)
      nonzero := by simp })

/-- One exchange, with the answers it gives. -/
def step (main : Memory) (s : Session) : Exchange → List UInt8 × Session
  | .write w => ([], s.receive main w)
  | .read => ([s.answer.1], s.answer.2)

def run (main : Memory) (s : Session) : List Exchange → List UInt8 × Session
  | [] => ([], s)
  | e :: es =>
    ((s.step main e).1 ++ (run main (s.step main e).2 es).1, (run main (s.step main e).2 es).2)

theorem waiting_receive (s : Session) (main : Memory) (w : UInt16) :
    (s.receive main w).waiting = match s.waiting with
      | none => if w = 0 then none else some w
      | some _ => none := by
  rcases s with ⟨_ | c, video, ports, journal, hn, hi⟩
  · by_cases hw : w = 0 <;> simp [receive, hw]
  · rfl

theorem video_receive (s : Session) (main : Memory) (w : UInt16) :
    (s.receive main w).video = match s.waiting with
      | none => s.video
      | some c => s.video.executed main c w := by
  rcases s with ⟨_ | c, video, ports, journal, hn, hi⟩
  · by_cases hw : w = 0 <;> simp [receive, hw]
  · rfl

theorem waiting_run (main : Memory) (s : Session) (es : List Exchange) :
    (s.run main es).2.waiting = Exchange.left s.waiting es := by
  induction es generalizing s with
  | nil => rfl
  | cons e es ih =>
    rw [run, ih]
    cases e with
    | read => cases s.waiting <;> rfl
    | write w =>
      rw [step, waiting_receive]
      cases s.waiting <;> rfl

/-- After a stream the commands of its parse have been carried out, each once and in order. -/
theorem video_run (main : Memory) (s : Session) (es : List Exchange) :
    (s.run main es).2.video =
      (Exchange.pairs s.waiting es).foldl (fun v p => v.executed main p.1 p.2) s.video := by
  induction es generalizing s with
  | nil => rfl
  | cons e es ih =>
    rw [run, ih]
    cases e with
    | read => cases s.waiting <;> rfl
    | write w =>
      rw [step, waiting_receive, video_receive]
      cases s.waiting <;> rfl

/-! ## What the ports do with an exchange -/

theorem receive_board (s : Session) (core : Core) (w : UInt16) :
    (s.board core).vdp.receive core.memory w = ((s.receive core.memory w).board core).vdp := by
  rcases s with ⟨_ | c, video, ports, journal, hn, hi⟩
  · have hp : (video.setRegister Register.command 0).pending = 0 := video.pending_setCommand 0
    by_cases hw : w = 0 <;> simp [board, held, receive, Vdp.receive, hp, hw,
      Vdp.setCommand_setCommand]
  · have hc : c ≠ 0 := fun h => hn (congrArg some h)
    have hp : (video.setRegister Register.command c).pending = c := video.pending_setCommand c
    have he := Vdp.setCommand_of_pending (video.pending_executed core.memory c w)
    simp only [board, held, receive, Vdp.receive, Option.getD_some, Option.getD_none, hp,
      if_neg hc, he]
    exact (video.executed_eq_perform core.memory c w).symm

theorem journal_receive (s : Session) (main : Memory) (w : UInt16) :
    (s.receive main w).journal =
      if s.held = 0 then s.journal else s.journal.note (Event.commandRun s.held w) := by
  rcases s with ⟨_ | c, video, ports, journal, hn, hi⟩
  · by_cases hw : w = 0 <;> simp [receive, held, hw]
  · have hc : c ≠ 0 := fun h => hn (congrArg some h)
    simp [receive, held, hc]

theorem ports_receive (s : Session) (main : Memory) (w : UInt16) :
    (s.receive main w).ports = s.ports.setFieldFrom Device.vdpReadPort w := by
  rcases s with ⟨_ | c, video, ports, journal, hn, hi⟩
  · by_cases hw : w = 0 <;> simp only [receive, hw, dite_true, dite_false] <;> rfl
  · rfl

theorem sendVdp_board (s : Session) (core : Core) (w : UInt16) :
    (((s.board core).setPort Device.vdpReadPort (highByte w)).setPort
        Device.vdpWritePort (lowByte w)).sendVdp Device.vdpWritePort =
      (s.receive core.memory w).board core := by
  have hset : ((s.board core).setPort Device.vdpReadPort (highByte w)).setPort
        Device.vdpWritePort (lowByte w) =
      { s.board core with ports := s.ports.setFieldFrom Device.vdpReadPort w } := rfl
  have hf : (s.ports.setFieldFrom Device.vdpReadPort w).fieldEndingAt Device.vdpWritePort = w :=
    s.ports.fieldEndingAt_setFieldFrom Device.vdpReadPort w
  rw [hset]
  apply Board.ext
  · exact Board.core_sendVdp _ _
  · rw [Board.ports_sendVdp]
    exact (s.ports_receive core.memory w).symm
  · rw [Board.vdp_sendVdp]
    dsimp only
    rw [hf]
    exact s.receive_board core w
  · rw [Board.journal_sendVdp]
    dsimp only
    rw [s.pending_board core, hf]
    exact (s.journal_receive core.memory w).symm

theorem selected_board (s : Session) (core : Core) :
    (s.board core).vdp.selected (s.board core).vdp.pending = s.selected := by
  rw [s.pending_board core, Vdp.selected_eq_readout]
  rcases s with ⟨_ | c, video, ports, journal, hn, hi⟩
  · exact (Vdp.readout_zero _).trans (video.pending_setCommand 0)
  · rfl

theorem readVdp_board (s : Session) (core : Core) :
    (s.board core).readVdp Device.vdpReadPort = (s.answer.1, s.answer.2.board core) := by
  have ha : (s.board core).vdp.answer = (s.selected, s.video.setRegister Register.command 0) := by
    rw [Vdp.answer, s.selected_board core]
    exact congrArg _ (Vdp.setCommand_setCommand ..)
  rw [Board.readVdp, ha, s.pending_board core]
  exact congrArg (·, s.answer.2.board core) (Ports.get_setFieldFrom ..)

end Session

namespace Machine

variable {m : Machine}

/-- The ports are those of the video processor: words end at the writing port, their high byte is
stored at the reading port only. -/
structure Wired (m : Machine) : Prop where
  read : m.bus.readRoute Device.vdpReadPort = some .vdp
  write : m.bus.writeRoute Device.vdpWritePort = some .vdp
  plain : m.bus.writeRoute Device.vdpReadPort = none

theorem wired_standard (config : Config) (filter : LogFilter) (image : Array UInt8)
    (input : Option (List UInt8)) : (standard config filter image input).Wired where
  read := readRoute_standard config filter image input Device.vdpReadPort
  write := writeRoute_standard config filter image input Device.vdpWritePort
  plain := writeRoute_standard config filter image input Device.vdpReadPort

/-! ## Ports without a device -/

/-- At each level of nesting the calls are those of a machine with some calls below. -/
theorem exists_access (m : Machine) (fuel : Nat) : ∃ inner, m.access fuel = .above fuel inner := by
  rw [access]
  cases m.bus.attachedCount with
  | zero => exact ⟨.refused, rfl⟩
  | succ depth => exact ⟨.level fuel depth, rfl⟩

theorem deo_of_plain {port : UInt8} (h : m.bus.writeRoute port = none) (fuel : Nat) (v : UInt8) :
    m.deo fuel port v = some { m with board := m.board.setPort port v } := by
  obtain ⟨inner, hi⟩ := m.exists_access fuel
  rw [deo, hi]
  change m.deoWith inner port v = _
  rw [deoWith, h]

theorem deo_of_vdp {port : UInt8} (h : m.bus.writeRoute port = some .vdp) (fuel : Nat) (v : UInt8) :
    m.deo fuel port v = some { m with board := (m.board.setPort port v).sendVdp port } := by
  obtain ⟨inner, hi⟩ := m.exists_access fuel
  rw [deo, hi]
  change m.deoWith inner port v = _
  rw [deoWith, h]

theorem dei_of_vdp {port : UInt8} (h : m.bus.readRoute port = some .vdp) (fuel : Nat) :
    m.dei fuel port = some ((m.board.readVdp port).1,
      { m with board := (m.board.readVdp port).2 }) := by
  obtain ⟨inner, hi⟩ := m.exists_access fuel
  rw [dei, hi]
  change m.deiWith inner port = _
  rw [deiWith, h]

/-! ## Streams on a machine -/

def exchange (m : Machine) (fuel : Nat) : Exchange → Option (List UInt8 × Machine)
  | .write w =>
    match m.deo fuel 0x0C (highByte w) with
    | none => none
    | some m => (m.deo fuel 0x0D (lowByte w)).map ([], ·)
  | .read => (m.dei fuel 0x0C).map fun r => ([r.1], r.2)

def exchanges (m : Machine) (fuel : Nat) : List Exchange → Option (List UInt8 × Machine)
  | [] => some ([], m)
  | e :: es =>
    match m.exchange fuel e with
    | none => none
    | some (answers, m) => (m.exchanges fuel es).map fun r => (answers ++ r.1, r.2)

def during (m : Machine) (s : Session) : Machine := { m with board := s.board m.board.core }

theorem Wired.during (h : m.Wired) (s : Session) : (m.during s).Wired := ⟨h.read, h.write, h.plain⟩

theorem exchange_during (h : m.Wired) (fuel : Nat) (s : Session) (e : Exchange) :
    (m.during s).exchange fuel e =
      some ((s.step m.board.core.memory e).1, m.during (s.step m.board.core.memory e).2) := by
  cases e with
  | write w =>
    let high : Machine :=
      { m with board := (s.board m.board.core).setPort Device.vdpReadPort (highByte w) }
    have hhigh : (m.during s).deo fuel Device.vdpReadPort (highByte w) = some high :=
      deo_of_plain (h.during s).plain fuel _
    have hlow : high.deo fuel Device.vdpWritePort (lowByte w) =
        some (m.during (s.receive m.board.core.memory w)) := by
      rw [deo_of_vdp (m := high) h.write, during, ← s.sendVdp_board]
    change (match (m.during s).deo fuel Device.vdpReadPort (highByte w) with
      | none => none
      | some m => (m.deo fuel Device.vdpWritePort (lowByte w)).map ([], ·)) = _
    rw [hhigh]
    dsimp only
    rw [hlow]
    rfl
  | read =>
    change ((m.during s).dei fuel Device.vdpReadPort).map (fun r => ([r.1], r.2)) = _
    rw [dei_of_vdp (h.during s).read]
    exact congrArg (fun r => some ([r.1], { m with board := r.2 })) (s.readVdp_board m.board.core)

theorem exchanges_during (h : m.Wired) (fuel : Nat) (s : Session) (es : List Exchange) :
    (m.during s).exchanges fuel es =
      some ((s.run m.board.core.memory es).1, m.during (s.run m.board.core.memory es).2) := by
  induction es generalizing s with
  | nil => rfl
  | cons e es ih =>
    rw [exchanges, exchange_during h]
    dsimp only
    rw [ih]
    rfl

/-- The command protocol on any stream of words and reads. The machine and the answers are those of
the session of two states, whose commands are the pairs of the parse, carried out once each and in
order. -/
theorem exchanges_eq_run (h : m.Wired) (hp : m.board.vdp.pending = 0) (fuel : Nat)
    (es : List Exchange) :
    let memory := m.board.core.memory
    let r := (Session.start m.board hp).run memory es
    m.exchanges fuel es = some (r.1, { m with board := r.2.board m.board.core }) ∧
      r.2.waiting = Exchange.left none es ∧
      r.2.video =
        (Exchange.pairs none es).foldl (fun v p => v.executed memory p.1 p.2) m.board.vdp ∧
      ((Exchange.pairs none es).flatMap fun p => [p.1, p.2]).Sublist (Exchange.words es) := by
  intro memory r
  have hs : m.during (Session.start m.board hp) = m := by
    rw [Machine.during, Session.board_start]
  refine ⟨?_, Session.waiting_run _ _ es, Session.video_run _ _ es, Exchange.sublist_pairs none es⟩
  have he := exchanges_during h fuel (Session.start m.board hp) es
  rw [hs] at he
  exact he

/-- A zero word is passed over, a cell is written through a register and read back, a color takes
its place, and a read drops a command with an unknown selector. A command that writes to the command
register leaves nothing there for the next. -/
theorem exchanges_eq_run_standard :
    ∃ s : Session,
      (standard .standard (.upTo none) #[] none).exchanges 1
          [.write 0, .write 0x0203, .write 0x0034, .write 0x0209, .write 0x0056,
            .write 0x0202, .read, .write 0x0107, .write 0x0ABC, .write 0x0101, .read,
            .write 7, .read, .read, .write 3, .write 9, .write 0x0A03] =
        some ([0x56, 0x0A, 0, 0],
          { standard .standard (.upTo none) #[] none with board := s.board .zero }) ∧
      s.waiting = some 0x0A03 ∧ s.video.memory.read 0x34 = 0x56 ∧ s.video.palette.get 1 = 0x0ABC ∧
      s.video = [(0x0203, 0x0034), (0x0209, 0x0056), (0x0107, 0x0ABC), (3, 9)].foldl
        (fun v p => v.executed .zero p.1 p.2) .zero := by
  let es : List Exchange :=
    [.write 0, .write 0x0203, .write 0x0034, .write 0x0209, .write 0x0056, .write 0x0202,
      .read, .write 0x0107, .write 0x0ABC, .write 0x0101, .read, .write 7, .read, .read,
      .write 3, .write 9, .write 0x0A03]
  have hp : (standard .standard (.upTo none) #[] none).board.vdp.pending = 0 := by decide +kernel
  obtain ⟨he, hw, hv, -⟩ :=
    exchanges_eq_run (wired_standard .standard (.upTo none) #[] none) hp 1 es
  have hseen : ((standard .standard (.upTo none) #[] none).exchanges 1 es).map (fun r =>
      (r.1, r.2.board.vdp.memory.read 0x34, r.2.board.vdp.palette.get 1)) =
        some ([0x56, 0x0A, 0, 0], 0x56, 0x0ABC) := by decide +kernel
  rw [he, Option.map_some, Option.some.injEq, Prod.mk.injEq, Prod.mk.injEq] at hseen
  obtain ⟨ha, hm, hc⟩ := hseen
  rw [ha] at he
  have hpairs : Exchange.pairs none es =
      [(0x0203, 0x0034), (0x0209, 0x0056), (0x0107, 0x0ABC), (3, 9)] := by
    decide
  exact ⟨_, he, hw.trans (by decide), hm, hc, hv.trans (by rw [hpairs]; rfl)⟩

end Machine

end FantasyConsole
