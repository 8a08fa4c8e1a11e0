import FantasyConsole.Proofs.Calls

/-!
# Programs as handlers

An instruction asks nothing of the machine that a handler could not ask. So the
run of a program is the run of a handler, a tree of accesses as long as its budget,
and what calls are made during a run can be listed in the same way as for a
handler. Following a handler returns exactly if all the calls on its list are
answered.
-/
namespace FantasyConsole

inductive Call where
  | dei (port : UInt8)
  | deo (port value : UInt8)
  | run (start : UInt16)
  deriving DecidableEq, Repr

def Call.IsPort : Call → Prop
  | .run _ => False
  | _ => True

def Access.after (io : Access) : Call → Machine → Option Machine
  | .dei port, m => (io.dei port m).map (·.2)
  | .deo port v, m => io.deo port v m
  | .run start, m => (io.run start m).map (·.2)

@[simp] theorem Access.after_dei (io : Access) (port : UInt8) (m : Machine) :
    io.after (.dei port) m = (io.dei port m).map (·.2) := rfl

@[simp] theorem Access.after_deo (io : Access) (port v : UInt8) (m : Machine) :
    io.after (.deo port v) m = io.deo port v m := rfl

@[simp] theorem Access.after_run (io : Access) (start : UInt16) (m : Machine) :
    io.after (.run start) m = (io.run start m).map (·.2) := rfl

theorem Access.Keeps.after {io : Access} {R : Machine → Machine → Prop}
    (hio : io.Keeps R) {c : Call} {m n : Machine} (h : io.after c m = some n) : R m n := by
  cases c with
  | dei port =>
    obtain ⟨⟨v, n⟩, hd, rfl⟩ := Option.map_eq_some_iff.1 h
    exact hio.dei hd
  | deo port v => exact hio.deo h
  | run start =>
    obtain ⟨⟨o, n⟩, hr, rfl⟩ := Option.map_eq_some_iff.1 h
    exact hio.run hr

/-- Two ways of answering give a call on a machine the same answer. -/
def Access.Agree (io io' : Access) : Call → Machine → Prop
  | .dei port, m => io.dei port m = io'.dei port m
  | .deo port v, m => io.deo port v m = io'.deo port v m
  | .run start, m => io.run start m = io'.run start m

theorem Access.Agree.symm {io io' : Access} {c : Call} {m : Machine} (h : io.Agree io' c m) :
    io'.Agree io c m := by
  cases c <;> exact Eq.symm h

theorem Access.Agree.trans {io io' io'' : Access} {c : Call} {m : Machine} (h : io.Agree io' c m)
    (h' : io'.Agree io'' c m) : io.Agree io'' c m := by
  cases c <;> exact Eq.trans h h'

theorem Access.Agree.after_eq {io io' : Access} {c : Call} {m : Machine} (h : io.Agree io' c m) :
    io.after c m = io'.after c m := by
  cases c with
  | dei port => exact congrArg (Option.map (·.2)) h
  | deo port v => exact h
  | run start => exact congrArg (Option.map (·.2)) h

namespace Handler

variable {α β : Type} {io io' : Access}

theorem follow_bind (h : Handler α) (k : α → Handler β) (m : Machine) :
    (h.bind k).follow io m = (h.follow io m).bind fun r => (k r.1).follow io r.2 := by
  induction h generalizing m with
  | done a => rfl
  | inspect next ih => exact ih m.board m
  | update f next ih => exact ih _
  | dei port next ih =>
    simp only [bind, follow]
    cases io.dei port m with
    | none => rfl
    | some r => exact ih r.1 r.2
  | deo port v next ih =>
    simp only [bind, follow]
    cases io.deo port v m with
    | none => rfl
    | some m => exact ih m
  | run start next ih =>
    simp only [bind, follow]
    cases io.run start m with
    | none => rfl
    | some r => exact ih r.1 r.2

/-! ## The calls of a handler -/

/-- The calls that a handler makes, in order, each with the machine it is made on. The list ends
with the first call that is not answered. -/
def calls (io : Access) : Handler α → Machine → List (Call × Machine)
  | .done _, _ => []
  | .inspect next, m => (next m.board).calls io m
  | .update f next, m => next.calls io { m with board := f m.board }
  | .dei port next, m =>
    (.dei port, m) :: match io.dei port m with
      | none => []
      | some (v, m) => (next v).calls io m
  | .deo port v next, m =>
    (.deo port v, m) :: match io.deo port v m with
      | none => []
      | some m => next.calls io m
  | .run start next, m =>
    (.run start, m) :: match io.run start m with
      | none => []
      | some (o, m) => (next o).calls io m

/-- The list is complete: following a handler returns exactly if each call on it is answered. -/
theorem isSome_follow_iff (h : Handler α) (m : Machine) :
    (h.follow io m).isSome ↔ ∀ p ∈ h.calls io m, (io.after p.1 p.2).isSome := by
  induction h generalizing m with
  | done a => simp [follow, calls]
  | inspect next ih => exact ih m.board m
  | update f next ih => exact ih _
  | dei port next ih =>
    simp only [follow, calls, List.forall_mem_cons, Access.after_dei, Option.isSome_map]
    cases io.dei port m with
    | none => simp
    | some r => simpa using ih r.1 r.2
  | deo port v next ih =>
    simp only [follow, calls, List.forall_mem_cons, Access.after_deo]
    cases io.deo port v m with
    | none => simp
    | some m => simpa using ih m
  | run start next ih =>
    simp only [follow, calls, List.forall_mem_cons, Access.after_run, Option.isSome_map]
    cases io.run start m with
    | none => simp
    | some r => simpa using ih r.1 r.2

/-- Nothing but the answers to these calls matters. -/
theorem follow_congr {h : Handler α} {m : Machine} (hc : ∀ p ∈ h.calls io m, io.Agree io' p.1 p.2) :
    h.follow io m = h.follow io' m := by
  induction h generalizing m with
  | done a => rfl
  | inspect next ih => exact ih m.board hc
  | update f next ih => exact ih hc
  | dei port next ih =>
    simp only [calls, List.forall_mem_cons] at hc
    obtain ⟨hd, hn⟩ := hc
    have hd : io.dei port m = io'.dei port m := hd
    simp only [follow, ← hd]
    split
    · rfl
    · rename_i v m' hv
      rw [hv] at hn
      exact ih v hn
  | deo port v next ih =>
    simp only [calls, List.forall_mem_cons] at hc
    obtain ⟨hd, hn⟩ := hc
    have hd : io.deo port v m = io'.deo port v m := hd
    simp only [follow, ← hd]
    split
    · rfl
    · rename_i m' hv
      rw [hv] at hn
      exact ih hn
  | run start next ih =>
    simp only [calls, List.forall_mem_cons] at hc
    obtain ⟨hd, hn⟩ := hc
    have hd : io.run start m = io'.run start m := hd
    simp only [follow, ← hd]
    split
    · rfl
    · rename_i o m' hv
      rw [hv] at hn
      exact ih o hn

/-- A relation that answered calls and changes of the board keep relates the machine that a handler
starts on to each machine that it makes a call on. -/
theorem rel_of_mem_calls {R : Machine → Machine → Prop} (hio : io.Keeps R) (hrefl : ∀ m, R m m)
    (htrans : ∀ {a b c}, R a b → R b c → R a c) (hboard : ∀ m b, R m { m with board := b })
    {h : Handler α} {m n : Machine} {c : Call} (hc : (c, n) ∈ h.calls io m) : R m n := by
  induction h generalizing m with
  | done a => simp [calls] at hc
  | inspect next ih => exact ih m.board hc
  | update f next ih => exact htrans (hboard m _) (ih hc)
  | dei port next ih =>
    simp only [calls, List.mem_cons, Prod.mk.injEq] at hc
    rcases hc with ⟨-, rfl⟩ | hc
    · exact hrefl n
    · split at hc
      · simp at hc
      · rename_i v m' hd
        exact htrans (hio.dei hd) (ih v hc)
  | deo port v next ih =>
    simp only [calls, List.mem_cons, Prod.mk.injEq] at hc
    rcases hc with ⟨-, rfl⟩ | hc
    · exact hrefl n
    · split at hc
      · simp at hc
      · rename_i m' hd
        exact htrans (hio.deo hd) (ih hc)
  | run start next ih =>
    simp only [calls, List.mem_cons, Prod.mk.injEq] at hc
    rcases hc with ⟨-, rfl⟩ | hc
    · exact hrefl n
    · split at hc
      · simp at hc
      · rename_i o m' hd
        exact htrans (hio.run hd) (ih o hc)

/-- Every call of the handler satisfies `P`, whatever the answers. -/
def Calling (P : Call → Prop) : Handler α → Prop
  | .done _ => True
  | .inspect next => ∀ b, (next b).Calling P
  | .update _ next => next.Calling P
  | .dei port next => P (.dei port) ∧ ∀ v, (next v).Calling P
  | .deo port v next => P (.deo port v) ∧ next.Calling P
  | .run start next => P (.run start) ∧ ∀ o, (next o).Calling P

variable {P : Call → Prop}

theorem Calling.bind {h : Handler α} {k : α → Handler β} (hh : h.Calling P)
    (hk : ∀ a, (k a).Calling P) :
    (h.bind k).Calling P := by
  induction h with
  | done a => exact hk a
  | inspect next ih => exact fun b => ih b (hh b)
  | update f next ih => exact ih hh
  | dei port next ih => exact ⟨hh.1, fun v => ih v (hh.2 v)⟩
  | deo port v next ih => exact ⟨hh.1, ih hh.2⟩
  | run start next ih => exact ⟨hh.1, fun o => ih o (hh.2 o)⟩

theorem Calling.of_mem_calls {h : Handler α} (hh : h.Calling P) {m n : Machine} {c : Call}
    (hc : (c, n) ∈ h.calls io m) : P c := by
  induction h generalizing m with
  | done a => simp [calls] at hc
  | inspect next ih => exact ih m.board (hh m.board) hc
  | update f next ih => exact ih hh hc
  | dei port next ih =>
    simp only [calls, List.mem_cons, Prod.mk.injEq] at hc
    rcases hc with ⟨rfl, -⟩ | hc
    · exact hh.1
    · split at hc
      · simp at hc
      · exact ih _ (hh.2 _) hc
  | deo port v next ih =>
    simp only [calls, List.mem_cons, Prod.mk.injEq] at hc
    rcases hc with ⟨rfl, -⟩ | hc
    · exact hh.1
    · split at hc
      · simp at hc
      · exact ih hh.2 hc
  | run start next ih =>
    simp only [calls, List.mem_cons, Prod.mk.injEq] at hc
    rcases hc with ⟨rfl, -⟩ | hc
    · exact hh.1
    · split at hc
      · simp at hc
      · exact ih _ (hh.2 _) hc

/-! ## Instructions -/

def onCore (f : Core → α × Core) : Handler α :=
  .inspect fun b => .update (fun b => { b with core := (f b.core).2 }) (.done (f b.core).1)

def give (op : Opcode) (v : UInt16) : Handler Unit :=
  onCore fun c => ((), { c with stackPair := c.stackPair.modify op.stack (op.give · v) })

def input (op : Opcode) : Handler Unit :=
  (onCore op.takePort).bind fun port => .dei port fun high =>
    if op.short then .dei (port + 1) fun low => give op (word high low) else give op high.toUInt16

def output (op : Opcode) : Handler Unit :=
  (onCore op.takePortAndValue).bind fun (port, v) =>
    if op.short then .deo port (highByte v) (.deo (port + 1) (lowByte v) (.done ()))
    else .deo port (lowByte v) (.done ())

/-- The instruction at `pc`. The result is the address of the next one, none after a halt. -/
def instruction (pc : UInt16) : Handler (Option UInt16) :=
  .inspect fun b =>
    let byte := b.core.memory.read pc
    let op := Opcode.decode byte
    .update (·.note (.executed pc byte)) <|
      match op.base with
      | .immediate => onCore (op.executeImmediate (pc + 1))
      | .dei => (input op).bind fun _ => .done (some (pc + 1))
      | .deo => (output op).bind fun _ => .done (some (pc + 1))
      | _ => (onCore (op.execute (pc + 1))).bind fun next => .done (some next)

/-- The program at `pc`, as far as a budget of instructions reaches. -/
def program : (budget : Nat) → UInt16 → Handler (Option UInt16)
  | 0, pc => .done (some pc)
  | budget + 1, pc => (instruction pc).bind fun next =>
    match next with
    | none => .done none
    | some pc => program budget pc

theorem follow_onCore (f : Core → α × Core) (m : Machine) :
    (onCore f).follow io m = some (m.onCore f) := rfl

theorem follow_input (op : Opcode) (m : Machine) :
    (input op).follow io m = (m.input io op).map ((), ·) := by
  rw [input, follow_bind, follow_onCore, Machine.input]
  simp only [Option.bind_some, follow]
  cases io.dei (m.onCore op.takePort).1 (m.onCore op.takePort).2 with
  | none => rfl
  | some r =>
    dsimp only
    cases op.short with
    | false => rfl
    | true =>
      simp only [if_true, follow]
      cases io.dei ((m.onCore op.takePort).1 + 1) r.2 <;> rfl

theorem follow_output (op : Opcode) (m : Machine) :
    (output op).follow io m = (m.output io op).map ((), ·) := by
  rw [output, follow_bind, follow_onCore, Machine.output]
  generalize m.onCore op.takePortAndValue = r
  rcases r with ⟨⟨port, v⟩, m⟩
  dsimp only [Option.bind_some]
  cases op.short with
  | false =>
    simp only [Bool.false_eq_true, if_false, follow]
    cases io.deo port (lowByte v) m <;> rfl
  | true =>
    simp only [if_true, follow]
    cases io.deo port (highByte v) m with
    | none => rfl
    | some m =>
      dsimp only
      cases io.deo (port + 1) (lowByte v) m <;> rfl

theorem follow_instruction (pc : UInt16) (m : Machine) :
    (instruction pc).follow io m = m.step io pc := by
  simp only [instruction, follow, Machine.step]
  generalize Opcode.decode (m.board.core.memory.read pc) = op
  cases hb : op.base
  case dei =>
    simp only [follow_bind, follow_input]
    exact Option.bind_map.trans Option.map_eq_bind.symm
  case deo =>
    simp only [follow_bind, follow_output]
    exact Option.bind_map.trans Option.map_eq_bind.symm
  all_goals rfl

theorem follow_program (budget : Nat) (pc : UInt16) (m : Machine) :
    (program budget pc).follow io m = Machine.steps io budget pc m := by
  induction budget generalizing pc m with
  | zero => rfl
  | succ budget ih =>
    rw [program, follow_bind, follow_instruction, Machine.steps]
    cases m.step io pc with
    | none => rfl
    | some r =>
      rcases r with ⟨_ | pc', m'⟩
      · rfl
      · exact ih pc' m'

theorem calling_instruction (pc : UInt16) : (instruction pc).Calling Call.IsPort := by
  intro b
  dsimp only [Calling]
  split
  · exact fun _ => trivial
  · refine Calling.bind ?_ fun _ => trivial
    refine Calling.bind (fun _ => trivial) fun port => ⟨trivial, fun high => ?_⟩
    split
    · exact ⟨trivial, fun low _ => trivial⟩
    · exact fun _ => trivial
  · refine Calling.bind ?_ fun _ => trivial
    refine Calling.bind (fun _ => trivial) fun operands => ?_
    dsimp only
    split
    · exact ⟨trivial, trivial, trivial⟩
    · exact ⟨trivial, trivial⟩
  · exact Calling.bind (fun _ => trivial) fun _ => trivial

theorem calling_program (budget : Nat) (pc : UInt16) : (program budget pc).Calling Call.IsPort := by
  induction budget generalizing pc with
  | zero => trivial
  | succ budget ih =>
    refine (calling_instruction pc).bind fun next => ?_
    cases next with
    | none => trivial
    | some pc => exact ih pc

end Handler

end FantasyConsole
