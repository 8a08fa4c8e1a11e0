import FantasyConsole.Proofs.PageStream

/-!
# Accesses to a standard machine

What one access to a port does on a standard machine, whatever answers the calls of
handlers. It always returns, since no standard device makes calls. A read changes the
board only. A write reaches the device behind its port and no other one, and of the
stacks it changes a pointer at most.
-/
namespace FantasyConsole

namespace Device

def pointerPort : StackId → UInt8
  | .working => workingPort
  | .ret => returnPort

theorem stackAt_pointerPort (id : StackId) : stackAt (pointerPort id) = some id := by
  cases id <;> rfl

theorem stackAt_eq_some_iff {port : UInt8} {id : StackId} :
    stackAt port = some id ↔ port = pointerPort id := by
  constructor
  · intro h
    rw [stackAt] at h
    split_ifs at h with hw hr <;> cases h
    · exact hw
    · exact hr
  · rintro rfl
    exact stackAt_pointerPort id

end Device

namespace StackPair

/-- The stacks after a byte went to a port: it is the new pointer of the stack that the port shows,
if any. -/
def pointed (pair : StackPair) (port v : UInt8) : StackPair :=
  match Device.stackAt port with
  | some id => pair.modify id (·.setPtr v)
  | none => pair

variable (pair : StackPair) (port v : UInt8) (id : StackId)

theorem cells_pointed : ((pair.pointed port v).get id).cells = (pair.get id).cells := by
  rw [pointed]
  cases Device.stackAt port with
  | none => rfl
  | some shown => cases shown <;> cases id <;> rfl

theorem ptr_pointed : ((pair.pointed port v).get id).ptr = if port = Device.pointerPort id then v
    else (pair.get id).ptr := by
  rw [pointed]
  cases h : Device.stackAt port with
  | none => rw [if_neg fun he => Option.some_ne_none id (Device.stackAt_eq_some_iff.2 he ▸ h)]
  | some shown =>
    rw [Device.stackAt_eq_some_iff] at h
    subst h
    cases shown <;> cases id <;> rfl

end StackPair

def Board.SparesStacks (f : Board → Board) : Prop := ∀ b, (f b).core.stackPair = b.core.stackPair

theorem Board.OnlyLoads.sparesStacks {f : Board → Board} (h : OnlyLoads f) :
    Board.SparesStacks f := by
  intro b
  obtain ⟨memory, journal, hf⟩ := h b
  rw [hf]

namespace Device

variable {d : Device} {port : UInt8}

theorem IsBuiltIn.same_onRead (h : d.IsBuiltIn) (port : UInt8) :
    (d.onRead port).Holds Handler.AnyChange fun r => r.2 = d := by
  cases d with
  | stackPointers =>
    unfold onRead
    dsimp only
    split <;> exact fun _ => rfl
  | metadata | pager p => exact fun _ => rfl
  | controller c => exact ⟨trivial, rfl⟩
  | debug c => exact rfl
  | scripted s => exact h.elim

theorem IsBuiltIn.sparesStacks_onWrite (h : d.IsBuiltIn) (hp : stackAt port = none) :
    (d.onWrite port).Holds Board.SparesStacks fun _ => True := by
  cases d with
  | stackPointers =>
    rw [onWrite]
    dsimp only
    rw [hp]
    trivial
  | metadata => trivial
  | pager p =>
    exact (((p.onlyLoads_onWrite port).mono_change fun _ h => h.sparesStacks).mono fun _ _ =>
      trivial).bind
  | controller c => exact fun _ => ⟨fun _ => rfl, trivial⟩
  | debug c =>
    exact (((c.onlyReports_onWrite port).mono_change fun _ h => h.onlyLoads.sparesStacks).mono
      fun _ _ => trivial).bind
  | scripted s => exact h.elim

end Device

namespace Machine

variable {m n : Machine} {port v : UInt8}

theorem SameSetup.symm (h : SameSetup m n) : SameSetup n m :=
  ⟨h.layout.symm, h.config.symm, h.controller.symm⟩

theorem sameSetup_load (m : Machine) (offset : UInt16) (bytes : Array UInt8) :
    SameSetup m (m.load offset bytes) :=
  ⟨rfl, rfl, rfl⟩

theorem sameSetup_withPair (m : Machine) (pair : StackPair) : SameSetup m (m.withPair pair) :=
  ⟨rfl, rfl, rfl⟩

theorem sameAround_fetched (m : Machine) (port : UInt8) : SameAround m (m.fetched port).2 := by
  unfold fetched
  split <;> exact ⟨_, rfl⟩

theorem back_away {id : Nat} {d : Device} (h : m.bus.deviceAt? id = some d) (board : Board) :
    ({ m.away id with board } : Machine).back id d = { m with board } := by
  have hbus : (m.bus.setDevice id none).setDevice id (some d) = m.bus :=
    Bus.setDevice_setDevice_of_deviceAt? h
  exact congrArg (fun bus => { m with board, bus }) hbus

/-! ## What stands behind the ports -/

variable {config : Config} {filter : LogFilter} {image : Array UInt8} {input : Option (List UInt8)}

theorem SameSetup.isBuiltIn (hs : SameSetup (standard config filter image input) m)
    {id : Nat} {d : Device} (hd : m.bus.deviceAt? id = some d) : d.IsBuiltIn := by
  obtain ⟨e, he, hf⟩ := hs.exists_device hd
  rw [deviceAt?_standard] at he
  refine Device.IsBuiltIn.of_fresh ?_ hf.symm
  rcases id with _ | _ | _ | _ | _ | id <;> simp [standardDevices] at he <;> subst he <;> trivial

theorem SameSetup.stackDevice (hs : SameSetup (standard config filter image input) m) :
    m.bus.deviceAt? 0 = some .stackPointers := by
  have hd : (standard config filter image input).bus.deviceAt? 0 = some .stackPointers :=
    deviceAt?_standard ..
  obtain ⟨d, hd, hf⟩ := hs.symm.exists_device hd
  cases d <;> simp [Device.fresh] at hf
  exact hd

theorem SameSetup.readRoute_pointerPort (hs : SameSetup (standard config filter image input) m)
    (id : StackId) :
    m.bus.readRoute (Device.pointerPort id) = some (.device 0) := by
  rw [hs.readRoute, readRoute_standard]
  cases id <;> rfl

theorem SameSetup.writeRoute_pointerPort (hs : SameSetup (standard config filter image input) m)
    (id : StackId) :
    m.bus.writeRoute (Device.pointerPort id) = some (.device 0) := by
  rw [hs.writeRoute, writeRoute_standard]
  cases id <;> rfl

/-! ## Reads -/

theorem SameSetup.exists_deiWith (hs : SameSetup (standard config filter image input) m)
    (inner : Access)
    (port : UInt8) : ∃ v n, m.deiWith inner port = some (v, n) ∧ SameAround m n := by
  rcases m.bus.noDeviceReads_or port with h | ⟨id, d, hr, hd⟩
  · exact ⟨_, _, deiWith_eq_fetched h inner, m.sameAround_fetched port⟩
  · have hb := hs.isBuiltIn hd
    obtain ⟨⟨v, e⟩, n, hf, he, board, hn⟩ :=
      Handler.exists_follow (hb.calling_onRead port _) (hb.same_onRead port)
      SameAround.refl SameAround.trans (fun f _ a => ⟨f a.board, rfl⟩) inner (m.away id)
    dsimp only at he
    subst he hn
    refine ⟨v, { m with board }, ?_, board, rfl⟩
    rw [deiWith_of_device hr hd, hf]
    exact congrArg (fun n => some (v, n)) (back_away hd board)

theorem SameSetup.deiWith_pointerPort (hs : SameSetup (standard config filter image input) m)
    (inner : Access)
    (id : StackId) : m.deiWith inner (Device.pointerPort id) = some ((m.stack id).ptr, m) := by
  have hf : (Device.stackPointers.onRead (Device.pointerPort id)).follow inner (m.away 0) =
      some (((m.stack id).ptr, .stackPointers), m.away 0) := by
    cases id <;> rfl
  rw [deiWith_of_device (hs.readRoute_pointerPort id) hs.stackDevice, hf]
  exact congrArg (fun n => some ((m.stack id).ptr, n)) (back_away hs.stackDevice m.board)

/-- The byte that a port shows: the pointer of a stack, or what is stored. -/
def shown (m : Machine) (port : UInt8) : UInt8 :=
  match Device.stackAt port with
  | some id => (m.stack id).ptr
  | none => m.board.ports.get port

theorem shown_pointerPort (m : Machine) (id : StackId) :
    m.shown (Device.pointerPort id) = (m.stack id).ptr := by
  rw [shown, Device.stackAt_pointerPort]

theorem SameSetup.deiWith_eq_shown (hs : SameSetup (standard config filter image input) m)
    (inner : Access) (h : m.bus.readRoute port = none ∨ ∃ id, port = Device.pointerPort id) :
    m.deiWith inner port = some (m.shown port, m) := by
  rcases h with h | ⟨id, rfl⟩
  · have hport : Device.stackAt port = none := by
      refine Option.eq_none_iff_forall_ne_some.2 fun id hid => ?_
      rw [Device.stackAt_eq_some_iff.1 hid, hs.readRoute_pointerPort] at h
      exact Option.some_ne_none _ h
    rw [shown, hport, deiWith, h]
  · rw [shown_pointerPort]
    exact hs.deiWith_pointerPort inner id

/-! ## Writes -/

theorem SameSetup.deoWith_pointerPort (hs : SameSetup (standard config filter image input) m)
    (inner : Access) (id : StackId) (v : UInt8) : m.deoWith inner (Device.pointerPort id) v =
      some ({ m with board := m.board.setPort (Device.pointerPort id) v }.withPair
        (m.board.core.stackPair.modify id (·.setPtr v))) := by
  let stored : Machine := { m with board := m.board.setPort (Device.pointerPort id) v }
  have hbyte : stored.board.ports.get (Device.pointerPort id) = v := by
    change (m.board.ports.set (Device.pointerPort id) v).get (Device.pointerPort id) = v
    rw [Ports.get_set, if_pos rfl]
  have hf : (Device.stackPointers.onWrite (Device.pointerPort id)).follow inner (stored.away 0) =
      some (.stackPointers, (stored.away 0).withPair (m.board.core.stackPair.modify id
        (·.setPtr (stored.board.ports.get (Device.pointerPort id))))) := by
    cases id <;> rfl
  rw [deoWith_of_device (hs.writeRoute_pointerPort id) hs.stackDevice, hf, hbyte]
  exact congrArg some (back_away (m := stored) hs.stackDevice _)

/-- A write returns. It leaves the setup, the stacks but for a pointer that the port shows, and
every device but the one behind the port. -/
theorem SameSetup.exists_deoWith (hs : SameSetup (standard config filter image input) m)
    (inner : Access) (port v : UInt8) : ∃ n, m.deoWith inner port v = some n ∧ SameSetup m n ∧
      n.board.core.stackPair = m.board.core.stackPair.pointed port v ∧
      ∀ id, m.bus.writeRoute port ≠ some (.device id) →
        n.bus.deviceAt? id = m.bus.deviceAt? id := by
  suffices h : ∃ n, m.deoWith inner port v = some n ∧
      n.board.core.stackPair = m.board.core.stackPair.pointed port v ∧
      ∀ id, m.bus.writeRoute port ≠ some (.device id) → n.bus.deviceAt? id = m.bus.deviceAt? id by
    obtain ⟨n, hn, hpair, hothers⟩ := h
    have hcongr : m.deoWith inner port v = m.deoWith .refused port v :=
      deoWith_congr fun id d _ hd => Handler.follow_congr fun p hp =>
        (((hs.isBuiltIn hd).calling_onWrite port fun _ => False).of_mem_calls hp).elim
    exact ⟨n, hn, kept_sameSetup.deoWith (Access.keeps_refused SameSetup) (hcongr ▸ hn),
      hpair, hothers⟩
  cases hport : Device.stackAt port with
  | some id =>
    obtain rfl := Device.stackAt_eq_some_iff.1 hport
    refine ⟨_, hs.deoWith_pointerPort inner id v, ?_, fun _ _ => rfl⟩
    rw [StackPair.pointed, hport]
    rfl
  | none =>
    have hpair : m.board.core.stackPair.pointed port v = m.board.core.stackPair := by
      rw [StackPair.pointed, hport]
    rw [hpair]
    rcases m.bus.noDeviceWrites_or port with h | ⟨id, d, hr, hd⟩
    · exact ⟨_, deoWith_eq_stored h inner v, congrArg Core.stackPair (core_stored m port v),
        fun id _ => congrArg (·.deviceAt? id) (bus_stored m port v)⟩
    · have hb := hs.isBuiltIn hd
      let stored : Machine := { m with board := m.board.setPort port v }
      obtain ⟨e, n, hf, -, hpair, hbus⟩ := Handler.exists_follow (hb.calling_onWrite port _)
        (hb.sparesStacks_onWrite hport)
        (R := fun a b => b.board.core.stackPair = a.board.core.stackPair ∧ b.bus = a.bus)
        (fun _ => ⟨rfl, rfl⟩)
        (fun h h' => ⟨h'.1.trans h.1, h'.2.trans h.2⟩) (fun f hf a => ⟨hf a.board, rfl⟩) inner
        (stored.away id)
      refine ⟨n.back id e, ?_, hpair, fun j hj => ?_⟩
      · rw [deoWith_of_device hr hd, hf]
        rfl
      · have hne : id ≠ j := fun he => hj (he ▸ hr)
        change (n.bus.setDevice id (some e)).deviceAt? j = m.bus.deviceAt? j
        rw [Bus.deviceAt?_setDevice_of_ne _ hne, hbus]
        exact Bus.deviceAt?_setDevice_of_ne m.bus hne none

end Machine

end FantasyConsole
